/-
# `DevConsole.Proofs.Lexing.Numerals` — the parts of a number

A number is cut off the text from left to right: digits, a point with digits after it, a letter that
says of which kind the number is.  `Numeral` says which triples can come out of that, and the two
directions are `Numeral.number_eq_ok`, every such triple is read as a number before what does not go
on with it, and `exists_numeral`, nothing else is read as one.

What may follow is a condition on two characters at most: no part of a name, and no point that a
digit follows.  So a member can be taken of a number (`5.abs`), and `5.5` is one number.
-/
import DevConsole.Proofs.Lexing.Tokens

namespace DevConsole

namespace Decimal

/-- The digits are the characters of the numbers below ten. -/
theorem exists_digitChar {c : Char} (h : c.isDigit = true) : ∃ n < 10, c = digitChar n := by
  have hbounds : 48 ≤ c.toNat ∧ c.toNat ≤ 57 := Char.isDigit_iff_toNat.1 h
  refine ⟨c.toNat - 48, by omega, ?_⟩
  rw [digitChar, show 48 + (c.toNat - 48) = c.toNat by omega, Char.ofNat_toNat]

end Decimal

namespace Lexer

/-- The digits of a number after its first character, its fraction with the point, and its letter;
a fraction needs the letter. -/
structure Numeral (whole fraction letter : List Char) : Prop where
  whole_digits : ∀ d ∈ whole, d.isDigit = true
  fraction_digits : fraction = [] ∨
    ∃ d ds, fraction = '.' :: d :: ds ∧ ∀ b ∈ d :: ds, b.isDigit = true
  letter_suffix : letter = [] ∨ ∃ s, letter = [s] ∧ (suffix? [s]).isSome = true
  suffixed : letter = [] → fraction = []

theorem stopsAt_iff {p : Char → Bool} {cs : List Char} :
    StopsAt p cs ↔ (cs.head?.map p).getD false = false := by
  cases cs <;> simp

/-- A digit may stand in a name. -/
theorem isNameChar_of_isDigit {c : Char} (h : c.isDigit = true) : Scan.isNameChar c = true := by
  have hc : c.toNat < 0x80 := by
    have hle : c.toNat ≤ 57 := (Char.isDigit_iff_toNat.1 h).2
    omega
  simp [Scan.isNameChar, Text.isAlphanumeric, Text.isNumeric, hc, h]

/-- What a digit is not. -/
theorem classes_digitChar : ∀ n < 10, Text.isBlank (Decimal.digitChar n) = false ∧
    Scan.isNameStart (Decimal.digitChar n) = false := by
  decide

theorem classes_of_isDigit {c : Char} (h : c.isDigit = true) :
    Text.isBlank c = false ∧ Scan.isNameStart c = false := by
  obtain ⟨n, hn, rfl⟩ := Decimal.exists_digitChar h
  exact classes_digitChar n hn

/-- What can follow a name or a number without going on with it. -/
structure Breaks (rest : List Char) : Prop where
  name : StopsAt Scan.isNameChar rest
  point : fractionPart rest = []

/-! ## The letter -/

/-- The letters that are a suffix are parts of names, and neither digits nor points. -/
theorem classes_suffix {s : Char} (h : (suffix? [s]).isSome = true) :
    Scan.isNameChar s = true ∧ s.isDigit = false ∧ s ≠ '.' := by
  have hs : s = 'f' ∨ s = 'F' ∨ s = 'd' ∨ s = 'D' := by
    simp only [suffix?, Bool.or_eq_true, decide_eq_true_eq] at h
    split at h
    · rename_i hsingle
      exact hsingle.elim .inl fun hF => .inr (.inl hF)
    · split at h
      · rename_i hdouble
        exact .inr (.inr hdouble)
      · cases h
  rcases hs with rfl | rfl | rfl | rfl <;> decide

theorem suffix?_cons (s : Char) (cs : List Char) : suffix? (s :: cs) = suffix? [s] := rfl

/-- Where no name goes on there is no suffix. -/
theorem suffix?_of_stopsAt {cs : List Char} (h : StopsAt Scan.isNameChar cs) :
    suffix? cs = none := by
  rcases cs with _ | ⟨c, cs⟩
  · rfl
  · refine Option.not_isSome_iff_eq_none.1 ?_
    intro hsome
    rw [suffix?_cons] at hsome
    rw [stopsAt_cons, (classes_suffix hsome).1] at h
    cases h

/-- The suffix of a text is a letter cut off it, or there is none. -/
theorem exists_suffix (cs : List Char) : ∃ letter rest, cs = letter ++ rest ∧
    suffix? cs = suffix? letter ∧
    (letter = [] ∨ ∃ s, letter = [s] ∧ (suffix? [s]).isSome = true) := by
  by_cases hsome : (suffix? cs).isSome = true
  · rcases cs with _ | ⟨s, cs⟩
    · cases hsome
    · exact ⟨[s], cs, rfl, rfl, .inr ⟨s, rfl, hsome⟩⟩
  · exact ⟨[], cs, rfl, Option.not_isSome_iff_eq_none.1 hsome, .inl rfl⟩

theorem length_letter {letter : List Char}
    (h : letter = [] ∨ ∃ s, letter = [s] ∧ (suffix? [s]).isSome = true) :
    (if (suffix? letter).isSome then 1 else 0) = letter.length := by
  rcases h with rfl | ⟨s, rfl, hs⟩
  · rfl
  · rw [if_pos hs, List.length_singleton]

/-! ## The fraction -/

theorem fractionPart_point {d : Char} {ds rest : List Char}
    (hdigits : ∀ b ∈ d :: ds, b.isDigit = true) (hrest : StopsAt Char.isDigit rest) :
    fractionPart ('.' :: (d :: ds ++ rest)) = '.' :: d :: ds := by
  have hnext : digitNext (d :: ds ++ rest) = true := hdigits d List.mem_cons_self
  rw [fractionPart, if_pos hnext, takeWhile_run hdigits hrest]

/-- The fraction of a text is cut off it, and is a point with digits after it or nothing. -/
theorem exists_fraction (cs : List Char) : ∃ fraction rest, cs = fraction ++ rest ∧
    fractionPart cs = fraction ∧
    (fraction = [] ∨ ∃ d ds, fraction = '.' :: d :: ds ∧ ∀ b ∈ d :: ds, b.isDigit = true) := by
  fun_cases fractionPart cs with
  | case1 ds hnext =>
      rcases ds with _ | ⟨d, ds⟩
      · cases hnext
      · have hhead : d.isDigit = true := hnext
        have htake : (d :: ds).takeWhile Char.isDigit = d :: ds.takeWhile Char.isDigit :=
          List.takeWhile_cons_of_pos hhead
        refine ⟨_, (d :: ds).dropWhile Char.isDigit, ?_, rfl,
          .inr ⟨d, ds.takeWhile Char.isDigit, ?_, ?_⟩⟩
        · rw [List.cons_append, List.takeWhile_append_dropWhile]
        · rw [htake]
        · rw [← htake]
          exact List.all_eq_true.1 List.all_takeWhile
  | case2 ds hnext => exact ⟨[], '.' :: ds, rfl, rfl, .inl rfl⟩
  | case3 => exact ⟨[], cs, rfl, rfl, .inl rfl⟩

/-! ## The number -/

section Number

variable {pos : Nat} {c : Char} {whole fraction letter rest : List Char}

/-- After its digits, a number does not go on with a digit. -/
theorem Numeral.stopsAt_digit (h : Numeral whole fraction letter)
    (hname : StopsAt Scan.isNameChar rest) :
    StopsAt Char.isDigit (fraction ++ (letter ++ rest)) := by
  rcases h.fraction_digits with rfl | ⟨d, ds, rfl, -⟩
  · rcases h.letter_suffix with rfl | ⟨s, rfl, hs⟩
    · exact hname.mono fun d => isNameChar_of_isDigit
    · exact (stopsAt_cons _ _ _).2 (classes_suffix hs).2.1
  · exact (stopsAt_cons _ _ _).2 rfl

/-- The fraction is read back as far as it goes. -/
theorem Numeral.fractionPart_eq (h : Numeral whole fraction letter)
    (hpoint : fractionPart rest = []) :
    fractionPart (fraction ++ (letter ++ rest)) = fraction := by
  rcases h.letter_suffix with hletter | ⟨s, rfl, hs⟩
  · rw [h.suffixed hletter, hletter]
    exact hpoint
  · obtain ⟨-, hdigit, hdot⟩ := classes_suffix hs
    rcases h.fraction_digits with rfl | ⟨d, ds, rfl, hds⟩
    · exact fractionPart.eq_2 _ fun cs hcs => hdot (List.cons.inj hcs).1
    · exact fractionPart_point hds ((stopsAt_cons _ _ _).2 hdigit)

/-- The suffix is read back. -/
theorem Numeral.suffix?_eq (h : Numeral whole fraction letter)
    (hname : StopsAt Scan.isNameChar rest) : suffix? (letter ++ rest) = suffix? letter := by
  rcases h.letter_suffix with rfl | ⟨s, rfl, -⟩
  · exact suffix?_of_stopsAt hname
  · rfl

/-- No number is refused for a fraction without a letter. -/
theorem Numeral.not_bare (h : Numeral whole fraction letter) :
    ((suffix? letter).isNone && !fraction.isEmpty) = false := by
  rcases h.letter_suffix with hletter | ⟨s, rfl, hs⟩
  · rw [h.suffixed hletter]
    exact Bool.and_false _
  · rw [Option.isNone_eq_false_iff.2 hs, Bool.false_and]

theorem length_parts (whole fraction letter : List Char) :
    whole.length + fraction.length + letter.length = (whole ++ (fraction ++ letter)).length := by
  simp only [List.length_append]
  omega

theorem drop_parts (whole fraction letter rest : List Char) :
    (whole ++ (fraction ++ (letter ++ rest))).drop (whole ++ (fraction ++ letter)).length =
      rest := by
  rw [← length_parts, ← List.drop_drop, ← List.drop_drop, List.drop_left, List.drop_left,
    List.drop_left]

/-- The parts of a number are read as a number, if what follows does not go on with it. -/
theorem Numeral.number_eq_ok {l : Literal} (h : Numeral whole fraction letter)
    (hrest : Breaks rest)
    (hvalue : numberValue? (c :: whole ++ fraction) (suffix? letter) = some l) :
    number pos c (whole ++ (fraction ++ (letter ++ rest))) =
      .ok (.literal l, (whole ++ (fraction ++ letter)).length) := by
  have hdigits := h.stopsAt_digit hrest.name
  simp only [number, takeWhile_run h.whole_digits hdigits, dropWhile_run h.whole_digits hdigits,
    h.fractionPart_eq hrest.point, List.drop_left, h.suffix?_eq hrest.name, h.not_bare,
    length_letter h.letter_suffix, length_parts, drop_parts, stopsAt_iff.1 hrest.name, hvalue]
  rfl

/-- What is read as a number has the parts of one. -/
theorem exists_numeral {cs : List Char} {k : TokenKind} {extra : Nat}
    (h : number pos c cs = .ok (k, extra)) :
    ∃ whole fraction letter rest l, cs = whole ++ (fraction ++ (letter ++ rest)) ∧
      Numeral whole fraction letter ∧ StopsAt Scan.isNameChar rest ∧
      numberValue? (c :: whole ++ fraction) (suffix? letter) = some l ∧
      k = .literal l ∧ extra = (whole ++ (fraction ++ letter)).length := by
  obtain ⟨fraction, tail, htail, hpart, hfraction⟩ := exists_fraction (cs.dropWhile Char.isDigit)
  obtain ⟨letter, rest, rfl, hsuffix, hletter⟩ := exists_suffix tail
  have hcs : cs = cs.takeWhile Char.isDigit ++ (fraction ++ (letter ++ rest)) := by
    rw [← htail, List.takeWhile_append_dropWhile]
  have hwhole : ∀ d ∈ cs.takeWhile Char.isDigit, d.isDigit = true :=
    List.all_eq_true.1 List.all_takeWhile
  rw [htail] at hpart
  simp only [number, htail, hpart, List.drop_left, hsuffix, length_letter hletter] at h
  generalize cs.takeWhile Char.isDigit = whole at h hcs hwhole
  subst hcs
  rw [length_parts, drop_parts] at h
  split at h
  · cases h
  · rename_i hbare
    have hsuffixed : letter = [] → fraction = [] := by
      rintro rfl
      simpa [suffix?] using hbare
    split at h
    · cases h
    · rename_i hgap
      split at h
      · rename_i l hvalue
        obtain ⟨rfl, rfl⟩ := Prod.mk.inj (Except.ok.inj h)
        exact ⟨whole, fraction, letter, rest, l, rfl, ⟨hwhole, hfraction, hletter, hsuffixed⟩,
          stopsAt_iff.2 (Bool.eq_false_iff.2 hgap), hvalue, rfl, rfl⟩
      · cases h

theorem digitNext_of_stopsAt {cs : List Char} (h : StopsAt Char.isDigit cs) :
    digitNext cs = false := by
  rcases cs with _ | ⟨d, cs⟩
  · rfl
  · exact (stopsAt_cons _ _ _).1 h

/-- Whether a digit comes next in a number that is cut off a text. -/
theorem digitNext_append {tail : List Char} (htail : StopsAt Char.isDigit tail) :
    digitNext (whole ++ tail) = digitNext whole := by
  rcases whole with _ | ⟨d, whole⟩
  · exact digitNext_of_stopsAt htail
  · rfl

/-- A number in a line: its first character is a digit, or a minus sign that stands before a digit
where a sign is admitted. -/
theorem Lexes.numeral {last : Option TokenKind} {l : Literal} {ks : List TokenKind}
    (hsign : (c.isDigit ||
      (c = '-' && digitNext whole && (last.map TokenKind.admitsSign).getD true)) = true)
    (hparts : Numeral whole fraction letter)
    (hvalue : numberValue? (c :: whole ++ fraction) (suffix? letter) = some l)
    (hrest : Breaks rest) (h : Lexes (some (.literal l)) rest ks) :
    Lexes last (c :: (whole ++ (fraction ++ letter) ++ rest)) (.literal l :: ks) := by
  have hclasses : Text.isBlank c = false ∧ Scan.isNameStart c = false := by
    rcases Bool.or_eq_true_iff.1 hsign with hdigit | hminus
    · exact classes_of_isDigit hdigit
    · simp only [Bool.and_eq_true, decide_eq_true_eq] at hminus
      obtain ⟨⟨rfl, -⟩, -⟩ := hminus
      decide
  refine .token hclasses.1 (fun pos => ?_) h
  rw [← digitNext_append (hparts.stopsAt_digit hrest.name)] at hsign
  rw [List.append_assoc, List.append_assoc, lexeme, if_neg (by rw [hclasses.2]; decide),
    if_pos hsign]
  exact hparts.number_eq_ok hrest hvalue

end Number

end Lexer

end DevConsole
