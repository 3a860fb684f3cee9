/-
# `DevConsole.Proofs.Lexing.Integers` — integers and operators in a line

Two things decide how a run of integers and operators is cut into tokens, and both look one character
around the lexeme:

* a number ends where no character follows that would go on with it, a digit, a point, a suffix or a
  part of a name (`numberGoesOn`); blanks and operators do not, whatever script the blank is from;
* a minus sign before a digit belongs to the number unless a number came before it.

So what a machine integer is written as is read back as one token after any operator
(`Lexes.integer`), and an operator is read back as itself where no sign is admitted, before a digit,
a minus sign or a blank (`Lexes.symbol`): the second character of a symbol that has two is none of
these.
-/
import DevConsole.Proofs.Lexing.Numerals

namespace DevConsole

/-! ## Character classes -/

/-- No range of the one list meets a range of the other. -/
def apart (rs qs : List (Nat × Nat)) : Bool :=
  rs.all fun r => qs.all fun q => r.2 < q.1 || q.2 < r.1

theorem inRanges_of_apart {rs qs : List (Nat × Nat)} (h : apart rs qs = true) {n : Nat}
    (hn : inRanges rs n = true) : inRanges qs n = false := by
  obtain ⟨r, hr, hrn⟩ := List.any_eq_true.1 hn
  refine Bool.eq_false_iff.2 ?_
  intro hq
  obtain ⟨q, hq, hqn⟩ := List.any_eq_true.1 hq
  have hrq := List.all_eq_true.1 (List.all_eq_true.1 h r hr) q hq
  simp only [Bool.and_eq_true, Bool.or_eq_true, decide_eq_true_eq] at hrn hqn hrq
  omega

namespace Text

theorem apart_blank_alphabetic : apart blankRanges Unicode.alphabeticRanges = true := by
  decide +kernel

theorem apart_blank_numeric : apart blankRanges Unicode.numericRanges = true := by
  decide +kernel

/-- The ASCII blanks are among the characters up to the space. -/
theorem toNat_lt_of_isBlank {c : Char} (hc : c.toNat < 0x80) (h : isBlank c = true) :
    c.toNat < 33 := by
  rw [isBlank, if_pos hc, Bool.or_eq_true, Bool.and_eq_true, beq_iff_eq] at h
  rcases h with ⟨-, h⟩ | rfl
  · have := of_decide_eq_true h
    omega
  · decide

theorem isNameChar_ofNat : ∀ n < 33, Scan.isNameChar (Char.ofNat n) = false := by
  decide

/-- No blank is part of a name. -/
theorem isNameChar_of_isBlank {c : Char} (h : isBlank c = true) : Scan.isNameChar c = false := by
  by_cases hc : c.toNat < 0x80
  · have hname := isNameChar_ofNat c.toNat (toNat_lt_of_isBlank hc h)
    rwa [Char.ofNat_toNat] at hname
  · have hunder : (c == '_') = false := by
      refine Bool.eq_false_iff.2 ?_
      intro heq
      rw [beq_iff_eq.1 heq] at hc
      exact hc (by decide)
    -- beyond ASCII a table decides each class, and these tables do not meet
    rw [isBlank, if_neg hc] at h
    rw [Scan.isNameChar, hunder, isAlphanumeric, isAlphabetic, isNumeric, if_neg hc, if_neg hc,
      inRanges_of_apart apart_blank_alphabetic h, inRanges_of_apart apart_blank_numeric h]
    rfl

/-- A name starts with no blank. -/
theorem isBlank_of_isNameStart {c : Char} (h : Scan.isNameStart c = true) : isBlank c = false := by
  refine Bool.eq_false_iff.2 ?_
  intro hblank
  have hname := isNameChar_of_isBlank hblank
  rw [Scan.isNameChar, Bool.or_eq_false_iff] at hname
  rcases Bool.or_eq_true_iff.1 h with halpha | hunder
  · rw [isAlphanumeric_of_isAlphabetic halpha] at hname
    cases hname.1
  · rw [hunder] at hname
    cases hname.2

end Text

namespace Decimal

/-- The digits of a number are a first digit and more of them. -/
theorem exists_digits_eq_cons (n : Nat) :
    ∃ k < 10, ∃ ds, digits n = digitChar k :: ds ∧ ds.all Char.isDigit = true := by
  have hall := all_isDigit_digits n
  rcases hds : digits n with _ | ⟨d, ds⟩
  · exact absurd hds (digits_ne_nil n)
  · rw [hds, List.all_cons, Bool.and_eq_true] at hall
    obtain ⟨k, hk, rfl⟩ := exists_digitChar hall.1
    exact ⟨k, hk, ds, rfl, hall.2⟩

/-! ## What a machine integer is written as reads back -/

/-- The digits of a number start with a digit. -/
theorem digits_ne_cons {n : Nat} {c : Char} (hc : c.isDigit = false) (ds : List Char) :
    digits n ≠ c :: ds := by
  intro h
  have hall := all_isDigit_digits n
  rw [h, List.all_cons, hc] at hall
  cases hall

theorem isEmpty_digits (n : Nat) : (digits n).isEmpty = false := by
  rw [List.isEmpty_eq_false_iff]
  exact digits_ne_nil n

theorem readNat_digits (n : Nat) : readNat (digits n) = some n := by
  rw [readNat.eq_2 _ (digits_ne_cons rfl), isEmpty_digits, all_isDigit_digits, ofDigits_digits]
  rfl

theorem readInt_ofInt (i : Int) : readInt (ofInt i) = some i := by
  by_cases h : i < 0
  · rw [ofInt, if_pos h, readInt, isEmpty_digits, all_isDigit_digits, ofDigits_digits]
    show some (-(i.natAbs : Int)) = some i
    congr 1
    omega
  · rw [ofInt, if_neg h, readInt.eq_2 _ (digits_ne_cons rfl), readNat_digits]
    show some (i.natAbs : Int) = some i
    congr 1
    omega

theorem readIntOfWidth_ofInt {bits : Nat} {i : Int} (hge : -(Nat.pow 2 (bits - 1) : Int) ≤ i)
    (hlt : i < Nat.pow 2 (bits - 1)) : readIntOfWidth bits (ofInt i) = some i := by
  have hrange : (decide (-(Nat.pow 2 (bits - 1) : Int) ≤ i) &&
      decide (i < Nat.pow 2 (bits - 1))) = true :=
    Bool.and_eq_true_iff.2 ⟨decide_eq_true hge, decide_eq_true hlt⟩
  rw [readIntOfWidth, readInt_ofInt, Option.filter_some, if_pos hrange]

theorem read_ofInt (i : Int64) : read (ofInt i.toInt) = some i := by
  rw [read, readIntOfWidth_ofInt i.le_toInt i.toInt_lt]
  show some (Int64.ofInt i.toInt) = some i
  rw [Int64.ofInt_toInt]

/-! ## What an integer is read from -/

/-- A number is read from digits, perhaps behind a plus sign. -/
theorem isDigit_of_readNat {cs : List Char} {n : Nat} (h : readNat cs = some n) :
    ∀ c ∈ cs, c.isDigit = true ∨ c = '+' := by
  have hdigits : ∀ {ds : List Char},
      (if !ds.isEmpty && ds.all Char.isDigit then some (ofDigits ds) else none) = some n →
        ∀ c ∈ ds, c.isDigit = true := by
    intro ds hds
    obtain ⟨hall, -⟩ := Option.ite_none_right_eq_some.1 hds
    exact List.all_eq_true.1 (Bool.and_eq_true_iff.1 hall).2
  intro c hc
  simp only [readNat] at h
  split at h
  · rcases List.mem_cons.1 hc with rfl | hc
    · exact .inr rfl
    · exact .inl (hdigits h c hc)
  · exact .inl (hdigits h c hc)

/-- An integer is read from digits, perhaps behind a sign. -/
theorem isDigit_of_readInt {cs : List Char} {i : Int} (h : readInt cs = some i) :
    ∀ c ∈ cs, c.isDigit = true ∨ c = '+' ∨ c = '-' := by
  intro c hc
  unfold readInt at h
  split at h
  · obtain ⟨hall, -⟩ := Option.ite_none_right_eq_some.1 h
    rcases List.mem_cons.1 hc with rfl | hc
    · exact .inr (.inr rfl)
    · exact .inl (List.all_eq_true.1 (Bool.and_eq_true_iff.1 hall).2 c hc)
  · obtain ⟨n, hn, -⟩ := Option.map_eq_some_iff.1 h
    rcases isDigit_of_readNat hn c hc with hc | rfl
    · exact .inl hc
    · exact .inr (.inl rfl)

/-- What is read from a text that starts with a digit is not negative. -/
theorem toInt_read_nonneg {c : Char} (hc : c.isDigit = true) {cs : List Char} {i : Int64}
    (h : read (c :: cs) = some i) : 0 ≤ i.toInt := by
  obtain ⟨x, hx, rfl⟩ := Option.map_eq_some_iff.1 h
  obtain ⟨hx, hrange⟩ := Option.filter_eq_some_iff.1 hx
  have hminus : ∀ ds, c :: cs ≠ '-' :: ds := by
    rintro ds heq
    rw [(List.cons.inj heq).1] at hc
    cases hc
  rw [readInt.eq_2 _ hminus] at hx
  obtain ⟨n, -, rfl⟩ := Option.map_eq_some_iff.1 hx
  simp only [Bool.and_eq_true, decide_eq_true_eq] at hrange
  rw [Int64.toInt_ofInt_of_le hrange.1 hrange.2]
  exact Int.natCast_nonneg n

end Decimal

namespace Lexer

/-! ## Integers -/

/-- The characters that go on with a number. -/
def numberGoesOn (c : Char) : Bool := Scan.isNameChar c || c == '.'

theorem numberGoesOn_of_isBlank {c : Char} (h : Text.isBlank c = true) :
    numberGoesOn c = false := by
  have hdot : (c == '.') = false := by
    refine Bool.eq_false_iff.2 ?_
    intro heq
    rw [beq_iff_eq.1 heq] at h
    cases h
  rw [numberGoesOn, Text.isNameChar_of_isBlank h, hdot]
  rfl

theorem fractionPart_of_stops {cs : List Char} (h : StopsAt numberGoesOn cs) :
    fractionPart cs = [] := by
  rcases cs with _ | ⟨c, cs⟩
  · rfl
  · have hdot : c ≠ '.' := by
      rintro rfl
      cases (stopsAt_cons _ _ _).1 h
    rw [fractionPart]
    rintro ds ⟨rfl, -⟩
    exact hdot rfl

theorem Breaks.of_stops {cs : List Char} (h : StopsAt numberGoesOn cs) : Breaks cs := by
  refine ⟨h.mono fun c hc => ?_, fractionPart_of_stops h⟩
  rw [numberGoesOn, hc]
  rfl

theorem digitNext_digits (n : Nat) : digitNext (Decimal.digits n) = true := by
  obtain ⟨k, hk, ds, hds, -⟩ := Decimal.exists_digits_eq_cons n
  rw [hds]
  exact Decimal.digitChar_isDigit hk

/-- Digits alone are a number without a fraction and a letter. -/
theorem numeral_digits {ds : List Char} (h : ds.all Char.isDigit = true) : Numeral ds [] [] :=
  ⟨List.all_eq_true.1 h, .inl rfl, .inl rfl, fun _ => rfl⟩

theorem numberValue?_int {cs : List Char} {i : Int64} (h : Decimal.read cs = some i) :
    numberValue? (cs ++ []) (suffix? []) = some (.int i) := by
  rw [List.append_nil, suffix?, numberValue?, h]
  rfl

section Pieces

variable {last : Option TokenKind} {cs : List Char} {ks : List TokenKind}

/-- A machine integer is read back, unless its sign follows something that it could be taken from. -/
theorem Lexes.integer {i : Int64}
    (hsign : i.toInt < 0 → (last.map TokenKind.admitsSign).getD true = true) (hrest : Breaks cs)
    (h : Lexes (some (.literal (.int i))) cs ks) :
    Lexes last (Decimal.ofInt i.toInt ++ cs) (.literal (.int i) :: ks) := by
  have hread := Decimal.read_ofInt i
  rw [Decimal.ofInt] at hread ⊢
  by_cases hneg : i.toInt < 0
  · rw [if_pos hneg] at hread ⊢
    have hminus : ('-'.isDigit || ('-' = '-' && digitNext (Decimal.digits i.toInt.natAbs) &&
        (last.map TokenKind.admitsSign).getD true)) = true := by
      rw [digitNext_digits, hsign hneg]
      rfl
    simpa using Lexes.numeral hminus (numeral_digits (Decimal.all_isDigit_digits _))
      (numberValue?_int hread) hrest h
  · rw [if_neg hneg] at hread ⊢
    obtain ⟨n, hn, ds, hds, hdigits⟩ := Decimal.exists_digits_eq_cons i.toInt.natAbs
    rw [hds] at hread ⊢
    have hdigit : ((Decimal.digitChar n).isDigit || (Decimal.digitChar n = '-' && digitNext ds &&
        (last.map TokenKind.admitsSign).getD true)) = true := by
      rw [Decimal.digitChar_isDigit hn]
      rfl
    simpa using Lexes.numeral hdigit (numeral_digits hdigits) (numberValue?_int hread) hrest h

/-! ## Operators -/

/-- A symbol of two characters ends in one of these. -/
def endsSymbol (c : Char) : Bool := ['=', '<', '>'].contains c

theorem ofSymbol?_pair {c d : Char} (hd : endsSymbol d = false) :
    Operator.ofSymbol? (String.ofList [c, d]) = none := by
  rw [Operator.ofSymbol?, List.find?_eq_none]
  intro o _ heq
  have hsymbol : o.symbol.toList = [c, d] := by
    rw [beq_iff_eq.1 heq, String.toList_ofList]
  cases o with
  | eq | ne | le | ge | shl | shr =>
      obtain ⟨-, rfl⟩ : _ ∧ d = _ := by simpa [Operator.symbol, eq_comm] using hsymbol
      cases hd
  | _ => simp [Operator.symbol] at hsymbol

theorem operator_eq_ok {o : Operator} {pos : Nat} {c d : Char}
    (hc : Operator.ofSymbol? (String.ofList [c]) = some o) (hne : c ≠ '=')
    (hd : endsSymbol d = false) : operator pos c (d :: cs) = .ok (.op o, 0) := by
  have hnext : d ≠ '=' := by
    rintro rfl
    cases hd
  simp only [operator, List.head?_cons, Option.toList_some, ofSymbol?_pair hd, hc,
    Option.filter_some, Option.some.injEq, hnext, hne]
  rfl

theorem classes_operatorChar {c : Char} (hc : Scan.isOperatorChar c = true) :
    Text.isBlank c = false ∧ Scan.isNameStart c = false ∧ c.isDigit = false ∧ c ≠ '"' := by
  have hmem : c ∈ ['=', '!', '<', '>', '+', '-', '*', '/', '&', '|', '^', '%'] :=
    List.contains_iff_mem.1 hc
  simp only [List.mem_cons, List.not_mem_nil, or_false] at hmem
  rcases hmem with rfl | rfl | rfl | rfl | rfl | rfl | rfl | rfl | rfl | rfl | rfl | rfl <;> decide

/-- Whether a sign that comes next may belong to a number. -/
def AdmitsSign (last : Option TokenKind) : Prop := (last.map TokenKind.admitsSign).getD true = true

/-- Where no sign is admitted, an operator character starts an operator, a minus sign too. -/
theorem lexeme_operatorChar {pos : Nat} {c : Char} (hc : Scan.isOperatorChar c = true)
    (hlast : ¬ AdmitsSign last) : lexeme last pos c cs = operator pos c cs := by
  obtain ⟨-, hstart, hdigit, hquote⟩ := classes_operatorChar hc
  have hsign : (last.map TokenKind.admitsSign).getD true = false := Bool.eq_false_iff.2 hlast
  rw [lexeme, if_neg (by rw [hstart]; decide), if_neg (by rw [hdigit, hsign]; simp), if_neg hquote,
    if_pos hc]

/-- An operator is read where no sign is admitted, in front of a character that ends no symbol. -/
theorem Lexes.symbol (o : Operator) {d : Char} (hd : endsSymbol d = false)
    (hlast : ¬ AdmitsSign last) (h : Lexes (some (.op o)) (d :: cs) ks) :
    Lexes last (o.symbol.toList ++ d :: cs) (.op o :: ks) := by
  have hsingle : ∀ {c : Char}, Scan.isOperatorChar c = true → c ≠ '=' →
      Operator.ofSymbol? (String.ofList [c]) = some o →
      Lexes last (c :: d :: cs) (.op o :: ks) := by
    intro c hc hne hsymbol
    refine .single (classes_operatorChar hc).1 (fun pos => ?_) h
    rw [lexeme_operatorChar hc hlast, operator_eq_ok hsymbol hne hd]
  have hdouble : ∀ {c c' : Char}, Scan.isOperatorChar c = true →
      Operator.ofSymbol? (String.ofList [c, c']) = some o →
      Lexes last (c :: ([c'] ++ d :: cs)) (.op o :: ks) := by
    intro c c' hc hsymbol
    refine .token (classes_operatorChar hc).1 (fun pos => ?_) h
    rw [lexeme_operatorChar hc hlast]
    simp only [Lexer.operator, List.cons_append, List.head?_cons, Option.toList_some, hsymbol]
    rfl
  cases o with
  | eq | ne | le | ge | shl | shr => exact hdouble rfl rfl
  | _ => exact hsingle rfl (by decide) rfl

end Pieces

/-! ## What stands next to an operator -/

theorem endsSymbol_digitChar : ∀ n < 10, endsSymbol (Decimal.digitChar n) = false := by
  decide

theorem endsSymbol_of_isBlank {c : Char} (h : Text.isBlank c = true) : endsSymbol c = false := by
  refine Bool.eq_false_iff.2 ?_
  intro hc
  have hmem : c ∈ ['=', '<', '>'] := List.contains_iff_mem.1 hc
  simp only [List.mem_cons, List.not_mem_nil, or_false] at hmem
  rcases hmem with rfl | rfl | rfl <;> cases h

/-- An integer starts with a digit or a minus sign, and neither ends a symbol. -/
theorem stopsAt_ofInt (i : Int) (cs : List Char) : StopsAt endsSymbol (Decimal.ofInt i ++ cs) := by
  rw [Decimal.ofInt]
  split
  · exact (stopsAt_cons _ _ _).2 rfl
  · obtain ⟨n, hn, ds, hds, -⟩ := Decimal.exists_digits_eq_cons i.natAbs
    rw [hds]
    exact (stopsAt_cons _ _ _).2 (endsSymbol_digitChar n hn)

theorem ofInt_ne_nil (i : Int) : Decimal.ofInt i ≠ [] := by
  rw [Decimal.ofInt]
  split
  · exact List.cons_ne_nil _ _
  · exact Decimal.digits_ne_nil _

theorem stopsAt_symbol (o : Operator) (cs : List Char) :
    StopsAt numberGoesOn (o.symbol.toList ++ cs) := by
  cases o <;> exact (stopsAt_cons _ _ _).2 rfl

end Lexer

end DevConsole
