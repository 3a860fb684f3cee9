/-
# `DevConsole.Proofs.Lexing.Literals` — what a constant is written as reads back

A constant is written in one way, and a line may write it in many.  This module is about the one
way: its text is a lexeme, whatever the line looked like that the constant comes from.

* Integers and words read back as they are.
* A finite number of a binary format is written as digits with at most one point among them, behind
  a sign if it is negative, so with its letter it is one numeral.  That the digits denote the number
  they were taken from is a matter of decimal rounding, not of tokens, and is a hypothesis here
  (`Literal.ReadsBack`).
* A text reads back if it needs no other escapes than the lexer knows (`Text.Quotable`).

A minus sign is only read as part of a number where the token before admits it.  A number that is
written with a sign was also read with one, since reading does not make a number negative by itself
(`Writes.admitsSign`); so where it was read, its text may stand.
-/
import DevConsole.Proofs.Lexing.Lexemes
import DevConsole.Proofs.Number.Signs

namespace DevConsole

/-! ## Texts in quotes -/

namespace Text

/-- Quoting leaves the character alone, or writes one of the escapes that the lexer reads. -/
def Quotable (c : Char) : Prop := quotedChar c ≠ [c] → c ∈ ['"', '\\', '\n', '\t']

theorem Quotable.cases {c : Char} (h : Quotable c) :
    quotedChar c = [c] ∧ c ≠ '"' ∧ c ≠ '\\' ∨
      ∃ e, quotedChar c = ['\\', e] ∧ Lexer.unescape e = c := by
  by_cases hplain : quotedChar c = [c]
  · refine .inl ⟨hplain, ?_, ?_⟩
    · rintro rfl
      cases hplain
    · rintro rfl
      cases hplain
  · have hc := h hplain
    simp only [List.mem_cons, List.not_mem_nil, or_false] at hc
    rcases hc with rfl | rfl | rfl | rfl
    · exact .inr ⟨'"', rfl, rfl⟩
    · exact .inr ⟨'\\', rfl, rfl⟩
    · exact .inr ⟨'n', rfl, rfl⟩
    · exact .inr ⟨'t', rfl, rfl⟩

end Text

namespace Lexer

/-- What stands in quotes is read back up to the closing quote. -/
theorem stringBody_quoted : ∀ {cs : List Char}, (∀ c ∈ cs, Text.Quotable c) → ∀ rest,
    stringBody (cs.flatMap Text.quotedChar ++ '"' :: rest) =
      some (cs, (cs.flatMap Text.quotedChar).length + 1)
  | [], _, rest => rfl
  | c :: cs, h, rest => by
      have hrest := stringBody_quoted (fun d hd => h d (List.mem_cons_of_mem c hd)) rest
      rw [List.flatMap_cons]
      rcases (h c List.mem_cons_self).cases with ⟨hquoted, hquote, hescape⟩ | ⟨e, hquoted, he⟩
      · rw [hquoted, List.append_assoc, List.cons_append, List.nil_append,
          stringBody_cons hquote hescape, hrest]
        simp
      · rw [hquoted, List.append_assoc]
        simp only [List.cons_append, List.nil_append, stringBody, hrest, Option.map_some, he]
        simp

/-! ## Decimal texts -/

theorem mem_dropZeros {cs : List Char} {c : Char} (h : c ∈ Shortest.dropZeros cs) : c ∈ cs := by
  rw [Shortest.dropZeros, List.mem_reverse] at h
  exact List.mem_reverse.1 ((List.dropWhile_suffix _).subset h)

/-- A run of digits is a first digit and a numeral, with a letter and maybe a fraction behind it. -/
theorem exists_numeral_of_digits {cs fraction : List Char} {letter : Char} (hne : cs ≠ [])
    (hcs : ∀ d ∈ cs, d.isDigit = true) (hletter : (suffix? [letter]).isSome = true)
    (hfraction : fraction = [] ∨
      ∃ d ds, fraction = '.' :: d :: ds ∧ ∀ b ∈ d :: ds, b.isDigit = true) :
    ∃ d whole, cs ++ fraction = d :: (whole ++ fraction) ∧ d.isDigit = true ∧
      Numeral whole fraction [letter] := by
  obtain ⟨d, whole, rfl⟩ := List.exists_cons_of_ne_nil hne
  exact ⟨d, whole, rfl, hcs d List.mem_cons_self,
    fun b hb => hcs b (List.mem_cons_of_mem d hb), hfraction, .inr ⟨letter, rfl, hletter⟩, nofun⟩

/-- A positional text starts with a digit and is a numeral with whatever letter. -/
theorem exists_positional (n : Nat) (s : Int) {letter : Char}
    (hletter : (suffix? [letter]).isSome = true) :
    ∃ d whole fraction, Shortest.positional n s = d :: (whole ++ fraction) ∧
      d.isDigit = true ∧ Numeral whole fraction [letter] := by
  have hdigits : ∀ d ∈ Decimal.digits n, d.isDigit = true :=
    List.all_eq_true.1 (Decimal.all_isDigit_digits n)
  have hzeros : ∀ k, ∀ d ∈ List.replicate k '0', d.isDigit = true := by
    intro k d hd
    rw [List.eq_of_mem_replicate hd]
    rfl
  simp only [Shortest.positional]
  split
  · have hne : Decimal.digits n ++ List.replicate s.toNat '0' ≠ [] :=
      List.append_ne_nil_of_left_ne_nil (Decimal.digits_ne_nil n) _
    obtain ⟨d, whole, heq, hd, hnumeral⟩ :=
      exists_numeral_of_digits hne (fun d hd => (List.mem_append.1 hd).elim (hdigits d)
        (hzeros _ d)) hletter (.inl rfl)
    rw [List.append_nil] at heq
    exact ⟨d, whole, [], heq, hd, hnumeral⟩
  · generalize hpadded :
      List.replicate ((-s).toNat + 1 - (Decimal.digits n).length) '0' ++ Decimal.digits n = padded
    have hall : ∀ d ∈ padded, d.isDigit = true := by
      rw [← hpadded]
      exact fun d hd => (List.mem_append.1 hd).elim (hzeros _ d) (hdigits d)
    have hlength : (-s).toNat < padded.length := by
      rw [← hpadded, List.length_append, List.length_replicate]
      omega
    have hne : padded.take (padded.length - (-s).toNat) ≠ [] := by
      rw [Ne, List.take_eq_nil_iff]
      rintro (hzero | rfl)
      · omega
      · exact absurd hlength (Nat.not_lt_zero _)
    have hwhole : ∀ d ∈ padded.take (padded.length - (-s).toNat), d.isDigit = true :=
      fun d hd => hall d (List.mem_of_mem_take hd)
    rcases hfraction : Shortest.dropZeros (padded.drop (padded.length - (-s).toNat)) with _ | ⟨b, bs⟩
    · obtain ⟨d, whole, heq, hd, hnumeral⟩ :=
        exists_numeral_of_digits hne hwhole hletter (.inl rfl)
      rw [List.append_nil] at heq
      exact ⟨d, whole, [], heq, hd, hnumeral⟩
    · have hbs : ∀ d ∈ b :: bs, d.isDigit = true := by
        intro d hd
        rw [← hfraction] at hd
        exact hall d (List.mem_of_mem_drop (mem_dropZeros hd))
      obtain ⟨d, whole, heq, hd, hnumeral⟩ :=
        exists_numeral_of_digits hne hwhole hletter (.inr ⟨b, bs, rfl, hbs⟩)
      exact ⟨d, whole, '.' :: b :: bs, heq, hd, hnumeral⟩

/-- The text of a finite number is a numeral behind its sign. -/
theorem exists_render (f : Format) (m : Nat) (e : Int) {letter : Char}
    (hletter : (suffix? [letter]).isSome = true) :
    ∃ d whole fraction, (∀ negative, Shortest.render f (.finite negative m e) =
        (if negative then ['-'] else []) ++ d :: (whole ++ fraction)) ∧
      d.isDigit = true ∧ Numeral whole fraction [letter] := by
  by_cases hm : m = 0
  · refine ⟨'0', [], [], fun negative => ?_, rfl, nofun, .inl rfl, .inr ⟨letter, rfl, hletter⟩, nofun⟩
    simp only [Shortest.render, if_pos hm]
    rfl
  · obtain ⟨d, whole, fraction, heq, hd, hnumeral⟩ := exists_positional
      (Shortest.decimal f m e).1 (Shortest.decimal f m e).2 hletter
    refine ⟨d, whole, fraction, fun negative => ?_, hd, hnumeral⟩
    simp only [Shortest.render, if_neg hm, heq]

section Pieces

variable {last : Option TokenKind} {cs : List Char} {ks : List TokenKind}

/-- A finite number of a binary format is read back, if its digits are, and unless its sign follows
something that it could be taken from. -/
theorem Lexes.finite {f : Format} {negative : Bool} {m : Nat} {e : Int} {letter : Char} {l : Literal}
    (hletter : (suffix? [letter]).isSome = true)
    (hvalue : numberValue? (Shortest.render f (.finite negative m e)) (suffix? [letter]) = some l)
    (hsign : negative = true → (last.map TokenKind.admitsSign).getD true = true)
    (hrest : Breaks cs) (h : Lexes (some (.literal l)) cs ks) :
    Lexes last (Shortest.render f (.finite negative m e) ++ letter :: cs) (.literal l :: ks) := by
  obtain ⟨d, whole, fraction, hrender, hd, hnumeral⟩ := exists_render f m e hletter
  rw [hrender] at hvalue ⊢
  cases negative with
  | true =>
      have hparts : Numeral (d :: whole) fraction [letter] :=
        { hnumeral with whole_digits := List.forall_mem_cons.2 ⟨hd, hnumeral.whole_digits⟩ }
      have hminus : ('-'.isDigit || ('-' = '-' && digitNext (d :: whole) &&
          (last.map TokenKind.admitsSign).getD true)) = true := by
        rw [hsign rfl, digitNext, hd]
        rfl
      simpa using Lexes.numeral hminus hparts hvalue hrest h
  | false =>
      have hdigit : (d.isDigit || (d = '-' && digitNext whole &&
          (last.map TokenKind.admitsSign).getD true)) = true := by
        rw [hd]
        rfl
      simpa using Lexes.numeral hdigit hnumeral hvalue hrest h

/-- A word is read back before what does not go on with it. -/
theorem Lexes.keyword {k : TokenKind} {c : Char} {body : List Char}
    (hword : keywordOrName (String.ofList (c :: body)) = k) (hstart : Scan.isNameStart c = true)
    (hbody : ∀ b ∈ body, Scan.isNameChar b = true) (hrest : Breaks cs) (h : Lexes (some k) cs ks) :
    Lexes last (c :: (body ++ cs)) (k :: ks) := by
  subst hword
  exact .word (Text.isBlank_of_isNameStart hstart) hstart hbody hrest.name h

end Pieces

end Lexer

/-! ## Constants -/

namespace Literal

/-- No number of a binary format that is infinite or not a number. -/
def Finite : Literal → Prop
  | float x => ∃ negative m e, Float32.magnitude x = .finite negative m e
  | double x => ∃ negative m e, Float.magnitude x = .finite negative m e
  | _ => True

/-- The decimal text of a number of a binary format denotes that number. -/
def ReadsBack : Literal → Prop
  | float x => Reading.single? (Shortest.single x).toList = some x
  | double x => Reading.double? (Shortest.double x).toList = some x
  | _ => True

/-- A text that is quoted with escapes that the lexer reads. -/
def Quotable : Literal → Prop
  | str s => ∀ c ∈ s.toList, Text.Quotable c
  | _ => True

/-- Whether the constant is a number that is written with a sign. -/
def Negative : Literal → Prop
  | int i => i.toInt < 0
  | float x => ∃ m e, Float32.magnitude x = .finite true m e
  | double x => ∃ m e, Float.magnitude x = .finite true m e
  | _ => False

end Literal

namespace Lexer

/-- No text that starts with a digit is read as a negative number. -/
theorem not_negative_of_isDigit {c : Char} {cs : List Char} {suffix : Option Suffix} {l : Literal}
    (hc : c.isDigit = true) (h : numberValue? (c :: cs) suffix = some l) : ¬l.Negative := by
  cases suffix with
  | none =>
      obtain ⟨i, hi, rfl⟩ := Option.map_eq_some_iff.1 h
      exact Int.not_lt.2 (Decimal.toInt_read_nonneg hc hi)
  | some suffix =>
      cases suffix with
      | single =>
          obtain ⟨x, hx, rfl⟩ := Option.map_eq_some_iff.1 h
          rintro ⟨m, e, hmagnitude⟩
          cases Reading.single?_unsigned hc hx hmagnitude
      | double =>
          obtain ⟨x, hx, rfl⟩ := Option.map_eq_some_iff.1 h
          rintro ⟨m, e, hmagnitude⟩
          cases Reading.double?_unsigned hc hx hmagnitude

theorem not_negative_of_keyword {s : String} {l : Literal}
    (h : TokenKind.literal l = keywordOrName s) : ¬l.Negative := by
  intro hl
  rw [keywordOrName] at h
  split at h
  · cases h
    exact hl
  split at h
  · cases h
    exact hl
  split at h
  · cases h
    exact hl
  split at h <;> cases h

/-- Where a negative number was read, a sign is admitted. -/
theorem Writes.admitsSign {last : Option TokenKind} {c : Char} {body : List Char} {l : Literal}
    (h : Writes last c body (.literal l)) (hl : l.Negative) :
    (last.map TokenKind.admitsSign).getD true = true := by
  generalize hk : TokenKind.literal l = k at h
  cases h with
  | word _ _ => exact absurd hl (not_negative_of_keyword hk)
  | number _ hsign _ hvalue =>
      obtain rfl := TokenKind.literal.inj hk
      rcases Bool.or_eq_true_iff.1 hsign with hdigit | hminus
      · exact absurd hl (not_negative_of_isDigit hdigit hvalue)
      · exact (Bool.and_eq_true_iff.1 hminus).2
  | string _ =>
      obtain rfl := TokenKind.literal.inj hk
      exact hl.elim
  | operator _ h =>
      cases h with
      | _ => cases hk
  | mark h =>
      subst hk
      simp [marks] at h

/-- What is read as a name is a word that is no keyword. -/
theorem Writes.name_eq {last : Option TokenKind} {c : Char} {body : List Char} {n : String}
    (h : Writes last c body (.name n)) : n = String.ofList (c :: body) ∧
      keywordOrName (String.ofList (c :: body)) = .name n ∧ Scan.isNameStart c = true ∧
      ∀ b ∈ body, Scan.isNameChar b = true := by
  generalize hk : TokenKind.name n = k at h
  cases h with
  | word hstart hbody =>
      refine ⟨?_, rfl, hstart, hbody⟩
      rw [keywordOrName] at hk
      repeat' split at hk
      all_goals cases hk
      rfl
  | number _ _ _ _ => cases hk
  | string _ => cases hk
  | operator _ h =>
      cases h with
      | _ => cases hk
  | mark h =>
      subst hk
      simp [marks] at h

/-- A name that was read as one is read back. -/
theorem Lexes.name {last last' : Option TokenKind} {c : Char} {body cs : List Char} {n : String}
    {ks : List TokenKind} (hn : Writes last' c body (.name n)) (hrest : Breaks cs)
    (h : Lexes (some (.name n)) cs ks) : Lexes last (n.toList ++ cs) (.name n :: ks) := by
  obtain ⟨heq, hword, hstart, hbody⟩ := hn.name_eq
  have htext : n.toList = c :: body := by
    rw [heq, String.toList_ofList]
  rw [htext]
  exact .keyword hword hstart hbody hrest h

/-- A constant that was read where it stands is read back from its own text. -/
theorem Lexes.literal {last : Option TokenKind} {c : Char} {body cs : List Char} {l : Literal}
    {ks : List TokenKind} (hl : Writes last c body (.literal l)) (hfinite : l.Finite)
    (hreads : l.ReadsBack) (hquotable : l.Quotable) (hrest : Breaks cs)
    (h : Lexes (some (.literal l)) cs ks) :
    Lexes last (l.text.toList ++ cs) (.literal l :: ks) := by
  cases l with
  | null =>
      show Lexes last ('n' :: (['u', 'l', 'l'] ++ cs)) _
      exact .keyword rfl rfl (List.all_eq_true.1 rfl) hrest h
  | bool b =>
      cases b with
      | true =>
          show Lexes last ('t' :: (['r', 'u', 'e'] ++ cs)) _
          exact .keyword rfl rfl (List.all_eq_true.1 rfl) hrest h
      | false =>
          show Lexes last ('f' :: (['a', 'l', 's', 'e'] ++ cs)) _
          exact .keyword rfl rfl (List.all_eq_true.1 rfl) hrest h
  | int i =>
      rw [Literal.text, Decimal.text, String.toList_ofList]
      exact .integer (fun hneg => hl.admitsSign hneg) hrest h
  | float x =>
      obtain ⟨negative, m, e, hx⟩ := hfinite
      have hreads : Reading.single? (Shortest.single x).toList = some x := hreads
      have hvalue : numberValue? (Shortest.single x).toList (suffix? ['f']) = some (.float x) := by
        show (Reading.single? _).map Literal.float = _
        rw [hreads]
        rfl
      have hsign : negative = true → (last.map TokenKind.admitsSign).getD true = true := by
        rintro rfl
        exact hl.admitsSign ⟨m, e, hx⟩
      rw [Literal.text, String.toList_append, List.append_assoc]
      rw [Shortest.single, String.toList_ofList, hx] at hvalue ⊢
      exact .finite rfl hvalue hsign hrest h
  | double x =>
      obtain ⟨negative, m, e, hx⟩ := hfinite
      have hreads : Reading.double? (Shortest.double x).toList = some x := hreads
      have hvalue : numberValue? (Shortest.double x).toList (suffix? ['d']) = some (.double x) := by
        show (Reading.double? _).map Literal.double = _
        rw [hreads]
        rfl
      have hsign : negative = true → (last.map TokenKind.admitsSign).getD true = true := by
        rintro rfl
        exact hl.admitsSign ⟨m, e, hx⟩
      rw [Literal.text, String.toList_append, List.append_assoc]
      rw [Shortest.double, String.toList_ofList, hx] at hvalue ⊢
      exact .finite rfl hvalue hsign hrest h
  | str s =>
      have htoken : Lexes last ('"' :: (s.toList.flatMap Text.quotedChar ++ ['"'] ++ cs))
          (.literal (.str s) :: ks) := by
        refine .token rfl (fun pos => ?_) h
        have hbody := stringBody_quoted hquotable cs
        simp only [lexeme_quote, string, List.append_assoc, List.singleton_append, hbody,
          String.ofList_toList, List.length_append, List.length_singleton]
      rw [Literal.text, Text.quoted, String.toList_ofList]
      exact htoken

end Lexer

end DevConsole
