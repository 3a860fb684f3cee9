/-
# `DevConsole.Proofs.Lexing.Lexemes` — what a token may be written as

`Writes last c body k` says that `c :: body` is a text of a token of kind `k`, after a token of kind
`last`; it has one rule for each branch of the lexer.  The relation and the lexer agree on every text
that a gap follows, a blank or the end of the line:

    Writes.lexeme_eq    the text of a token is read as that token before every gap
    exists_writes       what is read as a token is a text of it, whatever came after it

Together: a lexeme that is cut off a text is the same lexeme in front of any gap.  The lexer looks
ahead, by one character after a minus sign or an operator and by two after a point, and so the first
law is where the work is: what it finds in a gap ends every lexeme.

How far the lexer counts a lexeme is `extent`.  That is its length, except for an operator of one
character at the end of the line: there the look-ahead finds nothing, and is counted all the same.
-/
import DevConsole.Proofs.Lexing.Integers

namespace DevConsole

namespace Lexer

/-! ## Gaps -/

/-- A blank comes next, or nothing. -/
def Gap (rest : List Char) : Prop := StopsAt (fun c => !Text.isBlank c) rest

theorem Gap.stopsAt {p : Char → Bool} {rest : List Char} (h : Gap rest)
    (hp : ∀ c, Text.isBlank c = true → p c = false) : StopsAt p rest := by
  intro c hc
  refine hp c ?_
  have hblank := h c hc
  rwa [Bool.not_eq_false'] at hblank

/-- Blanks make a gap; none make one at the end only. -/
theorem Gap.of_blanks {bs cs : List Char} (hbs : ∀ b ∈ bs, Text.isBlank b = true)
    (hcs : bs = [] → cs = []) : Gap (bs ++ cs) := by
  rcases bs with _ | ⟨b, bs⟩
  · rw [hcs rfl]
    exact stopsAt_nil _
  · refine (stopsAt_cons _ _ _).2 ?_
    rw [hbs b List.mem_cons_self]
    rfl

theorem Gap.numberGoesOn {rest : List Char} (h : Gap rest) : StopsAt numberGoesOn rest :=
  h.stopsAt fun _ => numberGoesOn_of_isBlank

theorem Gap.isNameChar {rest : List Char} (h : Gap rest) : StopsAt Scan.isNameChar rest :=
  h.stopsAt fun _ => Text.isNameChar_of_isBlank

theorem Gap.isDigit {rest : List Char} (h : Gap rest) : StopsAt Char.isDigit rest :=
  h.isNameChar.mono fun _ => isNameChar_of_isDigit

/-! ## Texts in quotes -/

/-- A character that is no quote and starts no escape stands for itself. -/
theorem stringBody_cons {c : Char} (hquote : c ≠ '"') (hescape : c ≠ '\\') (cs : List Char) :
    stringBody (c :: cs) = (stringBody cs).map fun r => (c :: r.1, r.2 + 1) := by
  refine stringBody.eq_5 c cs hquote ?_ ?_
  · intro h _
    exact hescape h
  · intro e cs' h _
    exact hescape h

/-- A quote starts a text whatever comes before it. -/
theorem lexeme_quote (last : Option TokenKind) (pos : Nat) (cs : List Char) :
    lexeme last pos '"' cs = string pos cs := by
  have hnumber : ('"'.isDigit || ('"' = '-' && digitNext cs &&
      (last.map TokenKind.admitsSign).getD true)) = false := rfl
  rw [lexeme, if_neg (by decide), if_neg (by rw [hnumber]; decide), if_pos rfl]

/-- What is read up to a closing quote is read so wherever it stands. -/
theorem exists_stringBody {cs content : List Char} {n : Nat}
    (h : stringBody cs = some (content, n)) :
    ∃ body rest, cs = body ++ rest ∧ body.length = n ∧
      ∀ rest', stringBody (body ++ rest') = some (content, n) := by
  fun_induction stringBody cs generalizing content n with
  | case1 => cases h
  | case2 cs =>
      obtain ⟨rfl, rfl⟩ := Prod.mk.inj (Option.some.inj h)
      exact ⟨['"'], cs, rfl, rfl, fun _ => rfl⟩
  | case3 => cases h
  | case4 e cs ih =>
      obtain ⟨⟨inner, m⟩, hinner, heq⟩ := Option.map_eq_some_iff.1 h
      obtain ⟨rfl, rfl⟩ := Prod.mk.inj heq
      obtain ⟨body, rest, rfl, rfl, hbody⟩ := ih hinner
      refine ⟨'\\' :: e :: body, rest, rfl, rfl, fun rest' => ?_⟩
      simp only [List.cons_append, stringBody, hbody rest', Option.map_some]
  | case5 c cs hquote hlast hescape ih =>
      obtain ⟨⟨inner, m⟩, hinner, heq⟩ := Option.map_eq_some_iff.1 h
      obtain ⟨rfl, rfl⟩ := Prod.mk.inj heq
      obtain ⟨body, rest, rfl, rfl, hbody⟩ := ih hinner
      have hplain : c ≠ '\\' := by
        rintro rfl
        rcases hcs : body ++ rest with _ | ⟨e, cs⟩
        · exact hlast rfl hcs
        · exact hescape e cs rfl hcs
      refine ⟨c :: body, rest, rfl, rfl, fun rest' => ?_⟩
      rw [List.cons_append, stringBody_cons hquote hplain, hbody rest']
      rfl

/-! ## Operators and assignments -/

/-- What an operator or an assignment is written as. -/
inductive OperatorText : Char → List Char → TokenKind → Prop where
  | pair {c d : Char} {o : Operator}
      (h : Operator.ofSymbol? (String.ofList [c, d]) = some o) : OperatorText c [d] (.op o)
  | compound {c : Char} {o : Operator}
      (hpair : Operator.ofSymbol? (String.ofList [c, '=']) = none)
      (h : Operator.ofSymbol? (String.ofList [c]) = some o) (ho : o.compounds = true) :
      OperatorText c ['='] (.assign (some o))
  | equals : OperatorText '=' [] (.assign none)
  | single {c : Char} {o : Operator}
      (h : Operator.ofSymbol? (String.ofList [c]) = some o) : OperatorText c [] (.op o)

/-- How many characters the lexer counts after the first of a lexeme that `rest` follows. -/
def extent : TokenKind → List Char → List Char → Nat
  | .op _, [], [] => 1
  | _, body, _ => body.length

theorem extent_of_rest (k : TokenKind) (body : List Char) (c : Char) (cs : List Char) :
    extent k body (c :: cs) = body.length := by
  rw [extent]
  intro o _ _ h
  cases h

theorem extent_of_body (k : TokenKind) (b : Char) (body rest : List Char) :
    extent k (b :: body) rest = (b :: body).length := by
  rw [extent]
  intro o _ h _
  cases h

theorem extent_of_ne_op {k : TokenKind} (hk : ∀ o, k ≠ .op o) (body rest : List Char) :
    extent k body rest = body.length := by
  rw [extent]
  intro o h _ _
  exact hk o h

theorem length_le_extent (k : TokenKind) (body rest : List Char) :
    body.length ≤ extent k body rest := by
  fun_cases extent k body rest with
  | case1 o => exact Nat.zero_le 1
  | case2 => exact Nat.le_refl body.length

/-- Whatever is counted, the lexeme is taken and what follows it is left. -/
theorem take_extent (k : TokenKind) (body rest : List Char) :
    (body ++ rest).take (extent k body rest) = body := by
  fun_cases extent k body rest with
  | case1 o => rfl
  | case2 => exact List.take_left

theorem drop_extent (k : TokenKind) (body rest : List Char) :
    (body ++ rest).drop (extent k body rest) = rest := by
  fun_cases extent k body rest with
  | case1 o => rfl
  | case2 => exact List.drop_left

theorem endsSymbol_of_isDigit {c : Char} (h : c.isDigit = true) : endsSymbol c = false := by
  obtain ⟨n, hn, rfl⟩ := Decimal.exists_digitChar h
  exact endsSymbol_digitChar n hn

theorem keywordOrName_ne_op (s : String) (o : Operator) : keywordOrName s ≠ .op o := by
  rw [keywordOrName]
  repeat' split
  all_goals
    intro h
    cases h

theorem not_equals_of_single {c : Char} {o : Operator}
    (h : Operator.ofSymbol? (String.ofList [c]) = some o) : c ≠ '=' := by
  rintro rfl
  cases h

/-- What is written as an operator is read as it before a gap. -/
theorem OperatorText.operator_eq {c : Char} {body rest : List Char} {k : TokenKind}
    (h : OperatorText c body k) (hrest : Gap rest) (pos : Nat) :
    operator pos c (body ++ rest) = .ok (k, extent k body rest) := by
  cases h with
  | pair hpair =>
      simp only [operator, List.cons_append, List.head?_cons, Option.toList_some, hpair]
      rfl
  | compound hpair hsingle ho =>
      simp only [operator, List.cons_append, List.head?_cons, Option.toList_some, hpair, hsingle,
        Option.filter_some, ho, decide_true, Bool.and_self]
      rfl
  | equals =>
      rcases rest with _ | ⟨d, rest⟩
      · rfl
      · have hd : endsSymbol d = false := (hrest.stopsAt fun _ => endsSymbol_of_isBlank) d rfl
        have hsingle : Operator.ofSymbol? (String.ofList ['=']) = none := rfl
        simp only [operator, List.nil_append, List.head?_cons, Option.toList_some,
          ofSymbol?_pair hd, hsingle]
        rfl
  | single hsingle =>
      rcases rest with _ | ⟨d, rest⟩
      · simp only [operator, List.append_nil, List.head?_nil, Option.toList_none, hsingle]
        rfl
      · have hd : endsSymbol d = false := (hrest.stopsAt fun _ => endsSymbol_of_isBlank) d rfl
        exact operator_eq_ok hsingle (not_equals_of_single hsingle) hd

/-- What is read as an operator is written as one. -/
theorem exists_operatorText {pos : Nat} {c : Char} {cs : List Char} {k : TokenKind} {extra : Nat}
    (h : operator pos c cs = .ok (k, extra)) :
    ∃ body rest, cs = body ++ rest ∧ OperatorText c body k ∧ extra = extent k body rest := by
  simp only [operator] at h
  split at h
  · rename_i o hpair
    obtain ⟨rfl, rfl⟩ := Prod.mk.inj (Except.ok.inj h)
    rcases cs with _ | ⟨d, cs⟩
    · exact ⟨[], [], rfl, .single hpair, rfl⟩
    · exact ⟨[d], cs, rfl, .pair hpair, rfl⟩
  · rename_i hpair
    split at h
    · rename_i o hcompound
      obtain ⟨rfl, rfl⟩ := Prod.mk.inj (Except.ok.inj h)
      obtain ⟨hsingle, ho⟩ := Option.filter_eq_some_iff.1 hcompound
      rw [Bool.and_eq_true, decide_eq_true_eq] at ho
      rcases cs with _ | ⟨d, cs⟩
      · cases ho.1
      · obtain rfl : d = '=' := Option.some.inj ho.1
        exact ⟨['='], cs, rfl, .compound hpair hsingle ho.2, rfl⟩
    · split at h
      · rename_i hc
        subst hc
        obtain ⟨rfl, rfl⟩ := Prod.mk.inj (Except.ok.inj h)
        exact ⟨[], cs, rfl, .equals, rfl⟩
      · split at h
        · rename_i o hsingle
          obtain ⟨rfl, rfl⟩ := Prod.mk.inj (Except.ok.inj h)
          rcases cs with _ | ⟨d, cs⟩
          · rw [List.head?_nil, Option.toList_none, hsingle] at hpair
            cases hpair
          · exact ⟨[], d :: cs, rfl, .single hsingle, rfl⟩
        · cases h

/-- No digit stands after the first character of an operator that a gap follows. -/
theorem OperatorText.digitNext {c : Char} {body rest : List Char} {k : TokenKind}
    (h : OperatorText c body k) (hrest : Gap rest) : digitNext (body ++ rest) = false := by
  have hgap : Lexer.digitNext rest = false := digitNext_of_stopsAt hrest.isDigit
  cases h with
  | @pair _ d _ hpair =>
      refine Bool.eq_false_iff.2 ?_
      intro hd
      have hends : endsSymbol d = false := endsSymbol_of_isDigit hd
      rw [ofSymbol?_pair hends] at hpair
      cases hpair
  | compound => rfl
  | equals => exact hgap
  | single => exact hgap

/-! ## Tokens -/

/-- The marks that are a token each. -/
def marks : List (Char × TokenKind) :=
  [('.', .dot), ('(', .openParen), (')', .closeParen), (',', .comma), ('@', .marker)]

theorem marks_ne_op {c : Char} {k : TokenKind} (h : (c, k) ∈ marks) (o : Operator) : k ≠ .op o := by
  rintro rfl
  simp [marks] at h

/-- What a token of kind `k` may be written as after a token of kind `last`. -/
inductive Writes (last : Option TokenKind) : Char → List Char → TokenKind → Prop where
  | word {c : Char} {body : List Char} (hstart : Scan.isNameStart c = true)
      (hbody : ∀ b ∈ body, Scan.isNameChar b = true) :
      Writes last c body (keywordOrName (String.ofList (c :: body)))
  | number {c : Char} {whole fraction letter : List Char} {l : Literal}
      (hstart : Scan.isNameStart c = false)
      (hsign : (c.isDigit ||
        (c = '-' && digitNext whole && (last.map TokenKind.admitsSign).getD true)) = true)
      (hparts : Numeral whole fraction letter)
      (hvalue : numberValue? (c :: whole ++ fraction) (suffix? letter) = some l) :
      Writes last c (whole ++ (fraction ++ letter)) (.literal l)
  | string {body content : List Char}
      (h : ∀ rest, stringBody (body ++ rest) = some (content, body.length)) :
      Writes last '"' body (.literal (.str (String.ofList content)))
  | operator {c : Char} {body : List Char} {k : TokenKind} (hc : Scan.isOperatorChar c = true)
      (h : OperatorText c body k) : Writes last c body k
  | mark {c : Char} {k : TokenKind} (h : (c, k) ∈ marks) : Writes last c [] k

/-- A token is read as such before a gap, wherever it stands. -/
theorem Writes.lexeme_eq {last : Option TokenKind} {c : Char} {body rest : List Char}
    {k : TokenKind} (h : Writes last c body k) (hrest : Gap rest) (pos : Nat) :
    lexeme last pos c (body ++ rest) = .ok (k, extent k body rest) := by
  cases h with
  | word hstart hbody =>
      rw [lexeme, if_pos hstart, extent_of_ne_op (keywordOrName_ne_op _)]
      simp only [Lexer.word, takeWhile_run hbody hrest.isNameChar]
  | @number _ whole fraction letter l hstart hsign hparts hvalue =>
      have hdigits := hparts.stopsAt_digit hrest.isNameChar
      rw [← digitNext_append hdigits] at hsign
      rw [extent_of_ne_op (by rintro o ⟨⟩), List.append_assoc, List.append_assoc, lexeme,
        if_neg (by rw [hstart]; decide), if_pos hsign]
      exact hparts.number_eq_ok (.of_stops hrest.numberGoesOn) hvalue
  | string h =>
      rw [lexeme_quote, Lexer.string, h rest]
      rfl
  | operator hc h =>
      obtain ⟨-, hstart, hdigit, hquote⟩ := classes_operatorChar hc
      rw [lexeme, if_neg (by rw [hstart]; decide), if_neg (by rw [hdigit, h.digitNext hrest]; simp),
        if_neg hquote, if_pos hc]
      exact h.operator_eq hrest pos
  | mark h =>
      simp only [marks, List.mem_cons, Prod.mk.injEq, List.not_mem_nil, or_false] at h
      rcases h with ⟨rfl, rfl⟩ | ⟨rfl, rfl⟩ | ⟨rfl, rfl⟩ | ⟨rfl, rfl⟩ | ⟨rfl, rfl⟩ <;> rfl

/-- What is read as a token is written as one. -/
theorem exists_writes {last : Option TokenKind} {pos : Nat} {c : Char} {cs : List Char}
    {k : TokenKind} {extra : Nat} (h : lexeme last pos c cs = .ok (k, extra)) :
    ∃ body rest, cs = body ++ rest ∧ Writes last c body k ∧ extra = extent k body rest := by
  have hmark : ∀ {d : Char} {m : TokenKind}, (d, m) ∈ marks → c = d →
      Except.ok (ε := Failure) (m, 0) = .ok (k, extra) →
      ∃ body rest, cs = body ++ rest ∧ Writes last c body k ∧ extra = extent k body rest := by
    rintro d m hm rfl heq
    obtain ⟨rfl, rfl⟩ := Prod.mk.inj (Except.ok.inj heq)
    exact ⟨[], cs, rfl, .mark hm, (extent_of_ne_op (marks_ne_op hm) [] cs).symm⟩
  simp only [lexeme] at h
  split at h
  · rename_i hstart
    obtain ⟨rfl, rfl⟩ := Prod.mk.inj (Except.ok.inj h)
    refine ⟨cs.takeWhile Scan.isNameChar, cs.dropWhile Scan.isNameChar,
      List.takeWhile_append_dropWhile.symm, .word hstart (List.all_eq_true.1 List.all_takeWhile), ?_⟩
    rw [extent_of_ne_op (keywordOrName_ne_op _)]
  rename_i hstart
  rw [Bool.not_eq_true] at hstart
  split at h
  · rename_i hsign
    obtain ⟨whole, fraction, letter, rest, l, rfl, hparts, hname, hvalue, rfl, rfl⟩ :=
      exists_numeral h
    rw [digitNext_append (hparts.stopsAt_digit hname)] at hsign
    exact ⟨whole ++ (fraction ++ letter), rest, by simp only [List.append_assoc],
      .number hstart hsign hparts hvalue, (extent_of_ne_op (by rintro o ⟨⟩) _ _).symm⟩
  split at h
  · rename_i hquote
    subst hquote
    rw [Lexer.string] at h
    split at h
    · rename_i content extra' hbody
      obtain ⟨rfl, rfl⟩ := Prod.mk.inj (Except.ok.inj h)
      obtain ⟨body, rest, rfl, rfl, hprefix⟩ := exists_stringBody hbody
      exact ⟨body, rest, rfl, .string hprefix, rfl⟩
    · cases h
  split at h
  · rename_i hc
    obtain ⟨body, rest, rfl, htext, rfl⟩ := exists_operatorText h
    exact ⟨body, rest, rfl, .operator hc htext, rfl⟩
  split at h
  · exact hmark (.head _) ‹_› h
  split at h
  · exact hmark (.tail _ (.head _)) ‹_› h
  split at h
  · exact hmark (.tail _ (.tail _ (.head _))) ‹_› h
  split at h
  · exact hmark (.tail _ (.tail _ (.tail _ (.head _)))) ‹_› h
  split at h
  · exact hmark (.tail _ (.tail _ (.tail _ (.tail _ (.head _))))) ‹_› h
  cases h

/-- A token in front of a gap. -/
theorem Lexes.lexeme {last : Option TokenKind} {k : TokenKind} {c : Char} {body rest : List Char}
    {ks : List TokenKind} (hc : Text.isBlank c = false) (hk : Writes last c body k)
    (hrest : Gap rest) (h : Lexes (some k) rest ks) :
    Lexes last (c :: (body ++ rest)) (k :: ks) := by
  intro pos
  obtain ⟨ts, hts, hks⟩ := h (pos + 1 + extent k body rest)
  refine ⟨⟨k, pos, pos + 1 + extent k body rest⟩ :: ts, ?_, by rw [Grammar.kinds_cons, hks]⟩
  rw [tokensFrom, if_neg (by simp [hc]), hk.lexeme_eq hrest pos]
  simp only [drop_extent, hts]

end Lexer

end DevConsole
