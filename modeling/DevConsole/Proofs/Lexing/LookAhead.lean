/-
# `DevConsole.Proofs.Lexing.LookAhead` — how far the lexer looks

To read a token, the lexer looks at what follows its first character, and sometimes at what follows
the token itself.  It never looks behind an *edge*: a blank, the marker, or the end of the line.  So
texts that agree up to their first edge are read alike (`reading_congr`).  A text in quotes is the
exception, as it may hold blanks and markers; it is read up to its closing quote.

Positions are only needed for messages.  `kindsFrom` is the lexer without them, and gives the kinds
of the tokens, or nothing where the lexer fails (`kinds_tokensFrom`).  About it one can say in one
equation what a change of a text does to its tokens, failures included: a marker at the end is one
more token (`kindsFrom_append_marker`).
-/
import DevConsole.Proofs.Lexing.Lexemes

namespace DevConsole

namespace Lexer

open Grammar (kinds)

variable {last : Option TokenKind} {pos : Nat} {c : Char} {cs : List Char}

/-! ## Edges -/

/-- A character that only a text in quotes goes on with, and that looks like the end of the line to
any other token. -/
def isEdge (c : Char) : Bool := Text.isBlank c || c == '@'

/-- The characters up to the next edge. -/
def view (cs : List Char) : List Char := cs.takeWhile (!isEdge ·)

theorem view_of_isEdge (h : isEdge c = true) (cs : List Char) : view (c :: cs) = [] :=
  List.takeWhile_cons_of_neg (by simp [h])

theorem view_of_not_isEdge (h : isEdge c = false) (cs : List Char) :
    view (c :: cs) = c :: view cs :=
  List.takeWhile_cons_of_pos (by simp [h])

theorem isEdge_of_isBlank (h : Text.isBlank c = true) : isEdge c = true := by
  rw [isEdge, h, Bool.true_or]

theorem isEdge_of_isNameChar (h : Scan.isNameChar c = true) : isEdge c = false := by
  refine Bool.or_eq_false_iff.2
    ⟨Bool.eq_false_iff.2 fun hblank => ?_, Bool.eq_false_iff.2 fun hat => ?_⟩
  · rw [Text.isNameChar_of_isBlank hblank] at h
    cases h
  · rw [beq_iff_eq.1 hat] at h
    cases h

theorem isEdge_of_isDigit (h : c.isDigit = true) : isEdge c = false :=
  isEdge_of_isNameChar (isNameChar_of_isDigit h)

theorem endsSymbol_of_isEdge (h : isEdge c = true) : endsSymbol c = false := by
  rcases Bool.or_eq_true_iff.1 h with hblank | hat
  · exact endsSymbol_of_isBlank hblank
  · rw [beq_iff_eq.1 hat]
    rfl

/-- Every text is what is in view and then an edge, or no more. -/
theorem view_cases (cs : List Char) :
    view cs = [] ∧ (cs = [] ∨ ∃ c rest, cs = c :: rest ∧ isEdge c = true) ∨
      ∃ c rest, cs = c :: rest ∧ isEdge c = false ∧ view cs = c :: view rest := by
  rcases cs with _ | ⟨c, rest⟩
  · exact .inl ⟨rfl, .inl rfl⟩
  cases h : isEdge c with
  | true => exact .inl ⟨view_of_isEdge h rest, .inr ⟨c, rest, rfl, h⟩⟩
  | false => exact .inr ⟨c, rest, rfl, h, view_of_not_isEdge h rest⟩

/-- Of the character that comes next, a class without edges is asked the same in view. -/
theorem head_view {α : Type} {f : Char → α} {none : α} (hf : ∀ c, isEdge c = true → f c = none)
    (cs : List Char) : ((view cs).head?.map f).getD none = (cs.head?.map f).getD none := by
  rcases view_cases cs with ⟨hview, rfl | ⟨c, rest, rfl, hc⟩⟩ | ⟨c, rest, rfl, -, hview⟩
  · rfl
  · rw [hview]
    exact (hf c hc).symm
  · rw [hview]
    rfl

/-- A run of a class without edges is cut off alike, and what follows it is in view as before. -/
theorem run_view {p : Char → Bool} (hp : ∀ c, p c = true → isEdge c = false) (cs : List Char) :
    (view cs).takeWhile p = cs.takeWhile p ∧ (view cs).dropWhile p = view (cs.dropWhile p) := by
  induction cs with
  | nil => exact ⟨rfl, rfl⟩
  | cons c cs ih =>
    cases hc : p c with
    | true =>
      rw [view_of_not_isEdge (hp c hc), List.takeWhile_cons_of_pos hc,
        List.takeWhile_cons_of_pos hc, List.dropWhile_cons_of_pos hc, List.dropWhile_cons_of_pos hc,
        ih.1]
      exact ⟨rfl, ih.2⟩
    | false =>
      have hstops : StopsAt p (c :: cs) := (stopsAt_cons p c cs).2 hc
      have hview : StopsAt p (view (c :: cs)) := by
        cases hedge : isEdge c with
        | true =>
          rw [view_of_isEdge hedge]
          exact stopsAt_nil p
        | false =>
          rw [view_of_not_isEdge hedge]
          exact (stopsAt_cons p c _).2 hc
      rw [hstops.takeWhile, hstops.dropWhile, hview.takeWhile, hview.dropWhile]
      exact ⟨rfl, rfl⟩

theorem drop_view {n : Nat} (h : n ≤ (view cs).length) : (view cs).drop n = view (cs.drop n) := by
  induction n generalizing cs with
  | zero => rfl
  | succ n ih =>
    rcases view_cases cs with ⟨hview, -⟩ | ⟨c, rest, rfl, -, hview⟩
    · rw [hview] at h
      exact absurd h (Nat.not_succ_le_zero n)
    · rw [hview] at h ⊢
      exact ih (Nat.le_of_succ_le_succ h)

/-! ## What is read in view -/

theorem word_view (c : Char) (cs : List Char) : word c (view cs) = word c cs := by
  simp only [word, (run_view (fun _ => isEdge_of_isNameChar) cs).1]

theorem digitNext_view (cs : List Char) : digitNext (view cs) = digitNext cs := by
  rcases view_cases cs with ⟨hview, rfl | ⟨c, rest, rfl, hc⟩⟩ | ⟨c, rest, rfl, -, hview⟩
  · rfl
  · have hdigit : c.isDigit = false :=
      Bool.eq_false_iff.2 fun hdigit => by rw [isEdge_of_isDigit hdigit] at hc; cases hc
    rw [hview]
    exact hdigit.symm
  · rw [hview]
    rfl

theorem fractionPart_view (cs : List Char) : fractionPart (view cs) = fractionPart cs := by
  rcases view_cases cs with ⟨hview, rfl | ⟨c, rest, rfl, hc⟩⟩ | ⟨c, rest, rfl, -, hview⟩
  · rfl
  · have hdot : c ≠ '.' := by
      rintro rfl
      cases hc
    rw [hview, fractionPart.eq_2 (c :: rest) fun cs hcs => hdot (List.cons.inj hcs).1]
    rfl
  · rw [hview]
    by_cases hdot : c = '.'
    · subst hdot
      rw [fractionPart, fractionPart, digitNext_view,
        (run_view (fun _ => isEdge_of_isDigit) rest).1]
    · rw [fractionPart.eq_2 (c :: rest) fun cs hcs => hdot (List.cons.inj hcs).1,
        fractionPart.eq_2 (c :: view rest) fun cs hcs => hdot (List.cons.inj hcs).1]

theorem suffix?_view (cs : List Char) : suffix? (view cs) = suffix? cs := by
  rcases view_cases cs with ⟨hview, rfl | ⟨c, rest, rfl, hc⟩⟩ | ⟨c, rest, rfl, -, hview⟩
  · rfl
  · have hstops : StopsAt Scan.isNameChar (c :: rest) := by
      refine (stopsAt_cons _ _ _).2 (Bool.eq_false_iff.2 fun hname => ?_)
      rw [isEdge_of_isNameChar hname] at hc
      cases hc
    rw [hview, suffix?_of_stopsAt hstops]
    rfl
  · rw [hview]
    rfl

theorem nameNext_view (cs : List Char) :
    ((view cs).head?.map Scan.isNameChar).getD false = (cs.head?.map Scan.isNameChar).getD false :=
  head_view (fun c hc => Bool.eq_false_iff.2 fun hname => by
    rw [isEdge_of_isNameChar hname] at hc
    cases hc) cs

/-- The fraction and the letter of a number are in view. -/
theorem length_fraction_le_view (cs : List Char) :
    (fractionPart cs).length +
        (if (suffix? (cs.drop (fractionPart cs).length)).isSome then 1 else 0) ≤
      (view cs).length := by
  obtain ⟨fraction, tail, htail, hpart, -⟩ := exists_fraction (view cs)
  obtain ⟨letter, rest, rfl, hsuffix, hletter⟩ := exists_suffix tail
  have hlength : fraction.length ≤ (view cs).length := by
    rw [htail, List.length_append]
    exact Nat.le_add_right _ _
  rw [fractionPart_view] at hpart
  rw [hpart, ← suffix?_view, ← drop_view hlength, htail, List.drop_left, hsuffix,
    length_letter hletter]
  simp only [List.length_append]
  omega

theorem number_view (pos : Nat) (c : Char) (cs : List Char) :
    number pos c (view cs) = number pos c cs := by
  obtain ⟨htake, hdrop⟩ := run_view (p := Char.isDigit) (fun _ => isEdge_of_isDigit) cs
  have hview : (view cs).length =
      (cs.takeWhile Char.isDigit).length + (view (cs.dropWhile Char.isDigit)).length := by
    rw [← htake, ← hdrop, ← List.length_append, List.takeWhile_append_dropWhile]
  have hparts := length_fraction_le_view (cs.dropWhile Char.isDigit)
  have hfraction := Nat.le_trans (Nat.le_add_right _ _) hparts
  simp only [number, htake, hdrop, fractionPart_view, drop_view hfraction, suffix?_view]
  rw [drop_view (by omega), nameNext_view]

/-! ## One token without its position -/

/-- The kind of the token that starts at a character, and how many of the characters after it belong
to it. -/
def reading (last : Option TokenKind) (c : Char) (cs : List Char) : Option Lexeme :=
  (lexeme last 0 c cs).toOption.map fun l => (l.1, min l.2 cs.length)

theorem toOption_number (pos : Nat) (c : Char) (cs : List Char) :
    (number pos c cs).toOption = (number 0 c cs).toOption := by
  simp only [number]
  repeat' split
  all_goals rfl

theorem toOption_lexeme (last : Option TokenKind) (pos : Nat) (c : Char) (cs : List Char) :
    (lexeme last pos c cs).toOption = (lexeme last 0 c cs).toOption := by
  simp only [lexeme]
  split
  · rfl
  split
  · exact toOption_number pos c cs
  split
  · simp only [string]
    split <;> rfl
  split
  · simp only [operator]
    repeat' split
    all_goals rfl
  repeat' split
  all_goals rfl

theorem reading_eq (pos : Nat) : reading last c cs =
    (lexeme last pos c cs).toOption.map fun l => (l.1, min l.2 cs.length) := by
  rw [reading, toOption_lexeme last pos]

theorem operator_extra_le {l : Lexeme} (h : operator pos c cs = .ok l) : l.2 ≤ 1 := by
  simp only [operator] at h
  repeat' split at h
  all_goals cases h
  all_goals first | exact Nat.le_refl 1 | exact Nat.zero_le 1

/-- At the end of what is in view the look-ahead of an operator finds nothing, and counts it all the
same. -/
theorem operator_view (pos : Nat) (c : Char) (cs : List Char) :
    (operator pos c (view cs)).toOption.map (fun l => (l.1, min l.2 (view cs).length)) =
      (operator pos c cs).toOption.map (fun l => (l.1, min l.2 cs.length)) := by
  rcases view_cases cs with ⟨hview, rfl | ⟨d, rest, rfl, hd⟩⟩ | ⟨d, rest, rfl, -, hview⟩
  · rfl
  · have hpair := ofSymbol?_pair (c := c) (endsSymbol_of_isEdge hd)
    have hequals : d ≠ '=' := by
      rintro rfl
      cases hd
    rw [hview]
    cases hsingle : Operator.ofSymbol? (String.ofList [c]) with
    | none =>
      simp only [operator, List.head?_nil, List.head?_cons, Option.toList_none, Option.toList_some,
        hpair, hsingle, Option.filter_none]
      split <;> rfl
    | some o =>
      simp only [operator, List.head?_nil, List.head?_cons, Option.toList_none, Option.toList_some,
        hpair, hsingle, Option.filter_some, Option.some.injEq, hequals, decide_false,
        Bool.false_and, Bool.false_eq_true, if_false, if_neg (not_equals_of_single hsingle)]
      rfl
  · have hhead : operator pos c (d :: view rest) = operator pos c (d :: rest) := rfl
    rw [hview, hhead]
    cases hop : operator pos c (d :: rest) with
    | error f => rfl
    | ok l =>
      have hle := operator_extra_le hop
      simp only [Except.toOption, Option.map_some, List.length_cons]
      rw [Nat.min_eq_left (by omega), Nat.min_eq_left (by omega)]

theorem word_extra_le (c : Char) (cs : List Char) : (word c cs).2 ≤ cs.length :=
  (List.takeWhile_prefix Scan.isNameChar).length_le

theorem number_extra_le {l : Lexeme} (h : number pos c cs = .ok l) : l.2 ≤ cs.length := by
  obtain ⟨k, extra⟩ := l
  obtain ⟨whole, fraction, letter, rest, -, rfl, -, -, -, -, rfl⟩ := exists_numeral h
  simp only [List.length_append]
  omega

theorem reading_view (last : Option TokenKind) (hc : c ≠ '"') (cs : List Char) :
    reading last c (view cs) = reading last c cs := by
  simp only [reading, lexeme, digitNext_view, if_neg hc]
  split
  · have hview := word_extra_le c (view cs)
    rw [word_view] at hview ⊢
    simp only [Except.toOption, Option.map_some, Nat.min_eq_left hview,
      Nat.min_eq_left (word_extra_le c cs)]
  split
  · rw [number_view]
    cases hnumber : number 0 c cs with
    | error f => rfl
    | ok l =>
      have hview := number_extra_le ((number_view 0 c cs).trans hnumber)
      simp only [Except.toOption, Option.map_some, Nat.min_eq_left hview,
        Nat.min_eq_left (number_extra_le hnumber)]
  split
  · exact operator_view 0 c cs
  -- what is left are the tokens of one character
  repeat' split
  all_goals simp [Except.toOption]

/-- Texts that agree up to their first edge are read alike. -/
theorem reading_congr {last : Option TokenKind} (hc : c ≠ '"') {cs cs' : List Char}
    (h : view cs = view cs') : reading last c cs = reading last c cs' := by
  rw [← reading_view last hc cs, h, reading_view last hc cs']

/-- What is read is in view. -/
theorem length_le_view_of_reading (hc : c ≠ '"') {k : TokenKind} {n : Nat}
    (h : reading last c cs = some (k, n)) : n ≤ (view cs).length := by
  rw [← reading_view last hc] at h
  obtain ⟨l, -, heq⟩ := Option.map_eq_some_iff.1 h
  cases heq
  exact Nat.min_le_right _ _

/-! ## Tokens without positions -/

/-- The kinds of the tokens of a text, nothing if it cannot be read. -/
def kindsFrom (last : Option TokenKind) : List Char → Option (List TokenKind)
  | [] => some []
  | c :: cs =>
    if Text.isBlank c then kindsFrom last cs
    else
      match reading last c cs with
      | none => none
      | some (k, n) => (kindsFrom (some k) (cs.drop n)).map (k :: ·)
termination_by cs => cs.length
decreasing_by
  · simp
  · simp only [List.length_drop, List.length_cons]
    omega

theorem drop_min_length (n : Nat) (cs : List Char) : cs.drop (min n cs.length) = cs.drop n := by
  rcases Nat.le_total n cs.length with h | h
  · rw [Nat.min_eq_left h]
  · rw [Nat.min_eq_right h, List.drop_eq_nil_of_le h, List.drop_length]

theorem kinds_tokensFrom (pos : Nat) (last : Option TokenKind) (cs : List Char) :
    (tokensFrom pos last cs).toOption.map kinds = kindsFrom last cs := by
  fun_induction tokensFrom pos last cs with
  | case1 =>
    rw [kindsFrom]
    rfl
  | case2 pos last c cs hc ih => rw [kindsFrom, if_pos hc, ih]
  | case3 pos last c cs hc f hlex =>
    rw [kindsFrom, if_neg hc, reading_eq pos, hlex]
    rfl
  | case4 pos last c cs hc k extra hlex f hrest ih =>
    rw [hrest] at ih
    rw [kindsFrom, if_neg hc, reading_eq pos, hlex]
    simp only [Except.toOption, Option.map_some, drop_min_length]
    rw [← ih]
    rfl
  | case5 pos last c cs hc k extra hlex ts hrest ih =>
    rw [hrest] at ih
    rw [kindsFrom, if_neg hc, reading_eq pos, hlex]
    simp only [Except.toOption, Option.map_some, drop_min_length]
    rw [← ih]
    rfl

theorem lexes_iff {ks : List TokenKind} : Lexes last cs ks ↔ kindsFrom last cs = some ks := by
  constructor
  · intro h
    obtain ⟨ts, hts, hks⟩ := h 0
    rw [← kinds_tokensFrom 0, hts, ← hks]
    rfl
  · intro h pos
    rw [← kinds_tokensFrom pos] at h
    obtain ⟨ts, hts, hks⟩ := Option.map_eq_some_iff.1 h
    cases htokens : tokensFrom pos last cs with
    | error f =>
      rw [htokens] at hts
      cases hts
    | ok us =>
      rw [htokens] at hts
      obtain rfl := Option.some.inj hts
      exact ⟨us, rfl, hks⟩

/-! ## A marker at the end -/

theorem stringBody_append_marker (cs : List Char) :
    stringBody (cs ++ ['@']) = stringBody cs := by
  fun_induction stringBody cs with
  | case1 => rfl
  | case2 cs => rfl
  | case3 => rfl
  | case4 e cs ih =>
    rw [List.cons_append, List.cons_append, stringBody, ih]
  | case5 c cs hquote hlast hescape ih =>
    have hplain : c ≠ '\\' := by
      rintro rfl
      rcases cs with _ | ⟨e, cs⟩
      · exact hlast rfl rfl
      · exact hescape e cs rfl rfl
    rw [List.cons_append, stringBody_cons hquote hplain, ih]

theorem view_append_marker (cs : List Char) : view (cs ++ ['@']) = view cs := by
  induction cs with
  | nil => rfl
  | cons c cs ih =>
    cases hc : isEdge c with
    | true => rw [List.cons_append, view_of_isEdge hc, view_of_isEdge hc]
    | false => rw [List.cons_append, view_of_not_isEdge hc, view_of_not_isEdge hc, ih]

/-- A text in quotes is read up to its closing quote, or not at all. -/
theorem reading_quote (last : Option TokenKind) (cs : List Char) :
    reading last '"' cs =
      (stringBody cs).map fun r => (.literal (.str (String.ofList r.1)), r.2) := by
  rw [reading, lexeme_quote, string]
  cases hbody : stringBody cs with
  | none => rfl
  | some r =>
    obtain ⟨content, n⟩ := r
    obtain ⟨body, rest, rfl, rfl, -⟩ := exists_stringBody hbody
    have hle : body.length ≤ (body ++ rest).length := by
      rw [List.length_append]
      exact Nat.le_add_right _ _
    simp only [Except.toOption, Option.map_some, Nat.min_eq_left hle]

theorem reading_append_marker (last : Option TokenKind) (c : Char) (cs : List Char) :
    reading last c (cs ++ ['@']) = reading last c cs := by
  by_cases hc : c = '"'
  · rw [hc, reading_quote, reading_quote, stringBody_append_marker]
  · exact reading_congr hc (view_append_marker cs)

theorem le_length_of_reading {k : TokenKind} {n : Nat} (h : reading last c cs = some (k, n)) :
    n ≤ cs.length := by
  obtain ⟨l, -, heq⟩ := Option.map_eq_some_iff.1 h
  cases heq
  exact Nat.min_le_right _ _

/-- A marker at the end of a text is one more token. -/
theorem kindsFrom_append_marker (last : Option TokenKind) (cs : List Char) :
    kindsFrom last (cs ++ ['@']) = (kindsFrom last cs).map (· ++ [.marker]) := by
  fun_induction kindsFrom last cs with
  | case1 last =>
    have hread : reading last '@' [] = some (.marker, 0) := rfl
    rw [List.nil_append, kindsFrom, if_neg (by decide), hread]
    simp only [List.drop_nil, kindsFrom, Option.map_some, List.nil_append]
  | case2 last c cs hc ih => rw [List.cons_append, kindsFrom, if_pos hc, ih]
  | case3 last c cs hc hread =>
    rw [List.cons_append, kindsFrom, if_neg hc, reading_append_marker, hread]
    rfl
  | case4 last c cs hc k n hread ih =>
    rw [List.cons_append, kindsFrom, if_neg hc, reading_append_marker, hread]
    simp only [List.drop_append_of_le_length (le_length_of_reading hread), ih, Option.map_map]
    rfl

end Lexer

end DevConsole
