/-
# `DevConsole.Proofs.Eval.Marker` — a marker asks for the members of what the text gives

To list the members of a chain, completion evaluates the text of the chain with a marker behind it.
A marker is one more token, and the grammar has it at the end of a line only.  So a text that does
not end with a marker reads with one as the same expression, for which members are asked
(`Lexer.parse_append_marker`, `Lexer.exists_expr_of_parse`).

It is then evaluated once, from the same objects, and to the same end: a value, whose members are
listed, a failure, or a panic (`Context.lists_evaluate`).
-/
import DevConsole.Eval.Evaluate
import DevConsole.Proofs.Grammar.Exactness
import DevConsole.Proofs.Lexing.LookAhead

namespace DevConsole

/-! ## The marker in the grammar -/

namespace Grammar

/-- No production has a marker in it. -/
theorem Derives.marker_not_mem {c : Expr → Prop} {d : Nat} {p : Phrase} {ks : List TokenKind}
    (h : Derives c d p ks) : TokenKind.marker ∉ ks := by
  induction h with
  | expr _ _ ih => exact ih
  | typeMember _ _ ih => simp [ih]
  | lastArg _ ih => exact ih
  | name _ ih => simp [ih]
  | group _ ih => simp [ih]
  | call _ ih => simp [ih]
  | binary _ _ _ _ ihl ihr => simp [ihl, ihr]
  | assign _ _ _ _ _ ihl ihr => simp [ihl, ihr]
  | cast _ _ ihl ihr => simp [ihl, ihr]
  | new _ _ ihl ihr => simp [ihl, ihr]
  | member _ _ _ _ ihl ihr => simp [ihl, ihr]
  | arg _ _ ihl ihr => simp [ihl, ihr]
  | literal | typeName | noCall | emptyCall => simp

/-- With a marker at the end, tokens are the same line with members asked for. -/
theorem derivesLine_append_marker {c : Expr → Prop} {l : Line} {ks : List TokenKind} :
    DerivesLine c l (ks ++ [.marker]) ↔ l.introspect = true ∧ DerivesLine c ⟨l.expr, false⟩ ks := by
  constructor
  · intro h
    generalize hks : ks ++ [TokenKind.marker] = us at h
    cases h with
    | empty => simp at hks
    | members =>
      obtain rfl : ks = [] := by simpa using hks
      exact ⟨rfl, .empty⟩
    | value he =>
      refine absurd ?_ he.marker_not_mem
      rw [← hks]
      exact List.mem_append_right ks (List.mem_singleton_self _)
    | valueMembers he =>
      obtain ⟨rfl, -⟩ := List.append_inj' hks rfl
      exact ⟨rfl, .value he⟩
  · obtain ⟨e, introspect⟩ := l
    rintro ⟨rfl, h⟩
    cases h with
    | empty => exact .members
    | value he => exact .valueMembers he

end Grammar

/-! ## The marker in a text -/

namespace Lexer

open Grammar (DerivesLine Open kinds)

variable {last : Option TokenKind} {c : Char} {cs : List Char} {ks : List TokenKind} {l : Line}

theorem keywordOrName_ne_marker (s : String) : keywordOrName s ≠ .marker := by
  rw [keywordOrName]
  repeat' split
  all_goals rintro ⟨⟩

/-- Only the marker itself is read as a marker. -/
theorem of_reading_marker {n : Nat} (h : reading last c cs = some (.marker, n)) :
    c = '@' ∧ n = 0 := by
  obtain ⟨⟨k, extra⟩, hlex, heq⟩ := Option.map_eq_some_iff.1 ((reading_eq 0).symm.trans h)
  cases hlexeme : lexeme last 0 c cs with
  | error f =>
    rw [hlexeme] at hlex
    cases hlex
  | ok l =>
    rw [hlexeme] at hlex
    obtain rfl : l = (k, extra) := Option.some.inj hlex
    obtain ⟨rfl, hn⟩ := Prod.mk.inj heq
    obtain ⟨body, rest, -, hwrites, hextra⟩ := exists_writes hlexeme
    generalize hk : TokenKind.marker = k at hwrites
    cases hwrites with
    | word hstart hbody => exact absurd hk.symm (keywordOrName_ne_marker _)
    | number => cases hk
    | string => cases hk
    | operator hc htext =>
      subst hk
      cases htext
    | mark hmem =>
      subst hk
      simp only [marks, List.mem_cons, Prod.mk.injEq, reduceCtorEq, and_false, List.not_mem_nil,
        and_true, or_false, false_or] at hmem
      refine ⟨hmem, ?_⟩
      rw [← hn, hextra]
      exact Nat.zero_min _

/-- The last character is one that a line can end with, but not a marker. -/
def Unmarked (cs : List Char) : Prop :=
  ∃ c, cs.getLast? = some c ∧ Text.isBlank c = false ∧ c ≠ '@'

/-- A text that does not end with a marker has a last token, and this is no marker. -/
theorem exists_last_kind (hcs : Unmarked cs) (h : kindsFrom last cs = some ks) :
    ∃ k, ks.getLast? = some k ∧ k ≠ .marker := by
  obtain ⟨x, hx, hblank, hat⟩ := hcs
  fun_induction kindsFrom last cs generalizing ks with
  | case1 => cases hx
  | case2 last c cs hc ih =>
    cases cs with
    | nil =>
      obtain rfl : c = x := Option.some.inj hx
      rw [hc] at hblank
      cases hblank
    | cons d cs => exact ih h hx
  | case3 => cases h
  | case4 last c cs hc k n hread ih =>
    obtain ⟨us, hus, rfl⟩ := Option.map_eq_some_iff.1 h
    rcases Nat.lt_or_ge n cs.length with hlt | hge
    · have hne : cs ≠ [] := by
        rintro rfl
        cases hlt
      have hrest : (cs.drop n).getLast? = some x := by
        rw [List.getLast?_drop, if_neg (Nat.not_le.2 hlt), ← hx, List.getLast?_cons_of_ne_nil hne]
      obtain ⟨k', hk', hmarker⟩ := ih hus hrest
      refine ⟨k', ?_, hmarker⟩
      rw [List.getLast?_cons, hk']
      rfl
    · rw [List.drop_eq_nil_of_le hge, kindsFrom] at hus
      cases hus
      refine ⟨k, rfl, ?_⟩
      rintro rfl
      obtain ⟨rfl, rfl⟩ := of_reading_marker hread
      cases List.eq_nil_of_length_eq_zero (Nat.le_zero.1 hge)
      exact hat (Option.some.inj hx).symm

/-- A text is read as a line exactly if its tokens derive this line. -/
theorem parse_eq_ok_iff :
    Parser.parse (.ofList cs) = .ok l ↔
      ∃ ks, kindsFrom none cs = some ks ∧ DerivesLine Open l ks := by
  rw [← kinds_tokensFrom 0]
  simp only [Parser.parse, String.toList_ofList, tokenize]
  cases htokens : tokensFrom 0 none cs with
  | error f => simp [Except.toOption]
  | ok ts =>
    simp only [Except.toOption, Option.map_some, Option.some.injEq, exists_eq_left']
    exact (Grammar.line_eq_ok_iff cs.length ts l).1

/-- With a marker at the end, a text is read as the same line with members asked for. -/
theorem parse_append_marker :
    Parser.parse (.ofList (cs ++ ['@'])) = .ok l ↔
      l.introspect = true ∧ Parser.parse (.ofList cs) = .ok ⟨l.expr, false⟩ := by
  simp only [parse_eq_ok_iff, kindsFrom_append_marker, Option.map_eq_some_iff]
  constructor
  · rintro ⟨_, ⟨ks, hks, rfl⟩, hl⟩
    obtain ⟨hasks, hl⟩ := Grammar.derivesLine_append_marker.1 hl
    exact ⟨hasks, ks, hks, hl⟩
  · rintro ⟨hasks, ks, hks, hl⟩
    exact ⟨_, ⟨ks, hks, rfl⟩, Grammar.derivesLine_append_marker.2 ⟨hasks, hl⟩⟩

/-- Without a marker at its end, a text is read as an expression. -/
theorem exists_expr_of_parse (hcs : Unmarked cs) (h : Parser.parse (.ofList cs) = .ok l) :
    ∃ e, l = ⟨some e, false⟩ := by
  obtain ⟨ks, hks, hl⟩ := parse_eq_ok_iff.1 h
  obtain ⟨k, hk, hmarker⟩ := exists_last_kind hcs hks
  cases hl with
  | empty => cases hk
  | members =>
    cases hk
    exact absurd rfl hmarker
  | value => exact ⟨_, rfl⟩
  | valueMembers =>
    rw [List.getLast?_concat] at hk
    cases hk
    exact absurd rfl hmarker

end Lexer

/-! ## Evaluation -/

namespace Context

variable (cx : Context)

/-- How evaluation ends with a marker behind the text, by how it ends without. -/
inductive Lists : Except Abort Outcome × Store → Except Abort Outcome × Store → Prop
  | value (v : Value) (s : Store) :
    Lists (.ok (.value v), s) (.ok (.members (cx.world.membersOf s v)), s)
  | failed (f f' : Failure) (s : Store) : Lists (.error (.failed f), s) (.error (.failed f'), s)
  | panicked (p : Panic) (s : Store) : Lists (.error (.panicked p), s) (.error (.panicked p), s)

theorem run_evaluate_of_error {source : String} {f : Failure}
    (h : Parser.parse source = .error f) (s : Store) :
    (cx.evaluate source).run s = (.error (.failed f), s) := by
  rw [evaluate, h]
  rfl

theorem run_evaluate_of_ok {source : String} {l : Line} (h : Parser.parse source = .ok l)
    (s : Store) : (cx.evaluate source).run s = (cx.evalLine l).run s := by
  rw [evaluate, h]
  rfl

theorem lists_evalLine (e : Expr) (s : Store) :
    Lists cx ((cx.evalLine ⟨some e, false⟩).run s) ((cx.evalLine ⟨some e, true⟩).run s) := by
  rw [evalLine, evalLine, Act.run_bind, Act.run_bind, lineValue, lineValue]
  rcases (cx.evalHost e).run s with ⟨(f | p) | v, s'⟩
  · exact .failed f f s'
  · exact .panicked p s'
  · exact .value v s'

/-- With a marker behind it, a text is evaluated as it is without, and members are listed in place
of the value. -/
theorem lists_evaluate {cs : List Char} (hcs : Lexer.Unmarked cs) (s : Store) :
    Lists cx ((cx.evaluate (.ofList cs)).run s) ((cx.evaluate (.ofList (cs ++ ['@']))).run s) := by
  cases hparse : Parser.parse (.ofList cs) with
  | ok l =>
    obtain ⟨e, rfl⟩ := Lexer.exists_expr_of_parse hcs hparse
    have hmarked : Parser.parse (.ofList (cs ++ ['@'])) = .ok ⟨some e, true⟩ :=
      Lexer.parse_append_marker.2 ⟨rfl, hparse⟩
    rw [run_evaluate_of_ok cx hparse, run_evaluate_of_ok cx hmarked]
    exact lists_evalLine cx e s
  | error f =>
    rw [run_evaluate_of_error cx hparse]
    cases hmarked : Parser.parse (.ofList (cs ++ ['@'])) with
    | ok l =>
      rw [(Lexer.parse_append_marker.1 hmarked).2] at hparse
      cases hparse
    | error f' =>
      rw [run_evaluate_of_error cx hmarked]
      exact .failed f f' s

end Context

end DevConsole
