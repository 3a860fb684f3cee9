/-
# `DevConsole.Proofs.Eval.OperatorChain` — a line of integers and operators, from text to value

There is no precedence: the right side of an operator is the whole rest of the line.  So a line

    a₀ op₁ a₁ op₂ a₂ ⋯ opₙ aₙ

of machine integers and operators that are no comparisons, with any blanks between them or none, has
the value of the fold from the right,

    a₀ op₁ (a₁ op₂ (a₂ ⋯ opₙ aₙ))

computed in whole numbers and cut to 64 bits after every step (`rightFold`), whatever the world, the
root and the rule for operators are.  It fails where that fold divides by zero, and nowhere else
(`rightFold_eq_none_iff`), with no frame active.  Objects are not touched.

The way goes through every layer: the text is cut back into the pieces it was put together from
(`lexes_chainText`), these derive the tree that leans to the right (`derives_chain`), and the tree is
evaluated by the overload that every world has for two integers (`overload?_int`).  The nesting of
the tree is the number of integers, so a line of more than `maxDepth` of them is not read
(`expr_of_chainKinds`).
-/
import DevConsole.Proofs.Lexing.Integers
import DevConsole.Proofs.Number.Wrapping
import DevConsole.Eval.Evaluate

namespace DevConsole

/-- An operator that is no comparison and the number after it, with the blanks around the operator. -/
structure Link where
  before : List Char
  op : Operator
  after : List Char
  value : Int64
  blank_before : ∀ c ∈ before, Text.isBlank c = true
  blank_after : ∀ c ∈ after, Text.isBlank c = true
  no_comparison : op.compares = false

/-- The text of a chain. -/
def chainText (a : Int64) : List Link → List Char
  | [] => Decimal.ofInt a.toInt
  | l :: ls =>
    Decimal.ofInt a.toInt ++
      (l.before ++ (l.op.symbol.toList ++ (l.after ++ chainText l.value ls)))

/-- The fold of a chain from the right, where it does not divide by zero. -/
def rightFold (a : Int64) : List Link → Option Int64
  | [] => some a
  | l :: ls =>
    (rightFold l.value ls).bind fun b =>
      (Arithmetic.whole? l.op a.toInt b.toInt).map Int64.ofInt

/-- The quotient that has no place in 64 bits comes back as the dividend. -/
example : rightFold Int64.minValue
    [⟨[], .div, [' '], -1, List.all_eq_true.1 rfl, List.all_eq_true.1 rfl, rfl⟩] =
      some Int64.minValue := by
  decide

/-! ## Division by zero -/

theorem whole?_eq_none_iff {op : Operator} (h : op.compares = false) (x y : Int) :
    Arithmetic.whole? op x y = none ↔ (op = .div ∨ op = .rem) ∧ y = 0 := by
  cases op <;> simp [Arithmetic.whole?, Operator.compares] at h ⊢

/-- The fold fails at a division whose right side comes out as zero. -/
theorem rightFold_eq_none_iff (a : Int64) (ls : List Link) :
    rightFold a ls = none ↔ ∃ pre l post, ls = pre ++ l :: post ∧
      (l.op = .div ∨ l.op = .rem) ∧ rightFold l.value post = some 0 := by
  induction ls generalizing a with
  | nil => simp [rightFold]
  | cons l ls ih =>
      rw [rightFold]
      constructor
      · intro h
        -- the fold fails further to the right, or else at this operator
        rcases hr : rightFold l.value ls with _ | b
        · obtain ⟨pre, m, post, rfl, hop, hzero⟩ := (ih l.value).1 hr
          exact ⟨l :: pre, m, post, rfl, hop, hzero⟩
        · rw [hr, Option.bind_some, Option.map_eq_none_iff,
            whole?_eq_none_iff l.no_comparison, Arithmetic.toInt_eq_zero_iff] at h
          obtain ⟨hop, rfl⟩ := h
          exact ⟨[], l, ls, rfl, hop, hr⟩
      · rintro ⟨pre, m, post, heq, hop, hzero⟩
        rcases pre with _ | ⟨p, pre⟩
        · cases heq
          rw [hzero, Option.bind_some, Option.map_eq_none_iff,
            whole?_eq_none_iff l.no_comparison]
          exact ⟨hop, rfl⟩
        · cases heq
          rw [(ih l.value).2 ⟨pre, m, post, rfl, hop, hzero⟩, Option.bind_none]

/-! ## From text to tokens -/

/-- The tokens of a chain. -/
def chainKinds (a : Int64) : List Link → List TokenKind
  | [] => [.literal (.int a)]
  | l :: ls => .literal (.int a) :: .op l.op :: chainKinds l.value ls

namespace Lexer

theorem exists_chainText (a : Int64) (ls : List Link) :
    ∃ cs, chainText a ls = Decimal.ofInt a.toInt ++ cs := by
  cases ls with
  | nil => exact ⟨[], (List.append_nil _).symm⟩
  | cons l ls => exact ⟨_, rfl⟩

theorem lexes_chainText : ∀ (ls : List Link) (a : Int64) (last : Option TokenKind),
    (last.map TokenKind.admitsSign).getD true = true →
    Lexes last (chainText a ls) (chainKinds a ls)
  | [], a, last, hsign => by
      have hlexes : Lexes last (Decimal.ofInt a.toInt ++ []) [.literal (.int a)] :=
        .integer (fun _ => hsign) ⟨stopsAt_nil _, rfl⟩ (Lexes.nil _)
      rwa [List.append_nil] at hlexes
  | l :: ls, a, last, hsign => by
      have hrest : Lexes (some (.op l.op)) (l.after ++ chainText l.value ls)
          (chainKinds l.value ls) :=
        .blanks l.blank_after (lexes_chainText ls l.value _ rfl)
      have hop : Lexes (some (.literal (.int a)))
          (l.op.symbol.toList ++ (l.after ++ chainText l.value ls))
          (.op l.op :: chainKinds l.value ls) := by
        obtain ⟨cs, hcs⟩ := exists_chainText l.value ls
        have hstops : StopsAt endsSymbol (l.after ++ chainText l.value ls) := by
          rw [hcs]
          exact stopsAt_append (fun c hc => endsSymbol_of_isBlank (l.blank_after c hc))
            (stopsAt_ofInt _ _)
        -- an operator is read with the next character in view, so that character gets a name
        rcases heq : l.after ++ chainText l.value ls with _ | ⟨d, ds⟩
        · rw [hcs] at heq
          exact absurd (List.append_eq_nil_iff.1 (List.append_eq_nil_iff.1 heq).2).1
            (ofInt_ne_nil _)
        · rw [heq] at hrest hstops
          exact .symbol l.op ((stopsAt_cons _ _ _).1 hstops) Bool.false_ne_true hrest
      refine .integer (fun _ => hsign) (.of_stops ?_) (.blanks l.blank_before hop)
      exact stopsAt_append (fun c hc => numberGoesOn_of_isBlank (l.blank_before c hc))
        (stopsAt_symbol _ _)

end Lexer

/-! ## From tokens to the tree -/

/-- The tree of a chain. -/
def chainExpr (a : Int64) : List Link → Expr
  | [] => .literal (.int a)
  | l :: ls => .binary l.op (.literal (.int a)) (chainExpr l.value ls)

namespace Grammar

theorem derives_chain : ∀ (ls : List Link) (a : Int64) (d : Nat), d + ls.length ≤ Parser.maxDepth →
    Derives Open d (.expr (chainExpr a ls)) (chainKinds a ls)
  | [], _, _, hd => .expr hd .literal
  | l :: ls, a, d, hd => by
      have hright := derives_chain ls l.value (d + 1) (by simp only [List.length_cons] at hd; omega)
      exact .binary (by omega) .literal rfl hright

/-- Where a chain has more integers than there are levels left, the parser stops at the first that
is too deep. -/
theorem expr_of_chainKinds (stop : Nat) : ∀ (levels : Nat) (ls : List Link) (a : Int64)
    (ts : List Token), levels ≤ ls.length → kinds ts = chainKinds a ls →
    ∃ us, Parser.expr stop levels ts = .error (Parser.tooDeep stop us)
  | 0, _, _, ts, _, _ => ⟨ts, rfl⟩
  | levels + 1, [], _, _, hle, _ => absurd hle (Nat.not_succ_le_zero levels)
  | levels + 1, l :: ls, a, ts, hle, hts => by
      obtain ⟨s, e, us, rfl, hus⟩ := kinds_eq_cons hts
      obtain ⟨s', e', vs, rfl, hvs⟩ := kinds_eq_cons hus
      obtain ⟨ws, hws⟩ :=
        expr_of_chainKinds stop levels ls l.value vs (Nat.le_of_succ_le_succ hle) hvs
      refine ⟨ws, ?_⟩
      have hclear : Clear isDot (⟨.op l.op, s', e'⟩ :: vs) := (clear_cons _ _ _).2 rfl
      simp only [Parser.expr, Parser.primary, chain_of_clear hclear, Parser.operation, hws]

end Grammar

theorem parse_chainText {a : Int64} {ls : List Link} (h : ls.length < Parser.maxDepth) :
    Parser.parse (String.ofList (chainText a ls)) = .ok ⟨some (chainExpr a ls), false⟩ := by
  have hlexes := Lexer.lexes_chainText ls a none rfl
  have hderives := Grammar.derives_chain ls a 1 (by omega)
  refine Lexer.parse_of_lexes ?_ (.value hderives)
  rwa [String.toList_ofList]

theorem parse_chainText_of_le {a : Int64} {ls : List Link} (h : Parser.maxDepth ≤ ls.length) :
    ∃ stop us, Parser.parse (String.ofList (chainText a ls)) = .error (Parser.tooDeep stop us) := by
  obtain ⟨ts, htokens, hts⟩ := Lexer.lexes_chainText ls a none rfl 0
  obtain ⟨us, hus⟩ :=
    Grammar.expr_of_chainKinds (chainText a ls).length Parser.maxDepth ls a ts h hts
  refine ⟨(chainText a ls).length, us, ?_⟩
  have hline : Parser.line (chainText a ls).length ts =
      .error (Parser.tooDeep (chainText a ls).length us) := by
    obtain ⟨ks, hks⟩ : ∃ ks, chainKinds a ls = .literal (.int a) :: ks := by
      cases ls <;> exact ⟨_, rfl⟩
    obtain ⟨s, e, ts', rfl, -⟩ := Grammar.kinds_eq_cons (hts.trans hks)
    simp only [Parser.line, hus]
  simp only [Parser.parse, String.toList_ofList, Lexer.tokenize, htokens, hline]

/-! ## From the tree to the value -/

/-- Every world has the operators of integers. -/
theorem World.overload?_int (w : World) (s : Store) (op : Operator) (a b : Int64) :
    ∃ o : Overload, w.overload? s op (.int a) (.int b) = some o ∧
      ∀ l r s', o.apply l r s' = Act.ofExcept ((Arithmetic.result? w.catalog s' op l r).getD
        (.error (Arithmetic.undefinedFor w.catalog s' op l r))) s' := by
  cases op <;> exact ⟨_, rfl, fun _ _ _ => rfl⟩

/-- How a computation on integers ends that has a result unless it divides by zero. -/
def ended : Option Int64 → Except Abort Value
  | some i => .ok (.int i)
  | none => .error (.failed (.of .divideByZero))

theorem World.applyOperator_int (w : World) (strict : Bool) {op : Operator}
    (h : op.compares = false) (a b : Int64) (s : Store) :
    w.applyOperator strict op (.int a) (.int b) s =
      (ended ((Arithmetic.whole? op a.toInt b.toInt).map Int64.ofInt), s) := by
  obtain ⟨o, ho, happly⟩ := w.overload?_int s op a b
  have hresult : Arithmetic.result? w.catalog s op (.int a) (.int b) = Arithmetic.int? op a b := by
    cases op <;> rfl
  have hoverload : w.applyOperator strict op (.int a) (.int b) s = o.apply (.int a) (.int b) s := by
    simp only [World.applyOperator, bind, Act.bind, Act.get, ho]
  rw [hoverload, happly, hresult, Arithmetic.int?_eq h]
  rcases Arithmetic.whole? op a.toInt b.toInt with _ | i <;> rfl

namespace Context

variable (cx : Context)

theorem operate_int {op : Operator} (h : op.compares = false) (a b : Int64) (r : Run) :
    cx.operate op (.int a) (.int b) r =
      (ended ((Arithmetic.whole? op a.toInt b.toInt).map Int64.ofInt), r) := by
  show ((cx.world.applyOperator cx.strict op (.int a) (.int b) r.store).1,
    { r with store := (cx.world.applyOperator cx.strict op (.int a) (.int b) r.store).2 }) = _
  rw [cx.world.applyOperator_int cx.strict h]

/-- The right side is evaluated to its end before the operator is applied, so the innermost division
by zero is the one that ends the evaluation. -/
theorem evalSigned_chain : ∀ (ls : List Link) (a : Int64) (r : Run),
    cx.evalSigned false (chainExpr a ls) r = (ended (rightFold a ls), r)
  | [], a, r => by
      rw [chainExpr, evalSigned]
      rfl
  | l :: ls, a, r => by
      have hleft : cx.evalSigned false (.literal (.int a)) = pure (.int a) := by
        rw [evalSigned]
        rfl
      have hstep : cx.evalSigned false (chainExpr a (l :: ls)) =
          cx.evalSigned false (chainExpr l.value ls) >>= cx.operate l.op (.int a) := by
        rw [chainExpr, evalSigned, hleft, pure_bind]
      have hright : (cx.evalSigned false (chainExpr l.value ls)).run r =
          (ended (rightFold l.value ls), r) := evalSigned_chain ls l.value r
      show (cx.evalSigned false (chainExpr a (l :: ls))).run r = _
      rw [hstep, Act.run_bind, hright, rightFold]
      rcases rightFold l.value ls with _ | b
      · rfl
      · exact cx.operate_int l.no_comparison a b r

/-- The value of a line of integers and operators is the fold from the right.  The failure of a
division by zero bears no frames, and a line that is too long is malformed. -/
theorem evaluate_chain (a : Int64) (ls : List Link) (s : Store) :
    (if ls.length < Parser.maxDepth then
      cx.evaluate (String.ofList (chainText a ls)) s =
        (match rightFold a ls with
          | some v => .ok (.value (.int v))
          | none => .error (.failed ⟨.divideByZero, none⟩), s)
    else ∃ column, cx.evaluate (String.ofList (chainText a ls)) s =
      (.error (.failed (.malformed column ("expression nested deeper than " ++
        Decimal.natText Parser.maxDepth ++ " levels"))), s)) ∧
    (rightFold a ls = none ↔ ∃ pre l post, ls = pre ++ l :: post ∧
      (l.op = .div ∨ l.op = .rem) ∧ rightFold l.value post = some 0) := by
  refine ⟨?_, rightFold_eq_none_iff a ls⟩
  by_cases h : ls.length < Parser.maxDepth
  · have hvalue : (cx.lineValue ⟨some (chainExpr a ls), false⟩).run s =
        (ended (rightFold a ls), s) := by
      show cx.evalHost (chainExpr a ls) s = _
      rw [evalHost, eval, evalSigned_chain]
    rw [if_pos h, evaluate, parse_chainText h]
    show (cx.evalLine ⟨some (chainExpr a ls), false⟩).run s = _
    rw [evalLine, Act.run_bind, hvalue]
    rcases rightFold a ls with _ | v <;> rfl
  · obtain ⟨stop, us, hus⟩ := parse_chainText_of_le (a := a) (Nat.le_of_not_lt h)
    rw [if_neg h, evaluate, hus]
    exact ⟨_, rfl⟩

end Context

end DevConsole
