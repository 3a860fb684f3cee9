/-
# `DevConsole.Proofs.Eval.Stack` — the stack of a failure is where it happened

The stack that a failure reports is put together by the frames it leaves: the first one attaches all
active frames, the others leave it alone.  Here is said, without frames, what it comes to.  An
evaluation that fails has one failing step, and some of the expressions around that step run in a
frame.  `cx.FailsAt negative e s ns c` says that the evaluation of `e` from the objects `s` fails
with the cause `c` inside of the expressions `ns`, innermost first:

    group, left, right       the failure of a part, which adds nothing
    operator, sign           the failure of a step outside of all frames of its own
    castOperand, cast        a cast of a negated operand is a frame around the operand and the cast
    operand, finish          a frame around the operands and the step of the expression

The rules go by what the parts of the expression evaluate to on their own, from no active frames.
The stack is the list of the texts of `ns` (`fails_iff`), and failing below active frames puts these
behind it (`stack_exact`).
-/
import DevConsole.Proofs.Eval.Frames
import DevConsole.Proofs.Grammar.Malformed

namespace DevConsole

variable {α β : Type}

/-! ## Values and failures from no active frames -/

/-- From the objects `s`, a computation gives `v` and leaves `s'`. -/
def EvalM.Gives (a : EvalM α) (s : Store) (v : α) (s' : Store) : Prop :=
  a.run ⟨s, []⟩ = (.ok v, ⟨s', []⟩)

/-- From the objects `s`, a computation fails with the cause `c` and the stack `L`. -/
def EvalM.Fails (a : EvalM α) (s : Store) (c : Cause) (L : List String) : Prop :=
  ∃ f r, a.run ⟨s, []⟩ = (.error (.failed f), r) ∧ f.cause = c ∧ f.stack = L

/-- From the objects `s`, host code fails with the cause `c`. -/
def Act.Refuses (a : HostM α) (s : Store) (c : Cause) : Prop :=
  ∃ f s', a.run s = (.error (.failed f), s') ∧ f.cause = c

namespace EvalM

theorem not_fails_pure {x : α} {s : Store} {c : Cause} {L : List String} :
    ¬ EvalM.Fails (pure x) s c L := by
  rintro ⟨f, r, h, -⟩
  cases h

theorem fails_bind {a : EvalM α} {f : α → EvalM β} (ha : a.Exact) {s : Store} {c : Cause}
    {L : List String} :
    (a >>= f).Fails s c L ↔ a.Fails s c L ∨ ∃ v s', a.Gives s v s' ∧ (f v).Fails s' c L := by
  have hframes := ha.frames_nil s
  rw [Fails, Fails, Act.run_bind]
  rcases hrun : a.run ⟨s, []⟩ with ⟨e | x, ⟨s', F⟩⟩
  · constructor
    · rintro ⟨g, r, h, hg⟩
      cases h
      exact .inl ⟨g, _, rfl, hg⟩
    · rintro (⟨g, r, h, hg⟩ | ⟨v, s', h, -⟩)
      · cases h
        exact ⟨g, _, rfl, hg⟩
      · rw [Gives, hrun] at h
        cases h
  · rw [hrun] at hframes
    cases hframes
    constructor
    · intro h
      exact .inr ⟨x, s', hrun, h⟩
    · rintro (⟨g, r, h, -⟩ | ⟨v, s'', h, hf⟩)
      · cases h
      · rw [Gives, hrun] at h
        cases h
        exact hf

/-- A frame puts its label at the end of the stack. -/
theorem fails_framed {a : EvalM α} (ha : a.Exact) {label : String} {s : Store} {c : Cause}
    {L : List String} :
    (EvalM.framed label a).Fails s c L ↔ ∃ L', a.Fails s c L' ∧ L = L' ++ [label] := by
  rw [Fails, ha.run_framed]
  rcases hrun : a.run ⟨s, []⟩ with ⟨(g | p) | x, r'⟩
  · constructor
    · rintro ⟨f, r, h, hc, hL⟩
      cases h
      exact ⟨g.stack, ⟨g, r', hrun, hc, rfl⟩, hL.symm⟩
    · rintro ⟨L', ⟨f, r, h, hc, hL⟩, rfl⟩
      rw [hrun] at h
      cases h
      exact ⟨_, _, rfl, hc, congrArg (· ++ [label]) hL⟩
  all_goals
    constructor
    · rintro ⟨f, r, h, -⟩
      cases h
    · rintro ⟨L', ⟨f, r, h, -⟩, -⟩
      rw [hrun] at h
      cases h

theorem fails_host {a : HostM α} (ha : a.Untraced) {s : Store} {c : Cause} {L : List String} :
    (EvalM.host a).Fails s c L ↔ a.Refuses s c ∧ L = [] := by
  rw [Fails, run_host]
  constructor
  · rintro ⟨f, r, h, hc, hL⟩
    have hfail : (a.run s).1 = .error (.failed f) := congrArg Prod.fst h
    refine ⟨⟨f, (a.run s).2, Prod.ext hfail rfl, hc⟩, ?_⟩
    rw [← hL, Failure.stack, ha s f hfail]
    rfl
  · rintro ⟨⟨f, s', h, hc⟩, rfl⟩
    rw [h]
    refine ⟨f, _, rfl, hc, ?_⟩
    rw [Failure.stack, ha s f (congrArg Prod.fst h)]
    rfl

/-- A step of host code behind a computation is outside of all frames of that. -/
theorem fails_bind_host {a : EvalM α} {f : α → HostM β} (ha : a.Exact) (hf : ∀ v, (f v).Untraced)
    {s : Store} {c : Cause} {L : List String} :
    (a >>= fun v => EvalM.host (f v)).Fails s c L ↔
      a.Fails s c L ∨ ∃ v s', a.Gives s v s' ∧ (f v).Refuses s' c ∧ L = [] := by
  rw [fails_bind ha]
  refine or_congr Iff.rfl (exists_congr fun v => exists_congr fun s' => ?_)
  rw [fails_host (hf v)]

end EvalM

/-! ## Where an evaluation fails -/

namespace Context

mutual

/-- The evaluation of an expression, its first operand negated if the flag is set, fails with a
cause inside of expressions that run in a frame, innermost first. -/
inductive FailsAt (cx : Context) : Bool → Expr → Store → List Expr → Cause → Prop where
  | group {negative : Bool} {inner : Expr} {s : Store} {ns : List Expr} {c : Cause} :
      FailsAt cx false inner s ns c → FailsAt cx negative (.group inner) s ns c
  | left {negative : Bool} {op : Operator} {left right : Expr} {s : Store} {ns : List Expr}
      {c : Cause} :
      FailsAt cx negative left s ns c → FailsAt cx negative (.binary op left right) s ns c
  | right {negative : Bool} {op : Operator} {left right : Expr} {s s' : Store} {l : Value}
      {ns : List Expr} {c : Cause} :
      (cx.evalSigned negative left).Gives s l s' → castTarget? negative op left l = none →
      FailsAt cx false right s' ns c → FailsAt cx negative (.binary op left right) s ns c
  | operator {negative : Bool} {op : Operator} {left right : Expr} {s s' s'' : Store}
      {l r : Value} {c : Cause} :
      (cx.evalSigned negative left).Gives s l s' → castTarget? negative op left l = none →
      (cx.evalSigned false right).Gives s' r s'' →
      (cx.world.applyOperator cx.strict op l r).Refuses s'' c →
      FailsAt cx negative (.binary op left right) s [] c
  | castOperand {negative : Bool} {op : Operator} {left right : Expr} {s s' : Store} {l : Value}
      {t : TypeRef} {ns : List Expr} {c : Cause} :
      (cx.evalSigned negative left).Gives s l s' → castTarget? negative op left l = some t →
      FailsAt cx true right s' ns c →
      FailsAt cx negative (.binary op left right) s (ns ++ [.binary op left right]) c
  | cast {negative : Bool} {op : Operator} {left right : Expr} {s s' s'' : Store} {l v : Value}
      {t : TypeRef} {c : Cause} :
      (cx.evalSigned negative left).Gives s l s' → castTarget? negative op left l = some t →
      (cx.evalSigned true right).Gives s' v s'' → (cx.world.cast v t).Refuses s'' c →
      FailsAt cx negative (.binary op left right) s [.binary op left right] c
  | operand {negative : Bool} {e : Expr} {os : List Operand} {s : Store} {ns : List Expr}
      {c : Cause} :
      e.operands? = some os → OperandFailsAt cx os s ns c → FailsAt cx negative e s (ns ++ [e]) c
  | finish {negative : Bool} {e : Expr} {os : List Operand} {s s' : Store} {vs : List Value}
      {c : Cause} :
      e.operands? = some os → (cx.evalOperands os).Gives s vs s' →
      (cx.finish e vs).Refuses s' c → FailsAt cx negative e s [e] c
  /-- The value is no number, so that its sign cannot be changed. -/
  | sign {e : Expr} {s s' : Store} {v : Value} {c : Cause} :
      (∀ op left right, e ≠ .binary op left right) → (cx.evalSigned false e).Gives s v s' →
      (cx.negate v).Fails s' c [] → FailsAt cx true e s [] c

/-- The evaluation of one of several operands fails. -/
inductive OperandFailsAt (cx : Context) : List Operand → Store → List Expr → Cause → Prop where
  | here {o : Operand} {os : List Operand} {s : Store} {ns : List Expr} {c : Cause} :
      FailsAt cx false o.expr s ns c → OperandFailsAt cx (o :: os) s ns c
  | noType {e : Expr} {os : List Operand} {s s' : Store} {v : Value} :
      (cx.evalSigned false e).Gives s v s' → (∀ t, v ≠ .type t) →
      OperandFailsAt cx (.type e :: os) s [] (.notAType e.text)
  | later {o : Operand} {os : List Operand} {s s' : Store} {v : Value} {ns : List Expr}
      {c : Cause} :
      (cx.evalOperand o).Gives s v s' → OperandFailsAt cx os s' ns c →
      OperandFailsAt cx (o :: os) s ns c

end

variable {cx : Context} (hw : cx.world.Untraced)

theorem typeValue_fails {e : Expr} {v : Value} {s : Store} {c : Cause} {L : List String} :
    (typeValue e v).Fails s c L ↔ (∀ t, v ≠ .type t) ∧ c = .notAType e.text ∧ L = [] := by
  constructor
  · rintro ⟨f, r, h, hc, hL⟩
    cases v <;> cases h <;> exact ⟨fun t ht => Value.noConfusion ht, hc.symm, hL.symm⟩
  · rintro ⟨hv, rfl, rfl⟩
    cases v <;> first
      | exact ⟨_, _, rfl, rfl, rfl⟩
      | exact absurd rfl (hv _)

theorem stack_of_negate_fails {v : Value} {s : Store} {c : Cause} {L : List String}
    (h : (cx.negate v).Fails s c L) : L = [] := by
  obtain ⟨f, r, h, -, hL⟩ := h
  cases v <;> cases h <;> exact hL.symm

theorem signed_fails {negative : Bool} {v : Value} {s : Store} {c : Cause} {L : List String} :
    (cx.signed negative v).Fails s c L ↔ negative = true ∧ (cx.negate v).Fails s c [] ∧ L = [] := by
  cases negative with
  | false =>
    constructor
    · intro h
      exact absurd h EvalM.not_fails_pure
    · rintro ⟨h, -⟩
      cases h
  | true =>
    constructor
    · intro h
      cases stack_of_negate_fails h
      exact ⟨rfl, h, rfl⟩
    · rintro ⟨-, h, rfl⟩
      exact h

include hw

theorem evalOperand_fails {o : Operand} {s : Store} {c : Cause} {L : List String} :
    (cx.evalOperand o).Fails s c L ↔ (cx.evalSigned false o.expr).Fails s c L ∨
      ∃ e v s', o = .type e ∧ (cx.evalSigned false e).Gives s v s' ∧ (∀ t, v ≠ .type t) ∧
        c = .notAType e.text ∧ L = [] := by
  cases o with
  | value e =>
    constructor
    · exact .inl
    · rintro (h | ⟨e, v, s', h, -⟩)
      · exact h
      · cases h
  | type e =>
    rw [evalOperand, EvalM.fails_bind (evalSigned_exact hw e false)]
    refine or_congr Iff.rfl ?_
    constructor
    · rintro ⟨v, s', hv, h⟩
      rcases (EvalM.fails_bind (typeValue_exact e v)).1 h with h | ⟨t, s'', -, h⟩
      · exact ⟨e, v, s', rfl, hv, typeValue_fails.1 h⟩
      · exact absurd h EvalM.not_fails_pure
    · rintro ⟨e, v, s', h, hv, hfail⟩
      cases h
      refine ⟨v, s', hv, (EvalM.fails_bind (typeValue_exact _ v)).2 (.inl ?_)⟩
      exact typeValue_fails.2 hfail

theorem binary_fails {negative : Bool} {op : Operator} {left right : Expr} {s : Store} {c : Cause}
    {L : List String} :
    (cx.evalSigned negative (.binary op left right)).Fails s c L ↔
      (cx.evalSigned negative left).Fails s c L ∨
        ∃ l s', (cx.evalSigned negative left).Gives s l s' ∧
          match castTarget? negative op left l with
          | some t => ∃ L', ((cx.evalSigned true right).Fails s' c L' ∨
              ∃ v s'', (cx.evalSigned true right).Gives s' v s'' ∧
                (cx.world.cast v t).Refuses s'' c ∧ L' = []) ∧
              L = L' ++ [(Expr.binary op left right).text]
          | none => (cx.evalSigned false right).Fails s' c L ∨
              ∃ r s'', (cx.evalSigned false right).Gives s' r s'' ∧
                (cx.world.applyOperator cx.strict op l r).Refuses s'' c ∧ L = [] := by
  rw [evalSigned_binary, EvalM.fails_bind (evalSigned_exact hw left negative)]
  refine or_congr Iff.rfl (exists_congr fun l => exists_congr fun s' => and_congr Iff.rfl ?_)
  have hright := evalSigned_exact hw right
  cases castTarget? negative op left l with
  | some t =>
    have hcast := fun v => World.cast_obeys hw.obeys v t
    simp only
    rw [EvalM.fails_framed (.bind (hright true) fun v => .host (hcast v))]
    refine exists_congr fun L' => and_congr ?_ Iff.rfl
    exact EvalM.fails_bind_host (hright true) hcast
  | none =>
    exact EvalM.fails_bind_host (hright false) fun r =>
      World.applyOperator_obeys hw.obeys cx.strict op l r

/-- The sign is changed behind an expression that is not an operator. -/
theorem sign_fails {e : Expr} (he : ∀ op left right, e ≠ .binary op left right) {negative : Bool}
    {s : Store} {c : Cause} {L : List String} :
    (cx.evalSigned negative e).Fails s c L ↔ (cx.evalSigned false e).Fails s c L ∨
      negative = true ∧ ∃ v s', (cx.evalSigned false e).Gives s v s' ∧
        (cx.negate v).Fails s' c [] ∧ L = [] := by
  rw [cx.evalSigned_sign he negative, EvalM.fails_bind (evalSigned_exact hw e false)]
  refine or_congr Iff.rfl ?_
  simp only [signed_fails]
  constructor
  · rintro ⟨v, s', hv, hnegative, h⟩
    exact ⟨hnegative, v, s', hv, h⟩
  · rintro ⟨hnegative, v, s', hv, h⟩
    exact ⟨v, s', hv, hnegative, h⟩

theorem operands_fails {e : Expr} {os : List Operand} (hos : e.operands? = some os) {s : Store}
    {c : Cause} {L : List String} :
    (cx.evalSigned false e).Fails s c L ↔ ∃ L', ((cx.evalOperands os).Fails s c L' ∨
      ∃ vs s', (cx.evalOperands os).Gives s vs s' ∧ (cx.finish e vs).Refuses s' c ∧ L' = []) ∧
        L = L' ++ [e.text] := by
  have hoperands := evalOperands_exact hw os
  have hfinish := finish_obeys hw.obeys e
  rw [cx.evalSigned_framed hos, show cx.signed false = pure from rfl, bind_pure,
    EvalM.fails_framed (.bind hoperands fun vs => .host (hfinish vs))]
  exact exists_congr fun L' => and_congr (EvalM.fails_bind_host hoperands hfinish) Iff.rfl

theorem evalOperands_fails {o : Operand} {os : List Operand} {s : Store} {c : Cause}
    {L : List String} :
    (cx.evalOperands (o :: os)).Fails s c L ↔ (cx.evalOperand o).Fails s c L ∨
      ∃ v s', (cx.evalOperand o).Gives s v s' ∧ (cx.evalOperands os).Fails s' c L := by
  rw [evalOperands, EvalM.fails_bind (evalOperand_exact hw o)]
  refine or_congr Iff.rfl (exists_congr fun v => exists_congr fun s' => and_congr Iff.rfl ?_)
  rw [EvalM.fails_bind (evalOperands_exact hw os)]
  constructor
  · rintro (h | ⟨vs, s'', -, h⟩)
    · exact h
    · exact absurd h EvalM.not_fails_pure
  · exact .inl

/-! ## The stack of a failure -/

/-- If the operands that fail have their places, then so has the first of several to fail. -/
theorem exists_operandFailsAt (os : List Operand)
    (ih : ∀ o ∈ os, ∀ s c L, (cx.evalSigned false o.expr).Fails s c L →
      ∃ ns, cx.FailsAt false o.expr s ns c ∧ L = ns.map Expr.text) :
    ∀ s c L, (cx.evalOperands os).Fails s c L →
      ∃ ns, cx.OperandFailsAt os s ns c ∧ L = ns.map Expr.text := by
  induction os with
  | nil =>
    intro s c L h
    exact absurd h EvalM.not_fails_pure
  | cons o os ihs =>
    intro s c L h
    obtain ⟨ho, hos⟩ := List.forall_mem_cons.1 ih
    rcases (evalOperands_fails hw).1 h with h | ⟨v, s', hv, h⟩
    · rcases (evalOperand_fails hw).1 h with h | ⟨e, v, s', rfl, hv, hnone, rfl, rfl⟩
      · obtain ⟨ns, hns, hL⟩ := ho s c L h
        exact ⟨ns, .here hns, hL⟩
      · exact ⟨[], .noType hv hnone, rfl⟩
    · obtain ⟨ns, hns, hL⟩ := ihs hos s' c L h
      exact ⟨ns, .later hv hns, hL⟩

/-- Every failure has a place, and the stack tells it. -/
theorem exists_failsAt (e : Expr) : ∀ negative s c L, (cx.evalSigned negative e).Fails s c L →
    ∃ ns, cx.FailsAt negative e s ns c ∧ L = ns.map Expr.text := by
  induction e using Expr.operands_induction with
  | literal l =>
    intro negative s c L hfails
    have he : ∀ op left right, Expr.literal l ≠ .binary op left right := by
      rintro op left right ⟨⟩
    rcases (sign_fails hw he).1 hfails with h | ⟨rfl, v, s', hv, h, rfl⟩
    · rw [evalSigned] at h
      exact absurd h EvalM.not_fails_pure
    · exact ⟨[], .sign he hv h, rfl⟩
  | group inner ih =>
    intro negative s c L hfails
    have he : ∀ op left right, Expr.group inner ≠ .binary op left right := by
      rintro op left right ⟨⟩
    rcases (sign_fails hw he).1 hfails with h | ⟨rfl, v, s', hv, h, rfl⟩
    · rw [evalSigned_group] at h
      obtain ⟨ns, hns, hL⟩ := ih false s c L h
      exact ⟨ns, .group hns, hL⟩
    · exact ⟨[], .sign he hv h, rfl⟩
  | binary op left right ihl ihr =>
    intro negative s c L hfails
    rcases (binary_fails hw).1 hfails with h | ⟨l, s', hl, hstep⟩
    · obtain ⟨ns, hns, hL⟩ := ihl negative s c L h
      exact ⟨ns, .left hns, hL⟩
    cases ht : castTarget? negative op left l with
    | some t =>
      rw [ht] at hstep
      obtain ⟨L', h | ⟨v, s'', hv, h, rfl⟩, rfl⟩ := hstep
      · obtain ⟨ns, hns, rfl⟩ := ihr true s' c L' h
        refine ⟨ns ++ [.binary op left right], .castOperand hl ht hns, ?_⟩
        rw [List.map_append]
        rfl
      · exact ⟨[.binary op left right], .cast hl ht hv h, rfl⟩
    | none =>
      rw [ht] at hstep
      rcases hstep with h | ⟨r, s'', hr, h, rfl⟩
      · obtain ⟨ns, hns, hL⟩ := ihr false s' c L h
        exact ⟨ns, .right hl ht hns, hL⟩
      · exact ⟨[], .operator hl ht hr h, rfl⟩
  | framed e os hos ih =>
    intro negative s c L hfails
    have he : ∀ op left right, e ≠ .binary op left right := by
      rintro op left right rfl
      cases hos
    rcases (sign_fails hw he).1 hfails with hinside | ⟨rfl, v, s', hv, h, rfl⟩
    · obtain ⟨L', h | ⟨vs, s', hvs, h, rfl⟩, rfl⟩ := (operands_fails hw hos).1 hinside
      · have hplaces := exists_operandFailsAt hw os fun o ho => ih o ho false
        obtain ⟨ns, hns, rfl⟩ := hplaces s c L' h
        refine ⟨ns ++ [e], .operand hos hns, ?_⟩
        rw [List.map_append]
        rfl
      · exact ⟨[e], .finish hos hvs h, rfl⟩
    · exact ⟨[], .sign he hv h, rfl⟩

mutual

/-- At a place where it fails, an evaluation has the stack of that place. -/
theorem FailsAt.fails {negative : Bool} {e : Expr} {s : Store} {ns : List Expr} {c : Cause} :
    cx.FailsAt negative e s ns c → (cx.evalSigned negative e).Fails s c (ns.map Expr.text)
  | .group h => by
      rw [sign_fails hw (by rintro op left right ⟨⟩), evalSigned_group]
      exact .inl h.fails
  | .left h => (binary_fails hw).2 (.inl h.fails)
  | .right hl ht h => by
      refine (binary_fails hw).2 (.inr ⟨_, _, hl, ?_⟩)
      rw [ht]
      exact .inl h.fails
  | .operator hl ht hr h => by
      refine (binary_fails hw).2 (.inr ⟨_, _, hl, ?_⟩)
      rw [ht]
      exact .inr ⟨_, _, hr, h, rfl⟩
  | .castOperand hl ht h => by
      refine (binary_fails hw).2 (.inr ⟨_, _, hl, ?_⟩)
      rw [ht, List.map_append]
      exact ⟨_, .inl h.fails, rfl⟩
  | .cast hl ht hv h => by
      refine (binary_fails hw).2 (.inr ⟨_, _, hl, ?_⟩)
      rw [ht]
      exact ⟨[], .inr ⟨_, _, hv, h, rfl⟩, rfl⟩
  | .operand hos h => by
      rw [sign_fails hw (by rintro op left right rfl; cases hos), operands_fails hw hos,
        List.map_append]
      exact .inl ⟨_, .inl h.fails, rfl⟩
  | .finish hos hvs h => by
      rw [sign_fails hw (by rintro op left right rfl; cases hos), operands_fails hw hos]
      exact .inl ⟨[], .inr ⟨_, _, hvs, h, rfl⟩, rfl⟩
  | .sign he hv h => (sign_fails hw he).2 (.inr ⟨rfl, _, _, hv, h, rfl⟩)

theorem OperandFailsAt.fails {os : List Operand} {s : Store} {ns : List Expr} {c : Cause} :
    cx.OperandFailsAt os s ns c → (cx.evalOperands os).Fails s c (ns.map Expr.text)
  | .here h => (evalOperands_fails hw).2 (.inl ((evalOperand_fails hw).2 (.inl h.fails)))
  | .noType hv hnone => by
      refine (evalOperands_fails hw).2 (.inl ((evalOperand_fails hw).2 (.inr ?_)))
      exact ⟨_, _, _, rfl, hv, hnone, rfl, rfl⟩
  | .later hv h => (evalOperands_fails hw).2 (.inr ⟨_, _, hv, h.fails⟩)

end

/-- The stack of a failure is where it happened. -/
theorem fails_iff {e : Expr} {s : Store} {c : Cause} {L : List String} :
    (cx.eval e).Fails s c L ↔ ∃ ns, cx.FailsAt false e s ns c ∧ L = ns.map Expr.text := by
  constructor
  · exact exists_failsAt hw e false s c L
  · rintro ⟨ns, h, rfl⟩
    exact h.fails hw

end Context

/-! ## Failing below active frames -/

namespace EvalM

/-- Frames around a computation, innermost first. -/
def nested (labels : List String) (a : EvalM α) : EvalM α :=
  labels.foldl (fun a label => framed label a) a

/-- However many frames a failure leaves, it has one trace: its own, then their labels, then the
frames that stay active. -/
theorem run_nested {a : EvalM α} {s s' : Store} {f : Failure}
    (h : ∀ F, a.run ⟨s, F⟩ = (.error (.failed (f.under F)), ⟨s', F⟩)) (F : List String)
    {labels : List String} (hlabels : labels ≠ []) :
    (nested labels a).run ⟨s, F⟩ =
      (.error (.failed ⟨f.cause, some (f.stack ++ (labels ++ F))⟩), ⟨s', F⟩) := by
  induction labels generalizing a f with
  | nil => exact absurd rfl hlabels
  | cons label labels ih =>
    have hframed : ∀ F, (framed label a).run ⟨s, F⟩ =
        (.error (.failed ⟨f.cause, some (f.stack ++ label :: F)⟩), ⟨s', F⟩) := by
      intro F
      show framed label a ⟨s, F⟩ = _
      rw [framed, show a ⟨s, label :: F⟩ = _ from h (label :: F), ← Failure.traced_under]
      rfl
    cases labels with
    | nil => exact hframed F
    | cons label' labels =>
      -- the outer frames find a trace that ends in the label
      refine (ih (f := ⟨f.cause, some (f.stack ++ [label])⟩) ?_ (List.cons_ne_nil _ _)).trans ?_
      · intro F
        rw [hframed F]
        simp [Failure.under]
      · simp [Failure.stack]

end EvalM

namespace Context

variable {cx : Context}

/-- A line that fails is not well formed, or its expression fails. -/
theorem evaluate_fails {source : String} {s s' : Store} {f : Failure}
    (h : (cx.evaluate source).run s = (.error (.failed f), s')) :
    Parser.parse source = .error f ∨
      ∃ l e r, Parser.parse source = .ok l ∧ l.expr = some e ∧
        (cx.eval e).run ⟨s, []⟩ = (.error (.failed f), r) := by
  unfold evaluate at h
  cases hp : Parser.parse source with
  | error g =>
    rw [hp] at h
    cases h
    exact .inl rfl
  | ok l =>
    right
    rw [hp, Act.ofExcept_ok_bind, evalLine, Act.run_bind] at h
    rcases hvalue : (cx.lineValue l).run s with ⟨e | v, s''⟩
    · rw [hvalue] at h
      cases h
      unfold lineValue at hvalue
      split at hvalue
      · rename_i e he
        have hfails : ((cx.eval e).run ⟨s, []⟩).1 = .error (.failed f) := congrArg Prod.fst hvalue
        exact ⟨l, e, _, rfl, he, Prod.ext hfails rfl⟩
      · cases hvalue
    · -- the members of a value are listed without a failure
      rw [hvalue] at h
      cases hl : l.introspect <;> rw [hl] at h <;> cases h

/-- Active frames neither change what an expression does nor are they changed; where it fails inside
of frames, these are put behind its own stack, in one trace; and the stack of a line consists of the
expressions around the failing step that run in a frame. -/
theorem stack_exact (hw : cx.world.Untraced) :
    (∀ e s F, (cx.eval e).run ⟨s, F⟩ =
      (((cx.eval e).run ⟨s, []⟩).1.mapError (Abort.under F),
        ⟨((cx.eval e).run ⟨s, []⟩).2.store, F⟩)) ∧
    (∀ e s f r, (cx.eval e).run ⟨s, []⟩ = (.error (.failed f), r) →
      ∀ (k : Value → EvalM Value) F labels, labels ≠ [] →
        (EvalM.nested labels (cx.eval e >>= k)).run ⟨s, F⟩ =
          (.error (.failed ⟨f.cause, some (f.stack ++ (labels ++ F))⟩), ⟨r.store, F⟩)) ∧
    (∀ source s f s', (cx.evaluate source).run s = (.error (.failed f), s') →
      (Parser.parse source = .error f ∧ f.stack = []) ∨
      ∃ l e ns, Parser.parse source = .ok l ∧ l.expr = some e ∧ cx.FailsAt false e s ns f.cause ∧
        f.stack = ns.map Expr.text) := by
  refine ⟨fun e => evalSigned_exact hw e false, ?_, ?_⟩
  · intro e s f r hf k F labels hlabels
    refine EvalM.run_nested (fun F => ?_) F hlabels
    rw [Act.run_bind, show (cx.eval e).run ⟨s, F⟩ = _ from evalSigned_exact hw e false s F]
    rw [show (cx.evalSigned false e).run ⟨s, []⟩ = _ from hf]
    rfl
  · intro source s f s' h
    rcases evaluate_fails h with hparse | ⟨l, e, r, hl, he, hfails⟩
    · obtain ⟨column, reason, rfl⟩ := Parser.parse_malformed source f hparse
      exact .inl ⟨hparse, rfl⟩
    · obtain ⟨ns, hns, hstack⟩ := (fails_iff hw).1 ⟨f, r, hfails, rfl, rfl⟩
      exact .inr ⟨l, e, ns, hl, he, hns, hstack⟩

/-- In the game, a name that is missing below a call of `Heal` has that call behind it. -/
theorem stack_exact_game :
    Game.world.Untraced ∧
      (EvalM.nested ["player.Heal(..)"]
        ((Context.mk Game.world true .null).eval (.name "missing" none) >>= pure)).run ⟨{}, []⟩ =
          (.error (.failed ⟨.nullReference "missing", some ["missing", "player.Heal(..)"]⟩),
            ⟨{}, []⟩) := by
  refine ⟨Game.world_untraced, ?_⟩
  have halone : ((Context.mk Game.world true .null).eval (.name "missing" none)).run ⟨{}, []⟩ =
      (.error (.failed ⟨.nullReference "missing", some ["missing"]⟩), ⟨{}, []⟩) := by
    rfl
  obtain ⟨-, hbehind, -⟩ := @stack_exact ⟨Game.world, true, .null⟩ Game.world_untraced
  exact hbehind _ _ _ _ halone pure [] ["player.Heal(..)"] (List.cons_ne_nil _ _)

end Context

end DevConsole
