/-
# `DevConsole.Proofs.Eval.Strictness` — what the rule for operators can change

A console evaluates under one of two rules: an operator that no operand knows gives its right
operand, or it is a failure.  The rule is part of the context, so every step of an evaluation could
look at it.  One does, and so a line means the same under both rules unless that failure comes out
of it: the same value or members, or the same failure with the same frames, and the same objects
afterwards.

**The relation.**  Two computations are compared from the same state: `a.Upto P b` says that `a` does
what `b` does, or fails with a cause in `P`.  It is not symmetric.  Nothing is said of `b` where `a`
fails in this way, for `b` goes on then, with a value that `a` never had.

    pure, host code, anything read off the world        reflexive
    one step after another                              `Upto.bind`
    a frame around a computation                        `Upto.framed`

**Why failures get through.**  What `P` speaks about is the cause, and a frame adds a trace to a
failure but keeps its cause.  The one step that turns a failure into a value is the reading of an
unqualified name, which falls back to the builtin types; it runs in host code, below the rule.
-/
import DevConsole.Eval.Evaluate

namespace DevConsole

/-! ## Agreement up to a cause -/

namespace Act

variable {σ α β : Type} {P : Cause → Prop}

/-- From every state, `a` does what `b` does, or it fails with a cause in `P`. -/
def Upto (P : Cause → Prop) (a b : Act σ α) : Prop :=
  ∀ s, a.run s = b.run s ∨ ∃ f s', a.run s = (.error (.failed f), s') ∧ P f.cause

theorem Upto.refl (a : Act σ α) : Upto P a a := by
  intro s
  exact .inl rfl

theorem Upto.bind {a b : Act σ α} {f g : α → Act σ β} (hab : Upto P a b)
    (hfg : ∀ x, Upto P (f x) (g x)) : Upto P (a >>= f) (b >>= g) := by
  intro s
  rw [run_bind, run_bind]
  rcases hab s with heq | ⟨e, s', ha, he⟩
  · rw [heq]
    rcases b.run s with ⟨_ | x, s'⟩
    · exact .inl rfl
    · exact hfg x s'
  · -- the second step is not reached, whatever it would do
    exact .inr ⟨e, s', by rw [ha], he⟩

end Act

/-- The frames are the same on both sides. -/
theorem Act.Upto.host {α : Type} {P : Cause → Prop} {a b : HostM α} (hab : a.Upto P b) :
    (EvalM.host a).Upto P (EvalM.host b) := by
  intro r
  rcases hab r.store with heq | ⟨f, s, ha, hf⟩
  · left
    show ((a r.store).1, { r with store := (a r.store).2 }) =
      ((b r.store).1, { r with store := (b r.store).2 })
    rw [show a r.store = b r.store from heq]
  · right
    refine ⟨f, { r with store := s }, ?_, hf⟩
    show ((a r.store).1, { r with store := (a r.store).2 }) = _
    rw [show a r.store = (.error (.failed f), s) from ha]

/-- A frame keeps the cause of every failure. -/
theorem Act.Upto.framed {α : Type} {P : Cause → Prop} {a b : EvalM α} (label : String)
    (hab : a.Upto P b) : (EvalM.framed label a).Upto P (EvalM.framed label b) := by
  intro r
  show EvalM.framed label a r = EvalM.framed label b r ∨
    ∃ f r', EvalM.framed label a r = (.error (.failed f), r') ∧ P f.cause
  rcases hab { r with frames := label :: r.frames } with heq | ⟨f, r', ha, hf⟩
  · left
    rw [EvalM.framed, EvalM.framed, show a _ = b _ from heq]
  · right
    refine ⟨f.traced r'.frames, { r' with frames := r'.frames.tail }, ?_, ?_⟩
    · rw [EvalM.framed, show a _ = _ from ha]
    · rwa [Failure.cause_traced]

/-! ## The rule -/

/-- The cause that the strict rule adds. -/
def Cause.IsNoOperator (c : Cause) : Prop := ∃ symbol left right, c = .noOperator symbol left right

namespace Context

variable (w : World) (root : Value)

/-- Evaluation under the strict rule. -/
def strictly : Context := ⟨w, true, root⟩

/-- Evaluation under the lenient rule. -/
def leniently : Context := ⟨w, false, root⟩

/-- An operator is where the rule is looked at. -/
theorem applyOperator_upto (op : Operator) (l r : Value) :
    (w.applyOperator true op l r).Upto Cause.IsNoOperator (w.applyOperator false op l r) := by
  refine .bind (.refl _) fun s => ?_
  cases w.overload? s op l r with
  | some o => exact .refl _
  | none =>
      by_cases h : (op = .eq || op = .ne) = true
      · rw [if_pos h, if_pos h]
        exact .refl _
      · rw [if_neg h, if_neg h]
        intro s'
        exact .inr ⟨_, s', rfl, _, _, _, rfl⟩

theorem operate_upto (op : Operator) (l r : Value) :
    ((strictly w root).operate op l r).Upto Cause.IsNoOperator
      ((leniently w root).operate op l r) :=
  .host (applyOperator_upto w op l r)

/-- The operator of a compound assignment stands between the reading and the writing. -/
theorem store_upto (op : Option Operator) (receiver : Value) (name : String) (v : Value) :
    ((strictly w root).store op receiver name v).Upto Cause.IsNoOperator
      ((leniently w root).store op receiver name v) := by
  cases op with
  | none => exact .refl _
  | some op =>
      refine .bind (.refl _) fun current => ?_
      exact .bind (operate_upto w root op current v) fun _ => .refl _

/-! ## Expressions

The induction is along the tree.  A value that an operand has is the same on both sides by the time
the next step starts, so each case asks only that the steps agree one by one. -/

mutual

theorem evalSigned_upto : ∀ (negative : Bool) (e : Expr),
    ((strictly w root).evalSigned negative e).Upto Cause.IsNoOperator
      ((leniently w root).evalSigned negative e)
  | negative, .literal l => by
      rw [evalSigned, evalSigned]
      exact .refl _
  | negative, .group inner => by
      rw [evalSigned, evalSigned]
      exact .bind (evalSigned_upto false inner) fun _ => .refl _
  | negative, .binary op left right => by
      have hright : ∀ l, Act.Upto Cause.IsNoOperator
          (do let r ← (strictly w root).evalSigned false right
              (strictly w root).operate op l r)
          (do let r ← (leniently w root).evalSigned false right
              (leniently w root).operate op l r) :=
        fun l => .bind (evalSigned_upto false right) fun r => operate_upto w root op l r
      rw [evalSigned, evalSigned]
      refine .bind (evalSigned_upto negative left) fun l => ?_
      cases l with
      | type t =>
          -- `(T)-5` is read as a subtraction, and turns out to be a cast
          by_cases h : (!negative && op = .sub && left.isNameChainGroup) = true
          · simp only [if_pos h]
            exact .framed _ (.bind (evalSigned_upto true right) fun _ => .refl _)
          · simp only [if_neg h]
            exact hright (.type t)
      | _ => exact hright _
  | negative, .name n none => by
      rw [evalSigned, evalSigned]
      exact .refl _
  | negative, .name n (some args) => by
      rw [evalSigned, evalSigned]
      refine .bind (.framed _ ?_) fun _ => .refl _
      exact .bind (evalArgs_upto args) fun _ => .refl _
  | negative, .member target n none => by
      rw [evalSigned, evalSigned]
      refine .bind (.framed _ ?_) fun _ => .refl _
      exact .bind (evalSigned_upto false target) fun _ => .refl _
  | negative, .member target n (some args) => by
      rw [evalSigned, evalSigned]
      refine .bind (.framed _ ?_) fun _ => .refl _
      refine .bind (evalSigned_upto false target) fun _ => ?_
      exact .bind (evalArgs_upto args) fun _ => .refl _
  | negative, .cast type operand => by
      rw [evalSigned, evalSigned]
      refine .bind (.framed _ ?_) fun _ => .refl _
      refine .bind (evalSigned_upto false type) fun _ => ?_
      refine .bind (.refl _) fun _ => ?_
      exact .bind (evalSigned_upto false operand) fun _ => .refl _
  | negative, .new type args => by
      rw [evalSigned, evalSigned]
      refine .bind (.framed _ ?_) fun _ => .refl _
      refine .bind (evalSigned_upto false type) fun _ => ?_
      refine .bind (.refl _) fun _ => ?_
      exact .bind (evalArgs_upto args) fun _ => .refl _
  | negative, .assign op (.name n none) value => by
      rw [evalSigned, evalSigned]
      refine .bind (.framed _ ?_) fun _ => .refl _
      exact .bind (evalSigned_upto false value) fun v => store_upto w root op root n v
  | negative, .assign op (.member target n none) value => by
      rw [evalSigned, evalSigned]
      refine .bind (.framed _ ?_) fun _ => .refl _
      refine .bind (evalSigned_upto false target) fun receiver => ?_
      exact .bind (evalSigned_upto false value) fun v => store_upto w root op receiver n v
  | negative, .assign op (.literal _) value => .refl _
  | negative, .assign op (.name _ (some _)) value => .refl _
  | negative, .assign op (.member _ _ (some _)) value => .refl _
  | negative, .assign op (.group _) value => .refl _
  | negative, .assign op (.cast _ _) value => .refl _
  | negative, .assign op (.new _ _) value => .refl _
  | negative, .assign op (.binary _ _ _) value => .refl _
  | negative, .assign op (.assign _ _ _) value => .refl _

theorem evalArgs_upto : ∀ es : List Expr,
    ((strictly w root).evalArgs es).Upto Cause.IsNoOperator ((leniently w root).evalArgs es)
  | [] => .refl _
  | e :: es => by
      rw [evalArgs, evalArgs]
      refine .bind (evalSigned_upto false e) fun _ => ?_
      exact .bind (evalArgs_upto es) fun _ => .refl _

end

/-! ## Lines -/

theorem evalHost_upto (e : Expr) :
    ((strictly w root).evalHost e).Upto Cause.IsNoOperator ((leniently w root).evalHost e) := by
  intro s
  show (strictly w root).evalHost e s = (leniently w root).evalHost e s ∨
    ∃ f s', (strictly w root).evalHost e s = (.error (.failed f), s') ∧ f.cause.IsNoOperator
  rcases evalSigned_upto w root false e ⟨s, []⟩ with heq | ⟨f, r, he, hf⟩
  · left
    rw [evalHost, evalHost, eval, eval, show (strictly w root).evalSigned false e _ = _ from heq]
    rfl
  · right
    refine ⟨f, r.store, ?_, hf⟩
    rw [evalHost, eval, show (strictly w root).evalSigned false e _ = _ from he]

theorem evalLine_upto (l : Line) :
    ((strictly w root).evalLine l).Upto Cause.IsNoOperator ((leniently w root).evalLine l) := by
  refine .bind ?_ fun _ => .refl _
  rw [lineValue, lineValue]
  cases l.expr with
  | some e => exact evalHost_upto w root e
  | none => exact .refl _

/-- From the same objects, a line gives the same under both rules and leaves the same objects, or
under the strict rule it fails for want of an operator. -/
theorem evaluate_strictly (source : String) (s : Store) :
    (strictly w root).evaluate source s = (leniently w root).evaluate source s ∨
      ∃ f s', (strictly w root).evaluate source s = (.error (.failed f), s') ∧
        f.cause.IsNoOperator := by
  have hupto : ((strictly w root).evaluate source).Upto Cause.IsNoOperator
      ((leniently w root).evaluate source) :=
    .bind (.refl _) fun l => evalLine_upto w root l
  exact hupto s

end Context

end DevConsole
