/-
# `DevConsole.Proofs.Eval.Frames` — evaluation under active frames

Evaluation keeps its active frames in its state, and a failure takes them with it when it first
leaves a frame.  So what an expression does could depend on the frames it is evaluated under.  It
does so in one way only.  Write `⟨s, F⟩` for the objects `s` with the active frames `F`:

    from ⟨s, []⟩                       from ⟨s, F⟩
    a value, with ⟨s', []⟩             the same value, with ⟨s', F⟩
    a failure without a trace          the same failure, with ⟨s', F⟩
    a failure with the trace L         the same cause with the trace L ++ F, with ⟨s', F⟩
    a panic                            the same panic, with ⟨s', F⟩

A computation of which this holds is `Exact`.  That host code has no traces to begin with is needed:
a trace that came out of it would stay as it is.

The evaluator has eleven equations for expressions that run in a frame.  They are instances of one
(`evalSigned_framed`): inside the frame its operands have their turns, from left to right, then
comes a step of host code, and outside of the frame the sign of the result may be changed.
-/
import DevConsole.Proofs.World.Untraced

namespace DevConsole

variable {α β : Type}

/-! ## The frame action -/

/-- A failure that arose below some more frames. -/
def Failure.under (F : List String) (f : Failure) : Failure :=
  { f with trace := f.trace.map (· ++ F) }

/-- How a computation ends below some more frames. -/
def Abort.under (F : List String) : Abort → Abort
  | .failed f => .failed (f.under F)
  | .panicked p => .panicked p

/-- How a computation ends that leaves a frame with the label, below the frames `F`. -/
def Abort.leaving (label : String) (F : List String) : Abort → Abort
  | .failed f => .failed ⟨f.cause, some (f.stack ++ label :: F)⟩
  | .panicked p => .panicked p

/-- A first trace is the active frames, which a later one already ends in. -/
theorem Failure.traced_under (f : Failure) (F : List String) :
    (f.under F).traced F = ⟨f.cause, some (f.stack ++ F)⟩ := by
  rcases f with ⟨c, _ | t⟩ <;> rfl

theorem Abort.under_leaving (label : String) (F : List String) (e : Abort) :
    (e.leaving label []).under F = e.leaving label F := by
  cases e with
  | failed f => simp [leaving, under, Failure.under]
  | panicked p => rfl

/-- The active frames are a base that a computation neither looks at nor changes. -/
def EvalM.Exact (a : EvalM α) : Prop := ∀ s F,
  a.run ⟨s, F⟩ =
    ((a.run ⟨s, []⟩).1.mapError (Abort.under F), ⟨(a.run ⟨s, []⟩).2.store, F⟩)

theorem EvalM.run_host (a : HostM α) (r : Run) :
    (EvalM.host a).run r = ((a.run r.store).1, ⟨(a.run r.store).2, r.frames⟩) := rfl

theorem EvalM.host_bind (a : HostM α) (f : α → HostM β) :
    EvalM.host (a >>= f) = EvalM.host a >>= fun x => EvalM.host (f x) := by
  funext r
  show (EvalM.host (a >>= f)).run r = (EvalM.host a >>= fun x => EvalM.host (f x)).run r
  rw [Act.run_bind, run_host, run_host, Act.run_bind]
  rcases a.run r.store with ⟨e | x, s'⟩
  · rfl
  · rfl

namespace EvalM.Exact

theorem host {a : HostM α} (ha : a.Untraced) : (EvalM.host a).Exact := by
  intro s F
  rw [run_host, run_host]
  rcases hrun : a.run s with ⟨(⟨c, t⟩ | p) | x, s'⟩
  · cases ha s ⟨c, t⟩ (congrArg Prod.fst hrun)
    rfl
  · rfl
  · rfl

/-- Whatever it did, a computation from no frames leaves none. -/
theorem frames_nil {a : EvalM α} (ha : a.Exact) (s : Store) : (a.run ⟨s, []⟩).2.frames = [] := by
  rw [ha s []]

theorem bind {a : EvalM α} {f : α → EvalM β} (ha : a.Exact) (hf : ∀ x, (f x).Exact) :
    (a >>= f).Exact := by
  intro s F
  have hframes := ha.frames_nil s
  rw [Act.run_bind, Act.run_bind, ha s F]
  rcases hrun : a.run ⟨s, []⟩ with ⟨e | x, ⟨s', F'⟩⟩
  · rfl
  · rw [hrun] at hframes
    cases hframes
    exact hf x s' F

/-- A frame is removed however its computation ends. -/
theorem run_framed {a : EvalM α} (ha : a.Exact) (label : String) (s : Store) (F : List String) :
    (EvalM.framed label a).run ⟨s, F⟩ =
      ((a.run ⟨s, []⟩).1.mapError (Abort.leaving label F), ⟨(a.run ⟨s, []⟩).2.store, F⟩) := by
  show EvalM.framed label a ⟨s, F⟩ = _
  rw [EvalM.framed, show a ⟨s, label :: F⟩ = _ from ha s (label :: F)]
  rcases a.run ⟨s, []⟩ with ⟨(f | p) | x, r⟩
  · show _ = (Except.error (Abort.failed ⟨f.cause, some (f.stack ++ label :: F)⟩), _)
    rw [← Failure.traced_under]
    rfl
  · rfl
  · rfl

theorem framed {a : EvalM α} (label : String) (ha : a.Exact) : (EvalM.framed label a).Exact := by
  intro s F
  rw [ha.run_framed, ha.run_framed]
  rcases a.run ⟨s, []⟩ with ⟨e | x, r⟩
  · show _ = (Except.error ((e.leaving label []).under F), (⟨r.store, F⟩ : Run))
    rw [Abort.under_leaving]
    rfl
  · rfl

end EvalM.Exact

/-! ## Expressions that run in a frame -/

/-- What is evaluated for an expression inside its frame. -/
inductive Operand where
  | value (e : Expr)
  /-- An operand that must be a type. -/
  | type (e : Expr)

/-- The expression of an operand. -/
def Operand.expr : Operand → Expr
  | value e => e
  | type e => e

/-- The operands of an expression that runs in a frame, from left to right; `none` for constants,
groups and operators. -/
def Expr.operands? : Expr → Option (List Operand)
  | name _ none => some []
  | name _ (some args) => some (args.map .value)
  | member target _ none => some [.value target]
  | member target _ (some args) => some (.value target :: args.map .value)
  | cast type operand => some [.type type, .value operand]
  | new type args => some (.type type :: args.map .value)
  | assign _ (name _ none) value => some [.value value]
  | assign _ (member target _ none) value => some [.value target, .value value]
  | assign _ _ _ => some []
  | literal _ => none
  | group _ => none
  | binary _ _ _ => none

/-- What holds of constants, groups, operators, and of expressions in a frame if it holds of their
operands, holds of all expressions. -/
theorem Expr.operands_induction {P : Expr → Prop} (literal : ∀ l, P (.literal l))
    (group : ∀ inner, P inner → P (.group inner))
    (binary : ∀ op left right, P left → P right → P (.binary op left right))
    (framed : ∀ e os, e.operands? = some os → (∀ o ∈ os, P o.expr) → P e) : ∀ e, P e
  | .literal l => literal l
  | .group inner => group inner (operands_induction literal group binary framed inner)
  | .binary op left right =>
    binary op left right (operands_induction literal group binary framed left)
      (operands_induction literal group binary framed right)
  | .name n none => framed _ _ rfl (List.forall_mem_nil _)
  | .name n (some args) => framed _ _ rfl <| List.forall_mem_map.2 fun e _ =>
      operands_induction literal group binary framed e
  | .member target n none => framed _ _ rfl <| List.forall_mem_singleton.2
      (operands_induction literal group binary framed target)
  | .member target n (some args) => framed _ _ rfl <| List.forall_mem_cons.2
      ⟨operands_induction literal group binary framed target, List.forall_mem_map.2 fun e _ =>
        operands_induction literal group binary framed e⟩
  | .cast type operand => framed _ _ rfl <| List.forall_mem_cons.2
      ⟨operands_induction literal group binary framed type, List.forall_mem_singleton.2
        (operands_induction literal group binary framed operand)⟩
  | .new type args => framed _ _ rfl <| List.forall_mem_cons.2
      ⟨operands_induction literal group binary framed type, List.forall_mem_map.2 fun e _ =>
        operands_induction literal group binary framed e⟩
  | .assign op (.name n none) value => framed _ _ rfl <| List.forall_mem_singleton.2
      (operands_induction literal group binary framed value)
  | .assign op (.member target n none) value => framed _ _ rfl <| List.forall_mem_cons.2
      ⟨operands_induction literal group binary framed target, List.forall_mem_singleton.2
        (operands_induction literal group binary framed value)⟩
  | .assign op (.literal _) value => framed _ _ rfl (List.forall_mem_nil _)
  | .assign op (.name _ (some _)) value => framed _ _ rfl (List.forall_mem_nil _)
  | .assign op (.member _ _ (some _)) value => framed _ _ rfl (List.forall_mem_nil _)
  | .assign op (.group _) value => framed _ _ rfl (List.forall_mem_nil _)
  | .assign op (.cast _ _) value => framed _ _ rfl (List.forall_mem_nil _)
  | .assign op (.new _ _) value => framed _ _ rfl (List.forall_mem_nil _)
  | .assign op (.binary _ _ _) value => framed _ _ rfl (List.forall_mem_nil _)
  | .assign op (.assign _ _ _) value => framed _ _ rfl (List.forall_mem_nil _)

namespace Context

variable (cx : Context)

/-- The value of an operand. -/
def evalOperand : Operand → EvalM Value
  | .value e => cx.evalSigned false e
  | .type e => do
    let v ← cx.evalSigned false e
    let t ← typeValue e v
    return .type t

/-- The values of operands, from left to right. -/
def evalOperands : List Operand → EvalM (List Value)
  | [] => pure []
  | o :: os => do
    let v ← cx.evalOperand o
    let vs ← evalOperands os
    return v :: vs

/-- Storing the value of an assignment, as one step of host code. -/
def storeHost (op : Option Operator) (receiver : Value) (name : String) (v : Value) :
    HostM Value := do
  match op with
  | none => cx.world.writeMember receiver name v
  | some op =>
    let current ← cx.world.readMember receiver name
    let combined ← cx.world.applyOperator cx.strict op current v
    cx.world.writeMember receiver name combined

/-- The step that an expression in a frame takes when its operands have their values.  Of the values
there is one for each operand, so that the last line is not reached. -/
def finish : Expr → List Value → HostM Value
  | .name n none, _ => cx.world.readName cx.root n
  | .name n (some _), vs => cx.world.callMethod cx.root n vs
  | .member _ n none, [receiver] => cx.world.readMember receiver n
  | .member _ n (some _), receiver :: vs => cx.world.callMethod receiver n vs
  | .cast _ _, [.type t, v] => cx.world.cast v t
  | .new _ _, .type t :: vs => cx.world.construct t vs
  | .assign op (.name n none) _, [v] => cx.storeHost op cx.root n v
  | .assign op (.member _ n none) _, [receiver, v] => cx.storeHost op receiver n v
  | .assign _ target _, _ => Act.refuse (.evaluation ("cannot assign to '" ++ target.text ++ "'"))
  | _, _ => pure .null

theorem evalOperands_values (es : List Expr) :
    cx.evalOperands (es.map .value) = cx.evalArgs es := by
  induction es with
  | nil => rw [List.map_nil, evalOperands, evalArgs]
  | cons e es ih => rw [List.map_cons, evalOperands, evalArgs, ih, evalOperand]

end Context

namespace Context

variable (cx : Context)

theorem host_storeHost (op : Option Operator) (receiver : Value) (name : String) (v : Value) :
    EvalM.host (cx.storeHost op receiver name v) = cx.store op receiver name v := by
  cases op with
  | none => rfl
  | some op =>
    show EvalM.host (_ >>= _) = _
    simp only [EvalM.host_bind]
    rfl

/-- An expression that runs in a frame. -/
theorem evalSigned_framed {e : Expr} {os : List Operand} (h : e.operands? = some os)
    (negative : Bool) :
    cx.evalSigned negative e = (do
      let v ← EvalM.framed e.text (do
        let vs ← cx.evalOperands os
        EvalM.host (cx.finish e vs))
      cx.signed negative v) := by
  unfold Expr.operands? at h
  split at h
  case h_1 n =>
    cases h
    rw [evalSigned, Expr.text, Expr.callText]
    show _ = (do let v ← EvalM.framed (n ++ "") _; cx.signed negative v)
    rw [String.append_empty]
    rfl
  case h_9 op target value hname hmember =>
    -- the target is none that can be assigned to, so that there is nothing to evaluate
    cases h
    have hrefuse : cx.evalSigned negative (.assign op target value) =
        EvalM.framed (Expr.assign op target value).text
          (Act.refuse (.evaluation ("cannot assign to '" ++ target.text ++ "'"))) := by
      rw [evalSigned]
      · exact hname
      · exact hmember
    have hfinish : cx.finish (.assign op target value) [] =
        Act.refuse (.evaluation ("cannot assign to '" ++ target.text ++ "'")) := by
      cases target <;> simp_all [finish]
    rw [hrefuse, evalOperands, pure_bind, hfinish]
    rfl
  case h_10 | h_11 | h_12 => cases h
  all_goals
    cases h
    simp only [evalSigned, evalOperands, evalOperand, evalOperands_values, bind_assoc, pure_bind,
      finish, host_storeHost]

theorem evalSigned_group (inner : Expr) :
    cx.evalSigned false (.group inner) = cx.evalSigned false inner := by
  rw [evalSigned]
  exact bind_pure _

/-- Except for operators, the sign of the value is changed when it is there. -/
theorem evalSigned_sign {e : Expr} (he : ∀ op left right, e ≠ .binary op left right)
    (negative : Bool) :
    cx.evalSigned negative e = (do
      let v ← cx.evalSigned false e
      cx.signed negative v) := by
  cases hos : e.operands? with
  | some os =>
    rw [cx.evalSigned_framed hos negative, cx.evalSigned_framed hos false, bind_assoc]
    rfl
  | none =>
    cases e with
    | literal l =>
      rw [evalSigned, evalSigned]
      rfl
    | group inner => rw [evalSigned_group, evalSigned]
    | binary op left right => exact absurd rfl (he op left right)
    | name n args => cases args <;> cases hos
    | member target n args => cases args <;> cases hos
    | cast type operand => cases hos
    | new type args => cases hos
    | assign op target value =>
      unfold Expr.operands? at hos
      split at hos <;> simp_all

/-- The type that a minus sign casts to: a group of names in front of it turned out to be one. -/
def castTarget? (negative : Bool) (op : Operator) (left : Expr) : Value → Option TypeRef
  | .type t => if !negative && op = .sub && left.isNameChainGroup then some t else none
  | _ => none

/-- An operator between two operands, or a cast of a negated operand. -/
theorem evalSigned_binary (negative : Bool) (op : Operator) (left right : Expr) :
    cx.evalSigned negative (.binary op left right) = (do
      let l ← cx.evalSigned negative left
      match castTarget? negative op left l with
      | some t =>
        EvalM.framed (Expr.binary op left right).text do
          let v ← cx.evalSigned true right
          EvalM.host (cx.world.cast v t)
      | none => do
        let r ← cx.evalSigned false right
        cx.operate op l r) := by
  rw [evalSigned]
  congr 1
  funext l
  cases l with
  | type t =>
    by_cases h : (!negative && op = .sub && left.isNameChainGroup) = true
    · simp only [castTarget?, if_pos h]
    · simp only [castTarget?, if_neg h]
  | _ => rfl

end Context

/-! ## What holds of host code holds of evaluation -/

/-- A property of evaluation that comes from one of host code, and is kept by sequences and
frames. -/
structure EvalProperty (H : HostProperty) where
  Holds : ∀ {α : Type}, EvalM α → Prop
  host : ∀ {α : Type} {a : HostM α}, H.Holds a → Holds (EvalM.host a)
  bind : ∀ {α β : Type} {a : EvalM α} {f : α → EvalM β},
    Holds a → (∀ x, Holds (f x)) → Holds (a >>= f)
  framed : ∀ {α : Type} {a : EvalM α} (label : String), Holds a → Holds (EvalM.framed label a)

section Obeys

variable {H : HostProperty}

theorem EvalProperty.pure (E : EvalProperty H) (x : α) : E.Holds (Pure.pure x : EvalM α) :=
  E.host (H.pure x)

namespace Context

variable {cx : Context}

theorem storeHost_obeys (hw : cx.world.Obeys H) (op : Option Operator) (receiver : Value)
    (name : String) (v : Value) : H.Holds (cx.storeHost op receiver name v) := by
  have hwrite := fun v => World.writeMember_obeys hw receiver name v
  cases op with
  | none => exact hwrite v
  | some op =>
    refine H.bind (World.readMember_reads hw.reads receiver name) fun current => ?_
    exact H.bind (World.applyOperator_obeys hw cx.strict op current v) hwrite

theorem finish_obeys (hw : cx.world.Obeys H) (e : Expr) (vs : List Value) :
    H.Holds (cx.finish e vs) := by
  unfold finish
  split
  · exact World.readName_reads hw.reads cx.root _
  · exact World.callMethod_obeys hw cx.root _ vs
  · exact World.readMember_reads hw.reads _ _
  · exact World.callMethod_obeys hw _ _ _
  · exact World.cast_obeys hw _ _
  · exact World.construct_obeys hw _ _
  · exact storeHost_obeys hw _ _ _ _
  · exact storeHost_obeys hw _ _ _ _
  · exact H.refuse _
  · exact H.pure _

variable (E : EvalProperty H)

theorem signed_obeys (negative : Bool) (v : Value) : E.Holds (cx.signed negative v) := by
  have hrefuse : H.Holds (do
      let s ← Act.get
      Act.fail (cx.world.catalog.mismatch s "a number" v) : HostM Value) :=
    H.bind H.get fun s => H.refuse _
  cases negative with
  | false => exact E.pure v
  | true =>
    cases v with
    | int i => exact E.pure _
    | float x => exact E.pure _
    | double x => exact E.pure _
    | _ => exact E.host hrefuse

theorem typeValue_obeys (e : Expr) (v : Value) : E.Holds (typeValue e v) := by
  cases v with
  | type t => exact E.pure t
  | _ => exact E.host (H.refuse _)

theorem evalOperand_obeys {o : Operand} (h : E.Holds (cx.evalSigned false o.expr)) :
    E.Holds (cx.evalOperand o) := by
  cases o with
  | value e => exact h
  | type e => exact E.bind h fun v => E.bind (typeValue_obeys E e v) fun t => E.pure _

theorem evalOperands_obeys : ∀ os : List Operand,
    (∀ o ∈ os, E.Holds (cx.evalSigned false o.expr)) → E.Holds (cx.evalOperands os)
  | [], _ => E.pure []
  | o :: os, h => by
    obtain ⟨ho, hos⟩ := List.forall_mem_cons.1 h
    refine E.bind (evalOperand_obeys E ho) fun v => ?_
    exact E.bind (evalOperands_obeys os hos) fun vs => E.pure _

variable (hw : cx.world.Obeys H)
include hw

theorem operate_obeys (op : Operator) (l r : Value) : E.Holds (cx.operate op l r) :=
  E.host (World.applyOperator_obeys hw cx.strict op l r)

/-- Evaluation has the property if the host code of the world does. -/
theorem evalSigned_obeys (e : Expr) : ∀ negative, E.Holds (cx.evalSigned negative e) := by
  induction e using Expr.operands_induction with
  | literal l =>
    intro negative
    rw [evalSigned]
    exact signed_obeys E negative _
  | group inner ih =>
    intro negative
    rw [evalSigned]
    exact E.bind (ih false) fun v => signed_obeys E negative v
  | binary op left right ihl ihr =>
    intro negative
    rw [evalSigned_binary]
    refine E.bind (ihl negative) fun l => ?_
    cases castTarget? negative op left l with
    | some t => exact E.framed _ (E.bind (ihr true) fun v => E.host (World.cast_obeys hw v t))
    | none => exact E.bind (ihr false) fun r => operate_obeys E hw op l r
  | framed e os hos ih =>
    intro negative
    rw [cx.evalSigned_framed hos]
    refine E.bind (E.framed _ (E.bind ?_ fun vs => ?_)) fun v => signed_obeys E negative v
    · exact evalOperands_obeys E os fun o ho => ih o ho false
    · exact E.host (finish_obeys hw e vs)

end Context

end Obeys

/-! ## Exactness -/

/-- Being exact, as a property that comes from raising no traces. -/
def exactly : EvalProperty untraced where
  Holds := EvalM.Exact
  host := .host
  bind := .bind
  framed := fun label => .framed label

namespace Context

variable {cx : Context}

theorem typeValue_exact (e : Expr) (v : Value) : (typeValue e v).Exact :=
  typeValue_obeys exactly e v

section Exact

variable (hw : cx.world.Untraced)
include hw

/-- Evaluation neither looks at the active frames nor changes them. -/
theorem evalSigned_exact (e : Expr) (negative : Bool) : (cx.evalSigned negative e).Exact :=
  evalSigned_obeys exactly hw.obeys e negative

theorem evalOperand_exact (o : Operand) : (cx.evalOperand o).Exact :=
  evalOperand_obeys exactly (evalSigned_exact hw o.expr false)

theorem evalOperands_exact (os : List Operand) : (cx.evalOperands os).Exact :=
  evalOperands_obeys exactly os fun o _ => evalSigned_exact hw o.expr false

end Exact

end Context

end DevConsole
