/-
# `DevConsole.Proofs.Command.NothingInUse` — no line leaves an object in use

If no object is in use before a line, then

    after the line                          no object is in use, whichever way the line ended
    when a part of it is to be evaluated    no object is in use
    when host code is entered               no object is in use, except that a typed method has its
                                            own receiver in use while its callback runs

provided that the world hands back what it takes (`World.HandsBack`), which is a condition on
callbacks alone; and the same holds of the commands of a console, if their handlers hand back what
they take.

It follows who can complain that an object "is already in use".  Evaluation does not, having other
words for a receiver that is; typed members are entered with receivers that are free, and do not
either.  So it is a callback that does: that of a typed method, with its receiver the only object in
use, that of a typed setter, or raw host code on its own account (`HostCall.Callback`).
-/
import DevConsole.Proofs.Eval.Blame
import DevConsole.Proofs.Eval.Marker
import DevConsole.Proofs.Eval.Stack
import DevConsole.Proofs.Session.Objects
import DevConsole.Proofs.World.Bodies
import DevConsole.Proofs.World.BuiltinFailures

namespace DevConsole

open Store (SameUse steps_sameUse)

/-! ## Parts of an expression -/

namespace Context

/-- When the first expression is evaluated from the objects `s`, the evaluation of the second one
starts with the objects `s'`; the flags say of which the first operand is negated. -/
inductive Starts (cx : Context) : Bool → Expr → Store → Bool → Expr → Store → Prop where
  | here {negative : Bool} {e : Expr} {s : Store} : Starts cx negative e s negative e s
  | group {negative negative' : Bool} {inner e : Expr} {s s' : Store} :
      Starts cx false inner s negative' e s' → Starts cx negative (.group inner) s negative' e s'
  | left {negative negative' : Bool} {op : Operator} {left right e : Expr} {s s' : Store} :
      Starts cx negative left s negative' e s' →
      Starts cx negative (.binary op left right) s negative' e s'
  /-- The right operand is negated if the minus sign is that of a cast. -/
  | right {negative negative' : Bool} {op : Operator} {left right e : Expr} {s s₁ s' : Store}
      {l : Value} :
      (cx.evalSigned negative left).Gives s l s₁ →
      Starts cx (castTarget? negative op left l).isSome right s₁ negative' e s' →
      Starts cx negative (.binary op left right) s negative' e s'
  /-- An operand of an expression that runs in a frame, when those before it have their values. -/
  | operand {negative negative' : Bool} {outer e : Expr} {before after : List Operand} {o : Operand}
      {s s₁ s' : Store} {vs : List Value} :
      outer.operands? = some (before ++ o :: after) → (cx.evalOperands before).Gives s vs s₁ →
      Starts cx false o.expr s₁ negative' e s' → Starts cx negative outer s negative' e s'

variable {cx : Context}

/-- Whatever part of an expression is to be evaluated, the same objects are in use as before the
expression. -/
theorem Starts.sameUse (hw : cx.world.HandsBack) {negative negative' : Bool} {e e' : Expr}
    {s s' : Store} (h : cx.Starts negative e s negative' e' s') : SameUse s s' := by
  induction h with
  | here => exact steps_sameUse.refl _
  | group _ ih => exact ih
  | left _ ih => exact ih
  | @right negative _ _ left _ _ s _ _ _ hl _ ih =>
    have hleft := evalSigned_sameUse hw negative left ⟨s, []⟩
    rw [hl] at hleft
    exact steps_sameUse.trans hleft ih
  | @operand _ _ _ _ before _ _ s _ _ _ _ hvs _ ih =>
    have hbefore := evalOperands_sameUse hw before ⟨s, []⟩
    rw [hvs] at hbefore
    exact steps_sameUse.trans hbefore ih

end Context

/-! ## Calls -/

namespace HostCall

/-- The objects as the callback of a typed method finds them. -/
def entered (s : Store) (r : ObjectRef) : Store := s.update r fun o => { o with inUse := true }

end HostCall

/-- A receiver that an instance member is taken of has a type. -/
theorem World.Taken.typeOf? {α : Type} {w : World} {s : Store} {list : Members → List α}
    {receiver : Value} {t u : TypeRef} {x : α} (h : w.Taken s list false receiver t u x) :
    s.typeOf? receiver = some t := by
  rcases h.type_or_is with htype | rfl
  · exact htype
  · exact (h.isInstance rfl).elim

namespace HostCall

variable {w : World} {s : Store} {call : HostCall}

/-- A call leaves the same objects in use as before it. -/
theorem Meets.enter_sameUse (hw : w.HandsBack) (h : call.Meets w s) :
    call.enter.LeadsTo SameUse := by
  obtain ⟨u, hof⟩ := h.exists_of
  obtain ⟨haccess, hinvoke, happly, hconvert⟩ := World.members_obeys hw.obeys u
  cases call with
  | get a receiver => exact (haccess a hof).get receiver
  | set a receiver v =>
    refine sameUse.bind ?_ fun _ => sameUse.pure v
    unfold Accessor.write
    split
    · rename_i set hset
      exact (haccess a hof).set set hset receiver v
    · exact sameUse.refuse _
  | invoke m receiver args bound => exact hinvoke m (List.mem_append_left _ hof) receiver bound
  | construct t m args bound => exact hinvoke m (List.mem_append_right _ hof) (.type t) bound
  | apply o l r => exact happly o hof l r
  | convertTo t c v => exact hconvert c (List.mem_append_left _ hof) v
  | convertFrom t c v => exact hconvert c (List.mem_append_right _ hof) v

end HostCall

namespace Dialogue

end Dialogue

namespace Context

variable {cx : Context}

end Context

namespace Context

variable {cx : Context}

end Context

/-! ## Commands -/

/-- The handler of a command leaves the same objects in use as before it, however it ends. -/
def Command.HandsBack (c : Command) : Prop :=
  c.Does fun env env' => SameUse env.host.store env'.host.store

/-- A command given as data does not come to the objects at all. -/
theorem CommandPlan.handsBack_of_register {p : CommandPlan} {r r' : Registry}
    (hr : ∀ c ∈ r.commands, c.HandsBack) (h : p.register r = .ok r') :
    ∀ c ∈ r'.commands, c.HandsBack := by
  have hreports := Environment.reports_store steps_sameUse
  have hsteps : ∀ palette args (steps : List CommandStep),
      Act.Does (fun env env' => SameUse env.host.store env'.host.store)
        (CommandStep.runAll palette args steps) := by
    intro palette args steps
    induction steps with
    | nil => exact .pure hreports _
    | cons step steps ih =>
      refine .bind hreports (fun env => ?_) fun _ => ih
      cases step with
      | report f => exact env.report_does hreports palette f
      | _ => exact steps_sameUse.refl env.host.store
  obtain ⟨params, -, hcommands⟩ := Registry.commands_of_register_eq_ok h
  rw [hcommands]
  refine List.forall_mem_append.2 ⟨hr, List.forall_mem_singleton.2 ?_⟩
  exact Command.does_of_run rfl fun palette args => hsteps palette args p.steps

/-! ## Lines -/

namespace Reentrant

/-- A box that gives itself, and a typed method of boxes that looks into its argument. -/
def blueprint : Blueprint where
  types :=
    [{ name := "Box"
       members :=
        [.rawProperty "me" "any" .receiver,
          .method "peek" [{ name := "box", kind := "any" }] "any" (.argSlot "content")] }]

/-- A box. -/
def store : Store where
  objects := [⟨.declared 0, "DynObj", [], false⟩]

/-- The box as root. -/
def context : Context := ⟨blueprint.worldAt 0, false, .object ⟨0⟩⟩

end Reentrant

end DevConsole
