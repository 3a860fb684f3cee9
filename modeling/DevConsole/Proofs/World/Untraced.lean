/-
# `DevConsole.Proofs.World.Untraced` — host code leaves traces to evaluation

A failure takes a trace where evaluation attaches one, and host code is below that: what it raises
is a bare cause.  A world is `Untraced` if this holds of all code that its types declare.  It is
then true of everything evaluation can reach in one step:

    members of declared types      by assumption
    members of builtin types       their failures are divisions by zero and values of a wrong sort
    lookups and conversions        the failures for what is not found or does not fit

The game is such a world, as it raises failures only through the receivers and payloads that its
members ask for.
-/
import DevConsole.Proofs.Demo.Members

namespace DevConsole

variable {α β σ : Type}

/-- All failures of a computation come without a trace. -/
def Act.Untraced (a : Act σ α) : Prop := ∀ s f, (a.run s).1 = .error (.failed f) → f.trace = none

/-- So are those of the getter of a field or property and, if there is one, of its setter. -/
structure Accessor.Untraced (a : Accessor) : Prop where
  get : ∀ receiver, (a.get receiver).Untraced
  set : ∀ set, a.set = some set → ∀ receiver v, (set receiver v).Untraced

/-- All host code of a type raises failures without a trace. -/
structure Members.Untraced (ms : Members) : Prop where
  access : ∀ a ∈ ms.accessors, a.Untraced
  invoke : ∀ m ∈ ms.methods ++ ms.constructors, ∀ receiver args, (m.invoke receiver args).Untraced
  apply : ∀ o ∈ ms.operators, ∀ l r, (o.apply l r).Untraced
  convert : ∀ c ∈ ms.conversions ++ ms.incoming, ∀ v, (c.convert v).Untraced

/-- All host code that the types of a world declare raises failures without a trace. -/
def World.Untraced (w : World) : Prop := ∀ ms ∈ w.declared, ms.Untraced

/-! ## Computations -/

namespace Act

theorem Untraced.pure (x : α) : (Pure.pure x : Act σ α).Untraced := by
  intro s f h
  cases h

theorem Untraced.get : (Act.get : Act σ σ).Untraced := by
  intro s f h
  cases h

theorem Untraced.modify (g : σ → σ) : (Act.modify g).Untraced := by
  intro s f h
  cases h

theorem Untraced.refuse (c : Cause) : (Act.refuse c : Act σ α).Untraced := by
  intro s f h
  cases h
  rfl

theorem Untraced.bind {a : Act σ α} {f : α → Act σ β} (ha : a.Untraced)
    (hf : ∀ x, (f x).Untraced) : (a >>= f).Untraced := by
  intro s e he
  rw [run_bind] at he
  rcases hrun : a.run s with ⟨r | x, s'⟩
  · rw [hrun] at he
    cases he
    exact ha s e (congrArg Prod.fst hrun)
  · rw [hrun] at he
    exact hf x s' e he

theorem Untraced.rescue {a : Act σ α} (x : α) (ha : a.Untraced) : (a.rescue x).Untraced := by
  intro s f h
  rw [run, Act.rescue] at h
  split at h
  · cases h
  · exact ha s f h

end Act

/-- Raising failures without a trace, as a property of host code. -/
def untraced : HostProperty where
  Holds := Act.Untraced
  pure := .pure
  get := .get
  refuse := .refuse
  bind := .bind
  rescue := .rescue

theorem Members.Untraced.obeys {ms : Members} (h : ms.Untraced) : ms.Obeys untraced where
  access a ha := ⟨(h.access a ha).get, (h.access a ha).set⟩
  invoke := h.invoke
  apply := h.apply
  convert := h.convert

theorem Members.Obeys.untraced {ms : Members} (h : ms.Obeys untraced) : ms.Untraced where
  access a ha := ⟨(h.access a ha).get, (h.access a ha).set⟩
  invoke := h.invoke
  apply := h.apply
  convert := h.convert

theorem World.Untraced.obeys {w : World} (hw : w.Untraced) : w.Obeys untraced :=
  fun ms hms => (hw ms hms).obeys

/-! ## Receivers -/

namespace Receiver

variable (c : Catalog) (host : String) (v : Value)

theorem change_untraced {g : Store → Object → Except Failure Object}
    (hg : ∀ s o, Untraced (g s o)) : (change c host v g).Untraced := by
  intro s f h
  have hcheck := check_untraced c host s v
  rw [Act.run, change] at h
  split at h
  · rename_i e he
    cases h
    exact hcheck f he
  · rename_i r o _
    split at h
    · rename_i e he
      cases h
      exact hg s o f he
    · cases h

theorem enter_untraced {body : ObjectRef → HostM α} (hbody : ∀ r, (body r).Untraced) :
    (enter c host v body).Untraced := by
  intro s f h
  have hcheck := check_untraced c host s v
  rw [Act.run, enter] at h
  split at h
  · rename_i e he
    cases h
    exact hcheck f he
  · exact hbody _ _ f h

end Receiver

/-! ## The game -/

namespace Game

theorem operations_untraced : Operations untraced where
  create _ s f h := by cases h
  store hstore _ := Receiver.change_untraced catalog _ _ fun s o => (hstore s).map _
  put _ := .modify _
  enter hbody := Receiver.enter_untraced catalog _ _ hbody

/-- What the members of the game raise has no trace. -/
theorem world_untraced : world.Untraced :=
  fun ms hms => (world_obeys operations_untraced ms hms).untraced

end Game

end DevConsole
