/-
# `DevConsole.Proofs.World.InUse` — objects in use are given back

An object is in use while a method of its host structure runs on it, and whether it is in use is the
one thing that a typed member leaves behind if it goes wrong.  `Store.SameUse s s'` says that the
same objects are in use in both stores.  What a world declares consists of

    typed members      the wrapper of the world, around a callback that is given the object
    raw members        host code as a whole, which is given the receiver

and it hands back what it takes (`World.HandsBack`) if the callbacks and the raw host code lead from
each store to one with the same use.  Of the wrappers nothing is asked: a getter and a setter do all
at once, and a method marks its receiver, which was free, and takes the mark away again however its
callback ends (`Receiver.enter_sameUse`).

Then evaluation hands back what it takes, on all ways out (`Context.evaluate_sameUse`).  The game is
such a world.
-/
import DevConsole.Proofs.Demo.Objects

namespace DevConsole

variable {α : Type}

/-! ## Stores -/

namespace Store

/-- The object is in use. -/
def InUse (s : Store) (r : ObjectRef) : Prop := ∃ o, s.object? r = some o ∧ o.inUse = true

/-- The same objects are in use; new ones are not. -/
def SameUse (s s' : Store) : Prop := ∀ r, s'.InUse r ↔ s.InUse r

theorem steps_sameUse : Steps SameUse where
  refl _ _ := Iff.rfl
  trans hab hbc r := (hbc r).trans (hab r)

/-- An object that is replaced by one in the same use. -/
theorem sameUse_setObject {s : Store} {r : ObjectRef} {o o' : Object} (ho : s.object? r = some o)
    (huse : o'.inUse = o.inUse) : SameUse s (s.setObject r o') := by
  intro q
  by_cases hq : q = r
  · subst hq
    simp [InUse, object?_setObject_self o' ho, ho, huse]
  · rw [InUse, InUse, object?_setObject_of_ne o' hq]

theorem sameUse_update (s : Store) (r : ObjectRef) {f : Object → Object}
    (hf : ∀ o, (f o).inUse = o.inUse) : SameUse s (s.update r f) := by
  unfold update
  split
  · rename_i o ho
    exact sameUse_setObject ho (hf o)
  · exact steps_sameUse.refl s

theorem sameUse_alloc (s : Store) {o : Object} (ho : o.inUse = false) :
    SameUse s (s.alloc o).2 := by
  intro r
  constructor
  · rintro ⟨p, hp, huse⟩
    rcases object?_alloc_eq_some hp with hp | rfl
    · exact ⟨p, hp, huse⟩
    · rw [ho] at huse
      cases huse
  · rintro ⟨p, hp, huse⟩
    exact ⟨p, object?_alloc_of_some hp, huse⟩

/-- Marking an object puts it in use. -/
theorem inUse_mark {s : Store} {r : ObjectRef} {o : Object} (ho : s.object? r = some o)
    (q : ObjectRef) :
    (s.update r fun o => { o with inUse := true }).InUse q ↔ q = r ∨ s.InUse q := by
  by_cases hq : q = r
  · subst hq
    simp [InUse, object?_update_self ho]
  · simp [InUse, object?_update_of_ne hq, hq]

/-- Taking the mark away frees it. -/
theorem inUse_unmark (s : Store) (r q : ObjectRef) :
    (s.update r fun o => { o with inUse := false }).InUse q ↔ q ≠ r ∧ s.InUse q := by
  by_cases hq : q = r
  · subst hq
    cases ho : s.object? q with
    | none => simp [InUse, update, ho]
    | some o => simp [InUse, object?_update_self ho]
  · simp [InUse, object?_update_of_ne hq, hq]

end Store

open Store (SameUse steps_sameUse)

/-! ## Wrappers -/

namespace Receiver

variable {c : Catalog} {host : String} {v : Value}

theorem change_sameUse {f : Store → Object → Except Failure Object}
    (hf : ∀ s o o', f s o = .ok o' → o'.inUse = o.inUse) :
    (change c host v f).LeadsTo SameUse := by
  intro s
  rw [Act.run, change]
  cases hcheck : check c host s v with
  | error e => exact steps_sameUse.refl s
  | ok found =>
    obtain ⟨r, o⟩ := found
    obtain ⟨-, ho, -, -⟩ := check_eq_ok_iff.1 hcheck
    simp only
    cases hfo : f s o with
    | error e => exact steps_sameUse.refl s
    | ok o' => exact Store.sameUse_setObject ho (hf s o o' hfo)

/-- The receiver is free when a method is left, as it was before, however the callback ends. -/
theorem enter_sameUse {body : ObjectRef → HostM α} (hbody : ∀ r, (body r).LeadsTo SameUse) :
    (enter c host v body).LeadsTo SameUse := by
  intro s
  rw [Act.run, enter]
  cases hcheck : check c host s v with
  | error e => exact steps_sameUse.refl s
  | ok found =>
    obtain ⟨r, o⟩ := found
    obtain ⟨-, ho, hfree, -⟩ := check_eq_ok_iff.1 hcheck
    have hinside := hbody r (s.update r fun o => { o with inUse := true })
    have hbefore : ¬ s.InUse r := by
      rintro ⟨p, hp, huse⟩
      rw [ho] at hp
      cases hp
      rw [hfree] at huse
      cases huse
    intro q
    refine (Store.inUse_unmark _ r q).trans ((and_congr_right' (hinside q)).trans ?_)
    rw [Store.inUse_mark ho]
    constructor
    · rintro ⟨hne, heq | huse⟩
      · exact absurd heq hne
      · exact huse
    · intro huse
      exact ⟨fun heq => hbefore (heq ▸ huse), .inr huse⟩

end Receiver

/-! ## Worlds -/

/-- What a field or property is made of hands back what it takes: the callback of a typed setter
leaves the mark of its object alone. -/
inductive Accessor.HandsBack : Accessor → Prop where
  | typed {c : Catalog} {host name : String} {kind : Kind} {get : Object → Value}
      {set : Option (Store → Value → Object → Except Failure Object)} :
      (∀ f, set = some f → ∀ s v o o', f s v o = .ok o' → o'.inUse = o.inUse) →
      HandsBack (.typed c host name kind get set)
  | raw {a : Accessor} :
      (∀ receiver, (a.get receiver).LeadsTo SameUse) →
      (∀ set, a.set = some set → ∀ receiver v, (set receiver v).LeadsTo SameUse) → HandsBack a

/-- So does a method: its callback hands back what it takes while the receiver is in use. -/
inductive Method.HandsBack : Method → Prop where
  | typed {c : Catalog} {host name : String} {params : List Param} {returns : Kind}
      {body : ObjectRef → List Value → HostM Value} :
      (∀ r args, (body r args).LeadsTo SameUse) →
      HandsBack (.typed c host name params returns body)
  | raw {m : Method} : (∀ receiver args, (m.invoke receiver args).LeadsTo SameUse) → HandsBack m

/-- All members of a type hand back what they take. -/
structure Members.HandsBack (ms : Members) : Prop where
  access : ∀ a ∈ ms.accessors, a.HandsBack
  invoke : ∀ m ∈ ms.methods ++ ms.constructors, m.HandsBack
  apply : ∀ o ∈ ms.operators, ∀ l r, (o.apply l r).LeadsTo SameUse
  convert : ∀ c ∈ ms.conversions ++ ms.incoming, ∀ v, (c.convert v).LeadsTo SameUse

/-- All members that the types of a world declare hand back what they take. -/
def World.HandsBack (w : World) : Prop := ∀ ms ∈ w.declared, ms.HandsBack

/-- Leaving the use of objects as it was, as a property of host code. -/
abbrev sameUse : HostProperty := steps_sameUse.leading

theorem Accessor.HandsBack.obeys {a : Accessor} (h : a.HandsBack) : a.Obeys sameUse := by
  cases h with
  | @typed c host name kind get set hset =>
    refine ⟨fun receiver => sameUse.read c host receiver get, ?_⟩
    intro f hf receiver v
    obtain ⟨g, hg, rfl⟩ := Option.map_eq_some_iff.1 hf
    exact Receiver.change_sameUse fun s o o' ho => hset g hg s v o o' ho
  | raw hget hset => exact ⟨hget, hset⟩

theorem Method.HandsBack.obeys {m : Method} (h : m.HandsBack) (receiver : Value)
    (args : List Value) : (m.invoke receiver args).LeadsTo SameUse := by
  cases h with
  | typed hbody => exact Receiver.enter_sameUse fun r => hbody r args
  | raw hinvoke => exact hinvoke receiver args

theorem World.HandsBack.obeys {w : World} (hw : w.HandsBack) : w.Obeys sameUse := by
  intro ms hms
  obtain ⟨haccess, hinvoke, happly, hconvert⟩ := hw ms hms
  exact ⟨fun a ha => (haccess a ha).obeys, fun m hm => (hinvoke m hm).obeys, happly, hconvert⟩

theorem Members.Obeys.handsBack {ms : Members} (h : ms.Obeys sameUse) : ms.HandsBack where
  access a ha := .raw (h.access a ha).get (h.access a ha).set
  invoke m hm := .raw (h.invoke m hm)
  apply := h.apply
  convert := h.convert

/-! ## Evaluation -/

namespace Context

variable {cx : Context} (hw : cx.world.HandsBack)
include hw

theorem evalSigned_sameUse (negative : Bool) (e : Expr) (r : Run) :
    SameUse r.store ((cx.evalSigned negative e).run r).2.store :=
  evalSigned_obeys steps_sameUse.leadingRun hw.obeys e negative r

theorem evalOperands_sameUse (os : List Operand) (r : Run) :
    SameUse r.store ((cx.evalOperands os).run r).2.store :=
  evalOperands_obeys steps_sameUse.leadingRun os
    (fun o _ => evalSigned_sameUse hw false o.expr) r

end Context

/-! ## The game -/

namespace Game

theorem operations_sameUse : Operations sameUse where
  create _ s := Store.sameUse_alloc s rfl
  store {_ _ _ store} _ _ := by
    refine Receiver.change_sameUse fun s o o' ho => ?_
    rcases hstore : store s with e | v
    · rw [hstore] at ho
      cases ho
    · rw [hstore] at ho
      cases ho
      rfl
  put _ s := Store.sameUse_update s _ fun _ => rfl
  enter := Receiver.enter_sameUse

/-- The game hands back what it takes. -/
theorem world_handsBack : world.HandsBack :=
  fun ms hms => (world_obeys operations_sameUse ms hms).handsBack

end Game

end DevConsole
