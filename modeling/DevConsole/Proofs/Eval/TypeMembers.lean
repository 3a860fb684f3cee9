/-
# `DevConsole.Proofs.Eval.TypeMembers` — what is listed of a type, and what can be taken of it

Of a type, only static members can be taken, and only static members are listed.  But the listing
looks at every declaration along the hierarchy for itself, and reading a member does not:

    listing     all declarations, of these the static ones
    reading     the declaration that the look-up finds, if it is static
    calling     all methods with the name, of these the static ones, of these one that fits

Calling goes by the same declarations as the listing, so that a method that is listed is called
whenever arguments fit it.  Reading does not get to a static member behind an instance member of its
name, which stands nearer or is a field before a property: the member is listed, and cannot be taken
(`readMember_type`, `Shadowed.listed_not_read`).
-/
import DevConsole.Proofs.Eval.Overloads
import DevConsole.Proofs.Eval.ReadBack
import DevConsole.Proofs.World.Listing

namespace DevConsole

namespace World

variable {w : World} {s : Store} {t u : TypeRef} {name : String} {e : Entry} {m : Method}
  {args : List Value}

theorem mem_membersOf_type :
    e ∈ w.membersOf s (.type t) ↔ w.Lists s t e ∧ e.isStatic = true := by
  rw [membersOf, List.mem_filter, mem_list_iff]

/-! ## Reading -/

/-- Reading a member of a type gives what the look-up finds, if that is static. -/
theorem readMember_type {found : Found} (h : w.find? t name = some found) (s : Store) :
    (w.readMember (.type t) name).run s =
      if found.isStatic then (found.read t (.type t)).run s
      else (.error (.failed (w.instanceRequired t name)), s) := by
  have hr : s.receiverType (.type t) name = .ok (t, true) := rfl
  simp only [run_readMember, hr, h, Bool.true_and]
  cases found.isStatic <;> rfl

/-- An instance member that the look-up finds is declared nearer than any other of its sort. -/
theorem exists_declares_of_not_isStatic {found : Found} (h : w.find? t name = some found)
    (hstatic : found.isStatic = false) :
    ∃ sort u a, w.Declares t name sort u a ∧ a.isStatic = false ∧
      (found = .field a ∨ found = .property a) := by
  obtain ⟨e, -, hshows⟩ := exists_shows (s := {}) h
  cases hshows with
  | field hdeclares => exact ⟨_, _, _, hdeclares, hstatic, .inl rfl⟩
  | property hdeclares => exact ⟨_, _, _, hdeclares, hstatic, .inr rfl⟩
  | variant | nested => cases hstatic

/-! ## Calling -/

/-- The parameters of a method that an entry shows can be bound to arguments. -/
def Fits (w : World) (s : Store) (t : TypeRef) (e : Entry) (args : List Value) : Prop :=
  ∃ u m, u ∈ w.catalog.hierarchy t ∧ m ∈ (w.members u).methods ∧
    e = ⟨m.name, .method, m.signatureIn w.catalog s u, m.isStatic⟩ ∧
    ∃ bound, w.Binds s u m.params args bound

/-- Calling a method of a type goes by its static methods, if there are any. -/
theorem callMethod_type (hstatic : (u, m) ∈ w.methodsNamed t name) (hm : m.isStatic = true)
    (args : List Value) :
    (w.callMethod (.type t) name args).run s =
      match w.bindOverload? s ((w.methodsNamed t name).filter (·.2.isStatic)) args with
      | some (m, bound) => (m.invoke (.type t) bound).run s
      | none => (.error (.failed (w.noOverload s t name args)), s) := by
  have hreceiver : s.receiverType (.type t) name = .ok (t, true) := rfl
  have hnamed : (w.methodsNamed t name).isEmpty = false := by
    rw [List.isEmpty_eq_false_iff]
    exact List.ne_nil_of_mem hstatic
  have hcallable : ((w.methodsNamed t name).filter (·.2.isStatic)).isEmpty = false := by
    rw [List.isEmpty_eq_false_iff]
    exact List.ne_nil_of_mem (List.mem_filter.2 ⟨hstatic, hm⟩)
  unfold callMethod
  rw [Act.run_bind, Act.run_get]
  simp only [hreceiver, Act.ofExcept_ok_bind, Bool.not_true, Bool.or_false, hnamed, hcallable,
    Bool.false_eq_true, if_false]
  cases w.bindOverload? s ((w.methodsNamed t name).filter (·.2.isStatic)) args <;> rfl

/-- A static method with the name is called, unless the arguments fit none of those that are
listed. -/
theorem callMethod_type_cases (hstatic : (u, m) ∈ w.methodsNamed t name) (hm : m.isStatic = true)
    (args : List Value) :
    (∃ u m bound, (u, m) ∈ w.methodsNamed t name ∧ m.isStatic = true ∧
      w.Binds s u m.params args bound ∧
      (w.callMethod (.type t) name args).run s = (m.invoke (.type t) bound).run s) ∨
    (w.callMethod (.type t) name args).run s =
        (.error (.failed (w.noOverload s t name args)), s) ∧
      ∀ e : Entry, e.name = name → e.isStatic = true → ¬ w.Fits s t e args := by
  rw [callMethod_type hstatic hm args]
  cases hbound : w.bindOverload? s ((w.methodsNamed t name).filter (·.2.isStatic)) args with
  | some found =>
    obtain ⟨m', bound⟩ := found
    obtain ⟨u', hselects, hbind⟩ := bindOverload?_eq_some_iff.1 hbound
    obtain ⟨hmem, hm'⟩ := List.mem_filter.1 hselects.mem
    exact .inl ⟨u', m', bound, hmem, hm', bind?_eq_some_iff.1 hbind, rfl⟩
  | none =>
    refine .inr ⟨rfl, ?_⟩
    rintro e hname he ⟨u', m', hu', hm', rfl, bound, hbinds⟩
    have hcandidate : (u', m') ∈ (w.methodsNamed t name).filter (·.2.isStatic) :=
      List.mem_filter.2 ⟨mem_methodsNamed_iff.2 ⟨hu', hm', hname⟩, he⟩
    have hsome : (w.bindOverload? s ((w.methodsNamed t name).filter (·.2.isStatic))
        args).isSome = true :=
      isSome_bindOverload?.2
        ⟨_, hcandidate, Option.isSome_of_eq_some (bind?_eq_some_iff.2 hbinds)⟩
    rw [hbound] at hsome
    cases hsome

/-- What is listed of a type, and what can be taken of it.  A field, property or type that is listed
is always found, and reading it enters the getter of what is found, or gives the variant or type,
unless that is an instance member of the same name: then reading fails, whatever is listed behind
it.  For a method that is listed, a static method with its name is called whenever arguments fit the
entry, and no call fails but for its arguments. -/
theorem type_members_taken (he : e ∈ w.membersOf s (.type t)) :
    (e.sort ≠ .method → ∃ found, w.find? t e.name = some found ∧
      (w.readMember (.type t) e.name).run s =
        (if found.isStatic then (found.read t (.type t)).run s
        else (.error (.failed (w.instanceRequired t e.name)), s)) ∧
      (found.isStatic = false → ∃ sort u a, w.Declares t e.name sort u a ∧ a.isStatic = false ∧
        (found = .field a ∨ found = .property a))) ∧
    (e.sort = .method → ∀ args,
      (∃ u m bound, (u, m) ∈ w.methodsNamed t e.name ∧ m.isStatic = true ∧
        w.Binds s u m.params args bound ∧
        (w.callMethod (.type t) e.name args).run s = (m.invoke (.type t) bound).run s) ∨
      (w.callMethod (.type t) e.name args).run s =
          (.error (.failed (w.noOverload s t e.name args)), s) ∧ ¬ w.Fits s t e args) := by
  obtain ⟨hlists, hstatic⟩ := mem_membersOf_type.1 he
  constructor
  · intro hsort
    cases hfound : w.find? t e.name with
    | none => exact absurd (hlists.sort_eq_method rfl hfound) hsort
    | some found =>
      exact ⟨found, rfl, readMember_type hfound s, exists_declares_of_not_isStatic hfound⟩
  · intro hsort args
    cases hlists with
    | variant | nested => cases hsort
    | accessor _ ha =>
      obtain rfl : _ = EntrySort.method := hsort
      cases ha
    | @method u m hu hm =>
      have hnamed := mem_methodsNamed_iff.2 ⟨hu, hm, rfl⟩
      refine (callMethod_type_cases hnamed hstatic args).imp_right ?_
      rintro ⟨hrun, hnone⟩
      exact ⟨hrun, hnone _ rfl hstatic⟩

end World

/-! ## A field behind a field -/

namespace Shadowed

/-- A type and one derived from it. -/
def catalog : Catalog where
  headers := [{ name := "Base" }, { name := "Derived", base := some (.declared 0) }]

/-- The base has a static field and a static method, and the derived type an instance field and an
instance method with their names. -/
def world : World where
  catalog := catalog
  declared :=
    [{ fields := [.constant "n" .int (pure (.int 1))]
       methods := [⟨"m", [{ name := "x", kind := .int }], .int, true,
          fun _ args => pure (args.headD .null)⟩] },
      { fields := [.typed catalog "Derived" "n" .int fun _ => .int 2]
        methods := [⟨"m", [], .int, false, fun _ _ => pure (.int 2)⟩] }]

/-- The derived type. -/
def derived : TypeRef := .declared 1

/-- The static field is listed of the derived type, and cannot be read of it. -/
theorem listed_not_read :
    ⟨"n", .field, ": int", true⟩ ∈ world.membersOf {} (.type derived) ∧
      (world.readMember (.type derived) "n").run {} =
        (.error (.failed (world.instanceRequired derived "n")), {}) :=
  ⟨by decide +kernel, rfl⟩

/-- Of the base the field is read, and of the derived type the static method is called. -/
theorem type_members_taken_base :
    (⟨"n", .field, ": int", true⟩ ∈ world.membersOf {} (.type (.declared 0)) ∧
      (world.readMember (.type (.declared 0)) "n").run {} = (.ok (.int 1), {})) ∧
    ⟨"m", .method, "(x: int): int", true⟩ ∈ world.membersOf {} (.type derived) ∧
      ∃ u m bound, (u, m) ∈ world.methodsNamed derived "m" ∧ m.isStatic = true ∧
        world.Binds {} u m.params [.int 5] bound ∧
        (world.callMethod (.type derived) "m" [.int 5]).run {} =
          (m.invoke (.type derived) bound).run {} := by
  have hfield : ⟨"n", .field, ": int", true⟩ ∈ world.membersOf {} (.type (.declared 0)) := by
    decide +kernel
  have hmethod : ⟨"m", .method, "(x: int): int", true⟩ ∈ world.membersOf {} (.type derived) := by
    decide +kernel
  refine ⟨⟨hfield, ?_⟩, hmethod, ?_⟩
  · obtain ⟨found, hfound, hrun, -⟩ := (World.type_members_taken hfield).1 (by decide)
    have hstatic : world.find? (.declared 0) "n" =
        some (.field (.constant "n" .int (pure (.int 1)))) := rfl
    cases hstatic.symm.trans hfound
    exact hrun
  · refine ((World.type_members_taken hmethod).2 rfl [.int 5]).resolve_right ?_
    rintro ⟨-, hnone⟩
    refine hnone ⟨.declared 0, _, by decide, List.mem_singleton.2 rfl, rfl, [.int 5], ?_⟩
    exact World.bind?_eq_some_iff.1 rfl

end Shadowed

end DevConsole
