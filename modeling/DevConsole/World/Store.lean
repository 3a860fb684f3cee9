/-
The store: every live object, and the static cells of types.

An object has a type, named slots, and the name of the host structure behind it, which typed members
check.  While a method runs, its receiver is in use: it cannot be read or entered again, and prints
as such.
-/
import DevConsole.Act
import DevConsole.World.Value

namespace DevConsole

/-- A live object. -/
structure Object where
  type : TypeRef
  /-- The host structure that holds the object. -/
  host : String
  slots : List (String × Value)
  /-- Whether a method of the object is running. -/
  inUse : Bool := false
deriving Repr

namespace Object

/-- The value in a slot, if the object has it. -/
def slot? (o : Object) (name : String) : Option Value :=
  o.slots.lookup name

/-- Write into an association list: in place if the name is there, else at the end. -/
def putSlot (name : String) (v : Value) : List (String × Value) → List (String × Value)
  | [] => [(name, v)]
  | (n, w) :: rest => if n = name then (n, v) :: rest else (n, w) :: putSlot name v rest

/-- The object with a value stored in a slot. -/
def setSlot (o : Object) (name : String) (v : Value) : Object :=
  { o with slots := putSlot name v o.slots }

theorem lookup_putSlot_self (name : String) (v : Value) (l : List (String × Value)) :
    (putSlot name v l).lookup name = some v := by
  induction l with
  | nil => simp [putSlot]
  | cons p rest ih =>
    obtain ⟨n, w⟩ := p
    unfold putSlot
    split
    · rename_i h
      subst h
      simp
    · rename_i h
      have hn : (name == n) = false := by simpa using Ne.symm h
      simp [List.lookup_cons, hn, ih]

theorem lookup_putSlot_of_ne {name other : String} (h : other ≠ name) (v : Value)
    (l : List (String × Value)) : (putSlot name v l).lookup other = l.lookup other := by
  induction l with
  | nil =>
    have : (other == name) = false := by simpa using h
    simp [putSlot, List.lookup_cons, this]
  | cons p rest ih =>
    obtain ⟨n, w⟩ := p
    unfold putSlot
    split
    · rename_i hn
      subst hn
      have : (other == n) = false := by simpa using h
      simp [List.lookup_cons, this]
    · simp [List.lookup_cons, ih]

/-- A slot holds what was stored in it. -/
@[simp] theorem slot?_setSlot_self (o : Object) (name : String) (v : Value) :
    (o.setSlot name v).slot? name = some v :=
  lookup_putSlot_self name v o.slots

/-- Storing in one slot leaves the others alone. -/
theorem slot?_setSlot_of_ne (o : Object) {name other : String} (h : other ≠ name) (v : Value) :
    (o.setSlot name v).slot? other = o.slot? other :=
  lookup_putSlot_of_ne h v o.slots

end Object

/-- A static cell: the type that declares it and its place among the type's members. -/
structure Cell where
  owner : TypeRef
  place : Nat
deriving Repr, DecidableEq

/-- All objects by number, and the static cells that have been given a value. -/
structure Store where
  objects : List Object := []
  cells : List (Cell × Value) := []
deriving Repr

namespace Store

/-- The object behind a reference. -/
def object? (s : Store) (r : ObjectRef) : Option Object :=
  s.objects[r.index]?

/-- Replace an object. -/
def setObject (s : Store) (r : ObjectRef) (o : Object) : Store :=
  { s with objects := s.objects.set r.index o }

/-- Change an object. -/
def update (s : Store) (r : ObjectRef) (f : Object → Object) : Store :=
  match s.object? r with
  | some o => s.setObject r (f o)
  | none => s

/-- A new object, and the reference to it. -/
def alloc (s : Store) (o : Object) : ObjectRef × Store :=
  (⟨s.objects.length⟩, { s with objects := s.objects ++ [o] })

/-- The value of a static cell, if it has one. -/
def cell? (s : Store) (c : Cell) : Option Value :=
  s.cells.lookup c

/-- Give a static cell a value. -/
def setCell (s : Store) (c : Cell) (v : Value) : Store :=
  { s with cells := (c, v) :: s.cells.filter (·.1 != c) }

/-- The type whose members and operators apply to a value.  Null, type values and objects in use
have none. -/
def typeOf? (s : Store) : Value → Option TypeRef
  | .null | .type _ => none
  | .bool _ => some (.builtin .bool)
  | .int _ => some (.builtin .int)
  | .float _ => some (.builtin .float)
  | .double _ => some (.builtin .double)
  | .str _ => some (.builtin .string)
  | .enum t _ => some t
  | .object r =>
    match s.object? r with
    | some o => if o.inUse then none else some o.type
    | none => none

/-- A new object leaves the old ones where they were. -/
theorem object?_alloc_of_some {s : Store} {o p : Object} {r : ObjectRef}
    (h : s.object? r = some p) : (s.alloc o).2.object? r = some p := by
  unfold object? at h
  have hlt : r.index < s.objects.length := by
    rcases List.getElem?_eq_some_iff.1 h with ⟨hlt, _⟩
    exact hlt
  simp [alloc, object?, List.getElem?_append_left hlt, h]

/-- A replaced object is found under its reference. -/
theorem object?_setObject_self {s : Store} {r : ObjectRef} {p : Object} (o : Object)
    (h : s.object? r = some p) : (s.setObject r o).object? r = some o := by
  unfold object? at h
  rcases List.getElem?_eq_some_iff.1 h with ⟨hlt, _⟩
  simp [setObject, object?, hlt]

/-- Replacing one object leaves the others alone. -/
theorem object?_setObject_of_ne {s : Store} {r q : ObjectRef} (o : Object) (h : q ≠ r) :
    (s.setObject r o).object? q = s.object? q := by
  have hi : r.index ≠ q.index := by
    intro he
    apply h
    cases r
    cases q
    simp_all
  simp [setObject, object?, List.getElem?_set_ne hi]

end Store

end DevConsole
