/-
Worlds, and looking members up.

A world is a catalog with the members of each declared type; the builtin types bring their own.
Lookups walk a hierarchy from the most derived type on.
-/
import DevConsole.World.Builtin

namespace DevConsole

/-- The declared types of a world: their headers, and the members of each. -/
structure World where
  catalog : Catalog
  declared : List Members

namespace World

/-- The members that a type declares. -/
def members (w : World) : TypeRef → Members
  | .builtin b => Builtin.members w.catalog b
  | .declared i => w.declared.getD i {}

/-- The first accessor with a name in one of the lists of a hierarchy. -/
def accessor? (w : World) (list : Members → List Accessor) (t : TypeRef) (name : String) :
    Option Accessor :=
  (w.catalog.hierarchy t).findSome? fun u => (list (w.members u)).find? (·.name == name)

/-- What a name denotes as a member of a type: a variant of the type itself, or else a field, a
property or a nested type along its hierarchy, looked for in this order. -/
def find? (w : World) (t : TypeRef) (name : String) : Option Found :=
  match w.catalog.variantOrdinal? t name with
  | some ordinal => some (.variant ordinal)
  | none =>
    match w.accessor? Members.fields t name with
    | some a => some (.field a)
    | none =>
      match w.accessor? Members.properties t name with
      | some a => some (.property a)
      | none =>
        ((w.catalog.hierarchy t).findSome? fun u =>
          (w.members u).nested.find? (w.catalog.name · == name)).map .nested

/-- All methods with a name, each with the type that declares it. -/
def methodsNamed (w : World) (t : TypeRef) (name : String) : List (TypeRef × Method) :=
  (w.catalog.hierarchy t).flatMap fun u =>
    ((w.members u).methods.filter (·.name == name)).map (u, ·)

/-- All overloads of an operator, each with the type that declares it. -/
def overloads (w : World) (t : TypeRef) (op : Operator) : List (TypeRef × Overload) :=
  (w.catalog.hierarchy t).flatMap fun u =>
    ((w.members u).operators.filter (·.op == op)).map (u, ·)

/-- The first conversion along the hierarchy to a kind. -/
def conversionTo? (w : World) (t : TypeRef) (k : Kind) : Option Conversion :=
  (w.catalog.hierarchy t).findSome? fun u =>
    (w.members u).conversions.find? fun c => w.catalog.sameKind (c.kind.resolve u) k

/-- The first conversion into a type that accepts a value. -/
def conversionFrom? (w : World) (s : Store) (t : TypeRef) (v : Value) : Option Conversion :=
  (w.members t).incoming.find? fun c => w.catalog.accepts s (c.kind.resolve t) v

/-- The entries of the fields or properties of one type. -/
def accessorEntries (w : World) (sort : EntrySort) (list : Members → List Accessor) (u : TypeRef) :
    List Entry :=
  (list (w.members u)).map fun a =>
    ⟨a.name, sort, ": " ++ w.catalog.kindText (a.kind.resolve u), a.isStatic⟩

/-- Every member of a type: variants, then the fields and properties of each type of the hierarchy,
nested types, and methods.  A member that a more derived type declares alike is listed once. -/
def list (w : World) (s : Store) (t : TypeRef) : List Entry :=
  let hierarchy := w.catalog.hierarchy t
  let variants := (w.catalog.variants t).map fun v =>
    (⟨v.1, .field, ": " ++ w.catalog.name t, true⟩ : Entry)
  let accessors := hierarchy.flatMap fun u =>
    w.accessorEntries .field Members.fields u ++ w.accessorEntries .property Members.properties u
  let nested := hierarchy.flatMap fun u =>
    (w.members u).nested.map fun n => (⟨w.catalog.name n, .type, "", true⟩ : Entry)
  let methods := hierarchy.flatMap fun u =>
    (w.members u).methods.map fun m =>
      (⟨m.name, .method, m.signatureIn w.catalog s u, m.isStatic⟩ : Entry)
  Entry.dedup (variants ++ accessors ++ nested ++ methods)

end World

end DevConsole
