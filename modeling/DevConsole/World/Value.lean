/-
Values, kinds, and references to types and objects.

Types and objects are referred to by number: a type by its place in the catalog, an object by its
place in the store.  So a value is plain data, and two references to one object are equal.
-/

namespace DevConsole

/-- The types that every world has. -/
inductive Builtin where
  | bool
  | int
  | float
  | double
  | string
deriving Repr, DecidableEq

namespace Builtin

/-- The keyword of a builtin type. -/
def name : Builtin → String
  | bool => "bool"
  | int => "int"
  | float => "float"
  | double => "double"
  | string => "string"

/-- The builtin type of a keyword. -/
def ofName? (s : String) : Option Builtin :=
  [bool, int, float, double, string].find? (·.name == s)

theorem ofName?_name (b : Builtin) : ofName? b.name = some b := by
  cases b <;> decide +kernel

end Builtin

/-- A reference to a type: a builtin one, or the one at a place among the declared types. -/
inductive TypeRef where
  | builtin (b : Builtin)
  | declared (index : Nat)
deriving Repr, DecidableEq

/-- How late a type was declared.  The base of a type always has a smaller rank. -/
def TypeRef.rank : TypeRef → Nat
  | builtin _ => 0
  | declared i => i + 1

/-- A reference to an object of the store. -/
structure ObjectRef where
  index : Nat
deriving Repr, DecidableEq

/-- A value of an expression. -/
inductive Value where
  | null
  | bool (b : Bool)
  | int (i : Int64)
  | float (x : Float32)
  | double (x : Float)
  | str (s : String)
  /-- A value of an enumerated type, by its ordinal. -/
  | enum (type : TypeRef) (ordinal : Int64)
  | object (o : ObjectRef)
  /-- A type used as a value. -/
  | type (t : TypeRef)
deriving Repr

/-- The declared kind of a member, a parameter or a result. -/
inductive Kind where
  /-- Any value. -/
  | any
  /-- No value. -/
  | void
  | bool
  | int
  | float
  | double
  | str
  | type (t : TypeRef)
  /-- The type that declares the member. -/
  | own
deriving Repr, DecidableEq

/-- The type that describes a kind, if there is one. -/
def Kind.type? : Kind → Option TypeRef
  | bool => some (.builtin .bool)
  | int => some (.builtin .int)
  | float => some (.builtin .float)
  | double => some (.builtin .double)
  | str => some (.builtin .string)
  | type t => some t
  | any | void | own => none

/-- A kind declared by `owner`, with the declaring type spelled out. -/
def Kind.resolve (owner : TypeRef) : Kind → Kind
  | own => type owner
  | k => k

/-- Whether a value is null. -/
def Value.isNull : Value → Bool
  | null => true
  | _ => false

/-- Resolving twice is resolving once. -/
@[simp] theorem Kind.resolve_resolve (a b : TypeRef) (k : Kind) :
    (k.resolve a).resolve b = k.resolve a := by
  cases k <;> rfl

end DevConsole
