/-
Blueprints: worlds written down as data.

A blueprint lists types in order of declaration, each with the members it declares and, for every
member with code, a body from a small language.  Types are named in a blueprint; a name may be used
before its type is declared.
-/
import DevConsole.Expr.Operator
import DevConsole.World.Value

namespace DevConsole

/-- A value to be made when it is needed. -/
inductive ValuePlan where
  /-- A value that needs no type. -/
  | plain (v : Value)
  | enum (type : String) (ordinal : Int64)
  | type (name : String)
  /-- A new object of a type. -/
  | fresh (type : String)
deriving Repr

/-- The sorts of payload that a body may ask its argument for. -/
inductive Payload where
  | bool
  | int
  | float
  | double
  | str
  | object
  | enum
deriving Repr, DecidableEq

/-- What a member does, given its receiver and arguments. -/
inductive Body where
  | const (v : ValuePlan)
  /-- The argument at an index. -/
  | arg (index : Nat)
  /-- A label with the texts of the arguments. -/
  | echo (label : String)
  /-- A label with the type names of the arguments. -/
  | kinds (label : String)
  /-- A slot of the receiver of a method. -/
  | slot (name : String)
  /-- Store the first argument in a slot of the receiver. -/
  | store (name : String)
  /-- Add the first argument to a slot of the receiver. -/
  | increase (name : String)
  | fail (reason : String)
  | panic (text : String)
  /-- The receiver as a value. -/
  | receiver
  /-- The name of the type of the receiver. -/
  | typeName
  /-- A new object, with its slots filled from the arguments in order. -/
  | make (type : String) (slots : List String)
  /-- The payload of the first argument. -/
  | extract (sort : Payload)
  /-- A slot of the first argument, which must be an object without a description. -/
  | argSlot (name : String)
  /-- The value of a line evaluated with the first argument as root. -/
  | evaluate (source : String)
deriving Repr

/-- A parameter with the name of its kind. -/
structure ParamPlan where
  name : String
  kind : String
  default : Option ValuePlan := none
deriving Repr

/-- A member as declared. -/
inductive MemberPlan where
  | field (name kind : String) (init : Option ValuePlan)
  | readonlyField (name kind : String) (init : Option ValuePlan)
  | property (name kind : String) (init : Option ValuePlan)
  /-- A property with a setter, which may refuse every value with a reason. -/
  | mutableProperty (name kind : String) (init : Option ValuePlan) (reject : Option String)
  | staticField (name kind : String) (value : ValuePlan) (constant : Bool)
  | staticProperty (name kind : String) (value : ValuePlan)
  | rawProperty (name kind : String) (body : Body)
  | method (name : String) (params : List ParamPlan) (returns : String) (body : Body)
  | rawMethod (name : String) (params : List ParamPlan) (returns : String) (body : Body)
  | staticMethod (name : String) (params : List ParamPlan) (returns : String) (body : Body)
  | constructor (params : List ParamPlan) (body : Body)
  | nested (type : String)
  | operator (op : Operator) (left right : String) (body : Body)
  | conversion (target : String) (body : Body)
  | incoming (source : String) (body : Body)
deriving Repr

/-- A slot that a member needs: its name, its kind, and what it starts with. -/
def MemberPlan.slot? : MemberPlan → Option (String × String × Option ValuePlan)
  | field n k i | readonlyField n k i | property n k i | mutableProperty n k i _ => some (n, k, i)
  | _ => none

/-- A type as declared. -/
structure TypePlan where
  name : String
  base : Option String := none
  /-- The variants, if the type is enumerated. -/
  variants : Option (List (String × Int64)) := none
  /-- The slots shown in the description of an object, if it has one. -/
  describe : Option (List String) := none
  members : List MemberPlan := []
deriving Repr

/-- The name of the host structure behind objects of a type: described objects and plain ones are
held by different structures. -/
def TypePlan.host (t : TypePlan) : String :=
  if t.describe.isSome then "DescObj" else "DynObj"

/-- A world as data. -/
structure Blueprint where
  types : List TypePlan
deriving Repr

end DevConsole
