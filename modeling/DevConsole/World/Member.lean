/-
Members: what a type offers.

A member carries host code as a computation over the store, next to the names and kinds that
evaluation goes by and that listings show.
-/
import DevConsole.Expr.Operator
import DevConsole.World.Catalog

namespace DevConsole

/-- Host code: a computation over the objects. -/
abbrev HostM := Act Store

/-- A field or property: a getter, and a setter unless it is read-only.  Both are given the
receiver, which static members ignore. -/
structure Accessor where
  name : String
  kind : Kind
  isStatic : Bool
  get : Value → HostM Value
  set : Option (Value → Value → HostM Unit)

/-- Store a value through a member, which must have a setter. -/
def Accessor.write (a : Accessor) (receiver v : Value) : HostM Unit :=
  match a.set with
  | some set => set receiver v
  | none => Act.refuse (.evaluation (a.name ++ " has no setter"))

/-- A parameter of a method or constructor, with the value that a missing argument takes. -/
structure Param where
  name : String
  kind : Kind
  default : Option Value := none

/-- A method or constructor.  It is called with one value for each parameter. -/
structure Method where
  name : String
  params : List Param
  returns : Kind
  isStatic : Bool
  invoke : Value → List Value → HostM Value

/-- An operator of a type, for operands that its kinds accept. -/
structure Overload where
  op : Operator
  left : Kind
  right : Kind
  apply : Value → Value → HostM Value

/-- A conversion between a type and a kind. -/
structure Conversion where
  kind : Kind
  convert : Value → HostM Value

/-- Everything a type declares, in the order of declaration. -/
structure Members where
  fields : List Accessor := []
  properties : List Accessor := []
  nested : List TypeRef := []
  methods : List Method := []
  constructors : List Method := []
  operators : List Overload := []
  /-- Conversions from the type. -/
  conversions : List Conversion := []
  /-- Conversions into the type. -/
  incoming : List Conversion := []

/-- What a name denotes as a member of a type. -/
inductive Found where
  | field (a : Accessor)
  | property (a : Accessor)
  | variant (ordinal : Int64)
  | nested (t : TypeRef)

/-- The sorts of entries in a listing of members. -/
inductive EntrySort where
  | field
  | property
  | type
  | method
deriving Repr, DecidableEq

/-- The word for a sort of entry. -/
def EntrySort.text : EntrySort → String
  | field => "field"
  | property => "property"
  | type => "type"
  | method => "method"

/-- An entry in a listing of members. -/
structure Entry where
  name : String
  sort : EntrySort
  /-- The kind of a field or property, the parameters and result of a method. -/
  signature : String
  isStatic : Bool
deriving Repr, DecidableEq

/-- The text of an entry. -/
def Entry.text (e : Entry) : String :=
  (if e.isStatic then "static " else "") ++ e.sort.text ++ " " ++ e.name ++ e.signature

/-- A list without repetitions: of equal entries the first stays. -/
def Entry.dedup (es : List Entry) : List Entry :=
  es.foldl (fun seen e => if e ∈ seen then seen else seen ++ [e]) []

namespace Method

/-- The parameters and result of a method, its kinds spelled by `spell`. -/
def signatureWith (c : Catalog) (s : Store) (spell : Kind → String) (m : Method) : String :=
  let param (p : Param) : String :=
    p.name ++ ": " ++ spell p.kind ++
      match p.default with
      | some d => " = " ++ c.display s d
      | none => ""
  "(" ++ Text.join ", " (m.params.map param) ++ ")" ++
    if m.returns = .void then "" else ": " ++ spell m.returns

/-- The signature as declared. -/
def signature (c : Catalog) (s : Store) (m : Method) : String :=
  m.signatureWith c s c.kindText

/-- The signature with the declaring type spelled out. -/
def signatureIn (c : Catalog) (s : Store) (owner : TypeRef) (m : Method) : String :=
  m.signatureWith c s fun k => c.kindText (k.resolve owner)

end Method

end DevConsole
