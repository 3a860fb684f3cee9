/-
Reading, writing and calling members, operators and casts.

These are the steps of evaluation that look at types: each finds the member, overload or conversion
that applies and then enters host code.  Nothing here looks at expressions.
-/
import DevConsole.World.Lookup

namespace DevConsole

/-- The type whose members apply to a receiver, and whether only static ones do, the receiver being
a type. -/
def Store.receiverType (s : Store) (receiver : Value) (name : String) :
    Except Failure (TypeRef × Bool) :=
  match receiver with
  | .null => .error (.of (.nullReference name))
  | .type t => .ok (t, true)
  | v =>
    match s.typeOf? v with
    | some t => .ok (t, false)
    | none => .error (.of (.evaluation ("cannot access '" ++ name ++ "': object is in use")))

namespace World

variable (w : World)

/-- The failure for a name that a type does not have. -/
def unresolved (t : TypeRef) (name : String) : Failure :=
  .of (.unresolvedMember name (w.catalog.name t))

/-- The failure for an instance member taken of a type. -/
def instanceRequired (t : TypeRef) (name : String) : Failure :=
  .of (.instanceRequired (w.catalog.name t) name)

/-- The failure for arguments that no overload takes. -/
def noOverload (s : Store) (t : TypeRef) (name : String) (args : List Value) : Failure :=
  .of (.noCompatibleOverload (w.catalog.name t) name
    (Text.join ", " (args.map (w.catalog.typeName s))))

/-- Read a member of a value. -/
def readMember (receiver : Value) (name : String) : HostM Value := do
  let s ← Act.get
  let (t, staticOnly) ← Act.ofExcept (s.receiverType receiver name)
  match w.find? t name with
  | some (.field a) | some (.property a) =>
    if staticOnly && !a.isStatic then Act.fail (w.instanceRequired t name) else a.get receiver
  | some (.variant ordinal) => return .enum t ordinal
  | some (.nested n) => return .type n
  | none => Act.fail (w.unresolved t name)

/-- An unqualified name: a member of the root, or where that fails a builtin type. -/
def readName (root : Value) (name : String) : HostM Value := fun s =>
  match w.readMember root name s with
  | (.error (.failed e), s') =>
    match Builtin.ofName? name with
    | some b => (.ok (.type (.builtin b)), s')
    | none => (.error (.failed e), s')
  | r => r

/-- Write a member of a value.  The value is converted to the kind of the member, and the converted
value is the result. -/
def writeMember (receiver : Value) (name : String) (v : Value) : HostM Value := do
  let s ← Act.get
  let (t, staticOnly) ← Act.ofExcept (s.receiverType receiver name)
  let readOnly : Failure := .of (.readOnly (w.catalog.name t) name)
  match w.find? t name with
  | some (.field a) | some (.property a) =>
    if staticOnly && !a.isStatic then Act.fail (w.instanceRequired t name)
    else
      match a.set with
      | none => Act.fail readOnly
      | some set =>
        let kind := a.kind.resolve t
        match w.catalog.convert? s v kind with
        | none => Act.fail (w.catalog.mismatch s (w.catalog.kindText kind) v)
        | some converted => do
          set receiver converted
          return converted
  | some (.variant _) | some (.nested _) => Act.fail readOnly
  | none => Act.fail (w.unresolved t name)

/-! ## Overloads -/

/-- The value for one parameter: an argument that is assignable to its kind or, where the pass
allows it, converts to it. -/
def bindArg? (s : Store) (owner : TypeRef) (convert : Bool) (p : Param) (arg : Value) :
    Option Value :=
  let kind := p.kind.resolve owner
  if w.catalog.isAssignable s arg kind then some arg
  else if convert || w.catalog.accepts s kind arg then w.catalog.convert? s arg kind
  else none

/-- One value for each parameter, missing arguments being taken from the defaults. -/
def bind? (s : Store) (owner : TypeRef) (convert : Bool) : List Param → List Value →
    Option (List Value)
  | [], [] => some []
  | [], _ :: _ => none
  | p :: ps, [] => do
    let v ← p.default
    let vs ← bind? s owner convert ps []
    return v :: vs
  | p :: ps, a :: as => do
    let v ← w.bindArg? s owner convert p a
    let vs ← bind? s owner convert ps as
    return v :: vs

/-- The first candidate that takes the arguments without conversion, or else the first that takes
them with standard conversions; with the values bound to its parameters. -/
def bindOverload? (s : Store) (candidates : List (TypeRef × Method)) (args : List Value) :
    Option (Method × List Value) :=
  [false, true].findSome? fun convert =>
    candidates.findSome? fun c =>
      (w.bind? s c.1 convert c.2.params args).map (c.2, ·)

/-- Call a method of a value. -/
def callMethod (receiver : Value) (name : String) (args : List Value) : HostM Value := do
  let s ← Act.get
  let (t, staticOnly) ← Act.ofExcept (s.receiverType receiver name)
  let methods := w.methodsNamed t name
  if methods.isEmpty then Act.fail (w.unresolved t name)
  else
    let callable := methods.filter fun m => m.2.isStatic || !staticOnly
    if callable.isEmpty then Act.fail (w.instanceRequired t name)
    else
      match w.bindOverload? s callable args with
      | some (m, bound) => m.invoke receiver bound
      | none => Act.fail (w.noOverload s t name args)

/-- Construct an object of a type. -/
def construct (t : TypeRef) (args : List Value) : HostM Value := do
  let s ← Act.get
  match w.bindOverload? s ((w.members t).constructors.map (t, ·)) args with
  | some (m, bound) => m.invoke (.type t) bound
  | none => Act.fail (w.noOverload s t "new" args)

/-! ## Casts and operators -/

/-- Cast a value: nothing to do if it is of the type; else a conversion declared along the
hierarchy of its own type, else one into the target, else the standard one for enumerated types.
Where there is none, the value passes through. -/
def cast (v : Value) (target : TypeRef) : HostM Value := do
  let s ← Act.get
  let kind := w.catalog.kindOf target
  if w.catalog.isAssignable s v kind then return v
  else
    match (s.typeOf? v).bind (w.conversionTo? · kind) with
    | some c => c.convert v
    | none =>
      match w.conversionFrom? s target v with
      | some c => c.convert v
      | none =>
        if w.catalog.isEnum target then return (w.catalog.convert? s v kind).getD v
        else return v

/-- The overload of an operator for two operands: the type of the left one is asked first, then
that of the right one. -/
def overload? (s : Store) (op : Operator) (l r : Value) : Option Overload :=
  [l, r].findSome? fun v =>
    (s.typeOf? v).bind fun t =>
      ((w.overloads t op).find? fun o =>
        w.catalog.accepts s (o.2.left.resolve o.1) l &&
          w.catalog.accepts s (o.2.right.resolve o.1) r).map (·.2)

/-- Apply an operator.  Without an overload, equality is that of values, and any other operator
gives its right operand or, under the strict rule, fails. -/
def applyOperator (strict : Bool) (op : Operator) (l r : Value) : HostM Value := do
  let s ← Act.get
  match w.overload? s op l r with
  | some o => o.apply l r
  | none =>
    if op = .eq || op = .ne then return .bool (w.catalog.same l r == (op == .eq))
    else if strict then Act.fail (Arithmetic.undefinedFor w.catalog s op l r)
    else return r

/-- The members of a value as a listing; of a type, the static ones. -/
def membersOf (s : Store) : Value → List Entry
  | .null => []
  | .type t => (w.list s t).filter (·.isStatic)
  | v =>
    match s.typeOf? v with
    | some t => w.list s t
    | none => []

end World

end DevConsole
