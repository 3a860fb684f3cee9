/-
Typed members: host code that works on the object behind a receiver.

Such a member belongs to one host structure.  It needs an object that is not in use and that this
structure holds, checked in this order, and reports what it found instead.  A method keeps its
receiver in use while it runs and gives it back however it ends.
-/
import DevConsole.World.Member

namespace DevConsole

namespace Receiver

variable {α : Type}

/-- The failure for an object that is in use. -/
def inUse (host : String) : Failure :=
  .of (.evaluation (host ++ " is already in use"))

/-- The object behind a value, for members of a host structure. -/
def check (c : Catalog) (host : String) (s : Store) (v : Value) :
    Except Failure (ObjectRef × Object) :=
  match c.asObject s v with
  | .error e => .error e
  | .ok r =>
    match s.object? r with
    | none => .error (inUse host)
    | some o =>
      if o.inUse then .error (inUse host)
      else if o.host = host then .ok (r, o)
      else .error (.of (.typeMismatch host (c.name o.type)))

/-- Read the object behind a value. -/
def read (c : Catalog) (host : String) (v : Value) (f : Object → α) : HostM α := fun s =>
  match check c host s v with
  | .error e => (.error (.failed e), s)
  | .ok (_, o) => (.ok (f o), s)

/-- Change the object behind a value, unless the change is refused. -/
def change (c : Catalog) (host : String) (v : Value) (f : Store → Object → Except Failure Object) :
    HostM Unit := fun s =>
  match check c host s v with
  | .error e => (.error (.failed e), s)
  | .ok (r, o) =>
    match f s o with
    | .error e => (.error (.failed e), s)
    | .ok o' => (.ok (), s.setObject r o')

/-- Run host code while the object behind a value is in use. -/
def enter (c : Catalog) (host : String) (v : Value) (body : ObjectRef → HostM α) :
    HostM α := fun s =>
  match check c host s v with
  | .error e => (.error (.failed e), s)
  | .ok (r, _) =>
    let (result, s') := body r (s.update r fun o => { o with inUse := true })
    (result, s'.update r fun o => { o with inUse := false })

end Receiver

namespace Accessor

/-- A member read from an object and, if there is a setter, stored into it. -/
def typed (c : Catalog) (host name : String) (kind : Kind) (get : Object → Value)
    (set : Option (Store → Value → Object → Except Failure Object) := none) : Accessor where
  name := name
  kind := kind
  isStatic := false
  get := fun recv => Receiver.read c host recv get
  set := set.map fun f recv v => Receiver.change c host recv fun s o => f s v o

/-- A read-only static member. -/
def constant (name : String) (kind : Kind) (get : HostM Value) : Accessor where
  name := name
  kind := kind
  isStatic := true
  get := fun _ => get
  set := none

end Accessor

/-- A method of a host structure, which has its receiver in use while it runs. -/
def Method.typed (c : Catalog) (host name : String) (params : List Param) (returns : Kind)
    (body : ObjectRef → List Value → HostM Value) : Method where
  name := name
  params := params
  returns := returns
  isStatic := false
  invoke := fun recv args => Receiver.enter c host recv fun r => body r args

/-- A method without a receiver. -/
def Method.static (name : String) (params : List Param) (returns : Kind)
    (body : List Value → HostM Value) : Method where
  name := name
  params := params
  returns := returns
  isStatic := true
  invoke := fun _ args => body args

/-- A constructor of the type that declares it, which has its name. -/
def Method.constructor (typeName : String) (params : List Param) (body : List Value → HostM Value) :
    Method :=
  Method.static typeName params .own body

/-- What every enumerated type can do: compare for equality by ordinal, and convert to an
integer. -/
def Members.enumeration (c : Catalog) : Members where
  operators :=
    let compare (op : Operator) (test : Int64 → Int64 → Bool) : Overload :=
      { op := op, left := .own, right := .own
        apply := fun l r => do
          let s ← Act.get
          let a ← Act.ofExcept (c.asEnum s l)
          let b ← Act.ofExcept (c.asEnum s r)
          return .bool (test a.2 b.2) }
    [compare .eq (· == ·), compare .ne (· != ·)]
  conversions :=
    [{ kind := .int
       convert := fun v => do
         let s ← Act.get
         let a ← Act.ofExcept (c.asEnum s v)
         return .int a.2 }]

end DevConsole
