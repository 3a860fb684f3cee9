/-
From blueprints to worlds.

Three things in a blueprint refer back to the world that is being built: the description of an
object shows other objects, a new object starts with other new objects, and a body may evaluate a
line.  Each is built in levels, where a level refers to the one below it; the number of levels is
taken so large that no computation that comes to an end meets the last one.
-/
import DevConsole.Blueprint.Basic
import DevConsole.Eval.Evaluate

namespace DevConsole

namespace Blueprint

variable (b : Blueprint)

/-- A type as a header, with a way to describe its objects. -/
def headerOf (find : String → Option TypeRef) (describe : Store → Object → String) (t : TypePlan) :
    Header where
  name := t.name
  base := t.base.bind find
  variants := t.variants
  describe := describe

/-- The reference to the last type with a name among the first `n` that are declared, or else to the
builtin type with the name. -/
def findAmong? (n : Nat) (name : String) : Option TypeRef :=
  match (b.types.take n).zipIdx.reverse.find? (·.1.name == name) with
  | some t => some (.declared t.2)
  | none => (Builtin.ofName? name).map .builtin

/-- The reference to the last type with a name, declared or builtin. -/
def find? (name : String) : Option TypeRef :=
  b.findAmong? b.types.length name

/-- The description of an object: the name of its type and, if it has one, the list of shown slots,
whose values `text` writes. -/
def describe (text : Store → Value → String) (t : TypePlan) (s : Store) (o : Object) : String :=
  match t.describe with
  | none => t.name
  | some slots =>
    let part (n : String) : String :=
      match o.slot? n with
      | some v => text s v
      | none => "?"
    t.name ++ "<" ++ Text.join ", " (slots.map part) ++ ">"

/-- Headers whose descriptions follow references to objects at most `n` deep. -/
def headersAt : Nat → List Header
  | 0 => b.types.zipIdx.map fun (t, i) => headerOf (b.findAmong? i) (fun _ _ => t.name) t
  | n + 1 =>
    b.types.zipIdx.map fun (t, i) =>
      headerOf (b.findAmong? i) (describe (fun s v => Catalog.display ⟨headersAt n⟩ s v) t) t

/-- The catalog of a blueprint.  A type derives from one that is declared before it, and a chain of
objects that shows no object twice is no longer than the store. -/
def catalog : Catalog :=
  ⟨b.types.zipIdx.map fun (t, i) =>
    headerOf (b.findAmong? i)
      (fun s o => describe (Catalog.display ⟨b.headersAt s.objects.length⟩) t s o) t⟩

/-- The kind of a name. -/
def kind (name : String) : Kind :=
  match name with
  | "any" => .any
  | "void" => .void
  | "bool" => .bool
  | "int" => .int
  | "float" => .float
  | "double" => .double
  | "string" => .str
  | "Self" => .own
  | _ =>
    match b.find? name with
    | some t => .type t
    | none => .any

/-- The value that a slot of a kind starts with by itself. -/
def zero : Kind → Value
  | .bool => .bool false
  | .int => .int 0
  | .float => .float 0
  | .double => .double 0
  | .str => .str ""
  | _ => .null

/-- The declaration of a type. -/
def plan (t : TypeRef) : TypePlan :=
  match t with
  | .builtin k => { name := k.name }
  | .declared i => b.types.getD i { name := "" }

/-- The slots of an object of a type: those of its bases first, so that a derived declaration has
the last word. -/
def slotPlans (t : TypeRef) : List (String × String × Option ValuePlan) :=
  (b.catalog.hierarchy t).reverse.flatMap fun u => (b.plan u).members.filterMap MemberPlan.slot?

/-- A type by name, as a value or null. -/
def typeValue (name : String) : Value :=
  match b.find? name with
  | some t => .type t
  | none => .null

/-- Make a value, with `create` for new objects. -/
def makeWith (create : TypeRef → HostM Value) : ValuePlan → HostM Value
  | .plain v => pure v
  | .enum n ordinal =>
    match b.find? n with
    | some t => pure (.enum t ordinal)
    | none => pure .null
  | .type n => pure (b.typeValue n)
  | .fresh n =>
    match b.find? n with
    | some t => create t
    | none => pure .null

/-- A new object of a type, whose slots may start with new objects at most `n` deep. -/
def createAt : Nat → TypeRef → HostM Value
  | 0, _ => Act.panic (.saying "endless construction")
  | n + 1, t => do
    let slots ← (b.slotPlans t).foldlM
      (fun slots p => do
        let v ← match p.2.2 with
          | some init => b.makeWith (createAt n) init
          | none => pure (zero (b.kind p.2.1))
        return Object.putSlot p.1 v slots) []
    let s ← Act.get
    let (r, s') := s.alloc { type := t, host := (b.plan t).host, slots := slots }
    Act.set s'
    return .object r

/-- A new object of a type.  No type starts with an object of itself, so a chain of new objects is
no longer than the list of types. -/
def create (t : TypeRef) : HostM Value :=
  b.createAt (b.types.length + 2) t

/-- Make a value. -/
def make (p : ValuePlan) : HostM Value :=
  b.makeWith b.create p

/-! ## Bodies -/

/-- Where a body runs: the object that is in use for it, if any, the receiver as a value, if it is
given one, and the arguments. -/
structure Call where
  inUse : Option ObjectRef := none
  receiver : Option Value := none
  args : List Value

/-- The first argument; a missing one counts as null. -/
def Call.first (c : Call) : Value := c.args.headD .null

/-- A slot of the object in use, null if there is none. -/
def Call.slot (c : Call) (s : Store) (name : String) : Value :=
  match c.inUse.bind s.object? with
  | some o => (o.slot? name).getD .null
  | none => .null

/-- The store with a slot of the object in use changed. -/
def Call.setSlot (c : Call) (name : String) (v : Value) (s : Store) : Store :=
  match c.inUse with
  | some r => s.update r (·.setSlot name v)
  | none => s

/-- A label with texts in parentheses. -/
def labelled (label : String) (parts : List String) : String :=
  label ++ "(" ++ Text.join ", " parts ++ ")"

/-- A value that has a payload of a sort. -/
def extract (c : Catalog) (s : Store) (v : Value) : Payload → Except Failure Value
  | .bool => (c.asBool s v).map .bool
  | .int => (c.asInt s v).map .int
  | .float => (c.asFloat s v).map .float
  | .double => (c.asDouble s v).map .double
  | .str => (c.asStr s v).map .str
  | .object => (c.asObject s v).map .object
  | .enum => (c.asEnum s v).map fun e => .enum e.1 e.2

/-- The value of a line evaluated under the lenient rule, a listing being joined to a text. -/
def evaluate (w : World) (source : String) (root : Value) : HostM Value := do
  match ← ({ world := w, strict := false, root := root } : Context).evaluate source with
  | .value v => return v
  | .members es => return .str (Text.join "; " (es.map Entry.text))

/-- Run a body; lines are evaluated by `eval`. -/
def run (eval : String → Value → HostM Value) (call : Call) : Body → HostM Value
  | .const v => b.make v
  | .arg i => pure (call.args.getD i .null)
  | .echo label => Act.reads fun s => .str (labelled label (call.args.map (b.catalog.display s)))
  | .kinds label => Act.reads fun s => .str (labelled label (call.args.map (b.catalog.typeName s)))
  | .slot n => Act.reads fun s => call.slot s n
  | .store n => do
    Act.modify (call.setSlot n call.first)
    return .null
  | .increase n => do
    let s ← Act.get
    let amount ← Act.ofExcept (b.catalog.asInt s call.first)
    let current ← Act.ofExcept (b.catalog.asInt s (call.slot s n))
    Act.modify (call.setSlot n (.int (current + amount)))
    return .int (current + amount)
  | .fail reason => Act.refuse (.evaluation reason)
  | .panic text => Act.panic (.saying text)
  | .receiver => pure (call.receiver.getD .null)
  | .typeName => Act.reads fun s =>
    match call.receiver with
    | some v => .str (b.catalog.typeName s v)
    | none => .null
  | .make n slots => do
    let made ← b.make (.fresh n)
    match made with
    | .object r => do
      Act.modify fun s => s.update r fun o =>
        (slots.zip call.args).foldl (fun o p => o.setSlot p.1 p.2) o
      return made
    | v => return v
  | .extract sort => do
    let s ← Act.get
    Act.ofExcept (extract b.catalog s call.first sort)
  | .argSlot n =>
    Receiver.read b.catalog "DynObj" call.first fun o => (o.slot? n).getD .null
  | .evaluate source => eval source call.first

/-! ## Members -/

/-- A parameter, whose default has been made before. -/
def param (p : ParamPlan) : Param where
  name := p.name
  kind := b.kind p.kind
  default := p.default.map fun
    | .plain v => v
    | .enum n ordinal =>
      match b.find? n with
      | some t => .enum t ordinal
      | none => .null
    | .type n => b.typeValue n
    | .fresh _ => .null

/-- The value of a static cell, made when it is first read. -/
def cellValue (cell : Cell) (p : ValuePlan) : HostM Value := do
  let s ← Act.get
  match s.cell? cell with
  | some v => return v
  | none => do
    let v ← b.make p
    Act.modify (·.setCell cell v)
    return v

/-- A member read from a slot, and stored into it unless it is read-only. -/
def slotAccessor (host name kind : String)
    (set : Option (Store → Value → Object → Except Failure Object)) : Accessor :=
  Accessor.typed b.catalog host name (b.kind kind) (fun o => (o.slot? name).getD .null) set

/-- Store a value in a slot. -/
def storing (name : String) : Store → Value → Object → Except Failure Object :=
  fun _ v o => .ok (o.setSlot name v)

/-- Store a value in a slot, unless every value is refused. -/
def storingUnless (reject : Option String) (name : String) :
    Store → Value → Object → Except Failure Object :=
  match reject with
  | some reason => fun _ _ _ => .error (.of (.evaluation reason))
  | none => storing name

/-- The members of a type with one more, declared at a place of type `t`. -/
def addMember (eval : String → Value → HostM Value) (t : TypeRef) (ms : Members)
    (place : Nat) (m : MemberPlan) : Members :=
  let host := (b.plan t).host
  let method (name : String) (isStatic : Bool) (params : List ParamPlan) (returns : String)
      (invoke : Value → List Value → HostM Value) : Method :=
    { name := name, params := params.map b.param, returns := b.kind returns
      isStatic := isStatic, invoke := invoke }
  match m with
  | .field n k _ =>
    { ms with fields := ms.fields ++ [b.slotAccessor host n k (some (storing n))] }
  | .readonlyField n k _ => { ms with fields := ms.fields ++ [b.slotAccessor host n k none] }
  | .property n k _ => { ms with properties := ms.properties ++ [b.slotAccessor host n k none] }
  | .mutableProperty n k _ reject =>
    { ms with properties :=
        ms.properties ++ [b.slotAccessor host n k (some (storingUnless reject n))] }
  | .staticField n k v constant =>
    let get := b.cellValue ⟨t, place⟩ v
    let set : Value → Value → HostM Unit := fun _ v => Act.modify (·.setCell ⟨t, place⟩ v)
    { ms with fields := ms.fields ++ [
        { name := n, kind := b.kind k, isStatic := true, get := fun _ => get
          set := if constant then none else some set }] }
  | .staticProperty n k v =>
    { ms with properties :=
        ms.properties ++ [Accessor.constant n (b.kind k) (b.cellValue ⟨t, place⟩ v)] }
  | .rawProperty n k body =>
    { ms with properties := ms.properties ++ [
        { name := n, kind := b.kind k, isStatic := false
          get := fun v => b.run eval { receiver := some v, args := [] } body
          set := none }] }
  | .method n ps ret body =>
    { ms with methods := ms.methods ++ [
        Method.typed b.catalog host n (ps.map b.param) (b.kind ret)
          fun r args => b.run eval { inUse := some r, args := args } body] }
  | .rawMethod n ps ret body =>
    { ms with methods := ms.methods ++ [
        method n false ps ret fun v args =>
          b.run eval { receiver := some v, args := args } body] }
  | .staticMethod n ps ret body =>
    { ms with methods := ms.methods ++ [
        method n true ps ret fun _ args => b.run eval { args := args } body] }
  | .constructor ps body =>
    { ms with constructors := ms.constructors ++ [
        Method.constructor (b.plan t).name (ps.map b.param)
          fun args => b.run eval { args := args } body] }
  | .nested n => { ms with nested := ms.nested ++ (b.find? n).toList }
  | .operator op left right body =>
    { ms with operators := ms.operators ++ [
        { op := op, left := b.kind left, right := b.kind right
          apply := fun l r => b.run eval { args := [l, r] } body }] }
  | .conversion target body =>
    { ms with conversions := ms.conversions ++ [
        { kind := b.kind target
          convert := fun v => b.run eval { receiver := some v, args := [v] } body }] }
  | .incoming source body =>
    { ms with incoming := ms.incoming ++ [
        { kind := b.kind source
          convert := fun v => b.run eval { receiver := some v, args := [v] } body }] }

/-- The members of a declared type, those of an enumerated type after what every enumeration has. -/
def membersOf (eval : String → Value → HostM Value) (index : Nat) (t : TypePlan) : Members :=
  let start : Members := if t.variants.isSome then Members.enumeration b.catalog else {}
  t.members.zipIdx.foldl
    (fun ms m => b.addMember eval (.declared index) ms m.2 m.1) start

/-- The world in which lines are nested at most `n` deep in bodies. -/
def worldAt : Nat → World
  | 0 => ⟨b.catalog, b.types.zipIdx.map fun t =>
      b.membersOf (fun _ _ => Act.panic (.saying "endless evaluation")) t.2 t.1⟩
  | n + 1 => ⟨b.catalog, b.types.zipIdx.map fun t =>
      b.membersOf (fun source root => evaluate (worldAt n) source root) t.2 t.1⟩

/-- How deep lines may be nested in bodies. -/
def nesting : Nat := 1000

/-! ## Building -/

/-- A parameter with its default made. -/
def settleParam (p : ParamPlan) : HostM ParamPlan := do
  match p.default with
  | some d => do
    let v ← b.make d
    return { p with default := some (.plain v) }
  | none => return p

/-- A member with the defaults of its parameters made. -/
def settleMember : MemberPlan → HostM MemberPlan
  | .method n ps r body => do return .method n (← ps.mapM b.settleParam) r body
  | .rawMethod n ps r body => do return .rawMethod n (← ps.mapM b.settleParam) r body
  | .staticMethod n ps r body => do return .staticMethod n (← ps.mapM b.settleParam) r body
  | .constructor ps body => do return .constructor (← ps.mapM b.settleParam) body
  | m => pure m

/-- The blueprint with all defaults made, so that calls share them. -/
def settle : HostM Blueprint := do
  let types ← b.types.mapM fun t => do
    return { t with members := ← t.members.mapM b.settleMember }
  return ⟨types⟩

/-- Build the world. -/
def build : HostM World := do
  let settled ← b.settle
  return settled.worldAt nesting

end Blueprint

end DevConsole
