/-
The members of the builtin types.

The tables state for which operands an operator is looked up at all; what it does is the arithmetic
of builtin values.  Conversions between numbers cut off the fraction, and a text that cannot be read
is quoted in the failure.
-/
import DevConsole.Text.LetterCase
import DevConsole.World.Arithmetic
import DevConsole.World.Receiver

namespace DevConsole

namespace Builtin

/-- The operators of every number. -/
def numericOperators : List Operator :=
  [.eq, .ne, .le, .ge, .lt, .gt, .add, .sub, .mul, .div, .rem]

/-- The operators of truth values. -/
def boolOperators : List Operator :=
  [.eq, .ne, .bitAnd, .bitOr, .bitXor]

/-- Overloads of operators on two kinds, computed by the arithmetic of builtin values. -/
def overloads (c : Catalog) (ops : List Operator) (left right : Kind) : List Overload :=
  ops.map fun op =>
    { op := op, left := left, right := right
      apply := fun l r => do
        let s ← Act.get
        Act.ofExcept ((Arithmetic.result? c s op l r).getD
          (.error (Arithmetic.undefinedFor c s op l r))) }

/-- A conversion computed from the payload of a value. -/
def conversion (kind : Kind) (f : Store → Value → Except Failure Value) : Conversion where
  kind := kind
  convert := fun v => do
    let s ← Act.get
    Act.ofExcept (f s v)

/-- The conversion of a value to its text. -/
def toText (c : Catalog) : Conversion :=
  conversion .str fun s v => .ok (.str (c.display s v))

/-- The conversion of a text by reading it. -/
def fromText (c : Catalog) (kind : Kind) : Conversion :=
  conversion kind fun s v =>
    match c.convert? s v kind with
    | some w => .ok w
    | none =>
      .error (.of (.typeMismatch (c.kindText kind)
        (c.typeName s v ++ " \"" ++ c.display s v ++ "\"")))

/-- The smallest and largest value of a number type, as constant fields. -/
def limits (kind : Kind) (largest smallest : Value) : List Accessor :=
  [.constant "MaxValue" kind (pure largest), .constant "MinValue" kind (pure smallest)]

/-- The largest finite number of a format, as a bit pattern. -/
def largestFinite (f : Format) : Nat := f.infinityBits - 1

/-- A method of a text, given its characters. -/
def textMethod (c : Catalog) (name : String) (params : List Param) (returns : Kind)
    (f : Store → String → List Value → Except Failure Value) : Method where
  name := name
  params := params
  returns := returns
  isStatic := false
  invoke := fun v args => do
    let s ← Act.get
    let text ← Act.ofExcept (c.asStr s v)
    Act.ofExcept (f s text args)

/-- The members of `bool`. -/
def boolMembers (c : Catalog) : Members where
  operators := overloads c boolOperators .bool .bool
  conversions :=
    [conversion .int fun s v => (c.asBool s v).map fun b => .int (if b then 1 else 0), toText c]

/-- The members of `int`. -/
def intMembers (c : Catalog) : Members where
  fields := limits .int (.int Int64.maxValue) (.int Int64.minValue)
  operators := overloads c Operator.all .int .int ++ overloads c numericOperators .int .double
  conversions :=
    [conversion .float fun s v => (c.asInt s v).map fun i => .float i.toFloat32,
      conversion .double fun s v => (c.asInt s v).map fun i => .double i.toFloat,
      conversion .bool fun s v => (c.asInt s v).map fun i => .bool (i != 0),
      toText c]

/-- The members of `float`. -/
def floatMembers (c : Catalog) : Members where
  fields :=
    limits .float (.float (float32OfBits (largestFinite .single)))
      (.float (float32OfBits (Format.single.withSign true (largestFinite .single))))
  operators := overloads c numericOperators .float .double
  conversions :=
    [conversion .int fun s v =>
        (c.asFloat s v).map fun x => .int (Float32.magnitude x).truncate,
      conversion .double fun s v => (c.asDouble s v).map .double,
      toText c]

/-- The members of `double`. -/
def doubleMembers (c : Catalog) : Members where
  fields :=
    limits .double (.double (floatOfBits (largestFinite .double)))
      (.double (floatOfBits (Format.double.withSign true (largestFinite .double))))
  operators := overloads c numericOperators .double .double
  conversions :=
    [conversion .int fun s v => (c.asDouble s v).map fun x => .int (Float.magnitude x).truncate,
      conversion .float fun s v => (c.asDouble s v).map fun x => .float x.toFloat32,
      toText c]

/-- The members of `string`. -/
def stringMembers (c : Catalog) : Members where
  properties :=
    [{ name := "Length", kind := .int, isStatic := false
       get := fun v => do
         let s ← Act.get
         let text ← Act.ofExcept (c.asStr s v)
         return .int (Int64.ofNat text.length)
       set := none }]
  methods :=
    [textMethod c "ToUpper" [] .str fun _ text _ => .ok (.str (Text.uppercase text)),
      textMethod c "ToLower" [] .str fun _ text _ => .ok (.str (Text.lowercase text)),
      textMethod c "Trim" [] .str fun _ text _ =>
        .ok (.str (String.ofList (Text.trim text.toList))),
      textMethod c "Contains" [{ name := "value", kind := .str }] .bool fun s text args =>
        (c.asStr s (args.headD .null)).map fun part =>
          .bool (Text.contains part.toList text.toList)]
  operators :=
    let joined (left right : Kind) : Overload :=
      { op := .add, left := left, right := right
        apply := fun l r => do
          let s ← Act.get
          return .str (c.display s l ++ c.display s r) }
    let compared (op : Operator) (test : Bool → Bool) : Overload :=
      { op := op, left := .str, right := .str
        apply := fun l r => pure (.bool (test (c.same l r))) }
    [joined .str .any, joined .any .str, compared .eq id, compared .ne not]
  conversions := [.int, .float, .double, .bool].map (fromText c)

/-- The members of a builtin type. -/
def members (c : Catalog) : Builtin → Members
  | bool => boolMembers c
  | int => intMembers c
  | float => floatMembers c
  | double => doubleMembers c
  | string => stringMembers c

end Builtin

end DevConsole
