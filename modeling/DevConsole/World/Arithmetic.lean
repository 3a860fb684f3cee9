/-
Operators on builtin values.

Integers wrap around at 64 bits and shift by a count modulo 64; mixed numbers are widened, integers
to floats and floats to doubles.  A plus sign joins texts as soon as one side is a text.  Where an
operator is not defined for its operands the answer is `none`.
-/
import DevConsole.Expr.Operator
import DevConsole.World.Catalog

namespace DevConsole

namespace Arithmetic

/-- Whether a comparison holds for two operands in an order; operands without an order are only
different. -/
def compare? (op : Operator) (order : Option Ordering) : Option Bool :=
  match op, order with
  | .eq, some o => some (o == .eq)
  | .ne, some o => some (o != .eq)
  | .lt, some o => some (o == .lt)
  | .le, some o => some (o != .gt)
  | .gt, some o => some (o == .gt)
  | .ge, some o => some (o != .lt)
  | .ne, none => some true
  | .eq, none | .lt, none | .le, none | .gt, none | .ge, none => some false
  | _, _ => none

/-- The order of two integers. -/
def intOrder (a b : Int64) : Ordering :=
  if a < b then .lt else if a = b then .eq else .gt

/-- An operator on integers. -/
def int? (op : Operator) (a b : Int64) : Option (Except Failure Value) :=
  match op with
  | .add => some (.ok (.int (a + b)))
  | .sub => some (.ok (.int (a - b)))
  | .mul => some (.ok (.int (a * b)))
  | .div => some (if b = 0 then .error (.of .divideByZero) else .ok (.int (a / b)))
  | .rem => some (if b = 0 then .error (.of .divideByZero) else .ok (.int (a % b)))
  | .shl => some (.ok (.int (a <<< b)))
  | .shr => some (.ok (.int (a >>> b)))
  | .bitAnd => some (.ok (.int (a &&& b)))
  | .bitOr => some (.ok (.int (a ||| b)))
  | .bitXor => some (.ok (.int (a ^^^ b)))
  | _ => (compare? op (some (intOrder a b))).map fun r => .ok (.bool r)

/-- The order of two 32-bit numbers, if they have one. -/
def float32Order (a b : Float32) : Option Ordering :=
  if a < b then some .lt else if a == b then some .eq else if b < a then some .gt else none

/-- An operator on 32-bit numbers. -/
def float? (op : Operator) (a b : Float32) : Option Value :=
  match op with
  | .add => some (.float (a + b))
  | .sub => some (.float (a - b))
  | .mul => some (.float (a * b))
  | .div => some (.float (a / b))
  | .rem => some (.float (Float32.remainder a b))
  | _ => (compare? op (float32Order a b)).map .bool

/-- The order of two 64-bit numbers, if they have one. -/
def floatOrder (a b : Float) : Option Ordering :=
  if a < b then some .lt else if a == b then some .eq else if b < a then some .gt else none

/-- An operator on 64-bit numbers. -/
def double? (op : Operator) (a b : Float) : Option Value :=
  match op with
  | .add => some (.double (a + b))
  | .sub => some (.double (a - b))
  | .mul => some (.double (a * b))
  | .div => some (.double (a / b))
  | .rem => some (.double (Float.remainder a b))
  | _ => (compare? op (floatOrder a b)).map .bool

/-- An operator on two numbers, widened to the wider of their sorts. -/
def number? (op : Operator) : Value → Value → Option (Except Failure Value)
  | .int a, .int b => int? op a b
  | .double a, .double b => (double? op a b).map .ok
  | .double a, .float b => (double? op a b.toFloat).map .ok
  | .float a, .double b => (double? op a.toFloat b).map .ok
  | .double a, .int b => (double? op a b.toFloat).map .ok
  | .int a, .double b => (double? op a.toFloat b).map .ok
  | .float a, .float b => (float? op a b).map .ok
  | .float a, .int b => (float? op a b.toFloat32).map .ok
  | .int a, .float b => (float? op a.toFloat32 b).map .ok
  | _, _ => none

/-- An operator on two truth values. -/
def bool? (op : Operator) (a b : Bool) : Option Bool :=
  match op with
  | .eq => some (a == b)
  | .ne => some (a != b)
  | .bitAnd => some (a && b)
  | .bitOr => some (a || b)
  | .bitXor => some (a ^^ b)
  | _ => none

/-- An operator on two texts, other than joining them. -/
def str? (op : Operator) (a b : String) : Option Bool :=
  match op with
  | .eq => some (a == b)
  | .ne => some (a != b)
  | _ => none

/-- Whether a value is a text. -/
def isStr : Value → Bool
  | .str _ => true
  | _ => false

/-- An operator on builtin values. -/
def result? (c : Catalog) (s : Store) (op : Operator) (l r : Value) :
    Option (Except Failure Value) :=
  if op = .add && (isStr l || isStr r) then
    some (.ok (.str (c.display s l ++ c.display s r)))
  else if (op = .eq || op = .ne) && (l.isNull || r.isNull) then
    some (.ok (.bool (c.same l r == (op == .eq))))
  else
    match l, r with
    | .str a, .str b => (str? op a b).map fun x => .ok (.bool x)
    | .bool a, .bool b => (bool? op a b).map fun x => .ok (.bool x)
    | _, _ => number? op l r

/-- The failure for an operator that is not defined for its operands. -/
def undefinedFor (c : Catalog) (s : Store) (op : Operator) (l r : Value) : Failure :=
  .of (.noOperator op.symbol (c.typeName s l) (c.typeName s r))

end Arithmetic

end DevConsole
