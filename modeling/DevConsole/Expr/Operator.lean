/-
Binary operators and their symbols.
-/

namespace DevConsole

/-- A binary operator. -/
inductive Operator where
  | eq
  | ne
  | le
  | ge
  | lt
  | gt
  | shl
  | shr
  | add
  | sub
  | mul
  | div
  | rem
  | bitAnd
  | bitOr
  | bitXor
deriving Repr, DecidableEq

namespace Operator

/-- Every operator, in the order in which type tables list them. -/
def all : List Operator :=
  [eq, ne, le, ge, lt, gt, shl, shr, add, sub, mul, div, rem, bitAnd, bitOr, bitXor]

/-- How an operator is written. -/
def symbol : Operator → String
  | eq => "=="
  | ne => "!="
  | le => "<="
  | ge => ">="
  | lt => "<"
  | gt => ">"
  | shl => "<<"
  | shr => ">>"
  | add => "+"
  | sub => "-"
  | mul => "*"
  | div => "/"
  | rem => "%"
  | bitAnd => "&"
  | bitOr => "|"
  | bitXor => "^"

/-- The operator that a symbol denotes. -/
def ofSymbol? (s : String) : Option Operator :=
  all.find? (·.symbol == s)

/-- Whether the operator may be joined with `=` into a compound assignment. -/
def compounds : Operator → Bool
  | add | sub | mul | div | bitAnd | bitOr | bitXor => true
  | _ => false

/-- Whether the operator compares. -/
def compares : Operator → Bool
  | eq | ne | le | ge | lt | gt => true
  | _ => false

theorem mem_all (op : Operator) : op ∈ all := by
  cases op <;> decide

/-- Reading the symbol of an operator gives it back, so no two share one. -/
theorem ofSymbol?_symbol (op : Operator) : ofSymbol? op.symbol = some op := by
  cases op <;> decide +kernel

end Operator

end DevConsole
