/-
Expression trees, and their compact form.

The compact form names a subexpression in evaluation frames and messages.  It writes everything in
full except argument lists, which become two dots, and the right side of an assignment.
-/
import DevConsole.Expr.Token

namespace DevConsole

/-- An expression. -/
inductive Expr where
  | literal (l : Literal)
  /-- A name on its own, or a call when there are arguments. -/
  | name (n : String) (args : Option (List Expr))
  /-- A member of a target, or a call of it when there are arguments. -/
  | member (target : Expr) (n : String) (args : Option (List Expr))
  | group (inner : Expr)
  /-- A type in parentheses before an operand. -/
  | cast (type operand : Expr)
  | new (type : Expr) (args : List Expr)
  | binary (op : Operator) (left right : Expr)
  /-- An assignment, compound when there is an operator. -/
  | assign (op : Option Operator) (target value : Expr)

/-- A line: an expression, if any, and whether the members of its value are asked for. -/
structure Line where
  expr : Option Expr
  introspect : Bool

namespace Expr

/-- Two dots in place of arguments. -/
def callText (args : Option (List Expr)) : String :=
  if args.isSome then "(..)" else ""

/-- The compact form. -/
def text : Expr → String
  | literal l => l.text
  | name n args => n ++ callText args
  | member target n args => target.text ++ "." ++ n ++ callText args
  | group inner => "(" ++ inner.text ++ ")"
  | cast type operand => "(" ++ type.text ++ ")" ++ operand.text
  | new type _ => "new " ++ type.text ++ "(..)"
  | binary op left right => left.text ++ " " ++ op.symbol ++ " " ++ right.text
  | assign (some op) target _ => target.text ++ " " ++ op.symbol ++ "= .."
  | assign none target _ => target.text ++ " = .."

/-- Whether the expression may stand on the left of an assignment: a name or member that is not
called. -/
def isAssignable : Expr → Bool
  | name _ none | member _ _ none => true
  | _ => false

/-- A chain of plain names joined by dots. -/
def isNameChain : Expr → Bool
  | name _ none => true
  | member target _ none => target.isNameChain
  | _ => false

/-- A chain of plain names in parentheses, which a minus sign after it may turn into a cast. -/
def isNameChainGroup : Expr → Bool
  | group inner => inner.isNameChain
  | _ => false

end Expr

end DevConsole
