/-
Tokens of an expression line, and their text in messages.
-/
import DevConsole.Expr.Operator
import DevConsole.Number.Shortest
import DevConsole.Text.Quoted

namespace DevConsole

/-- A constant written in an expression. -/
inductive Literal where
  | null
  | bool (b : Bool)
  | int (i : Int64)
  | float (x : Float32)
  | double (x : Float)
  | str (s : String)
deriving Repr

/-- How a constant is written: numbers with their suffix, text in quotes. -/
def Literal.text : Literal → String
  | null => "null"
  | bool b => if b then "true" else "false"
  | int i => Decimal.text i
  | float x => Shortest.single x ++ "f"
  | double x => Shortest.double x ++ "d"
  | str s => Text.quoted s

/-- What a token is. -/
inductive TokenKind where
  | name (s : String)
  | literal (l : Literal)
  | new
  | op (o : Operator)
  /-- An equals sign, joined with an operator in a compound assignment. -/
  | assign (o : Option Operator)
  | dot
  | openParen
  | closeParen
  | comma
  /-- The sign that asks for members instead of a value. -/
  | marker
deriving Repr

namespace TokenKind

/-- The text of a token in messages. -/
def text : TokenKind → String
  | name s => s
  | literal l => l.text
  | new => "new"
  | op o => o.symbol
  | assign none => "="
  | assign (some o) => o.symbol ++ "="
  | dot => "."
  | openParen => "("
  | closeParen => ")"
  | comma => ","
  | marker => "@"

/-- Whether an operand may start with the token. -/
def startsOperand : TokenKind → Bool
  | name _ | literal _ | new | openParen => true
  | _ => false

/-- Whether a sign that follows the token belongs to a number: after an operator, an opening
parenthesis or a comma there is nothing yet to subtract from. -/
def admitsSign : TokenKind → Bool
  | op _ | assign _ | openParen | comma => true
  | _ => false

end TokenKind

/-- A token with its span in the line, counted in characters. -/
structure Token where
  kind : TokenKind
  start : Nat
  stop : Nat
deriving Repr

end DevConsole
