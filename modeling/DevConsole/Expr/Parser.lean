/-
From tokens to trees.

    line     := expr? '@'?
    expr     := operand ((binop | assignop) expr)?
    operand  := primary ('.' name call?)*
    primary  := literal | name call? | '(' expr ')' expr? | 'new' name ('.' name)* call
    call     := '(' (expr (',' expr)*)? ')'

There is no precedence: the right side of an operator is the whole rest of the expression.  An
expression after a closing parenthesis makes the parenthesis a cast.

Nesting is limited.  The functions carry the number of levels that are still allowed: an expression
inside another takes one, and so does every dot of the chain in hand.  That number falls on every
way back into `expr` and `chain`, so the recursion is structural on it; argument lists are read by
a loop over the tokens with the expression parser as a parameter.
-/
import DevConsole.Expr.Basic
import DevConsole.Expr.Lexer

namespace DevConsole

namespace Parser

/-- The deepest nesting that a line may have. -/
def maxDepth : Nat := 256

/-- What a parser returns: a result and the tokens after it. -/
abbrev Parsed (α : Type) := Except Failure (α × List Token)

/-- The column of the next token, or the end of the line. -/
def position (stop : Nat) : List Token → Nat
  | [] => stop
  | t :: _ => t.start

/-- The failure for a token that does not fit. -/
def unexpected (stop : Nat) (wanted : String) : List Token → Failure
  | [] => .malformed stop (wanted ++ ", found end of line")
  | t :: _ => .malformed t.start (wanted ++ ", found '" ++ t.kind.text ++ "'")

/-- The failure for a line that is nested too deeply. -/
def tooDeep (stop : Nat) (ts : List Token) : Failure :=
  .malformed (position stop ts)
    ("expression nested deeper than " ++ Decimal.natText maxDepth ++ " levels")

/-- A closing parenthesis. -/
def close (stop : Nat) : List Token → Except Failure (List Token)
  | ⟨.closeParen, _, _⟩ :: ts => .ok ts
  | ts => .error (unexpected stop "expected ')'" ts)

/-- A name. -/
def name (stop : Nat) : List Token → Parsed String
  | ⟨.name n, _, _⟩ :: ts => .ok (n, ts)
  | ts => .error (unexpected stop "expected a name" ts)

/-- Expressions separated by commas up to the closing parenthesis, read by `expr`.  Every round but
the last takes a comma, so as many rounds as there are tokens suffice. -/
def argsLoop (stop : Nat) (expr : List Token → Parsed Expr) : Nat → List Token → Parsed (List Expr)
  | 0, ts => .error (unexpected stop "expected ')'" ts)
  | rounds + 1, ts =>
    match expr ts with
    | .error e => .error e
    | .ok (a, ⟨.comma, _, _⟩ :: rest) =>
      match argsLoop stop expr rounds rest with
      | .error e => .error e
      | .ok (as, rest') => .ok (a :: as, rest')
    | .ok (a, rest) =>
      match close stop rest with
      | .error e => .error e
      | .ok rest' => .ok ([a], rest')

/-- An argument list, if one starts here. -/
def call (stop : Nat) (expr : List Token → Parsed Expr) : List Token → Parsed (Option (List Expr))
  | ⟨.openParen, _, _⟩ :: ⟨.closeParen, _, _⟩ :: ts => .ok (some [], ts)
  | ⟨.openParen, _, _⟩ :: ts =>
    match argsLoop stop expr (ts.length + 1) ts with
    | .error e => .error e
    | .ok (as, rest) => .ok (some as, rest)
  | ts => .ok (none, ts)

/-- The dotted names after the first name of a constructed type. -/
def typeChain (stop : Nat) : Nat → Expr → List Token → Parsed Expr
  | 0, type, ts =>
    match ts with
    | ⟨.dot, _, _⟩ :: rest => .error (tooDeep stop rest)
    | _ => .ok (type, ts)
  | levels + 1, type, ts =>
    match ts with
    | ⟨.dot, _, _⟩ :: rest =>
      match name stop rest with
      | .error e => .error e
      | .ok (n, rest') => typeChain stop levels (.member type n none) rest'
    | _ => .ok (type, ts)

/-- What follows the keyword `new`. -/
def construction (stop : Nat) (levels : Nat) (expr : List Token → Parsed Expr) (ts : List Token) :
    Parsed Expr :=
  match name stop ts with
  | .error e => .error e
  | .ok (n, rest) =>
    match typeChain stop levels (.name n none) rest with
    | .error e => .error e
    | .ok (type, rest') =>
      match call stop expr rest' with
      | .error e => .error e
      | .ok (some as, rest'') => .ok (.new type as, rest'')
      | .ok (none, rest'') =>
        .error (unexpected stop "expected '(' after the constructed type" rest'')

/-- What follows an opening parenthesis: a group, or a cast if an operand comes after it. -/
def parenthesized (stop : Nat) (expr : List Token → Parsed Expr) (ts : List Token) : Parsed Expr :=
  match expr ts with
  | .error e => .error e
  | .ok (inner, rest) =>
    match close stop rest with
    | .error e => .error e
    | .ok rest' =>
      match rest' with
      | [] => .ok (.group inner, rest')
      | t :: _ =>
        if t.kind.startsOperand then
          match expr rest' with
          | .error e => .error e
          | .ok (operand, rest'') => .ok (.cast inner operand, rest'')
        else .ok (.group inner, rest')

/-- An operand without the members taken of it. -/
def primary (stop : Nat) (levels : Nat) (expr : List Token → Parsed Expr) : List Token → Parsed Expr
  | ⟨.literal l, _, _⟩ :: ts => .ok (.literal l, ts)
  | ⟨.name n, _, _⟩ :: ts =>
    match call stop expr ts with
    | .error e => .error e
    | .ok (args, rest) => .ok (.name n args, rest)
  | ⟨.openParen, _, _⟩ :: ts => parenthesized stop expr ts
  | ⟨.new, _, _⟩ :: ts => construction stop levels expr ts
  | ts => .error (unexpected stop "expected an operand" ts)

/-- What follows an operand: an operator with its right side, an assignment, or neither. -/
def operation (stop : Nat) (expr : List Token → Parsed Expr) (left : Expr) (ts : List Token) :
    Parsed Expr :=
  match ts with
  | ⟨.op o, _, _⟩ :: rest =>
    match expr rest with
    | .error e => .error e
    | .ok (right, rest') => .ok (.binary o left right, rest')
  | ⟨.assign o, _, _⟩ :: rest =>
    if left.isAssignable then
      match expr rest with
      | .error e => .error e
      | .ok (value, rest') => .ok (.assign o left value, rest')
    else .error (.malformed (position stop ts) ("cannot assign to '" ++ left.text ++ "'"))
  | _ => .ok (left, ts)

mutual

/-- An expression, with `levels` levels still allowed. -/
def expr (stop : Nat) : Nat → List Token → Parsed Expr
  | 0, ts => .error (tooDeep stop ts)
  | levels + 1, ts =>
    match primary stop levels (expr stop levels) ts with
    | .error e => .error e
    | .ok (first, rest) =>
      match chain stop levels first rest with
      | .error e => .error e
      | .ok (left, rest') => operation stop (expr stop levels) left rest'

/-- The members taken of an operand, each of which takes one of the levels. -/
def chain (stop : Nat) : Nat → Expr → List Token → Parsed Expr
  | 0, target, ts =>
    match ts with
    | ⟨.dot, _, _⟩ :: rest => .error (tooDeep stop rest)
    | _ => .ok (target, ts)
  | levels + 1, target, ts =>
    match ts with
    | ⟨.dot, _, _⟩ :: rest =>
      match name stop rest with
      | .error e => .error e
      | .ok (n, rest') =>
        match call stop (expr stop levels) rest' with
        | .error e => .error e
        | .ok (args, rest'') => chain stop levels (.member target n args) rest''
    | _ => .ok (target, ts)

end

/-- The end of a line, after its expression. -/
def lineEnd (stop : Nat) (e : Option Expr) : List Token → Except Failure Line
  | [] => .ok ⟨e, false⟩
  | [⟨.marker, _, _⟩] => .ok ⟨e, true⟩
  | ⟨.marker, _, _⟩ :: ts => .error (unexpected stop "expected end of line" ts)
  | ts => .error (unexpected stop "expected end of line" ts)

/-- A whole line of tokens, whose text ends at column `stop`. -/
def line (stop : Nat) (ts : List Token) : Except Failure Line :=
  match ts with
  | [] => lineEnd stop none ts
  | ⟨.marker, _, _⟩ :: _ => lineEnd stop none ts
  | _ =>
    match expr stop maxDepth ts with
    | .error e => .error e
    | .ok (e, rest) => lineEnd stop (some e) rest

/-- Read a line of text. -/
def parse (source : String) : Except Failure Line :=
  let cs := source.toList
  match Lexer.tokenize cs with
  | .error e => .error e
  | .ok ts => line cs.length ts

end Parser

end DevConsole
