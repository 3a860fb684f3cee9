/-
From characters to tokens.

`lexeme` reads the one token that starts at a character and says how many of the characters after
it belong to it; `tokensFrom` applies it from left to right.  The only context is the kind of the
token before, which decides whether a minus sign belongs to a number.
-/
import DevConsole.Error
import DevConsole.Expr.Scan
import DevConsole.Expr.Token
import DevConsole.Number.Reading

namespace DevConsole

namespace Lexer

/-- What `lexeme` finds: a token and the number of characters it takes after its first. -/
abbrev Lexeme := TokenKind × Nat

/-- A word is a keyword or a name. -/
def keywordOrName (s : String) : TokenKind :=
  if s = "true" then .literal (.bool true)
  else if s = "false" then .literal (.bool false)
  else if s = "null" then .literal .null
  else if s = "new" then .new
  else .name s

/-- A word that starts with `c`. -/
def word (c : Char) (cs : List Char) : Lexeme :=
  let body := cs.takeWhile Scan.isNameChar
  (keywordOrName (String.ofList (c :: body)), body.length)

/-- Whether a digit comes next. -/
def digitNext : List Char → Bool
  | c :: _ => c.isDigit
  | [] => false

/-- The fraction at the start of the text, point included; a point without a digit after it is not
part of a number. -/
def fractionPart : List Char → List Char
  | '.' :: cs => if digitNext cs then '.' :: cs.takeWhile Char.isDigit else []
  | _ => []

/-- The letter that gives a number its kind. -/
inductive Suffix where
  | single
  | double
deriving DecidableEq

/-- The suffix at the start of the text. -/
def suffix? : List Char → Option Suffix
  | c :: _ =>
    if c = 'f' || c = 'F' then some .single
    else if c = 'd' || c = 'D' then some .double
    else none
  | [] => none

/-- The constant that a number text with its suffix denotes, if it is in range. -/
def numberValue? (text : List Char) : Option Suffix → Option Literal
  | some .single => (Reading.single? text).map .float
  | some .double => (Reading.double? text).map .double
  | none => (Decimal.read text).map .int

/-- A number that starts with `c` at `pos`.  A fraction needs a suffix, no name may follow without a
gap, and the value must be in range: the first of these that fails is reported. -/
def number (pos : Nat) (c : Char) (cs : List Char) : Except Failure Lexeme :=
  let whole := cs.takeWhile Char.isDigit
  let afterWhole := cs.dropWhile Char.isDigit
  let fraction := fractionPart afterWhole
  let rest := afterWhole.drop fraction.length
  let text := c :: whole ++ fraction
  let suffix := suffix? rest
  let extra := whole.length + fraction.length + (if suffix.isSome then 1 else 0)
  if suffix.isNone && !fraction.isEmpty then
    .error (.malformed pos ("'" ++ String.ofList text ++ "' needs an 'f' or 'd' suffix"))
  else if ((cs.drop extra).head?.map Scan.isNameChar).getD false then
    .error (.malformed (pos + 1 + extra) "invalid numeric literal")
  else
    match numberValue? text suffix with
    | some l => .ok (.literal l, extra)
    | none => .error (.malformed pos ("'" ++ String.ofList text ++ "' is out of range"))

/-- The character that an escape stands for: a line feed, a tab, or itself. -/
def unescape (c : Char) : Char :=
  if c = 'n' then '\n' else if c = 't' then '\t' else c

/-- The content of a text literal after its opening quote, and how many characters it takes with its
closing quote; nothing if there is none. -/
def stringBody : List Char → Option (List Char × Nat)
  | [] => none
  | '"' :: _ => some ([], 1)
  | ['\\'] => none
  | '\\' :: e :: cs => (stringBody cs).map fun r => (unescape e :: r.1, r.2 + 2)
  | c :: cs => (stringBody cs).map fun r => (c :: r.1, r.2 + 1)

/-- A text literal whose opening quote is at `pos`. -/
def string (pos : Nat) (cs : List Char) : Except Failure Lexeme :=
  match stringBody cs with
  | some (content, extra) => .ok (.literal (.str (String.ofList content)), extra)
  | none => .error (.malformed pos "unterminated string")

/-- The failure for a character that starts no token. -/
def unexpected (pos : Nat) (c : Char) : Failure :=
  .malformed pos ("unexpected character '" ++ String.ofList [c] ++ "'")

/-- An operator or assignment that starts with `c`.  The longest reading that takes the next
character as well is tried first; at the end of the line that reading is `c` alone, and the span of
an operator found so reaches one place beyond the end. -/
def operator (pos : Nat) (c : Char) (cs : List Char) : Except Failure Lexeme :=
  let next := cs.head?
  match Operator.ofSymbol? (String.ofList (c :: next.toList)) with
  | some o => .ok (.op o, 1)
  | none =>
    let single := Operator.ofSymbol? (String.ofList [c])
    match single.filter fun o => next = some '=' && o.compounds with
    | some o => .ok (.assign (some o), 1)
    | none =>
      if c = '=' then .ok (.assign none, 0)
      else
        match single with
        | some o => .ok (.op o, 0)
        | none => .error (unexpected pos c)

/-- The token that starts with `c` at `pos`, after a token of kind `last` if there was one. -/
def lexeme (last : Option TokenKind) (pos : Nat) (c : Char) (cs : List Char) :
    Except Failure Lexeme :=
  if Scan.isNameStart c then .ok (word c cs)
  else if c.isDigit || (c = '-' && digitNext cs && (last.map TokenKind.admitsSign).getD true) then
    number pos c cs
  else if c = '"' then string pos cs
  else if Scan.isOperatorChar c then operator pos c cs
  else if c = '.' then .ok (.dot, 0)
  else if c = '(' then .ok (.openParen, 0)
  else if c = ')' then .ok (.closeParen, 0)
  else if c = ',' then .ok (.comma, 0)
  else if c = '@' then .ok (.marker, 0)
  else .error (unexpected pos c)

/-- The tokens of the text that starts at `pos`, after a token of kind `last` if there was one. -/
def tokensFrom (pos : Nat) (last : Option TokenKind) : List Char → Except Failure (List Token)
  | [] => .ok []
  | c :: cs =>
    if Text.isBlank c then tokensFrom (pos + 1) last cs
    else
      match lexeme last pos c cs with
      | .error e => .error e
      | .ok (kind, extra) =>
        match tokensFrom (pos + 1 + extra) (some kind) (cs.drop extra) with
        | .error e => .error e
        | .ok ts => .ok (⟨kind, pos, pos + 1 + extra⟩ :: ts)
termination_by cs => cs.length
decreasing_by
  · simp
  · simp only [List.length_drop, List.length_cons]
    omega

/-- The tokens of a line. -/
def tokenize (line : List Char) : Except Failure (List Token) :=
  tokensFrom 0 none line

end Lexer

end DevConsole
