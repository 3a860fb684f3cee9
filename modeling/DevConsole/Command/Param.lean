/-
Parameters of commands.

A signature is a list of words, each a name, a kind and perhaps a default: `name:kind=default`.  The
usage of a command shows its parameters in brackets, the kind by its main name and the default as it
was written.
-/
import DevConsole.Error
import DevConsole.Expr.Scan
import DevConsole.Number.Reading
import DevConsole.Text.Split
import DevConsole.World.Value

namespace DevConsole

/-- The kinds of command arguments. -/
inductive ArgKind where
  | string
  | int
  | float
  | bool
deriving Repr, DecidableEq

namespace ArgKind

/-- The main name of a kind. -/
def text : ArgKind → String
  | string => "string"
  | int => "int"
  | float => "float"
  | bool => "bool"

/-- The kind that a name denotes in any case; some kinds have a second name. -/
def ofName? (name : String) : Option ArgKind :=
  match Text.asciiLowercase name with
  | "string" | "str" => some string
  | "int" | "integer" => some int
  | "float" => some float
  | "bool" | "boolean" => some bool
  | _ => none

/-- A truth value as commands take it. -/
def boolOfText? (text : String) : Option Bool :=
  match Text.asciiLowercase text with
  | "true" | "1" | "on" => some true
  | "false" | "0" | "off" => some false
  | _ => none

/-- Read an argument.  Floats must be finite. -/
def read? (k : ArgKind) (text : String) : Option Value :=
  match k with
  | string => some (.str text)
  | int => (Decimal.read text.toList).map .int
  | float => ((Reading.single? text.toList).filter (·.isFinite)).map .float
  | bool => (boolOfText? text).map .bool

/-- The value of an argument that is missing or cannot be read. -/
def zero : ArgKind → Value
  | string => .str ""
  | int => .int 0
  | float => .float 0
  | bool => .bool false

/-- The main name denotes its kind. -/
theorem ofName?_text (k : ArgKind) : ofName? k.text = some k := by
  cases k <;> decide +kernel

end ArgKind

/-- A declared parameter. -/
structure ParamSpec where
  name : String
  kind : ArgKind
  /-- The default as written, and its value. -/
  default : Option (String × Value) := none
deriving Repr

namespace ParamSpec

/-- The failure for a signature that does not fit. -/
def refuse (reason : String) : Failure := .of (.registration reason)

/-- The default of a kind as written, if there is one. -/
def default? (kind : ArgKind) : Option String → Except Failure (Option (String × Value))
  | none => .ok none
  | some text =>
    match kind.read? text with
    | some v => .ok (some (text, v))
    | none => .error (refuse ("default '" ++ text ++ "' is not a valid " ++ kind.text))

/-- Kind and default, from what follows the colon. -/
def splitDefault (rest : List Char) : String × Option String :=
  match Text.splitOnce '=' rest with
  | some (kind, default) => (String.ofList kind, some (String.ofList default))
  | none => (String.ofList rest, none)

/-- Read one word of a signature. -/
def parse (word : List Char) : Except Failure ParamSpec :=
  let malformed : Failure :=
    refuse ("malformed parameter spec '" ++ String.ofList word ++ "'")
  match Text.splitOnce ':' word with
  | none => .error malformed
  | some (name, rest) =>
    if Scan.isName name then
      let (kindName, defaultText) := splitDefault rest
      match ArgKind.ofName? kindName with
      | none =>
        .error (refuse
          ("unsupported parameter kind '" ++ kindName ++ "' in '" ++ String.ofList word ++ "'"))
      | some kind =>
        match default? kind defaultText with
        | .error e => .error e
        | .ok d => .ok { name := String.ofList name, kind := kind, default := d }
    else .error malformed

/-- The first name that an earlier parameter has already. -/
def duplicate? (seen : List String) : List ParamSpec → Option String
  | [] => none
  | p :: ps => if p.name ∈ seen then some p.name else duplicate? (p.name :: seen) ps

/-- Read the words of a signature, up to the first that does not fit. -/
def parseAll : List (List Char) → Except Failure (List ParamSpec)
  | [] => .ok []
  | w :: ws =>
    match parse w with
    | .error e => .error e
    | .ok p =>
      match parseAll ws with
      | .error e => .error e
      | .ok ps => .ok (p :: ps)

/-- Read a signature. -/
def parseSignature (signature : String) : Except Failure (List ParamSpec) :=
  match parseAll (Text.words signature.toList) with
  | .error e => .error e
  | .ok ps =>
    match duplicate? [] ps with
    | some name => .error (refuse ("duplicate parameter '" ++ name ++ "'"))
    | none => .ok ps

/-- A parameter as a word of a signature. -/
def word (p : ParamSpec) : String :=
  p.name ++ ":" ++ p.kind.text ++
    match p.default with
    | some d => "=" ++ d.1
    | none => ""

/-- A parameter in a usage line. -/
def text (p : ParamSpec) : String := "[" ++ p.word ++ "]"

/-- The value for an argument: the argument as it reads, else the default, else zero. -/
def resolve (p : ParamSpec) (arg : Option String) : Value :=
  match arg.bind p.kind.read? with
  | some v => v
  | none =>
    match p.default with
    | some d => d.2
    | none => p.kind.zero

end ParamSpec

end DevConsole
