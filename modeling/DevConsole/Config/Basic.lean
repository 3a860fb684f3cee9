/-
Settings of the console, their defaults, and the rules that a written configuration must meet.
-/
import DevConsole.Color
import DevConsole.Error
import DevConsole.Input.Key

namespace DevConsole

/-- The colors of console lines as written by the user. -/
structure Palette where
  /-- Echo of a submitted line. -/
  echo : String := "#F0DC64"
  /-- Regular command output. -/
  output : String := "#FFFFFF"
  /-- Errors and evaluation frames. -/
  error : String := "#FF5050"
  /-- Notices. -/
  info : String := "#AAAAAA"
deriving Repr, DecidableEq

namespace Palette

/-- The color of an echoed line; a text that is no color falls back to yellow. -/
def echoColor (p : Palette) : Color := (Color.ofHex? p.echo).getD .yellow

/-- The color of regular output; a text that is no color falls back to white. -/
def outputColor (p : Palette) : Color := (Color.ofHex? p.output).getD .white

/-- The color of errors; a text that is no color falls back to red. -/
def errorColor (p : Palette) : Color := (Color.ofHex? p.error).getD .red

/-- The color of notices; a text that is no color falls back to gray. -/
def infoColor (p : Palette) : Color := (Color.ofHex? p.info).getD .gray

end Palette

/-- Tunable behavior of the console. -/
structure Config where
  /-- The key that opens and closes the console. -/
  toggleKey : Key := .backquote
  /-- How many lines the scrollback keeps. -/
  maxLines : Nat := 100
  /-- How many submitted lines are remembered. -/
  maxHistory : Nat := 50
  /-- What a line starts with when completion should offer members. -/
  expressionLead : String := "call "
  /-- The character that stands for a space inside an expression. -/
  placeholder : Char := '#'
  /-- The line width in characters. -/
  wrapWidth : Nat := 80
  /-- How many scrollback lines are shown at once. -/
  visibleLines : Nat := 12
  /-- Whether the host's own input is off while the console is open. -/
  suppressInput : Bool := true
  /-- Whether an operator that neither operand knows is an error. -/
  strictOperators : Bool := false
  palette : Palette := {}
deriving Repr, DecidableEq

namespace Config

/-- The first rule that a configuration breaks, if any. -/
def complaint? (c : Config) : Option String :=
  if c.maxLines = 0 then some "max_lines must be at least 1"
  else if c.wrapWidth = 0 then some "wrap_width must be at least 1"
  else if c.toggleKey.slot?.isSome then
    some "toggle_key must not be a function key; those are binding slots"
  else if Text.isBlank c.placeholder then some "space_placeholder must not be whitespace"
  else none

/-- The configuration, if it meets every rule. -/
def validate (c : Config) : Except Failure Config :=
  match c.complaint? with
  | some reason => .error (.of (.config reason))
  | none => .ok c

/-- The defaults meet every rule. -/
theorem complaint?_default : ({} : Config).complaint? = none := by
  decide +kernel

end Config

end DevConsole
