/-
The session: the line being edited, history, scrollback and what is open.

Operations that concern the session alone are functions on it.  The line is a list of characters,
and the cursor is counted from its end, so that typing does not move it.
-/
import DevConsole.Command.Registry
import DevConsole.Completion.Engine
import DevConsole.Output.Wrap
import DevConsole.Session.History

namespace DevConsole

/-- The interactive state of the console. -/
structure Session where
  config : Config
  isOpen : Bool := false
  /-- The number of frames so far. -/
  frame : Nat := 0
  /-- The frame in which the console last closed. -/
  closedFrame : Option Nat := none
  buffer : List Char := []
  /-- The place of the cursor, in characters from the end of the buffer. -/
  cursor : Nat := 0
  history : History
  /-- The history entry that is shown, none for the live line. -/
  seek : Option Nat := none
  scrollback : Scrollback
  /-- How many of the newest lines are scrolled away. -/
  scroll : Nat := 0
  completion : Completion.Engine
  /-- The lines bound to function keys, by slot. -/
  bindings : List (Option String) := List.replicate Key.slots none
deriving Repr

namespace Session

/-- A fresh session, closed and empty. -/
def new (c : Config) : Session where
  config := c
  history := .empty c.maxHistory
  scrollback := .empty c.maxLines
  completion := { expressionLead := c.expressionLead, placeholder := c.placeholder }

/-- Add a line of output. -/
def print (s : Session) (text : String) : Session :=
  { s with scrollback := s.scrollback.push ⟨text, s.config.palette.outputColor⟩ }

/-- Bind a line to a slot of the function keys. -/
def bind (s : Session) (slot : Nat) (line : String) : Session :=
  { s with bindings := s.bindings.set slot (some line) }

/-- Whether there is a slot to bind. -/
def hasSlot (s : Session) (slot : Nat) : Bool := slot < s.bindings.length

/-- The line bound to a slot. -/
def binding? (s : Session) (slot : Nat) : Option String := (s.bindings[slot]?).join

/-- Start the next frame. -/
def beginFrame (s : Session) : Session := { s with frame := s.frame + 1 }

/-- Whether opening has an effect: not when open already, nor in the frame of the last closing. -/
def mayOpen (s : Session) : Bool := !s.isOpen && s.closedFrame != some s.frame

/-- End the completion run. -/
def resetCompletion (s : Session) : Session := { s with completion := s.completion.reset }

/-! ## Editing -/

/-- The place of the cursor, counted from the start of the line. -/
def insertIndex (s : Session) : Nat := s.buffer.length - s.cursor

/-- The characters before the cursor. -/
def before (s : Session) : List Char := s.buffer.take s.insertIndex

/-- The characters after the cursor. -/
def after (s : Session) : List Char := s.buffer.drop s.insertIndex

/-- Whether a character belongs to the toggle key and is never typed. -/
def isToggleChar (s : Session) (c : Char) : Bool :=
  s.config.toggleKey = .backquote && (c = '\x60' || c = '~')

/-- Type a character at the cursor. -/
def insert (s : Session) (c : Char) : Session :=
  if Text.isControl c || s.isToggleChar c then s
  else { s.resetCompletion with buffer := s.before ++ c :: s.after }

/-- Remove the character before the cursor. -/
def backspace (s : Session) : Session :=
  { s with buffer := s.before.dropLast ++ s.after }

/-- Put a text in place of the line, with the cursor at its end. -/
def replaceLine (s : Session) (text : List Char) : Session :=
  { s with buffer := text, cursor := 0 }

/-- Move the cursor toward the start. -/
def left (s : Session) : Session := { s with cursor := min (s.cursor + 1) s.buffer.length }

/-- Move the cursor toward the end. -/
def right (s : Session) : Session := { s with cursor := s.cursor - 1 }

/-- Show the next older line of the history, if there is one. -/
def older (s : Session) : Session :=
  let next := match s.seek with
    | some i => i + 1
    | none => 0
  match s.history.get? next with
  | some line => { s.replaceLine line.toList with seek := some next }
  | none => s

/-- Show the next newer line of the history; after the newest comes an empty line. -/
def newer (s : Session) : Session :=
  match s.seek with
  | some (i + 1) => { s.replaceLine ((s.history.get? i).getD "").toList with seek := some i }
  | _ => { s.replaceLine [] with seek := none }

/-- Scroll toward older lines, or newer ones if the amount is negative, within the scrollback. -/
def scrollBy (s : Session) (delta : Int) : Session :=
  { s with scroll := (max 0 (min (s.scroll + delta) s.scrollback.size)).toNat }

/-- The session after a completion step. -/
def complete (s : Session) (names : List String) (d : Direction) : Session :=
  match s.completion.step s.buffer s.cursor names d with
  | (some done, e) => { s with completion := e, buffer := done.buffer, cursor := done.cursor }
  | (none, e) => { s with completion := e }

/-! ## Drawing -/

/-- A line of output, wrapped. -/
def drawn (width : Nat) (text : List Char) (color : Color) : List OutputLine :=
  (Wrap.lines width text).map fun l => ⟨String.ofList l, color⟩

/-- The prompt, with a bar at the cursor. -/
def prompt (s : Session) : List Char :=
  '>' :: ' ' :: s.before ++ '|' :: s.after

/-- What is drawn at a width: the visible lines, oldest first, then the prompt; nothing while the
console is closed. -/
def render (s : Session) (width : Nat) : List OutputLine :=
  if s.isOpen then
    (s.scrollback.window s.scroll s.config.visibleLines).reverse.flatMap
        (fun l => drawn width l.text.toList l.color) ++
      drawn width s.prompt s.config.palette.echoColor
  else []

end Session

end DevConsole
