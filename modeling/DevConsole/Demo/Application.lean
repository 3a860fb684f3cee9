/-
The demo application: the game with a console, played one line of input at a time.

Every line is a frame.  The game advances, the console handles the events written in the line, and
what it draws is written out in color.  The application stops when it is told to or when the input
ends.
-/
import DevConsole.Config.Decode
import DevConsole.Demo.Game
import DevConsole.Demo.Settings
import DevConsole.Input.Script
import DevConsole.Session.Console

namespace DevConsole

/-- Where the configuration comes from. -/
inductive ConfigSource where
  /-- No file is named. -/
  | default
  /-- The named file cannot be read. -/
  | unreadable
  /-- The content of the named file. -/
  | content (text : String)
deriving Repr

/-- The configuration to start with, if it is in order. -/
def ConfigSource.load? : ConfigSource → Option Config
  | default => some {}
  | unreadable => none
  | content text => (Config.parse text).toOption

/-- A program run from outside: its exit code and what it wrote. -/
structure ProgramResult where
  exitCode : Nat
  output : String
deriving Repr, DecidableEq

/-- The exit code of a run that could not start. -/
def ProgramResult.refused : Nat := 1

/-- The exit code of a run that a panic ended. -/
def ProgramResult.panicked : Nat := 101

/-- The application: what the console is connected to, and the console. -/
structure Application where
  setup : Setup
  console : Console

namespace Application

/-- The lines bound to function keys, by slot. -/
def bindings : List (Nat × String) :=
  [(0, "vsync false"), (1, "call paused = true"), (2, "call paused = false")]

/-- A new game with a fresh console, which is closed and has no keys bound. -/
def new (c : Config) : Application :=
  let (root, store) := Game.newGame {}
  { setup := .new c Game.world (root.toOption.getD .null)
    console := .new c store }

/-- The application with a line bound to a slot of the function keys. -/
def bind (a : Application) (slot : Nat) (line : String) : Application :=
  { a with console := a.console.edit (·.bind slot line) }

/-- Hand events to the console as one frame. -/
def update (events : List InputEvent) : Act Application Unit := fun a =>
  let r := Console.update a.setup events a.console
  (r.1, { a with console := r.2 })

/-- Advance the game by a frame.  A game that cannot advance is only noted in the log. -/
def tick (a : Application) : Application :=
  match Console.onStore (Game.advance a.setup.context.root) a.console with
  | (.error (.failed f), c) =>
    { a with console :=
        { c with host := c.host.record .warn ("Frame skipped: " ++ f.message) } }
  | (_, c) => { a with console := c }

/-- Play one line of input. -/
def play (line : List Char) : Act Application Unit := do
  Act.modify tick
  update (Script.lineEvents line)

/-- Whether the application has not been told to stop. -/
def isRunning (a : Application) : Bool :=
  (Settings.after a.console.host.requests).running

/-- The application as it starts: with its keys bound and the console open.  The scrollback is set
aside in full first, and a configuration that asks for too much ends in a panic. -/
def start (c : Config) : Except Abort Unit × Application :=
  if Scrollback.canReserve c.maxLines then
    update [.press c.toggleKey] (bindings.foldl (fun a b => a.bind b.1 b.2) (new c))
  else Act.panic (.saying "capacity overflow") (new c)

/-- A drawn line for a terminal, in its color. -/
def paint (l : OutputLine) : String :=
  let channels := [l.color.r, l.color.g, l.color.b].map fun v => Decimal.natText v.toNat
  "\x1b[38;2;" ++ Text.join ";" channels ++ "m" ++ l.text ++ "\x1b[0m\n"

/-- What the console shows. -/
def screen (a : Application) : String :=
  String.join ((a.console.session.render a.console.session.config.wrapWidth).map paint)

/-- One line of input played: the screen after it and the application, or nothing after a panic. -/
def frame? (a : Application) (line : List Char) : Option (String × Application) :=
  match play line a with
  | (.ok (), a') => some (a'.screen, a')
  | (.error _, _) => none

/-- Play the lines of an input. -/
def playAll : List (List Char) → Application → ProgramResult
  | [], _ => ⟨0, ""⟩
  | l :: ls, a =>
    match a.frame? l with
    | none => ⟨ProgramResult.panicked, ""⟩
    | some (shown, a') =>
      if a'.isRunning then
        let rest := playAll ls a'
        { rest with output := shown ++ rest.output }
      else ⟨0, shown⟩

/-- Run the application on an input. -/
def run (source : ConfigSource) (input : String) : ProgramResult :=
  match source.load? with
  | none => ⟨ProgramResult.refused, ""⟩
  | some c =>
    match start c with
    | (.ok (), a) => playAll (Text.lines input.toList) a
    | (.error _, _) => ⟨ProgramResult.panicked, ""⟩

end Application

end DevConsole
