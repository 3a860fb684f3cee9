/-
Commands: registration and dispatch.

Commands are found by name without regard to case.  Dispatch reports whatever goes wrong: a failure
by its message and frames, a panic as a failure of the command.  Nothing a handler does reaches the
caller except through the environment.
-/
import DevConsole.Command.Args
import DevConsole.Config.Basic
import DevConsole.Output.Scrollback
import DevConsole.World.Store

namespace DevConsole

/-- What the console asks of the host. -/
inductive HostRequest where
  | exit
  | vsync (enabled : Bool)
  | fixedTimestep (enabled : Bool)
  | framerate (fps : Float32)
  | input (enabled : Bool)
deriving Repr

/-- How serious a log record is. -/
inductive Severity where
  | info
  | warn
deriving Repr, DecidableEq

/-- A record of the log. -/
structure LogRecord where
  severity : Severity
  text : String
deriving Repr, DecidableEq

/-- What lies outside the session: the objects, the requests made so far, and the log. -/
structure Host where
  store : Store := {}
  requests : List HostRequest := []
  log : List LogRecord := []
deriving Repr

namespace Host

/-- The host after one more request. -/
def request (h : Host) (r : HostRequest) : Host := { h with requests := h.requests ++ [r] }

/-- The host after one more log record. -/
def record (h : Host) (severity : Severity) (text : String) : Host :=
  { h with log := h.log ++ [⟨severity, text⟩] }

end Host

/-- What a command may touch: the host and the scrollback. -/
structure Environment where
  host : Host
  scrollback : Scrollback
deriving Repr

namespace Environment

/-- The environment after one more line of output. -/
def print (env : Environment) (color : Color) (text : String) : Environment :=
  { env with scrollback := env.scrollback.push ⟨text, color⟩ }

/-- The environment after one more log record. -/
def record (env : Environment) (severity : Severity) (text : String) : Environment :=
  { env with host := env.host.record severity text }

/-- Print and log one line of a report. -/
def reportLine (palette : Palette) (env : Environment) (text : String) : Environment :=
  (env.record .warn text).print palette.errorColor text

/-- The lines of a report: the message, then one line for each frame. -/
def reportLines (f : Failure) : List String :=
  f.message :: f.stack.map ("  at " ++ ·)

/-- Report a failure in the error color and to the log. -/
def report (palette : Palette) (env : Environment) (f : Failure) : Environment :=
  (reportLines f).foldl (reportLine palette) env

end Environment

/-- What a command runs, given the palette and its arguments. -/
abbrev Handler := Palette → Args → Act Environment Unit

/-- What a command does: list and explain commands, or run a handler. -/
inductive Action where
  | help
  | run (handler : Handler)

/-- A registered command. -/
structure Command where
  name : String
  help : String
  params : List ParamSpec
  action : Action

namespace Command

/-- The name under which a command is found. -/
def key (name : String) : String := Text.lowercase name

/-- The command with its parameters. -/
def usage (c : Command) : String :=
  Text.join " " (c.name :: c.params.map ParamSpec.text)

end Command

/-- What became of a dispatched line. -/
inductive Dispatch where
  | completed
  | unknownCommand
  | failed
deriving Repr, DecidableEq

/-- The registered commands, in the order of registration. -/
structure Registry where
  commands : List Command

namespace Registry

/-- The command that lists and explains the others. -/
def helpCommand : Command where
  name := "help"
  help := "List commands, or show usage for one command"
  params := [{ name := "name", kind := .string }]
  action := .help

/-- A registry with nothing but help. -/
def initial : Registry := ⟨[helpCommand]⟩

/-- The command with a name, without regard to case. -/
def get? (r : Registry) (name : String) : Option Command :=
  r.commands.find? fun c => Command.key c.name == Command.key name

/-- Whether there is a command with a name. -/
def contains (r : Registry) (name : String) : Bool := (r.get? name).isSome

/-- The number of commands. -/
def size (r : Registry) : Nat := r.commands.length

/-- Texts in rising order. -/
def sorted (names : List String) : List String :=
  names.mergeSort fun a b => !decide (b < a)

/-- The names of all commands, in rising order. -/
def names (r : Registry) : List String :=
  sorted (r.commands.map (·.name))

/-- Register a command.  The name must be one word that is not taken, and the signature must be
well formed. -/
def register (r : Registry) (name help signature : String) (handler : Handler) :
    Except Failure Registry :=
  if name.isEmpty || name.toList.any Text.isBlank then
    .error (ParamSpec.refuse ("invalid command name '" ++ name ++ "'"))
  else if r.contains name then
    .error (ParamSpec.refuse ("command '" ++ name ++ "' is already registered"))
  else
    match ParamSpec.parseSignature signature with
    | .error e => .error e
    | .ok params =>
      .ok ⟨r.commands ++ [{ name := name, help := help, params := params, action := .run handler }]⟩

/-- A registration that succeeds adds one command, behind those that were there. -/
theorem commands_of_register_eq_ok {r r' : Registry} {name help signature : String}
    {handler : Handler} (h : r.register name help signature handler = .ok r') :
    ∃ params, ParamSpec.parseSignature signature = .ok params ∧
      r'.commands = r.commands ++ [⟨name, help, params, .run handler⟩] := by
  unfold register at h
  split at h
  · cases h
  · split at h
    · cases h
    · split at h
      · cases h
      · next params hp =>
        refine ⟨params, hp, ?_⟩
        cases h
        rfl

/-- List the commands, or explain one. -/
def help (r : Registry) (palette : Palette) (name : String) : Act Environment Unit :=
  if name.isEmpty then
    Act.modify (·.print palette.infoColor ("Commands: " ++ Text.join ", " r.names))
  else
    match r.get? name with
    | none => Act.refuse (.unknownCommand name)
    | some c => Act.modify fun env =>
      let env := env.print palette.infoColor c.usage
      if c.help.isEmpty then env else env.print palette.infoColor c.help

/-- Perform the action of a command. -/
def perform (r : Registry) (palette : Palette) (c : Command) (args : Args) :
    Act Environment Unit :=
  match c.action with
  | .help => r.help palette (args.str "name")
  | .run handler => handler palette args

/-- The failure that stands for the way a command ended early. -/
def failureOf (name : String) : Abort → Failure
  | .failed f => f
  | .panicked p => .of (.command (name ++ " panicked: " ++ p.message))

/-- Run a command by name with words as arguments. -/
def dispatch (r : Registry) (palette : Palette) (name : String) (words : List String)
    (env : Environment) : Dispatch × Environment :=
  match r.get? name with
  | none =>
    (.unknownCommand, env.reportLine palette (Cause.unknownCommand name).message)
  | some c =>
    match (r.perform palette c (Args.coerce c.params words)).run env with
    | (.ok (), env') => (.completed, env')
    | (.error a, env') => (.failed, env'.report palette (failureOf c.name a))

/-- Run a line: its first word is the command, the others are arguments. -/
def dispatchLine (r : Registry) (palette : Palette) (line : String) (env : Environment) :
    Dispatch × Environment :=
  match (Text.words line.toList).map String.ofList with
  | [] => (.completed, env)
  | name :: words => r.dispatch palette name words env

end Registry

end DevConsole
