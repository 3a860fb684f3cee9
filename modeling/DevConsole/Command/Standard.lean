/-
The commands that every console has besides help.

Most are requests to the host.  `call` hands an expression to evaluation, with the placeholder read
as a space, and prints the value, or one line for each member if members are asked for.
-/
import DevConsole.Command.Registry
import DevConsole.Eval.Evaluate

namespace DevConsole

namespace Standard

/-- Log a text. -/
def logInfo (text : String) : Act Environment Unit :=
  Act.modify (·.record .info text)

/-- Ask something of the host. -/
def request (r : HostRequest) : Act Environment Unit :=
  Act.modify fun env => { env with host := env.host.request r }

/-- The word for a switch. -/
def onOff (b : Bool) : String := if b then "on" else "off"

/-- A parameter that switches something on unless told otherwise. -/
def enabledParam : ParamSpec :=
  { name := "enabled", kind := .bool, default := some ("true", .bool true) }

/-- Drop all output. -/
def clear : Command where
  name := "clear"
  help := "Clear the console output"
  params := []
  action := .run fun _ _ => Act.modify fun env => { env with scrollback := env.scrollback.clear }

/-- Ask the host to shut down. -/
def exit : Command where
  name := "exit"
  help := "Quit the application"
  params := []
  action := .run fun _ _ => do
    logInfo "Exit requested from console"
    request .exit

/-- Switch vertical sync. -/
def vsync : Command where
  name := "vsync"
  help := "Enable or disable vertical sync"
  params := [enabledParam]
  action := .run fun _ args => do
    let enabled := args.bool "enabled"
    logInfo ("vsync " ++ onOff enabled)
    request (.vsync enabled)

/-- Switch the fixed timestep. -/
def fixed : Command where
  name := "fixed"
  help := "Enable or disable the fixed simulation timestep"
  params := [enabledParam]
  action := .run fun _ args => do
    let enabled := args.bool "enabled"
    logInfo ("fixed timestep " ++ onOff enabled)
    request (.fixedTimestep enabled)

/-- Set the frame rate; zero changes nothing. -/
def framerate : Command where
  name := "framerate"
  help := "Set the target frame rate"
  params := [{ name := "fps", kind := .float }]
  action := .run fun _ args => do
    let fps := args.float "fps"
    if fps == 0 then pure ()
    else
      logInfo ("Target framerate set to " ++ Shortest.single fps)
      request (.framerate fps)

/-- An expression as submitted, with placeholders read as spaces. -/
def expression (placeholder : Char) (text : String) : String :=
  String.ofList (text.toList.map fun c => if c = placeholder then ' ' else c)

/-- Print what a line of evaluation gives. -/
def printOutcome (c : Catalog) (color : Color) (o : Outcome) (env : Environment) : Environment :=
  match o with
  | .value v => env.print color (c.display env.host.store v)
  | .members es => es.foldl (fun env e => env.print color e.text) env

/-- Run a computation over the objects inside an environment. -/
def onStore {α : Type} (a : HostM α) : Act Environment α :=
  Act.onPart (fun env => env.host.store)
    (fun s env => { env with host := { env.host with store := s } }) a

/-- Evaluate an expression. -/
def call (cx : Context) (placeholder : Char) : Command where
  name := "call"
  help := "Evaluate an expression against the game state; end it with @ to list members"
  params := [{ name := "expression", kind := .string }]
  action := .run fun palette args => do
    let o ← onStore (cx.evaluate (expression placeholder (args.str "expression")))
    Act.modify (printOutcome cx.world.catalog palette.outputColor o)

/-- The registry of a fresh console. -/
def registry (cx : Context) (placeholder : Char) : Registry :=
  ⟨[Registry.helpCommand, clear, exit, vsync, fixed, framerate, call cx placeholder]⟩

end Standard

end DevConsole
