/-
Commands written down as data.

Such a command is a list of steps, which print, report, ask the host for something or end the
command early; what the steps before did stays done.
-/
import DevConsole.Command.Registry
import DevConsole.Expr.Token
import DevConsole.World.Catalog

namespace DevConsole

/-- One thing that a command does. -/
inductive CommandStep where
  | print (text : String)
  | info (text : String)
  | error (text : String)
  | colored (color : Color) (text : String)
  | report (failure : Failure)
  | clear
  | exit
  | fail (failure : Failure)
  | panic (payload : Panic)
  /-- Print how many arguments there are. -/
  | count
  /-- Print an argument as each kind of value. -/
  | argument (name : String)
deriving Repr

/-- A command as data. -/
structure CommandPlan where
  name : String
  help : String := ""
  signature : String := ""
  steps : List CommandStep := []
deriving Repr

namespace Args

/-- The number of arguments, and whether there are none. -/
def countText (a : Args) : String :=
  Decimal.natText a.size ++ " " ++ Literal.text (.bool (a.size == 0))

/-- An argument with its type, if there is one, and as an integer, float, truth value and text. -/
def describe (a : Args) (name : String) : String :=
  let found :=
    match a.get? name with
    | some v => "Some(" ++ Catalog.inspect ⟨[]⟩ {} v ++ ")"
    | none => "None"
  name ++ ": " ++ found ++ " int=" ++ Decimal.text (a.int name) ++ " float=" ++
    Shortest.single (a.float name) ++ " bool=" ++ Literal.text (.bool (a.bool name)) ++ " str=" ++
    a.str name

end Args

namespace CommandStep

/-- Perform a step. -/
def run (palette : Palette) (args : Args) : CommandStep → Act Environment Unit
  | print t => Act.modify (·.print palette.outputColor t)
  | info t => Act.modify (·.print palette.infoColor t)
  | error t => Act.modify (·.print palette.errorColor t)
  | colored c t => Act.modify (·.print c t)
  | report f => Act.modify (·.report palette f)
  | clear => Act.modify fun env => { env with scrollback := env.scrollback.clear }
  | exit => Act.modify fun env => { env with host := env.host.request .exit }
  | fail f => Act.fail f
  | panic p => Act.panic p
  | count => Act.modify (·.print palette.outputColor args.countText)
  | argument n => Act.modify (·.print palette.outputColor (args.describe n))

/-- Perform steps one after another. -/
def runAll (palette : Palette) (args : Args) : List CommandStep → Act Environment Unit
  | [] => pure ()
  | s :: ss => do
    s.run palette args
    runAll palette args ss

end CommandStep

/-- Register a command that is given as data. -/
def CommandPlan.register (p : CommandPlan) (r : Registry) : Except Failure Registry :=
  r.register p.name p.help p.signature fun palette args =>
    CommandStep.runAll palette args p.steps

end DevConsole
