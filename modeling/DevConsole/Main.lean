/-
The command line of the demo application: an optional path of a configuration, lines of input, and
the screen after each of them.
-/
import DevConsole.Demo.Application

open DevConsole

/-- The configuration named on the command line. -/
def configSource : List String → IO ConfigSource
  | [] => pure .default
  | path :: _ => do
    try
      return .content (← IO.FS.readFile path)
    catch _ => return .unreadable

/-- A line without its line break. -/
def withoutBreak (line : String) : List Char :=
  match line.toList.reverse with
  | '\n' :: '\r' :: rest => rest.reverse
  | '\n' :: rest => rest.reverse
  | _ => line.toList

/-- Play lines until the input ends or the application stops, and give the exit code. -/
partial def playLines (input output : IO.FS.Stream) (a : Application) : IO UInt32 := do
  let line ← input.getLine
  if line.isEmpty then return 0
  match a.frame? (withoutBreak line) with
  | none => return UInt32.ofNat ProgramResult.panicked
  | some (shown, a') =>
    output.putStr shown
    output.flush
    if a'.isRunning then playLines input output a' else return 0

/-- Start the application and play the lines of the standard input. -/
def main (args : List String) : IO UInt32 := do
  match (← configSource args).load? with
  | none => return UInt32.ofNat ProgramResult.refused
  | some c =>
    match Application.start c with
    | (.ok (), a) => playLines (← IO.getStdin) (← IO.getStdout) a
    | (.error _, _) => return UInt32.ofNat ProgramResult.panicked
