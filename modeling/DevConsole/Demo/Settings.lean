/-
The settings of the demo application, as the console's requests leave them.
-/
import DevConsole.Command.Registry

namespace DevConsole

/-- What the console can change about the application. -/
structure Settings where
  running : Bool := true
  vsync : Bool := true
  fixedTimestep : Bool := false
  framerate : Float32 := 60
  /-- Whether the game's own input is on. -/
  input : Bool := true
deriving Repr

namespace Settings

/-- The settings after a request. -/
def apply (s : Settings) : HostRequest → Settings
  | .exit => { s with running := false }
  | .vsync enabled => { s with vsync := enabled }
  | .fixedTimestep enabled => { s with fixedTimestep := enabled }
  | .framerate fps => { s with framerate := fps }
  | .input enabled => { s with input := enabled }

/-- The settings after requests in the order they were made. -/
def after (requests : List HostRequest) : Settings :=
  requests.foldl apply {}

/-- Once the application was told to stop, it stays so. -/
theorem running_apply_of_not {s : Settings} (h : s.running = false) (r : HostRequest) :
    (s.apply r).running = false := by
  cases r <;> simp [apply, h]

end Settings

end DevConsole
