/-
# `DevConsole.Proofs.Session.Closed` — what a closed console does

Lines that are bound to function keys run whether the console is open or not.  A closed console does
nothing else, until it is opened:

    text, the wheel           nothing
    a key without a slot      nothing
    a key of a slot           the line that is bound to it, if there is one

The line is announced in the log and dispatched.  It is not submitted, which would remember and echo
it.  So of a sequence of events only the bound lines in it count (`Session.boundLines`), and of the
console they change what commands may touch, the host and the scrollback, each as dispatching the
lines one after another leaves it.
-/
import DevConsole.Demo.Game
import DevConsole.Proofs.Session.Containment

namespace DevConsole

/-- The line that is bound to the key of an event, if there is one, with its slot. -/
def Session.boundLine? (s : Session) : InputEvent → Option (Nat × String)
  | .keyPress key _ => key.slot?.bind fun slot => (s.binding? slot).map fun line => (slot, line)
  | _ => none

/-- The bound lines of the keys that are pressed, in order. -/
def Session.boundLines (s : Session) (es : List InputEvent) : List (Nat × String) :=
  es.filterMap s.boundLine?

theorem Session.boundLines_cons (s : Session) (e : InputEvent) (es : List InputEvent) :
    s.boundLines (e :: es) = (s.boundLine? e).toList ++ s.boundLines es := by
  unfold boundLines
  rw [List.filterMap_cons]
  cases s.boundLine? e <;> rfl

/-- What running a bound line makes of an environment: the line goes into the log and is
dispatched. -/
def Setup.runBound (setup : Setup) (palette : Palette) (env : Environment)
    (bound : Nat × String) : Environment :=
  (setup.registry.dispatchLine palette bound.2
    { env with host := env.host.record .info <|
        "F" ++ Decimal.natText (bound.1 + 1) ++ " -> " ++ bound.2 }).2

namespace Console

variable {setup : Setup} {c : Console}

/-- The console in another environment, the rest of the session being as it was. -/
def inEnvironment (c : Console) (env : Environment) : Console :=
  ⟨{ c.session with scrollback := env.scrollback }, env.host⟩

/-- What bound lines make of a console. -/
def runBound (setup : Setup) (c : Console) (bounds : List (Nat × String)) : Console :=
  c.inEnvironment (bounds.foldl (setup.runBound c.session.config.palette) c.environment)

theorem runBound_append (setup : Setup) (c : Console) (bs bs' : List (Nat × String)) :
    (c.runBound setup bs).runBound setup bs' = c.runBound setup (bs ++ bs') := by
  rw [runBound, runBound, runBound, List.foldl_append]
  rfl

/-- An event that is no press of the toggle key has a closed console run its bound line. -/
theorem handleEvent_closed (setup : Setup) (hclosed : c.session.isOpen = false) {e : InputEvent}
    (he : ¬ (Operation.event e).Presses c.session.config.toggleKey) :
    (handleEvent setup e).run c =
      (.ok (), c.runBound setup (c.session.boundLine? e).toList) := by
  cases e with
  | text ch =>
    show (Except.ok (), if c.session.isOpen then c.edit (·.insert ch) else c) = _
    rw [hclosed]
    rfl
  | wheel delta =>
    show (Except.ok (), if c.session.isOpen then c.edit (·.scrollBy delta) else c) = _
    rw [hclosed]
    rfl
  | keyPress key shift =>
    have hkey : key ≠ c.session.config.toggleKey := by
      rintro rfl
      exact he ⟨shift, rfl⟩
    show (handlePress setup key shift).run c = _
    rw [Session.boundLine?]
    cases hslot : key.slot? with
    | none =>
      rw [handlePress_run, if_neg hkey, hslot, hclosed]
      rfl
    | some slot =>
      rw [handlePress_of_slot hkey hslot, fire, Option.bind_some]
      cases c.session.binding? slot <;> rfl

/-- While it is closed, and the toggle key is not pressed, all that a console does is to run the
lines bound to the keys that are pressed, in order.  Each finds the host and the scrollback as the
one before has left them, and nothing else of the session changes. -/
theorem handleEvents_closed (setup : Setup) (c : Console) (hclosed : c.session.isOpen = false)
    (es : List InputEvent)
    (hes : ∀ e ∈ es, ¬ (Operation.event e).Presses c.session.config.toggleKey) :
    (handleEvents setup es).run c =
      let env := (c.session.boundLines es).foldl (setup.runBound c.session.config.palette)
        c.environment
      (.ok (), ⟨{ c.session with scrollback := env.scrollback }, env.host⟩) := by
  show _ = (Except.ok (), c.runBound setup (c.session.boundLines es))
  induction es generalizing c with
  | nil => rfl
  | cons e es ih =>
    obtain ⟨he, hes⟩ := List.forall_mem_cons.1 hes
    rw [handleEvents, Act.run_bind, handleEvent_closed setup hclosed he]
    simp only
    rw [ih (c.runBound setup (c.session.boundLine? e).toList) hclosed hes, Session.boundLines_cons,
      ← runBound_append]
    rfl

/-- The game's console, closed, with lines bound to F1 and F5. -/
def keyed : Console := ⟨((Session.new {}).bind 0 "vsync false").bind 4 "mystery", {}⟩

/-- Input of all kinds, the two keys among it. -/
def mixed : List InputEvent :=
  [.text 'x', .press (.function 1), .wheel 3, .press .enter, .press (.function 5), .press .tab,
    .press (.function 7)]

/-- The line of F1 has its request made and the line of F5 is reported, and neither is echoed. -/
theorem handleEvents_closed_keyed :
    keyed.session.isOpen = false ∧
      (∀ e ∈ mixed, ¬ (Operation.event e).Presses keyed.session.config.toggleKey) ∧
      keyed.session.boundLines mixed = [(0, "vsync false"), (4, "mystery")] ∧
      ∃ env : Environment, (handleEvents (.new {} Game.world .null) mixed).run keyed =
          (.ok (), ⟨{ keyed.session with scrollback := env.scrollback }, env.host⟩) ∧
        env.host.requests = [.vsync false] ∧
        env.scrollback.lines.map (·.text) = [(Cause.unknownCommand "mystery").message] := by
  have hclosed : keyed.session.isOpen = false := rfl
  have hmixed : ∀ e ∈ mixed, ¬ (Operation.event e).Presses keyed.session.config.toggleKey := by
    rintro e he ⟨shift, h⟩
    cases h
    revert shift
    decide
  exact ⟨hclosed, hmixed, rfl, _,
    handleEvents_closed (.new {} Game.world .null) keyed hclosed mixed hmixed, rfl,
    by decide +kernel⟩

end Console

end DevConsole
