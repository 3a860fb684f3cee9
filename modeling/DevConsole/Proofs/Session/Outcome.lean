/-
# `DevConsole.Proofs.Session.Outcome` — what an operation makes of a console

`Console.Turned` says which small changes an operation is made of and forgets which operation it
was.  That is enough for what every change keeps.  It is not for what depends on the order of the
changes, as an edit after the completion run has ended, or on the operation, as a frame in which the
toggle key is pressed.

Here each operation is listed with everything that it can come to (`Console.Outcome`), the console
afterwards being written down as far as it is decided:

    framed, revealed, closed, toggled       beginning a frame, opening and closing
    submitted, printed, bound               what the host has the session do
    fired, escaped, entered, pressed        keys; of those that edit the line, only what they leave
    typed, scrolled, completed, panicked    characters, the wheel, and Tab
    ignored…                                input that has no effect

Whatever is claimed of an operation is then a matter of these cases, and nothing else of the
handling of events is looked at again.
-/
import DevConsole.Proofs.Session.Operations

namespace DevConsole

namespace Console

/-- What an operation makes of a console, with the conditions that events are under. -/
inductive Outcome (setup : Setup) (c : Console) : Operation → Console → Prop where
  | framed : Outcome setup c .beginFrame (c.edit (·.beginFrame))
  | revealed : Outcome setup c .reveal c.reveal
  | closed : Outcome setup c .close c.close
  | submitted (line : String) : Outcome setup c (.submit line) (submit setup line c).2
  | printed (text : String) : Outcome setup c (.print text) (c.edit (·.print text))
  | bound (slot : Nat) (line : String) :
      Outcome setup c (.bind slot line) (c.edit (·.bind slot line))
  | toggled (shift : Bool) :
      Outcome setup c (.event (.keyPress c.session.config.toggleKey shift)) c.toggle
  | fired {key : Key} (shift : Bool) (slot : Nat) : key ≠ c.session.config.toggleKey →
      key.slot? = some slot → Outcome setup c (.event (.keyPress key shift)) (fire setup slot c)
  | escaped (shift : Bool) : .escape ≠ c.session.config.toggleKey → c.session.isOpen = true →
      Outcome setup c (.event (.keyPress .escape shift)) (c.edit (·.resetCompletion)).close
  | entered (shift : Bool) (line : String) : .enter ≠ c.session.config.toggleKey →
      c.session.isOpen = true →
      Outcome setup c (.event (.keyPress .enter shift))
        (submit setup line
          (c.edit fun s => { s.resetCompletion.replaceLine [] with seek := none })).2
  /-- A key that edits the line or walks the history, or has no meaning. -/
  | pressed {key : Key} (shift : Bool) (buffer : List Char) (cursor : Nat) (seek : Option Nat) :
      key ≠ c.session.config.toggleKey → key ≠ .tab → c.session.isOpen = true →
      Outcome setup c (.event (.keyPress key shift))
        (c.edit fun s => { s.resetCompletion with buffer := buffer, cursor := cursor, seek := seek })
  | completed (shift : Bool) (names : List String) (d : Direction) (store : Store) :
      .tab ≠ c.session.config.toggleKey → c.session.isOpen = true →
      Outcome setup c (.event (.keyPress .tab shift))
        ⟨c.session.complete names d, { c.host with store := store }⟩
  /-- Host code panicked while the names for a completion were looked up. -/
  | panicked (shift : Bool) (store : Store) :
      .tab ≠ c.session.config.toggleKey → c.session.isOpen = true →
      Outcome setup c (.event (.keyPress .tab shift)) ⟨c.session, { c.host with store := store }⟩
  | typed (ch : Char) (buffer : List Char) : c.session.isOpen = true →
      Outcome setup c (.event (.text ch))
        (c.edit fun s => { s.resetCompletion with buffer := buffer })
  | scrolled (delta : Int) : c.session.isOpen = true →
      Outcome setup c (.event (.wheel delta)) (c.edit (·.scrollBy delta))
  | ignoredKey {key : Key} (shift : Bool) : key ≠ c.session.config.toggleKey →
      Outcome setup c (.event (.keyPress key shift)) c
  | ignoredText (ch : Char) : Outcome setup c (.event (.text ch)) c
  | ignoredWheel (delta : Int) : Outcome setup c (.event (.wheel delta)) c

variable {setup : Setup} {c : Console}

theorem run_onStore {α : Type} (a : HostM α) (c : Console) :
    (onStore a).run c =
      ((a c.host.store).1, ⟨c.session, { c.host with store := (a c.host.store).2 }⟩) := rfl

theorem tab_outcome (shift : Bool) (d : Direction) (hkey : .tab ≠ c.session.config.toggleKey)
    (hopen : c.session.isOpen = true) :
    Outcome setup c (.event (.keyPress .tab shift)) ((tab setup d).run c).2 := by
  unfold tab
  rw [Act.run_bind, Act.run_get]
  simp only
  rw [Act.run_bind, run_onStore]
  rcases names setup c c.host.store with ⟨e | ns, store⟩
  · exact .panicked shift store hkey hopen
  · exact .completed shift ns d store hkey hopen

theorem handleKey_outcome {key : Key} (shift : Bool) (hkey : key ≠ c.session.config.toggleKey)
    (hopen : c.session.isOpen = true) :
    Outcome setup c (.event (.keyPress key shift)) ((handleKey setup key shift).run c).2 := by
  have hpressed : ∀ f : Session → Session,
      (∀ s : Session, f s = { s with
        buffer := (f s).buffer, cursor := (f s).cursor, seek := (f s).seek }) → key ≠ .tab →
      Outcome setup c (.event (.keyPress key shift)) (c.edit fun s => f s.resetCompletion) := by
    intro f hf htab
    have h : Outcome setup c (.event (.keyPress key shift)) _ :=
      .pressed shift (f c.session.resetCompletion).buffer (f c.session.resetCompletion).cursor
        (f c.session.resetCompletion).seek hkey htab hopen
    rwa [edit, ← hf c.session.resetCompletion] at h
  cases key with
  | tab => exact tab_outcome shift _ hkey hopen
  | escape => exact .escaped shift hkey hopen
  | enter =>
    show Outcome setup c _ (enter setup (c.edit (·.resetCompletion)))
    unfold enter
    split
    · exact hpressed id (fun _ => rfl) nofun
    · exact .entered shift _ hkey hopen
  | backspace => exact hpressed (·.backspace) (fun _ => rfl) nofun
  | delete => exact hpressed (·.replaceLine []) (fun _ => rfl) nofun
  | up => exact hpressed (·.older) Session.older_eq nofun
  | down => exact hpressed (·.newer) Session.newer_eq nofun
  | left => exact hpressed (·.left) (fun _ => rfl) nofun
  | right => exact hpressed (·.right) (fun _ => rfl) nofun
  | backquote => exact hpressed id (fun _ => rfl) nofun
  | function n => exact hpressed id (fun _ => rfl) nofun

/-- Performing an operation comes to one of its outcomes. -/
theorem perform_outcome (op : Operation) (c : Console) :
    Outcome setup c op (op.perform setup c) := by
  cases op with
  | beginFrame => exact .framed
  | reveal => exact .revealed
  | close => exact .closed
  | submit line => exact .submitted line
  | print text => exact .printed text
  | bind slot line => exact .bound slot line
  | event e =>
    cases e with
    | keyPress key shift =>
      show Outcome setup c _ ((handlePress setup key shift).run c).2
      rw [handlePress_run]
      split
      · rename_i hkey
        subst hkey
        exact .toggled shift
      rename_i hkey
      cases hslot : key.slot? with
      | some slot => exact .fired shift slot hkey hslot
      | none =>
        simp only
        split
        · rename_i hopen
          exact handleKey_outcome shift hkey hopen
        · exact .ignoredKey shift hkey
    | text ch =>
      show Outcome setup c _ (if c.session.isOpen then c.edit (·.insert ch) else c)
      split
      · rename_i hopen
        rw [edit, Session.insert]
        split
        · exact .ignoredText ch
        · exact .typed ch _ hopen
      · exact .ignoredText ch
    | wheel delta =>
      show Outcome setup c _ (if c.session.isOpen then c.edit (·.scrollBy delta) else c)
      split
      · rename_i hopen
        exact .scrolled delta hopen
      · exact .ignoredWheel delta

/-! ## Opening and closing -/

theorem session_reveal (c : Console) :
    c.reveal.session =
      if c.session.mayOpen then { c.session with isOpen := true, scroll := 0 } else c.session := by
  unfold reveal
  split
  · exact session_switchInput _ false
  · rfl

theorem session_close (c : Console) :
    c.close.session =
      if c.session.isOpen then
        { c.session.resetCompletion with isOpen := false, closedFrame := some c.session.frame }
      else c.session := by
  unfold close
  split
  · exact session_switchInput _ true
  · rfl

/-- The configuration stays what it was. -/
theorem Outcome.config_eq {op : Operation} {c' : Console} (h : Outcome setup c op c') :
    c'.session.config = c.session.config := by
  have hreveal : c.reveal.session.config = c.session.config := by
    rw [session_reveal]
    split <;> rfl
  have hclose : ∀ d : Console, d.close.session.config = d.session.config := by
    intro d
    rw [session_close]
    split <;> rfl
  cases h with
  | revealed => exact hreveal
  | closed => exact hclose c
  | escaped shift => exact hclose _
  | toggled shift =>
    unfold toggle
    split
    · exact hclose c
    · exact hreveal
  | fired shift slot hkey hslot =>
    unfold fire
    split <;> rfl
  | completed shift names d store =>
    rw [Session.complete_eq]
  | _ => rfl

end Console

/-! ## Turns -/

namespace Turn

theorem take_outcome (t : Turn) (s : Session) :
    Console.Outcome t.setup ⟨s, t.host⟩ t.operation (t.operation.perform t.setup ⟨s, t.host⟩) :=
  Console.perform_outcome t.operation ⟨s, t.host⟩

theorem config_takeAll (s : Session) (ts : List Turn) : (takeAll s ts).config = s.config := by
  induction ts generalizing s with
  | nil => rfl
  | cons t ts ih => exact (ih (t.take s)).trans (t.take_outcome s).config_eq

/-- The session after a turn with an event. -/
theorem take_event {t : Turn} {e : InputEvent} (ht : t.operation = .event e) (s : Session) :
    t.take s = ((Console.handleEvent t.setup e).run ⟨s, t.host⟩).2.session := by
  rw [take, ht]
  rfl

/-- The session after a turn with a key that an open console handles. -/
theorem take_keyPress {t : Turn} {s : Session} {key : Key} {shift : Bool}
    (ht : t.operation = .event (.keyPress key shift)) (hkey : key ≠ s.config.toggleKey)
    (hslot : key.slot? = none) (hopen : s.isOpen = true) :
    t.take s = ((Console.handleKey t.setup key shift).run ⟨s, t.host⟩).2.session := by
  rw [take_event ht]
  show ((Console.handlePress t.setup key shift).run ⟨s, t.host⟩).2.session = _
  rw [Console.handlePress_of_open hkey hslot hopen]

end Turn

end DevConsole
