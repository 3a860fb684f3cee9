/-
# `DevConsole.Proofs.Session.Operations` — what an operation can do to a session

A host drives a session by seven operations, and an input event alone is one of some twenty things,
down to a function key that runs a command.  Invariants are not to be proved along all of that.
What an operation does to the session is a sequence of small changes (`Session.Change`), each of one
or two fields, and at most one line that is dispatched when they are done (`Console.Turned`):

    frame, opened, closed          beginning a frame, opening and closing
    insert, backspace, emptied     editing the line; these and the next two lines need
    left, right, older, newer      an open console
    completed, scrolled, entered
    reset                          the end of a completion run
    bound, remembered, printed     a binding, an entry of the history, a line of output

Commands have the scrollback of the session and nothing else of it.  So a statement about every
operation is one about every change, and one about what commands do to the scrollback.
-/
import Mathlib.Logic.Relation
import DevConsole.Session.Console

namespace DevConsole

/-! ## Operations -/

/-- What a host does with a session. -/
inductive Operation where
  | beginFrame
  | event (e : InputEvent)
  | reveal
  | close
  | submit (line : String)
  | print (text : String)
  | bind (slot : Nat) (line : String)
deriving Repr

/-- The console after an operation.  Where host code panics, this is what was done before. -/
def Operation.perform (setup : Setup) : Operation → Console → Console
  | beginFrame, c => c.edit (·.beginFrame)
  | event e, c => ((Console.handleEvent setup e).run c).2
  | reveal, c => c.reveal
  | close, c => c.close
  | submit line, c => (Console.submit setup line c).2
  | print text, c => c.edit (·.print text)
  | bind slot line, c => c.edit (·.bind slot line)

/-- The operation is a press of a key, with or without shift. -/
def Operation.Presses (key : Key) (op : Operation) : Prop :=
  ∃ shift, op = .event (.keyPress key shift)

/-- An operation with the connection and the host that it meets. -/
structure Turn where
  setup : Setup
  host : Host
  operation : Operation

namespace Turn

/-- The session after a turn. -/
def take (t : Turn) (s : Session) : Session := (t.operation.perform t.setup ⟨s, t.host⟩).session

/-- The session after some turns. -/
def takeAll (s : Session) (ts : List Turn) : Session := ts.foldl (fun s t => t.take s) s

theorem takeAll_append (s : Session) (ts us : List Turn) :
    takeAll s (ts ++ us) = takeAll (takeAll s ts) us :=
  List.foldl_append

theorem takeAll_concat (s : Session) (ts : List Turn) (t : Turn) :
    takeAll s (ts ++ [t]) = t.take (takeAll s ts) :=
  takeAll_append s ts [t]

end Turn

/-! ## Changes -/

namespace Session

/-! Typing, walking the history and completion have conditions; what they leave alone does not
depend on these. -/

theorem insert_eq (s : Session) (c : Char) : s.insert c =
    { s with buffer := (s.insert c).buffer, completion := (s.insert c).completion } := by
  unfold insert
  split <;> rfl

theorem older_eq (s : Session) : s.older =
    { s with buffer := s.older.buffer, cursor := s.older.cursor, seek := s.older.seek } := by
  unfold older
  simp only
  split <;> rfl

theorem newer_eq (s : Session) : s.newer =
    { s with buffer := s.newer.buffer, cursor := s.newer.cursor, seek := s.newer.seek } := by
  unfold newer
  split <;> rfl

theorem complete_eq (s : Session) (names : List String) (d : Direction) :
    s.complete names d = { s with
      buffer := (s.complete names d).buffer
      cursor := (s.complete names d).cursor
      completion := (s.complete names d).completion } := by
  unfold complete
  split <;> rfl

end Session

/-- A change of a session. -/
inductive Session.Change : Session → Session → Prop where
  | frame (s : Session) : Change s s.beginFrame
  | opened {s : Session} : s.mayOpen = true → Change s { s with isOpen := true, scroll := 0 }
  | closed {s : Session} : s.isOpen = true →
      Change s { s.resetCompletion with isOpen := false, closedFrame := some s.frame }
  | reset (s : Session) : Change s s.resetCompletion
  | insert {s : Session} (c : Char) : s.isOpen = true → Change s (s.insert c)
  | backspace {s : Session} : s.isOpen = true → Change s s.backspace
  | emptied {s : Session} : s.isOpen = true → Change s (s.replaceLine [])
  | entered {s : Session} : s.isOpen = true → Change s { s.replaceLine [] with seek := none }
  | older {s : Session} : s.isOpen = true → Change s s.older
  | newer {s : Session} : s.isOpen = true → Change s s.newer
  | left {s : Session} : s.isOpen = true → Change s s.left
  | right {s : Session} : s.isOpen = true → Change s s.right
  | completed {s : Session} (names : List String) (d : Direction) : s.isOpen = true →
      Change s (s.complete names d)
  | scrolled {s : Session} (delta : Int) : s.isOpen = true → Change s (s.scrollBy delta)
  | bound (s : Session) (slot : Nat) (line : String) : Change s (s.bind slot line)
  | remembered (s : Session) (line : String) : Change s { s with history := s.history.push line }
  | printed (s : Session) (line : OutputLine) :
      Change s { s with scrollback := s.scrollback.push line }

/-- A change adds to the history a line or nothing; to the scrollback also, where the offset into it
may change only without a line to add, and then to one within. -/
theorem Session.Change.output_cases {s s' : Session} (h : Change s s') :
    (s'.history = s.history ∨ ∃ line, s'.history = s.history.push line) ∧
    (s'.scrollback = s.scrollback ∧ (s'.scroll = s.scroll ∨ s'.scroll ≤ s.scrollback.size) ∨
      s'.scroll = s.scroll ∧ ∃ line, s'.scrollback = s.scrollback.push line) := by
  cases h with
  | remembered line => exact ⟨.inr ⟨line, rfl⟩, .inl ⟨rfl, .inl rfl⟩⟩
  | printed line => exact ⟨.inl rfl, .inr ⟨rfl, line, rfl⟩⟩
  | opened hclosed => exact ⟨.inl rfl, .inl ⟨rfl, .inr (Nat.zero_le _)⟩⟩
  | scrolled delta hopen =>
    refine ⟨.inl rfl, .inl ⟨rfl, .inr ?_⟩⟩
    show (max 0 (min (s.scroll + delta) s.scrollback.size)).toNat ≤ s.scrollback.size
    omega
  | insert c hopen =>
    rw [insert_eq]
    exact ⟨.inl rfl, .inl ⟨rfl, .inl rfl⟩⟩
  | older hopen =>
    rw [older_eq]
    exact ⟨.inl rfl, .inl ⟨rfl, .inl rfl⟩⟩
  | newer hopen =>
    rw [newer_eq]
    exact ⟨.inl rfl, .inl ⟨rfl, .inl rfl⟩⟩
  | completed names d hopen =>
    rw [complete_eq]
    exact ⟨.inl rfl, .inl ⟨rfl, .inl rfl⟩⟩
  | _ => exact ⟨.inl rfl, .inl ⟨rfl, .inl rfl⟩⟩

/-- Some changes, one after another. -/
abbrev Session.Leads : Session → Session → Prop := Relation.ReflTransGen Session.Change

/-- The line that an operation dispatches, if there is one. -/
def Operation.line? (s : Session) : Operation → Option String
  | submit line => some line
  | event (.keyPress key _) =>
    if key = s.config.toggleKey then none
    else
      match key.slot? with
      | some slot => s.binding? slot
      | none =>
        if s.isOpen && key = .enter && !s.buffer.isEmpty then some (String.ofList s.buffer)
        else none
  | _ => none

namespace Console

open Session

variable {setup : Setup}

/-- Where an operation ends that makes some changes and then dispatches a line, if there is one; up
to that line, nothing is scrolled. -/
inductive Turned (setup : Setup) (c : Console) : Option String → Console → Prop where
  | quiet {c' : Console} : Leads c.session c'.session → Turned setup c none c'
  | ran {d : Console} {line : String} : Leads c.session d.session →
      d.session.scroll = c.session.scroll → Turned setup c (some line) (dispatchLine setup line d).2

theorem Turned.after {c d c' : Console} {line? : Option String} (h : Turned setup d line? c')
    (hleads : Leads c.session d.session) (hscroll : d.session.scroll = c.session.scroll) :
    Turned setup c line? c' := by
  cases h with
  | quiet h => exact .quiet (hleads.trans h)
  | ran h hscroll' => exact .ran (hleads.trans h) (hscroll'.trans hscroll)

/-- Switching the input of the host is none of the session's business. -/
theorem session_switchInput (c : Console) (enabled : Bool) :
    (c.switchInput enabled).session = c.session := by
  unfold switchInput
  split <;> rfl

theorem reveal_leads (c : Console) : Leads c.session c.reveal.session := by
  unfold reveal
  split
  · rename_i h
    show Leads c.session (switchInput _ false).session
    rw [session_switchInput]
    exact .single (.opened h)
  · exact .refl

theorem close_leads (c : Console) : Leads c.session c.close.session := by
  unfold close
  split
  · rename_i h
    show Leads c.session (switchInput _ true).session
    rw [session_switchInput]
    exact .single (.closed h)
  · exact .refl

theorem toggle_leads (c : Console) : Leads c.session c.toggle.session := by
  unfold toggle
  split
  · exact c.close_leads
  · exact c.reveal_leads

theorem submit_turned (line : String) (c : Console) :
    Turned setup c (some line) (submit setup line c).2 :=
  .ran (.tail (.single (.remembered c.session line)) (.printed _ _)) rfl

theorem fire_turned (slot : Nat) (c : Console) :
    Turned setup c (c.session.binding? slot) (fire setup slot c) := by
  unfold fire
  cases c.session.binding? slot with
  | none => exact .quiet .refl
  | some line => exact .ran .refl rfl

theorem enter_turned {c : Console} (hopen : c.session.isOpen = true) :
    Turned setup c
      (if !c.session.buffer.isEmpty then some (String.ofList c.session.buffer) else none)
      (enter setup c) := by
  unfold enter
  cases c.session.buffer.isEmpty with
  | true => exact .quiet .refl
  | false => exact (submit_turned _ _).after (.single (.entered hopen)) rfl

theorem tab_leads (d : Direction) {c : Console} (hopen : c.session.isOpen = true) :
    Leads c.session ((tab setup d).run c).2.session := by
  have hsession : ((onStore (names setup c)).run c).2.session = c.session := rfl
  unfold tab
  rw [Act.run_bind, Act.run_get]
  simp only
  rw [Act.run_bind]
  rcases hrun : (onStore (names setup c)).run c with ⟨e | ns, c'⟩
  · rw [hrun] at hsession
    show Leads c.session c'.session
    rw [show c'.session = c.session from hsession]
  · rw [hrun] at hsession
    show Leads c.session (c'.session.complete ns d)
    rw [show c'.session = c.session from hsession]
    exact .single (.completed ns d hopen)

theorem handleKey_turned (key : Key) (shift : Bool) {c : Console}
    (hopen : c.session.isOpen = true) :
    Turned setup c
      (if key = .enter && !c.session.buffer.isEmpty then some (String.ofList c.session.buffer)
        else none)
      ((handleKey setup key shift).run c).2 := by
  have hreset : Leads c.session c.session.resetCompletion := .single (.reset c.session)
  cases key with
  | tab => exact .quiet (tab_leads _ hopen)
  | enter =>
    have henter : Turned setup (c.edit (·.resetCompletion)) _ _ := enter_turned hopen
    exact henter.after hreset rfl
  | escape => exact .quiet (hreset.trans (close_leads (c.edit (·.resetCompletion))))
  | backspace => exact .quiet (hreset.tail (.backspace hopen))
  | delete => exact .quiet (hreset.tail (.emptied hopen))
  | up => exact .quiet (hreset.tail (.older hopen))
  | down => exact .quiet (hreset.tail (.newer hopen))
  | left => exact .quiet (hreset.tail (.left hopen))
  | right => exact .quiet (hreset.tail (.right hopen))
  | backquote => exact .quiet hreset
  | function n => exact .quiet hreset

/-- A key press goes one of four ways: the toggle key opens or closes, the key of a slot runs its
line, and any other key is handled in an open console and ignored in a closed one. -/
theorem handlePress_run (setup : Setup) (key : Key) (shift : Bool) (c : Console) :
    (handlePress setup key shift).run c =
      if key = c.session.config.toggleKey then (.ok (), c.toggle)
      else match key.slot? with
        | some slot => (.ok (), fire setup slot c)
        | none =>
          if c.session.isOpen then (handleKey setup key shift).run c else (.ok (), c) := by
  unfold handlePress
  rw [Act.run_bind, Act.run_get]
  simp only
  split
  · rfl
  cases key.slot? with
  | some slot => rfl
  | none =>
    simp only
    split <;> rfl

theorem handlePress_toggleKey (setup : Setup) (shift : Bool) (c : Console) :
    (handlePress setup c.session.config.toggleKey shift).run c = (.ok (), c.toggle) := by
  rw [handlePress_run, if_pos rfl]

theorem handlePress_of_slot {key : Key} {slot : Nat} {c : Console}
    (hkey : key ≠ c.session.config.toggleKey) (hslot : key.slot? = some slot) (shift : Bool) :
    (handlePress setup key shift).run c = (.ok (), fire setup slot c) := by
  rw [handlePress_run, if_neg hkey, hslot]

theorem handlePress_of_open {key : Key} {c : Console} (hkey : key ≠ c.session.config.toggleKey)
    (hslot : key.slot? = none) (hopen : c.session.isOpen = true) (shift : Bool) :
    (handlePress setup key shift).run c = (handleKey setup key shift).run c := by
  rw [handlePress_run, if_neg hkey, hslot]
  exact if_pos hopen

theorem handlePress_turned (key : Key) (shift : Bool) (c : Console) :
    Turned setup c ((Operation.event (.keyPress key shift)).line? c.session)
      ((handlePress setup key shift).run c).2 := by
  rw [handlePress_run, Operation.line?]
  split
  · exact .quiet c.toggle_leads
  cases key.slot? with
  | some slot => exact fire_turned slot c
  | none =>
    simp only
    cases hopen : c.session.isOpen with
    | true =>
      rw [if_pos rfl, Bool.true_and]
      exact handleKey_turned key shift hopen
    | false => exact .quiet .refl

/-- An operation changes a session in small steps, and then dispatches its line. -/
theorem perform_turned (op : Operation) (c : Console) :
    Turned setup c (op.line? c.session) (op.perform setup c) := by
  cases op with
  | beginFrame => exact .quiet (.single (.frame c.session))
  | reveal => exact .quiet c.reveal_leads
  | close => exact .quiet c.close_leads
  | submit line => exact submit_turned line c
  | print text => exact .quiet (.single (.printed c.session _))
  | bind slot line => exact .quiet (.single (.bound c.session slot line))
  | event e =>
    cases e with
    | keyPress key shift => exact handlePress_turned key shift c
    | text ch =>
      refine .quiet ?_
      show Leads c.session (if c.session.isOpen then c.edit (·.insert ch) else c).session
      split
      · rename_i hopen
        exact .single (.insert ch hopen)
      · exact .refl
    | wheel delta =>
      refine .quiet ?_
      show Leads c.session (if c.session.isOpen then c.edit (·.scrollBy delta) else c).session
      split
      · rename_i hopen
        exact .single (.scrolled delta hopen)
      · exact .refl

end Console

end DevConsole
