/-
# `DevConsole.Proofs.Session.Typing` — a typed line is executed as if it were submitted

A line reaches its command on two ways.  The host may submit it.  Or it is typed, character by
character at the cursor, and then Enter takes it out of the buffer and submits it.

What typing adds up to is stated for any place of the cursor (`Session.foldl_insert`): the characters
stand between what was before the cursor and what was after it, and that the completion run has ended
is all that has changed besides.  From an empty buffer this is the line.  Submitting reads nothing
of a session but its history, its scrollback and its configuration, and so the two ways come to the
same, up to what is emptied by Enter (`Console.update_typed`).
-/
import DevConsole.Proofs.Session.Invariant
import DevConsole.Proofs.Session.Outcome

namespace DevConsole

/-! ## Typing at the cursor -/

namespace Session

variable {s : Session} {ch : Char} {line : List Char}

/-- Whether a character is typed into the line: control characters and those of the toggle key are
not. -/
def Types (s : Session) (ch : Char) : Prop :=
  Text.isControl ch = false ∧ s.isToggleChar ch = false

theorem insert_of_types (h : s.Types ch) :
    s.insert ch = { s.resetCompletion with buffer := s.before ++ ch :: s.after } := by
  rw [insert, h.1, h.2]
  rfl

theorem length_before (s : Session) : s.before.length = s.insertIndex := by
  rw [before, List.length_take]
  exact Nat.min_eq_left (Nat.sub_le _ _)

theorem before_append_after (s : Session) : s.before ++ s.after = s.buffer :=
  List.take_append_drop _ _

/-- With a character typed at it, the cursor has gone on by one. -/
theorem insertIndex_insert (hs : s.cursor ≤ s.buffer.length) (h : s.Types ch) :
    (s.insert ch).insertIndex = s.before.length + 1 := by
  rw [insert_of_types h, length_before]
  show (s.before ++ ch :: s.after).length - s.cursor = s.buffer.length - s.cursor + 1
  rw [List.length_append, List.length_cons, length_before, length_after hs, insertIndex]
  omega

theorem before_insert (hs : s.cursor ≤ s.buffer.length) (h : s.Types ch) :
    (s.insert ch).before = s.before ++ [ch] := by
  rw [before, insertIndex_insert hs h, insert_of_types h]
  show (s.before ++ ch :: s.after).take (s.before.length + 1) = _
  rw [List.take_length_add_append]
  rfl

theorem after_insert (hs : s.cursor ≤ s.buffer.length) (h : s.Types ch) :
    (s.insert ch).after = s.after := by
  rw [after, insertIndex_insert hs h, insert_of_types h]
  show (s.before ++ ch :: s.after).drop (s.before.length + 1) = _
  rw [List.drop_length_add_append]
  rfl

/-- Typed characters stand at the cursor. -/
theorem foldl_insert (hs : s.cursor ≤ s.buffer.length) (h : ∀ ch ∈ line, s.Types ch) :
    (line.foldl insert s).resetCompletion =
      { s.resetCompletion with buffer := s.before ++ (line ++ s.after) } := by
  induction line generalizing s with
  | nil =>
    rw [List.nil_append, before_append_after]
    rfl
  | cons ch line ih =>
    obtain ⟨hch, hline⟩ := List.forall_mem_cons.1 h
    have hinsert := insert_of_types hch
    have hcursor : (s.insert ch).cursor ≤ (s.insert ch).buffer.length := by
      rw [hinsert]
      show s.cursor ≤ (s.before ++ ch :: s.after).length
      rw [List.length_append, List.length_cons, length_after hs]
      omega
    have htypes : ∀ d ∈ line, (s.insert ch).Types d := by
      rw [hinsert]
      exact hline
    rw [List.foldl_cons, ih hcursor htypes, before_insert hs hch, after_insert hs hch, hinsert]
    simp only [List.append_assoc, List.cons_append]
    rfl

/-- Typed into an empty line, they are the line. -/
theorem foldl_insert_of_empty (hbuffer : s.buffer = []) (hcursor : s.cursor = 0)
    (h : ∀ ch ∈ line, s.Types ch) :
    (line.foldl insert s).resetCompletion = { s.resetCompletion with buffer := line } := by
  have hs : s.cursor ≤ s.buffer.length := by
    rw [hcursor]
    exact Nat.zero_le _
  have hbefore : s.before = [] := by
    rw [before, hbuffer, List.take_nil]
  have hafter : s.after = [] := by
    rw [after, hbuffer, List.drop_nil]
  rw [foldl_insert hs h, hbefore, hafter, List.nil_append, List.append_nil]

end Session

/-! ## Typing and Enter -/

namespace Console

variable {setup : Setup} {c : Console}

theorem isOpen_insert (s : Session) (ch : Char) : (s.insert ch).isOpen = s.isOpen := by
  rw [Session.insert_eq]

/-- Typed characters come into the line one after another. -/
theorem handleEvents_text (hopen : c.session.isOpen = true) (line : List Char)
    (es : List InputEvent) :
    (handleEvents setup (line.map .text ++ es)).run c =
      (handleEvents setup es).run (c.edit (line.foldl Session.insert ·)) := by
  induction line generalizing c with
  | nil => rfl
  | cons ch line ih =>
    have hstep : (handleEvent setup (.text ch)).run c = (.ok (), c.edit (·.insert ch)) := by
      show (Except.ok (), if c.session.isOpen then c.edit (·.insert ch) else c) = _
      rw [if_pos hopen]
    have hstill : (c.edit (·.insert ch)).session.isOpen = true := (isOpen_insert _ _).trans hopen
    show (handleEvent setup (.text ch) >>= fun _ => handleEvents setup (line.map .text ++ es)).run c = _
    rw [Act.run_bind, hstep]
    exact ih hstill

/-- Enter submits the line, if there is one, and empties it. -/
theorem handleEvents_enter {s : Session} (hs : c.session.resetCompletion = s)
    (hopen : s.isOpen = true) (hkey : s.config.toggleKey ≠ .enter) (hline : s.buffer ≠ [])
    (shift : Bool) :
    (handleEvents setup [.keyPress .enter shift]).run c =
      (.ok (), (submit setup (String.ofList s.buffer)
        (c.edit fun _ => { s.replaceLine [] with seek := none })).2) := by
  subst hs
  have hopen : c.session.isOpen = true := hopen
  have hkey : .enter ≠ c.session.config.toggleKey := Ne.symm hkey
  have hempty : (c.edit (·.resetCompletion)).session.buffer.isEmpty = false :=
    List.isEmpty_eq_false_iff.2 hline
  have hpress : (handlePress setup .enter shift).run c =
      (.ok (), (c.edit (·.resetCompletion)).enter setup) :=
    handlePress_of_open hkey rfl hopen shift
  show (handlePress setup .enter shift >>= fun _ => pure ()).run c = _
  rw [Act.run_bind, hpress, enter, hempty]
  rfl

/-- A line that is typed into an empty one and entered, in the next frame, is submitted, and the
line is empty again. -/
theorem update_typed (hopen : c.session.isOpen = true)
    (hkey : c.session.config.toggleKey ≠ .enter) (hbuffer : c.session.buffer = [])
    (hcursor : c.session.cursor = 0) {line : List Char} (hne : line ≠ [])
    (hline : ∀ ch ∈ line, c.session.Types ch) (shift : Bool) :
    (update setup (line.map .text ++ [.keyPress .enter shift])).run c =
      (.ok (), (submit setup (String.ofList line) c).2.edit fun s =>
        { s.resetCompletion.replaceLine [] with frame := s.frame + 1, seek := none }) := by
  have htyped := Session.foldl_insert_of_empty (s := c.session.beginFrame) hbuffer hcursor hline
  show (handleEvents setup _).run (c.edit (·.beginFrame)) = _
  have hframe : (c.edit (·.beginFrame)).session.isOpen = true := hopen
  rw [handleEvents_text hframe]
  exact handleEvents_enter (s := { c.session.beginFrame.resetCompletion with buffer := line })
    htyped hopen hkey hne shift

end Console

/-! ## Sessions that have been in use -/

namespace Turn

/-- Whatever has been done to a session, if it is open and its line is empty, then to type a line and
to press Enter is to submit it: history, scrollback and host are the same as if the host had
submitted it, requests, log and objects included, and the line is empty again. -/
theorem typed_executes {cfg : Config} (hkey : cfg.toggleKey ≠ .enter) {ts : List Turn}
    (hopen : (takeAll (.new cfg) ts).isOpen = true)
    (hbuffer : (takeAll (.new cfg) ts).buffer = []) (setup : Setup) (host : Host)
    {line : List Char} (hne : line ≠ [])
    (hline : ∀ ch ∈ line, Text.isControl ch = false ∧
      (cfg.toggleKey = .backquote → ch ≠ '\x60' ∧ ch ≠ '~')) (shift : Bool) :
    ∃ c', (Console.update setup (line.map .text ++ [.keyPress .enter shift])).run
        ⟨takeAll (.new cfg) ts, host⟩ = (.ok (), c') ∧
      let executed := (Console.submit setup (String.ofList line) ⟨takeAll (.new cfg) ts, host⟩).2
      c'.session.history = executed.session.history ∧
      c'.session.scrollback = executed.session.scrollback ∧
      c'.host = executed.host ∧ c'.session.buffer = [] ∧ c'.session.cursor = 0 := by
  have hconfig : (takeAll (.new cfg) ts).config = cfg := config_takeAll _ ts
  have hcursor : (takeAll (.new cfg) ts).cursor = 0 := by
    have hle := (sound_takeAll cfg ts).cursor_le
    rw [hbuffer] at hle
    exact Nat.le_zero.1 hle
  have htypes : ∀ ch ∈ line, (takeAll (.new cfg) ts).Types ch := by
    intro ch hch
    obtain ⟨hcontrol, htoggle⟩ := hline ch hch
    refine ⟨hcontrol, ?_⟩
    rw [Session.isToggleChar, hconfig]
    simpa using htoggle
  have hkey : (takeAll (.new cfg) ts).config.toggleKey ≠ .enter := by
    rw [hconfig]
    exact hkey
  exact ⟨_, Console.update_typed hopen hkey hbuffer hcursor hne htypes shift,
    rfl, rfl, rfl, rfl, rfl⟩

/-- A session of the game that has been opened and in which a line was typed and deleted. -/
def deleted : List Turn :=
  [⟨.new {} Game.world .null, {}, .reveal⟩,
    ⟨.new {} Game.world .null, {}, .event (.text 'x')⟩,
    ⟨.new {} Game.world .null, {}, .event (.press .delete)⟩]

theorem typed_executes_help :
    ({} : Config).toggleKey ≠ .enter ∧ (takeAll (.new {}) deleted).isOpen = true ∧
      (takeAll (.new {}) deleted).buffer = [] ∧
      ∃ c', (Console.update (.new {} Game.world .null)
          ("help".toList.map .text ++ [.keyPress .enter false])).run
            ⟨takeAll (.new {}) deleted, {}⟩ = (.ok (), c') ∧
        c'.session.history.entries = ["help"] ∧ c'.session.buffer = [] := by
  have hopen : (takeAll (.new {}) deleted).isOpen = true := rfl
  have hbuffer : (takeAll (.new {}) deleted).buffer = [] := rfl
  have hplain : ("help".toList.all fun ch => !Text.isControl ch && (ch != '\x60' && ch != '~')) =
      true := rfl
  have hline : ∀ ch ∈ "help".toList, Text.isControl ch = false ∧
      (({} : Config).toggleKey = .backquote → ch ≠ '\x60' ∧ ch ≠ '~') := by
    intro ch hch
    have hch := List.all_eq_true.1 hplain ch hch
    simp only [Bool.and_eq_true, Bool.not_eq_true', bne_iff_ne] at hch
    exact ⟨hch.1, fun _ => hch.2⟩
  have hkey : ({} : Config).toggleKey ≠ .enter := by decide
  obtain ⟨c', hrun, hhistory, -, -, hempty, -⟩ :=
    typed_executes hkey hopen hbuffer (.new {} Game.world .null) {} (by decide) hline false
  refine ⟨hkey, hopen, hbuffer, c', hrun, ?_, hempty⟩
  rw [hhistory]
  rfl

end Turn

end DevConsole
