/-
# `DevConsole.Proofs.Session.Invariant` — what holds of a session whatever is done to it

Three parts of a session point into others: the cursor into the line, the shown entry into the
history, and both the history and the scrollback are to stay within what the configuration gives
them.  Nothing ties the parts together when they change.  An edit moves the cursor by leaving it
alone, as it is counted from the end; a submission by the host adds to the history while an entry of
it is shown; completion replaces line and cursor at once.

`Session.Sound` says that all of this fits but for the scrollback.  It holds of a fresh session and
is kept by every change, and so it holds after any number of turns, as commands do not touch these
parts.

The scrollback is another matter.  A command is lent it to change, and may also put another in its
place, which keeps as many lines as it likes (`size_widened`).  So its bound is one for commands
that leave a scrollback of the same capacity (`Turn.KeepsCapacity`), as those do that push and clear.
-/
import Mathlib.Data.List.Chain
import DevConsole.Demo.Game
import DevConsole.Proofs.Command.Output
import DevConsole.Proofs.Session.Operations

namespace DevConsole

/-! ## History and scrollback -/

namespace History

variable {h : History}

theorem size_push_le (hsize : h.size ≤ h.capacity) (line : String) :
    (h.push line).size ≤ h.capacity := by
  unfold push
  split
  · exact List.length_take_le _ _
  · exact hsize

/-- Without a line to spare, the history does not get shorter by remembering one. -/
theorem size_le_push (hsize : h.size ≤ h.capacity) (line : String) :
    h.size ≤ (h.push line).size := by
  unfold push
  split
  · simp only [size, List.length_take, List.length_cons] at hsize ⊢
    omega
  · exact Nat.le_refl _

theorem isChain_push (hchain : h.entries.IsChain (· ≠ ·)) (line : String) :
    (h.push line).entries.IsChain (· ≠ ·) := by
  unfold push
  split
  · rename_i htakes
    refine List.IsChain.take (List.isChain_cons.2 ⟨?_, hchain⟩) _
    rintro newest hnewest rfl
    rw [takes, hnewest] at htakes
    simp at htakes
  · exact hchain

end History

namespace Scrollback

/-- A scrollback that keeps at most `n` lines, and does. -/
structure Keeps (n : Nat) (b : Scrollback) : Prop where
  capacity_eq : b.capacity = n
  size_le : b.size ≤ n

theorem Keeps.push {n : Nat} {b : Scrollback} (hb : b.Keeps n) (line : OutputLine) :
    (b.push line).Keeps n where
  capacity_eq := hb.capacity_eq
  size_le := hb.capacity_eq ▸ b.size_push_le line

theorem Keeps.clear {n : Nat} {b : Scrollback} (hb : b.Keeps n) : b.clear.Keeps n where
  capacity_eq := hb.capacity_eq
  size_le := Nat.zero_le n

/-- A scrollback within its capacity is left as one within the same capacity. -/
def Stays (b b' : Scrollback) : Prop := ∀ n, b.Keeps n → b'.Keeps n

theorem outputs_stays : Outputs Stays where
  refl _ _ := id
  trans hab hbc n := hbc n ∘ hab n
  push _ line _ hb := hb.push line

theorem Editing.stays {b b' : Scrollback} (h : Editing b b') : Stays b b' := by
  intro n hb
  induction h with
  | refl => exact hb
  | tail _ hedit ih =>
    cases hedit with
    | push line => exact ih.push line
    | clear => exact ih.clear

end Scrollback

/-! ## The invariant -/

namespace Session

/-- The parts of a session fit. -/
structure Sound (cfg : Config) (s : Session) : Prop where
  cursor_le : s.cursor ≤ s.buffer.length
  seek_lt : ∀ i, s.seek = some i → i < s.history.size
  size_le : s.history.size ≤ s.history.capacity
  capacity_eq : s.history.capacity = max 1 cfg.maxHistory
  isChain : s.history.entries.IsChain (· ≠ ·)

theorem sound_new (cfg : Config) : (new cfg).Sound cfg where
  cursor_le := Nat.le_refl 0
  seek_lt i h := by cases h
  size_le := Nat.zero_le _
  capacity_eq := rfl
  isChain := .nil

theorem length_after {s : Session} (hs : s.cursor ≤ s.buffer.length) :
    s.after.length = s.cursor := by
  rw [after, insertIndex, List.length_drop]
  omega

variable {cfg : Config} {s s' : Session}

namespace Sound

theorem insert (hs : s.Sound cfg) (c : Char) : (s.insert c).Sound cfg := by
  unfold Session.insert
  split
  · exact hs
  · refine { hs with cursor_le := ?_ }
    have hafter := length_after hs.cursor_le
    show s.cursor ≤ (s.before ++ c :: s.after).length
    rw [List.length_append, List.length_cons]
    omega

theorem backspace (hs : s.Sound cfg) : s.backspace.Sound cfg := by
  refine { hs with cursor_le := ?_ }
  have hafter := length_after hs.cursor_le
  show s.cursor ≤ (s.before.dropLast ++ s.after).length
  rw [List.length_append]
  omega

theorem older (hs : s.Sound cfg) : s.older.Sound cfg := by
  unfold Session.older
  simp only
  split
  · rename_i line hline
    refine { hs with cursor_le := Nat.zero_le _, seek_lt := ?_ }
    intro i hi
    cases hi
    exact (List.getElem?_eq_some_iff.1 hline).1
  · exact hs

theorem newer (hs : s.Sound cfg) : s.newer.Sound cfg := by
  unfold Session.newer
  split
  · rename_i i hi
    refine { hs with cursor_le := Nat.zero_le _, seek_lt := ?_ }
    intro j hj
    cases hj
    exact Nat.lt_of_succ_lt (hs.seek_lt (i + 1) hi)
  · refine { hs with cursor_le := Nat.zero_le _, seek_lt := ?_ }
    intro i hi
    cases hi

/-- A completed line ends in the tail that the cursor stands before. -/
theorem complete (hs : s.Sound cfg) (names : List String) (d : Direction) :
    (s.complete names d).Sound cfg := by
  unfold Session.complete
  split
  · rename_i done e hstep
    refine { hs with cursor_le := ?_ }
    show done.cursor ≤ done.buffer.length
    unfold Completion.Engine.step at hstep
    extract_lets r at hstep
    split at hstep
    · cases hstep
    · cases hstep
      show r.tail.length ≤ (_ ++ r.tail).length
      rw [List.length_append]
      omega
  · exact { hs with }

theorem remembered (hs : s.Sound cfg) (line : String) :
    { s with history := s.history.push line : Session }.Sound cfg where
  cursor_le := hs.cursor_le
  seek_lt i hi := Nat.lt_of_lt_of_le (hs.seek_lt i hi) (History.size_le_push hs.size_le line)
  size_le := by
    rw [History.capacity_push]
    exact History.size_push_le hs.size_le line
  capacity_eq := (History.capacity_push _ _).trans hs.capacity_eq
  isChain := History.isChain_push hs.isChain line

end Sound

/-- A change keeps the parts of a session fitting. -/
theorem Change.sound (h : Change s s') (hs : s.Sound cfg) : s'.Sound cfg := by
  cases h with
  | insert c hopen => exact hs.insert c
  | backspace hopen => exact hs.backspace
  | emptied hopen => exact { hs with cursor_le := Nat.zero_le _ }
  | entered hopen =>
    refine { hs with cursor_le := Nat.zero_le _, seek_lt := ?_ }
    intro i hi
    cases hi
  | older hopen => exact hs.older
  | newer hopen => exact hs.newer
  | left hopen => exact { hs with cursor_le := Nat.min_le_right _ _ }
  | right hopen => exact { hs with cursor_le := Nat.le_trans (Nat.sub_le _ _) hs.cursor_le }
  | completed names d hopen => exact hs.complete names d
  | remembered line => exact hs.remembered line
  | _ => exact { hs with }

theorem Leads.sound (h : Leads s s') (hs : s.Sound cfg) :
    s'.Sound cfg ∧ s.history.size ≤ s'.history.size := by
  induction h with
  | refl => exact ⟨hs, Nat.le_refl _⟩
  | tail _ hchange ih =>
    obtain ⟨hsound, hle⟩ := ih
    refine ⟨hchange.sound hsound, Nat.le_trans hle ?_⟩
    rcases hchange.output_cases.1 with heq | ⟨line, heq⟩
    · rw [heq]
    · rw [heq]
      exact History.size_le_push hsound.size_le line

theorem Leads.keeps {n : Nat} (h : Leads s s') (hs : s.scrollback.Keeps n) :
    s'.scrollback.Keeps n := by
  induction h with
  | refl => exact hs
  | tail _ hchange ih =>
    rcases hchange.output_cases.2 with ⟨heq, -⟩ | ⟨-, line, heq⟩
    · rw [heq]
      exact ih
    · rw [heq]
      exact ih.push line

end Session

/-! ## Turns -/

namespace Console.Turned

variable {cfg : Config} {setup : Setup} {c c' : Console} {line? : Option String}

/-- Whatever a command does to the scrollback, the other parts still fit. -/
theorem sound (h : Turned setup c line? c') (hc : c.session.Sound cfg) :
    c'.session.Sound cfg ∧ c.session.history.size ≤ c'.session.history.size := by
  cases h with
  | quiet h => exact h.sound hc
  | ran h _ =>
    obtain ⟨hsound, hle⟩ := h.sound hc
    exact ⟨{ hsound with }, hle⟩

/-- The scrollback keeps within its bound if commands leave it there. -/
theorem keeps {n : Nat} (h : Turned setup c line? c')
    (hr : ∀ c ∈ setup.registry.commands, c.Writes Scrollback.Stays)
    (hc : c.session.scrollback.Keeps n) : c'.session.scrollback.Keeps n := by
  cases h with
  | quiet h => exact h.keeps hc
  | @ran d line h _ =>
    have hruns : ∀ c, setup.registry.Runs line c → c.Writes Scrollback.Stays :=
      fun c hc => hr c hc.mem
    have hstays := Registry.dispatchLine_writes Scrollback.outputs_stays hruns
      d.session.config.palette ⟨d.host, d.session.scrollback⟩
    exact hstays n (h.keeps hc)

end Console.Turned

namespace Turn

/-- The commands of a turn leave a scrollback of the capacity that they are lent. -/
def KeepsCapacity (t : Turn) : Prop := ∀ c ∈ t.setup.registry.commands, c.Writes Scrollback.Stays

theorem keepsCapacity_of_edits {t : Turn}
    (h : ∀ c ∈ t.setup.registry.commands, c.Writes Scrollback.Editing) : t.KeepsCapacity :=
  fun c hc handler haction palette args env => (h c hc handler haction palette args env).stays

/-- The commands of a fresh console are such. -/
theorem keepsCapacity_of_standard {t : Turn} {cx : Context} {placeholder : Char}
    (h : t.setup.registry = Standard.registry cx placeholder) : t.KeepsCapacity := by
  refine keepsCapacity_of_edits fun c hc => ?_
  rw [h] at hc
  exact Standard.writes_of_mem hc

theorem take_turned (t : Turn) (s : Session) :
    Console.Turned t.setup ⟨s, t.host⟩ (t.operation.line? s)
      (t.operation.perform t.setup ⟨s, t.host⟩) :=
  Console.perform_turned t.operation ⟨s, t.host⟩

theorem sound_takeAll (cfg : Config) (ts : List Turn) : (takeAll (.new cfg) ts).Sound cfg := by
  induction ts using List.reverseRecOn with
  | nil => exact Session.sound_new cfg
  | append_singleton ts t ih =>
    rw [takeAll_concat]
    exact ((t.take_turned _).sound ih).1

theorem keeps_takeAll (cfg : Config) {ts : List Turn} (hts : ∀ t ∈ ts, t.KeepsCapacity) :
    (takeAll (.new cfg) ts).scrollback.Keeps (max 1 cfg.maxLines) := by
  induction ts using List.reverseRecOn with
  | nil => exact ⟨rfl, Nat.zero_le _⟩
  | append_singleton ts t ih =>
    obtain ⟨hts, ht⟩ := List.forall_mem_append.1 hts
    rw [takeAll_concat]
    exact (t.take_turned _).keeps (List.forall_mem_singleton.1 ht) (ih hts)

/-- Whatever is done to a session, its cursor stands in the line, the entry that it shows is one of
the history, and the history keeps within its bound, without an entry twice in a row and without
getting shorter.  The scrollback keeps within its bound as well, as long as no command leaves one of
another capacity. -/
theorem takeAll_invariant (cfg : Config) (ts : List Turn) :
    (takeAll (.new cfg) ts).cursor ≤ (takeAll (.new cfg) ts).buffer.length ∧
    (∀ i, (takeAll (.new cfg) ts).seek = some i → i < (takeAll (.new cfg) ts).history.size) ∧
    (takeAll (.new cfg) ts).history.size ≤ max 1 cfg.maxHistory ∧
    (takeAll (.new cfg) ts).history.entries.IsChain (· ≠ ·) ∧
    (∀ t, (takeAll (.new cfg) ts).history.size ≤ (takeAll (.new cfg) (ts ++ [t])).history.size) ∧
    ((∀ t ∈ ts, t.KeepsCapacity) →
      (takeAll (.new cfg) ts).scrollback.size ≤ max 1 cfg.maxLines) := by
  have hs := sound_takeAll cfg ts
  refine ⟨hs.cursor_le, hs.seek_lt, hs.capacity_eq ▸ hs.size_le, hs.isChain, ?_, ?_⟩
  · intro t
    rw [takeAll_concat]
    exact ((t.take_turned _).sound hs).2
  · intro hts
    exact (keeps_takeAll cfg hts).size_le

/-- A letter is completed to a command, and the line is entered, fetched from the history, and gone
into. -/
def recalled : List Turn :=
  let setup : Setup := { Setup.new {} Game.world .null with registry := ⟨[Standard.clear]⟩ }
  [.print "x", .reveal, .event (.text 'c'), .event (.press .tab), .event (.press .enter),
    .event (.press .up), .event (.press .left)].map (.mk setup {} ·)

/-- The line that this leaves is where the theorem puts the cursor and the shown entry, and the
command keeps to the scrollback. -/
theorem takeAll_invariant_recalled :
    let s := takeAll (.new {}) recalled
    (s.buffer, s.cursor, s.seek, s.history.entries) = ("clear".toList, 1, some 0, ["clear"]) ∧
      (∀ t ∈ recalled, t.KeepsCapacity) ∧
      s.cursor ≤ s.buffer.length ∧ 0 < s.history.size ∧ s.scrollback.size ≤ 100 := by
  intro s
  have hkeeps : ∀ t ∈ recalled, t.KeepsCapacity := by
    intro t ht
    obtain ⟨op, -, rfl⟩ := List.mem_map.1 ht
    exact keepsCapacity_of_edits (List.forall_mem_singleton.2 Standard.clear_writes)
  have hline : (s.buffer, s.cursor, s.seek, s.history.entries) =
      ("clear".toList, 1, some 0, ["clear"]) := by
    decide +kernel
  have hseek : s.seek = some 0 := congrArg (·.2.2.1) hline
  obtain ⟨hcursor, hshown, -, -, -, hbound⟩ := takeAll_invariant {} recalled
  exact ⟨hline, hkeeps, hcursor, hshown 0 hseek, hbound hkeeps⟩

/-- A command that puts a larger scrollback in place of the one it is lent, and prints on it. -/
def widenCommand : Command where
  name := "widen"
  help := ""
  params := []
  action := .run fun palette _ => Act.modify fun env =>
    let wide : Environment := { env with scrollback := .empty 500 }
    (wide.print palette.outputColor "one").print palette.outputColor "two"

/-- Of a console that is to keep one line, two are left. -/
theorem size_widened :
    let setup : Setup := { Setup.new {} Game.world .null with registry := ⟨[widenCommand]⟩ }
    max 1 ({ maxLines := 1 } : Config).maxLines <
      (takeAll (.new { maxLines := 1 }) [⟨setup, {}, .submit "widen"⟩]).scrollback.size := by
  decide +kernel

end Turn

end DevConsole
