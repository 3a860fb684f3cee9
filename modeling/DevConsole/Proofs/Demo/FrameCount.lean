/-
# `DevConsole.Proofs.Demo.FrameCount` — the frame counter counts the ticks that are not paused

The application plays one line of input after another.  With each the game advances by a frame, and
then the console handles the events written in the line, which may run commands, complete words and
fire function keys, and so evaluate anything at all.  None of it reaches the counter or replaces the
player, none of it leaves the game in use, so that the next tick would be skipped, and none of it
ends the application (`Application.frame_counts_unpaused`).

What is carried from line to line is `Game.At`, the game with its counter at `n`.  A tick takes it
to `n + 1`, or leaves it at `n` if the game is paused; what the console does leaves it at `n`, since
it keeps to `Game.Keeps`.
-/
import DevConsole.Demo.Application
import DevConsole.Proofs.Demo.Objects
import DevConsole.Proofs.Session.Objects

namespace DevConsole

namespace Game

/-- The truth value of whether the game is paused is false. -/
def unpaused (s : Store) : Bool :=
  match s.at? (.slot root "paused") with
  | some (.bool paused) => !paused
  | _ => false

/-- The game has its counter at `n`, has the player that it began with, and is not in use. -/
structure At (n : Nat) (s : Store) : Prop where
  intact : Intact s
  frame : s.at? (.slot root "frame") = some (.int (.ofNat n))
  paused : ∃ b, s.at? (.slot root "paused") = some (.bool b)

variable {n : Nat} {s s' : Store}

theorem At.player (h : At n s) : s.at? (.slot root "player") = some (.object hero) := by
  obtain ⟨o, ho, -, -, -, hplayer⟩ := h.intact.hasGame
  rw [Store.at?_slot ho, hplayer]

/-- What evaluation does leaves the game with its counter where it was. -/
theorem At.keeps (h : At n s) (hkeeps : Keeps s s') : At n s' := by
  obtain ⟨hintact, hframe, hpaused⟩ := h
  obtain ⟨o, ho, -⟩ := hintact.hasGame
  rw [Store.at?_slot ho] at hframe hpaused
  obtain ⟨o', ho', hkept⟩ := hkeeps.old root o ho
  refine ⟨hintact.keeps hkeeps, ?_, ?_⟩
  · rw [Store.at?_slot ho', hkept.frame_eq, hframe]
  · rw [Store.at?_slot ho']
    exact hkept.paused hpaused

/-- A tick is not skipped, and is counted if the game is not paused. -/
theorem At.advance (h : At n s) :
    ∃ s', (advance (.object root)).run s = (.ok (), s') ∧
      At (n + if unpaused s then 1 else 0) s' := by
  obtain ⟨hintact, hframe, b, hpaused⟩ := h
  obtain ⟨o, ho, hrun, hintact'⟩ := hintact.advance
  have ho' := Store.object?_setObject_self (tick o) ho
  have hunpaused : unpaused s = !b := by rw [unpaused, hpaused]
  rw [Store.at?_slot ho] at hframe hpaused
  refine ⟨_, hrun, hintact', ?_, b, ?_⟩
  · rw [Store.at?_slot ho', hunpaused]
    cases b with
    | true =>
      rw [tick, hpaused]
      exact hframe
    | false =>
      rw [tick, hpaused, intSlot, hframe]
      simp only [o.slot?_setSlot_self]
      show _ = some (Value.int (.ofNat (n + 1)))
      rw [Int64.ofNat_add]
      rfl
  · rw [Store.at?_slot ho']
    obtain ⟨-, -, hslots⟩ := tick_eq o
    rw [hslots "paused" (by decide), hpaused]

end Game

namespace Application

/-- The application has just been connected to a new game; what state its console is in is left
open. -/
structure Fresh (c : Config) (a : Application) : Prop where
  setup_eq : a.setup = (new c).setup
  store_eq : a.console.host.store = (new c).console.host.store

/-- The game is not paused when the next line is played. -/
def unpaused (a : Application) : Bool := Game.unpaused a.console.host.store

/-- Play lines one after another. -/
def playLines : List (List Char) → Act Application Unit
  | [] => pure ()
  | l :: ls => do
    play l
    playLines ls

/-- How many ticks of some lines find the game not paused. -/
def unpausedTicks : List (List Char) → Application → Nat
  | [], _ => 0
  | l :: ls, a => (if a.unpaused then 1 else 0) + unpausedTicks ls ((play l).run a).2

/-- The application is connected to the game, which has its counter at `n`. -/
structure Runs (c : Config) (n : Nat) (a : Application) : Prop where
  setup_eq : a.setup = (new c).setup
  game : Game.At n a.console.host.store

variable {c : Config} {n : Nat} {a : Application}

/-! ## One line -/

/-- Events are handled to their end, and do to the objects what evaluation does. -/
theorem update_run {R : Store → Store → Prop} (hR : Steps R) (h : a.setup.KeepsTo R)
    (es : List InputEvent) :
    ∃ a', (update es).run a = (.ok (), a') ∧ a'.setup = a.setup ∧
      R a.console.host.store a'.console.host.store := by
  obtain ⟨c', hrun, hstore⟩ := Console.update_run hR h es a.console
  refine ⟨{ a with console := c' }, ?_, rfl, hstore⟩
  rw [Act.run, update, show Console.update a.setup es a.console = _ from hrun]

theorem setup_tick (a : Application) : a.tick.setup = a.setup := by
  unfold tick
  split <;> rfl

/-- A tick does to the objects what advancing the game does, and to advance may also fail. -/
theorem store_tick (a : Application) : a.tick.console.host.store =
    ((Game.advance a.setup.context.root).run a.console.host.store).2 := by
  have hrun := Console.run_onStore (Game.advance a.setup.context.root) a.console
  rw [tick]
  split
  all_goals
    rename_i heq
    rw [Act.run, heq] at hrun
    exact congrArg (fun result => result.2.host.store) hrun

theorem keepsTo_setup (h : a.setup = (new c).setup) : a.setup.KeepsTo Game.Keeps := by
  rw [h]
  exact ⟨⟨c.placeholder, rfl⟩, Game.evaluate_keepsTo_keeps rfl⟩

theorem tick_runs (h : Runs c n a) :
    ((Console.onStore (Game.advance a.setup.context.root)).run a.console).1 = .ok () ∧
      Runs c (n + if a.unpaused then 1 else 0) a.tick := by
  obtain ⟨s', hadvance, hgame⟩ := h.game.advance
  have hroot : a.setup.context.root = .object Game.root := by
    rw [h.setup_eq]
    rfl
  rw [← hroot] at hadvance
  refine ⟨?_, a.setup_tick.trans h.setup_eq, ?_⟩
  · rw [Console.run_onStore, show Game.advance _ a.console.host.store = _ from hadvance]
  · rw [store_tick, hadvance]
    exact hgame

/-- A line is played to its end, and counts if the game was not paused. -/
theorem play_run (h : Runs c n a) (line : List Char) :
    ∃ a', (play line).run a = (.ok (), a') ∧
      Runs c (n + if a.unpaused then 1 else 0) a' := by
  obtain ⟨hsetup, hgame⟩ := (tick_runs h).2
  obtain ⟨a', hrun, hsetup', hkeeps⟩ :=
    update_run Game.steps_keeps (keepsTo_setup hsetup) (Script.lineEvents line)
  exact ⟨a', hrun, hsetup'.trans hsetup, hgame.keeps hkeeps⟩

/-! ## Many lines -/

theorem playLines_run (h : Runs c n a) (lines : List (List Char)) :
    ∃ a', (playLines lines).run a = (.ok (), a') ∧ Runs c (n + unpausedTicks lines a) a' := by
  induction lines generalizing n a with
  | nil => exact ⟨a, rfl, h⟩
  | cons line lines ih =>
    obtain ⟨a₁, hplay, hruns⟩ := play_run h line
    obtain ⟨a', hrest, hruns'⟩ := ih hruns
    refine ⟨a', ?_, ?_⟩
    · show (play line >>= fun _ => playLines lines).run a = _
      rw [Act.run_bind, hplay]
      exact hrest
    · rw [unpausedTicks, hplay, ← Nat.add_assoc]
      exact hruns'

theorem Fresh.runs (h : Fresh c a) : Runs c 0 a := by
  refine ⟨h.setup_eq, ?_⟩
  rw [h.store_eq]
  exact ⟨Game.intact_newGame, rfl, false, rfl⟩

/-- Binding the keys of a new application and opening its console leaves it fresh. -/
theorem fresh_start (c : Config) : Fresh c (start c).2 := by
  have hbind : ∀ (bs : List (Nat × String)) (a : Application), Fresh c a →
      a.console.session.config = c →
      Fresh c (bs.foldl (fun a b => a.bind b.1 b.2) a) ∧
        (bs.foldl (fun a b => a.bind b.1 b.2) a).console.session.config = c := by
    intro bs
    induction bs with
    | nil => exact fun a h hconfig => ⟨h, hconfig⟩
    | cons b bs ih =>
      exact fun a h hconfig => ih (a.bind b.1 b.2) ⟨h.setup_eq, h.store_eq⟩ hconfig
  have hnew : Fresh c (new c) := ⟨rfl, rfl⟩
  unfold start
  split
  · obtain ⟨hbound, hconfig⟩ := hbind bindings (new c) hnew rfl
    generalize bindings.foldl (fun a b => a.bind b.1 b.2) (new c) = a at hbound hconfig
    refine ⟨hbound.setup_eq, ?_⟩
    have hstore := Console.store_update_toggle a.setup a.console
    rw [hconfig] at hstore
    exact hstore.trans hbound.store_eq
  · exact hnew

/-- Whatever lines are played from a fresh application, as the one is that has just been started:
each of them is played to its end; after them the counter of the game stands at the number of ticks
that found the game not paused, its player is the one that it began with, and the next tick is not
skipped. -/
theorem frame_counts_unpaused (c : Config) :
    Fresh c (start c).2 ∧
    ∀ a, Fresh c a → ∀ lines, ∃ a', (playLines lines).run a = (.ok (), a') ∧
      a'.console.host.store.at? (.slot Game.root "frame") =
        some (.int (.ofNat (unpausedTicks lines a))) ∧
      a'.console.host.store.at? (.slot Game.root "player") = some (.object Game.hero) ∧
      ((Console.onStore (Game.advance a'.setup.context.root)).run a'.console).1 = .ok () := by
  refine ⟨fresh_start c, ?_⟩
  intro a h lines
  obtain ⟨a', hrun, hruns⟩ := playLines_run h.runs lines
  rw [Nat.zero_add] at hruns
  exact ⟨a', hrun, hruns.game.frame, hruns.game.player, (tick_runs hruns).1⟩

/-- Lines that pause the game for two ticks. -/
def pausing : List (List Char) :=
  ["call paused = true", "call player.Heal(5)", "<f3>", "call Frame = 7"].map String.toList

/-- Of the four ticks, the first and the last are counted. -/
theorem frame_counts_unpaused_pausing :
    Fresh {} (start {}).2 ∧
    ∃ a', (playLines pausing).run (start {}).2 = (.ok (), a') ∧
      a'.console.host.store.at? (.slot Game.root "frame") = some (.int 2) ∧
      a'.console.host.store.at? (.slot Game.root "player") = some (.object Game.hero) ∧
      ((Console.onStore (Game.advance a'.setup.context.root)).run a'.console).1 = .ok () := by
  obtain ⟨hfresh, hcounts⟩ := frame_counts_unpaused {}
  obtain ⟨a', hrun, hframe, hrest⟩ := hcounts _ hfresh pausing
  have hticks : unpausedTicks pausing (start {}).2 = 2 := by decide +kernel
  rw [hticks] at hframe
  exact ⟨hfresh, a', hrun, hframe, hrest⟩

end Application

end DevConsole
