/-
# `DevConsole.Proofs.Session.Frame` — the console opens at most once in a frame

A console that has closed is not to open again in the same frame, so that one key press that is
reported twice does not close and open it.  What decides this is the door of the session: whether it
is open, the frame that it last closed in, and the frame that is under way.  An operation does one
of four things to the door:

    frame     the next frame begins
    opens     where this is asked for, unless it is open or has closed in this frame
    closes    this is noted with the frame
    stays     everything else

A door that has closed in the frame under way is spent, and only the next frame changes that.  The
main statement (`opens_once`) draws this out for the operations between two frames; that the first
of them that asks for it opens a closed console rests on closings not being noted in advance.
-/
import Mathlib.Data.List.Induction
import DevConsole.Demo.Game
import DevConsole.Proofs.Session.Outcome

namespace DevConsole

/-- The operation asks to open the console, or it is a press of the toggle key. -/
def Operation.AsksToOpen (toggleKey : Key) : Operation → Prop
  | reveal => True
  | event (.keyPress key _) => key = toggleKey
  | _ => False

/-! ## The door -/

/-- What decides whether the console may open. -/
structure Door where
  isOpen : Bool
  closedFrame : Option Nat
  frame : Nat

namespace Door

/-- The door is closed and has not closed in this frame. -/
def mayOpen (d : Door) : Bool := !d.isOpen && d.closedFrame != some d.frame

/-- The door has closed in this frame. -/
def Spent (d : Door) : Prop := d.isOpen = false ∧ d.closedFrame = some d.frame

/-- The door has not closed in a frame to come. -/
def Timely (d : Door) : Prop := ∀ n, d.closedFrame = some n → n ≤ d.frame

/-- What an operation does to the door. -/
inductive Step (toggleKey : Key) : Operation → Door → Door → Prop where
  | frame (d : Door) : Step toggleKey .beginFrame d { d with frame := d.frame + 1 }
  | stays {op : Operation} {d : Door} : op ≠ .beginFrame →
      (op.AsksToOpen toggleKey → d.mayOpen = false) → Step toggleKey op d d
  | opens {op : Operation} {d : Door} : op.AsksToOpen toggleKey → d.mayOpen = true →
      Step toggleKey op d { d with isOpen := true }
  | closes {op : Operation} {d : Door} : op ≠ .beginFrame → d.isOpen = true →
      Step toggleKey op d { d with isOpen := false, closedFrame := some d.frame }

variable {toggleKey : Key} {op : Operation} {d d' : Door}

/-- A closed door that may not open is spent. -/
theorem mayOpen_or_spent (h : d.isOpen = false) : d.mayOpen = true ∨ d.Spent := by
  unfold mayOpen Spent
  by_cases hframe : d.closedFrame = some d.frame
  · exact .inr ⟨h, hframe⟩
  · exact .inl (by simp [h, hframe])

theorem not_mayOpen_of_spent (h : d.Spent) : d.mayOpen = false := by
  simp [mayOpen, h.2]

/-- A spent door stays so for the rest of the frame. -/
theorem Step.spent (h : Step toggleKey op d d') (hop : op ≠ .beginFrame) (hd : d.Spent) :
    d'.Spent := by
  cases h with
  | frame => exact absurd rfl hop
  | stays => exact hd
  | opens hasks hmay =>
    rw [not_mayOpen_of_spent hd] at hmay
    cases hmay
  | closes hop' hopen =>
    rw [hd.1] at hopen
    cases hopen

/-- Closing spends the door. -/
theorem Step.spent_of_closes (h : Step toggleKey op d d') (hd : d.isOpen = true)
    (hd' : d'.isOpen = false) : d'.Spent := by
  cases h with
  | frame => exact absurd (hd.symm.trans hd') nofun
  | stays => exact absurd (hd.symm.trans hd') nofun
  | opens => cases hd'
  | closes => exact ⟨rfl, rfl⟩

theorem Step.timely (h : Step toggleKey op d d') (hd : d.Timely) : d'.Timely := by
  cases h with
  | frame => exact fun n hn => Nat.le_succ_of_le (hd n hn)
  | stays => exact hd
  | opens => exact hd
  | closes =>
    intro n hn
    cases hn
    exact Nat.le_refl _

/-- At the beginning of a frame, a door that is closed may open. -/
theorem Step.mayOpen_of_frame (h : Step toggleKey .beginFrame d d') (hd : d.Timely)
    (hclosed : d'.isOpen = false) : d'.mayOpen = true := by
  refine (mayOpen_or_spent hclosed).resolve_right fun hspent => ?_
  cases h with
  | frame => exact absurd (hd _ hspent.2) (Nat.not_succ_le_self _)
  | stays hop => exact hop rfl
  | opens hasks => exact hasks
  | closes hop => exact hop rfl

/-- A closed door moves only if that is asked for. -/
theorem Step.eq_of_not_asks (h : Step toggleKey op d d') (hop : op ≠ .beginFrame)
    (hasks : ¬ op.AsksToOpen toggleKey) (hd : d.isOpen = false) : d' = d := by
  cases h with
  | frame => exact absurd rfl hop
  | stays => rfl
  | opens hasks' => exact absurd hasks' hasks
  | closes hop' hopen =>
    rw [hd] at hopen
    cases hopen

/-- If it may and is asked to, it opens. -/
theorem Step.isOpen_of_asks (h : Step toggleKey op d d') (hasks : op.AsksToOpen toggleKey)
    (hd : d.mayOpen = true) : d'.isOpen = true := by
  have hclosed : d.isOpen = false := by
    unfold mayOpen at hd
    simp_all
  cases h with
  | frame => exact hasks.elim
  | stays hop hstays =>
    rw [hstays hasks] at hd
    cases hd
  | opens => rfl
  | closes hop hopen =>
    rw [hclosed] at hopen
    cases hopen

end Door

/-! ## The door of a session -/

/-- The door of a session. -/
def Session.door (s : Session) : Door := ⟨s.isOpen, s.closedFrame, s.frame⟩

namespace Console

variable {setup : Setup} {op : Operation} {c c' : Console}

theorem door_reveal (hasks : op.AsksToOpen c.session.config.toggleKey) :
    Door.Step c.session.config.toggleKey op c.session.door c.reveal.session.door := by
  have hop : op ≠ .beginFrame := by
    rintro rfl
    exact hasks
  rw [session_reveal]
  split
  · rename_i hmay
    exact .opens hasks hmay
  · rename_i hmay
    exact .stays hop fun _ => Bool.eq_false_iff.2 hmay

theorem door_close (d : Console) (hop : op ≠ .beginFrame)
    (hasks : op.AsksToOpen c.session.config.toggleKey → d.session.isOpen = true) :
    Door.Step c.session.config.toggleKey op d.session.door d.close.session.door := by
  rw [session_close]
  split
  · rename_i hopen
    exact .closes hop hopen
  · rename_i hclosed
    exact .stays hop fun h => absurd (hasks h) hclosed

/-- Every operation does one of the four things to the door. -/
theorem Outcome.door (h : Outcome setup c op c') :
    Door.Step c.session.config.toggleKey op c.session.door c'.session.door := by
  cases h with
  | framed => exact .frame _
  | revealed => exact door_reveal trivial
  | closed => exact door_close c nofun nofun
  | toggled shift =>
    unfold toggle
    split
    · rename_i hopen
      exact door_close c nofun fun _ => hopen
    · exact door_reveal rfl
  | escaped shift hkey hopen =>
    exact door_close (c.edit (·.resetCompletion)) nofun fun _ => hopen
  | fired shift slot hkey hslot =>
    unfold fire
    split
    · exact .stays nofun fun hasks => absurd hasks hkey
    · exact .stays nofun fun hasks => absurd hasks hkey
  | completed shift names d store hkey hopen =>
    rw [Session.complete_eq]
    exact .stays nofun fun hasks => absurd hasks hkey
  | entered shift line hkey => exact .stays nofun fun hasks => absurd hasks hkey
  | pressed shift buffer cursor seek hkey => exact .stays nofun fun hasks => absurd hasks hkey
  | panicked shift store hkey => exact .stays nofun fun hasks => absurd hasks hkey
  | ignoredKey shift hkey => exact .stays nofun fun hasks => absurd hasks hkey
  | _ => exact .stays nofun nofun

end Console

/-! ## Turns -/

namespace Turn

/-- A frame begins after the turns: the last of them, if there is one, began it. -/
def StartsFrame (ts : List Turn) : Prop := ∀ t ∈ ts.getLast?, t.operation = .beginFrame

/-- How often in some turns the console becomes open, or closed. -/
def changesTo (becomes : Bool) : Session → List Turn → Nat
  | _, [] => 0
  | s, t :: ts =>
    (if s.isOpen ≠ becomes ∧ (t.take s).isOpen = becomes then 1 else 0) +
      changesTo becomes (t.take s) ts

theorem door_take (t : Turn) (s : Session) :
    Door.Step s.config.toggleKey t.operation s.door (t.take s).door :=
  (t.take_outcome s).door

theorem timely_takeAll (cfg : Config) (ts : List Turn) : (takeAll (.new cfg) ts).door.Timely := by
  induction ts using List.reverseRecOn with
  | nil =>
    intro n hn
    cases hn
  | append_singleton ts t ih =>
    rw [takeAll_concat]
    exact (t.door_take _).timely ih

/-- At the beginning of a frame, a closed console may open. -/
theorem mayOpen_of_startsFrame (cfg : Config) {ts : List Turn} (hstart : StartsFrame ts)
    (hclosed : (takeAll (.new cfg) ts).isOpen = false) :
    (takeAll (.new cfg) ts).door.mayOpen = true := by
  cases ts using List.reverseRecOn with
  | nil => rfl
  | append_singleton ts t =>
    have ht : t.operation = .beginFrame := hstart t List.getLast?_concat
    rw [takeAll_concat] at hclosed ⊢
    have hstep := t.door_take (takeAll (.new cfg) ts)
    rw [ht] at hstep
    exact hstep.mayOpen_of_frame (timely_takeAll cfg ts) hclosed

section Frame

variable {s : Session} {us : List Turn} (hframe : ∀ t ∈ us, t.operation ≠ .beginFrame)
include hframe

theorem spent_takeAll (hs : s.door.Spent) : (takeAll s us).door.Spent := by
  induction us generalizing s with
  | nil => exact hs
  | cons t us ih =>
    obtain ⟨ht, hframe⟩ := List.forall_mem_cons.1 hframe
    exact ih hframe ((t.door_take s).spent ht hs)

/-- Nothing moves a spent door. -/
theorem changesTo_of_spent (hs : s.door.Spent) (becomes : Bool) : changesTo becomes s us = 0 := by
  induction us generalizing s with
  | nil => rfl
  | cons t us ih =>
    obtain ⟨ht, hframe⟩ := List.forall_mem_cons.1 hframe
    have hnext := (t.door_take s).spent ht hs
    have hsame : (t.take s).isOpen = s.isOpen := hnext.1.trans hs.1.symm
    rw [changesTo, ih hframe hnext, hsame, if_neg (fun h => h.1 h.2)]

/-- An open console closes at most once and does not open again. -/
theorem changesTo_of_isOpen (hs : s.isOpen = true) :
    changesTo true s us = 0 ∧ changesTo false s us ≤ 1 := by
  induction us generalizing s with
  | nil => exact ⟨rfl, Nat.zero_le 1⟩
  | cons t us ih =>
    obtain ⟨ht, hframe⟩ := List.forall_mem_cons.1 hframe
    unfold changesTo
    cases hnext : (t.take s).isOpen with
    | true =>
      obtain ⟨hopens, hcloses⟩ := ih hframe hnext
      simp [hs, hopens, hcloses]
    | false =>
      have hspent := (t.door_take s).spent_of_closes hs hnext
      simp [hs, changesTo_of_spent hframe hspent]

theorem changesTo_le_one (becomes : Bool) : changesTo becomes s us ≤ 1 := by
  induction us generalizing s with
  | nil => exact Nat.zero_le 1
  | cons t us ih =>
    cases hs : s.isOpen with
    | true =>
      obtain ⟨hopens, hcloses⟩ := changesTo_of_isOpen hframe hs
      cases becomes with
      | true => exact hopens ▸ Nat.zero_le 1
      | false => exact hcloses
    | false =>
      obtain ⟨ht, hframe⟩ := List.forall_mem_cons.1 hframe
      unfold changesTo
      cases hnext : (t.take s).isOpen with
      | false => simpa [hs] using ih hframe
      | true =>
        obtain ⟨hopens, hcloses⟩ := changesTo_of_isOpen hframe hnext
        cases becomes with
        | true => simp [hs, hopens]
        | false => simpa [hs] using hcloses

/-- As long as nothing asks for it, a closed door stays as it is. -/
theorem door_takeAll_of_not_asks (hs : s.isOpen = false)
    (hasks : ∀ t ∈ us, ¬ t.operation.AsksToOpen s.config.toggleKey) :
    (takeAll s us).door = s.door := by
  induction us using List.reverseRecOn with
  | nil => rfl
  | append_singleton us t ih =>
    obtain ⟨hframe, ht⟩ := List.forall_mem_append.1 hframe
    obtain ⟨hasks, hasksLast⟩ := List.forall_mem_append.1 hasks
    have hdoor := ih hframe hasks
    have hclosed : (takeAll s us).isOpen = false := (congrArg Door.isOpen hdoor).trans hs
    rw [takeAll_concat, ← hdoor]
    refine (t.door_take _).eq_of_not_asks (ht t (List.mem_singleton_self t)) ?_ hclosed
    rw [config_takeAll]
    exact hasksLast t (List.mem_singleton_self t)

end Frame

/-- In the operations between two frames, the console opens at most once and closes at most once,
and once it has closed it stays closed.  If it is closed when the frame begins, the first operation
that asks for it opens it. -/
theorem opens_once (cfg : Config) {ts us : List Turn}
    (hframe : ∀ t ∈ us, t.operation ≠ .beginFrame) :
    changesTo true (takeAll (.new cfg) ts) us ≤ 1 ∧
    changesTo false (takeAll (.new cfg) ts) us ≤ 1 ∧
    (∀ (vs : List Turn) (t : Turn) (ws : List Turn), us = vs ++ t :: ws →
      (takeAll (.new cfg) (ts ++ vs)).isOpen = true →
      (takeAll (.new cfg) (ts ++ vs ++ [t])).isOpen = false →
      ∀ xs, xs <+: ws → (takeAll (.new cfg) (ts ++ vs ++ [t] ++ xs)).isOpen = false) ∧
    (StartsFrame ts → (takeAll (.new cfg) ts).isOpen = false →
      ∀ (vs : List Turn) (t : Turn) (ws : List Turn), us = vs ++ t :: ws →
        (∀ v ∈ vs, ¬ v.operation.AsksToOpen cfg.toggleKey) →
        t.operation.AsksToOpen cfg.toggleKey →
        (takeAll (.new cfg) (ts ++ vs ++ [t])).isOpen = true) := by
  refine ⟨changesTo_le_one hframe true, changesTo_le_one hframe false, ?_, ?_⟩
  · rintro vs t ws rfl hopen hclosed xs hxs
    obtain ⟨-, hrest⟩ := List.forall_mem_append.1 hframe
    obtain ⟨-, hws⟩ := List.forall_mem_cons.1 hrest
    rw [takeAll_concat] at hclosed
    have hspent := (t.door_take _).spent_of_closes hopen hclosed
    rw [takeAll_append, takeAll_concat]
    exact (spent_takeAll (fun x hx => hws x (hxs.subset hx)) hspent).1
  · rintro hstart hclosed vs t ws rfl hvs hasks
    obtain ⟨hframe, -⟩ := List.forall_mem_append.1 hframe
    have hkey : (takeAll (.new cfg) ts).config.toggleKey = cfg.toggleKey :=
      congrArg Config.toggleKey (config_takeAll (.new cfg) ts)
    have hdoor := door_takeAll_of_not_asks (s := takeAll (.new cfg) ts) hframe hclosed
      (hkey ▸ hvs)
    have hmay := mayOpen_of_startsFrame cfg hstart hclosed
    rw [takeAll_concat, takeAll_append]
    refine (t.door_take _).isOpen_of_asks ?_ (hdoor ▸ hmay)
    rw [config_takeAll, hkey]
    exact hasks

/-- The toggle key, pressed a number of times. -/
def toggles (n : Nat) : List Turn :=
  .replicate n ⟨.new {} Game.world .null, {}, .event (.keyPress .backquote false)⟩

/-- Pressed three times in the first frame, the toggle key opens the console once and closes it
once. -/
theorem opens_once_toggles :
    (∀ t ∈ toggles 3, t.operation ≠ .beginFrame) ∧
      changesTo true (.new {}) (toggles 3) ≤ 1 ∧ changesTo false (.new {}) (toggles 3) ≤ 1 ∧
      (takeAll (.new {}) (toggles 1)).isOpen = true := by
  have hframe : ∀ t ∈ toggles 3, t.operation ≠ .beginFrame := by
    intro t ht
    rw [List.eq_of_mem_replicate ht]
    nofun
  have hstart : StartsFrame [] := by
    intro t ht
    cases ht
  obtain ⟨hopens, hcloses, -, hfirst⟩ := @opens_once {} [] _ hframe
  have hopen := hfirst hstart rfl [] _ (toggles 2) rfl (List.forall_mem_nil _) rfl
  exact ⟨hframe, hopens, hcloses, hopen⟩

end Turn

end DevConsole
