/-
# `DevConsole.Proofs.Session.HistoryWalk` — Up and Down walk through the history

The session notes the entry of the history that it shows, or none while the line is the user's own.
Up and Down treat the two as one scale, with the live line one step below the newest entry:

    −1          the live line, empty once the walk has come back to it
    0           the newest entry
    n − 1       the oldest one

Up goes a step up the scale and Down a step down, and both stop at its ends (`HistoryWalk.step`).
What is shown at a place of the scale does not depend on the way there (`Session.showing`), and Up
and Down lead from each place to the next (`older_showing`, `newer_showing`).  The line that a walk
starts from is the one exception: it is live and need not be empty.  It stands until the first press
that shows or empties something, and without a history Up never does (`foldl_walk_of_touches`,
`foldl_walk_of_not_touches`).
-/
import DevConsole.Proofs.Session.LineEditing

namespace DevConsole

/-- The operation is a press of Up or Down, or the beginning of a frame. -/
def Operation.Walks (op : Operation) : Prop := op = .beginFrame ∨ op.Presses .up ∨ op.Presses .down

/-! ## The scale -/

namespace HistoryWalk

/-- The place that an operation leads to in a history of `n` entries. -/
def step (n : Nat) (p : Int) : Operation → Int
  | .event (.keyPress .up _) => min (p + 1) (n - 1)
  | .event (.keyPress .down _) => max (p - 1) (-1)
  | _ => p

/-- The place that some operations lead to from the live line. -/
def place (n : Nat) (ops : List Operation) : Int := ops.foldl (step n) (-1)

theorem place_concat (n : Nat) (ops : List Operation) (op : Operation) :
    place n (ops ++ [op]) = step n (place n ops) op :=
  List.foldl_concat _ _ _ _

/-- A walk does not leave the scale. -/
theorem place_bounds (n : Nat) (ops : List Operation) : -1 ≤ place n ops ∧ place n ops < n := by
  induction ops using List.reverseRecOn with
  | nil =>
    rw [place, List.foldl_nil]
    omega
  | append_singleton ops op ih =>
    rw [place_concat]
    unfold step
    split <;> omega

/-- A press that shows an entry or empties the line: any Down, and an Up if there is an entry.  At
the oldest entry an Up shows nothing new, but then another has shown it. -/
def Touches (n : Nat) (op : Operation) : Prop := op.Presses .down ∨ op.Presses .up ∧ 0 < n

end HistoryWalk

/-! ## Places -/

namespace Session

/-- The session with a place of the scale shown. -/
def showing (s : Session) : Int → Session
  | .ofNat i => { s.replaceLine ((s.history.get? i).getD "").toList with seek := some i }
  | .negSucc _ => { s.replaceLine [] with seek := none }

/-- An entry is shown by its line. -/
theorem showing_of_get? {s : Session} {i : Nat} {line : String}
    (h : s.history.get? i = some line) :
    s.showing i = { s.replaceLine line.toList with seek := some i } := by
  show { s.replaceLine ((s.history.get? i).getD "").toList with seek := some i } = _
  rw [h]
  rfl

/-- At any place but that of the live line, an entry is shown. -/
theorem exists_entry {s : Session} {p : Int} (hge : -1 ≤ p) (hlt : p < s.history.size)
    (hp : p ≠ -1) :
    ∃ (i : Nat) (line : String), p = i ∧ (s.showing p).seek = some i ∧
      s.history.get? i = some line ∧ (s.showing p).buffer = line.toList := by
  obtain ⟨i, rfl⟩ : ∃ i : Nat, p = i := Int.eq_ofNat_of_zero_le (by omega)
  have hbound : i < s.history.size := Int.ofNat_lt.1 hlt
  have hline : s.history.get? i = some _ := List.getElem?_eq_getElem hbound
  refine ⟨i, _, rfl, rfl, hline, ?_⟩
  rw [showing_of_get? hline]
  rfl

theorem cursor_showing (s : Session) (p : Int) : (s.showing p).cursor = 0 := by
  cases p <;> rfl

theorem showing_showing (s : Session) (p q : Int) : (s.showing p).showing q = s.showing q := by
  cases p <;> cases q <;> rfl

variable {s : Session} {p : Int}

/-- Up shows the next older entry, if there is one. -/
theorem older_of_next {i : Nat} (h : (s.seek.map (· + 1)).getD 0 = i) :
    s.older = if i < s.history.size then s.showing i else s := by
  have holder : s.older = (s.history.get? i).elim s fun line =>
      { s.replaceLine line.toList with seek := some i } := by
    subst h
    unfold older
    cases s.seek with
    | none =>
      simp only [Option.map_none, Option.getD_none]
      cases s.history.get? 0 <;> rfl
    | some k =>
      simp only [Option.map_some, Option.getD_some]
      cases s.history.get? (k + 1) <;> rfl
  rw [holder]
  cases hline : s.history.get? i with
  | none =>
    have hle : s.history.size ≤ i := List.getElem?_eq_none_iff.1 hline
    rw [if_neg (Nat.not_lt.2 hle)]
    rfl
  | some line =>
    have hlt : i < s.history.size := (List.getElem?_eq_some_iff.1 hline).1
    rw [if_pos hlt, showing_of_get? hline]
    rfl

/-- Down empties the live line. -/
theorem newer_of_live (h : s.seek = none) : s.newer = s.showing (-1) := by
  rw [newer, h]
  rfl

theorem older_showing (hp : -1 ≤ p) (hlt : p < s.history.size) :
    (s.showing p).older = s.showing (min (p + 1) (s.history.size - 1)) := by
  have hseek : (((s.showing p).seek.map (· + 1)).getD 0 : Nat) = p + 1 := by
    cases p with
    | ofNat i => rfl
    | negSucc i =>
      have hi : i = 0 := by omega
      rw [hi]
      rfl
  have hsize : (s.showing p).history.size = s.history.size := by
    cases p <;> rfl
  rw [older_of_next rfl, hsize, showing_showing]
  split
  · rw [hseek]
    congr 1
    omega
  · congr 1
    omega

theorem newer_showing (hp : -1 ≤ p) (hlt : p < s.history.size) :
    (s.showing p).newer = s.showing (max (p - 1) (-1)) := by
  match p with
  | .negSucc i =>
    rw [newer_of_live rfl, showing_showing]
    congr 1
    omega
  | .ofNat 0 => rfl
  | .ofNat (i + 1) =>
    have hmax : max (((i + 1 : Nat) : Int) - 1) (-1) = (i : Int) := by omega
    show s.showing i = s.showing (max (((i + 1 : Nat) : Int) - 1) (-1))
    rw [hmax]

/-! ## Walks -/

/-- What an operation of a walk does to a session. -/
def walk (s : Session) : Operation → Session
  | .event (.keyPress .up _) => s.older
  | .event (.keyPress .down _) => s.newer
  | _ => s

open HistoryWalk

/-- A walk in which nothing is shown or emptied has not begun. -/
theorem foldl_walk_of_not_touches (hseek : s.seek = none) {ops : List Operation}
    (hops : ∀ op ∈ ops, ¬ Touches s.history.size op) :
    ops.foldl walk s = s ∧ place s.history.size ops = -1 := by
  induction ops using List.reverseRecOn with
  | nil => exact ⟨rfl, rfl⟩
  | append_singleton ops op ih =>
    obtain ⟨hops, hop⟩ := List.forall_mem_append.1 hops
    obtain ⟨hwalk, hplace⟩ := ih hops
    have hop := List.forall_mem_singleton.1 hop
    rw [List.foldl_concat, place_concat, hwalk, hplace]
    unfold walk step
    split
    · have hsize : s.history.size = 0 := Nat.eq_zero_of_not_pos fun h => hop (.inr ⟨⟨_, rfl⟩, h⟩)
      rw [older_of_next (i := 0) (by rw [hseek]; rfl), hsize]
      exact ⟨rfl, rfl⟩
    · exact absurd (.inl ⟨_, rfl⟩) hop
    · exact ⟨rfl, rfl⟩

/-- From the first press that shows or empties something, the place alone decides. -/
theorem foldl_walk_of_touches (hseek : s.seek = none) {ops : List Operation}
    (hops : ∃ op ∈ ops, Touches s.history.size op) :
    ops.foldl walk s = s.showing (place s.history.size ops) := by
  induction ops using List.reverseRecOn with
  | nil =>
    obtain ⟨op, hop, -⟩ := hops
    exact absurd hop List.not_mem_nil
  | append_singleton ops op ih =>
    rw [List.foldl_concat, place_concat]
    by_cases hbegun : ∃ op ∈ ops, Touches s.history.size op
    · obtain ⟨hge, hlt⟩ := place_bounds s.history.size ops
      rw [ih hbegun]
      unfold walk step
      split
      · exact older_showing hge hlt
      · exact newer_showing hge hlt
      · rfl
    · -- this press is the first
      have hop : Touches s.history.size op := by
        obtain ⟨op', hmem, htouches⟩ := hops
        rcases List.mem_append.1 hmem with hmem | hmem
        · exact absurd ⟨op', hmem, htouches⟩ hbegun
        · exact List.mem_singleton.1 hmem ▸ htouches
      obtain ⟨hwalk, hplace⟩ := foldl_walk_of_not_touches hseek
        fun op hmem htouches => hbegun ⟨op, hmem, htouches⟩
      rw [hwalk, hplace]
      obtain ⟨shift, rfl⟩ | ⟨⟨shift, rfl⟩, hsize⟩ := hop
      · exact newer_of_live hseek
      · show s.older = s.showing (min (-1 + 1) (s.history.size - 1))
        rw [older_of_next (i := 0) (by rw [hseek]; rfl), if_pos hsize]
        congr 1
        omega

/-! ## Frames and completion -/

/-- The second session differs from the first at most in its frame and its completion. -/
def Like (s s' : Session) : Prop :=
  ∃ frame engine, s' = { s with frame := frame, completion := engine }

variable {s' : Session}

theorem Like.older (h : s.Like s') : s.older.Like s'.older := by
  obtain ⟨frame, engine, rfl⟩ := h
  refine ⟨frame, engine, ?_⟩
  unfold Session.older
  simp only
  split <;> rfl

theorem Like.newer (h : s.Like s') : s.newer.Like s'.newer := by
  obtain ⟨frame, engine, rfl⟩ := h
  refine ⟨frame, engine, ?_⟩
  unfold Session.newer
  simp only
  split <;> rfl

theorem Like.line (h : s.Like s') :
    s'.seek = s.seek ∧ s'.buffer = s.buffer ∧ s'.cursor = s.cursor := by
  obtain ⟨frame, engine, rfl⟩ := h
  exact ⟨rfl, rfl, rfl⟩

/-- A walk keeps the console open, and its keys. -/
theorem walk_frame (s : Session) (op : Operation) :
    (s.walk op).isOpen = s.isOpen ∧ (s.walk op).config = s.config := by
  unfold walk
  split
  · rw [older_eq]
    exact ⟨rfl, rfl⟩
  · rw [newer_eq]
    exact ⟨rfl, rfl⟩
  · exact ⟨rfl, rfl⟩

end Session

/-! ## Turns -/

namespace Turn

variable {s s' : Session}

theorem like_take {t : Turn} (ht : t.operation.Walks) (hlike : s.Like s') (hopen : s.isOpen = true)
    (hup : s.config.toggleKey ≠ .up) (hdown : s.config.toggleKey ≠ .down) :
    (s.walk t.operation).Like (t.take s') := by
  have hreset : s.Like s'.resetCompletion := by
    obtain ⟨frame, engine, rfl⟩ := hlike
    exact ⟨frame, engine.reset, rfl⟩
  have hopen' : s'.isOpen = true := by
    obtain ⟨frame, engine, rfl⟩ := hlike
    exact hopen
  have hconfig : s'.config = s.config := by
    obtain ⟨frame, engine, rfl⟩ := hlike
    rfl
  obtain hframe | ⟨shift, hpress⟩ | ⟨shift, hpress⟩ := ht
  · obtain ⟨frame, engine, rfl⟩ := hlike
    rw [take, hframe]
    exact ⟨frame + 1, engine, rfl⟩
  · rw [take_keyPress hpress (hconfig ▸ hup.symm) rfl hopen', hpress]
    exact hreset.older
  · rw [take_keyPress hpress (hconfig ▸ hdown.symm) rfl hopen', hpress]
    exact hreset.newer

theorem like_takeAll {us : List Turn} (hus : ∀ u ∈ us, u.operation.Walks) (hlike : s.Like s')
    (hopen : s.isOpen = true) (hup : s.config.toggleKey ≠ .up)
    (hdown : s.config.toggleKey ≠ .down) :
    ((us.map (·.operation)).foldl Session.walk s).Like (takeAll s' us) := by
  induction us generalizing s s' with
  | nil => exact hlike
  | cons u us ih =>
    obtain ⟨hu, hus⟩ := List.forall_mem_cons.1 hus
    obtain ⟨hopen', hconfig⟩ := s.walk_frame u.operation
    exact ih hus (like_take hu hlike hopen hup hdown) (hopen'.trans hopen) (hconfig ▸ hup)
      (hconfig ▸ hdown)

/-- Where a walk comes to.  At −1 no entry is shown, and the line is empty if Down has been pressed
at all.  At any other place its entry is noted and is the line.  Without a history, and without
Down, line and cursor are as they were.  In any other walk the cursor is at the end of the line. -/
theorem history_walk {s : Session} (hopen : s.isOpen = true) (hup : s.config.toggleKey ≠ .up)
    (hdown : s.config.toggleKey ≠ .down) (hseek : s.seek = none) {us : List Turn}
    (hus : ∀ u ∈ us, u.operation.Walks) :
    let ops := us.map (·.operation)
    let p := HistoryWalk.place s.history.size ops
    let s' := takeAll s us
    (p = -1 → s'.seek = none) ∧
    (p ≠ -1 → ∃ (i : Nat) (line : String), p = i ∧ s'.seek = some i ∧
      s.history.get? i = some line ∧ s'.buffer = line.toList) ∧
    ((∃ op ∈ ops, op.Presses .down) → p = -1 → s'.buffer = []) ∧
    (s.history.size = 0 → (∀ op ∈ ops, ¬ op.Presses .down) →
      s'.buffer = s.buffer ∧ s'.cursor = s.cursor) ∧
    ((∃ op ∈ ops, op.Presses .down ∨ op.Presses .up ∧ 0 < s.history.size) → s'.cursor = 0) := by
  intro ops p s'
  have hlike : (ops.foldl Session.walk s).Like s' := like_takeAll hus ⟨_, _, rfl⟩ hopen hup hdown
  by_cases htouches : ∃ op ∈ ops, HistoryWalk.Touches s.history.size op
  · obtain ⟨hge, hlt⟩ := HistoryWalk.place_bounds s.history.size ops
    rw [Session.foldl_walk_of_touches hseek htouches] at hlike
    obtain ⟨hshown, hbuffer, hcursor⟩ := hlike.line
    rw [hshown, hbuffer, hcursor]
    refine ⟨fun hp => ?_, Session.exists_entry hge hlt, fun _ hp => ?_, fun hsize hnever => ?_,
      fun _ => s.cursor_showing p⟩
    · rw [show HistoryWalk.place s.history.size ops = -1 from hp]
      rfl
    · rw [show HistoryWalk.place s.history.size ops = -1 from hp]
      rfl
    · obtain ⟨op, hop, hpress | ⟨-, hpos⟩⟩ := htouches
      · exact absurd hpress (hnever op hop)
      · exact absurd hsize (Nat.ne_of_gt hpos)
  · have hnever : ∀ op ∈ ops, ¬ HistoryWalk.Touches s.history.size op :=
      fun op hop htouch => htouches ⟨op, hop, htouch⟩
    obtain ⟨hwalk, hplace⟩ := Session.foldl_walk_of_not_touches hseek hnever
    rw [hwalk] at hlike
    obtain ⟨hshown, hbuffer, hcursor⟩ := hlike.line
    refine ⟨fun _ => hshown.trans hseek, fun hp => absurd hplace hp, fun ⟨op, hop, hpress⟩ => ?_,
      fun _ _ => ⟨hbuffer, hcursor⟩, fun h => absurd h htouches⟩
    exact absurd (.inl hpress) (hnever op hop)

/-- A session of the game that has been opened, and two lines submitted. -/
def submitted : List Turn := opening ++
  [⟨.new {} Game.world .null, {}, .submit "help"⟩, ⟨.new {} Game.world .null, {}, .submit "vsync"⟩]

/-- Up three times, and Down once. -/
def upsAndDown : List Turn := input [.press .up, .press .up, .press .up, .press .down]

/-- With two lines in the history, the third Up stays at the older one, and Down goes back to the
newer. -/
theorem history_walk_upsAndDown :
    (takeAll (.new {}) submitted).isOpen = true ∧ (takeAll (.new {}) submitted).seek = none ∧
      (∀ u ∈ upsAndDown, u.operation.Walks) ∧
      (takeAll (takeAll (.new {}) submitted) upsAndDown).seek = some 0 ∧
      (takeAll (takeAll (.new {}) submitted) upsAndDown).buffer = "vsync".toList := by
  have hopen : (takeAll (.new {}) submitted).isOpen = true := rfl
  have hseek : (takeAll (.new {}) submitted).seek = none := rfl
  have hwalks : ∀ u ∈ upsAndDown, u.operation.Walks := by
    simp [upsAndDown, input, InputEvent.press, Operation.Walks, Operation.Presses]
  obtain ⟨-, hentry, -⟩ :=
    history_walk hopen (by decide) (by decide) hseek hwalks
  have hplace : HistoryWalk.place (takeAll (.new {}) submitted).history.size
      (upsAndDown.map (·.operation)) = 0 := rfl
  rw [hplace] at hentry
  obtain ⟨i, line, hi, hshown, hline, hbuffer⟩ := hentry (by decide)
  obtain rfl : i = 0 := by omega
  have hnewest : (takeAll (.new {}) submitted).history.get? 0 = some "vsync" := rfl
  rw [hnewest] at hline
  cases hline
  exact ⟨hopen, hseek, hwalks, hshown, hbuffer⟩

end Turn

end DevConsole
