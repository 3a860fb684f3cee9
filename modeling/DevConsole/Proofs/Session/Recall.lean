/-
# `DevConsole.Proofs.Session.Recall` — history and scrollback keep the newest

Both are lists with the newest first and a bound, which is at least one.  Nothing that was dropped
comes back, and so it does not matter that lines are dropped one at a time: what is kept is the
beginning of what an unbounded list would hold.

    history       all lines from the newest on, a run of equal ones counted once
    scrollback    the lines printed since it was cleared last, from the newest on

The history compares a line with the newest one that it holds.  As there is always room for one, that
is the line submitted just before, whether or not that one was added (`History.takes_recalling_iff`);
without room for any, the comparison would be with nothing.

A scrollback of more lines than there are places is not made in the first place
(`Scrollback.canReserve`); whatever its bound is, the law is the same.
-/
import DevConsole.Output.Scrollback
import DevConsole.Session.History
import Mathlib.Data.List.Destutter

namespace DevConsole

/-! ## The history -/

namespace History

/-- Submitting some lines, one after the other. -/
def pushAll (h : History) (lines : List String) : History := lines.foldl push h

/-- Submitted lines from the newest on, a run of equal ones as one. -/
def collapsed (lines : List String) : List String := lines.reverse.destutter (· ≠ ·)

theorem head?_destutter' (line : String) (lines : List String) :
    (lines.destutter' (· ≠ ·) line).head? = some line := by
  induction lines with
  | nil => rfl
  | cons next lines ih =>
    rw [List.destutter'_cons]
    split
    · rfl
    · exact ih

theorem head?_collapsed (lines : List String) : (collapsed lines).head? = lines.getLast? := by
  rw [collapsed, ← List.head?_reverse]
  cases lines.reverse with
  | nil => rfl
  | cons newest older => exact head?_destutter' newest older

theorem collapsed_concat_of_eq {lines : List String} {line : String}
    (h : lines.getLast? = some line) : collapsed (lines ++ [line]) = collapsed lines := by
  rw [← List.head?_reverse] at h
  rw [collapsed, collapsed, List.reverse_concat]
  cases hlines : lines.reverse with
  | nil =>
    rw [hlines] at h
    cases h
  | cons newest older =>
    rw [hlines] at h
    obtain rfl := Option.some.inj h
    rw [List.destutter_cons_cons, if_neg (not_not.2 rfl), List.destutter_cons']

theorem collapsed_concat_of_ne {lines : List String} {line : String}
    (h : lines.getLast? ≠ some line) : collapsed (lines ++ [line]) = line :: collapsed lines := by
  rw [← List.head?_reverse] at h
  rw [collapsed, collapsed, List.reverse_concat]
  cases hlines : lines.reverse with
  | nil => rfl
  | cons newest older =>
    have hne : line ≠ newest := by
      rintro rfl
      exact h (by rw [hlines, List.head?_cons])
    rw [List.destutter_cons_cons, if_pos hne, List.destutter_cons']

/-- The history of some submitted lines, with room for `n`. -/
def recalling (n : Nat) (lines : List String) : History := ⟨(collapsed lines).take n, n⟩

theorem recalling_nil (n : Nat) : recalling n [] = ⟨[], n⟩ := by
  simp [recalling, collapsed]

variable {n : Nat} {lines : List String} {line : String}

/-- With room for at least one line, the newest entry is the line submitted last. -/
theorem takes_recalling_iff (hn : 0 < n) :
    (recalling n lines).takes line = false ↔ lines.getLast? = some line := by
  rw [takes, recalling, List.head?_take, if_neg hn.ne', head?_collapsed]
  simp

theorem push_recalling (hn : 0 < n) :
    (recalling n lines).push line = recalling n (lines ++ [line]) := by
  have htakes : (recalling n lines).takes line = false ↔ lines.getLast? = some line :=
    takes_recalling_iff hn
  rw [push]
  split
  · rename_i hnew
    have hne : lines.getLast? ≠ some line := fun h => by rw [htakes.2 h] at hnew; cases hnew
    have hkept := Scrollback.take_append_take [line] (collapsed lines) n
    rw [recalling, recalling, collapsed_concat_of_ne hne]
    exact congrArg (History.mk · n) hkept
  · rename_i hnew
    rw [Bool.not_eq_true, htakes] at hnew
    rw [recalling, recalling, collapsed_concat_of_eq hnew]

theorem pushAll_empty (capacity : Nat) (lines : List String) :
    (empty capacity).pushAll lines = recalling (max 1 capacity) lines := by
  induction lines using List.reverseRecOn with
  | nil => exact (recalling_nil _).symm
  | append_singleton lines line ih =>
    rw [pushAll, List.foldl_concat, ← pushAll, ih, push_recalling (by omega)]

end History

/-! ## The scrollback -/

namespace Scrollback

/-- A change of a scrollback. -/
inductive Change where
  | push (line : OutputLine)
  | clear
deriving DecidableEq

/-- The line that a change adds. -/
def Change.line? : Change → Option OutputLine
  | push line => some line
  | clear => none

def apply (b : Scrollback) : Change → Scrollback
  | .push line => b.push line
  | .clear => b.clear

/-- Some changes, one after the other. -/
def applyAll (b : Scrollback) (changes : List Change) : Scrollback := changes.foldl apply b

/-- The lines pushed after the last clearing, from the newest on. -/
def sinceClear (changes : List Change) : List OutputLine :=
  (changes.reverse.takeWhile (· ≠ .clear)).filterMap Change.line?

theorem sinceClear_concat_push (changes : List Change) (line : OutputLine) :
    sinceClear (changes ++ [.push line]) = line :: sinceClear changes := by
  simp [sinceClear, Change.line?]

theorem sinceClear_concat_clear (changes : List Change) :
    sinceClear (changes ++ [.clear]) = [] := by
  simp [sinceClear]

/-- The scrollback after some changes, with room for `n` lines. -/
def retaining (n : Nat) (changes : List Change) : Scrollback := ⟨(sinceClear changes).take n, n⟩

theorem retaining_nil (n : Nat) : retaining n [] = ⟨[], n⟩ := by
  simp [retaining, sinceClear]

theorem apply_retaining (n : Nat) (changes : List Change) (change : Change) :
    (retaining n changes).apply change = retaining n (changes ++ [change]) := by
  cases change with
  | push line =>
    have hkept := take_append_take [line] (sinceClear changes) n
    rw [retaining, retaining, sinceClear_concat_push]
    exact congrArg (Scrollback.mk · n) hkept
  | clear =>
    rw [retaining, retaining, sinceClear_concat_clear, List.take_nil]
    rfl

theorem applyAll_empty (capacity : Nat) (changes : List Change) :
    (empty capacity).applyAll changes = retaining (max 1 capacity) changes := by
  induction changes using List.reverseRecOn with
  | nil => exact (retaining_nil _).symm
  | append_singleton changes change ih =>
    rw [applyAll, List.foldl_concat, ← applyAll, ih, apply_retaining]

theorem getElem?_window (b : Scrollback) (offset count i : Nat) :
    (b.window offset count)[i]? = if i < count then b.lines[offset + i]? else none := by
  rw [window, List.getElem?_take, List.getElem?_drop]

/-- A window is a run of neighbours. -/
theorem window_isInfix (b : Scrollback) (offset count : Nat) :
    b.window offset count <:+: b.lines :=
  (List.take_prefix _ _).isInfix.trans (List.drop_suffix _ _).isInfix

end Scrollback

/-! ## The law -/

/-- A history holds the newest of the submitted lines, a run of equal ones counted once, and refuses
exactly the line that was submitted just before.  A scrollback holds the newest of the lines pushed
since it was cleared last, and a window on it shows those from the offset on, as many as there are
and as fit in.  Both hold as many as their capacity says, and one if it is zero. -/
theorem keeps_newest (capacity : Nat) :
    (∀ lines : List String,
      ((History.empty capacity).pushAll lines).entries =
        (lines.reverse.destutter (· ≠ ·)).take (max 1 capacity) ∧
      ∀ line, ((History.empty capacity).pushAll lines).takes line = false ↔
        lines.getLast? = some line) ∧
    ∀ changes : List Scrollback.Change,
      let b := (Scrollback.empty capacity).applyAll changes
      b.lines = (Scrollback.sinceClear changes).take (max 1 capacity) ∧
      ∀ offset count, b.window offset count <:+: b.lines ∧ (b.window offset count).length ≤ count ∧
        ∀ i, (b.window offset count)[i]? = if i < count ∧ offset + i < max 1 capacity then
          (Scrollback.sinceClear changes)[offset + i]? else none := by
  constructor
  · intro lines
    rw [History.pushAll_empty]
    exact ⟨rfl, fun line => History.takes_recalling_iff (by omega)⟩
  · intro changes b
    have hb : b = Scrollback.retaining (max 1 capacity) changes :=
      Scrollback.applyAll_empty capacity changes
    refine ⟨by rw [hb, Scrollback.retaining], fun offset count => ⟨?_, ?_, fun i => ?_⟩⟩
    · exact b.window_isInfix offset count
    · exact List.length_take_le _ _
    · rw [b.getElem?_window, hb, Scrollback.retaining, List.getElem?_take, ite_and]

end DevConsole
