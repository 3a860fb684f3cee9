/-
The scrollback: lines of output with their colors, newest first, up to a capacity.
-/
import DevConsole.Color

namespace DevConsole

/-- A line of output. -/
structure OutputLine where
  text : String
  color : Color
deriving Repr, DecidableEq

/-- The newest lines of output. -/
structure Scrollback where
  /-- The lines, newest first. -/
  lines : List OutputLine
  capacity : Nat
deriving Repr, DecidableEq

namespace Scrollback

/-- The bytes that the place of one line takes; the text itself is kept elsewhere. -/
def linePlace : Nat := 32

/-- Whether places for that many lines can be set aside at once: all of them lie in one block of
memory, and no block has 2 ^ 63 bytes. -/
def canReserve (capacity : Nat) : Bool := capacity * linePlace < Nat.pow 2 63

/-- An empty scrollback.  It keeps at least one line. -/
def empty (capacity : Nat) : Scrollback := ⟨[], max 1 capacity⟩

/-- Add a line; the oldest goes when there is no room. -/
def push (b : Scrollback) (line : OutputLine) : Scrollback :=
  { b with lines := (line :: b.lines).take b.capacity }

/-- Drop all lines. -/
def clear (b : Scrollback) : Scrollback := { b with lines := [] }

/-- The number of lines. -/
def size (b : Scrollback) : Nat := b.lines.length

/-- The line at an index, counted from the newest. -/
def get? (b : Scrollback) (i : Nat) : Option OutputLine := b.lines[i]?

/-- At most `count` lines from `offset` on, newest first. -/
def window (b : Scrollback) (offset count : Nat) : List OutputLine :=
  (b.lines.drop offset).take count

/-- Of what was kept already, the newest that stay are the newest there are. -/
theorem take_append_take {α : Type} (xs ys : List α) (n : Nat) :
    (xs ++ ys.take n).take n = (xs ++ ys).take n := by
  rw [List.take_append, List.take_append, List.take_take, Nat.min_eq_left (Nat.sub_le _ _)]

/-- A push keeps the scrollback within its capacity. -/
theorem size_push_le (b : Scrollback) (line : OutputLine) : (b.push line).size ≤ b.capacity := by
  simp only [push, size, List.length_take]
  omega

@[simp] theorem capacity_push (b : Scrollback) (line : OutputLine) :
    (b.push line).capacity = b.capacity := rfl

@[simp] theorem capacity_clear (b : Scrollback) : b.clear.capacity = b.capacity := rfl

end Scrollback

end DevConsole
