/-
The history of submitted lines, newest first, without a line that repeats the one before it.
-/

namespace DevConsole

/-- The newest submitted lines. -/
structure History where
  /-- The lines, newest first. -/
  entries : List String
  capacity : Nat
deriving Repr, DecidableEq

namespace History

/-- An empty history.  It keeps at least one line. -/
def empty (capacity : Nat) : History := ⟨[], max 1 capacity⟩

/-- Whether a line would be added: it differs from the newest one. -/
def takes (h : History) (line : String) : Bool := h.entries.head? != some line

/-- Add a line, unless it repeats the newest one; the oldest goes when there is no room. -/
def push (h : History) (line : String) : History :=
  if h.takes line then { h with entries := (line :: h.entries).take h.capacity } else h

/-- The number of lines. -/
def size (h : History) : Nat := h.entries.length

/-- The line at an index, counted from the newest. -/
def get? (h : History) (i : Nat) : Option String := h.entries[i]?

@[simp] theorem capacity_push (h : History) (line : String) :
    (h.push line).capacity = h.capacity := by
  unfold push
  split <;> rfl

end History

end DevConsole
