/-
Input events, as the host hands them over once per frame.
-/
import DevConsole.Number.Decimal

namespace DevConsole

/-- The keys that the console reacts to. -/
inductive Key where
  | backquote
  | escape
  | enter
  | backspace
  | delete
  | tab
  | up
  | down
  | left
  | right
  | function (n : UInt8)
deriving Repr, DecidableEq

namespace Key

/-- The number of function keys that commands can be bound to. -/
def slots : Nat := 12

/-- The zero-based slot of `F1` to `F12`; no other key has one. -/
def slot? : Key → Option Nat
  | function n => if 1 ≤ n.toNat ∧ n.toNat ≤ slots then some (n.toNat - 1) else none
  | _ => none

/-- The keys other than function keys, with their names. -/
def named : List (String × Key) :=
  [("Backquote", backquote), ("Escape", escape), ("Enter", enter), ("Backspace", backspace),
    ("Delete", delete), ("Tab", tab), ("Up", up), ("Down", down), ("Left", left),
    ("Right", right)]

/-- The name of a key. -/
def name : Key → String
  | backquote => "Backquote"
  | escape => "Escape"
  | enter => "Enter"
  | backspace => "Backspace"
  | delete => "Delete"
  | tab => "Tab"
  | up => "Up"
  | down => "Down"
  | left => "Left"
  | right => "Right"
  | function n => "F" ++ Decimal.natText n.toNat

/-- The key, other than a function key, of a name. -/
def ofName? (s : String) : Option Key :=
  named.lookup s

/-- Reading the name of a key other than a function key gives it back. -/
theorem ofName?_name (k : Key) (h : ∀ n, k ≠ .function n) : ofName? k.name = some k := by
  cases k with
  | function n => exact absurd rfl (h n)
  | _ => decide +kernel

/-- A slot is one of the twelve. -/
theorem slot?_lt {k : Key} {s : Nat} (h : k.slot? = some s) : s < slots := by
  cases k with
  | function n =>
    simp only [slot?] at h
    split at h
    · simp only [Option.some.injEq] at h
      simp only [slots] at *
      omega
    · simp at h
  | _ => simp [slot?] at h

end Key

/-- One event of a frame. -/
inductive InputEvent where
  /-- A character was typed. -/
  | text (c : Char)
  /-- A key was pressed, perhaps with shift. -/
  | keyPress (key : Key) (shift : Bool)
  /-- The wheel moved; positive amounts go toward older lines. -/
  | wheel (delta : Int)
deriving Repr, DecidableEq

/-- A key press without shift. -/
def InputEvent.press (k : Key) : InputEvent := .keyPress k false

end DevConsole
