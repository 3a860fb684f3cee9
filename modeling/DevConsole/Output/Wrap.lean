/-
Word wrapping.

A line that is too long is broken at the last space that fits, or, when its first word is too long
by itself, at the first space after it.  The space goes, and what follows is wrapped in turn.
Breaks that are there already stay.
-/
import DevConsole.Text.Split

namespace DevConsole

namespace Wrap

/-- The place of the first space. -/
def firstSpace? (cs : List Char) : Option Nat :=
  cs.findIdx? (· == ' ')

/-- The place of the last space. -/
def lastSpace? : List Char → Option Nat
  | [] => none
  | c :: cs =>
    match lastSpace? cs with
    | some i => some (i + 1)
    | none => if c = ' ' then some 0 else none

/-- Where to break a line that is longer than the width. -/
def breakAt? (width : Nat) (cs : List Char) : Option Nat :=
  (lastSpace? (cs.take (width + 1))).or (firstSpace? cs)

/-- The lines of a paragraph. -/
def paragraph (width : Nat) (cs : List Char) : List (List Char) :=
  if cs.length ≤ width then [cs]
  else
    match breakAt? width cs with
    | none => [cs]
    | some i => cs.take i :: paragraph width (cs.drop (i + 1))
termination_by cs.length
decreasing_by
  simp only [List.length_drop]
  omega

/-- The lines of a text at a width, which counts as one if it is zero. -/
def lines (width : Nat) (cs : List Char) : List (List Char) :=
  (Text.splitBy (· == '\n') cs).flatMap (paragraph (max 1 width))

/-- A text with line breaks put in at a width. -/
def wrap (width : Nat) (cs : List Char) : List Char :=
  Text.joinWith ['\n'] (lines width cs)

end Wrap

end DevConsole
