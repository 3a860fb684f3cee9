/-
Character classes of expressions, and word boundaries in a line that need not be complete.

The lexer and tab completion share the classes.  Completion works on lines that do not parse, so
the boundaries here are found by looking at characters alone; all positions count characters, and a
position beyond the end counts as the end.
-/
import DevConsole.Text.CharClass

namespace DevConsole

namespace Scan

/-- The characters that operators and assignments are made of. -/
def isOperatorChar (c : Char) : Bool :=
  ['=', '!', '<', '>', '+', '-', '*', '/', '&', '|', '^', '%'].contains c

/-- Operator characters, and those of member access, grouping and argument lists. -/
def isDelimiter (c : Char) : Bool :=
  isOperatorChar c || ['.', '(', ')', ','].contains c

/-- The characters that end a word. -/
def isWordBreak (c : Char) : Bool :=
  isDelimiter c || Text.isBlank c || c == '@' || c == '"'

/-- A character that a name may start with. -/
def isNameStart (c : Char) : Bool :=
  Text.isAlphabetic c || c == '_'

/-- A character that a name may go on with. -/
def isNameChar (c : Char) : Bool :=
  Text.isAlphanumeric c || c == '_'

/-- Whether the text is a name from start to end. -/
def isName (cs : List Char) : Bool :=
  match cs with
  | [] => false
  | c :: r => isNameStart c && r.all isNameChar

/-- Where the word that ends at the cursor starts. -/
def wordStart (cs : List Char) (cursor : Nat) : Nat :=
  let before := cs.take cursor
  before.length - (before.reverse.takeWhile (!isWordBreak ·)).length

/-- Where the word that holds the cursor ends. -/
def wordEnd (cs : List Char) (cursor : Nat) : Nat :=
  min cursor cs.length + ((cs.drop cursor).takeWhile (!isWordBreak ·)).length

/-- How many of the parentheses opened before a position are still open there; a closing one that
matches nothing is ignored. -/
def depthAt (cs : List Char) (pos : Nat) : Nat :=
  (cs.take pos).foldl
    (fun depth c => if c = '(' then depth + 1 else if c = ')' then depth - 1 else depth) 0

/-- A character that ends a member chain where no parenthesis is open. -/
def endsChain (c : Char) : Bool :=
  isDelimiter c || Text.isBlank c || c == '@'

/-- How far a member chain reaches back into the characters before its end, nearest first.  Inside
parentheses everything belongs to the chain; outside them it stops at the first character, other
than a dot, that cannot be part of a name. -/
def chainLength : Nat → List Char → Nat
  | _, [] => 0
  | depth, c :: cs =>
    if c = ')' then chainLength (depth + 1) cs + 1
    else if c = '(' then
      match depth with
      | 0 => 0
      | d + 1 => chainLength d cs + 1
    else if c = '.' then chainLength depth cs + 1
    else if depth = 0 && endsChain c then 0
    else chainLength depth cs + 1

/-- Where the member chain that ends at a position starts. -/
def chainStart (cs : List Char) (stop : Nat) : Nat :=
  let before := cs.take stop
  before.length - chainLength 0 before.reverse

/-- The last character before a position that is not blank. -/
def precedingChar? (cs : List Char) (pos : Nat) : Option Char :=
  (cs.take pos).reverse.find? (!Text.isBlank ·)

/-! ## Bounds -/

theorem chainLength_le (depth : Nat) (cs : List Char) : chainLength depth cs ≤ cs.length := by
  induction cs generalizing depth with
  | nil => simp [chainLength]
  | cons c cs ih =>
    unfold chainLength
    have := ih (depth + 1)
    have := ih depth
    simp only [List.length_cons]
    repeat' split
    all_goals try omega
    rename_i d _
    have := ih d
    omega

/-- A word starts no later than the cursor. -/
theorem wordStart_le (cs : List Char) (cursor : Nat) : wordStart cs cursor ≤ cursor := by
  simp only [wordStart, List.length_take]
  omega

/-- A word ends no earlier than the cursor, which is cut off at the end of the line. -/
theorem le_wordEnd (cs : List Char) (cursor : Nat) : min cursor cs.length ≤ wordEnd cs cursor := by
  simp only [wordEnd]
  omega

end Scan

end DevConsole
