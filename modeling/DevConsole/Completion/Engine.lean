/-
Tab completion.

Completing a word first asks a question: which commands there are, or which members the chain before
the word has.  The answer makes a run, a list of whole lines up to the end of the word, and further
steps only cycle through that list.  A run keeps the text before and after the word as it was.

The question is computed here and answered elsewhere, so that nothing in this module evaluates.
-/
import DevConsole.Completion.Cycle
import DevConsole.Expr.Scan
import DevConsole.Text.LetterCase
import DevConsole.Text.Split

namespace DevConsole

namespace Completion

/-- What a completion needs to know. -/
inductive Question where
  /-- The names of the commands. -/
  | commands
  /-- The names of the members of a chain, or of the root if the chain is empty. -/
  | members (chain : List Char)
  /-- Nothing; no word fits here. -/
  | nothing
deriving Repr, DecidableEq

/-- A completion under way. -/
structure Run where
  /-- The line up to the cursor when the run began. -/
  lead : List Char
  /-- The rest of the word after the cursor. -/
  suffix : List Char
  /-- The text after the word. -/
  tail : List Char
  /-- The candidates, each a line up to the end of the word, in rising order. -/
  corpus : List (List Char)
  /-- The candidate that is shown. -/
  index : Option Nat
deriving Repr, DecidableEq

/-- A line after a step, with the cursor counted from its end. -/
structure Completed where
  buffer : List Char
  cursor : Nat
deriving Repr, DecidableEq

/-- Completion between presses of the key. -/
structure Engine where
  /-- What a line starts with if it holds an expression. -/
  expressionLead : String
  /-- The character that stands for a space in an expression. -/
  placeholder : Char
  run : Option Run := none
deriving Repr, DecidableEq

/-- Where the expression of a line starts, if the line begins with the lead in any case of its ASCII
letters. -/
def expressionStart? (lead buffer : List Char) : Option Nat :=
  if !lead.isEmpty && Text.equalIgnoringAsciiCase (buffer.take lead.length) lead then
    some lead.length
  else none

/-- The line with placeholders read as spaces from a position on. -/
def normalize (placeholder : Char) (start : Option Nat) (cs : List Char) : List Char :=
  match start with
  | some n => cs.take n ++ (cs.drop n).map fun c => if c = placeholder then ' ' else c
  | none => cs

/-- Whether the keyword `new` stands before a position. -/
def followsNew (cs : List Char) (start : Nat) : Bool :=
  match (Text.trimEnd (cs.take start)).reverse with
  | 'w' :: 'e' :: 'n' :: before =>
    match before with
    | [] => true
    | c :: _ => Scan.isWordBreak c
  | _ => false

/-- The chain before a dot, which is the last character before a position that is not blank. -/
def chainBefore (cs : List Char) (start : Nat) : List Char :=
  let dot := (Text.trimEnd (cs.take start)).length - 1
  Text.trim ((cs.take dot).drop (Scan.chainStart cs dot))

/-- The question for a word of an expression that starts at a position.  Members of the root fit
where an operand may start. -/
def memberQuestion (cs : List Char) (start : Nat) : Question :=
  match Scan.precedingChar? cs start with
  | none => .members []
  | some c =>
    if c = '.' then .members (chainBefore cs start)
    else if c = '(' || c = ',' || Scan.isOperatorChar c then .members []
    else if followsNew cs start then .members []
    else .nothing

/-- The line, cut around the word at the cursor, and the question about it. -/
structure Site where
  before : List Char
  lead : List Char
  suffix : List Char
  tail : List Char
  question : Question
deriving Repr, DecidableEq

namespace Engine

/-- The word at a cursor that is counted from the end of the line. -/
def site (e : Engine) (buffer : List Char) (cursor : Nat) : Site :=
  let pos := buffer.length - cursor
  let exprStart := expressionStart? e.expressionLead.toList buffer
  let normalized := normalize e.placeholder exprStart buffer
  let start := Scan.wordStart normalized pos
  let stop := Scan.wordEnd normalized pos
  { before := buffer.take start
    lead := buffer.take pos
    suffix := (buffer.take stop).drop pos
    tail := buffer.drop stop
    question :=
      match exprStart with
      | some n =>
        if n ≤ start then memberQuestion (normalized.drop n) (start - n) else .commands
      | none => .commands }

/-- The question that the next step asks: none while a run is under way. -/
def question? (e : Engine) (buffer : List Char) (cursor : Nat) : Option Question :=
  match e.run with
  | some _ => none
  | none => some (e.site buffer cursor).question

/-- The names that fit a question: members must be plain names. -/
def fitting (q : Question) (names : List String) : List (List Char) :=
  match q with
  | .commands => names.map String.toList
  | .members _ => (names.map String.toList).filter Scan.isName
  | .nothing => []

/-- Lines in rising order without repetitions. -/
def sortedLines (lines : List (List Char)) : List (List Char) :=
  (lines.mergeSort fun a b => !decide (b < a)).eraseReps

/-- A new run for the word at the cursor, from the names that answer its question. -/
def fresh (e : Engine) (buffer : List Char) (cursor : Nat) (names : List String) : Run :=
  let s := e.site buffer cursor
  { lead := s.lead
    suffix := s.suffix
    tail := s.tail
    corpus := sortedLines ((fitting s.question names).map (s.before ++ ·))
    index := none }

/-- The run under way, or a new one. -/
def current (e : Engine) (buffer : List Char) (cursor : Nat) (names : List String) : Run :=
  match e.run with
  | some r => r
  | none => e.fresh buffer cursor names

/-- Forget the run. -/
def reset (e : Engine) : Engine := { e with run := none }

/-- Whether a candidate is shown. -/
def isActive (e : Engine) : Bool :=
  match e.run with
  | some r => r.index.isSome
  | none => false

/-- The rest of the word after the cursor when the run began. -/
def typedSuffix? (e : Engine) : Option (List Char) := e.run.map (·.suffix)

/-- One step.  The names answer the question of a new run and are not looked at during one.  There
is no completed line if nothing matches. -/
def step (e : Engine) (buffer : List Char) (cursor : Nat) (names : List String) (d : Direction) :
    Option Completed × Engine :=
  let r := e.current buffer cursor names
  match cycle r.corpus r.lead r.index d with
  | none => (none, { e with run := some r })
  | some i =>
    (some ⟨r.corpus.getD i [] ++ r.tail, r.tail.length⟩,
      { e with run := some { r with index := some i } })

@[simp] theorem run_reset (e : Engine) : e.reset.run = none := rfl

end Engine

end Completion

end DevConsole
