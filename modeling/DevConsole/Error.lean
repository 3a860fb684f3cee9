/-
Errors as causes.

A failure is a cause and, once evaluation frames have been attached, a trace.  The wording of every
cause is in one function; frames are attached once, where the failure happened, and later layers
leave them alone.  A panic is not a failure: it carries a payload, and only command dispatch turns
it into one.
-/
import DevConsole.Number.Decimal

namespace DevConsole

/-- Why something failed. -/
inductive Cause where
  | unknownCommand (name : String)
  | registration (reason : String)
  | command (reason : String)
  | malformed (column : Nat) (reason : String)
  | unresolvedMember (name owner : String)
  | noCompatibleOverload (owner name args : String)
  | notAType (expr : String)
  | noOperator (symbol left right : String)
  | typeMismatch (expected found : String)
  | readOnly (owner name : String)
  | nullReference (name : String)
  | instanceRequired (owner name : String)
  | divideByZero
  | evaluation (reason : String)
  | config (reason : String)
  | io (reason : String)
deriving Repr, DecidableEq

/-- The text shown for a cause. -/
def Cause.message : Cause → String
  | unknownCommand name =>
    "Command '" ++ name ++ "' not found. Type 'help' for a list of commands."
  | registration reason => "registration error: " ++ reason
  | command reason => "command error: " ++ reason
  | malformed column reason =>
    "syntax error at column " ++ Decimal.natText column ++ ": " ++ reason
  | unresolvedMember name owner => "'" ++ name ++ "' is not a field or member of " ++ owner
  | noCompatibleOverload owner name args =>
    "no compatible overload of " ++ owner ++ "." ++ name ++ " for (" ++ args ++ ")"
  | notAType expr => "'" ++ expr ++ "' is not a type"
  | noOperator symbol left right =>
    "operator " ++ symbol ++ " is not defined for " ++ left ++ " and " ++ right
  | typeMismatch expected found => "type mismatch: expected " ++ expected ++ ", found " ++ found
  | readOnly owner name => owner ++ "." ++ name ++ " is read-only"
  | nullReference name => "null reference while accessing '" ++ name ++ "'"
  | instanceRequired owner name =>
    owner ++ "." ++ name ++ " is an instance member and needs an object"
  | divideByZero => "division by zero"
  | evaluation reason => "evaluation error: " ++ reason
  | config reason => "config error: " ++ reason
  | io reason => "I/O error: " ++ reason

/-- A cause, with the evaluation frames that were active when it arose, innermost first, if any
were recorded. -/
structure Failure where
  cause : Cause
  trace : Option (List String) := none
deriving Repr, DecidableEq

namespace Failure

/-- A failure without a trace. -/
def of (c : Cause) : Failure := { cause := c }

/-- Text that is not well formed, at a column counted in characters. -/
def malformed (column : Nat) (reason : String) : Failure :=
  of (.malformed column reason)

/-- The text shown for a failure is that of its cause. -/
def message (f : Failure) : String := f.cause.message

/-- The recorded frames, none without a trace. -/
def stack (f : Failure) : List String := f.trace.getD []

/-- Whether frames have been attached. -/
def isTraced (f : Failure) : Bool := f.trace.isSome

/-- Attach frames, unless some are attached already: the first, innermost trace stays. -/
def traced (f : Failure) (frames : List String) : Failure :=
  match f.trace with
  | some _ => f
  | none => { f with trace := some frames }

/-- Attaching frames keeps the cause. -/
@[simp] theorem cause_traced (f : Failure) (frames : List String) :
    (f.traced frames).cause = f.cause := by
  unfold traced
  split <;> rfl

/-- A second trace changes nothing. -/
@[simp] theorem traced_traced (f : Failure) (a b : List String) :
    (f.traced a).traced b = f.traced a := by
  rcases f with ⟨c, _ | t⟩ <;> rfl

end Failure

/-- What a panic carries: a text, or something that is not text. -/
inductive Panic where
  | saying (text : String)
  | wordless
deriving Repr, DecidableEq

/-- The text reported for a panic. -/
def Panic.message : Panic → String
  | saying text => text
  | wordless => "unknown panic"

/-- The two ways a computation ends early. -/
inductive Abort where
  | failed (failure : Failure)
  | panicked (payload : Panic)
deriving Repr, DecidableEq

end DevConsole
