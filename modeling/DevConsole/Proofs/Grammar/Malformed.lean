/-
# `DevConsole.Proofs.Grammar.Malformed` — a line that cannot be read is a syntax error

Reading a line has one sort of failure: text that is not well formed, at a column.  It goes through
the lexer and every parser of the recursive descent, each of which either raises such a failure or
passes one on.  As in soundness, the parsers other than `expr` and `chain` take the parser of inner
expressions as an argument, and their lemmas take the property of it as a hypothesis.

No evaluation has begun then, and so there is no trace.
-/
import DevConsole.Expr.Parser

namespace DevConsole

variable {α : Type}

/-- If this is a failure, then one of text that is not well formed. -/
def FailsMalformed (r : Except Failure α) : Prop :=
  ∀ f, r = .error f → ∃ column reason, f = .malformed column reason

namespace FailsMalformed

theorem ok (x : α) : FailsMalformed (.ok x) := by
  intro f h
  cases h

theorem malformed (column : Nat) (reason : String) :
    FailsMalformed (.error (.malformed column reason) : Except Failure α) := by
  intro f h
  cases h
  exact ⟨column, reason, rfl⟩

/-- A failure that is passed on. -/
theorem error {β : Type} {r : Except Failure α} {f : Failure} (h : FailsMalformed r)
    (hr : r = .error f) : FailsMalformed (.error f : Except Failure β) := by
  intro g hg
  cases hg
  exact h f hr

end FailsMalformed

/-! ## Tokens -/

namespace Lexer

theorem number_malformed (pos : Nat) (c : Char) (cs : List Char) :
    FailsMalformed (number pos c cs) := by
  unfold number
  extract_lets whole afterWhole fraction rest text suffix extra
  split
  · exact .malformed _ _
  split
  · exact .malformed _ _
  split
  · exact .ok _
  · exact .malformed _ _

theorem string_malformed (pos : Nat) (cs : List Char) : FailsMalformed (string pos cs) := by
  unfold string
  split
  · exact .ok _
  · exact .malformed _ _

theorem operator_malformed (pos : Nat) (c : Char) (cs : List Char) :
    FailsMalformed (operator pos c cs) := by
  simp only [operator]
  split
  · exact .ok _
  split
  · exact .ok _
  split
  · exact .ok _
  split
  · exact .ok _
  · exact .malformed _ _

theorem lexeme_malformed (last : Option TokenKind) (pos : Nat) (c : Char) (cs : List Char) :
    FailsMalformed (lexeme last pos c cs) := by
  unfold lexeme
  split
  · exact .ok _
  split
  · exact number_malformed pos c cs
  split
  · exact string_malformed pos cs
  split
  · exact operator_malformed pos c cs
  -- what is left are the tokens of one character
  repeat' split
  all_goals first
    | exact .ok _
    | exact .malformed _ _

theorem tokensFrom_malformed (pos : Nat) (last : Option TokenKind) (cs : List Char) :
    FailsMalformed (tokensFrom pos last cs) := by
  fun_induction tokensFrom pos last cs with
  | case1 => exact .ok _
  | case2 pos last c cs _ ih => exact ih
  | case3 pos last c cs _ e he => exact (lexeme_malformed last pos c cs).error he
  | case4 pos last c cs _ kind extra _ e he ih => exact ih.error he
  | case5 => exact .ok _

end Lexer

/-! ## Expressions -/

namespace Parser

variable {stop levels : Nat} {read : List Token → Parsed Expr}

theorem unexpected_malformed (wanted : String) (ts : List Token) :
    FailsMalformed (.error (unexpected stop wanted ts) : Except Failure α) := by
  cases ts with
  | nil => exact .malformed _ _
  | cons t ts => exact .malformed _ _

theorem close_malformed (ts : List Token) : FailsMalformed (close stop ts) := by
  unfold close
  split
  · exact .ok _
  · exact unexpected_malformed _ _

theorem name_malformed (ts : List Token) : FailsMalformed (name stop ts) := by
  unfold name
  split
  · exact .ok _
  · exact unexpected_malformed _ _

theorem argsLoop_malformed (hread : ∀ ts, FailsMalformed (read ts)) (rounds : Nat)
    (ts : List Token) : FailsMalformed (argsLoop stop read rounds ts) := by
  induction rounds generalizing ts with
  | zero => exact unexpected_malformed _ _
  | succ rounds ih =>
    unfold argsLoop
    split
    · rename_i e he
      exact (hread ts).error he
    · split
      · rename_i e he
        exact (ih _).error he
      · exact .ok _
    · split
      · rename_i e he
        exact (close_malformed _).error he
      · exact .ok _

theorem call_malformed (hread : ∀ ts, FailsMalformed (read ts)) (ts : List Token) :
    FailsMalformed (call stop read ts) := by
  unfold call
  split
  · exact .ok _
  · split
    · rename_i e he
      exact (argsLoop_malformed hread _ _).error he
    · exact .ok _
  · exact .ok _

theorem typeChain_malformed (levels : Nat) (type : Expr) (ts : List Token) :
    FailsMalformed (typeChain stop levels type ts) := by
  induction levels generalizing type ts with
  | zero =>
    unfold typeChain
    split
    · exact .malformed _ _
    · exact .ok _
  | succ levels ih =>
    unfold typeChain
    split
    · split
      · rename_i e he
        exact (name_malformed _).error he
      · exact ih _ _
    · exact .ok _

theorem construction_malformed (hread : ∀ ts, FailsMalformed (read ts)) (ts : List Token) :
    FailsMalformed (construction stop levels read ts) := by
  unfold construction
  split
  · rename_i e he
    exact (name_malformed ts).error he
  split
  · rename_i e he
    exact (typeChain_malformed levels _ _).error he
  split
  · rename_i e he
    exact (call_malformed hread _).error he
  · exact .ok _
  · exact unexpected_malformed _ _

theorem parenthesized_malformed (hread : ∀ ts, FailsMalformed (read ts)) (ts : List Token) :
    FailsMalformed (parenthesized stop read ts) := by
  unfold parenthesized
  split
  · rename_i e he
    exact (hread ts).error he
  split
  · rename_i e he
    exact (close_malformed _).error he
  split
  · exact .ok _
  split
  · split
    · rename_i e he
      exact (hread _).error he
    · exact .ok _
  · exact .ok _

theorem primary_malformed (hread : ∀ ts, FailsMalformed (read ts)) (ts : List Token) :
    FailsMalformed (primary stop levels read ts) := by
  unfold primary
  split
  · exact .ok _
  · split
    · rename_i e he
      exact (call_malformed hread _).error he
    · exact .ok _
  · exact parenthesized_malformed hread _
  · exact construction_malformed hread _
  · exact unexpected_malformed _ _

theorem operation_malformed (hread : ∀ ts, FailsMalformed (read ts)) (left : Expr)
    (ts : List Token) : FailsMalformed (operation stop read left ts) := by
  unfold operation
  split
  · split
    · rename_i e he
      exact (hread _).error he
    · exact .ok _
  · split
    · split
      · rename_i e he
        exact (hread _).error he
      · exact .ok _
    · exact .malformed _ _
  · exact .ok _

mutual

theorem expr_malformed : ∀ (levels : Nat) (ts : List Token), FailsMalformed (expr stop levels ts)
  | 0, ts => by
      rw [expr]
      exact .malformed _ _
  | levels + 1, ts => by
      rw [expr]
      split
      · rename_i e he
        exact (primary_malformed (expr_malformed levels) ts).error he
      split
      · rename_i e he
        exact (chain_malformed levels _ _).error he
      · exact operation_malformed (expr_malformed levels) _ _

theorem chain_malformed : ∀ (levels : Nat) (target : Expr) (ts : List Token),
    FailsMalformed (chain stop levels target ts)
  | 0, target, ts => by
      unfold chain
      split
      · exact .malformed _ _
      · exact .ok _
  | levels + 1, target, ts => by
      unfold chain
      split
      · split
        · rename_i e he
          exact (name_malformed _).error he
        split
        · rename_i e he
          exact (call_malformed (expr_malformed levels) _).error he
        · exact chain_malformed levels _ _
      · exact .ok _

end

/-! ## Lines -/

theorem lineEnd_malformed (e : Option Expr) (ts : List Token) :
    FailsMalformed (lineEnd stop e ts) := by
  unfold lineEnd
  split
  · exact .ok _
  · exact .ok _
  · exact unexpected_malformed _ _
  · exact unexpected_malformed _ _

theorem line_malformed (ts : List Token) : FailsMalformed (line stop ts) := by
  unfold line
  split
  · exact lineEnd_malformed none _
  · exact lineEnd_malformed none _
  · split
    · rename_i e he
      exact (expr_malformed maxDepth ts).error he
    · exact lineEnd_malformed _ _

/-- The only failures of reading a line are syntax errors. -/
theorem parse_malformed (source : String) : FailsMalformed (parse source) := by
  unfold parse Lexer.tokenize
  extract_lets cs
  split
  · rename_i e he
    exact (Lexer.tokensFrom_malformed 0 none source.toList).error he
  · exact line_malformed _

end Parser

end DevConsole
