/-
# `DevConsole.Proofs.Grammar.Columns` — the columns of tokens are for messages only

The parsers look at the kinds of tokens, and hand on where a token starts when they refuse it.  So
two lists of tokens of the same kinds are read as the same line, or both are refused for the same
reason, at columns that correspond as those of the tokens do (`Parser.line_agrees`).  For one line
in two spacings that is the same token, or the end of both.

How columns correspond is a parameter, `At`.  As in `DevConsole.Proofs.Grammar.Malformed`, the
parsers other than `expr` and `chain` take what holds of the parser of inner expressions as a
hypothesis; here there are two of these, one for each list.
-/
import Mathlib.Data.List.Forall2
import DevConsole.Expr.Parser

namespace DevConsole

variable {At : Nat → Nat → Prop} {α : Type} {R : α → α → Prop}

/-- Tokens of the same kind, at columns that correspond. -/
structure Token.Alike (At : Nat → Nat → Prop) (t t' : Token) : Prop where
  kind_eq : t.kind = t'.kind
  start : At t.start t'.start

/-- Two results that are related, or two syntax errors for the same reason at columns that
correspond. -/
inductive Agrees (At : Nat → Nat → Prop) (R : α → α → Prop) :
    Except Failure α → Except Failure α → Prop
  | ok {x x' : α} (h : R x x') : Agrees At R (.ok x) (.ok x')
  | malformed {column column' : Nat} (h : At column column') (reason : String) :
    Agrees At R (.error (.malformed column reason)) (.error (.malformed column' reason))

namespace Parser

variable {stop stop' levels : Nat} {ts ts' : List Token}
  {read read' : List Token → Parsed Expr}

/-- Lists of tokens of the same kinds. -/
abbrev Alike (At : Nat → Nat → Prop) (ts ts' : List Token) : Prop :=
  List.Forall₂ (Token.Alike At) ts ts'

/-- The same result, with lists of tokens of the same kinds left. -/
def Parses (At : Nat → Nat → Prop) (p p' : α × List Token) : Prop := p.1 = p'.1 ∧ Alike At p.2 p'.2

/-- Two parsers agree on lists of tokens of the same kinds. -/
def ReadAlike (At : Nat → Nat → Prop) (read read' : List Token → Parsed α) : Prop :=
  ∀ ts ts', Alike At ts ts' → Agrees At (Parses At) (read ts) (read' ts')

/-- What two parsers that agree are followed by agrees if it does so on a result of both. -/
@[elab_as_elim]
theorem parsed_elim {motive : Parsed α → Parsed α → Prop} {r r' : Parsed α}
    (h : Agrees At (Parses At) r r')
    (malformed : ∀ column column' reason, At column column' →
      motive (.error (.malformed column reason)) (.error (.malformed column' reason)))
    (ok : ∀ a rest rest', Alike At rest rest' → motive (.ok (a, rest)) (.ok (a, rest'))) :
    motive r r' := by
  cases h with
  | malformed h reason => exact malformed _ _ _ h
  | @ok x x' h =>
    obtain ⟨a, rest⟩ := x
    obtain ⟨a', rest'⟩ := x'
    obtain ⟨rfl, hrest⟩ := h
    exact ok a rest rest' hrest

/-- Two lists of tokens of the same kinds end both, or both go on with a token of one kind. -/
@[elab_as_elim]
theorem alike_elim {motive : List Token → List Token → Prop} (h : Alike At ts ts')
    (nil : motive [] [])
    (cons : ∀ (k : TokenKind) (s s' e e' : Nat) (rest rest' : List Token), At s s' →
      Alike At rest rest' → Alike At (⟨k, s, e⟩ :: rest) (⟨k, s', e'⟩ :: rest') →
      motive (⟨k, s, e⟩ :: rest) (⟨k, s', e'⟩ :: rest')) :
    motive ts ts' := by
  cases h with
  | nil => exact nil
  | @cons t t' rest rest' ht hrest =>
    obtain ⟨k, s, e⟩ := t
    obtain ⟨k', s', e'⟩ := t'
    obtain rfl : k = k' := ht.kind_eq
    exact cons k s s' e e' rest rest' ht.start hrest (hrest.cons ht)

/-! ## Tokens -/

theorem unexpected_agrees (hstop : At stop stop') (hts : Alike At ts ts') (wanted : String) :
    Agrees At R (.error (unexpected stop wanted ts)) (.error (unexpected stop' wanted ts')) := by
  refine alike_elim hts (.malformed hstop _) ?_
  exact fun k s s' e e' rest rest' hs _ _ => .malformed hs _

theorem tooDeep_agrees (hstop : At stop stop') (hts : Alike At ts ts') :
    Agrees At R (.error (tooDeep stop ts)) (.error (tooDeep stop' ts')) := by
  refine alike_elim hts (.malformed hstop _) ?_
  exact fun k s s' e e' rest rest' hs _ _ => .malformed hs _

theorem close_agrees (hstop : At stop stop') (hts : Alike At ts ts') :
    Agrees At (Alike At) (close stop ts) (close stop' ts') := by
  refine alike_elim hts (unexpected_agrees hstop .nil _) ?_
  intro k s s' e e' rest rest' hs hrest hall
  cases k with
  | closeParen => exact .ok hrest
  | _ => exact unexpected_agrees hstop hall _

theorem name_agrees (hstop : At stop stop') : ReadAlike At (name stop) (name stop') := by
  intro ts ts' hts
  refine alike_elim hts (unexpected_agrees hstop .nil _) ?_
  intro k s s' e e' rest rest' hs hrest hall
  cases k with
  | name n => exact .ok ⟨rfl, hrest⟩
  | _ => exact unexpected_agrees hstop hall _

/-! ## Argument lists and constructed types -/

theorem argsEnd_agrees (hstop : At stop stop') (hts : Alike At ts ts') (a : Expr) :
    Agrees At (Parses At)
      (match close stop ts with
        | .error e => .error e
        | .ok rest => .ok ([a], rest))
      (match close stop' ts' with
        | .error e => .error e
        | .ok rest => .ok ([a], rest)) := by
  have hclose := close_agrees hstop hts
  generalize close stop ts = r at hclose ⊢
  generalize close stop' ts' = r' at hclose ⊢
  cases hclose with
  | malformed h reason => exact .malformed h reason
  | ok h => exact .ok ⟨rfl, h⟩

theorem argsLoop_agrees (hread : ReadAlike At read read') (hstop : At stop stop') (rounds : Nat) :
    ReadAlike At (argsLoop stop read rounds) (argsLoop stop' read' rounds) := by
  induction rounds with
  | zero => exact fun ts ts' hts => unexpected_agrees hstop hts _
  | succ rounds ih =>
    intro ts ts' hts
    rw [argsLoop, argsLoop]
    refine parsed_elim (hread ts ts' hts) (fun _ _ reason h => .malformed h reason) ?_
    intro a us us' hus
    refine alike_elim hus (argsEnd_agrees hstop .nil a) ?_
    intro k s s' e e' rest rest' hs hrest hall
    cases k with
    | comma =>
      dsimp only
      refine parsed_elim (ih rest rest' hrest) (fun _ _ reason h => .malformed h reason) ?_
      exact fun as last last' hlast => .ok ⟨rfl, hlast⟩
    | _ => exact argsEnd_agrees hstop hall a

/-- An argument list that is not empty. -/
theorem args_agrees (hread : ReadAlike At read read') (hstop : At stop stop')
    (hts : Alike At ts ts') :
    Agrees At (Parses At)
      (match argsLoop stop read (ts.length + 1) ts with
        | .error e => .error e
        | .ok (as, rest) => .ok (some as, rest))
      (match argsLoop stop' read' (ts'.length + 1) ts' with
        | .error e => .error e
        | .ok (as, rest) => .ok (some as, rest)) := by
  rw [hts.length_eq]
  refine parsed_elim (argsLoop_agrees hread hstop _ ts ts' hts)
    (fun _ _ reason h => .malformed h reason) ?_
  exact fun as rest rest' hrest => .ok ⟨rfl, hrest⟩

theorem call_agrees (hread : ReadAlike At read read') (hstop : At stop stop') :
    ReadAlike At (call stop read) (call stop' read') := by
  intro ts ts' hts
  refine alike_elim hts (.ok ⟨rfl, .nil⟩) ?_
  intro k s s' e e' us us' hs hus hall
  cases k with
  | openParen =>
    refine alike_elim hus (args_agrees hread hstop .nil) ?_
    intro k s s' e e' rest rest' hs hrest hall
    cases k with
    | closeParen => exact .ok ⟨rfl, hrest⟩
    | _ => exact args_agrees hread hstop hall
  | _ => exact .ok ⟨rfl, hall⟩

theorem typeChain_agrees (hstop : At stop stop') (levels : Nat) (type : Expr) :
    ReadAlike At (typeChain stop levels type) (typeChain stop' levels type) := by
  induction levels generalizing type with
  | zero =>
    intro ts ts' hts
    refine alike_elim hts (.ok ⟨rfl, .nil⟩) ?_
    intro k s s' e e' rest rest' hs hrest hall
    cases k with
    | dot => exact tooDeep_agrees hstop hrest
    | _ => exact .ok ⟨rfl, hall⟩
  | succ levels ih =>
    intro ts ts' hts
    refine alike_elim hts (.ok ⟨rfl, .nil⟩) ?_
    intro k s s' e e' rest rest' hs hrest hall
    cases k with
    | dot =>
      rw [typeChain, typeChain]
      refine parsed_elim (name_agrees hstop rest rest' hrest)
        (fun _ _ reason h => .malformed h reason) ?_
      exact fun n last last' hlast => ih (.member type n none) last last' hlast
    | _ => exact .ok ⟨rfl, hall⟩

theorem construction_agrees (hread : ReadAlike At read read') (hstop : At stop stop') :
    ReadAlike At (construction stop levels read) (construction stop' levels read') := by
  intro ts ts' hts
  rw [construction, construction]
  refine parsed_elim (name_agrees hstop ts ts' hts) (fun _ _ reason h => .malformed h reason) ?_
  intro n us us' hus
  dsimp only
  refine parsed_elim (typeChain_agrees hstop levels _ us us' hus)
    (fun _ _ reason h => .malformed h reason) ?_
  intro type vs vs' hvs
  dsimp only
  refine parsed_elim (call_agrees hread hstop vs vs' hvs)
    (fun _ _ reason h => .malformed h reason) ?_
  intro as rest rest' hrest
  cases as with
  | none => exact unexpected_agrees hstop hrest _
  | some as => exact .ok ⟨rfl, hrest⟩

/-! ## Expressions -/

theorem parenthesized_agrees (hread : ReadAlike At read read') (hstop : At stop stop') :
    ReadAlike At (parenthesized stop read) (parenthesized stop' read') := by
  intro ts ts' hts
  rw [parenthesized, parenthesized]
  refine parsed_elim (hread ts ts' hts) (fun _ _ reason h => .malformed h reason) ?_
  intro inner us us' hus
  have hclose := close_agrees hstop hus
  dsimp only
  generalize close stop us = r at hclose ⊢
  generalize close stop' us' = r' at hclose ⊢
  cases hclose with
  | malformed h reason => exact .malformed h reason
  | ok hvs =>
    refine alike_elim hvs (.ok ⟨rfl, .nil⟩) ?_
    intro k s s' e e' rest rest' hs hrest hall
    dsimp only
    split
    · refine parsed_elim (hread _ _ hall)
        (fun _ _ reason h => .malformed h reason) ?_
      exact fun operand last last' hlast => .ok ⟨rfl, hlast⟩
    · exact .ok ⟨rfl, hall⟩

theorem primary_agrees (hread : ReadAlike At read read') (hstop : At stop stop') :
    ReadAlike At (primary stop levels read) (primary stop' levels read') := by
  intro ts ts' hts
  refine alike_elim hts (unexpected_agrees hstop .nil _) ?_
  intro k s s' e e' rest rest' hs hrest hall
  cases k with
  | literal l => exact .ok ⟨rfl, hrest⟩
  | name n =>
    rw [primary, primary]
    refine parsed_elim (call_agrees hread hstop rest rest' hrest)
      (fun _ _ reason h => .malformed h reason) ?_
    exact fun args last last' hlast => .ok ⟨rfl, hlast⟩
  | openParen => exact parenthesized_agrees hread hstop rest rest' hrest
  | new => exact construction_agrees hread hstop rest rest' hrest
  | _ => exact unexpected_agrees hstop hall _

theorem operation_agrees (hread : ReadAlike At read read') (left : Expr) :
    ReadAlike At (operation stop read left) (operation stop' read' left) := by
  intro ts ts' hts
  refine alike_elim hts (.ok ⟨rfl, .nil⟩) ?_
  intro k s s' e e' rest rest' hs hrest hall
  cases k with
  | op o =>
    rw [operation, operation]
    refine parsed_elim (hread rest rest' hrest) (fun _ _ reason h => .malformed h reason) ?_
    exact fun right last last' hlast => .ok ⟨rfl, hlast⟩
  | assign o =>
    rw [operation, operation]
    split
    · refine parsed_elim (hread rest rest' hrest) (fun _ _ reason h => .malformed h reason) ?_
      exact fun value last last' hlast => .ok ⟨rfl, hlast⟩
    · exact .malformed hs _
  | _ => exact .ok ⟨rfl, hall⟩

/-- Both parsers of the recursive descent, by the levels that are left. -/
theorem expr_chain_agrees (hstop : At stop stop') : ∀ levels,
    ReadAlike At (expr stop levels) (expr stop' levels) ∧
      ∀ target, ReadAlike At (chain stop levels target) (chain stop' levels target)
  | 0 => by
    refine ⟨fun ts ts' hts => tooDeep_agrees hstop hts, fun target ts ts' hts => ?_⟩
    refine alike_elim hts (.ok ⟨rfl, .nil⟩) ?_
    intro k s s' e e' rest rest' hs hrest hall
    cases k with
    | dot => exact tooDeep_agrees hstop hrest
    | _ => exact .ok ⟨rfl, hall⟩
  | levels + 1 => by
    obtain ⟨hexpr, hchain⟩ := expr_chain_agrees hstop levels
    constructor
    · intro ts ts' hts
      rw [expr, expr]
      refine parsed_elim (primary_agrees hexpr hstop ts ts' hts)
        (fun _ _ reason h => .malformed h reason) ?_
      intro first us us' hus
      dsimp only
      refine parsed_elim (hchain first us us' hus) (fun _ _ reason h => .malformed h reason) ?_
      exact fun left rest rest' hrest => operation_agrees hexpr left rest rest' hrest
    · intro target ts ts' hts
      refine alike_elim hts (.ok ⟨rfl, .nil⟩) ?_
      intro k s s' e e' us us' hs hus hall
      cases k with
      | dot =>
        rw [chain, chain]
        refine parsed_elim (name_agrees hstop us us' hus)
          (fun _ _ reason h => .malformed h reason) ?_
        intro n vs vs' hvs
        dsimp only
        refine parsed_elim (call_agrees hexpr hstop vs vs' hvs)
          (fun _ _ reason h => .malformed h reason) ?_
        exact fun args rest rest' hrest => hchain _ rest rest' hrest
      | _ => exact .ok ⟨rfl, hall⟩

/-! ## Lines -/

theorem lineEnd_agrees (hstop : At stop stop') (first : Option Expr) (hts : Alike At ts ts') :
    Agrees At (· = ·) (lineEnd stop first ts) (lineEnd stop' first ts') := by
  refine alike_elim hts (.ok rfl) ?_
  intro k s s' e e' rest rest' hs hrest hall
  cases k with
  | marker =>
    refine alike_elim hrest (.ok rfl) ?_
    exact fun k s s' e e' last last' _ _ hall => unexpected_agrees hstop hall _
  | _ => exact unexpected_agrees hstop hall _

/-- Lines of tokens of the same kinds are read as the same line, or refused for the same reason at
columns that correspond. -/
theorem line_agrees (hstop : At stop stop') (hts : Alike At ts ts') :
    Agrees At (· = ·) (line stop ts) (line stop' ts') := by
  refine alike_elim hts (lineEnd_agrees hstop none .nil) ?_
  intro k s s' e e' rest rest' hs hrest hall
  cases k with
  | marker => exact lineEnd_agrees hstop none hall
  | _ =>
    dsimp only [line]
    refine parsed_elim ((expr_chain_agrees hstop maxDepth).1 _ _ hall)
      (fun _ _ reason h => .malformed h reason) ?_
    exact fun first last last' hlast => lineEnd_agrees hstop (some first) hlast

end Parser

end DevConsole
