/-
# `DevConsole.Proofs.Grammar.Derivation` — the grammar of lines as a relation

The parser is a function; this module is the other side, a derivation relation that knows nothing
of how tokens are read.  The productions, with the tree each of them builds:

    line      expr? '@'?                                          ⟨e?, marked?⟩
    expr      operand                                             e
              operand binop expr                                  binary o l r
              operand assignop expr      l a name or member       assign o l r
    operand   primary, or operand '.' name call                   member e n args
    primary   literal | name call                                 literal l | name n args
              '(' expr ')'                                        group e
              '(' expr ')' expr                                   cast t e
              'new' typeName call        the call not left out    new t args
    typeName  name | typeName '.' name
    call      nothing | '(' ')' | '(' expr (',' expr)* ')'

**Levels.**  `d` in `Derives c d p ts` is the number of levels in use around the phrase: the outermost
expression is at level 1, an expression inside another is one level further in, and each dot that
has been read of the operand or constructed type in hand counts one more.  No production may use
more than `Parser.maxDepth` of them.

**Casts.**  Read as they stand, the productions are ambiguous: `(a)b+c` is a cast of `b+c`, and it is
also a sum whose left side is a cast of `b`.  So the relation takes a parameter `c`, the trees that a
dot or an operator may go on from.  With all trees it is the bare grammar; with `Open`, all trees
but casts, a cast takes everything after it.
-/
import DevConsole.Expr.Parser

namespace DevConsole

/-- Whether the expression is a cast. -/
def Expr.isCast : Expr → Bool
  | cast _ _ => true
  | _ => false

namespace Grammar

open DevConsole.Parser (maxDepth)

/-! ## Tokens and what they are -/

/-- What the tokens are, their spans forgotten. -/
def kinds (ts : List Token) : List TokenKind := ts.map Token.kind

@[simp] theorem kinds_nil : kinds [] = [] := rfl

@[simp] theorem kinds_cons (t : Token) (ts : List Token) : kinds (t :: ts) = t.kind :: kinds ts :=
  rfl

@[simp] theorem kinds_append (ts us : List Token) : kinds (ts ++ us) = kinds ts ++ kinds us :=
  List.map_append

/-! ## The productions -/

/-- What a run of tokens may be read as.  Operands and constructed types carry the number of dots
read in their chain. -/
inductive Phrase where
  | expr (e : Expr)
  | operand (e : Expr) (dots : Nat)
  | typeName (e : Expr) (dots : Nat)
  | call (args : Option (List Expr))
  | args (es : List Expr)

/-- A dot or an operator may follow every expression but a cast, which has taken it already. -/
def Open (e : Expr) : Prop := e.isCast = false

/-- `Derives c d p ts`: the tokens `ts` are the phrase `p`, at level `d`, where only trees in `c` are
gone on from. -/
inductive Derives (c : Expr → Prop) : Nat → Phrase → List TokenKind → Prop
  | expr {d k : Nat} {e : Expr} {ts : List TokenKind} :
      d ≤ maxDepth → Derives c d (.operand e k) ts → Derives c d (.expr e) ts
  | binary {d k : Nat} {o : Operator} {l r : Expr} {ts us : List TokenKind} :
      d ≤ maxDepth → Derives c d (.operand l k) ts → c l → Derives c (d + 1) (.expr r) us →
      Derives c d (.expr (.binary o l r)) (ts ++ .op o :: us)
  | assign {d k : Nat} {o : Option Operator} {l r : Expr} {ts us : List TokenKind} :
      d ≤ maxDepth → Derives c d (.operand l k) ts → c l → l.isAssignable = true →
      Derives c (d + 1) (.expr r) us →
      Derives c d (.expr (.assign o l r)) (ts ++ .assign o :: us)
  | literal {d : Nat} {l : Literal} : Derives c d (.operand (.literal l) 0) [.literal l]
  | name {d : Nat} {n : String} {args : Option (List Expr)} {ts : List TokenKind} :
      Derives c d (.call args) ts → Derives c d (.operand (.name n args) 0) (.name n :: ts)
  | group {d : Nat} {e : Expr} {ts : List TokenKind} :
      Derives c (d + 1) (.expr e) ts →
      Derives c d (.operand (.group e) 0) (.openParen :: ts ++ [.closeParen])
  | cast {d : Nat} {t e : Expr} {ts us : List TokenKind} :
      Derives c (d + 1) (.expr t) ts → Derives c (d + 1) (.expr e) us →
      Derives c d (.operand (.cast t e) 0) (.openParen :: ts ++ .closeParen :: us)
  | new {d k : Nat} {t : Expr} {es : List Expr} {ts us : List TokenKind} :
      Derives c d (.typeName t k) ts → Derives c d (.call (some es)) us →
      Derives c d (.operand (.new t es) 0) (.new :: ts ++ us)
  | member {d k : Nat} {e : Expr} {n : String} {args : Option (List Expr)}
      {ts us : List TokenKind} :
      Derives c d (.operand e k) ts → c e → d + (k + 1) ≤ maxDepth →
      Derives c (d + (k + 1)) (.call args) us →
      Derives c d (.operand (.member e n args) (k + 1)) (ts ++ .dot :: .name n :: us)
  | typeName {d : Nat} {n : String} : Derives c d (.typeName (.name n none) 0) [.name n]
  | typeMember {d k : Nat} {e : Expr} {n : String} {ts : List TokenKind} :
      Derives c d (.typeName e k) ts → d + (k + 1) ≤ maxDepth →
      Derives c d (.typeName (.member e n none) (k + 1)) (ts ++ [.dot, .name n])
  | noCall {d : Nat} : Derives c d (.call none) []
  | emptyCall {d : Nat} : Derives c d (.call (some [])) [.openParen, .closeParen]
  | call {d : Nat} {es : List Expr} {ts : List TokenKind} :
      Derives c d (.args es) ts →
      Derives c d (.call (some es)) (.openParen :: ts ++ [.closeParen])
  | lastArg {d : Nat} {e : Expr} {ts : List TokenKind} :
      Derives c (d + 1) (.expr e) ts → Derives c d (.args [e]) ts
  | arg {d : Nat} {e : Expr} {es : List Expr} {ts us : List TokenKind} :
      Derives c (d + 1) (.expr e) ts → Derives c d (.args es) us →
      Derives c d (.args (e :: es)) (ts ++ .comma :: us)

/-- `DerivesLine c l ts`: the tokens `ts` are the line `l`, its expression at level 1. -/
inductive DerivesLine (c : Expr → Prop) : Line → List TokenKind → Prop
  | empty : DerivesLine c ⟨none, false⟩ []
  | members : DerivesLine c ⟨none, true⟩ [.marker]
  | value {e : Expr} {ts : List TokenKind} :
      Derives c 1 (.expr e) ts → DerivesLine c ⟨some e, false⟩ ts
  | valueMembers {e : Expr} {ts : List TokenKind} :
      Derives c 1 (.expr e) ts → DerivesLine c ⟨some e, true⟩ (ts ++ [.marker])

/-! ## Heads

The token after a closing parenthesis decides between a group and a cast.  No production says so,
and none has to: an operand starts with one of the tokens that the parser looks for. -/

/-- Phrases that start with an operand. -/
def Phrase.LeadsWithOperand : Phrase → Prop
  | expr _ | operand _ _ | args _ => True
  | _ => False

/-- Such a phrase has a first token, and it is one that an operand may start with. -/
theorem Derives.exists_head {c : Expr → Prop} {d : Nat} {p : Phrase} {ts : List TokenKind}
    (h : Derives c d p ts) (hp : p.LeadsWithOperand) :
    ∃ t us, ts = t :: us ∧ t.startsOperand = true := by
  induction h with
  | expr _ _ ih => exact ih trivial
  | binary _ _ _ _ ih _ =>
      obtain ⟨t, us, rfl, ht⟩ := ih trivial
      exact ⟨t, _, rfl, ht⟩
  | assign _ _ _ _ _ ih _ =>
      obtain ⟨t, us, rfl, ht⟩ := ih trivial
      exact ⟨t, _, rfl, ht⟩
  | literal => exact ⟨_, _, rfl, rfl⟩
  | name _ _ => exact ⟨_, _, rfl, rfl⟩
  | group _ _ => exact ⟨_, _, rfl, rfl⟩
  | cast _ _ _ _ => exact ⟨_, _, rfl, rfl⟩
  | new _ _ _ _ => exact ⟨_, _, rfl, rfl⟩
  | member _ _ _ _ ih _ =>
      obtain ⟨t, us, rfl, ht⟩ := ih trivial
      exact ⟨t, _, rfl, ht⟩
  | typeName => exact hp.elim
  | typeMember _ _ _ => exact hp.elim
  | noCall => exact hp.elim
  | emptyCall => exact hp.elim
  | call _ _ => exact hp.elim
  | lastArg _ ih => exact ih trivial
  | arg _ _ ih _ =>
      obtain ⟨t, us, rfl, ht⟩ := ih trivial
      exact ⟨t, _, rfl, ht⟩

/-- Without arguments there is nothing to a call. -/
theorem Derives.eq_nil_of_noCall {c : Expr → Prop} {d : Nat} {ts : List TokenKind}
    (h : Derives c d (.call none) ts) : ts = [] := by
  cases h
  rfl

/-- A call that is not left out starts with a parenthesis. -/
theorem Derives.exists_openParen {c : Expr → Prop} {d : Nat} {es : List Expr}
    {ts : List TokenKind} (h : Derives c d (.call (some es)) ts) : ∃ us, ts = .openParen :: us := by
  cases h with
  | emptyCall => exact ⟨_, rfl⟩
  | call _ => exact ⟨_, rfl⟩

/-- Arguments are separated by commas, so there is at most one more of them than tokens. -/
theorem Derives.length_args_le {c : Expr → Prop} {d : Nat} {es : List Expr} {ts : List TokenKind}
    (h : Derives c d (.args es) ts) : es.length ≤ ts.length + 1 := by
  generalize hp : Phrase.args es = p at h
  induction h generalizing es with
  | lastArg _ _ =>
      cases hp
      simp
  | arg _ _ _ ih =>
      cases hp
      have := ih rfl
      simp only [List.length_cons, List.length_append]
      omega
  | _ => cases hp

end Grammar

end DevConsole
