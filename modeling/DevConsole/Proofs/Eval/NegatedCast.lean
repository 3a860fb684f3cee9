/-
# `DevConsole.Proofs.Eval.NegatedCast` — a minus sign behind parentheses

`(T)-5 + x` can be a subtraction and a cast of `-5 + x`.  The lexer and the parser take it for a
subtraction, as what is in the parentheses may be a value; where it is a chain of names and turns
out to be a type, evaluation makes a cast of it, and the minus sign belongs to the five.  Written
`(T)(-5 + x)`, the sign belongs to the five from the beginning:

    text           tokens                 tree
    (T)-5+x        ( T ) - 5 + x          (group T) - (5 + x)
    (T)(-5+x)      ( T ) ( -5 + x )       cast T (group (-5 + x))

The two lines do the same, with the same error if they fail, and they leave the same objects
(`Context.evaluate_negated_cast`); what differs is the frame that a failure names, since the lines
are written differently.  What the sign is moved through is the left end of the right side
(`Context.evalSigned_continued`).

Where the chain is no type, the parentheses make no difference: `(x)-E` is `x-E`, with everything
that a failure names.
-/
import DevConsole.Proofs.Demo.ReadBack
import DevConsole.Proofs.Eval.Bare
import DevConsole.Proofs.Eval.OperatorChain
import DevConsole.Proofs.Lexing.Joining
import DevConsole.Proofs.Number.Negation

namespace DevConsole

/-- A text in parentheses, and another text behind them. -/
def parensText (inner rest : List Char) : List Char := '(' :: (inner ++ ')' :: rest)

/-- A text that is a number without a sign. -/
structure IsNumeral (cs : List Char) (l : Literal) : Prop where
  starts : ∃ d ds, cs = d :: ds ∧ d.isDigit = true
  parses : Parser.parse (.ofList cs) = .ok ⟨some (.literal l), false⟩

/-- What may go on behind an operand: nothing, or an operator and an expression. -/
inductive Continues : List Char → Option (Operator × Expr) → Prop
  | nothing : Continues [] none
  | operation (o : Operator) {E : List Char} {e : Expr} :
      Parser.parse (.ofList E) = .ok ⟨some e, false⟩ →
      Continues (o.symbol.toList ++ E) (some (o, e))

/-- An operand with what goes on behind it. -/
def Expr.continued (a : Expr) : Option (Operator × Expr) → Expr
  | none => a
  | some (o, e) => .binary o a e

/-! ## A number behind a minus sign -/

namespace Lexer

open Grammar (Derives Open)

variable {last : Option TokenKind} {pos : Nat} {c d : Char} {cs ds body : List Char}
  {k : TokenKind} {ts : List Token} {l : Literal}

/-- A text without tokens is blank. -/
theorem Scans.isBlank (h : Scans pos last cs ts) (hts : ts = []) :
    ∀ c ∈ cs, Text.isBlank c = true := by
  induction h with
  | nil => exact List.forall_mem_nil _
  | blank hc _ ih => exact List.forall_mem_cons.2 ⟨hc, ih hts⟩
  | token => cases hts

/-- What starts with a digit is a number. -/
theorem Writes.exists_numeral (h : Writes last d body k) (hd : d.isDigit = true) :
    ∃ whole fraction letter l, body = whole ++ (fraction ++ letter) ∧ k = .literal l ∧
      Numeral whole fraction letter ∧
      numberValue? (d :: whole ++ fraction) (suffix? letter) = some l := by
  cases h with
  | word hstart _ =>
    rw [(classes_of_isDigit hd).2] at hstart
    cases hstart
  | number _ _ hparts hvalue => exact ⟨_, _, _, _, rfl, rfl, hparts, hvalue⟩
  | string _ => cases hd
  | operator hc _ =>
    rw [(classes_operatorChar hc).2.2.1] at hd
    cases hd
  | mark h =>
    simp only [marks, List.mem_cons, Prod.mk.injEq, List.not_mem_nil, or_false] at h
    rcases h with ⟨rfl, -⟩ | ⟨rfl, -⟩ | ⟨rfl, -⟩ | ⟨rfl, -⟩ | ⟨rfl, -⟩ <;> cases hd

/-- A number with a minus sign in front is one token, where a sign is admitted. -/
theorem lexes_minus (hd : d.isDigit = true) (h : Lexes none (d :: ds) [.literal l]) :
    l.IsNumber ∧ ∀ {last}, AdmitsSign last → Lexes last ('-' :: d :: ds) [.literal l.negated] := by
  obtain ⟨ts, htokens, hkinds⟩ := h 0
  obtain ⟨i, j, us, rfl, hus⟩ := Grammar.kinds_eq_cons hkinds
  cases scans_of_tokensFrom htokens with
  | blank hc _ =>
    rw [(classes_of_isDigit hd).1] at hc
    cases hc
  | @token _ _ _ _ _ rest _ _ hk hrest =>
    obtain ⟨whole, fraction, letter, l', rfl, heq, hparts, hvalue⟩ := hk.exists_numeral hd
    obtain rfl := TokenKind.literal.inj heq
    refine ⟨isNumber_of_numberValue? hvalue, fun {last} hlast => ?_⟩
    have hblank : ∀ c ∈ rest, Text.isBlank c = true := hrest.isBlank (List.map_eq_nil_iff.1 hus)
    have hnothing : Lexes (some (.literal l.negated)) (rest ++ []) [] := .blanks hblank (.nil _)
    have hgap : Gap (rest ++ []) := .of_blanks hblank fun _ => rfl
    rw [List.append_nil] at hnothing hgap
    have hsign : ('-'.isDigit || ('-' = '-' && digitNext (d :: whole) &&
        (last.map TokenKind.admitsSign).getD true)) = true := by
      rw [show (last.map TokenKind.admitsSign).getD true = true from hlast, digitNext, hd]
      rfl
    have hminus : Numeral (d :: whole) fraction letter :=
      { hparts with whole_digits := List.forall_mem_cons.2 ⟨hd, hparts.whole_digits⟩ }
    exact .numeral hsign hminus (numberValue?_minus hd hvalue) (.of_stops hgap.numberGoesOn)
      hnothing

/-! ## What goes on behind an operand -/

/-- The tokens of what goes on behind an operand. -/
inductive ContinuesAs : List Char → Option (Operator × Expr) → List TokenKind → Prop
  | nothing : ContinuesAs [] none []
  | operation (o : Operator) {E : List Char} {e : Expr} {es : List TokenKind} :
      ReadsAs E e es → ContinuesAs (o.symbol.toList ++ E) (some (o, e)) (.op o :: es)

section Continued

variable {R : List Char} {r : Option (Operator × Expr)} {rs ks : List TokenKind} {e t y : Expr}

theorem exists_continuesAs (h : Continues R r) : ∃ rs, ContinuesAs R r rs := by
  cases h with
  | nothing => exact ⟨_, .nothing⟩
  | operation o hE =>
    obtain ⟨es, hes⟩ := exists_readsAs hE
    exact ⟨_, .operation o hes⟩

namespace ContinuesAs

theorem breaks (h : ContinuesAs R r rs) : Breaks R := by
  cases h with
  | nothing => exact .of_stops (stopsAt_nil _)
  | operation o _ => exact breaks_operator o _

theorem lexes (h : ContinuesAs R r rs) (hk : k.endsOperand = true) : Lexes (some k) R rs := by
  cases h with
  | nothing => exact .nil _
  | operation o hE => exact hE.behind_symbol o (not_admitsSign_of_endsOperand hk)

theorem marker_not_mem (h : ContinuesAs R r rs) : TokenKind.marker ∉ rs := by
  cases h with
  | nothing => exact List.not_mem_nil
  | operation o hE => simp [hE.marker_not_mem]

/-- Behind a number, what goes on makes an operator with the number as its left side, or nothing. -/
theorem eq_continued (h : ContinuesAs R r rs) (hy : Derives Open 1 (.expr y) (.literal l :: rs)) :
    y = (Expr.literal l).continued r := by
  cases h with
  | nothing => exact hy.expr_unique (.expr (by decide) .literal)
  | operation o hE =>
    have hoperand : Derives Open 1 (.operand (.literal l) 0) [.literal l] := .literal
    obtain ⟨x, rfl, hx⟩ := hoperand.of_op rfl hy
    rw [hx.outward.expr_unique hE.derives]
    rfl

/-- If it does so behind one number, then behind every other. -/
theorem derives (h : ContinuesAs R r rs) (hy : Derives Open 1 (.expr y) (.literal l :: rs))
    (l' : Literal) :
    Derives Open 1 (.expr ((Expr.literal l').continued r)) (.literal l' :: rs) := by
  cases h with
  | nothing => exact .expr (by decide) .literal
  | operation o hE =>
    have hoperand : Derives Open 1 (.operand (.literal l) 0) [.literal l] := .literal
    obtain ⟨x, rfl, hx⟩ := hoperand.of_op rfl hy
    obtain rfl := hx.outward.expr_unique hE.derives
    have hoperand' : Derives Open 1 (.operand (.literal l') 0) [.literal l'] := .literal
    exact .binary (by decide) hoperand' rfl hx

end ContinuesAs

end Continued

end Lexer

/-! ## The trees of the lines -/

/-- The only token of a number. -/
theorem IsNumeral.readsAs {n : List Char} {l : Literal} (h : IsNumeral n l) :
    Lexer.ReadsAs n (.literal l) [.literal l] := by
  obtain ⟨ks, lexes, derives⟩ := Lexer.exists_readsAs h.parses
  cases derives with
  | expr _ hoperand =>
    cases hoperand with
    | literal => exact ⟨lexes, .expr (by decide) .literal⟩

/-- It is a number, and with a minus sign in front it is one token. -/
theorem IsNumeral.minus {n : List Char} {l : Literal} (h : IsNumeral n l) :
    l.IsNumber ∧ ∀ {last}, Lexer.AdmitsSign last →
      Lexer.Lexes last ('-' :: n) [.literal l.negated] := by
  have hlexes := h.readsAs.lexes
  obtain ⟨d, ds, rfl, hd⟩ := h.starts
  exact Lexer.lexes_minus hd hlexes

namespace Lexer

open Grammar (Derives Open)

variable {T E n R : List Char} {t e y : Expr} {l : Literal} {r : Option (Operator × Expr)}
  {ts es rs : List TokenKind} {line : Line}

/-- A minus sign behind parentheses is a subtraction. -/
theorem parse_group_minus (hT : ReadsAs T t ts) (hE : Lexes (some (.op .sub)) E es)
    (hhead : ∃ d ds, E = d :: ds ∧ endsSymbol d = false) (hmarker : TokenKind.marker ∉ es)
    (h : Parser.parse (.ofList (parensText T ('-' :: E))) = .ok line) :
    ∃ y, line = ⟨some (.binary .sub (.group t) y), false⟩ ∧ Derives Open 1 (.expr y) es := by
  have hlexes : Lexes none (parensText T ('-' :: E))
      (.openParen :: (ts ++ .closeParen :: .op .sub :: es)) := by
    obtain ⟨d, ds, rfl, hd⟩ := hhead
    exact hT.parens (.symbol .sub hd Bool.false_ne_true hE)
  have hmarkers : TokenKind.marker ∉ .openParen :: (ts ++ .closeParen :: .op .sub :: es) := by
    simp [hT.marker_not_mem, hmarker]
  obtain ⟨x, rfl, hx⟩ := ReadsAs.of_parse h hlexes (List.cons_ne_nil _ _) hmarkers
  obtain ⟨y, rfl, hy⟩ := hT.derives.of_group_op hx.derives
  exact ⟨y, rfl, hy.outward⟩

/-- Parentheses behind parentheses are a cast. -/
theorem parse_group_group (hT : ReadsAs T t ts) (hE : ReadsAs E e es)
    (h : Parser.parse (.ofList (parensText T (parensText E []))) = .ok line) :
    line = ⟨some (.cast t (.group e)), false⟩ := by
  have hlexes : Lexes none (parensText T (parensText E []))
      (.openParen :: (ts ++ .closeParen :: .openParen :: (es ++ [.closeParen]))) :=
    hT.parens (hE.parens (.nil _))
  have hmarkers : TokenKind.marker ∉
      .openParen :: (ts ++ .closeParen :: .openParen :: (es ++ [.closeParen])) := by
    simp [hT.marker_not_mem, hE.marker_not_mem]
  obtain ⟨x, rfl, hx⟩ := ReadsAs.of_parse h hlexes (List.cons_ne_nil _ _) hmarkers
  obtain ⟨y, rfl, hy⟩ := hT.derives.of_cast ⟨_, _, rfl, rfl⟩ hx.derives
  rw [hE.derives.of_group hy.outward]

/-- A minus sign behind an operand is a subtraction. -/
theorem parse_minus (hT : ReadsAs T t ts) (ht : t.isAssignable = true) (hE : ReadsAs E e es)
    (h : Parser.parse (.ofList (T ++ '-' :: E)) = .ok line) :
    line = ⟨some (.binary .sub t e), false⟩ := by
  have hlexes : Lexes none (T ++ '-' :: E) (ts ++ .op .sub :: es) :=
    hT.append rfl (breaks_operator .sub _) fun k hk =>
      hE.behind_symbol .sub (not_admitsSign_of_endsOperand hk)
  have hmarkers : TokenKind.marker ∉ ts ++ .op .sub :: es := by
    simp [hT.marker_not_mem, hE.marker_not_mem]
  obtain ⟨x, rfl, hx⟩ := ReadsAs.of_parse h hlexes (by simp) hmarkers
  obtain ⟨k, hoperand⟩ := hT.derives.exists_operand ht
  obtain ⟨y, rfl, hy⟩ := hoperand.of_op (Grammar.open_of_isAssignable ht) hx.derives
  rw [hy.outward.expr_unique hE.derives]

theorem lexes_numeral_append {last : Option TokenKind} (hn : IsNumeral n l)
    (hR : ContinuesAs R r rs) (hlast : AdmitsSign last) : Lexes last (n ++ R) (.literal l :: rs) :=
  (hn.readsAs.lexes_after hlast).append (by rintro k ⟨⟩; rfl) hR.breaks (hR.lexes rfl)

theorem lexes_minus_append {last : Option TokenKind} (hn : IsNumeral n l)
    (hR : ContinuesAs R r rs) (hlast : AdmitsSign last) :
    Lexes last ('-' :: (n ++ R)) (.literal l.negated :: rs) :=
  (hn.minus.2 hlast).append (by rintro k ⟨⟩; rfl) hR.breaks (hR.lexes rfl)

/-- The trees of a number with a minus sign behind parentheses, and in parentheses of its own. -/
theorem parse_negated {line' : Line} (hT : ReadsAs T t ts) (hn : IsNumeral n l)
    (hR : ContinuesAs R r rs)
    (h : Parser.parse (.ofList (parensText T ('-' :: (n ++ R)))) = .ok line)
    (h' : Parser.parse (.ofList (parensText T (parensText ('-' :: (n ++ R)) []))) = .ok line') :
    line = ⟨some (.binary .sub (.group t) ((Expr.literal l).continued r)), false⟩ ∧
      line' = ⟨some (.cast t (.group ((Expr.literal l.negated).continued r))), false⟩ := by
  have hhead : ∃ d ds, n ++ R = d :: ds ∧ endsSymbol d = false := by
    obtain ⟨d, ds, rfl, hd⟩ := hn.starts
    exact ⟨d, ds ++ R, rfl, endsSymbol_of_isDigit hd⟩
  have hmarker : TokenKind.marker ∉ .literal l :: rs := by simp [hR.marker_not_mem]
  have hplain : Lexes (some (.op .sub)) (n ++ R) (.literal l :: rs) :=
    lexes_numeral_append hn hR rfl
  have hminus : Lexes none ('-' :: (n ++ R)) (.literal l.negated :: rs) :=
    lexes_minus_append hn hR rfl
  obtain ⟨y, rfl, hy⟩ := parse_group_minus hT hplain hhead hmarker h
  have hnegated : ReadsAs ('-' :: (n ++ R)) ((Expr.literal l.negated).continued r)
      (.literal l.negated :: rs) := ⟨hminus, hR.derives hy _⟩
  rw [hR.eq_continued hy]
  exact ⟨rfl, parse_group_group hT hnegated h'⟩

end Lexer

/-! ## Evaluation -/

theorem Expr.isAssignable_of_isNameChain {t : Expr} (h : t.isNameChain = true) :
    t.isAssignable = true := by
  match t with
  | .name _ none | .member _ _ none => rfl

namespace Context

variable {cx : Context} {t e y : Expr} {s s₁ : Store} {ty : TypeRef}

theorem evalSigned_negated {l : Literal} (hl : l.IsNumber) :
    cx.evalSigned true (.literal l) = cx.evalSigned false (.literal l.negated) := by
  rw [evalSigned, evalSigned]
  match l with
  | .int _ | .float _ | .double _ => rfl

/-- A sign that is taken to the left end of an expression belongs to the number that stands there. -/
theorem evalSigned_continued {l : Literal} (hl : l.IsNumber) (r : Option (Operator × Expr)) :
    cx.evalSigned true ((Expr.literal l).continued r) =
      cx.evalSigned false ((Expr.literal l.negated).continued r) := by
  match r with
  | none => exact evalSigned_negated hl
  | some (o, e) =>
    have hcast : ∀ (negative : Bool) (l : Literal) (v : Value),
        castTarget? negative o (.literal l) v = none := by
      intro negative l v
      cases v with
      | type u => simp [castTarget?, Expr.isNameChainGroup]
      | _ => rfl
    rw [Expr.continued, Expr.continued, evalSigned_binary, evalSigned_binary, evalSigned_negated hl]
    simp only [hcast]

/-- A chain in parentheses that is a type, a minus sign and an expression: the expression is
evaluated with its sign changed at the left end, and cast. -/
theorem bare_run_group_minus (ht : t.isNameChain = true)
    (htype : (cx.evalHost t).run s = (.ok (.type ty), s₁)) :
    (cx.evalHost (.binary .sub (.group t) y)).bare.run s =
      ((cx.evalSigned true y).bare >>= fun v => (cx.world.cast v ty).bare).run s₁ := by
  have htarget : castTarget? false .sub (.group t) (.type ty) = some ty := by
    simp [castTarget?, Expr.isNameChainGroup, ht]
  have hbare : (cx.evalSigned false t).bare.run s = (.ok (.type ty), s₁) :=
    Act.bare_run_eq_ok_iff.2 htype
  have hright := cx.evalSigned_steady y true
  rw [← bare_eval, eval, evalSigned_binary, evalSigned_group,
    (cx.evalSigned_steady t false).bare_bind, Act.run_bind, hbare]
  simp only [htarget]
  rw [(hright.bind fun v => .host _).bare_framed, hright.bare_bind]
  rfl

/-- A cast to a type. -/
theorem bare_run_cast (htype : (cx.evalHost t).run s = (.ok (.type ty), s₁)) :
    (cx.evalHost (.cast t e)).bare.run s =
      ((cx.evalSigned false e).bare >>= fun v => (cx.world.cast v ty).bare).run s₁ := by
  have hbare : (cx.evalHost t).bare.run s = (.ok (.type ty), s₁) :=
    Act.bare_run_eq_ok_iff.2 htype
  have hty : (typeValue t (.type ty)).bare = pure ty := rfl
  rw [cx.bare_evalHost_framed rfl, bare_evalOperands_type, bare_evalOperands_value,
    bare_evalOperands_nil, bind_assoc, Act.run_bind, hbare]
  simp only [hty, bind_assoc, pure_bind]
  rfl

/-- Parentheses around a chain that is no type do not matter. -/
theorem eval_group_minus (htype : ∀ ty s₁, (cx.evalHost t).run s ≠ (.ok (.type ty), s₁)) :
    (cx.eval (.binary .sub (.group t) e)).run ⟨s, []⟩ =
      (cx.eval (.binary .sub t e)).run ⟨s, []⟩ := by
  rw [eval, eval, evalSigned_binary, evalSigned_binary, evalSigned_group, Act.run_bind,
    Act.run_bind]
  rcases hrun : (cx.evalSigned false t).run ⟨s, []⟩ with ⟨a | v, r⟩
  · rfl
  · have hcast : ∀ left, castTarget? false .sub left v = none := by
      intro left
      cases v with
      | type ty =>
        have hvalue : (cx.evalHost t).run s = (.ok (.type ty), r.store) := by
          rw [run_evalHost, eval, hrun]
        exact absurd hvalue (htype ty r.store)
      | _ => rfl
    simp only [hcast]

/-- A minus sign behind a chain of names in parentheses.  Where the chain is a type, a number without
a sign and what goes on behind it, an operator and an expression or nothing, are cast as if the
number had the sign and the parentheses were around all of it: there is the same value, or the same
panic or cause of a failure, and there are the same objects.  Where the chain is no type, the
parentheses around it make no difference at all.  Both lines have to be read, as an expression may
be nested too deep in one of them. -/
theorem evaluate_negated_cast (cx : Context) :
    (∀ {T n R : List Char} {t : Expr} {l : Literal} {r : Option (Operator × Expr)} {line line' : Line}
        {s s₁ : Store} {ty : TypeRef},
      Parser.parse (.ofList T) = .ok ⟨some t, false⟩ → t.isNameChain = true →
      IsNumeral n l → Continues R r →
      Parser.parse (.ofList (parensText T ('-' :: (n ++ R)))) = .ok line →
      Parser.parse (.ofList (parensText T (parensText ('-' :: (n ++ R)) []))) = .ok line' →
      (cx.evaluate (.ofList T)).run s = (.ok (.value (.type ty)), s₁) →
      (cx.evaluate (.ofList (parensText T ('-' :: (n ++ R))))).bare.run s =
        (cx.evaluate (.ofList (parensText T (parensText ('-' :: (n ++ R)) [])))).bare.run s) ∧
    (∀ {X E : List Char} {x e : Expr} {line line' : Line} {s : Store},
      Parser.parse (.ofList X) = .ok ⟨some x, false⟩ → x.isNameChain = true →
      Parser.parse (.ofList E) = .ok ⟨some e, false⟩ →
      Parser.parse (.ofList (parensText X ('-' :: E))) = .ok line →
      Parser.parse (.ofList (X ++ '-' :: E)) = .ok line' →
      (∀ ty s₁, (cx.evaluate (.ofList X)).run s ≠ (.ok (.value (.type ty)), s₁)) →
      (cx.evaluate (.ofList (parensText X ('-' :: E)))).run s =
        (cx.evaluate (.ofList (X ++ '-' :: E))).run s) := by
  constructor
  · intro T n R t l r line line' s s₁ ty hT ht hn hR hline hline' htype
    obtain ⟨ts, hts⟩ := Lexer.exists_readsAs hT
    obtain ⟨rs, hrs⟩ := Lexer.exists_continuesAs hR
    obtain ⟨rfl, rfl⟩ := Lexer.parse_negated hts hn hrs hline hline'
    have htype := (evaluate_eq_ok_iff hT).1 htype
    rw [bare_evaluate hline, bare_evaluate hline', Act.bare_bind, Act.bare_bind, Act.run_bind,
      Act.run_bind, bare_run_group_minus ht htype, bare_run_cast htype, evalSigned_group,
      evalSigned_continued hn.minus.1]
  · intro X E x e line line' s hX hx hE hline hline' htype
    obtain ⟨xs, hxs⟩ := Lexer.exists_readsAs hX
    obtain ⟨es, hes⟩ := Lexer.exists_readsAs hE
    have hright : Lexer.Lexes (some (.op .sub)) E es := hes.lexes_after rfl
    obtain ⟨y, rfl, hy⟩ :=
      Lexer.parse_group_minus hxs hright hes.head hes.marker_not_mem hline
    obtain rfl := hy.expr_unique hes.derives
    obtain rfl := Lexer.parse_minus hxs (Expr.isAssignable_of_isNameChain hx) hes hline'
    have hvalue : ∀ ty s₁, (cx.evalHost x).run s ≠ (.ok (.type ty), s₁) :=
      fun ty s₁ h => htype ty s₁ ((evaluate_eq_ok_iff hX).2 h)
    rw [evaluate_of_parse hline, evaluate_of_parse hline', eval_group_minus hvalue]

end Context

/-! ## Lines of the game -/

namespace Game

open Grammar (Derives Open)

theorem isNumeral_five : IsNumeral ['5'] (.int 5) := by
  have htext : chainText 5 [] = ['5'] := by
    decide +kernel
  refine ⟨⟨'5', [], rfl, rfl⟩, ?_⟩
  rw [← htext]
  exact parse_chainText (by decide)

theorem derives_hp {d : Nat} (hd : d + 1 ≤ Parser.maxDepth) :
    Derives Open d (.expr hp) [.name "player", .dot, .name "hp"] := by
  have hplayer : Derives Open d (.operand player 0) [.name "player"] := .name .noCall
  exact .expr (by omega) (.member hplayer rfl hd .noCall)

theorem readsAs_hp :
    Lexer.ReadsAs "player.hp".toList hp [.name "player", .dot, .name "hp"] := by
  refine ⟨Lexer.lexes_iff.2 ?_, derives_hp (by decide)⟩
  cbv

/-- The type of integers. -/
def int : Expr := .name "int" none

theorem derives_int {d : Nat} (hd : d ≤ Parser.maxDepth) :
    Derives Open d (.expr int) [.name "int"] :=
  .expr hd (.name .noCall)

theorem readsAs_int : Lexer.ReadsAs "int".toList int [.name "int"] := by
  refine ⟨Lexer.lexes_iff.2 ?_, derives_int (by decide)⟩
  cbv

/-- A number with the hit points added. -/
theorem derives_add_hp (i : Int64) {d : Nat} (hd : d + 2 ≤ Parser.maxDepth) :
    Derives Open d (.expr (.binary .add (.literal (.int i)) hp))
      [.literal (.int i), .op .add, .name "player", .dot, .name "hp"] := by
  have hnumber : Derives Open d (.operand (.literal (.int i)) 0) [.literal (.int i)] := .literal
  exact .binary (by omega) hnumber rfl (derives_hp hd)

theorem continuesAs_hp : Lexer.ContinuesAs "+player.hp".toList (some (.add, hp))
    [.op .add, .name "player", .dot, .name "hp"] :=
  .operation .add readsAs_hp

theorem parse_int_minus : Parser.parse
    (.ofList (parensText "int".toList ('-' :: ("5".toList ++ "+player.hp".toList)))) =
      .ok ⟨some (.binary .sub (.group int) (.binary .add (.literal (.int 5)) hp)), false⟩ := by
  have hgroup : Derives Open 1 (.operand (.group int) 0) [.openParen, .name "int", .closeParen] :=
    .group (derives_int (by decide))
  have hright : Lexer.Lexes (some (.op .sub)) ("5".toList ++ "+player.hp".toList)
      [.literal (.int 5), .op .add, .name "player", .dot, .name "hp"] :=
    Lexer.lexes_numeral_append isNumeral_five continuesAs_hp rfl
  refine Lexer.parse_of_lexes ?_
    (.value (.binary (by decide) hgroup rfl (derives_add_hp 5 (by decide))))
  rw [String.toList_ofList]
  exact readsAs_int.parens (.symbol .sub rfl Bool.false_ne_true hright)

theorem parse_int_parens : Parser.parse (.ofList (parensText "int".toList
    (parensText ('-' :: ("5".toList ++ "+player.hp".toList)) []))) =
      .ok ⟨some (.cast int (.group (.binary .add (.literal (.int (-5))) hp))), false⟩ := by
  have hnegated : Lexer.ReadsAs ('-' :: ("5".toList ++ "+player.hp".toList))
      (.binary .add (.literal (.int (-5))) hp)
      [.literal (.int (-5)), .op .add, .name "player", .dot, .name "hp"] :=
    ⟨Lexer.lexes_minus_append isNumeral_five continuesAs_hp rfl, derives_add_hp (-5) (by decide)⟩
  refine Lexer.parse_of_lexes ?_
    (.value (.expr (by decide) (.cast (derives_int (by decide)) (.expr (by decide)
      (.group (derives_add_hp (-5) (by decide)))))))
  rw [String.toList_ofList]
  exact readsAs_int.parens (hnegated.parens (.nil _))

/-- In a new game, `(int)-5+player.hp` is `(int)(-5+player.hp)`, and `(player.hp)-player.hp` is
`player.hp-player.hp`. -/
theorem evaluate_negated_cast_hp :
    (∃ s', ((context false).evaluate (.ofList (parensText "int".toList
        ('-' :: ("5".toList ++ "+player.hp".toList))))).bare.run (newGame.run {}).2 =
          (.ok (.value (.int 95)), s') ∧
      ((context false).evaluate (.ofList (parensText "int".toList
        (parensText ('-' :: ("5".toList ++ "+player.hp".toList)) [])))).bare.run
          (newGame.run {}).2 = (.ok (.value (.int 95)), s')) ∧
    ((context false).evaluate (.ofList (parensText "player.hp".toList
        ('-' :: "player.hp".toList)))).run (newGame.run {}).2 =
      ((context false).evaluate (.ofList ("player.hp".toList ++
        '-' :: "player.hp".toList))).run (newGame.run {}).2 := by
  obtain ⟨hcast, hsubtract⟩ := (context false).evaluate_negated_cast
  have hint : Parser.parse (.ofList "int".toList) = .ok ⟨some int, false⟩ := by
    cbv
  have hhp : Parser.parse (.ofList "player.hp".toList) = .ok ⟨some hp, false⟩ := by
    cbv
  constructor
  · have htype : ((context false).evaluate (.ofList "int".toList)).run (newGame.run {}).2 =
        (.ok (.value (.type (.builtin .int))), (newGame.run {}).2) :=
      (Context.evaluate_eq_ok_iff hint).2 rfl
    have hequal := hcast hint rfl isNumeral_five (.operation .add hhp) parse_int_minus
      parse_int_parens htype
    have hrun : ((context false).evaluate (.ofList (parensText "int".toList
        (parensText ('-' :: ("5".toList ++ "+player.hp".toList)) [])))).bare.run
          (newGame.run {}).2 = (.ok (.value (.int 95)), (newGame.run {}).2) :=
      Act.bare_run_eq_ok_iff.2 ((Context.evaluate_eq_ok_iff parse_int_parens).2 rfl)
    exact ⟨_, hequal.trans hrun, hrun⟩
  · have hgroup : Parser.parse (.ofList (parensText "player.hp".toList
        ('-' :: "player.hp".toList))) = .ok ⟨some (.binary .sub (.group hp) hp), false⟩ := by
      cbv
    have hplain : Parser.parse (.ofList ("player.hp".toList ++ '-' :: "player.hp".toList)) =
        .ok ⟨some (.binary .sub hp hp), false⟩ := by
      cbv
    refine hsubtract hhp rfl hhp hgroup hplain fun ty s₁ h => ?_
    cases (Context.evaluate_eq_ok_iff hhp).1 h

end Game

end DevConsole
