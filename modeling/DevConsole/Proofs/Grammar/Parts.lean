/-
# `DevConsole.Proofs.Grammar.Parts` — lines put together from expressions

An expression that is a line of its own may stand inside another line, in parentheses or behind an
operator.  There it is one level or more further in, and the line may be refused for that; but if
the line is read at all, then the part is read as the expression that it is alone:

    tokens                     tree               what is known of x
    l  op  us                  binary op l x      derived from us
    l  assignop  us            assign op l x      derived from us
    ( t )                      group t
    ( t )  op  us              binary op (group t) x      derived from us
    ( t )  us                  cast t x           derived from us, which start with an operand

The line is at level 1 and the rest behind an operator is at level 2.  What is read further in may
stand further out (`Derives.lower`), and so what a parser with fewer levels returns is compared with
what the line alone gives (`eq_of_expr_eq_ok`, `Derives.expr_unique`).
-/
import DevConsole.Proofs.Grammar.Exactness

namespace DevConsole

namespace Grammar

open DevConsole.Parser

variable {e l t x y : Expr} {o : Operator} {a : Option Operator} {k : Nat}
  {ks us : List TokenKind}

/-! ## Levels -/

/-- What may stand at a level may stand further out. -/
theorem Derives.lower {c : Expr → Prop} {d d' : Nat} {p : Phrase} (h : Derives c d p ks)
    (hd : d' ≤ d) : Derives c d' p ks := by
  induction h generalizing d' with
  | expr hmax _ ih => exact .expr (Nat.le_trans hd hmax) (ih hd)
  | binary hmax _ hopen _ ihl ihr =>
    exact .binary (Nat.le_trans hd hmax) (ihl hd) hopen (ihr (Nat.succ_le_succ hd))
  | assign hmax _ hopen ha _ ihl ihr =>
    exact .assign (Nat.le_trans hd hmax) (ihl hd) hopen ha (ihr (Nat.succ_le_succ hd))
  | literal => exact .literal
  | name _ ih => exact .name (ih hd)
  | group _ ih => exact .group (ih (Nat.succ_le_succ hd))
  | cast _ _ iht ihe => exact .cast (iht (Nat.succ_le_succ hd)) (ihe (Nat.succ_le_succ hd))
  | new _ _ iht ihc => exact .new (iht hd) (ihc hd)
  | @member _ k _ _ _ _ _ _ hopen hmax _ ihe ihc =>
    have hdots := Nat.add_le_add_right hd (k + 1)
    exact .member (ihe hd) hopen (Nat.le_trans hdots hmax) (ihc hdots)
  | typeName => exact .typeName
  | typeMember _ hmax ih =>
    exact .typeMember (ih hd) (Nat.le_trans (Nat.add_le_add_right hd (_ + 1)) hmax)
  | noCall => exact .noCall
  | emptyCall => exact .emptyCall
  | call _ ih => exact .call (ih hd)
  | lastArg _ ih => exact .lastArg (ih (Nat.succ_le_succ hd))
  | arg _ _ ihe ihes => exact .arg (ihe (Nat.succ_le_succ hd)) (ihes hd)

theorem Derives.outward {c : Expr → Prop} {d : Nat} {p : Phrase} (h : Derives c (d + 1) p ks) :
    Derives c d p ks :=
  h.lower (Nat.le_succ d)

/-- What the parser takes off the front is an expression of its own, at every level that leaves as
many levels as it had. -/
theorem exists_used {stop n d : Nat} {ts rest : List Token} (hn : n + d ≤ maxDepth + 1)
    (h : expr stop n ts = .ok (e, rest)) :
    ∃ used, ts = used ++ rest ∧ Derives Open d (.expr e) (kinds used) ∧ Clear goesOn rest := by
  have hsound : Sound (maxDepth + 1 - n) (expr stop n) :=
    (sound_expr_chain stop n).1 (by omega)
  obtain ⟨used, rfl, he, hclear⟩ := hsound h
  exact ⟨used, rfl, he.lower (by omega), hclear⟩

/-- An expression that is a line of its own is what a parser with fewer levels returns, if it
returns anything before a token at which an expression ends. -/
theorem eq_of_expr_eq_ok {stop n : Nat} {ts rest rest' : List Token} (hn : n ≤ maxDepth)
    (he : Derives Open 1 (.expr e) (kinds ts)) (hends : Ends rest)
    (h : expr stop n (ts ++ rest) = .ok (x, rest')) (hends' : Ends rest') :
    x = e ∧ rest' = rest := by
  obtain ⟨used, hused, hx, -⟩ := exists_used (Nat.add_le_add_right hn 1) h
  have hline := expr_complete stop he hends
  rw [hused, expr_complete stop hx hends'] at hline
  exact Prod.mk.inj (Except.ok.inj hline)

theorem exists_kinds (ks : List TokenKind) : ∃ ts, kinds ts = ks := by
  refine ⟨ks.map (⟨·, 0, 0⟩), ?_⟩
  rw [kinds, List.map_map]
  exact List.map_id ks

/-- A derived expression is read to the end of its tokens. -/
theorem expr_all {ts : List Token} (h : Derives Open 1 (.expr x) ks) (hts : kinds ts = ks) :
    expr 0 maxDepth ts = .ok (x, []) := by
  subst hts
  have hends : Ends [] := ⟨clear_nil _, clear_nil _⟩
  have hread := expr_complete 0 h hends
  rwa [List.append_nil] at hread

/-- No two expressions are derived from the same tokens. -/
theorem Derives.expr_unique (h : Derives Open 1 (.expr x) ks) (h' : Derives Open 1 (.expr y) ks) :
    x = y := by
  obtain ⟨ts, rfl⟩ := exists_kinds ks
  exact (Prod.mk.inj (Except.ok.inj ((expr_all h rfl).symm.trans (expr_all h' rfl)))).1

/-- What can be assigned to is one operand. -/
theorem Derives.exists_operand {c : Expr → Prop} {d : Nat} (hx : x.isAssignable = true)
    (h : Derives c d (.expr x) ks) : ∃ k, Derives c d (.operand x k) ks := by
  cases h with
  | expr _ h => exact ⟨_, h⟩
  | binary => cases hx
  | assign => cases hx

theorem open_of_isAssignable (hx : x.isAssignable = true) : Open x := by
  cases x with
  | cast => cases hx
  | _ => rfl

/-! ## Behind an operator -/

/-- The parser reads an operand and is then at what follows it, with fewer levels. -/
theorem exists_operation {ts rest rest' : List Token}
    (hl : Derives Open 1 (.operand l k) (kinds ts)) (hf : Follows l rest) (hdot : Clear isDot rest)
    (h : expr 0 maxDepth (ts ++ rest) = .ok (x, rest')) :
    ∃ n < maxDepth, operation 0 (expr 0 n) l rest = .ok (x, rest') := by
  have hdots : 1 + k ≤ maxDepth := hl.add_dots_le (by decide)
  obtain ⟨m, hm⟩ : ∃ m, k + m + 1 = maxDepth := ⟨maxDepth - k - 1, by omega⟩
  rw [← hm, expr_eq_operation (hl.read 0) rfl (by omega) hf hdot] at h
  exact ⟨k + m, by omega, h⟩

/-- What follows an operator is an expression of its own. -/
theorem of_operation_op {n : Nat} (hn : n < maxDepth) {ts : List Token} {i j : Nat}
    (h : operation 0 (expr 0 n) l (⟨.op o, i, j⟩ :: ts) = .ok (x, [])) :
    ∃ r, x = .binary o l r ∧ Derives Open 2 (.expr r) (kinds ts) := by
  rw [operation] at h
  split at h
  · cases h
  · rename_i hright
    obtain ⟨rfl, rfl⟩ := Prod.mk.inj (Except.ok.inj h)
    have hlevels : n + 2 ≤ maxDepth + 1 := Nat.succ_le_succ hn
    obtain ⟨used, rfl, hr, -⟩ := exists_used hlevels hright
    rw [List.append_nil]
    exact ⟨_, rfl, hr⟩

/-- An operand and an operator make the rest the right side. -/
theorem Derives.of_op (hl : Derives Open 1 (.operand l k) ks) (hopen : Open l)
    (h : Derives Open 1 (.expr x) (ks ++ .op o :: us)) :
    ∃ r, x = .binary o l r ∧ Derives Open 2 (.expr r) us := by
  obtain ⟨ts, rfl⟩ := exists_kinds ks
  obtain ⟨vs, rfl⟩ := exists_kinds us
  have hread : Parser.expr 0 maxDepth (ts ++ ⟨.op o, 0, 0⟩ :: vs) = .ok (x, []) :=
    expr_all h (by simp)
  obtain ⟨n, hn, hoperation⟩ :=
    exists_operation hl (follows_of_open hopen rfl) ((clear_cons _ _ _).2 rfl) hread
  exact of_operation_op hn hoperation

/-- A target and an assignment sign make the rest the value. -/
theorem Derives.of_assign (hl : Derives Open 1 (.operand l k) ks) (hopen : Open l)
    (h : Derives Open 1 (.expr x) (ks ++ .assign a :: us)) :
    ∃ r, x = .assign a l r ∧ Derives Open 2 (.expr r) us := by
  obtain ⟨ts, rfl⟩ := exists_kinds ks
  obtain ⟨vs, rfl⟩ := exists_kinds us
  have hread : Parser.expr 0 maxDepth (ts ++ ⟨.assign a, 0, 0⟩ :: vs) = .ok (x, []) :=
    expr_all h (by simp)
  obtain ⟨n, hn, hoperation⟩ :=
    exists_operation hl (follows_of_open hopen rfl) ((clear_cons _ _ _).2 rfl) hread
  rw [operation] at hoperation
  split at hoperation
  · split at hoperation
    · cases hoperation
    · rename_i hvalue
      obtain ⟨rfl, rfl⟩ := Prod.mk.inj (Except.ok.inj hoperation)
      have hlevels : n + 2 ≤ maxDepth + 1 := Nat.succ_le_succ hn
      obtain ⟨used, rfl, hr, -⟩ := exists_used hlevels hvalue
      rw [List.append_nil]
      exact ⟨_, rfl, hr⟩
  · cases hoperation

/-! ## In parentheses -/

theorem ends_closeParen (i j : Nat) (ts : List Token) : Ends (⟨.closeParen, i, j⟩ :: ts) :=
  ends_cons rfl rfl

/-- What stands in parentheses is read as the expression that it is alone, and the closing
parenthesis is left. -/
theorem parenthesized_eq {n i j : Nat} {ts rest rest' : List Token} (hn : n ≤ maxDepth)
    (ht : Derives Open 1 (.expr t) (kinds ts))
    (h : parenthesized 0 (expr 0 n) (ts ++ ⟨.closeParen, i, j⟩ :: rest) = .ok (x, rest')) :
    expr 0 n (ts ++ ⟨.closeParen, i, j⟩ :: rest) = .ok (t, ⟨.closeParen, i, j⟩ :: rest) := by
  rw [parenthesized] at h
  split at h
  · cases h
  · rename_i hinner
    split at h
    · cases h
    · rename_i hclose
      obtain ⟨i', j', rfl⟩ := close_eq_ok hclose
      obtain ⟨rfl, heq⟩ :=
        eq_of_expr_eq_ok hn ht (ends_closeParen i j rest) hinner (ends_closeParen i' j' _)
      rw [hinner, heq]

/-- A group is read as a group where no operand follows it. -/
theorem operation_of_group {i j i' j' : Nat} {ts rest rest' : List Token}
    (ht : Derives Open 1 (.expr t) (kinds ts)) (hclear : Clear TokenKind.startsOperand rest)
    (hdot : Clear isDot rest)
    (h : expr 0 maxDepth (⟨.openParen, i, j⟩ :: (ts ++ ⟨.closeParen, i', j'⟩ :: rest)) =
      .ok (x, rest')) :
    operation 0 (expr 0 (maxDepth - 1)) (.group t) rest = .ok (x, rest') := by
  rw [show maxDepth = (maxDepth - 1) + 1 from rfl, expr, primary] at h
  split at h
  · cases h
  · rename_i first after hprimary
    have hinner := parenthesized_eq (Nat.sub_le _ _) ht hprimary
    have hgroup : parenthesized 0 (expr 0 (maxDepth - 1)) (ts ++ ⟨.closeParen, i', j'⟩ :: rest) =
        .ok (.group t, rest) := by
      simp only [parenthesized, hinner, close]
      cases rest with
      | nil => rfl
      | cons u us => simp only [(clear_cons _ _ _).1 hclear, Bool.false_eq_true, if_false]
    obtain ⟨rfl, rfl⟩ := Prod.mk.inj (Except.ok.inj (hprimary.symm.trans hgroup))
    rw [chain_of_clear hdot] at h
    exact h

/-- An expression in parentheses is a group. -/
theorem Derives.of_group (ht : Derives Open 1 (.expr t) ks)
    (h : Derives Open 1 (.expr x) (.openParen :: ks ++ [.closeParen])) : x = .group t := by
  obtain ⟨ts, rfl⟩ := exists_kinds ks
  have hread : Parser.expr 0 maxDepth
      (⟨.openParen, 0, 0⟩ :: (ts ++ ⟨.closeParen, 0, 0⟩ :: [])) = .ok (x, []) :=
    expr_all h (by simp)
  have hgroup := operation_of_group ht (clear_nil _) (clear_nil _) hread
  rw [operation_of_clear (clear_nil _)] at hgroup
  exact (Prod.mk.inj (Except.ok.inj hgroup)).1.symm

/-- A group and an operator make the rest the right side. -/
theorem Derives.of_group_op (ht : Derives Open 1 (.expr t) ks)
    (h : Derives Open 1 (.expr x) (.openParen :: ks ++ .closeParen :: .op o :: us)) :
    ∃ r, x = .binary o (.group t) r ∧ Derives Open 2 (.expr r) us := by
  obtain ⟨ts, rfl⟩ := exists_kinds ks
  obtain ⟨vs, rfl⟩ := exists_kinds us
  have hread : Parser.expr 0 maxDepth
      (⟨.openParen, 0, 0⟩ :: (ts ++ ⟨.closeParen, 0, 0⟩ :: ⟨.op o, 0, 0⟩ :: vs)) = .ok (x, []) :=
    expr_all h (by simp)
  exact of_operation_op (by decide)
    (operation_of_group ht ((clear_cons _ _ _).2 rfl) ((clear_cons _ _ _).2 rfl) hread)

/-- Parentheses with an operand after them are a cast of the rest. -/
theorem Derives.of_cast (ht : Derives Open 1 (.expr t) ks)
    (hus : ∃ u vs, us = u :: vs ∧ u.startsOperand = true)
    (h : Derives Open 1 (.expr x) (.openParen :: ks ++ .closeParen :: us)) :
    ∃ y, x = .cast t y ∧ Derives Open 2 (.expr y) us := by
  obtain ⟨ts, rfl⟩ := exists_kinds ks
  obtain ⟨u, vs, rfl, hu⟩ := hus
  obtain ⟨ws, rfl⟩ := exists_kinds vs
  have hread : Parser.expr 0 (maxDepth - 1 + 1)
      (⟨.openParen, 0, 0⟩ :: (ts ++ ⟨.closeParen, 0, 0⟩ :: ⟨u, 0, 0⟩ :: ws)) = .ok (x, []) :=
    expr_all h (by simp)
  rw [Parser.expr, primary] at hread
  split at hread
  · cases hread
  · rename_i first after hprimary
    have hinner := parenthesized_eq (Nat.sub_le _ _) ht hprimary
    simp only [parenthesized, hinner, close, hu, if_true] at hprimary
    split at hprimary
    · cases hprimary
    · rename_i y rest hoperand
      obtain ⟨rfl, rfl⟩ := Prod.mk.inj (Except.ok.inj hprimary)
      have hlevels : maxDepth - 1 + 2 ≤ maxDepth + 1 := by decide
      obtain ⟨used, hused, hy, hclear⟩ := exists_used hlevels hoperand
      -- the cast has taken everything that goes on
      rw [chain_of_clear hclear.not_dot] at hread
      simp only [operation_of_clear hclear] at hread
      obtain ⟨rfl, rfl⟩ := Prod.mk.inj (Except.ok.inj hread)
      refine ⟨y, rfl, ?_⟩
      rw [List.append_nil] at hused
      rw [← hused] at hy
      exact hy

end Grammar

end DevConsole
