/-
# `DevConsole.Proofs.Grammar.Exactness` — the parser decides the grammar

The other half of exactness: what the grammar derives, the parser reads.  The induction is on the
derivation, and each phrase has its own reading (`Read`):

    expr e         `expr` returns `e` and the rest, where neither an operand nor anything that goes
                   on comes next
    operand e k    `primary` returns some first operand from which `chain` comes to `e`, with `k`
                   levels fewer
    typeName e k   the same for `name` and `typeChain`
    call args      `call` returns `args`, where no call starts next
    args es        `argsLoop` returns `es` at the closing parenthesis

An operand is stated by what `chain` still has to do, and not by what it returns, because the
relation adds members at the end of a chain while the parser carries the chain along.

Main statements: `line_eq_ok_iff`, an equivalence, and `DerivesLine.unique`, which follows from it.
-/
import DevConsole.Proofs.Grammar.Soundness

namespace DevConsole

namespace Grammar

open DevConsole.Parser

theorem kinds_eq_cons {ts : List Token} {k : TokenKind} {ks : List TokenKind}
    (h : kinds ts = k :: ks) : ∃ a b us, ts = ⟨k, a, b⟩ :: us ∧ kinds us = ks := by
  obtain ⟨⟨kind, a, b⟩, us, rfl, hk, hks⟩ := List.map_eq_cons_iff.1 h
  cases hk
  exact ⟨a, b, us, rfl, hks⟩

theorem kinds_eq_append {ts : List Token} {ks ls : List TokenKind} (h : kinds ts = ks ++ ls) :
    ∃ us vs, ts = us ++ vs ∧ kinds us = ks ∧ kinds vs = ls :=
  List.map_eq_append_iff.1 h

/-! ## Where a phrase may end -/

/-- Neither an operand nor anything that goes on from one comes next. -/
def Ends (ts : List Token) : Prop := Clear TokenKind.startsOperand ts ∧ Clear goesOn ts

/-- What may come after an operand: no other operand and, if it is a cast, nothing that goes on. -/
def Follows (e : Expr) (ts : List Token) : Prop :=
  Clear TokenKind.startsOperand ts ∧ (e.isCast = true → Clear goesOn ts)

/-- A token that goes on follows an operand that is no cast. -/
theorem follows_of_open {e : Expr} (he : Open e) {t : Token} {ts : List Token}
    (ht : t.kind.startsOperand = false) : Follows e (t :: ts) :=
  ⟨(clear_cons _ _ _).2 ht, fun hc => by simp [Open] at he; simp [he] at hc⟩

theorem ends_cons {t : Token} {ts : List Token} (hs : t.kind.startsOperand = false)
    (hg : goesOn t.kind = false) : Ends (t :: ts) :=
  ⟨(clear_cons _ _ _).2 hs, (clear_cons _ _ _).2 hg⟩

theorem Ends.follows {e : Expr} {ts : List Token} (h : Ends ts) : Follows e ts :=
  ⟨h.1, fun _ => h.2⟩

/-! ## One step of each parser -/

section Steps

variable {stop : Nat} {p : List Token → Parsed Expr}

theorem chain_of_clear {n : Nat} {e : Expr} {ts : List Token} (h : Clear isDot ts) :
    chain stop n e ts = .ok (e, ts) := by
  cases n with
  | zero =>
      unfold chain
      split
      · cases (clear_cons _ _ _).1 h
      · rfl
  | succ n =>
      unfold chain
      split
      · cases (clear_cons _ _ _).1 h
      · rfl

theorem typeChain_of_clear {n : Nat} {e : Expr} {ts : List Token} (h : Clear isDot ts) :
    typeChain stop n e ts = .ok (e, ts) := by
  cases n with
  | zero =>
      unfold typeChain
      split
      · cases (clear_cons _ _ _).1 h
      · rfl
  | succ n =>
      unfold typeChain
      split
      · cases (clear_cons _ _ _).1 h
      · rfl

theorem operation_of_clear {e : Expr} {ts : List Token} (h : Clear goesOn ts) :
    operation stop p e ts = .ok (e, ts) := by
  unfold operation
  split
  · cases (clear_cons _ _ _).1 h
  · cases (clear_cons _ _ _).1 h
  · rfl

theorem call_of_clear {ts : List Token} (h : Clear TokenKind.startsOperand ts) :
    call stop p ts = .ok (none, ts) := by
  unfold call
  split
  · cases (clear_cons _ _ _).1 h
  · cases (clear_cons _ _ _).1 h
  · rfl

end Steps

/-- A chain that has read `k` dots has left that many levels. -/
theorem Derives.add_dots_le {c : Expr → Prop} {d k : Nat} {e : Expr} {ks : List TokenKind}
    (h : Derives c d (.operand e k) ks) (hd : d ≤ maxDepth) : d + k ≤ maxDepth := by
  cases h with
  | member _ _ hk _ => exact hk
  | _ => exact hd

theorem Derives.add_typeDots_le {c : Expr → Prop} {d k : Nat} {e : Expr} {ks : List TokenKind}
    (h : Derives c d (.typeName e k) ks) (hd : d ≤ maxDepth) : d + k ≤ maxDepth := by
  cases h with
  | typeMember _ hk => exact hk
  | typeName => exact hd

/-! ## How each phrase is read -/

/-- The parsers read the tokens as the phrase, at level `d`. -/
def Read (stop d : Nat) (ks : List TokenKind) : Phrase → Prop
  | .expr e => ∀ {n : Nat} {ts rest : List Token}, kinds ts = ks → d + n = maxDepth + 1 →
      Ends rest → expr stop n (ts ++ rest) = .ok (e, rest)
  | .operand e k => ∀ {m : Nat} {ts rest : List Token}, kinds ts = ks → d + k + m = maxDepth →
      Follows e rest →
      ∃ first mid, primary stop (k + m) (expr stop (k + m)) (ts ++ rest) = .ok (first, mid) ∧
        chain stop (k + m) first mid = chain stop m e rest
  | .typeName e k => ∀ {m : Nat} {ts rest : List Token}, kinds ts = ks → d + k + m = maxDepth →
      ∃ n mid, name stop (ts ++ rest) = .ok (n, mid) ∧
        typeChain stop (k + m) (.name n none) mid = typeChain stop m e rest
  | .call args => ∀ {n : Nat} {ts rest : List Token}, kinds ts = ks → d + n = maxDepth →
      Clear TokenKind.startsOperand rest →
      call stop (expr stop n) (ts ++ rest) = .ok (args, rest)
  | .args es => ∀ {n rounds a b : Nat} {ts rest : List Token}, kinds ts = ks → d + n = maxDepth →
      es.length ≤ rounds →
      argsLoop stop (expr stop n) rounds (ts ++ ⟨.closeParen, a, b⟩ :: rest) = .ok (es, rest)

section Read

variable {stop d k : Nat} {e l r t : Expr} {es : List Expr} {args : Option (List Expr)}
  {ks ls : List TokenKind}

/-! ### Expressions -/

/-- An expression reads its operand and is then at what follows it. -/
theorem expr_eq_operation {m : Nat} {ts rest : List Token} (h : Read stop d ks (.operand e k))
    (hts : kinds ts = ks) (hm : d + k + m = maxDepth) (hf : Follows e rest)
    (hdot : Clear isDot rest) :
    expr stop (k + m + 1) (ts ++ rest) = operation stop (expr stop (k + m)) e rest := by
  obtain ⟨first, mid, hprimary, hchain⟩ := h hts hm hf
  rw [chain_of_clear hdot] at hchain
  simp only [expr, hprimary, hchain]

theorem read_expr (hk : d + k ≤ maxDepth) (h : Read stop d ks (.operand e k)) :
    Read stop d ks (.expr e) := by
  intro n ts rest hts hn hends
  obtain ⟨m, rfl⟩ : ∃ m, n = k + m + 1 := ⟨n - k - 1, by omega⟩
  rw [expr_eq_operation h hts (by omega) hends.follows hends.2.not_dot]
  exact operation_of_clear hends.2

theorem read_binary {o : Operator} (hk : d + k ≤ maxDepth) (hl : Read stop d ks (.operand l k))
    (hopen : Open l) (hr : Read stop (d + 1) ls (.expr r)) :
    Read stop d (ks ++ .op o :: ls) (.expr (.binary o l r)) := by
  intro n ts rest hts hn hends
  obtain ⟨us, vs, rfl, hus, hvs⟩ := kinds_eq_append hts
  obtain ⟨a, b, ws, rfl, hws⟩ := kinds_eq_cons hvs
  obtain ⟨m, rfl⟩ : ∃ m, n = k + m + 1 := ⟨n - k - 1, by omega⟩
  have hright : expr stop (k + m) (ws ++ rest) = .ok (r, rest) := hr hws (by omega) hends
  rw [List.append_assoc, List.cons_append,
    expr_eq_operation hl hus (by omega) (follows_of_open hopen rfl) ((clear_cons _ _ _).2 rfl)]
  simp only [operation, hright]

theorem read_assign {o : Option Operator} (hk : d + k ≤ maxDepth)
    (hl : Read stop d ks (.operand l k)) (hopen : Open l) (ha : l.isAssignable = true)
    (hr : Read stop (d + 1) ls (.expr r)) :
    Read stop d (ks ++ .assign o :: ls) (.expr (.assign o l r)) := by
  intro n ts rest hts hn hends
  obtain ⟨us, vs, rfl, hus, hvs⟩ := kinds_eq_append hts
  obtain ⟨a, b, ws, rfl, hws⟩ := kinds_eq_cons hvs
  obtain ⟨m, rfl⟩ : ∃ m, n = k + m + 1 := ⟨n - k - 1, by omega⟩
  have hvalue : expr stop (k + m) (ws ++ rest) = .ok (r, rest) := hr hws (by omega) hends
  rw [List.append_assoc, List.cons_append,
    expr_eq_operation hl hus (by omega) (follows_of_open hopen rfl) ((clear_cons _ _ _).2 rfl)]
  simp only [operation, ha, if_true, hvalue]

/-! ### Operands -/

theorem read_literal {c : Literal} : Read stop d [.literal c] (.operand (.literal c) 0) := by
  intro m ts rest hts _ _
  obtain ⟨a, b, us, rfl, hus⟩ := kinds_eq_cons hts
  cases List.map_eq_nil_iff.1 hus
  exact ⟨.literal c, rest, rfl, by rw [Nat.zero_add]⟩

theorem read_name {n : String} (h : Read stop d ks (.call args)) :
    Read stop d (.name n :: ks) (.operand (.name n args) 0) := by
  intro m ts rest hts hm hf
  obtain ⟨a, b, us, rfl, hus⟩ := kinds_eq_cons hts
  have hcall : call stop (expr stop m) (us ++ rest) = .ok (args, rest) := h hus hm hf.1
  rw [Nat.zero_add]
  refine ⟨.name n args, rest, ?_, rfl⟩
  simp only [List.cons_append, primary, hcall]

theorem read_group (h : Read stop (d + 1) ks (.expr e)) :
    Read stop d (.openParen :: ks ++ [.closeParen]) (.operand (.group e) 0) := by
  intro m ts rest hts hm hf
  obtain ⟨a, b, us, rfl, hus⟩ := kinds_eq_cons hts
  obtain ⟨vs, ws, rfl, hvs, hws⟩ := kinds_eq_append hus
  obtain ⟨a', b', xs, rfl, hxs⟩ := kinds_eq_cons hws
  cases List.map_eq_nil_iff.1 hxs
  have hinner : expr stop m (vs ++ ⟨.closeParen, a', b'⟩ :: rest) =
      .ok (e, ⟨.closeParen, a', b'⟩ :: rest) := h hvs (by omega) (ends_cons rfl rfl)
  rw [Nat.zero_add]
  refine ⟨.group e, rest, ?_, rfl⟩
  simp only [List.cons_append, List.append_assoc, List.nil_append, primary, parenthesized, hinner,
    close]
  cases rest with
  | nil => rfl
  | cons t rest =>
      have ht := (clear_cons _ _ _).1 hf.1
      simp only [ht, Bool.false_eq_true, if_false]

theorem read_cast (hhead : ∃ u us, ls = u :: us ∧ u.startsOperand = true)
    (ht : Read stop (d + 1) ks (.expr t)) (he : Read stop (d + 1) ls (.expr e)) :
    Read stop d (.openParen :: ks ++ .closeParen :: ls) (.operand (.cast t e) 0) := by
  intro m ts rest hts hm hf
  obtain ⟨a, b, us, rfl, hus⟩ := kinds_eq_cons hts
  obtain ⟨vs, ws, rfl, hvs, hws⟩ := kinds_eq_append hus
  obtain ⟨a', b', xs, rfl, hxs⟩ := kinds_eq_cons hws
  have htype : expr stop m (vs ++ ⟨.closeParen, a', b'⟩ :: (xs ++ rest)) =
      .ok (t, ⟨.closeParen, a', b'⟩ :: (xs ++ rest)) := ht hvs (by omega) (ends_cons rfl rfl)
  have hoperand : expr stop m (xs ++ rest) = .ok (e, rest) := he hxs (by omega) ⟨hf.1, hf.2 rfl⟩
  -- the first token of the operand tells the cast from a group
  obtain ⟨u, us', rfl, hu⟩ := hhead
  obtain ⟨a'', b'', ys, rfl, -⟩ := kinds_eq_cons hxs
  rw [Nat.zero_add]
  refine ⟨.cast t e, rest, ?_, rfl⟩
  simp only [List.cons_append] at htype hoperand
  simp only [List.cons_append, List.append_assoc, primary, parenthesized, htype, close, hu, if_true,
    hoperand]

theorem read_new (hk : d ≤ maxDepth → d + k ≤ maxDepth) (ht : Read stop d ks (.typeName t k))
    (hhead : ∃ us, ls = .openParen :: us) (hc : Read stop d ls (.call (some es))) :
    Read stop d (.new :: ks ++ ls) (.operand (.new t es) 0) := by
  intro m ts rest hts hm hf
  obtain ⟨a, b, us, rfl, hus⟩ := kinds_eq_cons hts
  obtain ⟨vs, ws, rfl, hvs, hws⟩ := kinds_eq_append hus
  obtain ⟨m', rfl⟩ : ∃ m', m = k + m' := ⟨m - k, by have := hk (by omega); omega⟩
  obtain ⟨n, mid, hname, htype⟩ : ∃ n mid, name stop (vs ++ (ws ++ rest)) = .ok (n, mid) ∧
      typeChain stop (k + m') (.name n none) mid = typeChain stop m' t (ws ++ rest) :=
    ht hvs (by omega)
  have hcall : call stop (expr stop (k + m')) (ws ++ rest) = .ok (some es, rest) :=
    hc hws (by omega) hf.1
  -- the chain of the type ends at the parenthesis
  have hdot : Clear isDot (ws ++ rest) := by
    obtain ⟨us', rfl⟩ := hhead
    obtain ⟨a', b', xs, rfl, -⟩ := kinds_eq_cons hws
    exact (clear_cons _ _ _).2 rfl
  rw [typeChain_of_clear hdot] at htype
  rw [Nat.zero_add]
  refine ⟨.new t es, rest, ?_, rfl⟩
  simp only [List.cons_append, List.append_assoc, primary, construction, hname, htype, hcall]

theorem read_member {n : String} (he : Read stop d ks (.operand e k)) (hopen : Open e)
    (hc : Read stop (d + (k + 1)) ls (.call args)) :
    Read stop d (ks ++ .dot :: .name n :: ls) (.operand (.member e n args) (k + 1)) := by
  intro m ts rest hts hm hf
  obtain ⟨us, vs, rfl, hus, hvs⟩ := kinds_eq_append hts
  obtain ⟨a, b, ws, rfl, hws⟩ := kinds_eq_cons hvs
  obtain ⟨a', b', xs, rfl, hxs⟩ := kinds_eq_cons hws
  have hfollows : Follows e (⟨.dot, a, b⟩ :: ⟨.name n, a', b'⟩ :: (xs ++ rest)) :=
    follows_of_open hopen rfl
  obtain ⟨first, mid, hprimary, hchain⟩ := he (m := m + 1) hus (by omega) hfollows
  have hcall : call stop (expr stop m) (xs ++ rest) = .ok (args, rest) := hc hxs (by omega) hf.1
  have hlevels : k + 1 + m = k + (m + 1) := by omega
  rw [hlevels]
  refine ⟨first, mid, by simpa using hprimary, ?_⟩
  rw [hchain]
  simp only [chain, name, hcall]

/-! ### Constructed types -/

theorem read_typeName {n : String} :
    Read stop d [.name n] (.typeName (.name n none) 0) := by
  intro m ts rest hts _
  obtain ⟨a, b, us, rfl, hus⟩ := kinds_eq_cons hts
  cases List.map_eq_nil_iff.1 hus
  exact ⟨n, rest, rfl, by rw [Nat.zero_add]⟩

theorem read_typeMember {n : String} (ht : Read stop d ks (.typeName t k)) :
    Read stop d (ks ++ [.dot, .name n]) (.typeName (.member t n none) (k + 1)) := by
  intro m ts rest hts hm
  obtain ⟨us, vs, rfl, hus, hvs⟩ := kinds_eq_append hts
  obtain ⟨a, b, ws, rfl, hws⟩ := kinds_eq_cons hvs
  obtain ⟨a', b', xs, rfl, hxs⟩ := kinds_eq_cons hws
  cases List.map_eq_nil_iff.1 hxs
  obtain ⟨first, mid, hname, htype⟩ : ∃ first mid,
      name stop (us ++ ⟨.dot, a, b⟩ :: ⟨.name n, a', b'⟩ :: rest) = .ok (first, mid) ∧
        typeChain stop (k + (m + 1)) (.name first none) mid =
          typeChain stop (m + 1) t (⟨.dot, a, b⟩ :: ⟨.name n, a', b'⟩ :: rest) :=
    ht hus (by omega)
  have hlevels : k + 1 + m = k + (m + 1) := by omega
  rw [hlevels]
  refine ⟨first, mid, by simpa using hname, ?_⟩
  rw [htype]
  simp only [typeChain, name]

/-! ### Arguments -/

theorem read_noCall : Read stop d [] (.call none) := by
  intro n ts rest hts _ hclear
  cases List.map_eq_nil_iff.1 hts
  exact call_of_clear hclear

theorem read_emptyCall : Read stop d [.openParen, .closeParen] (.call (some [])) := by
  intro n ts rest hts _ _
  obtain ⟨a, b, us, rfl, hus⟩ := kinds_eq_cons hts
  obtain ⟨a', b', vs, rfl, hvs⟩ := kinds_eq_cons hus
  cases List.map_eq_nil_iff.1 hvs
  rfl

theorem read_call (hhead : ∃ u us, ks = u :: us ∧ u.startsOperand = true)
    (hlength : es.length ≤ ks.length + 1) (h : Read stop d ks (.args es)) :
    Read stop d (.openParen :: ks ++ [.closeParen]) (.call (some es)) := by
  intro n ts rest hts hn _
  obtain ⟨a, b, us, rfl, hus⟩ := kinds_eq_cons hts
  obtain ⟨vs, ws, rfl, hvs, hws⟩ := kinds_eq_append hus
  obtain ⟨a', b', xs, rfl, hxs⟩ := kinds_eq_cons hws
  cases List.map_eq_nil_iff.1 hxs
  have hrounds : es.length ≤ (vs ++ ⟨.closeParen, a', b'⟩ :: rest).length + 1 := by
    have : vs.length = ks.length := by rw [← hvs, kinds, List.length_map]
    simp only [List.length_append, List.length_cons]
    omega
  have hloop : argsLoop stop (expr stop n) ((vs ++ ⟨.closeParen, a', b'⟩ :: rest).length + 1)
      (vs ++ ⟨.closeParen, a', b'⟩ :: rest) = .ok (es, rest) := h hvs hn hrounds
  -- the first argument starts with no parenthesis that closes
  obtain ⟨u, us', rfl, hu⟩ := hhead
  obtain ⟨a'', b'', ys, rfl, -⟩ := kinds_eq_cons hvs
  simp only [List.cons_append] at hloop
  simp only [List.cons_append, List.append_assoc, List.nil_append, call]
  split
  · rename_i heq
    cases heq
    cases hu
  · rename_i heq
    cases heq
    simp only [hloop]
  · rename_i hopen
    exact absurd rfl (hopen _ _ _)

theorem read_lastArg (he : Read stop (d + 1) ks (.expr e)) : Read stop d ks (.args [e]) := by
  intro n rounds a b ts rest hts hn hrounds
  obtain ⟨rounds, rfl⟩ : ∃ r, rounds = r + 1 := ⟨rounds - 1, by simp at hrounds; omega⟩
  have hfirst : expr stop n (ts ++ ⟨.closeParen, a, b⟩ :: rest) =
      .ok (e, ⟨.closeParen, a, b⟩ :: rest) := he hts (by omega) (ends_cons rfl rfl)
  simp only [argsLoop, hfirst, close]

theorem read_arg (he : Read stop (d + 1) ks (.expr e)) (hes : Read stop d ls (.args es)) :
    Read stop d (ks ++ .comma :: ls) (.args (e :: es)) := by
  intro n rounds a b ts rest hts hn hrounds
  obtain ⟨us, vs, rfl, hus, hvs⟩ := kinds_eq_append hts
  obtain ⟨a', b', ws, rfl, hws⟩ := kinds_eq_cons hvs
  obtain ⟨rounds, rfl⟩ : ∃ r, rounds = r + 1 := ⟨rounds - 1, by simp at hrounds; omega⟩
  have hfirst : expr stop n (us ++ ⟨.comma, a', b'⟩ :: (ws ++ ⟨.closeParen, a, b⟩ :: rest)) =
      .ok (e, ⟨.comma, a', b'⟩ :: (ws ++ ⟨.closeParen, a, b⟩ :: rest)) :=
    he hus (by omega) (ends_cons rfl rfl)
  have hrest : argsLoop stop (expr stop n) rounds (ws ++ ⟨.closeParen, a, b⟩ :: rest) =
      .ok (es, rest) := hes hws hn (by simpa using hrounds)
  rw [List.append_assoc, List.cons_append]
  simp only [argsLoop, hfirst, hrest]

end Read

/-- Every derivation is read.  The induction is on the derivation, one case for each production. -/
theorem Derives.read {d : Nat} {ks : List TokenKind} {p : Phrase} (stop : Nat)
    (h : Derives Open d p ks) : Read stop d ks p := by
  induction h with
  | expr hd hoperand ih => exact read_expr (hoperand.add_dots_le hd) ih
  | binary hd hl hopen _ ihl ihr => exact read_binary (hl.add_dots_le hd) ihl hopen ihr
  | assign hd hl hopen ha _ ihl ihr => exact read_assign (hl.add_dots_le hd) ihl hopen ha ihr
  | literal => exact read_literal
  | name _ ih => exact read_name ih
  | group _ ih => exact read_group ih
  | cast _ he iht ihe => exact read_cast (he.exists_head trivial) iht ihe
  | new ht hc iht ihc => exact read_new ht.add_typeDots_le iht hc.exists_openParen ihc
  | member _ hopen _ _ ihe ihc => exact read_member ihe hopen ihc
  | typeName => exact read_typeName
  | typeMember _ _ ih => exact read_typeMember ih
  | noCall => exact read_noCall
  | emptyCall => exact read_emptyCall
  | call hes ih => exact read_call (hes.exists_head trivial) hes.length_args_le ih
  | lastArg _ ih => exact read_lastArg ih
  | arg _ _ ihe ihes => exact read_arg ihe ihes

/-! ## Lines -/

/-- A derived expression is read off the front of a line. -/
theorem expr_complete {e : Expr} {ts rest : List Token} (stop : Nat)
    (h : Derives Open 1 (.expr e) (kinds ts)) (hends : Ends rest) :
    expr stop maxDepth (ts ++ rest) = .ok (e, rest) := by
  have hread : Read stop 1 (kinds ts) (.expr e) := h.read stop
  exact hread rfl (Nat.add_comm 1 maxDepth) hends

/-- A line that starts with an operand is an expression and then its end. -/
theorem line_eq_lineEnd {e : Expr} {ts rest : List Token} (stop : Nat)
    (h : Derives Open 1 (.expr e) (kinds ts)) (hends : Ends rest) :
    line stop (ts ++ rest) = lineEnd stop (some e) rest := by
  have hexpr := expr_complete stop h hends
  obtain ⟨u, us, hts, hu⟩ := h.exists_head trivial
  obtain ⟨a, b, vs, rfl, -⟩ := kinds_eq_cons hts
  unfold line
  split
  · rename_i heq
    cases heq
  · rename_i heq
    cases heq
    cases hu
  · rw [hexpr]

/-- A derived line is accepted. -/
theorem line_complete {l : Line} {ts : List Token} (stop : Nat)
    (h : DerivesLine Open l (kinds ts)) : line stop ts = .ok l := by
  generalize hks : kinds ts = ks at h
  cases h with
  | empty =>
      cases List.map_eq_nil_iff.1 hks
      rfl
  | members =>
      obtain ⟨a, b, us, rfl, hus⟩ := kinds_eq_cons hks
      cases List.map_eq_nil_iff.1 hus
      rfl
  | value he =>
      subst hks
      have hends : Ends [] := ⟨clear_nil _, clear_nil _⟩
      have hline := line_eq_lineEnd stop he hends
      rwa [List.append_nil] at hline
  | valueMembers he =>
      obtain ⟨us, vs, rfl, rfl, hvs⟩ := kinds_eq_append hks
      obtain ⟨a, b, ws, rfl, hws⟩ := kinds_eq_cons hvs
      cases List.map_eq_nil_iff.1 hws
      exact line_eq_lineEnd stop he (ends_cons rfl rfl)

/-- Two derivations of the same tokens build the same line. -/
theorem DerivesLine.unique {l l' : Line} {ts : List Token} (h : DerivesLine Open l (kinds ts))
    (h' : DerivesLine Open l' (kinds ts)) : l = l' :=
  Except.ok.inj ((line_complete 0 h).symm.trans (line_complete 0 h'))

/-- The parser accepts a line exactly when the grammar derives it from all of the tokens, and the
grammar derives no other line from them. -/
theorem line_eq_ok_iff (stop : Nat) (ts : List Token) (l : Line) :
    (line stop ts = .ok l ↔ DerivesLine Open l (kinds ts)) ∧
      (DerivesLine Open l (kinds ts) → ∀ l', DerivesLine Open l' (kinds ts) → l' = l) :=
  ⟨⟨line_sound, line_complete stop⟩, fun h _ h' => h'.unique h⟩

/-! ## The bare grammar is ambiguous

`(a)b+c` has two trees in it, and the parser takes the first. -/

/-- `(a)b+c` as a cast of a sum. -/
def castOfSum : Expr :=
  .cast (.name "a" none) (.binary .add (.name "b" none) (.name "c" none))

/-- `(a)b+c` as a sum of a cast. -/
def sumOfCast : Expr :=
  .binary .add (.cast (.name "a" none) (.name "b" none)) (.name "c" none)

/-- The tokens of `(a)b+c`. -/
def castAndSum : List Token :=
  [⟨.openParen, 0, 1⟩, ⟨.name "a", 1, 2⟩, ⟨.closeParen, 2, 3⟩, ⟨.name "b", 3, 4⟩,
    ⟨.op .add, 4, 5⟩, ⟨.name "c", 5, 6⟩]

/-- A name on its own, at a level that is allowed. -/
theorem derives_name {c : Expr → Prop} {d : Nat} (hd : d ≤ maxDepth) (n : String) :
    Derives c d (.expr (.name n none)) [.name n] :=
  .expr hd (.name .noCall)

theorem derives_castOfSum (c : Expr → Prop) (hc : c (.name "b" none)) :
    Derives c 1 (.expr castOfSum) (kinds castAndSum) := by
  have hsum : Derives c 2 (.expr (.binary .add (.name "b" none) (.name "c" none)))
      ([.name "b"] ++ .op .add :: [.name "c"]) :=
    .binary (by decide) (.name .noCall) hc (derives_name (by decide) "c")
  exact .expr (by decide) (.cast (derives_name (by decide) "a") hsum)

/-- A cast takes the sum that follows it. -/
theorem line_castAndSum : line 6 castAndSum = .ok ⟨some castOfSum, false⟩ :=
  (line_eq_ok_iff 6 castAndSum ⟨some castOfSum, false⟩).1.2 (.value (derives_castOfSum Open rfl))

theorem derives_sumOfCast : Derives (fun _ => True) 1 (.expr sumOfCast) (kinds castAndSum) := by
  have hcast : Derives (fun _ => True) 1 (.operand (.cast (.name "a" none) (.name "b" none)) 0)
      (.openParen :: [.name "a"] ++ .closeParen :: [.name "b"]) :=
    .cast (derives_name (by decide) "a") (derives_name (by decide) "b")
  exact .binary (by decide) hcast trivial (derives_name (by decide) "c")

/-- Without the rule on casts the parser is not exact: the bare grammar derives two lines from
`(a)b+c`, and the parser returns only one. -/
theorem not_line_eq_ok_iff_bare :
    ¬ ∀ (stop : Nat) (ts : List Token) (l : Line),
      line stop ts = .ok l ↔ DerivesLine (fun _ => True) l (kinds ts) := by
  intro h
  have hcast := (h 6 castAndSum ⟨some castOfSum, false⟩).2
    (.value (derives_castOfSum (fun _ => True) trivial))
  have hsum := (h 6 castAndSum ⟨some sumOfCast, false⟩).2 (.value derives_sumOfCast)
  cases hcast.symm.trans hsum

end Grammar

end DevConsole
