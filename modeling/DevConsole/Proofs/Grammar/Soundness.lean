/-
# `DevConsole.Proofs.Grammar.Soundness` — what the parser returns is derived

For every parser of the recursive descent: when it returns a tree and the tokens after it, the
tokens in between derive that tree, at the level that belongs to the number of levels still allowed.

    levels allowed in `expr`       n,  with  d + n = maxDepth + 1
    levels allowed in `primary`    n,  with  d + n = maxDepth
    levels allowed in `chain`      n,  with  d + k + n = maxDepth  after k dots

Two facts about what comes *after* are carried along, because a cast needs them: an expression is
left only where no dot and no operator follows (`Clear goesOn`), and so is an operand that is a
cast.  The first comes from the loop conditions, the second from the first, one level further in.

The parsers other than `expr` and `chain` take the parser of inner expressions as an argument, and
their lemmas take its soundness as a hypothesis (`Sound`); only `sound_expr_chain` recurses.
-/
import DevConsole.Proofs.Grammar.Derivation

namespace DevConsole

namespace Grammar

open DevConsole.Parser

/-! ## What comes next -/

/-- The tokens that go on from an operand. -/
def goesOn : TokenKind → Bool
  | .dot | .op _ | .assign _ => true
  | _ => false

/-- The token of a member access. -/
def isDot : TokenKind → Bool
  | .dot => true
  | _ => false

/-- No token of a class comes next. -/
def Clear (p : TokenKind → Bool) (ts : List Token) : Prop := ∀ t ∈ ts.head?, p t.kind = false

@[simp] theorem clear_nil (p : TokenKind → Bool) : Clear p [] := by
  intro t ht
  simp at ht

@[simp] theorem clear_cons (p : TokenKind → Bool) (t : Token) (ts : List Token) :
    Clear p (t :: ts) ↔ p t.kind = false := by
  simp [Clear]

/-- A dot is one of the tokens that go on. -/
theorem Clear.not_dot {ts : List Token} (h : Clear goesOn ts) : Clear isDot ts := by
  intro t ht
  have hk := h t ht
  cases hkind : t.kind with
  | dot =>
      rw [hkind] at hk
      cases hk
  | _ => rfl

/-- Where a pattern for a dot does not match, no dot comes next. -/
theorem clear_isDot {ts : List Token} (h : ∀ a b us, ts ≠ ⟨.dot, a, b⟩ :: us) :
    Clear isDot ts := by
  cases ts with
  | nil => exact clear_nil _
  | cons t us =>
      obtain ⟨kind, a, b⟩ := t
      rw [clear_cons]
      cases kind with
      | dot => exact absurd rfl (h a b us)
      | _ => rfl

/-- Where no dot comes next, and no pattern for an operator or an assignment matches, nothing goes
on. -/
theorem Clear.goesOn {ts : List Token} (h : Clear isDot ts)
    (hop : ∀ o a b us, ts ≠ ⟨.op o, a, b⟩ :: us)
    (hassign : ∀ o a b us, ts ≠ ⟨.assign o, a, b⟩ :: us) : Clear goesOn ts := by
  cases ts with
  | nil => exact clear_nil _
  | cons t us =>
      obtain ⟨kind, a, b⟩ := t
      rw [clear_cons] at h ⊢
      cases kind with
      | dot => cases h
      | op o => exact absurd rfl (hop o a b us)
      | assign o => exact absurd rfl (hassign o a b us)
      | _ => rfl

/-- What is gone on from is no cast, since nothing that goes on is left after a cast. -/
theorem open_of_not_clear {e : Expr} {ts : List Token}
    (hcast : e.isCast = true → Clear goesOn ts) (h : ¬ Clear goesOn ts) : Open e := by
  cases hc : e.isCast with
  | false => exact hc
  | true => exact absurd (hcast hc) h

/-! ## Parsers without inner expressions -/

theorem close_eq_ok {stop : Nat} {ts rest : List Token} (h : close stop ts = .ok rest) :
    ∃ a b, ts = ⟨.closeParen, a, b⟩ :: rest := by
  unfold close at h
  split at h
  · cases h
    exact ⟨_, _, rfl⟩
  · cases h

theorem name_eq_ok {stop : Nat} {n : String} {ts rest : List Token}
    (h : name stop ts = .ok (n, rest)) : ∃ a b, ts = ⟨.name n, a, b⟩ :: rest := by
  unfold name at h
  split at h
  · cases h
    exact ⟨_, _, rfl⟩
  · cases h

/-- Each dotted name of a constructed type takes one of the levels. -/
theorem typeChain_sound {stop d : Nat} : ∀ {n k : Nat} {t e : Expr} {ts rest : List Token}
    {ks : List TokenKind}, typeChain stop n t ts = .ok (e, rest) → d + k + n = maxDepth →
      Derives Open d (.typeName t k) ks →
      ∃ used k', ts = used ++ rest ∧ Derives Open d (.typeName e k') (ks ++ kinds used)
  | 0, k, t, e, ts, rest, ks, h, hn, ht => by
      unfold typeChain at h
      split at h
      · cases h
      · cases h
        exact ⟨[], k, rfl, by simpa using ht⟩
  | n + 1, k, t, e, ts, rest, ks, h, hn, ht => by
      unfold typeChain at h
      split at h
      · split at h
        · cases h
        · rename_i _ _ _ _ hname
          obtain ⟨a, b, rfl⟩ := name_eq_ok hname
          obtain ⟨used, k', rfl, he⟩ :=
            typeChain_sound h (by omega) (.typeMember ht (by omega))
          exact ⟨_ :: _ :: used, k', rfl, by simpa using he⟩
      · cases h
        exact ⟨[], k, rfl, by simpa using ht⟩

/-! ## Parsers with a parser of inner expressions -/

/-- The parser `p` returns expressions that its tokens derive at level `d`, and stops only where
nothing goes on from an operand. -/
def Sound (d : Nat) (p : List Token → Parsed Expr) : Prop :=
  ∀ {ts : List Token} {e : Expr} {rest : List Token}, p ts = .ok (e, rest) →
    ∃ used, ts = used ++ rest ∧ Derives Open d (.expr e) (kinds used) ∧ Clear goesOn rest

section Inner

variable {stop d : Nat} {p : List Token → Parsed Expr}

theorem argsLoop_sound (hp : Sound (d + 1) p) : ∀ {rounds : Nat} {ts rest : List Token}
    {es : List Expr}, argsLoop stop p rounds ts = .ok (es, rest) →
      ∃ used a b, ts = used ++ ⟨.closeParen, a, b⟩ :: rest ∧ Derives Open d (.args es) (kinds used)
  | 0, ts, rest, es, h => by cases h
  | rounds + 1, ts, rest, es, h => by
      unfold argsLoop at h
      split at h
      · cases h
      · rename_i first a b rest₁ hfirst
        obtain ⟨used, rfl, hd, -⟩ := hp hfirst
        split at h
        · cases h
        · rename_i hloop
          cases h
          obtain ⟨used', a', b', rfl, hds⟩ := argsLoop_sound hp hloop
          exact ⟨used ++ ⟨.comma, a, b⟩ :: used', a', b', by simp, by simpa using .arg hd hds⟩
      · rename_i first rest₁ hfirst
        obtain ⟨used, rfl, hd, -⟩ := hp hfirst
        split at h
        · cases h
        · rename_i hclose
          cases h
          obtain ⟨a, b, rfl⟩ := close_eq_ok hclose
          exact ⟨used, a, b, rfl, .lastArg hd⟩

theorem call_sound (hp : Sound (d + 1) p) {ts rest : List Token} {args : Option (List Expr)}
    (h : call stop p ts = .ok (args, rest)) :
    ∃ used, ts = used ++ rest ∧ Derives Open d (.call args) (kinds used) := by
  unfold call at h
  split at h
  · cases h
    exact ⟨[_, _], rfl, .emptyCall⟩
  · split at h
    · cases h
    · rename_i a b ts' _ _ _ _ hloop
      cases h
      obtain ⟨used, a', b', rfl, hds⟩ := argsLoop_sound hp hloop
      exact ⟨⟨.openParen, a, b⟩ :: used ++ [⟨.closeParen, a', b'⟩], by simp, by simpa using .call hds⟩
  · cases h
    exact ⟨[], rfl, .noCall⟩

theorem construction_sound {n : Nat} (hp : Sound (d + 1) p) (hn : d + n = maxDepth)
    {ts rest : List Token} {e : Expr} (h : construction stop n p ts = .ok (e, rest)) :
    ∃ used, ts = used ++ rest ∧ Derives Open d (.operand e 0) (.new :: kinds used) ∧
      e.isCast = false := by
  unfold construction at h
  split at h
  · cases h
  · rename_i n₀ rest₀ hname
    obtain ⟨a, b, rfl⟩ := name_eq_ok hname
    split at h
    · cases h
    · rename_i t rest₁ htype
      obtain ⟨used, k, rfl, ht⟩ := typeChain_sound htype (by omega) .typeName
      split at h
      · cases h
      · rename_i es rest₂ hcall
        cases h
        obtain ⟨used', rfl, hc⟩ := call_sound hp hcall
        exact ⟨⟨.name n₀, a, b⟩ :: used ++ used', by simp, by simpa using .new ht hc, rfl⟩
      · cases h

theorem parenthesized_sound (hp : Sound (d + 1) p) {ts rest : List Token} {e : Expr}
    (h : parenthesized stop p ts = .ok (e, rest)) :
    ∃ used, ts = used ++ rest ∧ Derives Open d (.operand e 0) (.openParen :: kinds used) ∧
      (e.isCast = true → Clear goesOn rest) := by
  unfold parenthesized at h
  split at h
  · cases h
  · rename_i inner rest₀ hinner
    obtain ⟨used, rfl, hi, -⟩ := hp hinner
    split at h
    · cases h
    · rename_i rest₁ hclose
      obtain ⟨a, b, rfl⟩ := close_eq_ok hclose
      have hgroup : Derives Open d (.operand (.group inner) 0)
          (.openParen :: kinds (used ++ [⟨.closeParen, a, b⟩])) := by simpa using .group hi
      split at h
      · cases h
        exact ⟨used ++ [⟨.closeParen, a, b⟩], by simp, hgroup, fun hc => by cases hc⟩
      · split at h
        · split at h
          · cases h
          · rename_i operand rest₂ hoperand
            cases h
            obtain ⟨used', hrest, ho, hclear⟩ := hp hoperand
            rw [hrest]
            exact ⟨used ++ ⟨.closeParen, a, b⟩ :: used', by simp, by simpa using .cast hi ho,
              fun _ => hclear⟩
        · cases h
          exact ⟨used ++ [⟨.closeParen, a, b⟩], by simp, hgroup, fun hc => by cases hc⟩

theorem primary_sound {n : Nat} (hp : Sound (d + 1) p) (hn : d + n = maxDepth)
    {ts rest : List Token} {e : Expr} (h : primary stop n p ts = .ok (e, rest)) :
    ∃ used, ts = used ++ rest ∧ Derives Open d (.operand e 0) (kinds used) ∧
      (e.isCast = true → Clear goesOn rest) := by
  unfold primary at h
  split at h
  · cases h
    exact ⟨[_], rfl, .literal, fun hc => by cases hc⟩
  · split at h
    · cases h
    · rename_i hcall
      cases h
      obtain ⟨used, rfl, hc⟩ := call_sound hp hcall
      exact ⟨_ :: used, rfl, .name hc, fun hc => by cases hc⟩
  · obtain ⟨used, rfl, he, hcast⟩ := parenthesized_sound hp h
    exact ⟨_ :: used, rfl, he, hcast⟩
  · obtain ⟨used, rfl, he, hcast⟩ := construction_sound hp hn h
    exact ⟨_ :: used, rfl, he, fun hc => by simp [hcast] at hc⟩
  · cases h

/-- What follows an operand completes an expression, unless the operand is a cast: then nothing
follows. -/
theorem operation_sound {k : Nat} (hp : Sound (d + 1) p) (hd : d ≤ maxDepth) {left e : Expr}
    {ks : List TokenKind} (hl : Derives Open d (.operand left k) ks) {ts rest : List Token}
    (hcast : left.isCast = true → Clear goesOn ts) (hdot : Clear isDot ts)
    (h : operation stop p left ts = .ok (e, rest)) :
    ∃ used, ts = used ++ rest ∧ Derives Open d (.expr e) (ks ++ kinds used) ∧
      Clear goesOn rest := by
  have hopen : ¬ Clear goesOn ts → Open left := open_of_not_clear hcast
  unfold operation at h
  split at h
  · split at h
    · cases h
    · rename_i hright
      cases h
      obtain ⟨used, rfl, hr, hclear⟩ := hp hright
      exact ⟨_ :: used, rfl, .binary hd hl (hopen (by simp [goesOn])) hr, hclear⟩
  · split at h
    · rename_i hassignable
      split at h
      · cases h
      · rename_i hvalue
        cases h
        obtain ⟨used, rfl, hr, hclear⟩ := hp hvalue
        exact ⟨_ :: used, rfl, .assign hd hl (hopen (by simp [goesOn])) hassignable hr, hclear⟩
    · cases h
  · rename_i hop hassign
    cases h
    exact ⟨[], rfl, by simpa using .expr hd hl, hdot.goesOn hop hassign⟩

end Inner

/-! ## The recursion -/

/-- The members taken of an operand: each dot is charged one level, the dots before it included. -/
def ChainSound (stop n : Nat) : Prop :=
  ∀ {d k : Nat} {target e : Expr} {ts rest : List Token} {ks : List TokenKind},
    d + k + n = maxDepth → Derives Open d (.operand target k) ks →
    (target.isCast = true → Clear goesOn ts) → chain stop n target ts = .ok (e, rest) →
    ∃ used k', ts = used ++ rest ∧ Derives Open d (.operand e k') (ks ++ kinds used) ∧
      (e.isCast = true → Clear goesOn rest) ∧ Clear isDot rest

/-- A chain that reads nothing. -/
theorem chain_sound_nil {d k : Nat} {e : Expr} {ts : List Token} {ks : List TokenKind}
    (he : Derives Open d (.operand e k) ks) (hcast : e.isCast = true → Clear goesOn ts)
    (hdot : ∀ a b us, ts ≠ ⟨.dot, a, b⟩ :: us) :
    ∃ used k', ts = used ++ ts ∧ Derives Open d (.operand e k') (ks ++ kinds used) ∧
      (e.isCast = true → Clear goesOn ts) ∧ Clear isDot ts :=
  ⟨[], k, rfl, by simpa using he, hcast, clear_isDot hdot⟩

theorem chain_sound {stop n : Nat} (ihexpr : ∀ {d : Nat}, d + n = maxDepth + 1 →
    Sound d (expr stop n)) (ihchain : ChainSound stop n) : ChainSound stop (n + 1) := by
  intro d k target e ts rest ks hn ht hcast h
  unfold chain at h
  split at h
  · rename_i a b rest₀
    split at h
    · cases h
    · rename_i m rest₁ hname
      obtain ⟨a', b', rfl⟩ := name_eq_ok hname
      split at h
      · cases h
      · rename_i args rest₂ hcall
        have hinner : Sound (d + (k + 1) + 1) (expr stop n) := ihexpr (by omega)
        obtain ⟨used, rfl, hc⟩ := call_sound hinner hcall
        have hopen : Open target := open_of_not_clear hcast (by simp [goesOn])
        have hmember := Derives.member (n := m) ht hopen (by omega) hc
        obtain ⟨used', k', rfl, he, hrest⟩ := ihchain (by omega) hmember (fun hc => by cases hc) h
        exact ⟨⟨.dot, a, b⟩ :: ⟨.name m, a', b'⟩ :: used ++ used', k', by simp, by simpa using he,
          hrest⟩
  · rename_i hdot
    cases h
    exact chain_sound_nil ht hcast hdot

/-- Expressions and chains are sound at every number of levels.  The induction is on that number:
both parsers pass on a smaller one. -/
theorem sound_expr_chain (stop : Nat) : ∀ n : Nat,
    (∀ {d : Nat}, d + n = maxDepth + 1 → Sound d (expr stop n)) ∧ ChainSound stop n
  | 0 => by
      constructor
      · intro d _ ts e rest h
        cases h
      · intro d k target e ts rest ks _ ht hcast h
        unfold chain at h
        split at h
        · cases h
        · rename_i hdot
          cases h
          exact chain_sound_nil ht hcast hdot
  | n + 1 => by
      obtain ⟨ihexpr, ihchain⟩ := sound_expr_chain stop n
      refine ⟨?_, chain_sound ihexpr ihchain⟩
      intro d hd ts e rest h
      have hinner : Sound (d + 1) (expr stop n) := ihexpr (by omega)
      unfold expr at h
      split at h
      · cases h
      · rename_i hprimary
        obtain ⟨used, rfl, hfirst, hcast⟩ := primary_sound hinner (by omega) hprimary
        split at h
        · cases h
        · rename_i hchain
          obtain ⟨used', k, rfl, hleft, hcast', hdot⟩ :=
            ihchain (by omega) hfirst hcast hchain
          obtain ⟨used'', rfl, he, hclear⟩ :=
            operation_sound hinner (by omega) hleft hcast' hdot h
          exact ⟨used ++ used' ++ used'', by simp, by simpa using he, hclear⟩

/-- An expression that the parser returns is derived, at level 1 if all levels were allowed. -/
theorem expr_sound {stop : Nat} {ts rest : List Token} {e : Expr}
    (h : expr stop maxDepth ts = .ok (e, rest)) :
    ∃ used, ts = used ++ rest ∧ Derives Open 1 (.expr e) (kinds used) := by
  have hsound : Sound 1 (expr stop maxDepth) :=
    (sound_expr_chain stop maxDepth).1 (Nat.add_comm 1 maxDepth)
  obtain ⟨used, hts, he, -⟩ := hsound h
  exact ⟨used, hts, he⟩

/-- A line ends after its expression, or after one marker more. -/
theorem lineEnd_eq_ok {stop : Nat} {e : Option Expr} {ts : List Token} {l : Line}
    (h : lineEnd stop e ts = .ok l) :
    ts = [] ∧ l = ⟨e, false⟩ ∨ ∃ a b, ts = [⟨.marker, a, b⟩] ∧ l = ⟨e, true⟩ := by
  unfold lineEnd at h
  split at h
  · cases h
    exact .inl ⟨rfl, rfl⟩
  · cases h
    exact .inr ⟨_, _, rfl, rfl⟩
  · cases h
  · cases h

/-- A line that the parser accepts is derived. -/
theorem line_sound {stop : Nat} {ts : List Token} {l : Line} (h : line stop ts = .ok l) :
    DerivesLine Open l (kinds ts) := by
  unfold line at h
  split at h
  · cases h
    exact .empty
  · rcases lineEnd_eq_ok h with ⟨hts, -⟩ | ⟨a, b, hts, rfl⟩
    · cases hts
    · rw [hts]
      exact .members
  · split at h
    · cases h
    · rename_i hexpr
      obtain ⟨used, rfl, he⟩ := expr_sound hexpr
      rcases lineEnd_eq_ok h with ⟨rfl, rfl⟩ | ⟨a, b, rfl, rfl⟩
      · simpa using .value he
      · simpa using .valueMembers he

end Grammar

end DevConsole
