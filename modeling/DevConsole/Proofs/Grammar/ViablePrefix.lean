/-
# `DevConsole.Proofs.Grammar.ViablePrefix` — a syntax error is at the first token that does not fit

When a line is refused, the tokens before the one that is pointed at can be completed to a line,
and with that token they cannot (`line_eq_error`).  The exception is the limit on nesting, which is
checked before the next token is looked at.

Both halves are read off one account of the whole parser (`reading_line`).  It looks one token
ahead, and that is why nothing that begins with the offending token is accepted.  How a beginning is
completed depends on where the parser stands:

    at a name or an operand         with a name, then as below
    behind the type of a `new`      with an empty argument list, then as below
    at the end of an expression     with nothing but the parentheses that are still open

None of these takes a level of nesting that has not been entered before.

As in `DevConsole.Proofs.Grammar.Soundness`, the parsers other than `expr` and `chain` take what
holds of the parser of inner expressions as a hypothesis.  What a stage of a parser has taken is
known from soundness, and so the reading of the next stage starts from a derivation.
-/
import DevConsole.Proofs.Grammar.Reading

namespace DevConsole

namespace Grammar

open DevConsole.Parser

variable {α : Type} {stop : Nat} {ts : List Token}

/-! ## Parsers with a parser of inner expressions -/

/-- What is taken by the parser `p` is the beginning of an expression at level `d`. -/
def ReadsExpr (stop d : Nat) (p : List Token → Parsed Expr) : Prop :=
  ∀ ts, Reading stop p (fun ks => ∃ e, Derives Open d (.expr e) ks) ts

/-- Arguments up to the closing parenthesis. -/
def args (stop : Nat) (p : List Token → Parsed Expr) (ts : List Token) : Parsed (List Expr) :=
  argsLoop stop p (ts.length + 1) ts

/-- What comes after an argument: a comma and more arguments, or the closing parenthesis. -/
def argsTail (stop : Nat) (p : List Token → Parsed Expr) (a : Expr) :
    List Token → Parsed (List Expr)
  | ⟨.comma, _, _⟩ :: rest => andThen (args stop p) (fun as us => .ok (a :: as, us)) rest
  | rest => andThen (closed stop) (fun _ us => .ok ([a], us)) rest

/-- What comes after the type of a `new`: the arguments. -/
def construct (stop : Nat) (p : List Token → Parsed Expr) (t : Expr) :
    List Token → Parsed Expr :=
  andThen (call stop p) fun as ts => match as with
    | some as => .ok (.new t as, ts)
    | none => .error (unexpected stop "expected '(' after the constructed type" ts)

/-- What comes after an expression in parentheses: the operand of a cast, if one starts there. -/
def groupOrCast (p : List Token → Parsed Expr) (inner : Expr) : List Token → Parsed Expr
  | [] => .ok (.group inner, [])
  | t :: ts =>
    if t.kind.startsOperand then
      andThen p (fun operand rest => .ok (.cast inner operand, rest)) (t :: ts)
    else .ok (.group inner, t :: ts)

section Inner

variable {d : Nat} {p : List Token → Parsed Expr}

/-- With enough rounds for all tokens their number does not matter. -/
theorem argsLoop_eq (hp : Sound (d + 1) p) {rounds rounds' : Nat} {ts : List Token}
    (h : ts.length < rounds) (h' : ts.length < rounds') :
    argsLoop stop p rounds ts = argsLoop stop p rounds' ts := by
  induction rounds generalizing rounds' ts with
  | zero => omega
  | succ rounds ih =>
      cases rounds' with
      | zero => omega
      | succ rounds' =>
          unfold argsLoop
          split
          · rfl
          · rename_i rest hfirst
            obtain ⟨used, rfl, -, -⟩ := hp hfirst
            simp only [List.length_append, List.length_cons] at h h'
            have hlater : argsLoop stop p rounds rest = argsLoop stop p rounds' rest :=
              ih (by omega) (by omega)
            rw [hlater]
          · rfl

theorem argsTail_of_no_comma {a : Expr} {ts : List Token}
    (h : ∀ b c us, ts = ⟨.comma, b, c⟩ :: us → False) :
    argsTail stop p a ts = andThen (closed stop) (fun _ rest => .ok ([a], rest)) ts := by
  unfold argsTail
  split
  · exact (h _ _ _ rfl).elim
  · rfl

theorem args_eq_andThen (hp : Sound (d + 1) p) (ts : List Token) :
    args stop p ts = andThen p (argsTail stop p) ts := by
  unfold args argsLoop andThen
  split
  · rename_i h
    simp only [h]
  · rename_i a b c rest hfirst
    obtain ⟨used, rfl, -, -⟩ := hp hfirst
    have hrounds : argsLoop stop p (used ++ ⟨.comma, b, c⟩ :: rest).length rest =
        argsLoop stop p (rest.length + 1) rest :=
      argsLoop_eq hp (by simp only [List.length_append, List.length_cons]; omega) (by omega)
    have htail : argsTail stop p a (⟨.comma, b, c⟩ :: rest) =
        andThen (args stop p) (fun as us => .ok (a :: as, us)) rest := rfl
    simp only [hrounds, hfirst, htail, andThen, args]
    cases argsLoop stop p (rest.length + 1) rest <;> rfl
  · rename_i a rest hcomma hfirst
    simp only [hfirst, argsTail_of_no_comma hcomma, andThen, closed]
    cases close stop rest <;> rfl

theorem call_eq_andThen {a b : Nat} {ts : List Token}
    (h : ∀ a b us, ts = ⟨.closeParen, a, b⟩ :: us → False) :
    call stop p (⟨.openParen, a, b⟩ :: ts) =
      andThen (args stop p) (fun as rest => .ok (some as, rest)) ts := by
  unfold call
  split
  · rename_i heq
    cases heq
    exact (h _ _ _ rfl).elim
  · rename_i heq
    cases heq
    rw [andThen, args]
    cases argsLoop stop p (ts.length + 1) ts <;> rfl
  · rename_i hopen
    exact (hopen _ _ _ rfl).elim

theorem parenthesized_eq_andThen (ts : List Token) :
    parenthesized stop p ts =
      andThen p (fun inner => andThen (closed stop) fun _ => groupOrCast p inner) ts := by
  refine eq_andThen (fun e h => by simp only [parenthesized, h]) fun inner rest h => ?_
  simp only [parenthesized, h, andThen, closed]
  rcases close stop rest with _ | _ | ⟨t, us⟩
  · rfl
  · rfl
  · dsimp only [Except.map, groupOrCast]
    rw [andThen]
    rcases p (t :: us) with _ | ⟨_, _⟩ <;> rfl

theorem construction_eq_andThen {n : Nat} (ts : List Token) :
    construction stop n p ts =
      andThen (name stop)
        (fun m => andThen (typeChain stop n (.name m none)) (construct stop p)) ts := by
  refine eq_andThen (fun e h => by simp only [construction, h]) fun m rest h => ?_
  refine eq_andThen (fun e h' => by simp only [construction, h, h']) fun t rest' h' => ?_
  refine eq_andThen (fun e h'' => by simp only [construction, h, h', h'']) fun as rest'' h'' => ?_
  cases as <;> simp only [construction, h, h', h'']

/-- Arguments and the parenthesis that closes them. -/
def ClosedArgs (d : Nat) (ks : List TokenKind) : Prop :=
  ∃ es ls, Derives Open d (.args es) ls ∧ ks = ls ++ [.closeParen]

theorem ClosedArgs.last {e : Expr} {ks : List TokenKind}
    (he : Derives Open (d + 1) (.expr e) ks) : ClosedArgs d (ks ++ [.closeParen]) :=
  ⟨[e], ks, .lastArg he, rfl⟩

theorem ClosedArgs.arg {e : Expr} {ks ls : List TokenKind}
    (he : Derives Open (d + 1) (.expr e) ks) (h : ClosedArgs d ls) :
    ClosedArgs d (ks ++ .comma :: ls) := by
  obtain ⟨es, ls, hes, rfl⟩ := h
  exact ⟨e :: es, ks ++ .comma :: ls, .arg he hes, by simp⟩

theorem ClosedArgs.call {ks : List TokenKind} (h : ClosedArgs d ks) :
    ∃ args, Derives Open d (.call args) (.openParen :: ks) := by
  obtain ⟨es, ls, hes, rfl⟩ := h
  exact ⟨some es, .call hes⟩

/-- What a parser of inner expressions has taken, as a derivation. -/
theorem Sound.derives {e : Expr} {used rest : List Token} (hp : Sound d p)
    (h : p (used ++ rest) = .ok (e, rest)) : Derives Open d (.expr e) (kinds used) := by
  obtain ⟨used', hused, he, -⟩ := hp h
  rwa [List.append_cancel_right hused]

variable (hp : Sound (d + 1) p) (hr : ReadsExpr stop (d + 1) p)

include hp hr

/-- The induction is on the number of tokens, of which every argument but the last takes a comma. -/
theorem reading_args (ts : List Token) : Reading stop (args stop p) (ClosedArgs d) ts := by
  induction hn : ts.length using Nat.strongRecOn generalizing ts with
  | ind n ih =>
  refine .bind (fun us _ => args_eq_andThen hp us) (hr ts) ?_ ?_
  · rintro ks ⟨e, he⟩
    exact ⟨[.closeParen], .last he⟩
  · intro used rest a hts hfirst
    have ha : Derives Open (d + 1) (.expr a) (kinds used) := hp.derives hfirst
    by_cases hcomma : ∃ b c us, rest = ⟨.comma, b, c⟩ :: us
    · obtain ⟨b, c, rest, rfl⟩ := hcomma
      have hlength : rest.length < n := by
        rw [← hn, hts, List.length_append, List.length_cons]
        omega
      refine .cons (p := fun us => argsTail stop p a (⟨.comma, b, c⟩ :: us)) (fun us => rfl) ?_
      exact .map (fun as => a :: as) (fun us _ => rfl)
        (ih _ hlength rest rfl) fun ks hks => .arg ha hks
    · have hnone : ∀ b c us, rest = ⟨.comma, b, c⟩ :: us → False :=
        fun b c us h => hcomma ⟨b, c, us, h⟩
      refine .map (fun _ => [a]) (fun us hus => argsTail_of_no_comma (hus.no_head hnone))
        (reading_closed stop rest) ?_
      rintro _ rfl
      exact .last ha

theorem reading_call (ts : List Token) :
    Reading stop (call stop p) (fun ks => ∃ args, Derives Open d (.call args) ks) ts := by
  by_cases hopen : ∃ a b us, ts = ⟨.openParen, a, b⟩ :: us
  · obtain ⟨a, b, ts, rfl⟩ := hopen
    by_cases hclose : ∃ a b us, ts = ⟨.closeParen, a, b⟩ :: us
    · obtain ⟨a', b', ts, rfl⟩ := hclose
      exact .ok [⟨.openParen, a, b⟩, ⟨.closeParen, a', b'⟩] ts (some []) rfl fun us _ => rfl
    · have hnone : ∀ a b us, ts = ⟨.closeParen, a, b⟩ :: us → False :=
        fun a b us h => hclose ⟨a, b, us, h⟩
      refine .cons (p := fun us => call stop p (⟨.openParen, a, b⟩ :: us)) (fun us => rfl) ?_
      exact .map some (fun us hus => call_eq_andThen (hus.no_head hnone)) (reading_args hp hr ts)
        fun ks hks => hks.call
  · have hnone : ∀ a b us, ts = ⟨.openParen, a, b⟩ :: us → False :=
      fun a b us h => hopen ⟨a, b, us, h⟩
    refine .of_ok (x := none) fun us hus => ?_
    unfold call
    split
    · exact (hus.no_head hnone _ _ _ rfl).elim
    · exact (hus.no_head hnone _ _ _ rfl).elim
    · rfl

/-- Behind the type the arguments may not be left out, and an empty list of them is complete. -/
theorem reading_construct {k : Nat} {t : Expr} {ks : List TokenKind}
    (ht : Derives Open d (.typeName t k) ks) (ts : List Token) :
    Reading stop (construct stop p t)
      (fun ls => ∃ e, Derives Open d (.operand e 0) (.new :: (ks ++ ls))) ts := by
  have hempty : ∃ ls e, Derives Open d (.operand e 0) (.new :: (ks ++ ls)) :=
    ⟨_, _, .new ht .emptyCall⟩
  refine .bind (fun us _ => rfl) (reading_call hp hr ts) ?_ ?_
  · rintro ls ⟨as, hls⟩
    cases as with
    | none =>
        cases hls
        exact hempty
    | some as => exact ⟨[], .new t as, by simpa using .new ht hls⟩
  · intro used rest as _ hcall
    obtain ⟨used', hused, has⟩ := call_sound hp hcall
    obtain rfl : used = used' := List.append_cancel_right hused
    cases as with
    | none =>
        obtain rfl : used = [] := List.map_eq_nil_iff.1 has.eq_nil_of_noCall
        exact .of_unexpected "expected '(' after the constructed type" (fun us _ => rfl) hempty
    | some as => exact .of_ok fun us _ => rfl

theorem reading_construction {n : Nat} (hn : d + n = maxDepth) (ts : List Token) :
    Reading stop (construction stop n p)
      (fun ks => ∃ e, Derives Open d (.operand e 0) (.new :: ks)) ts := by
  have hempty : ∀ {t : Expr} {k : Nat} {ks : List TokenKind}, Derives Open d (.typeName t k) ks →
      ∃ ls e, Derives Open d (.operand e 0) (.new :: (ks ++ ls)) :=
    fun ht => ⟨_, _, .new ht .emptyCall⟩
  refine reading_name_andThen construction_eq_andThen (fun m => hempty .typeName)
    (fun m rest => ?_) ts
  refine .bind (fun us _ => rfl) (reading_typeChain (by omega) .typeName rest) ?_ ?_
  · rintro ks ⟨t, k, ht⟩
    exact hempty ht
  intro used' rest' t _ htype
  obtain ⟨used'', k, hused', ht⟩ := typeChain_sound htype (by omega) (.typeName (d := d))
  obtain rfl : used' = used'' := List.append_cancel_right hused'
  exact reading_construct hp hr ht rest'

omit hp in
/-- The group is complete, and so is a cast with any operand. -/
theorem reading_groupOrCast {inner : Expr} {ks : List TokenKind}
    (hi : Derives Open (d + 1) (.expr inner) ks) (ts : List Token) :
    Reading stop (groupOrCast p inner)
      (fun ls => ∃ e, Derives Open d (.operand e 0) (.openParen :: (ks ++ .closeParen :: ls)))
      ts := by
  cases ts with
  | nil =>
      refine .of_ok (x := .group inner) fun us hus => ?_
      obtain rfl := hus.eq_nil
      rfl
  | cons t ts =>
      cases ht : t.kind.startsOperand with
      | false =>
          refine .of_ok (x := .group inner) fun us hus => ?_
          obtain ⟨vs, rfl⟩ := hus.eq_cons
          rw [groupOrCast, ht]
          rfl
      | true =>
          refine .map (.cast inner) (fun us hus => ?_) (hr (t :: ts)) ?_
          · obtain ⟨vs, rfl⟩ := hus.eq_cons
            rw [groupOrCast, ht]
            rfl
          · rintro ls ⟨e, he⟩
            exact ⟨.cast inner e, .cast hi he⟩

theorem reading_parenthesized (ts : List Token) :
    Reading stop (parenthesized stop p)
      (fun ks => ∃ e, Derives Open d (.operand e 0) (.openParen :: ks)) ts := by
  refine .bind (fun us _ => parenthesized_eq_andThen us) (hr ts) ?_ ?_
  · rintro ks ⟨e, he⟩
    exact ⟨[.closeParen], _, .group he⟩
  intro used rest inner _ hinner
  have hi : Derives Open (d + 1) (.expr inner) (kinds used) := hp.derives hinner
  refine .bind (fun us _ => rfl) (reading_closed stop rest) ?_ ?_
  · rintro _ rfl
    exact ⟨[], _, by simpa using .group hi⟩
  intro used' rest' _ _ hclosed
  obtain ⟨a, b, hused'⟩ := closed_eq_ok hclosed
  obtain rfl : used' = [⟨.closeParen, a, b⟩] := List.append_cancel_right hused'
  simpa using reading_groupOrCast hr hi rest'

/-- An operand without its members. -/
theorem reading_primary {n : Nat} (hn : d + n = maxDepth) (ts : List Token) :
    Reading stop (primary stop n p) (fun ks => ∃ e, Derives Open d (.operand e 0) ks) ts := by
  have hname : ∃ ks e, Derives Open d (.operand e 0) ks := ⟨_, .name "" none, .name .noCall⟩
  cases ts with
  | nil =>
      refine .of_unexpected "expected an operand" (fun us hus => ?_) hname
      obtain rfl := hus.eq_nil
      rfl
  | cons t ts =>
      obtain ⟨kind, a, b⟩ := t
      cases kind with
      | literal c => exact .ok [⟨.literal c, a, b⟩] ts (.literal c) rfl fun us _ => rfl
      | name m =>
          refine .cons (p := fun us => primary stop n p (⟨.name m, a, b⟩ :: us)) (fun us => rfl) ?_
          refine .map (.name m)
            (fun us _ => by rw [primary, andThen]; cases call stop p us <;> rfl)
            (reading_call hp hr ts) ?_
          rintro ks ⟨as, hks⟩
          exact ⟨.name m as, .name hks⟩
      | openParen => exact .cons (fun us => rfl) (reading_parenthesized hp hr ts)
      | new => exact .cons (fun us => rfl) (reading_construction hp hr hn ts)
      | _ =>
          refine .of_unexpected "expected an operand" (fun us hus => ?_) hname
          obtain ⟨vs, rfl⟩ := hus.eq_cons
          rfl

omit hp in
/-- What follows an operand.  Where it cannot be assigned to, it is an expression as it stands. -/
theorem reading_operation {k : Nat} {left : Expr} {ks : List TokenKind} (hd : d ≤ maxDepth)
    (hl : Derives Open d (.operand left k) ks) (ts : List Token)
    (hcast : left.isCast = true → Clear goesOn ts) :
    Reading stop (operation stop p left)
      (fun ls => ∃ e, Derives Open d (.expr e) (ks ++ ls)) ts := by
  have hopen : ¬ Clear goesOn ts → Open left := open_of_not_clear hcast
  cases ts with
  | nil =>
      refine .of_ok (x := left) fun us hus => ?_
      obtain rfl := hus.eq_nil
      rfl
  | cons t ts =>
      obtain ⟨kind, a, b⟩ := t
      cases kind with
      | op o =>
          have hleft : Open left := hopen (by simp [goesOn])
          refine .cons (p := fun us => operation stop p left (⟨.op o, a, b⟩ :: us))
            (fun us => rfl) ?_
          refine .map (.binary o left) (fun us _ => by rw [operation, andThen]; cases p us <;> rfl)
            (hr ts) ?_
          rintro ls ⟨e, he⟩
          exact ⟨.binary o left e, .binary hd hl hleft he⟩
      | assign o =>
          have hleft : Open left := hopen (by simp [goesOn])
          cases ha : left.isAssignable with
          | true =>
              refine .cons (p := fun us => operation stop p left (⟨.assign o, a, b⟩ :: us))
                (fun us => rfl) ?_
              refine .map (.assign o left)
                (fun us _ => by rw [operation, ha, andThen]; cases p us <;> rfl) (hr ts) ?_
              rintro ls ⟨e, he⟩
              exact ⟨.assign o left e, .assign hd hl hleft ha he⟩
          | false =>
              refine .refused [] (⟨.assign o, a, b⟩ :: ts)
                ("cannot assign to '" ++ left.text ++ "'") rfl (fun us hus => ?_)
                ⟨[], left, by simpa using .expr hd hl⟩
              obtain ⟨vs, rfl⟩ := hus.eq_cons
              rw [List.nil_append, operation, ha]
              rfl
      | _ =>
          refine .of_ok (x := left) fun us hus => ?_
          obtain ⟨vs, rfl⟩ := hus.eq_cons
          rfl

end Inner

/-! ## The recursion -/

/-- What is taken of a chain is the beginning of an operand, each of whose dots takes a level. -/
def ReadsChain (stop n : Nat) : Prop :=
  ∀ {d k : Nat} {target : Expr} {ks : List TokenKind} (ts : List Token), d + k + n = maxDepth →
    Derives Open d (.operand target k) ks → (target.isCast = true → Clear goesOn ts) →
    Reading stop (chain stop n target)
      (fun ls => ∃ e k', Derives Open d (.operand e k') (ks ++ ls)) ts

theorem reading_chain_zero : ReadsChain stop 0 := by
  intro d k target ks ts _ _ _
  rcases clear_isDot_or ts with hdot | ⟨a, b, ts, rfl⟩
  · exact .of_ok fun _ hus => chain_of_clear (hus.clear hdot)
  · exact .cons (fun us => rfl) (reading_tooDeep ts)

theorem chain_eq_andThen {n a b : Nat} {target : Expr} (ts : List Token) :
    chain stop (n + 1) target (⟨.dot, a, b⟩ :: ts) =
      andThen (name stop) (fun m => andThen (call stop (expr stop n))
        fun args => chain stop n (.member target m args)) ts := by
  refine eq_andThen (fun e h => by simp only [chain, h]) fun m rest h => ?_
  exact eq_andThen (fun e h' => by simp only [chain, h, h'])
    fun args rest' h' => by simp only [chain, h, h']

theorem expr_eq_andThen {n : Nat} (ts : List Token) :
    expr stop (n + 1) ts = andThen (primary stop n (expr stop n))
      (fun first => andThen (chain stop n first) (operation stop (expr stop n))) ts := by
  refine eq_andThen (fun e h => by simp only [expr, h]) fun first rest h => ?_
  exact eq_andThen (fun e h' => by simp only [expr, h, h'])
    fun left rest' h' => by simp only [expr, h, h']

theorem reading_chain_succ {n : Nat}
    (ihexpr : ∀ {d : Nat}, d + n = maxDepth + 1 → ReadsExpr stop d (expr stop n))
    (ihchain : ReadsChain stop n) : ReadsChain stop (n + 1) := by
  intro d k target ks ts hn ht hcast
  rcases clear_isDot_or ts with hdot | ⟨a, b, ts, rfl⟩
  · exact .of_ok fun _ hus => chain_of_clear (hus.clear hdot)
  have hopen : Open target := open_of_not_clear hcast (by simp [goesOn])
  have hsound : Sound (d + (k + 1) + 1) (expr stop n) :=
    (sound_expr_chain stop n).1 (by omega)
  have hmember : ∀ {m : String} {args : Option (List Expr)} {ls : List TokenKind},
      Derives Open (d + (k + 1)) (.call args) ls →
      Derives Open d (.operand (.member target m args) (k + 1)) (ks ++ .dot :: .name m :: ls) :=
    fun hc => .member ht hopen (by omega) hc
  refine .cons chain_eq_andThen ?_
  refine reading_name_andThen (fun us => rfl) (fun m => ⟨[], _, _, hmember .noCall⟩)
    (fun m rest => ?_) ts
  refine .bind (fun us _ => rfl) (reading_call hsound (ihexpr (by omega)) rest) ?_ ?_
  · rintro ls ⟨args, hc⟩
    exact ⟨[], _, _, by simpa using hmember hc⟩
  intro used' rest' args _ hcall
  obtain ⟨used'', hused', hc⟩ := call_sound hsound hcall
  obtain rfl : used' = used'' := List.append_cancel_right hused'
  have htail := ihchain rest' (by omega) (hmember (m := m) hc) (fun hcast => by cases hcast)
  simpa using htail

theorem reading_expr_succ {n d : Nat} (hd : d + (n + 1) = maxDepth + 1)
    (ihexpr : ReadsExpr stop (d + 1) (expr stop n)) (ihchain : ReadsChain stop n) :
    ReadsExpr stop d (expr stop (n + 1)) := by
  intro ts
  have hlevel : d ≤ maxDepth := by omega
  have hsound : Sound (d + 1) (expr stop n) := (sound_expr_chain stop n).1 (by omega)
  have hchainSound : ChainSound stop n := (sound_expr_chain stop n).2
  refine .bind (fun us _ => expr_eq_andThen us)
    (reading_primary hsound ihexpr (by omega) ts) ?_ ?_
  · rintro ks ⟨e, he⟩
    exact ⟨[], e, by simpa using .expr hlevel he⟩
  intro used rest first _ hprimary
  obtain ⟨used', hused, hfirst, hcast⟩ := primary_sound hsound (by omega) hprimary
  obtain rfl : used = used' := List.append_cancel_right hused
  refine .bind (fun us _ => rfl) (ihchain rest (by omega) hfirst hcast) ?_ ?_
  · rintro ls ⟨e, k, he⟩
    exact ⟨[], e, by simpa using .expr hlevel he⟩
  intro used' rest' left hrest hchain
  obtain ⟨used'', k, hused', hleft, hcast', -⟩ :=
    hchainSound (by omega) hfirst (hrest ▸ hcast) hchain
  obtain rfl : used' = used'' := List.append_cancel_right hused'
  simpa using reading_operation ihexpr hlevel hleft rest' hcast'

/-- The induction is on the number of levels, as that of `sound_expr_chain` is. -/
theorem reading_expr_chain (stop : Nat) : ∀ n : Nat,
    (∀ {d : Nat}, d + n = maxDepth + 1 → ReadsExpr stop d (expr stop n)) ∧ ReadsChain stop n
  | 0 => ⟨fun _ ts => reading_tooDeep ts, reading_chain_zero⟩
  | n + 1 => by
      obtain ⟨ihexpr, ihchain⟩ := reading_expr_chain stop n
      exact ⟨fun hd => reading_expr_succ hd (ihexpr (by omega)) ihchain,
        reading_chain_succ ihexpr ihchain⟩

/-! ## Lines -/

/-- A reading of all tokens, as a parser that leaves none. -/
def whole (r : List Token → Except Failure α) (ts : List Token) : Parsed α :=
  (r ts).map fun x => (x, [])

theorem reading_lineEnd {e : Option Expr} {ks : List TokenKind}
    (h : DerivesLine Open ⟨e, false⟩ ks) (hmarked : DerivesLine Open ⟨e, true⟩ (ks ++ [.marker]))
    (ts : List Token) :
    Reading stop (whole (lineEnd stop e)) (fun ls => ∃ l, DerivesLine Open l (ks ++ ls)) ts := by
  cases ts with
  | nil =>
      refine .of_ok (x := ⟨e, false⟩) fun us hus => ?_
      obtain rfl := hus.eq_nil
      rfl
  | cons t ts =>
      obtain ⟨kind, a, b⟩ := t
      cases kind with
      | marker =>
          refine .cons (p := fun us => whole (lineEnd stop e) (⟨.marker, a, b⟩ :: us))
            (fun us => rfl) ?_
          cases ts with
          | nil =>
              refine .of_ok (x := ⟨e, true⟩) fun us hus => ?_
              obtain rfl := hus.eq_nil
              rfl
          | cons t ts =>
              refine .of_unexpected "expected end of line" (fun us hus => ?_) ⟨[], _, hmarked⟩
              obtain ⟨vs, rfl⟩ := hus.eq_cons
              rfl
      | _ =>
          refine .of_unexpected "expected end of line" (fun us hus => ?_)
            ⟨[], _, by simpa using h⟩
          obtain ⟨vs, rfl⟩ := hus.eq_cons
          rfl

theorem whole_line_eq_andThen {t : Token} (h : t.kind ≠ .marker) (ts : List Token) :
    whole (line stop) (t :: ts) =
      andThen (expr stop maxDepth) (fun e => whole (lineEnd stop (some e))) (t :: ts) := by
  unfold whole line andThen
  split
  · rename_i heq
    cases heq
  · rename_i heq
    cases heq
    exact (h rfl).elim
  · cases expr stop maxDepth (t :: ts) <;> rfl

theorem reading_line (stop : Nat) (ts : List Token) :
    Reading stop (whole (line stop)) (fun ks => ∃ l, DerivesLine Open l ks) ts := by
  have hnone : ∀ us, Reading stop (whole (lineEnd stop none)) _ us :=
    reading_lineEnd .empty .members
  cases ts with
  | nil => exact .map id (fun us hus => by obtain rfl := hus.eq_nil; rfl) (hnone []) fun _ h => h
  | cons t ts =>
      by_cases hmarker : t.kind = .marker
      · refine .map id (fun us hus => ?_) (hnone (t :: ts)) fun _ h => h
        obtain ⟨vs, rfl⟩ := hus.eq_cons
        obtain ⟨kind, a, b⟩ := t
        cases hmarker
        rw [whole, line, andThen, whole]
        cases lineEnd stop none (⟨.marker, a, b⟩ :: vs) <;> rfl
      · have hexpr : ReadsExpr stop 1 (expr stop maxDepth) :=
          (reading_expr_chain stop maxDepth).1 (Nat.add_comm 1 maxDepth)
        refine .bind (q := fun e => whole (lineEnd stop (some e))) (fun us hus => ?_)
          (hexpr (t :: ts)) ?_ ?_
        · obtain ⟨vs, rfl⟩ := hus.eq_cons
          exact whole_line_eq_andThen hmarker vs
        · rintro ks ⟨e, he⟩
          exact ⟨[], _, by simpa using .value he⟩
        · intro used rest e hts hread
          obtain ⟨used', hused, he⟩ := expr_sound hread
          obtain rfl : used = used' := List.append_cancel_right hused
          exact reading_lineEnd (.value he) (.valueMembers he) rest

/-- A line that is refused, and not for its nesting, is refused at the first token that does not
fit, or at its end: what stands before is the beginning of a line, and with the token it is not. -/
theorem line_eq_error {f : Failure} (h : line stop ts = .error f)
    (hdeep : ∀ us, f ≠ tooDeep stop us) :
    ∃ pre rest, ts = pre ++ rest ∧ (∃ reason, f = .malformed (position stop rest) reason) ∧
      (∃ more l, ∀ stop', line stop' (pre ++ more) = .ok l) ∧
      ∀ t ∈ rest.head?, ∀ more stop' l, line stop' (pre ++ t :: more) ≠ .ok l := by
  have hwhole : whole (line stop) ts = .error f := by rw [whole, h]; rfl
  cases reading_line stop ts with
  | ok used rest x eq reads =>
      rw [eq, reads rest rfl] at hwhole
      cases hwhole
  | deep used rest eq reads =>
      rw [eq, reads rest rfl] at hwhole
      exact absurd (Except.error.inj hwhole).symm (hdeep rest)
  | refused used rest reason eq reads viable =>
      rw [eq, reads rest rfl] at hwhole
      refine ⟨used, rest, eq, ⟨reason, (Except.error.inj hwhole).symm⟩, ?_, ?_⟩
      · obtain ⟨ks, l, hl⟩ := viable
        obtain ⟨more, rfl⟩ := exists_kinds ks
        exact ⟨more, l, fun stop' => line_complete stop' (by rwa [kinds_append])⟩
      · intro t ht more stop' l hl
        have hhead : SameHead rest (t :: more) := Eq.symm ht
        have hrefused := reads (t :: more) hhead
        -- whether a line is accepted does not depend on where its text ends
        rw [whole, line_complete stop (line_sound hl)] at hrefused
        cases hrefused

/-- The tokens of `f(a b)`, where a comma is missing. -/
def missingComma : List Token :=
  [⟨.name "f", 0, 1⟩, ⟨.openParen, 1, 2⟩, ⟨.name "a", 2, 3⟩, ⟨.name "b", 4, 5⟩,
    ⟨.closeParen, 5, 6⟩]

theorem line_missingComma :
    line 6 missingComma = .error (.malformed 4 "expected ')', found 'b'") := by
  rfl

theorem line_missingComma_viable :
    ∃ pre rest, missingComma = pre ++ rest ∧
      (∃ reason, Failure.malformed 4 "expected ')', found 'b'" =
        .malformed (position 6 rest) reason) ∧
      (∃ more l, ∀ stop, line stop (pre ++ more) = .ok l) ∧
      ∀ t ∈ rest.head?, ∀ more stop l, line stop (pre ++ t :: more) ≠ .ok l := by
  refine line_eq_error line_missingComma fun us h => ?_
  have hcause : Cause.malformed 4 "expected ')', found 'b'" = (tooDeep 6 us).cause :=
    congrArg Failure.cause h
  injection hcause with _ hreason
  exact absurd hreason (by decide)

end Grammar

end DevConsole
