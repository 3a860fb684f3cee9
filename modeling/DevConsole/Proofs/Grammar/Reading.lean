/-
# `DevConsole.Proofs.Grammar.Reading` — what a parser does with a list of tokens

A parser takes some of the tokens and looks at the head of the rest, no further.  It returns, or it
finds no level left for what follows, or it refuses the head; and it does the same with every other
rest that has this head.  `Reading` says so of one parser and one list of tokens, and that what a
parser has taken before it refuses is the beginning of something.

Here are the laws by which readings are put together, with one way to go on for each end that a
reading can have, and the parsers that have no expression inside.
-/
import DevConsole.Proofs.Grammar.Parts

namespace DevConsole

namespace Grammar

open DevConsole.Parser

variable {α β : Type} {stop : Nat} {ts us : List Token}

/-! ## One token of look-ahead -/

/-- Two lists of tokens that start with the same token, or that are both empty. -/
def SameHead (ts us : List Token) : Prop := us.head? = ts.head?

theorem SameHead.eq_nil (h : SameHead [] us) : us = [] := List.head?_eq_none_iff.1 h

theorem SameHead.eq_cons {t : Token} (h : SameHead (t :: ts) us) : ∃ vs, us = t :: vs :=
  List.head?_eq_some_iff.1 h

theorem SameHead.append_left (h : SameHead ts us) (used : List Token) :
    SameHead (used ++ ts) (used ++ us) := by
  cases used with
  | nil => exact h
  | cons t used => rfl

theorem SameHead.no_head {k : TokenKind} (h : SameHead ts us)
    (hts : ∀ a b vs, ts = ⟨k, a, b⟩ :: vs → False) : ∀ a b vs, us = ⟨k, a, b⟩ :: vs → False := by
  rintro a b vs rfl
  obtain ⟨ws, hws⟩ := SameHead.eq_cons h.symm
  exact hts a b ws hws

theorem SameHead.clear {c : TokenKind → Bool} (h : SameHead ts us) (hts : Clear c ts) :
    Clear c us := by
  intro t ht
  exact hts t (h ▸ ht)

theorem SameHead.unexpected_eq (h : SameHead ts us) (wanted : String) :
    unexpected stop wanted us = unexpected stop wanted ts := by
  cases ts with
  | nil =>
      obtain rfl := h.eq_nil
      rfl
  | cons t ts =>
      obtain ⟨vs, rfl⟩ := h.eq_cons
      rfl

theorem SameHead.position_eq (h : SameHead ts us) : position stop us = position stop ts := by
  cases ts with
  | nil =>
      obtain rfl := h.eq_nil
      rfl
  | cons t ts =>
      obtain ⟨vs, rfl⟩ := h.eq_cons
      rfl

/-! ## What a parser does with a list of tokens -/

/-- One parser, and then another on the tokens that it leaves. -/
def andThen (p : List Token → Parsed α) (q : α → List Token → Parsed β) (ts : List Token) :
    Parsed β :=
  match p ts with
  | .error e => .error e
  | .ok (x, rest) => q x rest

theorem eq_andThen {p : List Token → Parsed α} {q : α → List Token → Parsed β} {y : Parsed β}
    (herror : ∀ e, p ts = .error e → y = .error e)
    (hok : ∀ x rest, p ts = .ok (x, rest) → y = q x rest) : y = andThen p q ts := by
  unfold andThen
  split
  · exact herror _ ‹_›
  · exact hok _ _ ‹_›

/-- The parser `p` takes some of the tokens and looks at the head of the rest: it returns, or it
finds no level left for what follows, or it refuses the head.  What it has taken before it refuses
is the beginning of something that `fits`. -/
inductive Reading (stop : Nat) (p : List Token → Parsed α) (fits : List TokenKind → Prop)
    (ts : List Token) : Prop
  | ok (used rest : List Token) (x : α) (eq : ts = used ++ rest)
      (reads : ∀ us, SameHead rest us → p (used ++ us) = .ok (x, us))
  | deep (used rest : List Token) (eq : ts = used ++ rest)
      (reads : ∀ us, SameHead rest us → p (used ++ us) = .error (tooDeep stop rest))
  | refused (used rest : List Token) (reason : String) (eq : ts = used ++ rest)
      (reads : ∀ us, SameHead rest us →
        p (used ++ us) = .error (.malformed (position stop rest) reason))
      (viable : ∃ ks, fits (kinds used ++ ks))

namespace Reading

variable {p : List Token → Parsed α} {q : α → List Token → Parsed β} {r : List Token → Parsed β}
  {f g : List TokenKind → Prop}

/-- Nothing is taken. -/
theorem of_ok {x : α} (h : ∀ us, SameHead ts us → p us = .ok (x, us)) : Reading stop p f ts :=
  .ok [] ts x rfl h

/-- The head is refused. -/
theorem of_unexpected (wanted : String)
    (h : ∀ us, SameHead ts us → p us = .error (unexpected stop wanted us)) (hf : ∃ ks, f ks) :
    Reading stop p f ts := by
  obtain ⟨reason, hreason⟩ : ∃ reason,
      unexpected stop wanted ts = .malformed (position stop ts) reason := by
    cases ts with
    | nil => exact ⟨_, rfl⟩
    | cons t ts => exact ⟨_, rfl⟩
  refine .refused [] ts reason rfl (fun us hus => ?_) hf
  rw [List.nil_append, h us hus, hus.unexpected_eq, hreason]

/-- One token is taken. -/
theorem cons {t : Token} {r : List Token → Parsed α} (h : ∀ us, r (t :: us) = p us)
    (hp : Reading stop p (fun ks => f (t.kind :: ks)) ts) : Reading stop r f (t :: ts) := by
  cases hp with
  | ok used rest x eq reads =>
      exact .ok (t :: used) rest x (by rw [eq]; rfl) fun us hus => (h _).trans (reads us hus)
  | deep used rest eq reads =>
      exact .deep (t :: used) rest (by rw [eq]; rfl) fun us hus => (h _).trans (reads us hus)
  | refused used rest reason eq reads viable =>
      exact .refused (t :: used) rest reason (by rw [eq]; rfl)
        (fun us hus => (h _).trans (reads us hus)) viable

/-- One parser and then another.  What the first one refuses is completed twice: to something that
fits the first, and from there to something that fits both. -/
theorem bind
    (h : ∀ us, SameHead ts us → r us = andThen p q us)
    (hp : Reading stop p f ts) (hf : ∀ ks, f ks → ∃ ls, g (ks ++ ls))
    (hq : ∀ used rest x, ts = used ++ rest → p (used ++ rest) = .ok (x, rest) →
      Reading stop (q x) (fun ks => g (kinds used ++ ks)) rest) :
    Reading stop r g ts := by
  cases hp with
  | ok used rest x eq reads =>
      have hr : ∀ us, SameHead rest us → r (used ++ us) = q x us := by
        intro us hus
        rw [h _ (eq ▸ hus.append_left used), andThen, reads us hus]
      cases hq used rest x eq (reads rest rfl) with
      | ok used' rest' y eq' reads' =>
          refine .ok (used ++ used') rest' y (by rw [eq, eq', List.append_assoc]) fun us hus => ?_
          rw [List.append_assoc, hr _ (eq' ▸ hus.append_left used'), reads' us hus]
      | deep used' rest' eq' reads' =>
          refine .deep (used ++ used') rest' (by rw [eq, eq', List.append_assoc]) fun us hus => ?_
          rw [List.append_assoc, hr _ (eq' ▸ hus.append_left used'), reads' us hus]
      | refused used' rest' reason eq' reads' viable =>
          refine .refused (used ++ used') rest' reason (by rw [eq, eq', List.append_assoc])
            (fun us hus => ?_) (by simpa using viable)
          rw [List.append_assoc, hr _ (eq' ▸ hus.append_left used'), reads' us hus]
  | deep used rest eq reads =>
      refine .deep used rest eq fun us hus => ?_
      rw [h _ (eq ▸ hus.append_left used), andThen, reads us hus]
  | refused used rest reason eq reads viable =>
      refine .refused used rest reason eq (fun us hus => ?_) ?_
      · rw [h _ (eq ▸ hus.append_left used), andThen, reads us hus]
      · obtain ⟨ks, hks⟩ := viable
        obtain ⟨ls, hls⟩ := hf _ hks
        exact ⟨ks ++ ls, by rwa [← List.append_assoc]⟩

/-- One parser, and then something is made of what it returns. -/
theorem map (build : α → β)
    (h : ∀ us, SameHead ts us → r us = andThen p (fun x rest => .ok (build x, rest)) us)
    (hp : Reading stop p f ts) (hf : ∀ ks, f ks → g ks) : Reading stop r g ts :=
  bind h hp (fun ks hks => ⟨[], by simpa using hf ks hks⟩) fun _ _ _ _ _ => of_ok fun _ _ => rfl

end Reading

/-! ## Parsers without inner expressions -/

theorem reading_name (stop : Nat) (ts : List Token) :
    Reading stop (name stop) (fun ks => ∃ n, ks = [.name n]) ts := by
  have hname : ∃ ks n, ks = [TokenKind.name n] := ⟨_, "", rfl⟩
  cases ts with
  | nil =>
      refine .of_unexpected "expected a name" (fun us hus => ?_) hname
      obtain rfl := hus.eq_nil
      rfl
  | cons t ts =>
      obtain ⟨kind, a, b⟩ := t
      cases kind with
      | name n => exact .ok [⟨.name n, a, b⟩] ts n rfl fun us _ => rfl
      | _ =>
          refine .of_unexpected "expected a name" (fun us hus => ?_) hname
          obtain ⟨vs, rfl⟩ := hus.eq_cons
          rfl

/-- A name, and then another parser. -/
theorem reading_name_andThen {q : String → List Token → Parsed β} {r : List Token → Parsed β}
    {g : List TokenKind → Prop} (h : ∀ us, r us = andThen (name stop) q us)
    (hg : ∀ n, ∃ ls, g (.name n :: ls))
    (hq : ∀ n rest, Reading stop (q n) (fun ks => g (.name n :: ks)) rest) (ts : List Token) :
    Reading stop r g ts := by
  refine .bind (fun us _ => h us) (reading_name stop ts) ?_ ?_
  · rintro _ ⟨n, rfl⟩
    exact hg n
  · intro used rest n _ hname
    obtain ⟨a, b, hused⟩ := name_eq_ok hname
    obtain rfl : used = [⟨.name n, a, b⟩] := List.append_cancel_right hused
    exact hq n rest

/-- A closing parenthesis, as a parser with nothing to return. -/
def closed (stop : Nat) (ts : List Token) : Parsed Unit :=
  (close stop ts).map fun rest => ((), rest)

theorem closed_eq_ok {x : Unit} {rest : List Token} (h : closed stop ts = .ok (x, rest)) :
    ∃ a b, ts = ⟨.closeParen, a, b⟩ :: rest := by
  rw [closed] at h
  cases hclose : close stop ts with
  | error e =>
      rw [hclose] at h
      cases h
  | ok us =>
      rw [hclose] at h
      cases h
      exact close_eq_ok hclose

theorem reading_closed (stop : Nat) (ts : List Token) :
    Reading stop (closed stop) (fun ks => ks = [.closeParen]) ts := by
  cases ts with
  | nil =>
      refine .of_unexpected "expected ')'" (fun us hus => ?_) ⟨_, rfl⟩
      obtain rfl := hus.eq_nil
      rfl
  | cons t ts =>
      obtain ⟨kind, a, b⟩ := t
      cases kind with
      | closeParen => exact .ok [⟨.closeParen, a, b⟩] ts () rfl fun us _ => rfl
      | _ =>
          refine .of_unexpected "expected ')'" (fun us hus => ?_) ⟨_, rfl⟩
          obtain ⟨vs, rfl⟩ := hus.eq_cons
          rfl

theorem reading_tooDeep {f : List TokenKind → Prop} (ts : List Token) :
    Reading stop (fun us => (.error (tooDeep stop us) : Parsed α)) f ts := by
  refine .deep [] ts rfl fun us hus => ?_
  rw [List.nil_append, tooDeep, hus.position_eq]
  rfl

theorem clear_isDot_or (ts : List Token) :
    Clear isDot ts ∨ ∃ a b us, ts = ⟨.dot, a, b⟩ :: us := by
  by_cases h : ∃ a b us, ts = ⟨.dot, a, b⟩ :: us
  · exact .inr h
  · exact .inl (clear_isDot fun a b us hts => h ⟨a, b, us, hts⟩)

theorem reading_typeChain {d n k : Nat} {t : Expr} {ks : List TokenKind}
    (hn : d + k + n = maxDepth) (ht : Derives Open d (.typeName t k) ks) (ts : List Token) :
    Reading stop (typeChain stop n t)
      (fun ls => ∃ e k', Derives Open d (.typeName e k') (ks ++ ls)) ts := by
  induction n generalizing k t ks ts with
  | zero =>
      rcases clear_isDot_or ts with hdot | ⟨a, b, ts, rfl⟩
      · exact .of_ok fun _ hus => typeChain_of_clear (hus.clear hdot)
      · exact .cons (fun us => rfl) (reading_tooDeep ts)
  | succ n ih =>
      rcases clear_isDot_or ts with hdot | ⟨a, b, ts, rfl⟩
      · exact .of_ok fun _ hus => typeChain_of_clear (hus.clear hdot)
      have hmember : ∀ m, Derives Open d (.typeName (.member t m none) (k + 1))
          (ks ++ [.dot, .name m]) := fun m => .typeMember ht (by omega)
      refine .cons (p := fun us => typeChain stop (n + 1) t (⟨.dot, a, b⟩ :: us)) (fun us => rfl) ?_
      refine reading_name_andThen (q := fun m => typeChain stop n (.member t m none))
        (fun us => by rw [typeChain, andThen]; cases name stop us <;> rfl) ?_ ?_ ts
      · intro m
        exact ⟨[], _, _, by simpa using hmember m⟩
      · intro m rest
        simpa using ih (by omega) (hmember m) rest

end Grammar

end DevConsole
