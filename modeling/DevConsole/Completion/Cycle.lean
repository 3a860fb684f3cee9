/-
Cycling through the entries of a list that start with a given text.
-/

namespace DevConsole

/-- Which way a step goes. -/
inductive Direction where
  | forward
  | backward
deriving Repr, DecidableEq

/-- The indices, rising, of the entries that start with `lead`; the first entry has index `i`. -/
def matchesFrom (lead : List Char) : Nat → List (List Char) → List Nat
  | _, [] => []
  | i, c :: cs =>
    if lead.isPrefixOf c then i :: matchesFrom lead (i + 1) cs else matchesFrom lead (i + 1) cs

/-- The next match after the current index in a direction, starting over at the end.  Without a
current index the first match is taken, or the last when going backward. -/
def cycle (corpus : List (List Char)) (lead : List Char) (current : Option Nat)
    (direction : Direction) : Option Nat :=
  let found := matchesFrom lead 0 corpus
  match direction with
  | .forward => (current.bind fun c => found.find? (c < ·)).or found.head?
  | .backward => (current.bind fun c => found.reverse.find? (· < c)).or found.getLast?

/-- Every match is an index of the list. -/
theorem lt_of_mem_matchesFrom {lead : List Char} {i j : Nat} {cs : List (List Char)}
    (h : j ∈ matchesFrom lead i cs) : i ≤ j ∧ j < i + cs.length := by
  induction cs generalizing i with
  | nil => simp [matchesFrom] at h
  | cons c cs ih =>
    unfold matchesFrom at h
    simp only [List.length_cons]
    split at h
    · rcases List.mem_cons.1 h with rfl | h
      · omega
      · have := ih h
        omega
    · have := ih h
      omega

/-- A step ends at an index of the list. -/
theorem lt_of_cycle_eq_some {corpus : List (List Char)} {lead : List Char} {current : Option Nat}
    {d : Direction} {j : Nat} (h : cycle corpus lead current d = some j) : j < corpus.length := by
  have hmem : j ∈ matchesFrom lead 0 corpus := by
    unfold cycle at h
    cases d <;> cases current <;>
      simp only [Option.bind_none, Option.none_or, Option.bind_some, Option.or_eq_some_iff] at h
    · exact List.mem_of_mem_head? h
    · rcases h with h | ⟨_, h⟩
      · exact List.mem_of_find?_eq_some h
      · exact List.mem_of_mem_head? h
    · exact List.mem_of_getLast? h
    · rcases h with h | ⟨_, h⟩
      · exact List.mem_reverse.1 (List.mem_of_find?_eq_some h)
      · exact List.mem_of_getLast? h
  have := lt_of_mem_matchesFrom hmem
  omega

end DevConsole
