/-
# `DevConsole.Proofs.Completion.Candidates` — candidates come in order, each once

The candidates of a run are sorted and then cleared of neighbours that are equal.  As equal lines
are neighbours in a sorted list, what is left rises strictly, with nothing lost
(`pairwise_sortedLines`, `mem_sortedLines`).

A run shows those candidates that start as the line did.  Their indices rise
(`pairwise_matchesFrom`), and what stands at them is what is left of the candidates without the
others (`map_getD_matchesFrom`).
-/
import Mathlib
import DevConsole.Completion.Engine

namespace DevConsole

/-! ## Sorting -/

section EraseReps

variable {α : Type} [BEq α]

theorem eraseRepsBy_loop (a : α) (as acc : List α) :
    List.eraseRepsBy.loop (· == ·) a as acc = acc.reverse ++ (a :: as).eraseReps := by
  induction as generalizing a acc with
  | nil => exact List.reverse_cons
  | cons b as ih =>
    have hback : (a :: b :: as).eraseReps = List.eraseRepsBy.loop (· == ·) a (b :: as) [] := rfl
    rw [hback, List.eraseRepsBy.loop, List.eraseRepsBy.loop]
    cases a == b with
    | true => exact ih a acc
    | false =>
      simp only
      rw [ih b (a :: acc), ih b [a], List.reverse_cons, List.append_assoc]
      rfl

variable [LawfulBEq α]

/-- Of two neighbours that are equal, one is left. -/
theorem eraseReps_cons_cons [DecidableEq α] (a b : α) (as : List α) :
    (a :: b :: as).eraseReps =
      if a = b then (b :: as).eraseReps else a :: (b :: as).eraseReps := by
  have hback : (a :: b :: as).eraseReps = List.eraseRepsBy.loop (· == ·) a (b :: as) [] := rfl
  rw [hback, List.eraseRepsBy.loop]
  by_cases h : a = b
  · rw [if_pos h, h, beq_self_eq_true]
    exact eraseRepsBy_loop b as []
  · rw [if_neg h, beq_eq_false_iff_ne.2 h]
    exact eraseRepsBy_loop b as [a]

theorem mem_eraseReps [DecidableEq α] {x : α} {as : List α} : x ∈ as.eraseReps ↔ x ∈ as := by
  induction as with
  | nil => rfl
  | cons a as ih =>
    cases as with
    | nil => rfl
    | cons b as =>
      rw [eraseReps_cons_cons]
      split
      · rename_i h
        rw [ih, h]
        simp
      · rw [List.mem_cons, ih, List.mem_cons (a := x) (b := a)]

/-- Without equal neighbours, a sorted list rises strictly. -/
theorem pairwise_lt_eraseReps [LinearOrder α] {as : List α}
    (h : as.Pairwise (· ≤ ·)) : as.eraseReps.Pairwise (· < ·) := by
  induction as with
  | nil => exact .nil
  | cons a as ih =>
    cases as with
    | nil => exact List.pairwise_singleton _ a
    | cons b as =>
      obtain ⟨hle, hrest⟩ := List.pairwise_cons.1 h
      rw [eraseReps_cons_cons]
      split
      · exact ih hrest
      · rename_i hne
        refine List.pairwise_cons.2 ⟨fun x hx => ?_, ih hrest⟩
        have hab : a < b := lt_of_le_of_ne (hle b List.mem_cons_self) hne
        rcases List.mem_cons.1 (mem_eraseReps.1 hx) with rfl | hx
        · exact hab
        · exact hab.trans_le ((List.pairwise_cons.1 hrest).1 x hx)

end EraseReps

namespace Completion.Engine

theorem mem_sortedLines {line : List Char} {lines : List (List Char)} :
    line ∈ sortedLines lines ↔ line ∈ lines :=
  mem_eraseReps.trans List.mem_mergeSort

theorem pairwise_sortedLines (lines : List (List Char)) :
    (sortedLines lines).Pairwise (· < ·) := by
  refine pairwise_lt_eraseReps ((List.pairwise_mergeSort ?_ ?_ lines).imp ?_)
  · intro a b c hab hbc
    simp only [Bool.not_eq_true', decide_eq_false_iff_not, not_lt] at hab hbc ⊢
    exact hab.trans hbc
  · intro a b
    simpa using le_total a b
  · intro a b hab
    simpa using hab

end Completion.Engine

/-! ## Lines that begin alike -/

theorem exists_map_append {before : List Char} {lines : List (List Char)}
    (h : ∀ line ∈ lines, before <+: line) :
    ∃ ns : List (List Char), lines = ns.map (before ++ ·) := by
  induction lines with
  | nil => exact ⟨[], rfl⟩
  | cons line lines ih =>
    obtain ⟨⟨n, rfl⟩, hlines⟩ := List.forall_mem_cons.1 h
    obtain ⟨ns, rfl⟩ := ih hlines
    exact ⟨n :: ns, rfl⟩

/-- Lines that rise still rise without what all of them begin with. -/
theorem pairwise_of_map_append {before : List Char} {ns : List (List Char)}
    (h : (ns.map (before ++ ·)).Pairwise (· < ·)) : ns.Pairwise (· < ·) := by
  refine (List.pairwise_map.1 h).imp fun {a b} hlt => ?_
  by_contra hle
  rcases (not_lt.1 hle).lt_or_eq with hlt' | rfl
  · exact absurd hlt (List.append_left_lt hlt').asymm
  · exact lt_irrefl _ hlt

/-! ## Matches -/

/-- The matches of a list are the indices of the entries that start with the text. -/
theorem map_getD_matchesFrom (lead : List Char) (before cs : List (List Char)) :
    (matchesFrom lead before.length cs).map ((before ++ cs).getD · []) =
      cs.filter (lead.isPrefixOf ·) := by
  induction cs generalizing before with
  | nil => rfl
  | cons c cs ih =>
    have hrest := ih (before ++ [c])
    rw [List.length_append, List.length_singleton, ← List.append_cons] at hrest
    rw [matchesFrom, List.filter_cons]
    split
    · have hentry : (before ++ c :: cs).getD before.length [] = c := by
        simp
      rw [List.map_cons, hentry, hrest]
    · exact hrest

theorem pairwise_matchesFrom (lead : List Char) (i : Nat) (cs : List (List Char)) :
    (matchesFrom lead i cs).Pairwise (· < ·) := by
  induction cs generalizing i with
  | nil => exact .nil
  | cons c cs ih =>
    rw [matchesFrom]
    split
    · exact List.pairwise_cons.2 ⟨fun j hj => (lt_of_mem_matchesFrom hj).1, ih (i + 1)⟩
    · exact ih (i + 1)

end DevConsole
