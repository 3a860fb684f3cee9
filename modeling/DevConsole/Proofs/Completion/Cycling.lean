/-
# `DevConsole.Proofs.Completion.Cycling` — going through the matches is a rotation

A step goes from an index of the list to another, which is one of the matches `m₁ < … < mₖ`:

    from            forward                              backward
    nothing         m₁                                   mₖ
    an index c      the least match above c, or m₁       the greatest match below c, or mₖ

The two columns are one.  Going backward is going forward through the matches in falling order, and
beyond `c` then means below it (`Direction.along`, `Direction.isBeyond`, `cycle_eq`).  In either
order a step from one match leads to the next, and from the last to the first (`cycle_next`), so
that steps from nothing go round (`iterate_cycle`) and a step in the other direction undoes one
(`cycle_opposite`).
-/
import DevConsole.Proofs.Completion.Candidates

namespace DevConsole

/-! ## Sorted lists -/

section Sorted

variable {α : Type} {r : α → α → Bool} {l : List α}

/-- In a sorted list, the first entry beyond one of them is the next. -/
theorem find?_getElem (hr : ∀ a b, r a b = true → r b a = false)
    (h : l.Pairwise (r · · = true)) {i : Nat} (hi : i < l.length) :
    l.find? (r l[i] ·) = l[i + 1]? := by
  induction l generalizing i with
  | nil => cases hi
  | cons a l ih =>
    obtain ⟨ha, hl⟩ := List.pairwise_cons.1 h
    cases i with
    | zero =>
      have hself : r a a ≠ true := fun haa => Bool.false_ne_true ((hr a a haa).symm.trans haa)
      rw [List.getElem_cons_zero, List.find?_cons_of_neg hself]
      cases l with
      | nil => rfl
      | cons b l => exact List.find?_cons_of_pos (ha b List.mem_cons_self)
    | succ i =>
      have hi : i < l.length := Nat.lt_of_succ_lt_succ hi
      have hback : r l[i] a ≠ true := by simp [hr a l[i] (ha l[i] (List.getElem_mem hi))]
      rw [List.getElem_cons_succ, List.find?_cons_of_neg hback, ih hl hi]
      rfl

/-- The first entry that has a property comes before all others that have it. -/
theorem first_of_find? {p : α → Bool} (h : l.Pairwise (r · · = true)) {i : α}
    (hi : l.find? p = some i) :
    i ∈ l ∧ p i = true ∧ ∀ m ∈ l, p m = true → i = m ∨ r i m = true := by
  obtain ⟨hp, before, after, rfl, hbefore⟩ := List.find?_eq_some_iff_append.1 hi
  refine ⟨List.mem_append_right _ List.mem_cons_self, hp, fun m hm hpm => ?_⟩
  rcases List.mem_append.1 hm with hm | hm
  · have hnot := hbefore m hm
    rw [hpm] at hnot
    cases hnot
  · rcases List.mem_cons.1 hm with rfl | hm
    · exact .inl rfl
    · exact .inr ((List.pairwise_cons.1 (List.pairwise_append.1 h).2.1).1 m hm)

end Sorted

/-! ## One step, in either direction -/

namespace Direction

/-- The other direction. -/
def opposite : Direction → Direction
  | forward => backward
  | backward => forward

/-- Rising indices in the order in which a direction comes to them. -/
def along : Direction → List Nat → List Nat
  | forward, ms => ms
  | backward, ms => ms.reverse

/-- Whether a direction comes to the second index after the first. -/
def isBeyond : Direction → Nat → Nat → Bool
  | forward, i, j => i < j
  | backward, i, j => j < i

@[simp] theorem isBeyond_forward {i j : Nat} : forward.isBeyond i j = true ↔ i < j :=
  decide_eq_true_iff

@[simp] theorem isBeyond_backward {i j : Nat} : backward.isBeyond i j = true ↔ j < i :=
  decide_eq_true_iff

theorem along_opposite (d : Direction) (ms : List Nat) :
    d.opposite.along ms = (d.along ms).reverse := by
  cases d with
  | forward => rfl
  | backward => exact (List.reverse_reverse ms).symm

@[simp] theorem mem_along {d : Direction} {ms : List Nat} {i : Nat} : i ∈ d.along ms ↔ i ∈ ms := by
  cases d with
  | forward => rfl
  | backward => exact List.mem_reverse

@[simp] theorem length_along (d : Direction) (ms : List Nat) :
    (d.along ms).length = ms.length := by
  cases d with
  | forward => rfl
  | backward => exact List.length_reverse

theorem isBeyond_asymm (d : Direction) (i j : Nat) (h : d.isBeyond i j = true) :
    d.isBeyond j i = false := by
  cases d <;> simp only [isBeyond, decide_eq_true_eq, decide_eq_false_iff_not] at h ⊢ <;> omega

theorem pairwise_along (d : Direction) {ms : List Nat} (h : ms.Pairwise (· < ·)) :
    (d.along ms).Pairwise (d.isBeyond · · = true) := by
  cases d with
  | forward => exact h.imp decide_eq_true
  | backward => exact (List.pairwise_reverse.2 h).imp decide_eq_true

end Direction

/-- The indices, rising, of the entries of a list that start with a text. -/
structure AreMatches (corpus : List (List Char)) (lead : List Char) (ms : List Nat) : Prop where
  rises : ms.Pairwise (· < ·)
  mem_iff : ∀ i, i ∈ ms ↔ ∃ entry, corpus[i]? = some entry ∧ lead <+: entry

variable {corpus : List (List Char)} {lead : List Char} {ms : List Nat} {d : Direction}

theorem mem_matchesFrom {lead : List Char} {i j : Nat} {cs : List (List Char)} :
    j ∈ matchesFrom lead i cs ↔ ∃ n entry, j = i + n ∧ cs[n]? = some entry ∧ lead <+: entry := by
  induction cs generalizing i with
  | nil => simp [matchesFrom]
  | cons c cs ih =>
    have hcons : (∃ n entry, j = i + n ∧ (c :: cs)[n]? = some entry ∧ lead <+: entry) ↔
        (j = i ∧ lead <+: c) ∨
          ∃ n entry, j = i + 1 + n ∧ cs[n]? = some entry ∧ lead <+: entry := by
      constructor
      · rintro ⟨n | n, entry, rfl, hentry, hlead⟩
        · cases hentry
          exact .inl ⟨rfl, hlead⟩
        · exact .inr ⟨n, entry, by omega, hentry, hlead⟩
      · rintro (⟨rfl, hlead⟩ | ⟨n, entry, rfl, hentry, hlead⟩)
        · exact ⟨0, c, rfl, rfl, hlead⟩
        · exact ⟨n + 1, entry, by omega, hentry, hlead⟩
    rw [hcons, ← ih, matchesFrom, ← List.isPrefixOf_iff_prefix]
    split
    · rename_i hlead
      rw [List.mem_cons, and_iff_left hlead]
    · rename_i hlead
      exact (or_iff_right fun h => hlead h.2).symm

theorem areMatches_matchesFrom (corpus : List (List Char)) (lead : List Char) :
    AreMatches corpus lead (matchesFrom lead 0 corpus) where
  rises := pairwise_matchesFrom lead 0 corpus
  mem_iff i := by
    rw [mem_matchesFrom]
    simp

/-- There is one list of matches. -/
theorem AreMatches.eq (h : AreMatches corpus lead ms) : ms = matchesFrom lead 0 corpus :=
  h.rises.eq_of_mem_iff (pairwise_matchesFrom lead 0 corpus) fun i =>
    (h.mem_iff i).trans ((areMatches_matchesFrom corpus lead).mem_iff i).symm

/-- A step takes the first match beyond the current index, or the first of all. -/
theorem cycle_eq (h : AreMatches corpus lead ms) (current : Option Nat) (d : Direction) :
    cycle corpus lead current d =
      (current.bind fun c => (d.along ms).find? (d.isBeyond c ·)).or (d.along ms).head? := by
  rw [h.eq]
  cases d with
  | forward => rfl
  | backward =>
    rw [Direction.along, List.head?_reverse]
    rfl

/-- A step ends at a match. -/
theorem mem_of_cycle_eq_some (h : AreMatches corpus lead ms) {current : Option Nat} {i : Nat}
    (hi : cycle corpus lead current d = some i) : i ∈ ms := by
  rw [cycle_eq h, Option.or_eq_some_iff] at hi
  rcases hi with hi | ⟨-, hi⟩
  · obtain ⟨c, -, hi⟩ := Option.bind_eq_some_iff.1 hi
    exact Direction.mem_along.1 (List.mem_of_find?_eq_some hi)
  · exact Direction.mem_along.1 (List.mem_of_mem_head? hi)

/-- There is a step from everywhere, unless there are no matches. -/
theorem cycle_eq_none_iff (h : AreMatches corpus lead ms) {current : Option Nat} :
    cycle corpus lead current d = none ↔ ms = [] := by
  constructor
  · intro hnone
    rw [cycle_eq h, Option.or_eq_none_iff, List.head?_eq_none_iff] at hnone
    exact List.length_eq_zero_iff.1 ((d.length_along ms).symm.trans (by rw [hnone.2]; rfl))
  · rintro rfl
    rw [cycle_eq h]
    cases d <;> cases current <;> rfl

/-- A cycle begins with the first match. -/
theorem cycle_first (h : AreMatches corpus lead ms) (d : Direction) :
    cycle corpus lead none d = (d.along ms)[0]? := by
  rw [cycle_eq h, ← List.head?_eq_getElem?]
  rfl

/-- A cycle goes on with the next match, and from the last with the first. -/
theorem cycle_next (h : AreMatches corpus lead ms) {i k : Nat}
    (hi : (d.along ms)[k % ms.length]? = some i) :
    cycle corpus lead (some i) d = (d.along ms)[(k + 1) % ms.length]? := by
  have hsorted := d.pairwise_along h.rises
  rw [cycle_eq h, Option.bind_some]
  rw [← d.length_along ms] at hi ⊢
  generalize d.along ms = found at hi hsorted ⊢
  obtain ⟨hk, rfl⟩ := List.getElem?_eq_some_iff.1 hi
  rw [find?_getElem d.isBeyond_asymm hsorted hk, Nat.add_mod]
  rcases Nat.lt_or_ge (k % found.length + 1) found.length with hlt | hge
  · have hone : 1 < found.length := by omega
    rw [Nat.mod_eq_of_lt hone, Nat.mod_eq_of_lt hlt, List.getElem?_eq_getElem hlt, Option.some_or]
  · have hlast : k % found.length + 1 = found.length := by omega
    have hwrap : (k % found.length + 1 % found.length) % found.length = 0 := by
      rw [Nat.add_mod_mod, hlast, Nat.mod_self]
    rw [hlast, hwrap, List.getElem?_eq_none (Nat.le_refl _), Option.none_or,
      List.head?_eq_getElem?]

theorem cycle_forward_first :
    cycle corpus lead none .forward = (matchesFrom lead 0 corpus)[0]? :=
  cycle_first (areMatches_matchesFrom corpus lead) .forward

theorem cycle_forward_next {i k : Nat}
    (h : (matchesFrom lead 0 corpus)[k % (matchesFrom lead 0 corpus).length]? = some i) :
    cycle corpus lead (some i) .forward =
      (matchesFrom lead 0 corpus)[(k + 1) % (matchesFrom lead 0 corpus).length]? :=
  cycle_next (d := .forward) (areMatches_matchesFrom corpus lead) h

/-! ## Many steps -/

/-- Steps from nothing go through the matches and round again. -/
theorem iterate_cycle (h : AreMatches corpus lead ms) (d : Direction) (k : Nat) :
    (cycle corpus lead · d)^[k + 1] none = (d.along ms)[k % ms.length]? := by
  induction k with
  | zero =>
    rw [Nat.zero_mod, ← cycle_first h]
    rfl
  | succ k ih =>
    rw [Function.iterate_succ_apply', ih]
    rcases eq_or_ne ms [] with rfl | hne
    · rw [(cycle_eq_none_iff h).2 rfl]
      cases d <;> rfl
    · have hlt : k % ms.length < (d.along ms).length := by
        rw [d.length_along]
        exact Nat.mod_lt k (List.length_pos_of_ne_nil hne)
      have hi := List.getElem?_eq_getElem hlt
      rw [hi]
      exact cycle_next h hi

/-- In a list and its reverse, going on by one and going round are opposites. -/
theorem reverse_getElem?_next {l : List Nat} {i : Nat} (hi : i < l.length) :
    ∃ k, l.reverse[k % l.length]? = l[(i + 1) % l.length]? ∧
      l.reverse[(k + 1) % l.length]? = l[i]? := by
  have hmod : (i + 1) % l.length < l.length := Nat.mod_lt _ (Nat.zero_lt_of_lt hi)
  refine ⟨l.length - 1 - (i + 1) % l.length, ?_, ?_⟩
  · have hk : l.length - 1 - (i + 1) % l.length < l.length := by omega
    rw [Nat.mod_eq_of_lt hk, List.getElem?_reverse hk]
    congr 1
    omega
  · rcases Nat.lt_or_ge (i + 1) l.length with hlt | hge
    · rw [Nat.mod_eq_of_lt hlt, show l.length - 1 - (i + 1) + 1 = l.length - 1 - i by omega,
        Nat.mod_eq_of_lt (by omega), List.getElem?_reverse (by omega)]
      congr 1
      omega
    · obtain rfl : i = l.length - 1 := by omega
      rw [Nat.sub_add_cancel (by omega), Nat.mod_self, Nat.sub_zero, Nat.sub_add_cancel (by omega),
        Nat.mod_self, List.getElem?_reverse (by omega), Nat.sub_zero]

/-- From a match, a step in one direction and one in the other lead back. -/
theorem cycle_opposite (h : AreMatches corpus lead ms) (d : Direction) {c : Nat} (hc : c ∈ ms) :
    ∃ c' ∈ ms, cycle corpus lead (some c) d = some c' ∧
      cycle corpus lead (some c') d.opposite = some c := by
  obtain ⟨i, hi, hci⟩ := List.getElem_of_mem (Direction.mem_along (d := d).2 hc)
  obtain ⟨k, hk, hback⟩ := reverse_getElem?_next hi
  rw [← d.along_opposite, d.length_along] at hk hback
  rw [d.length_along] at hi
  rw [List.getElem?_eq_some_iff.2 ⟨_, hci⟩] at hback
  have hnext : (i + 1) % ms.length < (d.along ms).length := by
    rw [d.length_along]
    exact Nat.mod_lt _ (Nat.zero_lt_of_lt hi)
  rw [List.getElem?_eq_getElem hnext] at hk
  refine ⟨_, Direction.mem_along.1 (List.getElem_mem hnext), ?_, (cycle_next h hk).trans hback⟩
  have hstart : (d.along ms)[i % ms.length]? = some c := by
    rw [Nat.mod_eq_of_lt hi]
    exact List.getElem?_eq_some_iff.2 ⟨_, hci⟩
  rw [cycle_next h hstart, List.getElem?_eq_getElem hnext]

/-- A step from an index ends at the match that comes first beyond it. -/
theorem cycle_beyond (h : AreMatches corpus lead ms) {c : Nat}
    (hbeyond : ∃ m ∈ ms, d.isBeyond c m = true) :
    ∃ i, cycle corpus lead (some c) d = some i ∧ (i ∈ ms ∧ d.isBeyond c i = true) ∧
      ∀ m ∈ ms, d.isBeyond c m = true → i = m ∨ d.isBeyond i m = true := by
  obtain ⟨m, hm, hbeyond⟩ := hbeyond
  have hfound : ((d.along ms).find? (d.isBeyond c ·)).isSome = true :=
    List.find?_isSome.2 ⟨m, Direction.mem_along.2 hm, hbeyond⟩
  obtain ⟨i, hi⟩ := Option.isSome_iff_exists.1 hfound
  obtain ⟨hmem, hibeyond, hfirst⟩ := first_of_find? (d.pairwise_along h.rises) hi
  refine ⟨i, ?_, ⟨Direction.mem_along.1 hmem, hibeyond⟩, fun m hm =>
    hfirst m (Direction.mem_along.2 hm)⟩
  rw [cycle_eq h, Option.bind_some, hi, Option.some_or]

/-- If there is none, it ends at the first match of all. -/
theorem cycle_not_beyond (h : AreMatches corpus lead ms) {c : Nat}
    (hnone : ∀ m ∈ ms, ¬ d.isBeyond c m = true) :
    cycle corpus lead (some c) d = (d.along ms).head? := by
  have hfound : (d.along ms).find? (d.isBeyond c ·) = none :=
    List.find?_eq_none.2 fun m hm => hnone m (Direction.mem_along.1 hm)
  rw [cycle_eq h, Option.bind_some, hfound, Option.none_or]

/-- Going through the matches of a list is a rotation.  From nothing, steps forward visit them in
order, steps backward in falling order, and both go round again.  From a match, a step back undoes a
step forward, and the other way round.  From any index, a step forward finds the least match above,
or the first of all, and a step backward the greatest match below, or the last.  Without matches
there is no step. -/
theorem cycle_rotates (h : AreMatches corpus lead ms) :
    (∀ k, (cycle corpus lead · .forward)^[k + 1] none = ms[k % ms.length]? ∧
      (cycle corpus lead · .backward)^[k + 1] none = ms.reverse[k % ms.length]?) ∧
    (∀ c ∈ ms,
      cycle corpus lead (cycle corpus lead (some c) .forward) .backward = some c ∧
      cycle corpus lead (cycle corpus lead (some c) .backward) .forward = some c) ∧
    (∀ c,
      ((∃ m ∈ ms, c < m) →
        ∃ i, cycle corpus lead (some c) .forward = some i ∧ IsLeast {m | m ∈ ms ∧ c < m} i) ∧
      ((∀ m ∈ ms, ¬ c < m) → cycle corpus lead (some c) .forward = ms.head?) ∧
      ((∃ m ∈ ms, m < c) →
        ∃ i, cycle corpus lead (some c) .backward = some i ∧ IsGreatest {m | m ∈ ms ∧ m < c} i) ∧
      ((∀ m ∈ ms, ¬ m < c) → cycle corpus lead (some c) .backward = ms.getLast?)) ∧
    (ms = [] → ∀ current d, cycle corpus lead current d = none) := by
  refine ⟨fun k => ⟨iterate_cycle h .forward k, iterate_cycle h .backward k⟩, fun c hc => ?_,
    fun c => ⟨?_, ?_, ?_, ?_⟩, ?_⟩
  · obtain ⟨c₁, -, hforward, hback⟩ := cycle_opposite h .forward hc
    obtain ⟨c₂, -, hbackward, hforth⟩ := cycle_opposite h .backward hc
    rw [hforward, hbackward]
    exact ⟨hback, hforth⟩
  · rintro ⟨m, hm, hlt⟩
    obtain ⟨i, hi, ⟨hmem, hci⟩, hfirst⟩ :=
      cycle_beyond (d := .forward) h ⟨m, hm, Direction.isBeyond_forward.2 hlt⟩
    refine ⟨i, hi, ⟨hmem, Direction.isBeyond_forward.1 hci⟩, fun m hm => ?_⟩
    rcases hfirst m hm.1 (Direction.isBeyond_forward.2 hm.2) with rfl | him
    · exact le_rfl
    · exact (Direction.isBeyond_forward.1 him).le
  · intro hnone
    exact cycle_not_beyond h fun m hm hlt => hnone m hm (Direction.isBeyond_forward.1 hlt)
  · rintro ⟨m, hm, hlt⟩
    obtain ⟨i, hi, ⟨hmem, hci⟩, hfirst⟩ :=
      cycle_beyond (d := .backward) h ⟨m, hm, Direction.isBeyond_backward.2 hlt⟩
    refine ⟨i, hi, ⟨hmem, Direction.isBeyond_backward.1 hci⟩, fun m hm => ?_⟩
    rcases hfirst m hm.1 (Direction.isBeyond_backward.2 hm.2) with rfl | him
    · exact le_rfl
    · exact (Direction.isBeyond_backward.1 him).le
  · intro hnone
    rw [← List.head?_reverse]
    exact cycle_not_beyond (d := .backward) h fun m hm hlt =>
      hnone m hm (Direction.isBeyond_backward.1 hlt)
  · intro hnil current d
    exact (cycle_eq_none_iff h).2 hnil

/-- Three lines, of which the first and the last start with the text.  The middle one is between
them, and each step from it finds the match on its side. -/
theorem cycle_rotates_letters :
    AreMatches ["Alpha".toList, "Ad".toList, "Alpha2".toList] "Al".toList [0, 2] ∧
      cycle ["Alpha".toList, "Ad".toList, "Alpha2".toList] "Al".toList (some 1) .forward = some 2 ∧
      cycle ["Alpha".toList, "Ad".toList, "Alpha2".toList] "Al".toList (some 1) .backward =
        some 0 ∧
      (cycle ["Alpha".toList, "Ad".toList, "Alpha2".toList] "Al".toList · .backward)^[3] none =
        some 2 := by
  have hmatches : AreMatches ["Alpha".toList, "Ad".toList, "Alpha2".toList] "Al".toList [0, 2] :=
    areMatches_matchesFrom ["Alpha".toList, "Ad".toList, "Alpha2".toList] "Al".toList
  obtain ⟨hround, -, hfrom, -⟩ := cycle_rotates hmatches
  obtain ⟨habove, -, hbelow, -⟩ := hfrom 1
  obtain ⟨i, hforward, hi, -⟩ := habove ⟨2, by decide, by decide⟩
  obtain ⟨j, hbackward, hj, -⟩ := hbelow ⟨0, by decide, by decide⟩
  obtain rfl : i = 2 := by
    have hlist := hi.1
    have hlt := hi.2
    simp only [List.mem_cons, List.not_mem_nil, or_false] at hlist
    omega
  obtain rfl : j = 0 := Nat.lt_one_iff.1 hj.2
  exact ⟨hmatches, hforward, hbackward, (hround 2).2⟩

end DevConsole
