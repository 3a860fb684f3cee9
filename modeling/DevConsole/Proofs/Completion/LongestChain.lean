/-
# `DevConsole.Proofs.Completion.LongestChain` — the scan finds the longest chain

Looking back from a position, the scan takes in what may belong to a member chain.  What that is can
be said of a text as a whole, without a direction and without a count that is carried along:

    closes    no tail opens more parentheses than it closes, so all that are opened are closed
    stops     where the tail behind a character closes as many as it opens, the character lies
              outside parentheses, and it is no operator, comma, blank or `@`

A text before the position is of this sort exactly if it is no longer than what the scan finds
(`le_chainLength_iff`), so the scan finds the longest one.  The induction takes the characters from
the right, and a text is then judged in the place where it stands: behind it, some parentheses more
have been closed than opened, its depth (`Chained`).
-/
import DevConsole.Expr.Scan
import Mathlib.Data.List.Infix

namespace DevConsole

namespace Scan

variable {depth : Nat} {c : Char} {cs : List Char}

/-! ## Chains as a whole -/

/-- A character that no chain holds outside its parentheses. -/
def IsStop (c : Char) : Prop :=
  isOperatorChar c = true ∨ c = ',' ∨ Text.isBlank c = true ∨ c = '@'

instance : DecidablePred IsStop := fun _ => inferInstanceAs (Decidable (_ ∨ _))

/-- A text that belongs to a chain as a whole, if behind it `depth` more parentheses are closed
than opened. -/
structure Chained (depth : Nat) (cs : List Char) : Prop where
  closes : ∀ tail, tail <:+ cs → tail.count '(' ≤ depth + tail.count ')'
  stops : ∀ before c after, cs = before ++ c :: after →
    after.count '(' = depth + after.count ')' → ¬IsStop c

theorem chained_nil (depth : Nat) : Chained depth [] where
  closes tail h := by
    rw [List.suffix_nil.1 h]
    exact Nat.zero_le _
  stops before c after h := by
    simp at h

/-- One more character before a text: it must not open a parenthesis that is not closed, and it
must not stop the chain. -/
theorem chained_cons_iff :
    Chained depth (c :: cs) ↔ Chained depth cs ∧
      (c :: cs).count '(' ≤ depth + (c :: cs).count ')' ∧
      (cs.count '(' = depth + cs.count ')' → ¬IsStop c) := by
  constructor
  · intro h
    refine ⟨⟨fun tail htail => ?_, fun before d after hcs => ?_⟩, ?_, ?_⟩
    · exact h.closes tail (htail.trans (List.suffix_cons c cs))
    · exact h.stops (c :: before) d after (by rw [hcs, List.cons_append])
    · exact h.closes _ List.suffix_rfl
    · exact h.stops [] c cs rfl
  · rintro ⟨hcs, hcloses, hstops⟩
    refine ⟨fun tail htail => ?_, fun before d after hsplit => ?_⟩
    · rcases List.suffix_cons_iff.1 htail with rfl | htail
      · exact hcloses
      · exact hcs.closes tail htail
    · cases before with
      | nil =>
        obtain ⟨rfl, rfl⟩ := List.cons.inj hsplit
        exact hstops
      | cons b before =>
        obtain ⟨-, rfl⟩ := List.cons.inj hsplit
        exact hcs.stops before d after rfl

/-- A character that does not belong to the chain behind it opens a parenthesis or stops the chain,
and all parentheses behind it are balanced. -/
theorem Chained.balanced_of_not_cons (hcs : Chained depth cs) (h : ¬Chained depth (c :: cs)) :
    cs.count '(' = depth + cs.count ')' ∧ (c = '(' ∨ IsStop c) := by
  have hcloses := hcs.closes cs List.suffix_rfl
  by_cases hopen : c = '('
  · refine ⟨?_, .inl hopen⟩
    by_contra hne
    refine h (chained_cons_iff.2 ⟨hcs, ?_, fun heq => absurd heq hne⟩)
    rw [hopen, List.count_cons_self, List.count_cons_of_ne (by decide)]
    omega
  · by_contra hstays
    refine h (chained_cons_iff.2 ⟨hcs, ?_, fun heq hstop => hstays ⟨heq, .inr hstop⟩⟩)
    have hmore : cs.count ')' ≤ (c :: cs).count ')' := List.count_le_count_cons
    rw [List.count_cons_of_ne hopen]
    omega

/-! ## One character from the right -/

/-- The depth of what stands before a character. -/
def depthBefore (depth : Nat) (c : Char) : Nat :=
  if c = ')' then depth + 1 else if c = '(' then depth - 1 else depth

/-- A character that does not belong to the chain that goes on behind it. -/
def Ends (depth : Nat) (c : Char) : Prop := depth = 0 ∧ (c = '(' ∨ IsStop c)

/-- Moving a character from the text to what stands behind it changes no balance. -/
theorem count_concat (h : ¬Ends depth c) (tail : List Char) :
    (tail ++ [c]).count '(' + (depthBefore depth c + tail.count ')') =
      tail.count '(' + (depth + (tail ++ [c]).count ')') := by
  rw [List.count_append, List.count_append, List.count_singleton, List.count_singleton, depthBefore]
  by_cases hclose : c = ')'
  · subst hclose
    simp
    omega
  by_cases hopen : c = '('
  · subst hopen
    have hpos : depth ≠ 0 := fun hzero => h ⟨hzero, .inl rfl⟩
    simp
    omega
  · simp [hclose, hopen, Nat.add_left_comm]

theorem chained_concat_iff :
    Chained depth (cs ++ [c]) ↔ ¬Ends depth c ∧ Chained (depthBefore depth c) cs := by
  constructor
  · intro h
    have hgoes : ¬Ends depth c := by
      rintro ⟨rfl, rfl | hstop⟩
      · exact absurd (h.closes ['('] (List.suffix_append cs _)) (by decide)
      · exact h.stops cs c [] rfl rfl hstop
    refine ⟨hgoes, fun tail htail => ?_, fun before d after hcs hdepth => ?_⟩
    · obtain ⟨front, rfl⟩ := htail
      have hcloses := h.closes (tail ++ [c]) ⟨front, by rw [List.append_assoc]⟩
      have hcount := count_concat hgoes tail
      omega
    · refine h.stops before d (after ++ [c]) (by rw [hcs]; simp) ?_
      have hcount := count_concat hgoes after
      omega
  · rintro ⟨hgoes, hcs⟩
    refine ⟨fun tail htail => ?_, fun before d after hsplit hdepth => ?_⟩
    · rcases List.suffix_concat_iff.1 htail with rfl | ⟨tail, rfl, hfront⟩
      · exact Nat.zero_le _
      · have hcloses := hcs.closes tail hfront
        have hcount := count_concat hgoes tail
        omega
    · rcases List.eq_nil_or_concat after with rfl | ⟨after, b, rfl⟩
      · obtain ⟨rfl, hlast⟩ := List.append_inj' hsplit rfl
        obtain rfl := List.singleton_inj.1 hlast
        have hzero : depth = 0 := by simpa using hdepth.symm
        exact fun hstop => hgoes ⟨hzero, .inr hstop⟩
      · rw [List.concat_eq_append] at hsplit hdepth
        rw [← List.cons_append, ← List.append_assoc] at hsplit
        obtain ⟨hcs', hlast⟩ := List.append_inj' hsplit rfl
        obtain rfl := List.singleton_inj.1 hlast
        refine hcs.stops before d after hcs' ?_
        have hcount := count_concat hgoes after
        omega

/-! ## The scan -/

theorem endsChain_eq_decide (hclose : c ≠ ')') (hopen : c ≠ '(') (hdot : c ≠ '.') :
    endsChain c = decide (IsStop c) := by
  rw [Bool.eq_iff_iff, decide_eq_true_iff]
  simp [IsStop, endsChain, isDelimiter, hclose, hopen, hdot, or_assoc]

theorem chainLength_of_ends (h : Ends depth c) : chainLength depth (c :: cs) = 0 := by
  obtain ⟨rfl, rfl | hstop⟩ := h
  · rfl
  · have hne : ∀ d, ¬IsStop d → c ≠ d := fun d hd hcd => hd (hcd ▸ hstop)
    have hclose := hne ')' (by decide)
    have hopen := hne '(' (by decide)
    have hdot := hne '.' (by decide)
    simp [chainLength, hclose, hopen, hdot, endsChain_eq_decide hclose hopen hdot, hstop]

theorem chainLength_of_not_ends (h : ¬Ends depth c) :
    chainLength depth (c :: cs) = chainLength (depthBefore depth c) cs + 1 := by
  rw [chainLength.eq_def, depthBefore]
  simp only
  split
  · rfl
  split
  · rename_i hopen
    cases depth with
    | zero => exact absurd ⟨rfl, .inl hopen⟩ h
    | succ depth => rfl
  split
  · rfl
  · rename_i hclose hopen hdot
    have hgoes : ¬(depth = 0 ∧ IsStop c) := fun hends => h ⟨hends.1, .inr hends.2⟩
    rw [endsChain_eq_decide hclose hopen hdot, ← Bool.decide_and, decide_eq_false hgoes]
    rfl

/-- What is no longer than what the scan finds is a chain as a whole, and conversely.  The text is
given with its last character first. -/
theorem le_chainLength_iff {k : Nat} (hk : k ≤ cs.length) :
    k ≤ chainLength depth cs ↔ Chained depth (cs.take k).reverse := by
  induction cs generalizing depth k with
  | nil =>
    obtain rfl : k = 0 := Nat.le_zero.1 hk
    exact iff_of_true (Nat.zero_le _) (chained_nil depth)
  | cons c cs ih =>
    cases k with
    | zero => exact iff_of_true (Nat.zero_le _) (chained_nil depth)
    | succ k =>
      rw [List.take_succ_cons, List.reverse_cons, chained_concat_iff]
      by_cases h : Ends depth c
      · rw [chainLength_of_ends h]
        exact iff_of_false (Nat.not_succ_le_zero k) fun hboth => hboth.1 h
      · rw [chainLength_of_not_ends h, Nat.add_le_add_iff_right, ih (Nat.le_of_succ_le_succ hk)]
        exact (and_iff_right h).symm

theorem chainStart_le_iff (cs : List Char) (stop i : Nat) :
    chainStart cs stop ≤ i ↔ Chained 0 ((cs.take stop).drop i) := by
  generalize hbefore : cs.take stop = before
  have hle := chainLength_le 0 before.reverse
  rw [List.length_reverse] at hle
  rw [chainStart, hbefore]
  rcases Nat.le_total before.length i with hi | hi
  · rw [List.drop_eq_nil_of_le hi]
    exact iff_of_true ((Nat.sub_le _ _).trans hi) (chained_nil 0)
  · have hscan : before.length - i ≤ chainLength 0 before.reverse ↔
        Chained 0 (before.reverse.take (before.length - i)).reverse :=
      le_chainLength_iff (by rw [List.length_reverse]; exact Nat.sub_le _ _)
    rw [List.take_reverse, List.reverse_reverse, Nat.sub_sub_self hi] at hscan
    rw [← hscan]
    omega

/-- What stands before the chain that was found does not belong to it: it opens a parenthesis that is
not closed, or it stops the chain, and it does so outside the parentheses of the chain. -/
theorem chainStart_maximal (cs : List Char) (stop : Nat) :
    chainStart cs stop = 0 ∨ ∃ c, cs[chainStart cs stop - 1]? = some c ∧
      ((cs.take stop).drop (chainStart cs stop)).count '(' =
        ((cs.take stop).drop (chainStart cs stop)).count ')' ∧ (c = '(' ∨ IsStop c) := by
  by_cases hzero : chainStart cs stop = 0
  · exact .inl hzero
  refine .inr ?_
  have hchained := (chainStart_le_iff cs stop _).1 le_rfl
  have hlonger := mt (chainStart_le_iff cs stop (chainStart cs stop - 1)).2 (by omega)
  have hlt : chainStart cs stop - 1 < (cs.take stop).length := by
    have hle : chainStart cs stop ≤ (cs.take stop).length := Nat.sub_le _ _
    omega
  rw [List.drop_eq_getElem_cons hlt, Nat.sub_add_cancel (Nat.pos_of_ne_zero hzero)] at hlonger
  have hbalanced := hchained.balanced_of_not_cons hlonger
  rw [List.getElem_take, Nat.zero_add] at hbalanced
  exact ⟨_, List.getElem?_eq_getElem _, hbalanced⟩

/-- The scan finds the start of the longest chain that ends at a position: the texts from there on,
and no longer ones, are chains as a whole.  What stands before it is nothing, or a parenthesis that
is not closed, or a character that stops the chain. -/
theorem chainStart_least (cs : List Char) (stop : Nat) :
    chainStart cs stop ≤ min stop cs.length ∧
    (∀ i, chainStart cs stop ≤ i ↔ Chained 0 ((cs.take stop).drop i)) ∧
    (chainStart cs stop = 0 ∨ ∃ c, cs[chainStart cs stop - 1]? = some c ∧
      ((cs.take stop).drop (chainStart cs stop)).count '(' =
        ((cs.take stop).drop (chainStart cs stop)).count ')' ∧ (c = '(' ∨ IsStop c)) := by
  refine ⟨?_, fun i => chainStart_le_iff cs stop i, chainStart_maximal cs stop⟩
  rw [← List.length_take]
  exact Nat.sub_le _ _

/-- The parenthesis before `a.b` is not closed, so the chain does not go on behind it. -/
example : chainStart "call f(a.b.".toList 10 = 7 := by decide

end Scan

end DevConsole
