/-
# `DevConsole.Proofs.Output.LineBreaks` — wrapping is greedy

What a wrapped text is can be said without saying how it is found (`IsWrapping`):

    becomes    nothing changes but some spaces, which are line breaks afterwards
    fits       a line is no longer than the width, or there is no space left to break it at
    greedy     at each new break, the line before it would have been too long with the next word

The text has exactly one such wrapping, and `wrap` finds it.  That it finds one is shown along the
text, with the column that has been reached carried along (`Filled`).  That there is no other is
shown where two wrappings part: one breaks at a space and the other does not, so for the first the
next word does not fit, and for the second it stands on a line with a space in it.

A wrapped text is its own wrapping, since nothing in it is a space here and a break there.  So
wrapping it again changes nothing.
-/
import DevConsole.Output.Wrap
import Mathlib.Data.List.Forall2
import Mathlib.Data.List.Induction

namespace DevConsole

/-! ## Cutting and joining -/

namespace Text

variable {p : Char → Bool} {c : Char}

theorem joinWith_cons {sep w : List Char} {ws : List (List Char)} (hws : ws ≠ []) :
    joinWith sep (w :: ws) = w ++ sep ++ joinWith sep ws := by
  cases ws with
  | nil => exact absurd rfl hws
  | cons v vs => rfl

theorem joinWith_append {sep : List Char} {us ws : List (List Char)} (hus : us ≠ [])
    (hws : ws ≠ []) :
    joinWith sep (us ++ ws) = joinWith sep us ++ sep ++ joinWith sep ws := by
  induction us with
  | nil => exact absurd rfl hus
  | cons u us ih =>
    cases us with
    | nil => exact joinWith_cons hws
    | cons v vs =>
      have hvs : v :: vs ≠ [] := List.cons_ne_nil v vs
      rw [List.cons_append, joinWith_cons (List.append_ne_nil_of_left_ne_nil hvs ws), ih hvs,
        joinWith_cons hvs]
      simp only [List.append_assoc]

/-- Joining undoes cutting at one character. -/
theorem joinWith_splitBy (hp : ∀ d, p d = true ↔ d = c) (cs : List Char) :
    joinWith [c] (splitBy p cs) = cs := by
  induction cs with
  | nil => rfl
  | cons d cs ih =>
    by_cases hd : p d = true
    · obtain rfl := (hp d).1 hd
      simp [splitBy, hd, joinWith_cons (splitBy_ne_nil p cs), ih]
    · obtain ⟨w, ws, hws⟩ := List.exists_cons_of_ne_nil (splitBy_ne_nil p cs)
      rw [hws] at ih
      cases ws with
      | nil => simpa [splitBy, hd, hws, joinWith] using ih
      | cons v vs => simpa [splitBy, hd, hws, joinWith] using ih

/-- Cutting undoes joining pieces in which the separator does not occur. -/
theorem splitBy_joinWith (hc : p c = true) {ws : List (List Char)} (hne : ws ≠ [])
    (hws : ∀ w ∈ ws, ∀ d ∈ w, p d = false) : splitBy p (joinWith [c] ws) = ws := by
  induction ws with
  | nil => exact absurd rfl hne
  | cons w ws ih =>
    obtain ⟨hw, hws⟩ := List.forall_mem_cons.1 hws
    by_cases hnil : ws = []
    · subst hnil
      exact splitBy_eq_singleton hw
    · rw [joinWith_cons hnil, List.append_assoc, List.singleton_append, splitBy_append_cons hc,
        splitBy_eq_singleton hw, ih hnil hws]
      rfl

/-- A run without separators lies in one piece, together with what stands before it there. -/
theorem exists_append_mem_splitBy {xs : List Char} (hxs : ∀ d ∈ xs, p d = false)
    (rest : List Char) : ∃ ys, xs ++ ys ∈ splitBy p (xs ++ rest) := by
  suffices h : ∃ ys ws, splitBy p (xs ++ rest) = (xs ++ ys) :: ws by
    obtain ⟨ys, ws, h⟩ := h
    exact ⟨ys, by simp [h]⟩
  induction xs with
  | nil => simpa using List.exists_cons_of_ne_nil (splitBy_ne_nil p rest)
  | cons x xs ih =>
    obtain ⟨hx, hxs⟩ := List.forall_mem_cons.1 hxs
    obtain ⟨ys, ws, h⟩ := ih hxs
    exact ⟨ys, ws, by simp [splitBy, hx, h]⟩

end Text

namespace Wrap

open DevConsole.Text

/-! ## What a wrapped text is -/

/-- What a character may have become: itself, and a space also a line break. -/
def Becomes (c d : Char) : Prop := d = c ∨ c = ' ' ∧ d = '\n'

/-- The length of the last line of a text. -/
def column (cs : List Char) : Nat := (cs.reverse.takeWhile (· != '\n')).length

/-- The text up to the first space, or to the end of its first line. -/
def word (cs : List Char) : List Char := cs.takeWhile fun c => c != ' ' && c != '\n'

/-- The second text is the first one with line breaks put in at a width. -/
structure IsWrapping (width : Nat) (text out : List Char) : Prop where
  /-- Nothing changes, but some spaces have become line breaks. -/
  becomes : List.Forall₂ Becomes text out
  /-- A line that is longer than the width has no space. -/
  fits : ∀ l ∈ splitBy (· == '\n') out, l.length ≤ width ∨ ' ' ∉ l
  /-- The line before a new break, with the space and the next word, is longer than the width. -/
  greedy : ∀ i, text[i]? = some ' ' → out[i]? = some '\n' →
    width < column (out.take i) + 1 + (word (text.drop (i + 1))).length

@[simp] theorem column_nil : column [] = 0 := rfl

theorem column_concat (cs : List Char) (c : Char) :
    column (cs ++ [c]) = if c = '\n' then 0 else column cs + 1 := by
  by_cases hc : c = '\n' <;> simp [column, hc]

theorem word_append_break (t u : List Char) : word (t ++ '\n' :: u) = word t := by
  induction t with
  | nil => simp [word]
  | cons c t ih =>
    simp only [word, List.cons_append, List.takeWhile_cons] at ih ⊢
    rw [ih]

theorem le_length_word {t u : List Char} (ht : ∀ c ∈ t, c ≠ ' ' ∧ c ≠ '\n') :
    t.length ≤ (word (t ++ u)).length := by
  rw [word, List.takeWhile_append_of_pos (by simpa using ht), List.length_append]
  exact Nat.le_add_right _ _

/-! ## One wrapping at most -/

/-- The first word of a text has become the start of its wrapping. -/
theorem exists_word {t o : List Char} (h : List.Forall₂ Becomes t o) :
    ∃ w rest, o = w ++ rest ∧ w.length = (word t).length ∧ '\n' ∉ w := by
  induction h with
  | nil => exact ⟨[], [], rfl, rfl, List.not_mem_nil⟩
  | @cons c d t o hcd _ ih =>
    by_cases hc : c = ' ' ∨ c = '\n'
    · refine ⟨[], d :: o, rfl, ?_, List.not_mem_nil⟩
      rcases hc with rfl | rfl <;> simp [word]
    · obtain ⟨hspace, hbreak⟩ := not_or.1 hc
      obtain ⟨w, rest, rfl, hlength, hw⟩ := ih
      rcases hcd with rfl | ⟨rfl, -⟩
      · refine ⟨d :: w, rest, rfl, ?_, by simp [hw, Ne.symm hbreak]⟩
        simp only [word] at hlength
        simp [word, hspace, hbreak, hlength]
      · exact absurd rfl hspace

/-- A run of characters on one line of a text, and what stands before it on the line. -/
theorem exists_line (before : List Char) {run : List Char} (hrun : '\n' ∉ run)
    (after : List Char) : ∃ l ∈ splitBy (· == '\n') (before ++ (run ++ after)),
      column before + run.length ≤ l.length ∧ run ⊆ l := by
  suffices h : ∃ lines last, '\n' ∉ last ∧ last.length = column before ∧ before = lines ++ last ∧
      (lines = [] ∨ ∃ us, lines = us ++ ['\n']) by
    obtain ⟨lines, last, hlast, hlength, rfl, hlines⟩ := h
    have hfree : ∀ d ∈ last ++ run, (d == '\n') = false := by
      intro d hd
      rw [beq_eq_false_iff_ne]
      rintro rfl
      exact (List.mem_append.1 hd).elim hlast hrun
    obtain ⟨ys, hys⟩ := exists_append_mem_splitBy hfree after
    have hline : (last ++ run ++ ys) ∈ splitBy (· == '\n') (lines ++ last ++ (run ++ after)) := by
      rcases hlines with rfl | ⟨us, rfl⟩
      · simpa using hys
      · rw [show us ++ ['\n'] ++ last ++ (run ++ after) =
          us ++ '\n' :: (last ++ run ++ after) by simp, splitBy_append_cons rfl]
        exact List.mem_append_right _ hys
    refine ⟨_, hline, ?_, ?_⟩
    · simp only [List.length_append]
      omega
    · intro d hd
      simp [hd]
  induction before using List.reverseRecOn with
  | nil => exact ⟨[], [], by simp⟩
  | append_singleton before c ih =>
    by_cases hc : c = '\n'
    · subst hc
      exact ⟨before ++ ['\n'], [], by simp [column_concat]⟩
    · obtain ⟨lines, last, hlast, hlength, rfl, hlines⟩ := ih
      refine ⟨lines, last ++ [c], ?_, ?_, by simp, hlines⟩
      · simp [hlast, Ne.symm hc]
      · rw [column_concat, if_neg hc, List.length_append, hlength]
        rfl

/-- A space that is kept stands on a line that has room for the next word. -/
theorem IsWrapping.fits_at {width : Nat} {text before t o : List Char}
    (h : IsWrapping width text (before ++ ' ' :: o)) (ho : List.Forall₂ Becomes t o) :
    column before + 1 + (word t).length ≤ width := by
  obtain ⟨w, rest, hrest, hword, hbreak⟩ : ∃ w rest, o = w ++ rest ∧ w.length = (word t).length ∧
      '\n' ∉ w := exists_word ho
  have hrun : '\n' ∉ ' ' :: w := by simp [hbreak]
  obtain ⟨l, hl, hlength, hsub⟩ := exists_line before hrun rest
  rw [List.cons_append, ← hrest] at hl
  rcases h.fits l hl with hfits | hspace
  · rw [List.length_cons] at hlength
    omega
  · exact absurd (hsub List.mem_cons_self) hspace

/-- Where two wrappings of a text part, one of them breaks and the other does not. -/
theorem IsWrapping.not_parts {width : Nat} {text before t o o' : List Char}
    (h : IsWrapping width text (before ++ '\n' :: o))
    (h' : IsWrapping width text (before ++ ' ' :: o')) (ho' : List.Forall₂ Becomes t o')
    (htext : text.drop before.length = ' ' :: t) : False := by
  have hspace : text[before.length]? = some ' ' := by
    rw [← List.head?_drop, htext]
    rfl
  have hgreedy := h.greedy before.length hspace (by simp)
  have hfits := h'.fits_at ho'
  have hrest : text.drop (before.length + 1) = t := by
    rw [← List.tail_drop, htext]
    rfl
  rw [hrest, List.take_left] at hgreedy
  omega

/-- A text has one wrapping at most.  The induction is on what is left of the text; before it the
two wrappings agree. -/
theorem IsWrapping.unique {width : Nat} {text out out' : List Char}
    (h : IsWrapping width text out) (h' : IsWrapping width text out') : out = out' := by
  suffices hsuffix : ∀ {t o o' : List Char} (before : List Char), List.Forall₂ Becomes t o →
      List.Forall₂ Becomes t o' → text.drop before.length = t →
      out = before ++ o → out' = before ++ o' → o = o' by
    exact hsuffix [] h.becomes h'.becomes rfl rfl rfl
  intro t o o' before ho ho' htext hout hout'
  induction ho generalizing before o' with
  | nil =>
    cases ho' with
    | nil => rfl
  | @cons c d t o hcd ho ih =>
    cases ho' with
    | @cons _ d' _ o' hcd' ho' =>
      have hd : d = d' := by
        subst hout hout'
        rcases hcd with rfl | ⟨rfl, rfl⟩ <;> rcases hcd' with rfl | ⟨hc, rfl⟩
        · rfl
        · subst hc
          exact (h'.not_parts h ho htext).elim
        · exact (h.not_parts h' ho' htext).elim
        · rfl
      subst hd
      have hnext : text.drop (before ++ [d]).length = t := by
        rw [List.length_append, List.length_singleton, ← List.tail_drop, htext]
        rfl
      rw [ih (before ++ [d]) ho' hnext (by simpa using hout) (by simpa using hout')]

/-! ## One wrapping at least -/

/-- The text is filled into lines from a column on.  Each break that is there or put in starts a
new line, and one is only put in where the next word does not fit. -/
inductive Filled (width : Nat) : Nat → List Char → List Char → Prop
  | nil {k : Nat} : Filled width k [] []
  | keep {k : Nat} {c : Char} {t o : List Char} : c ≠ '\n' → Filled width (k + 1) t o →
      Filled width k (c :: t) (c :: o)
  | old {k : Nat} {t o : List Char} : Filled width 0 t o → Filled width k ('\n' :: t) ('\n' :: o)
  | new {k : Nat} {t o : List Char} : width < k + 1 + (word t).length → Filled width 0 t o →
      Filled width k (' ' :: t) ('\n' :: o)

namespace Filled

variable {width k : Nat} {t o : List Char}

theorem becomes (h : Filled width k t o) : List.Forall₂ Becomes t o := by
  induction h with
  | nil => exact .nil
  | keep _ _ ih => exact .cons (.inl rfl) ih
  | old _ ih => exact .cons (.inl rfl) ih
  | new _ _ ih => exact .cons (.inr ⟨rfl, rfl⟩) ih

/-- The column that is carried along is that of the text before. -/
theorem greedy (h : Filled width k t o) {before : List Char} (hk : column before = k) {i : Nat}
    (ht : t[i]? = some ' ') (ho : o[i]? = some '\n') :
    width < column (before ++ o.take i) + 1 + (word (t.drop (i + 1))).length := by
  induction h generalizing before i with
  | nil => cases ht
  | @keep k c t o hc _ ih =>
    cases i with
    | zero =>
      cases ho
      exact absurd rfl hc
    | succ i =>
      have hcolumn : column (before ++ [c]) = k + 1 := by rw [column_concat, if_neg hc, hk]
      simpa using ih hcolumn (by simpa using ht) (by simpa using ho)
  | old _ ih =>
    cases i with
    | zero => cases ht
    | succ i =>
      have hcolumn : column (before ++ ['\n']) = 0 := by rw [column_concat, if_pos rfl]
      simpa using ih hcolumn (by simpa using ht) (by simpa using ho)
  | new hlong _ ih =>
    cases i with
    | zero => simpa [hk] using hlong
    | succ i =>
      have hcolumn : column (before ++ ['\n']) = 0 := by rw [column_concat, if_pos rfl]
      simpa using ih hcolumn (by simpa using ht) (by simpa using ho)

/-- Text on one line. -/
theorem append {a : List Char} (ha : '\n' ∉ a) (h : Filled width (k + a.length) t o) :
    Filled width k (a ++ t) (a ++ o) := by
  induction a generalizing k with
  | nil => exact h
  | cons c a ih =>
    simp only [List.mem_cons, not_or] at ha
    refine .keep (Ne.symm ha.1) (ih ha.2 ?_)
    rwa [Nat.add_assoc, Nat.add_comm 1]

theorem of_line {a : List Char} (ha : '\n' ∉ a) : Filled width k a a := by
  simpa using append ha (.nil : Filled width (k + a.length) [] [])

/-- Texts on lines of their own. -/
theorem append_break {t' o' : List Char} (h : Filled width k t o) (h' : Filled width 0 t' o') :
    Filled width k (t ++ '\n' :: t') (o ++ '\n' :: o') := by
  induction h with
  | nil => exact .old h'
  | keep hc _ ih => exact .keep hc ih
  | old _ ih => exact .old ih
  | new hlong _ ih => exact .new (by simpa [word_append_break] using hlong) ih

end Filled

/-! ## Where a paragraph is broken -/

theorem firstSpace?_eq_some {cs : List Char} {i : Nat} (h : firstSpace? cs = some i) :
    ∃ a b, cs = a ++ ' ' :: b ∧ a.length = i ∧ ' ' ∉ a := by
  obtain ⟨hi, hspace, hbefore⟩ := List.findIdx?_eq_some_iff_getElem.1 h
  rw [beq_iff_eq] at hspace
  refine ⟨cs.take i, cs.drop (i + 1), ?_, List.length_take_of_le (Nat.le_of_lt hi), ?_⟩
  · rw [← hspace, ← List.drop_eq_getElem_cons hi, List.take_append_drop]
  · intro hmem
    obtain ⟨j, hj, hget⟩ := List.mem_iff_getElem.1 hmem
    rw [List.getElem_take] at hget
    have hlt : j < i := by
      rw [List.length_take] at hj
      omega
    exact hbefore j hlt (beq_iff_eq.2 hget)

theorem firstSpace?_eq_none {cs : List Char} (h : firstSpace? cs = none) : ' ' ∉ cs := by
  intro hmem
  exact absurd (List.findIdx?_eq_none_iff.1 h ' ' hmem) (by simp)

theorem lastSpace?_eq_none {cs : List Char} (h : lastSpace? cs = none) : ' ' ∉ cs := by
  induction cs with
  | nil => exact List.not_mem_nil
  | cons c cs ih =>
    unfold lastSpace? at h
    split at h
    · cases h
    · rename_i hnone
      split at h
      · cases h
      · rename_i hc
        simp [ih hnone, Ne.symm hc]

theorem lastSpace?_eq_some {cs : List Char} {i : Nat} (h : lastSpace? cs = some i) :
    ∃ a b, cs = a ++ ' ' :: b ∧ a.length = i ∧ ' ' ∉ b := by
  induction cs generalizing i with
  | nil => cases h
  | cons c cs ih =>
    unfold lastSpace? at h
    split at h
    · rename_i j hj
      cases h
      obtain ⟨a, b, rfl, rfl, hb⟩ := ih hj
      exact ⟨c :: a, b, rfl, rfl, hb⟩
    · rename_i hnone
      split at h
      · rename_i hc
        cases h
        exact ⟨[], cs, by rw [hc]; rfl, rfl, lastSpace?_eq_none hnone⟩
      · cases h

/-- A paragraph that is too long is broken at a space: the last one that fits or, if none fits, the
first one.  The word after that space does not fit. -/
theorem breakAt?_eq_some {width i : Nat} {cs : List Char} (hlong : width < cs.length)
    (hcs : '\n' ∉ cs) (h : breakAt? width cs = some i) :
    ∃ a b, cs = a ++ ' ' :: b ∧ a.length = i ∧ (a.length ≤ width ∨ ' ' ∉ a) ∧
      width < a.length + 1 + (word b).length := by
  rw [breakAt?, Option.or_eq_some_iff] at h
  rcases h with hlast | ⟨hnone, hfirst⟩
  · obtain ⟨a, b, hsplit, rfl, hb⟩ := lastSpace?_eq_some hlast
    have hlength : a.length + 1 + b.length = width + 1 := by
      have := congrArg List.length hsplit
      simp only [List.length_take, List.length_append, List.length_cons] at this
      omega
    have hwhole : cs = a ++ ' ' :: (b ++ cs.drop (width + 1)) := by
      conv_lhs => rw [← List.take_append_drop (width + 1) cs, hsplit]
      simp
    have hword : b.length ≤ (word (b ++ cs.drop (width + 1))).length := by
      refine le_length_word fun c hc => ⟨?_, ?_⟩
      · rintro rfl
        exact hb hc
      · rintro rfl
        exact hcs (hwhole ▸ by simp [hc])
    exact ⟨a, _, hwhole, rfl, .inl (by omega), by omega⟩
  · obtain ⟨a, b, rfl, rfl, ha⟩ := firstSpace?_eq_some hfirst
    have hbeyond : width < a.length := by
      by_contra hle
      refine lastSpace?_eq_none hnone ?_
      rw [List.take_append, List.mem_append]
      right
      rw [show width + 1 - a.length = (width - a.length) + 1 by omega, List.take_succ_cons]
      exact List.mem_cons_self
    exact ⟨a, b, rfl, rfl, .inr ha, by omega⟩

theorem breakAt?_eq_none {width : Nat} {cs : List Char} (h : breakAt? width cs = none) :
    ' ' ∉ cs := by
  rw [breakAt?, Option.or_eq_none_iff] at h
  exact firstSpace?_eq_none h.2

/-! ## Paragraphs -/

theorem paragraph_ne_nil (width : Nat) (cs : List Char) : paragraph width cs ≠ [] := by
  unfold paragraph
  split
  · simp
  split <;> simp

/-- What every line of a paragraph comes to: it is short, or has no space. -/
theorem fits_of_mem_paragraph {width : Nat} {cs : List Char} (hcs : '\n' ∉ cs) :
    ∀ l ∈ paragraph width cs, '\n' ∉ l ∧ (l.length ≤ width ∨ ' ' ∉ l) := by
  fun_induction paragraph width cs with
  | case1 cs hshort => simpa using ⟨hcs, .inl hshort⟩
  | case2 cs hlong hnone => simpa using ⟨hcs, .inr (breakAt?_eq_none hnone)⟩
  | case3 cs hlong i hbreak ih =>
    obtain ⟨a, b, rfl, rfl, hfits, -⟩ := breakAt?_eq_some (by omega) hcs hbreak
    simp only [List.mem_append, List.mem_cons, not_or] at hcs
    intro l hl
    rw [List.take_left, List.mem_cons] at hl
    rcases hl with rfl | hl
    · exact ⟨hcs.1, hfits⟩
    · rw [← List.tail_drop, List.drop_left] at hl ih
      exact ih hcs.2.2 l hl

theorem filled_paragraph {width : Nat} {cs : List Char} (hcs : '\n' ∉ cs) :
    Filled width 0 cs (joinWith ['\n'] (paragraph width cs)) := by
  fun_induction paragraph width cs with
  | case1 cs hshort => exact .of_line hcs
  | case2 cs hlong hnone => exact .of_line hcs
  | case3 cs hlong i hbreak ih =>
    obtain ⟨a, b, rfl, rfl, -, hword⟩ := breakAt?_eq_some (by omega) hcs hbreak
    simp only [List.mem_append, List.mem_cons, not_or] at hcs
    rw [← List.tail_drop, List.drop_left] at ih ⊢
    rw [joinWith_cons (paragraph_ne_nil _ _), List.take_left, List.append_assoc]
    exact .append hcs.1 (.new (by omega) (ih hcs.2.2))

/-! ## The whole text -/

theorem newline_not_mem_of_mem_splitBy {cs p : List Char} (h : p ∈ splitBy (· == '\n') cs) :
    '\n' ∉ p := fun hmem => by simpa using not_of_mem_splitBy h '\n' hmem

theorem lines_ne_nil (width : Nat) (cs : List Char) : lines width cs ≠ [] := by
  obtain ⟨p, ps, hps⟩ := List.exists_cons_of_ne_nil (splitBy_ne_nil (· == '\n') cs)
  rw [lines, hps, List.flatMap_cons]
  exact List.append_ne_nil_of_left_ne_nil (paragraph_ne_nil _ p) _

theorem fits_of_mem_lines {width : Nat} {cs l : List Char} (hl : l ∈ lines width cs) :
    '\n' ∉ l ∧ (l.length ≤ max 1 width ∨ ' ' ∉ l) := by
  obtain ⟨p, hp, hl⟩ := List.mem_flatMap.1 hl
  exact fits_of_mem_paragraph (newline_not_mem_of_mem_splitBy hp) l hl

/-- The lines are those of the wrapped text. -/
theorem splitBy_wrap (width : Nat) (cs : List Char) :
    splitBy (· == '\n') (wrap width cs) = lines width cs := by
  refine splitBy_joinWith rfl (lines_ne_nil width cs) fun l hl d hd => ?_
  rw [beq_eq_false_iff_ne]
  rintro rfl
  exact (fits_of_mem_lines hl).1 hd

theorem filled_paragraphs {width : Nat} {ps : List (List Char)} (hps : ∀ p ∈ ps, '\n' ∉ p) :
    Filled width 0 (joinWith ['\n'] ps) (joinWith ['\n'] (ps.flatMap (paragraph width))) := by
  induction ps with
  | nil => exact .nil
  | cons p ps ih =>
    obtain ⟨hp, hps⟩ := List.forall_mem_cons.1 hps
    cases ps with
    | nil => simpa [joinWith] using filled_paragraph hp
    | cons q qs =>
      have hrest : (q :: qs).flatMap (paragraph width) ≠ [] :=
        List.append_ne_nil_of_left_ne_nil (paragraph_ne_nil width q) _
      rw [List.flatMap_cons, joinWith_cons (List.cons_ne_nil q qs),
        joinWith_append (paragraph_ne_nil width p) hrest, List.append_assoc, List.append_assoc]
      exact (filled_paragraph hp).append_break (ih hps)

theorem filled_wrap (width : Nat) (cs : List Char) : Filled (max 1 width) 0 cs (wrap width cs) := by
  have hpieces : Filled (max 1 width) 0 (joinWith ['\n'] (splitBy (· == '\n') cs)) _ :=
    filled_paragraphs fun p hp => newline_not_mem_of_mem_splitBy hp
  rwa [joinWith_splitBy (fun d => beq_iff_eq) cs] at hpieces

theorem isWrapping_wrap (width : Nat) (cs : List Char) :
    IsWrapping (max 1 width) cs (wrap width cs) where
  becomes := (filled_wrap width cs).becomes
  fits l hl := (fits_of_mem_lines (splitBy_wrap width cs ▸ hl)).2
  greedy i ht ho := by simpa using (filled_wrap width cs).greedy column_nil ht ho

/-- A wrapped text is a wrapping of itself. -/
theorem IsWrapping.again {width : Nat} {text out : List Char} (h : IsWrapping width text out) :
    IsWrapping width out out where
  becomes := List.forall₂_same.2 fun _ _ => .inl rfl
  fits := h.fits
  greedy i hspace hbreak := by
    rw [hspace] at hbreak
    cases hbreak

/-- Wrapping changes nothing but some spaces, which become line breaks; it leaves no line that is
too long and has a space; and it breaks only where the next word does not fit.  No other text is
such a wrapping. -/
theorem wrap_greedy (width : Nat) (text : List Char) :
    IsWrapping (max 1 width) text (wrap width text) ∧
      ∀ out, IsWrapping (max 1 width) text out → out = wrap width text :=
  ⟨isWrapping_wrap width text, fun _ h => h.unique (isWrapping_wrap width text)⟩

/-- Wrapping wrapped text changes nothing. -/
theorem wrap_wrap (width : Nat) (text : List Char) :
    wrap width (wrap width text) = wrap width text :=
  (isWrapping_wrap width (wrap width text)).unique (isWrapping_wrap width text).again

end Wrap

end DevConsole
