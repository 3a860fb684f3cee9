/-
# `DevConsole.Proofs.Completion.Replacement` — completion replaces the word and nothing else

Where the word at the cursor starts and stops is looked up in a copy of the line, in which
placeholders are spaces from the start of the expression on.  The two positions then cut the line
itself, and so they are described here by what stands in the line (`Engine.EndsWord`):

    anywhere               a character that ends words
    in the expression      the placeholder too

They are the only ones around the cursor with no such character between and one on either side
(`IsWordAt.bounds_eq`, `isWordAt_bounds`).

A run is what the first call makes of the line.  Later calls change its index alone, whatever line
they are given, so that all of them return a line of the run that starts as the line did up to the
cursor, with the text behind the word as it was (`calls_result`).
-/
import DevConsole.Error
import DevConsole.Proofs.Completion.Chain
import DevConsole.Proofs.Completion.Cycling

namespace DevConsole

/-! ## The word at a position -/

namespace Scan

/-- The character at a position is one that ends words. -/
def BreaksAt (cs : List Char) (i : Nat) : Prop := ∃ c, cs[i]? = some c ∧ isWordBreak c = true

/-- The word that holds a position, or ends there, in a line of some length: it is not broken, and
is not part of a longer one. -/
structure IsWordAt (breaks : Nat → Prop) (length pos start stop : Nat) : Prop where
  start_le : start ≤ pos
  le_stop : pos ≤ stop
  stop_le : stop ≤ length
  unbroken : ∀ i, start ≤ i → i < stop → ¬ breaks i
  breaks_before : 0 < start → breaks (start - 1)
  breaks_after : stop < length → breaks stop

variable {cs : List Char} {pos start stop : Nat}

theorem IsWordAt.start_le_start {breaks : Nat → Prop} {length start' stop' : Nat}
    (h : IsWordAt breaks length pos start stop) (h' : IsWordAt breaks length pos start' stop') :
    start ≤ start' := by
  by_contra hlt
  have hbreak := h.breaks_before (by omega)
  have hle := h.start_le
  have hle' := h'.le_stop
  exact h'.unbroken (start - 1) (by omega) (by omega) hbreak

theorem IsWordAt.stop_le_stop {breaks : Nat → Prop} {length start' stop' : Nat}
    (h : IsWordAt breaks length pos start stop) (h' : IsWordAt breaks length pos start' stop') :
    stop ≤ stop' := by
  by_contra hlt
  have hstop := h.stop_le
  have hbreak := h'.breaks_after (by omega)
  have hle := h.start_le
  have hle' := h'.le_stop
  exact h.unbroken stop' (by omega) (by omega) hbreak

/-- A line, cut around the word at a position. -/
theorem exists_word (hpos : pos ≤ cs.length) :
    ∃ before left right after, cs = before ++ ((left ++ right) ++ after) ∧
      pos = before.length + left.length ∧
      (∀ c ∈ left ++ right, isWordBreak c = false) ∧
      (∀ c ∈ before.getLast?, isWordBreak c = true) ∧ ∀ c ∈ after.head?, isWordBreak c = true := by
  have hfirst : (cs.take pos).reverse = (cs.take pos).reverse.takeWhile (!isWordBreak ·) ++
      (cs.take pos).reverse.dropWhile (!isWordBreak ·) := List.takeWhile_append_dropWhile.symm
  have hsecond : cs.drop pos = (cs.drop pos).takeWhile (!isWordBreak ·) ++
      (cs.drop pos).dropWhile (!isWordBreak ·) := List.takeWhile_append_dropWhile.symm
  have hheads {l : List Char} : ∀ c ∈ (l.dropWhile (!isWordBreak ·)).head?,
      isWordBreak c = true := by
    intro c hc
    have hnot := List.head?_dropWhile_not (!isWordBreak ·) l
    rw [hc] at hnot
    simpa using hnot
  have htakes {l : List Char} : ∀ c ∈ l.takeWhile (!isWordBreak ·), isWordBreak c = false := by
    intro c hc
    simpa using List.mem_takeWhile_imp hc
  have hpast := congrArg List.reverse hfirst
  rw [List.reverse_reverse, List.reverse_append] at hpast
  refine ⟨((cs.take pos).reverse.dropWhile (!isWordBreak ·)).reverse,
    ((cs.take pos).reverse.takeWhile (!isWordBreak ·)).reverse,
    (cs.drop pos).takeWhile (!isWordBreak ·), (cs.drop pos).dropWhile (!isWordBreak ·),
    ?_, ?_, ?_, ?_, hheads⟩
  · rw [List.append_assoc, ← hsecond, ← List.append_assoc, ← hpast, List.take_append_drop]
  · rw [← List.length_append, ← hpast, List.length_take_of_le hpos]
  · intro c hc
    rcases List.mem_append.1 hc with hc | hc
    · exact htakes c (List.mem_reverse.1 hc)
    · exact htakes c hc
  · rw [List.getLast?_reverse]
    exact hheads

/-- The bounds that the scanner finds are those of a word. -/
theorem isWordAt_bounds (hpos : pos ≤ cs.length) :
    IsWordAt (BreaksAt cs) cs.length pos (wordStart cs pos) (wordEnd cs pos) := by
  obtain ⟨before, left, right, after, rfl, rfl, hword, hleft, hright⟩ := exists_word hpos
  have hn : left.length ≤ (left ++ right).length := by simp
  rw [wordStart_append hword hleft hn, wordEnd_append hword hright hn]
  have hlength : (before ++ ((left ++ right) ++ after)).length =
      before.length + (left ++ right).length + after.length := by simp [Nat.add_assoc]
  refine ⟨Nat.le_add_right _ _, Nat.add_le_add_left hn _, ?_, ?_, ?_, ?_⟩
  · rw [hlength]
    exact Nat.le_add_right _ _
  · rintro i hi hlt ⟨c, hc, hbreak⟩
    rw [List.getElem?_append_right hi, List.getElem?_append_left (by omega)] at hc
    rw [hword c (List.mem_of_getElem? hc)] at hbreak
    cases hbreak
  · intro hpos
    have hne : before ≠ [] := List.ne_nil_of_length_pos hpos
    refine ⟨before.getLast hne, ?_, hleft _ (List.getLast?_eq_some_getLast hne)⟩
    rw [List.getElem?_append_left (by omega), ← List.getLast?_eq_getElem?,
      List.getLast?_eq_some_getLast hne]
  · intro hlt
    have hne : after ≠ [] := List.ne_nil_of_length_pos (by omega)
    refine ⟨after.head hne, ?_, hright _ (List.head?_eq_some_head hne)⟩
    rw [List.getElem?_append_right (Nat.le_add_right _ _), Nat.add_sub_cancel_left,
      List.getElem?_append_right (Nat.le_refl _), Nat.sub_self, ← List.head?_eq_getElem?,
      List.head?_eq_some_head hne]

/-- There is one word at a position, and the scanner finds it. -/
theorem IsWordAt.bounds_eq (h : IsWordAt (BreaksAt cs) cs.length pos start stop) :
    wordStart cs pos = start ∧ wordEnd cs pos = stop := by
  have hfound := isWordAt_bounds (h.le_stop.trans h.stop_le)
  exact ⟨(hfound.start_le_start h).antisymm (h.start_le_start hfound),
    (hfound.stop_le_stop h).antisymm (h.stop_le_stop hfound)⟩

end Scan

namespace Completion

/-! ## The word of a line -/

namespace Engine

/-- A position is in the expression of a line. -/
def InExpression (e : Engine) (buffer : List Char) (i : Nat) : Prop :=
  ∃ n, expressionStart? e.expressionLead.toList buffer = some n ∧ n ≤ i

/-- The character at a position ends words, or is a placeholder in the expression. -/
def EndsWord (e : Engine) (buffer : List Char) (i : Nat) : Prop :=
  ∃ c, buffer[i]? = some c ∧
    (Scan.isWordBreak c = true ∨ c = e.placeholder ∧ e.InExpression buffer i)

/-- The word at the cursor of a line. -/
def IsWord (e : Engine) (line : Completed) (start stop : Nat) : Prop :=
  Scan.IsWordAt (e.EndsWord line.buffer) line.buffer.length (line.buffer.length - line.cursor)
    start stop

variable {e : Engine}

theorem getElem?_normalize (placeholder : Char) (n i : Nat) (cs : List Char) :
    (normalize placeholder (some n) cs)[i]? =
      cs[i]?.map fun c => if c = placeholder ∧ n ≤ i then ' ' else c := by
  rw [normalize]
  rcases Nat.lt_or_ge i n with hlt | hge
  · have hnot (c : Char) : ¬ (c = placeholder ∧ n ≤ i) := fun h => by omega
    simp only [hnot, if_false, Option.map_id']
    rcases Nat.lt_or_ge i cs.length with hi | hi
    · rw [List.getElem?_append_left (by rw [List.length_take]; omega),
        List.getElem?_take_of_lt hlt]
    · rw [List.getElem?_eq_none hi, List.getElem?_eq_none]
      rw [List.length_append, List.length_map, ← List.length_append, List.take_append_drop]
      exact hi
  · simp only [hge, and_true]
    rcases Nat.lt_or_ge n cs.length with hn | hn
    · have hlength : (cs.take n).length = n := List.length_take_of_le hn.le
      rw [List.getElem?_append_right (by omega), hlength, List.getElem?_map, List.getElem?_drop,
        Nat.add_sub_cancel' hge]
    · rw [List.take_of_length_le hn, List.drop_of_length_le hn, List.map_nil, List.append_nil,
        List.getElem?_eq_none (hn.trans hge)]
      rfl

/-- In the copy that is scanned, words end where they do in the line. -/
theorem breaksAt_normalize (e : Engine) (buffer : List Char) :
    Scan.BreaksAt (normalize e.placeholder (expressionStart? e.expressionLead.toList buffer) buffer) =
      e.EndsWord buffer := by
  funext i
  have hspace : Scan.isWordBreak ' ' = true := by decide +kernel
  refine propext ?_
  simp only [Scan.BreaksAt, EndsWord, InExpression]
  cases expressionStart? e.expressionLead.toList buffer with
  | none => simp [normalize]
  | some n =>
    simp only [getElem?_normalize, Option.map_eq_some_iff, Option.some.injEq, exists_eq_left']
    constructor
    · rintro ⟨_, ⟨c, hc, rfl⟩, hbreak⟩
      refine ⟨c, hc, ?_⟩
      split at hbreak
      · rename_i hplace
        exact .inr hplace
      · exact .inl hbreak
    · rintro ⟨c, hc, hbreak⟩
      refine ⟨_, ⟨c, hc, rfl⟩, ?_⟩
      split
      · exact hspace
      · rename_i hplace
        exact hbreak.resolve_right hplace

variable {buffer : List Char} {cursor start stop : Nat}

/-- Inside an expression the question is never about commands. -/
theorem memberQuestion_ne_commands (cs : List Char) (start : Nat) :
    memberQuestion cs start ≠ .commands := by
  unfold memberQuestion
  repeat' split
  all_goals nofun

/-- The word at a cursor is the one that is scanned. -/
theorem isWord_scanned (e : Engine) (line : Completed) :
    e.IsWord line
      (Scan.wordStart (normalize e.placeholder (expressionStart? e.expressionLead.toList line.buffer)
        line.buffer) (line.buffer.length - line.cursor))
      (Scan.wordEnd (normalize e.placeholder (expressionStart? e.expressionLead.toList line.buffer)
        line.buffer) (line.buffer.length - line.cursor)) := by
  have hpos : line.buffer.length - line.cursor ≤ (normalize e.placeholder
      (expressionStart? e.expressionLead.toList line.buffer) line.buffer).length := by
    rw [length_normalize]
    exact Nat.sub_le _ _
  have hfound := Scan.isWordAt_bounds hpos
  rwa [breaksAt_normalize, length_normalize] at hfound

/-- A line is cut where the word starts and stops, and commands are asked for outside the
expression. -/
theorem IsWord.site_eq (h : e.IsWord ⟨buffer, cursor⟩ start stop) :
    (e.site buffer cursor).before = buffer.take start ∧
      (e.site buffer cursor).tail = buffer.drop stop ∧
      ((e.site buffer cursor).question = .commands ↔ ¬ e.InExpression buffer start) := by
  have hbounds : Scan.IsWordAt (e.EndsWord buffer) buffer.length (buffer.length - cursor)
    start stop := h
  rw [← breaksAt_normalize, ← length_normalize e.placeholder
    (expressionStart? e.expressionLead.toList buffer)] at hbounds
  obtain ⟨hstart, hstop⟩ := hbounds.bounds_eq
  rw [length_normalize] at hstart hstop
  simp only [site, hstart, hstop, InExpression, true_and]
  cases expressionStart? e.expressionLead.toList buffer with
  | none => simp
  | some n =>
    simp only [Option.some.injEq, exists_eq_left', Nat.not_le]
    split
    · rename_i hle
      simp only [memberQuestion_ne_commands, false_iff, Nat.not_lt]
      exact hle
    · rename_i hlt
      simp only [true_iff]
      exact Nat.lt_of_not_le hlt

end Engine

/-! ## Calls -/

/-- What answers the questions of completion: the names of the commands, and those of the members
of a chain, or a failure. -/
structure Source where
  commands : List String
  members : List Char → Except Failure (List String)

namespace Source

/-- The names that answer a question.  After a failure there are none. -/
def names (src : Source) : Question → List String
  | .commands => src.commands
  | .members chain => (src.members chain).toOption.getD []
  | .nothing => []

/-- The source has the name for a word inside the expression, or outside: a plain name of a member,
or the name of a command. -/
def Offers (src : Source) (inside : Prop) (name : List Char) : Prop :=
  (inside ∧ Scan.isName name = true ∧
    ∃ chain ns n, src.members chain = .ok ns ∧ n ∈ ns ∧ name = n.toList) ∨
  (¬ inside ∧ ∃ n ∈ src.commands, name = n.toList)

end Source

namespace Engine

variable {e : Engine} {line : Completed} {start stop : Nat} {r : Run}

/-- The names that answer the question about a line. -/
def answer (e : Engine) (src : Source) (line : Completed) : List String :=
  src.names (e.site line.buffer line.cursor).question

/-- Those of them that fit. -/
def candidates (e : Engine) (src : Source) (line : Completed) : List (List Char) :=
  fitting (e.site line.buffer line.cursor).question (e.answer src line)

/-- One call. -/
def call (e : Engine) (src : Source) (line : Completed) (d : Direction) :
    Option Completed × Engine :=
  e.step line.buffer line.cursor
    (((e.question? line.buffer line.cursor).map src.names).getD []) d

/-- What calls return, one after the other.  Each is given the line that the last one returned, or
the same as the last one if that returned nothing. -/
def calls (src : Source) : Engine → Completed → List Direction → List (Option Completed)
  | _, _, [] => []
  | e, line, d :: ds =>
    let result := e.call src line d
    result.1 :: calls src result.2 (result.1.getD line) ds

theorem offers_of_mem_candidates (h : e.IsWord line start stop) {src : Source} {name : List Char}
    (hname : name ∈ e.candidates src line) :
    src.Offers (e.InExpression line.buffer start) name := by
  obtain ⟨-, -, hquestion⟩ := h.site_eq
  unfold candidates answer at hname
  cases hq : (e.site line.buffer line.cursor).question with
  | commands =>
    rw [hq] at hname
    obtain ⟨n, hn, rfl⟩ := List.mem_map.1 hname
    exact .inr ⟨hquestion.1 hq, n, hn, rfl⟩
  | members chain =>
    rw [hq] at hname
    obtain ⟨hmem, hplain⟩ := List.mem_filter.1 hname
    obtain ⟨n, hn, rfl⟩ := List.mem_map.1 hmem
    have hinside : e.InExpression line.buffer start := by
      by_contra hout
      rw [hquestion.2 hout] at hq
      cases hq
    rw [Source.names] at hn
    cases hns : src.members chain with
    | ok ns =>
      rw [hns] at hn
      exact .inl ⟨hinside, hplain, chain, ns, n, hns, hn, rfl⟩
    | error f =>
      rw [hns] at hn
      cases hn
  | nothing =>
    rw [hq] at hname
    cases hname

end Engine

/-- What a step of a run may return: a line of the run that starts as the line did up to the cursor,
and nothing only if there is none. -/
def Run.Returns (r : Run) : Option Completed → Prop
  | some done => ∃ text ∈ r.corpus, r.lead <+: text ∧ done = ⟨text ++ r.tail, r.tail.length⟩
  | none => ∀ text ∈ r.corpus, ¬ r.lead <+: text

namespace Engine

variable {e : Engine} {line : Completed} {start stop : Nat} {r : Run}

/-- A step changes the index of a run, and nothing else about it. -/
theorem step_returns {names : List String} {i : Option Nat} (d : Direction)
    (h : e.current line.buffer line.cursor names = { r with index := i }) :
    r.Returns (e.step line.buffer line.cursor names d).1 ∧
      ∃ j, (e.step line.buffer line.cursor names d).2.run = some { r with index := j } := by
  have hmatches := areMatches_matchesFrom r.corpus r.lead
  rw [step, h]
  cases hcycle : cycle r.corpus r.lead i d with
  | none =>
    simp only
    refine ⟨fun text htext hlead => ?_, i, rfl⟩
    obtain ⟨j, hj⟩ := List.getElem?_of_mem htext
    have hmem := (hmatches.mem_iff j).2 ⟨text, hj, hlead⟩
    rw [(cycle_eq_none_iff hmatches).1 hcycle] at hmem
    cases hmem
  | some j =>
    simp only
    obtain ⟨text, htext, hlead⟩ := (hmatches.mem_iff j).1 (mem_of_cycle_eq_some hmatches hcycle)
    refine ⟨⟨text, List.mem_of_getElem? htext, hlead, ?_⟩, some j, rfl⟩
    rw [List.getD_eq_getElem?_getD, htext, Option.getD_some]

/-- During a run all calls return what the run may return. -/
theorem calls_running {src : Source} {i : Option Nat} (h : e.run = some { r with index := i })
    (line : Completed) (ds : List Direction) :
    ∀ result ∈ calls src e line ds, r.Returns result := by
  induction ds generalizing e i line with
  | nil => nofun
  | cons d ds ih =>
    have hcurrent (names : List String) :
        e.current line.buffer line.cursor names = { r with index := i } := by
      rw [current, h]
    obtain ⟨hfirst, j, hrun⟩ := step_returns d (hcurrent _)
    exact List.forall_mem_cons.2 ⟨hfirst, ih hrun _⟩

/-- The first call makes the run of the line, with which the others go on. -/
theorem calls_returns (hidle : e.run = none) (src : Source) (line : Completed)
    (ds : List Direction) :
    ∀ result ∈ calls src e line ds,
      (e.fresh line.buffer line.cursor (e.answer src line)).Returns result := by
  cases ds with
  | nil => nofun
  | cons d ds =>
    have hcurrent (names : List String) : e.current line.buffer line.cursor names =
        { e.fresh line.buffer line.cursor names with index := none } := by
      rw [current, hidle]
      rfl
    have hnames : ((e.question? line.buffer line.cursor).map src.names).getD [] =
        e.answer src line := by
      rw [question?, hidle]
      rfl
    obtain ⟨hfirst, j, hrun⟩ := step_returns d (hcurrent (e.answer src line))
    rw [calls, call, hnames]
    exact List.forall_mem_cons.2 ⟨hfirst, calls_running hrun _ ds⟩

/-- Completion replaces the word at the cursor and nothing else.  Every line that is returned is the
line before the word, a name of the source and the line behind the word, with the cursor where the
name ends, and starts with the line up to the cursor.  Inside the expression the name is a plain one.
Nothing is returned only if no name fits. -/
theorem calls_replace (hidle : e.run = none) (src : Source) (line : Completed) :
    (∃ start stop, e.IsWord line start stop) ∧
    ∀ start stop, e.IsWord line start stop → ∀ ds, ∀ result ∈ calls src e line ds,
      (∀ done, result = some done → ∃ name ∈ e.candidates src line,
        src.Offers (e.InExpression line.buffer start) name ∧
        done.buffer = line.buffer.take start ++ name ++ line.buffer.drop stop ∧
        done.cursor = (line.buffer.drop stop).length ∧
        line.buffer.take (line.buffer.length - line.cursor) <+: done.buffer) ∧
      (result = none → ∀ name ∈ e.candidates src line,
        ¬ line.buffer.take (line.buffer.length - line.cursor) <+: line.buffer.take start ++ name) := by
  refine ⟨⟨_, _, isWord_scanned e line⟩, fun start stop h ds result hresult => ?_⟩
  have hreturns := calls_returns hidle src line ds result hresult
  obtain ⟨hbefore, htail, -⟩ := h.site_eq
  have hcorpus (text : List Char) :
      text ∈ (e.fresh line.buffer line.cursor (e.answer src line)).corpus ↔
        ∃ name ∈ e.candidates src line, line.buffer.take start ++ name = text := by
    rw [← hbefore]
    exact mem_sortedLines.trans List.mem_map
  constructor
  · rintro done rfl
    obtain ⟨text, htext, hlead, rfl⟩ := hreturns
    obtain ⟨name, hname, rfl⟩ := (hcorpus text).1 htext
    have hrest : (e.fresh line.buffer line.cursor (e.answer src line)).tail =
        line.buffer.drop stop := htail
    rw [hrest]
    exact ⟨name, hname, offers_of_mem_candidates h hname, rfl, rfl,
      hlead.trans (List.prefix_append _ _)⟩
  · rintro rfl name hname hlead
    exact hreturns _ ((hcorpus _).2 ⟨name, hname, rfl⟩) hlead

/-- Between placeholders, one of four names fits, and calls from the middle of the word all return
it. -/
theorem calls_replace_placeholders :
    Engine.IsWord ⟨"call ", '#', none⟩ ⟨"call x#+#play#- 1".toList, 6⟩ 9 13 ∧
      ∀ result ∈ calls ⟨["player"], fun _ => .ok ["pace", "player", "pl<T>", "score"]⟩
          ⟨"call ", '#', none⟩ ⟨"call x#+#play#- 1".toList, 6⟩ [.forward, .backward, .forward],
        ∃ done, result = some done ∧ done.buffer = "call x#+#player#- 1".toList ∧
          done.cursor = 4 := by
  generalize hline : (⟨"call x#+#play#- 1".toList, 6⟩ : Completed) = line
  generalize hsource : (⟨["player"], fun _ => .ok ["pace", "player", "pl<T>", "score"]⟩ : Source) =
    src
  generalize hengine : (⟨"call ", '#', none⟩ : Engine) = e
  have hword : e.IsWord line 9 13 := by
    have hscanned := isWord_scanned e line
    have hbounds : Scan.wordStart (normalize e.placeholder
        (expressionStart? e.expressionLead.toList line.buffer) line.buffer)
          (line.buffer.length - line.cursor) = 9 ∧
        Scan.wordEnd (normalize e.placeholder
          (expressionStart? e.expressionLead.toList line.buffer) line.buffer)
            (line.buffer.length - line.cursor) = 13 := by
      subst hline hengine
      decide +kernel
    rwa [hbounds.1, hbounds.2] at hscanned
  have hplayer : "player".toList ∈ e.candidates src line ∧
      line.buffer.take (line.buffer.length - line.cursor) <+:
        line.buffer.take 9 ++ "player".toList := by
    subst hline hsource hengine
    decide +kernel
  have hothers : ∀ name ∈ e.candidates src line,
      line.buffer.take (line.buffer.length - line.cursor) <+:
        line.buffer.take 9 ++ name ++ line.buffer.drop 13 → name = "player".toList := by
    subst hline hsource hengine
    decide +kernel
  have hidle : e.run = none := by
    subst hengine
    rfl
  refine ⟨hword, fun result hresult => ?_⟩
  obtain ⟨hsome, hnone⟩ := (calls_replace hidle src line).2 9 13 hword _ result hresult
  cases result with
  | none => exact absurd hplayer.2 (hnone rfl _ hplayer.1)
  | some done =>
    obtain ⟨name, hname, -, hbuffer, hcursor, hlead⟩ := hsome done rfl
    rw [hbuffer] at hlead
    obtain rfl := hothers name hname hlead
    subst hline
    exact ⟨done, rfl, hbuffer, hcursor⟩

end Engine

end Completion

end DevConsole
