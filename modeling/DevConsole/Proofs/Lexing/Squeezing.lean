/-
# `DevConsole.Proofs.Lexing.Squeezing` — a line with single spaces has the same tokens

A line of commands is cut into words at its blanks, and the words of an argument are joined again
with one space between neighbours.  `Text.squeeze` is what that makes of a text: every run of
blanks becomes one space, and those at the end are dropped (`Text.squeeze_eq`).

The lexer passes over blanks, so a squeezed text has tokens of the same kinds
(`kindsFrom_squeeze`), as long as no text in quotes is touched: its blanks must be single spaces
already (`Text.Tidy`).  A token may look at what follows it.  There the squeezed text is in view as
the text was, down to the edge that the first blank is.
-/
import DevConsole.Proofs.Command.Report
import DevConsole.Proofs.Lexing.LookAhead
import DevConsole.Proofs.Lexing.Respacing

namespace DevConsole

/-! ## Runs of blanks -/

namespace Text

/-- A blank comes next, or nothing. -/
def blankNext (cs : List Char) : Bool := (cs.head?.map isBlank).getD true

/-- The text with one space for each run of blanks, and none at the end. -/
def squeeze : List Char → List Char
  | [] => []
  | c :: cs =>
    if isBlank c then
      if blankNext cs then squeeze cs else ' ' :: squeeze cs
    else c :: squeeze cs

/-- The words with one space between neighbours. -/
def singleSpaced (cs : List Char) : List Char := joinWith [' '] (words cs)

theorem words_of_isBlank {c : Char} (hc : isBlank c = true) (cs : List Char) :
    words (c :: cs) = words cs :=
  words_append_blank hc [] cs

theorem words_of_blankNext {c : Char} (hc : isBlank c = false) {cs : List Char}
    (hcs : blankNext cs = true) : words (c :: cs) = [c] :: words cs := by
  have hword : IsWord [c] := ⟨List.cons_ne_nil _ _, List.forall_mem_singleton.2 hc⟩
  have hrest : ∀ d ∈ cs.head?, isBlank d = true := by
    intro d hd
    rw [blankNext, Option.mem_def.1 hd] at hcs
    exact hcs
  exact hword.words_append hrest

/-- Before another character of a word, a character joins that word. -/
theorem words_of_not_blankNext {c : Char} (hc : isBlank c = false) {cs : List Char}
    (hcs : blankNext cs = false) :
    ∃ w ws, words cs = w :: ws ∧ words (c :: cs) = (c :: w) :: ws := by
  rcases cs with _ | ⟨d, cs⟩
  · cases hcs
  have hd : isBlank d = false := hcs
  obtain ⟨w, ws, hws⟩ := List.exists_cons_of_ne_nil (splitBy_ne_nil isBlank cs)
  exact ⟨d :: w, ws.filter (!·.isEmpty), by simp [words, splitBy, hd, hws],
    by simp [words, splitBy, hc, hd, hws]⟩

theorem words_ne_nil {cs : List Char} (h : blankNext cs = false) : words cs ≠ [] := by
  rcases cs with _ | ⟨c, cs⟩
  · cases h
  have hc : isBlank c = false := h
  cases hcs : blankNext cs with
  | true =>
    rw [words_of_blankNext hc hcs]
    exact List.cons_ne_nil _ _
  | false =>
    obtain ⟨w, ws, -, hcons⟩ := words_of_not_blankNext hc hcs
    rw [hcons]
    exact List.cons_ne_nil _ _

theorem joinWith_cons_cons (c : Char) (w : List Char) (ws : List (List Char)) :
    joinWith [' '] ((c :: w) :: ws) = c :: joinWith [' '] (w :: ws) := by
  cases ws <;> rfl

/-- A squeezed text is its words, single spaced, with a space in front if a blank was. -/
theorem squeeze_eq (cs : List Char) :
    squeeze cs =
      if words cs = [] then []
      else if blankNext cs then ' ' :: singleSpaced cs else singleSpaced cs := by
  induction cs with
  | nil => rfl
  | cons c cs ih =>
    cases hc : isBlank c with
    | true =>
      have hnext : blankNext (c :: cs) = true := hc
      rw [squeeze, if_pos hc, hnext, if_pos rfl, singleSpaced, words_of_isBlank hc, ih]
      cases hcs : blankNext cs with
      | true => rfl
      | false =>
        rw [if_neg (words_ne_nil hcs), if_neg (words_ne_nil hcs)]
        rfl
    | false =>
      have hnext : blankNext (c :: cs) = false := hc
      rw [squeeze, if_neg (by simp [hc]), hnext, ih]
      cases hcs : blankNext cs with
      | true =>
        rw [singleSpaced, singleSpaced, words_of_blankNext hc hcs]
        cases words cs <;> rfl
      | false =>
        obtain ⟨w, ws, hws, hcons⟩ := words_of_not_blankNext hc hcs
        rw [singleSpaced, singleSpaced, hcons, hws, joinWith_cons_cons]
        rfl

/-- Blanks are single spaces. -/
structure Tidy (cs : List Char) : Prop where
  space : ∀ c ∈ cs, isBlank c = true → c = ' '
  single : cs.IsChain fun c d => (isBlank c && isBlank d) = false

theorem Tidy.tail {c : Char} {cs : List Char} (h : Tidy (c :: cs)) : Tidy cs :=
  ⟨fun d hd => h.space d (List.mem_cons_of_mem c hd), h.single.tail⟩

/-- What is tidy stays when it is squeezed, up to a character that is not blank. -/
theorem squeeze_append {cs : List Char} (h : Tidy cs)
    (hlast : ∀ c ∈ cs.getLast?, isBlank c = false) (rest : List Char) :
    squeeze (cs ++ rest) = cs ++ squeeze rest := by
  induction cs with
  | nil => rfl
  | cons c cs ih =>
    rcases cs with _ | ⟨d, cs⟩
    · have hc : isBlank c = false := hlast c rfl
      exact if_neg (by simp [hc])
    · have htail := ih h.tail hlast
      cases hc : isBlank c with
      | false =>
        rw [List.cons_append, squeeze, if_neg (by simp [hc]), htail]
        rfl
      | true =>
        have hd : isBlank d = false := by
          have hpair := (List.isChain_cons_cons.1 h.single).1
          rwa [hc, Bool.true_and] at hpair
        have hnext : blankNext (d :: cs ++ rest) = false := hd
        rw [List.cons_append, squeeze, if_pos hc, hnext, htail, h.space c List.mem_cons_self hc]
        rfl

theorem squeeze_append_of_not_isBlank {cs : List Char} (h : ∀ c ∈ cs, isBlank c = false)
    (rest : List Char) : squeeze (cs ++ rest) = cs ++ squeeze rest := by
  induction cs with
  | nil => rfl
  | cons c cs ih =>
    obtain ⟨hc, hcs⟩ := List.forall_mem_cons.1 h
    rw [List.cons_append, squeeze, if_neg (by simp [hc]), ih hcs]
    rfl

end Text

/-! ## Tokens of a squeezed text -/

namespace Lexer

open Grammar (kinds)

variable {last : Option TokenKind} {c : Char} {cs : List Char}

theorem view_of_blankNext (h : Text.blankNext cs = true) : view cs = [] := by
  rcases cs with _ | ⟨c, cs⟩
  · rfl
  · exact view_of_isEdge (isEdge_of_isBlank h) cs

/-- The first blank in view is there in the squeezed text too, if only as the end of the text. -/
theorem view_squeeze (cs : List Char) : view (Text.squeeze cs) = view cs := by
  induction cs with
  | nil => rfl
  | cons c cs ih =>
    rw [Text.squeeze]
    split
    · rename_i hc
      rw [view_of_isEdge (isEdge_of_isBlank hc)]
      split
      · rename_i hnext
        rw [ih, view_of_blankNext hnext]
      · exact view_of_isEdge (isEdge_of_isBlank Text.isBlank_space) _
    · cases hc : isEdge c with
      | true => rw [view_of_isEdge hc, view_of_isEdge hc]
      | false => rw [view_of_not_isEdge hc, view_of_not_isEdge hc, ih]

theorem kindsFrom_blank (hc : Text.isBlank c = true) (cs : List Char) :
    kindsFrom last (c :: cs) = kindsFrom last cs := by
  rw [kindsFrom, if_pos hc]

theorem kindsFrom_squeeze_blank (hc : Text.isBlank c = true) (cs : List Char) :
    kindsFrom last (Text.squeeze (c :: cs)) = kindsFrom last (Text.squeeze cs) := by
  rw [Text.squeeze, if_pos hc]
  split
  · rfl
  · exact kindsFrom_blank Text.isBlank_space _

theorem kindsFrom_singleSpaced (last : Option TokenKind) (cs : List Char) :
    kindsFrom last (Text.singleSpaced cs) = kindsFrom last (Text.squeeze cs) := by
  rw [Text.squeeze_eq]
  split
  · rename_i hwords
    rw [Text.singleSpaced, hwords]
    rfl
  · split
    · exact (kindsFrom_blank Text.isBlank_space _).symm
    · rfl

/-- What is read as a text in quotes ends with its quote. -/
theorem getLast?_take_of_stringBody {content : List Char} {n : Nat}
    (h : stringBody cs = some (content, n)) : (cs.take n).getLast? = some '"' := by
  fun_induction stringBody cs generalizing content n with
  | case1 => cases h
  | case2 cs =>
    cases h
    rfl
  | case3 => cases h
  | case4 e cs ih =>
    obtain ⟨⟨inner, m⟩, hinner, heq⟩ := Option.map_eq_some_iff.1 h
    cases heq
    simp [List.getLast?_cons, ih hinner]
  | case5 c cs hquote hlast hescape ih =>
    obtain ⟨⟨inner, m⟩, hinner, heq⟩ := Option.map_eq_some_iff.1 h
    cases heq
    simp [List.getLast?_cons, ih hinner]

/-- What is read of a token that is no text in quotes lies before the next edge. -/
theorem not_isEdge_of_reading (hquote : c ≠ '"') {k : TokenKind} {n : Nat}
    (h : reading last c cs = some (k, n)) : ∀ d ∈ cs.take n, isEdge d = false := by
  intro d hd
  obtain ⟨rest, hrest⟩ : view cs <+: cs := List.takeWhile_prefix _
  rw [← hrest, List.take_append_of_le_length (length_le_view_of_reading hquote h)] at hd
  have hview := List.all_eq_true.1 List.all_takeWhile d (List.mem_of_mem_take hd)
  rwa [Bool.not_eq_true'] at hview

theorem view_append {run : List Char} (hrun : ∀ d ∈ run, isEdge d = false) (rest : List Char) :
    view (run ++ rest) = run ++ view rest :=
  List.takeWhile_append_of_pos fun d hd => by rw [hrun d hd]; rfl

/-- A token is read in the squeezed text as it was, and takes the same characters. -/
theorem reading_squeeze (hc : Text.isBlank c = false) {k : TokenKind} {n : Nat}
    (hread : reading last c cs = some (k, n))
    (htidy : (∃ text, k = .literal (.str text)) → Text.Tidy (c :: cs.take n)) :
    Text.squeeze (c :: cs) = c :: (cs.take n ++ Text.squeeze (cs.drop n)) ∧
      reading last c (cs.take n ++ Text.squeeze (cs.drop n)) = some (k, n) := by
  rw [Text.squeeze, if_neg (by simp [hc])]
  by_cases hquote : c = '"'
  · subst hquote
    rw [reading_quote] at hread
    obtain ⟨⟨content, m⟩, hbody, heq⟩ := Option.map_eq_some_iff.1 hread
    cases heq
    have hclosed := getLast?_take_of_stringBody hbody
    obtain ⟨body, rest, rfl, rfl, hprefix⟩ := exists_stringBody hbody
    rw [List.take_left] at htidy hclosed ⊢
    have hlast : ∀ d ∈ body.getLast?, Text.isBlank d = false := by
      intro d hd
      rw [hclosed] at hd
      cases hd
      rfl
    rw [List.drop_left, Text.squeeze_append (htidy ⟨_, rfl⟩).tail hlast, reading_quote,
      hprefix (Text.squeeze rest)]
    exact ⟨rfl, rfl⟩
  · have hrun := not_isEdge_of_reading hquote hread
    have hblank : ∀ d ∈ cs.take n, Text.isBlank d = false := fun d hd =>
      (Bool.or_eq_false_iff.1 (hrun d hd)).1
    have hview : view (cs.take n ++ Text.squeeze (cs.drop n)) = view cs := by
      rw [view_append hrun, view_squeeze, ← view_append hrun, List.take_append_drop]
    refine ⟨?_, (reading_congr hquote hview).trans hread⟩
    rw [← Text.squeeze_append_of_not_isBlank hblank, List.take_append_drop]

theorem slice_head (before : List Char) (k : TokenKind) (c : Char) (cs : List Char) (extra : Nat) :
    slice (before ++ c :: cs) ⟨k, before.length, before.length + 1 + extra⟩ =
      c :: cs.take extra := by
  have hcount : before.length + 1 + extra - before.length = extra + 1 := by omega
  rw [slice, hcount, List.drop_left, List.take_succ_cons]

/-- The squeezed text has tokens of the same kinds, if its texts in quotes were tidy. -/
theorem kindsFrom_squeeze {pos : Nat} {ts : List Token} (h : tokensFrom pos last cs = .ok ts)
    {before : List Char} (hpos : pos = before.length)
    (htidy : ∀ t ∈ ts, (∃ text, t.kind = .literal (.str text)) →
      Text.Tidy (slice (before ++ cs) t)) :
    kindsFrom last (Text.squeeze cs) = some (kinds ts) := by
  fun_induction tokensFrom pos last cs generalizing ts before with
  | case1 =>
    cases h
    rw [Text.squeeze, kindsFrom]
    rfl
  | case2 pos last c cs hc ih =>
    have hline : before ++ c :: cs = before ++ [c] ++ cs := List.append_cons before c cs
    have hnext : pos + 1 = (before ++ [c]).length := by
      rw [List.length_append, List.length_singleton, hpos]
    rw [kindsFrom_squeeze_blank hc]
    exact ih h hnext (hline ▸ htidy)
  | case3 => cases h
  | case4 => cases h
  | case5 pos last c cs hc k extra hlex us hus ih =>
    cases h
    subst hpos
    have hread : reading last c cs = some (k, min extra cs.length) := by
      rw [reading_eq before.length, hlex]
      rfl
    have htake : cs.take (min extra cs.length) = cs.take extra := by
      rw [← List.take_take, List.take_length]
    obtain ⟨hhead, htail⟩ := List.forall_mem_cons.1 htidy
    rw [slice_head] at hhead
    obtain ⟨hsqueeze, hread'⟩ :=
      reading_squeeze (Bool.not_eq_true _ ▸ hc) hread (htake ▸ hhead)
    have hrest : kindsFrom (some k) (Text.squeeze (cs.drop extra)) = some (kinds us) := by
      rcases Nat.le_total extra cs.length with hle | hle
      · have hline : before ++ c :: cs = before ++ c :: cs.take extra ++ cs.drop extra := by
          rw [List.append_assoc, List.cons_append, List.take_append_drop]
        refine ih hus ?_ (hline ▸ htail)
        rw [List.length_append, List.length_cons, List.length_take, Nat.min_eq_left hle]
        omega
      · -- an operator at the end of the text is counted too far, and nothing follows it
        rw [List.drop_eq_nil_of_le hle] at hus ⊢
        rw [(scans_of_tokensFrom hus).eq_nil, Text.squeeze, kindsFrom]
        rfl
    have hlength : (cs.take (min extra cs.length)).length = min extra cs.length :=
      List.length_take_of_le (Nat.min_le_right _ _)
    rw [hsqueeze, kindsFrom, if_neg hc, hread']
    simp only
    rw [List.drop_left' hlength, drop_min_length, hrest]
    rfl

end Lexer

end DevConsole
