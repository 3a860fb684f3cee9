/-
Cutting text: trimming, words, lines, and joining again.

The functions work on lists of characters, so that each is a short recursion or a library operator
on lists; `String` wrappers stand beside the ones that callers need.
-/
import DevConsole.Text.CharClass

namespace DevConsole

namespace Text

/-- The text without blanks at its start. -/
def trimStart (cs : List Char) : List Char :=
  cs.dropWhile isBlank

/-- The text without blanks at its end. -/
def trimEnd (cs : List Char) : List Char :=
  (cs.reverse.dropWhile isBlank).reverse

/-- The text without blanks at either end. -/
def trim (cs : List Char) : List Char :=
  trimEnd (trimStart cs)

/-- The pieces between the characters that `p` picks out, empty ones included: always one more
piece than there are separators. -/
def splitBy (p : Char → Bool) : List Char → List (List Char)
  | [] => [[]]
  | c :: cs =>
    if p c then [] :: splitBy p cs
    else
      match splitBy p cs with
      | [] => [[c]]
      | w :: ws => (c :: w) :: ws

/-- The words of a text: its longest runs of characters that are not blank. -/
def words (cs : List Char) : List (List Char) :=
  (splitBy isBlank cs).filter (!·.isEmpty)

/-- What stands before and after the first occurrence of a character. -/
def splitOnce (sep : Char) : List Char → Option (List Char × List Char)
  | [] => none
  | c :: cs =>
    if c = sep then some ([], cs)
    else (splitOnce sep cs).map fun r => (c :: r.1, r.2)

/-- The pieces with a separator between neighbours. -/
def joinWith (sep : List Char) : List (List Char) → List Char
  | [] => []
  | [w] => w
  | w :: ws => w ++ sep ++ joinWith sep ws

/-- The texts with a separator between neighbours. -/
def join (sep : String) (ws : List String) : String :=
  String.ofList (joinWith sep.toList (ws.map String.toList))

/-- Whether `needle` occurs in the text as a run of neighbours. -/
def contains (needle : List Char) : List Char → Bool
  | [] => needle.isEmpty
  | c :: cs => needle.isPrefixOf (c :: cs) || contains needle cs

/-- The lines of a text: cut after each line feed, which is dropped together with a carriage return
before it; no empty line follows the last line feed. -/
def lines (cs : List Char) : List (List Char) :=
  match (splitBy (· == '\n') cs).reverse with
  | [] => []
  | last :: rest =>
    let closed := (rest.map dropReturn).reverse
    if last.isEmpty then closed else closed ++ [last]
where
  /-- A line without one carriage return at its end. -/
  dropReturn (l : List Char) : List Char :=
    match l.reverse with
    | '\r' :: r => r.reverse
    | _ => l

/-! ## Laws -/

theorem trimEnd_of_getLast {cs : List Char} (h : ∀ c ∈ cs.getLast?, isBlank c = false) :
    trimEnd cs = cs := by
  have hkeep : cs.reverse.dropWhile isBlank = cs.reverse := by
    rw [← List.head?_reverse] at h
    cases hcs : cs.reverse with
    | nil => rfl
    | cons c r =>
      have hc : isBlank c = false := h c (by rw [hcs]; rfl)
      exact List.dropWhile_cons_of_neg (by simp [hc])
  rw [trimEnd, hkeep, List.reverse_reverse]

/-- A text with no blank at either end is left as it is. -/
theorem trim_of_ends {cs : List Char} (hhead : ∀ c ∈ cs.head?, isBlank c = false)
    (hlast : ∀ c ∈ cs.getLast?, isBlank c = false) : trim cs = cs := by
  have hkeep : trimStart cs = cs := by
    cases cs with
    | nil => rfl
    | cons c cs =>
      have hc : isBlank c = false := hhead c rfl
      exact List.dropWhile_cons_of_neg (by simp [hc])
  rw [trim, hkeep, trimEnd_of_getLast hlast]

theorem splitBy_ne_nil (p : Char → Bool) (cs : List Char) : splitBy p cs ≠ [] := by
  induction cs with
  | nil => simp [splitBy]
  | cons c cs ih =>
    unfold splitBy
    split
    · simp
    · split <;> simp

/-- No piece holds a separator. -/
theorem not_of_mem_splitBy {p : Char → Bool} {cs w : List Char} (h : w ∈ splitBy p cs) :
    ∀ c ∈ w, p c = false := by
  induction cs generalizing w with
  | nil => simp_all [splitBy]
  | cons c cs ih =>
    unfold splitBy at h
    split at h
    · rcases List.mem_cons.1 h with rfl | h
      · simp
      · exact ih h
    · rename_i hc
      split at h
      · simp_all
      · rename_i v vs hv
        rcases List.mem_cons.1 h with rfl | h
        · intro x hx
          rcases List.mem_cons.1 hx with rfl | hx
          · simpa using hc
          · exact ih (by simp [hv]) x hx
        · exact ih (by simp [hv, h])

/-- A separator in a text cuts it in two. -/
theorem splitBy_append_cons {p : Char → Bool} {c : Char} (hc : p c = true) (xs ys : List Char) :
    splitBy p (xs ++ c :: ys) = splitBy p xs ++ splitBy p ys := by
  induction xs with
  | nil => simp [splitBy, hc]
  | cons x xs ih =>
    obtain ⟨w, ws, hws⟩ := List.exists_cons_of_ne_nil (splitBy_ne_nil p xs)
    rw [hws] at ih
    by_cases hx : p x = true
    · simp [splitBy, hx, ih, hws]
    · simp [splitBy, hx, ih, hws]

/-- A text without separators is one piece. -/
theorem splitBy_eq_singleton {p : Char → Bool} {w : List Char} (hw : ∀ c ∈ w, p c = false) :
    splitBy p w = [w] := by
  induction w with
  | nil => rfl
  | cons c w ih =>
    obtain ⟨hc, hw⟩ := List.forall_mem_cons.1 hw
    simp [splitBy, hc, ih hw]

/-- A word has no blank in it. -/
theorem not_isBlank_of_mem_words {cs w : List Char} (h : w ∈ words cs) :
    ∀ c ∈ w, isBlank c = false :=
  not_of_mem_splitBy (List.mem_filter.1 h).1

/-- A word is not empty. -/
theorem ne_nil_of_mem_words {cs w : List Char} (h : w ∈ words cs) : w ≠ [] := by
  intro hw
  simpa [hw] using (List.mem_filter.1 h).2

end Text

end DevConsole
