/-
# `DevConsole.Proofs.Completion.WordBounds` — the lexer and the scanner cut words alike

A word is cut out of a line in two ways.  The lexer goes through the line from left to right, and
what is a word depends on where the tokens before it end.  Completion does not parse; it looks left
and right of the cursor, and asks of single characters whether they end a word.

On every line that the lexer accepts the two agree, since at every place where it cuts, of the two
characters that meet at least one ends a word (`Scan.Parted`):

    a name, a number       no character of a name follows, and any other that starts a token ends a word
    a text in quotes       its last character is a quote
    operators and marks    all of their characters end words

This is carried along the line (`stands_of_tokensFrom`).  The characters of a word do not end words
themselves, so that at both of its ends it is the character outside that does.
-/
import DevConsole.Proofs.Completion.Chain
import DevConsole.Proofs.Lexing.Squeezing

namespace DevConsole

/-! ## Cuts -/

namespace Scan

/-- Of the two characters that meet between the texts one ends a word, unless a text is empty. -/
def Parted (before after : List Char) : Prop :=
  (∀ b ∈ before.getLast?, isWordBreak b = true) ∨ ∀ c ∈ after.head?, isWordBreak c = true

theorem parted_nil (after : List Char) : Parted [] after := .inl nofun

theorem isWordBreak_of_isOperatorChar {c : Char} (h : isOperatorChar c = true) :
    isWordBreak c = true := by
  rw [isWordBreak, isDelimiter, h]
  rfl

theorem isWordBreak_of_isBlank {c : Char} (h : Text.isBlank c = true) : isWordBreak c = true := by
  rw [isWordBreak, h, Bool.or_true]
  rfl

section Word

variable {before word after : List Char}

/-- A cut in front of a word comes behind a character that ends one. -/
theorem Parted.break_before (h : Parted before (word ++ after)) (hword : isName word = true) :
    ∀ b ∈ before.getLast?, isWordBreak b = true := by
  obtain ⟨c, r, rfl, hc⟩ := exists_of_isName hword
  rcases h with h | h
  · exact h
  · have hbreak := h c rfl
    rw [isWordBreak_of_isNameChar hc] at hbreak
    cases hbreak

/-- A cut behind a word comes in front of a character that ends it. -/
theorem Parted.break_after (h : Parted (before ++ word) after) (hword : isName word = true) :
    ∀ c ∈ after.head?, isWordBreak c = true := by
  rcases h with h | h
  · obtain ⟨c, r, rfl, -⟩ := exists_of_isName hword
    have hlast := List.getLast?_append_of_ne_nil before (List.cons_ne_nil c r)
    have hbreak := h _ (hlast.trans (List.getLast?_eq_some_getLast (List.cons_ne_nil c r)))
    rw [isWordBreak_of_isNameChar (isNameChar_of_isName hword _ (List.getLast_mem _))] at hbreak
    cases hbreak
  · exact h

end Word

end Scan

/-! ## Words among the tokens -/

namespace TokenKind

/-- Whether the token is a name or a keyword. -/
def isWord : TokenKind → Bool
  | name _ | literal .null | literal (.bool _) | new => true
  | _ => false

end TokenKind

namespace Lexer

/-- The words that are no names. -/
def keywords : List String := ["true", "false", "null", "new"]

theorem keywordOrName_eq_name_iff {s n : String} :
    keywordOrName s = .name n ↔ s ∉ keywords ∧ s = n := by
  rw [keywordOrName]
  repeat' split
  all_goals simp_all [keywords]

theorem isWord_of_numberValue? {text : List Char} {suffix : Option Suffix} {l : Literal}
    (h : numberValue? text suffix = some l) : (TokenKind.literal l).isWord = false := by
  rcases suffix with _ | _ | _ <;> obtain ⟨x, -, rfl⟩ := Option.map_eq_some_iff.1 h <;> rfl

/-- A mark ends a word, and is none. -/
theorem marks_apart : ∀ m ∈ marks, Scan.isWordBreak m.1 = true ∧ m.2.isWord = false := by
  decide

variable {last : Option TokenKind} {pos : Nat} {c : Char} {cs body rest : List Char}
  {k : TokenKind} {extra : Nat}

/-- What is read as a word is written as one. -/
theorem Writes.isName (h : Writes last c body k) (hk : k.isWord = true) :
    Scan.isName (c :: body) = true ∧ k = keywordOrName (String.ofList (c :: body)) := by
  cases h with
  | word hstart hbody =>
    exact ⟨Bool.and_eq_true_iff.2 ⟨hstart, List.all_eq_true.2 hbody⟩, rfl⟩
  | number _ _ _ hvalue =>
    rw [isWord_of_numberValue? hvalue] at hk
    cases hk
  | string _ => cases hk
  | operator _ h =>
    cases h with
    | _ => cases hk
  | mark h =>
    have hmark : k.isWord = false := (marks_apart _ h).2
    rw [hmark] at hk
    cases hk

/-! ## Where the lexer cuts -/

/-- A character that starts a token ends a word, if it is not part of one. -/
theorem Writes.head (h : Writes last c body k) :
    Scan.isNameChar c = true ∨ Scan.isWordBreak c = true := by
  cases h with
  | word hstart _ => exact .inl (Scan.isNameChar_of_isNameStart hstart)
  | number _ hsign _ _ =>
    rcases Bool.or_eq_true_iff.1 hsign with hdigit | hminus
    · exact .inl (isNameChar_of_isDigit hdigit)
    · simp only [Bool.and_eq_true, decide_eq_true_eq] at hminus
      rw [hminus.1.1]
      exact .inr rfl
  | string _ => exact .inr rfl
  | operator hc _ => exact .inr (Scan.isWordBreak_of_isOperatorChar hc)
  | mark h => exact .inr (marks_apart _ h).1

theorem isWordBreak_of_endsSymbol {d : Char} (h : endsSymbol d = true) :
    Scan.isWordBreak d = true := by
  have hmem : d ∈ ['=', '<', '>'] := List.contains_iff_mem.1 h
  simp only [List.mem_cons, List.not_mem_nil, or_false] at hmem
  rcases hmem with rfl | rfl | rfl <;> rfl

/-- An operator ends with a character that ends a word. -/
theorem OperatorText.isWordBreak_last (hc : Scan.isOperatorChar c = true)
    (h : OperatorText c body k) : ∀ d ∈ (c :: body).getLast?, Scan.isWordBreak d = true := by
  cases h with
  | @pair _ d _ hpair =>
    have hends : endsSymbol d = true := by
      refine Bool.eq_true_of_not_eq_false ?_
      intro hd
      rw [ofSymbol?_pair hd] at hpair
      cases hpair
    rintro _ ⟨⟩
    exact isWordBreak_of_endsSymbol hends
  | compound =>
    rintro _ ⟨⟩
    rfl
  | equals =>
    rintro _ ⟨⟩
    rfl
  | single =>
    rintro _ ⟨⟩
    exact Scan.isWordBreak_of_isOperatorChar hc

/-- A lexeme ends with a character that ends a word, or no character of a name follows it. -/
theorem lexeme_ends (h : lexeme last pos c cs = .ok (k, extra)) :
    (∀ d ∈ (c :: cs.take extra).getLast?, Scan.isWordBreak d = true) ∨
      StopsAt Scan.isNameChar (cs.drop extra) := by
  simp only [lexeme] at h
  split at h
  · right
    cases h
    exact stopsAt_drop_takeWhile Scan.isNameChar cs
  split at h
  · right
    obtain ⟨whole, fraction, letter, rest, l, rfl, -, hrest, -, -, rfl⟩ := exists_numeral h
    have hline : whole ++ (fraction ++ (letter ++ rest)) = whole ++ (fraction ++ letter) ++ rest := by
      simp only [List.append_assoc]
    rwa [hline, List.drop_left]
  left
  split at h
  · rw [string] at h
    split at h
    · rename_i content n hbody
      cases h
      intro d hd
      rw [List.getLast?_cons, getLast?_take_of_stringBody hbody] at hd
      cases hd
      rfl
    · cases h
  split at h
  · rename_i hc
    obtain ⟨body, rest, rfl, htext, rfl⟩ := exists_operatorText h
    rw [take_extent]
    exact htext.isWordBreak_last hc
  repeat' split at h
  all_goals cases h
  all_goals
    subst c
    rintro _ ⟨⟩
    rfl

/-- In front of what is read as tokens stands a character that ends a word, or one of a name. -/
theorem head_of_tokensFrom {ts : List Token} (h : tokensFrom pos last cs = .ok ts) :
    ∀ d ∈ cs.head?, Scan.isNameChar d = true ∨ Scan.isWordBreak d = true := by
  cases cs with
  | nil => nofun
  | cons c cs =>
    rintro _ ⟨⟩
    rw [tokensFrom] at h
    split at h
    · rename_i hc
      exact .inr (Scan.isWordBreak_of_isBlank hc)
    split at h
    · cases h
    · rename_i hlex
      obtain ⟨body, rest, -, hk, -⟩ := exists_writes hlex
      exact hk.head

/-- Where the lexer cuts behind a token, a word ends. -/
theorem parted_of_lexeme {ts : List Token} (before : List Char)
    (h : lexeme last pos c (body ++ rest) = .ok (k, extent k body rest)) {pos' : Nat}
    {last' : Option TokenKind} (hrest : tokensFrom pos' last' rest = .ok ts) :
    Scan.Parted (before ++ c :: body) rest := by
  have hends := lexeme_ends h
  rw [take_extent, drop_extent] at hends
  rcases hends with hlast | hstops
  · left
    rwa [List.getLast?_append_of_ne_nil before (List.cons_ne_nil c body)]
  · right
    intro d hd
    refine (head_of_tokensFrom hrest d hd).resolve_left ?_
    rw [hstops d hd]
    decide

/-! ## Words in a line -/

/-- The token is the word that stands in the line between two texts, and is cut off from both. -/
structure Stands (line : List Char) (t : Token) (before word after : List Char) : Prop where
  line_eq : line = before ++ (word ++ after)
  start_eq : t.start = before.length
  stop_eq : t.stop = before.length + word.length
  isName : Scan.isName word = true
  kind_eq : t.kind = keywordOrName (String.ofList word)
  parted_before : Scan.Parted before (word ++ after)
  parted_after : Scan.Parted (before ++ word) after

/-- Every word that is read from a place where the lexer cuts stands there. -/
theorem stands_of_tokensFrom {ts : List Token} {before : List Char}
    (hparted : Scan.Parted before cs) (hpos : before.length = pos)
    (h : tokensFrom pos last cs = .ok ts) :
    ∀ t ∈ ts, t.kind.isWord = true → ∃ b w a, Stands (before ++ cs) t b w a := by
  fun_induction tokensFrom pos last cs generalizing before ts with
  | case1 =>
    cases h
    intro t ht
    exact absurd ht List.not_mem_nil
  | case2 pos last c cs hc ih =>
    have hblank : Scan.Parted (before ++ [c]) cs := by
      left
      rw [List.getLast?_concat]
      rintro _ ⟨⟩
      exact Scan.isWordBreak_of_isBlank hc
    rw [List.append_cons]
    refine ih hblank ?_ h
    rw [List.length_append, hpos, List.length_singleton]
  | case3 => cases h
  | case4 => cases h
  | case5 pos last c cs hc k extra hlex us hus ih =>
    cases h
    subst hpos
    obtain ⟨body, rest, rfl, hk, rfl⟩ := exists_writes hlex
    rw [drop_extent] at hus ih
    have hrest := parted_of_lexeme before hlex hus
    intro t ht hword
    rcases List.mem_cons.1 ht with rfl | htail
    · obtain ⟨hname, rfl⟩ := hk.isName hword
      refine ⟨before, c :: body, rest, rfl, rfl, ?_, hname, rfl, hparted, hrest⟩
      show before.length + 1 + extent _ body rest = before.length + (c :: body).length
      rw [extent_of_ne_op (keywordOrName_ne_op _), List.length_cons]
      omega
    · rcases rest with _ | ⟨d, rest⟩
      · rw [tokensFrom] at hus
        cases hus
        cases htail
      · have hline : before ++ c :: (body ++ d :: rest) = before ++ c :: body ++ d :: rest := by
          simp only [List.append_assoc, List.cons_append]
        rw [hline]
        refine ih hrest ?_ hus t htail hword
        rw [extent_of_rest, List.length_append, List.length_cons]
        omega

theorem exists_stands {text : List Char} {ts : List Token} (h : tokenize text = .ok ts) {t : Token}
    (ht : t ∈ ts) (hword : t.kind.isWord = true) : ∃ b w a, Stands text t b w a :=
  stands_of_tokensFrom (Scan.parted_nil text) rfl h t ht hword

section Stands

variable {line before word after : List Char} {t : Token} {cursor : Nat}

theorem Stands.not_isWordBreak (h : Stands line t before word after) :
    ∀ c ∈ word, Scan.isWordBreak c = false :=
  fun c hc => Scan.isWordBreak_of_isNameChar (Scan.isNameChar_of_isName h.isName c hc)

theorem Stands.wordStart_eq (h : Stands line t before word after) (hstart : t.start ≤ cursor)
    (hstop : cursor ≤ t.stop) : Scan.wordStart line cursor = t.start := by
  rw [h.start_eq] at hstart ⊢
  rw [h.stop_eq] at hstop
  obtain ⟨n, rfl⟩ := Nat.exists_eq_add_of_le hstart
  rw [h.line_eq]
  exact Scan.wordStart_append h.not_isWordBreak (h.parted_before.break_before h.isName)
    (Nat.le_of_add_le_add_left hstop)

theorem Stands.wordEnd_eq (h : Stands line t before word after) (hstart : t.start ≤ cursor)
    (hstop : cursor ≤ t.stop) : Scan.wordEnd line cursor = t.stop := by
  rw [h.start_eq] at hstart
  rw [h.stop_eq] at hstop ⊢
  obtain ⟨n, rfl⟩ := Nat.exists_eq_add_of_le hstart
  rw [h.line_eq]
  exact Scan.wordEnd_append h.not_isWordBreak (h.parted_after.break_after h.isName)
    (Nat.le_of_add_le_add_left hstop)

end Stands

/-! ## A word alone -/

/-- A text that is a name or a keyword from start to end is one token. -/
theorem tokenize_of_isName {text : List Char} (h : Scan.isName text = true) :
    tokenize text = .ok [⟨keywordOrName (String.ofList text), 0, text.length⟩] := by
  rcases text with _ | ⟨c, cs⟩
  · cases h
  obtain ⟨hstart, hcs⟩ := Bool.and_eq_true_iff.1 h
  have hblank : Text.isBlank c = false := Text.isBlank_of_isNameStart hstart
  have hrun : cs.takeWhile Scan.isNameChar = cs := List.takeWhile_eq_self_iff.2 (List.all_eq_true.1 hcs)
  rw [tokenize, tokensFrom, if_neg (by rw [hblank]; decide), lexeme, if_pos hstart]
  simp only [word, hrun, List.drop_length, tokensFrom, List.length_cons, Nat.zero_add]
  rw [Nat.add_comm]

/-- A text is one word from start to end if it is read as one. -/
theorem isName_of_tokenize {text : List Char} {k : TokenKind} (hk : k.isWord = true)
    (h : tokenize text = .ok [⟨k, 0, text.length⟩]) :
    Scan.isName text = true ∧ k = keywordOrName (String.ofList text) := by
  obtain ⟨before, word, after, hstands⟩ := exists_stands h List.mem_cons_self hk
  obtain rfl : before = [] := List.eq_nil_of_length_eq_zero hstands.start_eq.symm
  have hline := hstands.line_eq
  have hstop : text.length = ([] : List Char).length + word.length := hstands.stop_eq
  obtain rfl : after = [] := by
    rw [hline] at hstop
    simp only [List.nil_append, List.length_append, List.length_nil] at hstop
    exact List.eq_nil_of_length_eq_zero (by omega)
  rw [List.nil_append, List.append_nil] at hline
  rw [hline]
  exact ⟨hstands.isName, hstands.kind_eq⟩

/-- The lexer and the scanner cut words alike.  In a line that is read as tokens, a cursor within a
name or a keyword, or at one of its ends, has the scanner find the bounds of the token.  And what the
scanner takes for a name is, if it is no keyword, what the lexer reads as one name and nothing
else. -/
theorem tokenize_wordBounds :
    (∀ text ts, tokenize text = .ok ts → ∀ t ∈ ts, t.kind.isWord = true →
      ∀ cursor, t.start ≤ cursor → cursor ≤ t.stop →
        Scan.wordStart text cursor = t.start ∧ Scan.wordEnd text cursor = t.stop) ∧
    ∀ text, (Scan.isName text = true ∧ String.ofList text ∉ keywords) ↔
      ∃ n, tokenize text = .ok [⟨.name n, 0, text.length⟩] := by
  constructor
  · intro text ts h t ht hword cursor hstart hstop
    obtain ⟨before, word, after, hstands⟩ := exists_stands h ht hword
    exact ⟨hstands.wordStart_eq hstart hstop, hstands.wordEnd_eq hstart hstop⟩
  · intro text
    constructor
    · rintro ⟨hname, hkeyword⟩
      refine ⟨String.ofList text, ?_⟩
      rw [tokenize_of_isName hname, keywordOrName_eq_name_iff.2 ⟨hkeyword, rfl⟩]
    · rintro ⟨n, h⟩
      obtain ⟨hname, hkind⟩ := isName_of_tokenize rfl h
      exact ⟨hname, (keywordOrName_eq_name_iff.1 hkind.symm).1⟩

/-- A keyword that stands next to a closing quote, and a name that starts like a keyword. -/
theorem tokenize_wordBounds_keyword :
    tokenize "\"q\"true".toList =
        .ok [⟨.literal (.str "q"), 0, 3⟩, ⟨.literal (.bool true), 3, 7⟩] ∧
      Scan.wordStart "\"q\"true".toList 5 = 3 ∧ Scan.wordEnd "\"q\"true".toList 5 = 7 ∧
      ∃ n, tokenize "truer".toList = .ok [⟨.name n, 0, 5⟩] := by
  have htokens : tokenize "\"q\"true".toList =
      .ok [⟨.literal (.str "q"), 0, 3⟩, ⟨.literal (.bool true), 3, 7⟩] := by
    cbv
  have hmem : (⟨.literal (.bool true), 3, 7⟩ : Token) ∈
      [⟨.literal (.str "q"), 0, 3⟩, ⟨.literal (.bool true), 3, 7⟩] :=
    List.mem_cons_of_mem _ List.mem_cons_self
  obtain ⟨hbounds, hnames⟩ := tokenize_wordBounds
  obtain ⟨hstart, hend⟩ := hbounds _ _ htokens _ hmem rfl 5 (by decide) (by decide)
  exact ⟨htokens, hstart, hend, (hnames "truer".toList).1 ⟨by decide, by decide⟩⟩

end Lexer

end DevConsole
