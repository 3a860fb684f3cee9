/-
# `DevConsole.Proofs.Lexing.Tokens` — texts whose tokens are known

The lexer reads one token at a character and goes on behind it, so a text that is put together from
lexemes is read piece by piece.  `Lexes last cs ks` says that the characters `cs`, after a token of
kind `last`, are read as tokens of the kinds `ks`, wherever in the line they stand.  The rules:

    Lexes last [] []
    blank c,  Lexes last cs ks                                    ⟹  Lexes last (c :: cs) ks
    `lexeme` reads k at c :: body,  Lexes (some k) cs ks          ⟹  Lexes last (c :: body ++ cs) (k :: ks)

What a lexeme is depends on what comes after it, but on one character only: a word ends where no
name character follows, a number where no digit does (`StopsAt`).

`parse_of_lexes` and `exists_derivesLine` join this with the grammar: they speak about texts.
-/
import DevConsole.Proofs.Grammar.Exactness

namespace DevConsole

namespace Lexer

open Grammar (kinds DerivesLine Open)

/-! ## Runs of characters of a class -/

/-- The characters do not go on with one of a class. -/
def StopsAt (p : Char → Bool) (cs : List Char) : Prop := ∀ c ∈ cs.head?, p c = false

@[simp] theorem stopsAt_nil (p : Char → Bool) : StopsAt p [] := by
  intro c hc
  simp at hc

@[simp] theorem stopsAt_cons (p : Char → Bool) (c : Char) (cs : List Char) :
    StopsAt p (c :: cs) ↔ p c = false := by
  simp [StopsAt]

theorem stopsAt_append {p : Char → Bool} {bs cs : List Char} (hbs : ∀ c ∈ bs, p c = false)
    (hcs : StopsAt p cs) : StopsAt p (bs ++ cs) := by
  rcases bs with _ | ⟨b, bs⟩
  · exact hcs
  · exact (stopsAt_cons p b (bs ++ cs)).2 (hbs b List.mem_cons_self)

theorem StopsAt.mono {p q : Char → Bool} {cs : List Char} (hpq : ∀ c, p c = true → q c = true)
    (h : StopsAt q cs) : StopsAt p cs := by
  intro c hc
  refine Bool.eq_false_iff.2 ?_
  intro hp
  have hq := h c hc
  rw [hpq c hp] at hq
  cases hq

theorem StopsAt.takeWhile {p : Char → Bool} {cs : List Char} (h : StopsAt p cs) :
    cs.takeWhile p = [] := by
  cases cs with
  | nil => rfl
  | cons c cs => exact List.takeWhile_cons_of_neg (by simp [(stopsAt_cons p c cs).1 h])

theorem StopsAt.dropWhile {p : Char → Bool} {cs : List Char} (h : StopsAt p cs) :
    cs.dropWhile p = cs := by
  cases cs with
  | nil => rfl
  | cons c cs => exact List.dropWhile_cons_of_neg (by simp [(stopsAt_cons p c cs).1 h])

/-- What is left behind a run does not go on with it. -/
theorem stopsAt_drop_takeWhile (p : Char → Bool) (cs : List Char) :
    StopsAt p (cs.drop (cs.takeWhile p).length) := by
  induction cs with
  | nil => exact stopsAt_nil p
  | cons c cs ih =>
    cases hc : p c with
    | true =>
      rw [List.takeWhile_cons_of_pos hc]
      exact ih
    | false =>
      rw [List.takeWhile_cons_of_neg (by simp [hc])]
      exact (stopsAt_cons p c cs).2 hc

/-- A run of a class is taken whole, and no further. -/
theorem takeWhile_run {p : Char → Bool} {run rest : List Char} (hrun : ∀ c ∈ run, p c = true)
    (hrest : StopsAt p rest) : (run ++ rest).takeWhile p = run := by
  rw [List.takeWhile_append_of_pos hrun, hrest.takeWhile, List.append_nil]

theorem dropWhile_run {p : Char → Bool} {run rest : List Char} (hrun : ∀ c ∈ run, p c = true)
    (hrest : StopsAt p rest) : (run ++ rest).dropWhile p = rest := by
  rw [List.dropWhile_append_of_pos hrun, hrest.dropWhile]

/-! ## Reading piece by piece -/

/-- After a token of kind `last`, the characters are read as tokens of the kinds `ks`. -/
def Lexes (last : Option TokenKind) (cs : List Char) (ks : List TokenKind) : Prop :=
  ∀ pos, ∃ ts, tokensFrom pos last cs = .ok ts ∧ kinds ts = ks

theorem Lexes.nil (last : Option TokenKind) : Lexes last [] [] := by
  intro pos
  exact ⟨[], by rw [tokensFrom], rfl⟩

theorem Lexes.blank {last : Option TokenKind} {c : Char} {cs : List Char} {ks : List TokenKind}
    (hc : Text.isBlank c = true) (h : Lexes last cs ks) : Lexes last (c :: cs) ks := by
  intro pos
  obtain ⟨ts, hts, hks⟩ := h (pos + 1)
  exact ⟨ts, by rw [tokensFrom, if_pos hc, hts], hks⟩

theorem Lexes.blanks {last : Option TokenKind} {bs cs : List Char} {ks : List TokenKind}
    (hbs : ∀ b ∈ bs, Text.isBlank b = true) (h : Lexes last cs ks) : Lexes last (bs ++ cs) ks := by
  induction bs with
  | nil => exact h
  | cons b bs ih =>
      have hrest := ih fun c hc => hbs c (List.mem_cons_of_mem b hc)
      exact .blank (hbs b List.mem_cons_self) hrest

theorem Lexes.token {last : Option TokenKind} {k : TokenKind} {c : Char} {body rest : List Char}
    {ks : List TokenKind} (hc : Text.isBlank c = false)
    (hk : ∀ pos, lexeme last pos c (body ++ rest) = .ok (k, body.length))
    (h : Lexes (some k) rest ks) : Lexes last (c :: (body ++ rest)) (k :: ks) := by
  intro pos
  obtain ⟨ts, hts, hks⟩ := h (pos + 1 + body.length)
  refine ⟨⟨k, pos, pos + 1 + body.length⟩ :: ts, ?_, by rw [Grammar.kinds_cons, hks]⟩
  rw [tokensFrom, if_neg (by simp [hc]), hk pos]
  simp only [List.drop_left, hts]

theorem Lexes.single {last : Option TokenKind} {k : TokenKind} {c : Char} {rest : List Char}
    {ks : List TokenKind} (hc : Text.isBlank c = false)
    (hk : ∀ pos, lexeme last pos c rest = .ok (k, 0)) (h : Lexes (some k) rest ks) :
    Lexes last (c :: rest) (k :: ks) := by
  have htoken : Lexes last (c :: ([] ++ rest)) (k :: ks) := Lexes.token hc hk h
  exact htoken

/-! ## Punctuation and words -/

section Pieces

variable {last : Option TokenKind} {cs : List Char} {ks : List TokenKind}

theorem Lexes.dot (h : Lexes (some .dot) cs ks) : Lexes last ('.' :: cs) (.dot :: ks) :=
  Lexes.single rfl (fun _ => rfl) h

theorem Lexes.openParen (h : Lexes (some .openParen) cs ks) :
    Lexes last ('(' :: cs) (.openParen :: ks) :=
  Lexes.single rfl (fun _ => rfl) h

theorem Lexes.closeParen (h : Lexes (some .closeParen) cs ks) :
    Lexes last (')' :: cs) (.closeParen :: ks) :=
  Lexes.single rfl (fun _ => rfl) h

theorem Lexes.word {c : Char} {body : List Char} (hblank : Text.isBlank c = false)
    (hstart : Scan.isNameStart c = true) (hbody : ∀ b ∈ body, Scan.isNameChar b = true)
    (hstops : StopsAt Scan.isNameChar cs)
    (h : Lexes (some (keywordOrName (String.ofList (c :: body)))) cs ks) :
    Lexes last (c :: (body ++ cs)) (keywordOrName (String.ofList (c :: body)) :: ks) := by
  refine Lexes.token hblank (fun pos => ?_) h
  rw [lexeme, if_pos hstart]
  simp only [Lexer.word, takeWhile_run hbody hstops]

end Pieces

/-! ## Texts and lines -/

/-- A text is read as the line that its tokens derive. -/
theorem parse_of_lexes {source : String} {l : Line} {ks : List TokenKind}
    (h : Lexes none source.toList ks) (hl : DerivesLine Open l ks) :
    Parser.parse source = .ok l := by
  obtain ⟨ts, hts, rfl⟩ := h 0
  have hline := Grammar.line_complete source.toList.length hl
  simp only [Parser.parse, tokenize, hts, hline]

/-- A text that is read as a line has tokens that derive it. -/
theorem exists_derivesLine {source : String} {l : Line} (h : Parser.parse source = .ok l) :
    ∃ ks, DerivesLine Open l ks := by
  simp only [Parser.parse] at h
  split at h
  · cases h
  · exact ⟨_, Grammar.line_sound h⟩

end Lexer

end DevConsole
