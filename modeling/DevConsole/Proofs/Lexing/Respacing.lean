/-
# `DevConsole.Proofs.Lexing.Respacing` — what the tokens of a line say of its text

`Scans pos last cs ts` is the lexer as a relation: blanks are passed over, and every token is a text
of its kind at the place where its span starts.  Three things are read off it by induction:

* where the spans lie: each is a run of at least one character, they follow one another, and what is
  outside them is blank (`Scans.bounds`, `Scans.pairwise`, `Scans.blank_outside`);
* what is inside them: the slice of the line that a span cuts out is the text of the token;
* so that only the slices count: put together again with other gaps between them, they are read as
  tokens of the same kinds (`Scans.lexes_respaced`), and the line says the same.

The kind of the token before goes along as an index, since it decides about a minus sign; the gaps
do not change it.

A span may reach one place beyond the line.  It is the operator of one character that the line ends
with (`EndsLine`), and no other token.
-/
import DevConsole.Proofs.Lexing.Lexemes
import Mathlib

namespace DevConsole

namespace Lexer

open Grammar (kinds)

/-! ## The lexer as a relation -/

/-- The tokens of the text that starts at `pos`, after a token of kind `last`. -/
inductive Scans : Nat → Option TokenKind → List Char → List Token → Prop where
  | nil {pos : Nat} {last : Option TokenKind} : Scans pos last [] []
  | blank {pos : Nat} {last : Option TokenKind} {c : Char} {cs : List Char} {ts : List Token}
      (hc : Text.isBlank c = true) (h : Scans (pos + 1) last cs ts) : Scans pos last (c :: cs) ts
  | token {pos : Nat} {last : Option TokenKind} {k : TokenKind} {c : Char} {body rest : List Char}
      {ts : List Token} (hc : Text.isBlank c = false) (hk : Writes last c body k)
      (h : Scans (pos + 1 + extent k body rest) (some k) rest ts) :
      Scans pos last (c :: (body ++ rest)) (⟨k, pos, pos + 1 + extent k body rest⟩ :: ts)

theorem scans_of_tokensFrom {pos : Nat} {last : Option TokenKind} {cs : List Char}
    {ts : List Token} (h : tokensFrom pos last cs = .ok ts) : Scans pos last cs ts := by
  fun_induction tokensFrom pos last cs generalizing ts with
  | case1 =>
      obtain rfl := Except.ok.inj h
      exact .nil
  | case2 pos last c cs hc ih => exact .blank hc (ih h)
  | case3 => cases h
  | case4 => cases h
  | case5 pos last c cs hc k extra hlex us hus ih =>
      obtain rfl := Except.ok.inj h
      obtain ⟨body, rest, rfl, hk, rfl⟩ := exists_writes hlex
      have hrest := ih hus
      rw [drop_extent] at hrest
      exact .token (Bool.not_eq_true _ ▸ hc) hk hrest

/-- At the end of the line there are no more tokens. -/
theorem Scans.eq_nil {pos : Nat} {last : Option TokenKind} {ts : List Token}
    (h : Scans pos last [] ts) : ts = [] := by
  cases h
  rfl

/-! ## Where the spans lie -/

/-- The token is an operator of one character, the last character of a line of that length. -/
def EndsLine (length : Nat) (t : Token) : Prop := (∃ o, t.kind = .op o) ∧ t.start + 1 = length

/-- Where the span of a token of a text lies that starts at `pos` and ends at `length`. -/
structure Bounds (pos length : Nat) (t : Token) : Prop where
  after : pos ≤ t.start
  inside : t.start < length
  nonempty : t.start < t.stop
  fits : ¬EndsLine length t → t.stop ≤ length
  overruns : EndsLine length t → t.stop = length + 1

theorem Bounds.mono {pos pos' length : Nat} {t : Token} (h : Bounds pos' length t)
    (hpos : pos ≤ pos') : Bounds pos length t :=
  { h with after := Nat.le_trans hpos h.after }

/-- The first token of a text that starts with it. -/
theorem bounds_first (pos : Nat) (k : TokenKind) (body rest : List Char) :
    Bounds pos (pos + 1 + body.length + rest.length)
      ⟨k, pos, pos + 1 + extent k body rest⟩ := by
  have hinside : pos < pos + 1 + body.length + rest.length := by omega
  have hnonempty : pos < pos + 1 + extent k body rest := by omega
  refine ⟨Nat.le_refl pos, hinside, hnonempty, fun hfits => ?_, ?_⟩
  · rcases body with _ | ⟨b, body⟩
    · rcases rest with _ | ⟨d, rest⟩
      · have hk : ∀ o, k ≠ .op o := fun o ho => hfits ⟨⟨o, ho⟩, rfl⟩
        rw [extent_of_ne_op hk]
        exact Nat.le_refl _
      · rw [extent_of_rest]
        exact Nat.le_add_right _ _
    · rw [extent_of_body]
      exact Nat.le_add_right _ _
  · rintro ⟨⟨o, ho⟩, hend⟩
    have hend : pos + 1 = pos + 1 + body.length + rest.length := hend
    obtain rfl : k = .op o := ho
    obtain rfl : body = [] := List.length_eq_zero_iff.1 (by omega)
    obtain rfl : rest = [] := List.length_eq_zero_iff.1 (by omega)
    rfl

theorem Scans.bounds {pos : Nat} {last : Option TokenKind} {cs : List Char} {ts : List Token}
    (h : Scans pos last cs ts) : ∀ t ∈ ts, Bounds pos (pos + cs.length) t := by
  induction h with
  | nil =>
      intro t ht
      cases ht
  | @blank pos _ c cs _ _ _ ih =>
      intro t ht
      have hlength : pos + 1 + cs.length = pos + (c :: cs).length := by
        rw [List.length_cons]
        omega
      exact hlength ▸ (ih t ht).mono (Nat.le_succ pos)
  | @token pos _ k c body rest ts _ _ h ih =>
      intro t ht
      have hlength : pos + 1 + body.length + rest.length = pos + (c :: (body ++ rest)).length := by
        rw [List.length_cons, List.length_append]
        omega
      rw [← hlength]
      rcases List.mem_cons.1 ht with rfl | htail
      · exact bounds_first pos k body rest
      · rcases rest with _ | ⟨d, rest⟩
        · rw [h.eq_nil] at htail
          cases htail
        · rw [extent_of_rest] at ih
          exact (ih t htail).mono (by omega)

/-- The spans follow one another. -/
theorem Scans.pairwise {pos : Nat} {last : Option TokenKind} {cs : List Char} {ts : List Token}
    (h : Scans pos last cs ts) : ts.Pairwise fun t u => t.stop ≤ u.start := by
  induction h with
  | nil => exact .nil
  | blank _ _ ih => exact ih
  | token _ _ h ih => exact .cons (fun t ht => (h.bounds t ht).after) ih

/-- What no span covers is blank. -/
theorem Scans.blank_outside {pos : Nat} {last : Option TokenKind} {cs : List Char}
    {ts : List Token} (h : Scans pos last cs ts) {i : Nat} {c : Char} (hc : cs[i]? = some c)
    (hout : ∀ t ∈ ts, pos + i < t.start ∨ t.stop ≤ pos + i) : Text.isBlank c = true := by
  induction h generalizing i with
  | nil => cases hc
  | @blank pos last d cs ts hd h ih =>
      rcases i with _ | i
      · rw [List.getElem?_cons_zero] at hc
        exact Option.some.inj hc ▸ hd
      · rw [List.getElem?_cons_succ] at hc
        refine ih hc fun t ht => ?_
        have := hout t ht
        omega
  | @token pos last k d body rest ts hd hk h ih =>
      -- the head covers its first character and all of its body, so the place is in what follows
      have hhead := hout _ List.mem_cons_self
      have hlength : (d :: body).length ≤ i := by
        have hextent := length_le_extent k body rest
        simp only [List.length_cons] at hhead ⊢
        omega
      have hrest : rest[i - (d :: body).length]? = some c := by
        rwa [← List.cons_append, List.getElem?_append_right hlength] at hc
      rcases rest with _ | ⟨e, rest⟩
      · cases hrest
      · rw [extent_of_rest] at hout ih
        refine ih hrest fun t ht => ?_
        have hplace := hout t (List.mem_cons_of_mem _ ht)
        rw [List.length_cons] at hlength ⊢
        omega

/-! ## What is inside the spans -/

/-- The part of a line that a span cuts out. -/
def slice (line : List Char) (t : Token) : List Char :=
  (line.drop t.start).take (t.stop - t.start)

/-- The slices of a line with other gaps behind them. -/
def respaced (line : List Char) : List Token → List (List Char) → List Char
  | t :: ts, gap :: gaps => slice line t ++ (gap ++ respaced line ts gaps)
  | _, _ => []

/-- Gaps to stand behind so many tokens: blanks, and none only where nothing follows. -/
structure Spacing (count : Nat) (gaps : List (List Char)) : Prop where
  length_eq : gaps.length = count
  blank : ∀ gap ∈ gaps, ∀ c ∈ gap, Text.isBlank c = true
  nonempty : ∀ gap ∈ gaps.dropLast, gap ≠ []

theorem Spacing.tail {count : Nat} {gap : List Char} {gaps : List (List Char)}
    (h : Spacing (count + 1) (gap :: gaps)) : Spacing count gaps := by
  refine ⟨Nat.succ.inj h.length_eq, fun g hg => h.blank g (List.mem_cons_of_mem gap hg), ?_⟩
  intro g hg
  rcases gaps with _ | ⟨g', gaps⟩
  · cases hg
  · exact h.nonempty g (List.mem_cons_of_mem gap hg)

/-- Only behind the last token there may be no gap. -/
theorem Spacing.eq_nil {count : Nat} {gaps : List (List Char)} (h : Spacing count ([] :: gaps)) :
    gaps = [] := by
  rcases gaps with _ | ⟨gap, gaps⟩
  · rfl
  · exact absurd rfl (h.nonempty [] List.mem_cons_self)

/-- The slice of the first token of a text is its lexeme. -/
theorem slice_first (before : List Char) (k : TokenKind) (c : Char) (body rest : List Char) :
    slice (before ++ c :: (body ++ rest))
      ⟨k, before.length, before.length + 1 + extent k body rest⟩ = c :: body := by
  have hcount : before.length + 1 + extent k body rest - before.length =
      extent k body rest + 1 := by omega
  rw [slice, hcount, List.drop_left, List.take_succ_cons, take_extent]

/-- The slices of a line are read as tokens of the same kinds whatever the gaps are. -/
theorem Scans.lexes_respaced {pos : Nat} {last : Option TokenKind} {cs : List Char}
    {ts : List Token} (h : Scans pos last cs ts) {before : List Char} (hpos : pos = before.length)
    {gaps : List (List Char)} (hgaps : Spacing ts.length gaps) :
    Lexes last (respaced (before ++ cs) ts gaps) (kinds ts) := by
  induction h generalizing before gaps with
  | nil => exact .nil _
  | @blank pos _ c cs ts _ _ ih =>
      have hpos : pos + 1 = (before ++ [c]).length := by
        rw [List.length_append, List.length_singleton, hpos]
      have hline : before ++ c :: cs = before ++ [c] ++ cs := List.append_cons before c cs
      rw [hline]
      exact ih hpos hgaps
  | @token pos last k c body rest ts hc hk h ih =>
      subst hpos
      rcases gaps with _ | ⟨gap, gaps⟩
      · cases hgaps.length_eq
      have hrest : Lexes (some k) (respaced (before ++ c :: (body ++ rest)) ts gaps) (kinds ts) := by
        rcases rest with _ | ⟨d, rest⟩
        · rw [h.eq_nil]
          exact .nil _
        · rw [extent_of_rest] at ih
          have hline : before ++ c :: (body ++ d :: rest) = before ++ c :: body ++ d :: rest := by
            simp only [List.append_assoc, List.cons_append]
          rw [hline]
          refine ih ?_ hgaps.tail
          rw [List.length_append, List.length_cons]
          omega
      have hgap : Gap (gap ++ respaced (before ++ c :: (body ++ rest)) ts gaps) := by
        refine .of_blanks (hgaps.blank gap List.mem_cons_self) ?_
        rintro rfl
        rw [hgaps.eq_nil]
        cases ts <;> rfl
      rw [respaced, slice_first, List.cons_append]
      exact .lexeme hc hk hgap (.blanks (hgaps.blank gap List.mem_cons_self) hrest)

/-- Texts whose tokens are of the same kinds are read as the same line. -/
theorem parse_of_kinds {source source' : List Char} {ts ts' : List Token} {l : Line}
    (hts : tokenize source = .ok ts) (hts' : tokenize source' = .ok ts')
    (hks : kinds ts' = kinds ts) (h : Parser.parse (String.ofList source) = .ok l) :
    Parser.parse (String.ofList source') = .ok l := by
  simp only [Parser.parse, String.toList_ofList, hts, hts'] at h ⊢
  have hline := Grammar.line_sound h
  rw [← hks] at hline
  exact Grammar.line_complete _ hline

/-- What the tokens of a line say of its text.  Each is a run of characters of the line, except that
an operator of one character at the end is counted one character too far; they follow one another,
and only blanks are left out.  And the gaps between them do not matter: with others, of one blank at
least, the tokens are of the same kinds and the line is read the same. -/
theorem tokenize_lossless {text : List Char} {ts : List Token} (h : tokenize text = .ok ts) :
    (∀ t ∈ ts, t.start < t.stop ∧ t.start < text.length ∧
        (t.stop ≤ text.length ↔ ¬EndsLine text.length t) ∧
        (EndsLine text.length t → t.stop = text.length + 1)) ∧
      ts.Pairwise (fun t u => t.stop ≤ u.start) ∧
      (∀ i c, text[i]? = some c → (∀ t ∈ ts, i < t.start ∨ t.stop ≤ i) →
        Text.isBlank c = true) ∧
      ∀ before gaps, (∀ c ∈ before, Text.isBlank c = true) → Spacing ts.length gaps →
        (∃ ts', tokenize (before ++ respaced text ts gaps) = .ok ts' ∧ kinds ts' = kinds ts) ∧
        ∀ l, Parser.parse (String.ofList (before ++ respaced text ts gaps)) = .ok l ↔
          Parser.parse (String.ofList text) = .ok l := by
  have hscans : Scans 0 none text ts := scans_of_tokensFrom h
  refine ⟨fun t ht => ?_, hscans.pairwise, fun i c hc hout => ?_, ?_⟩
  · have hbounds := hscans.bounds t ht
    rw [Nat.zero_add] at hbounds
    refine ⟨hbounds.nonempty, hbounds.inside, ⟨?_, hbounds.fits⟩, hbounds.overruns⟩
    intro hfits hend
    have hover := hbounds.overruns hend
    omega
  · refine hscans.blank_outside hc ?_
    rwa [Nat.zero_add]
  · intro before gaps hbefore hgaps
    have hstart : 0 = ([] : List Char).length := rfl
    have hlexes : Lexes none (respaced text ts gaps) (kinds ts) :=
      hscans.lexes_respaced hstart hgaps
    obtain ⟨ts', hts', hks⟩ := hlexes.blanks hbefore 0
    refine ⟨⟨ts', hts', hks⟩, fun l => ⟨?_, ?_⟩⟩
    · exact parse_of_kinds hts' h hks.symm
    · exact parse_of_kinds h hts' hks

/-- Blanks around the tokens of a line do not matter; those in quotes are part of a token. -/
theorem tokenize_lossless_quoted :
    (∃ ts, tokenize "a<=\"b c\"".toList = .ok ts ∧
      kinds ts = [.name "a", .op .le, .literal (.str "b c")]) ∧
      ∀ l, Parser.parse " a  <= \"b c\"" = .ok l ↔ Parser.parse "a<=\"b c\"" = .ok l := by
  have htokens : tokenize "a<=\"b c\"".toList =
      .ok [⟨.name "a", 0, 1⟩, ⟨.op .le, 1, 3⟩, ⟨.literal (.str "b c"), 3, 8⟩] := by
    cbv
  have hgaps : Spacing 3 [[' ', ' '], [' '], []] :=
    ⟨rfl, by simp [Text.isBlank_space], by simp⟩
  obtain ⟨-, -, -, hspaced⟩ := tokenize_lossless htokens
  exact ⟨⟨_, htokens, rfl⟩, (hspaced [' '] _ (by simp [Text.isBlank_space]) hgaps).2⟩

/-- The span of an operator of one character that ends the line reaches beyond the line. -/
theorem exists_length_lt_stop :
    ∃ ts, tokenize "+".toList = .ok ts ∧ ∃ t ∈ ts, "+".toList.length < t.stop := by
  have htokens : tokenize "+".toList = .ok [⟨.op .add, 0, 2⟩] := by
    cbv
  exact ⟨_, htokens, ⟨.op .add, 0, 2⟩, List.mem_singleton_self _, by decide⟩

end Lexer

end DevConsole
