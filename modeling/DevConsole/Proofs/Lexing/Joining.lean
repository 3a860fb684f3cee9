/-
# `DevConsole.Proofs.Lexing.Joining` — texts put together from texts

The lexer looks ahead, so a text need not have the tokens in front of another text that it has
alone: `5` and `.5f` are one number, and `+` and `= 1` are one assignment.  What is needed is that
the text does not end inside an operator, and that what comes next goes on with no name and no number
(`Breaks`).  Then the tokens are those of the one and then those of the other (`Lexes.append`).

What was before a text matters in one way only, by whether a minus sign may belong to a number
(`kindsFrom_congr`).

An expression that is a line of its own meets this: it starts with what starts an operand, ends with
what ends one, and has no marker in it (`ReadsAs`).  So its tokens are known wherever it is put.
-/
import DevConsole.Proofs.Eval.Marker
import DevConsole.Proofs.Grammar.Parts
import DevConsole.Proofs.Grammar.Printing

namespace DevConsole

namespace Lexer

open Grammar (Derives DerivesLine Open goesOn)

variable {last last' : Option TokenKind} {pos : Nat} {c : Char} {cs rest : List Char}
  {k : TokenKind} {ks us : List TokenKind}

/-! ## What was before -/

theorem lexeme_congr (h : AdmitsSign last ↔ AdmitsSign last') (pos : Nat) (c : Char)
    (cs : List Char) : lexeme last pos c cs = lexeme last' pos c cs := by
  rw [lexeme, lexeme, Bool.eq_iff_iff.2 h]

theorem kindsFrom_congr (h : AdmitsSign last ↔ AdmitsSign last') (cs : List Char) :
    kindsFrom last cs = kindsFrom last' cs := by
  fun_induction kindsFrom last cs with
  | case1 => rw [kindsFrom]
  | case2 last c cs hc ih => rw [kindsFrom, if_pos hc, ih h]
  | case3 last c cs hc hread =>
    rw [kindsFrom, if_neg hc, reading, ← lexeme_congr h, ← reading, hread]
  | case4 last c cs hc k n hread =>
    rw [kindsFrom, if_neg hc, reading, ← lexeme_congr h, ← reading, hread]

/-! ## What comes next -/

theorem takeWhile_append_of_stops {p : Char → Bool} (hrest : StopsAt p rest) (cs : List Char) :
    (cs ++ rest).takeWhile p = cs.takeWhile p ∧ (cs ++ rest).dropWhile p = cs.dropWhile p ++ rest := by
  induction cs with
  | nil => exact ⟨hrest.takeWhile, hrest.dropWhile⟩
  | cons c cs ih =>
    cases hc : p c with
    | true =>
      rw [List.cons_append, List.takeWhile_cons_of_pos hc, List.takeWhile_cons_of_pos hc,
        List.dropWhile_cons_of_pos hc, List.dropWhile_cons_of_pos hc, ih.1]
      exact ⟨rfl, ih.2⟩
    | false =>
      have hnot : ¬ p c = true := Bool.eq_false_iff.1 hc
      rw [List.cons_append, List.takeWhile_cons_of_neg hnot, List.takeWhile_cons_of_neg hnot,
        List.dropWhile_cons_of_neg hnot, List.dropWhile_cons_of_neg hnot]
      exact ⟨rfl, rfl⟩

theorem Breaks.isDigit (hrest : Breaks rest) : StopsAt Char.isDigit rest :=
  hrest.name.mono fun _ => isNameChar_of_isDigit

theorem breaks_operator (o : Operator) (cs : List Char) : Breaks (o.symbol.toList ++ cs) :=
  .of_stops (stopsAt_symbol o cs)

theorem breaks_equals (cs : List Char) : Breaks ('=' :: cs) :=
  .of_stops ((stopsAt_cons _ _ _).2 rfl)

theorem breaks_closeParen (cs : List Char) : Breaks (')' :: cs) :=
  .of_stops ((stopsAt_cons _ _ _).2 rfl)

theorem digitNext_append_of_breaks (hrest : Breaks rest) (cs : List Char) :
    digitNext (cs ++ rest) = digitNext cs := by
  cases cs with
  | nil => exact digitNext_of_stopsAt hrest.isDigit
  | cons c cs => rfl

theorem fractionPart_append (hrest : Breaks rest) (cs : List Char) :
    fractionPart (cs ++ rest) = fractionPart cs := by
  rcases cs with _ | ⟨c, cs⟩
  · exact hrest.point
  · by_cases hdot : c = '.'
    · subst hdot
      rw [List.cons_append, fractionPart, fractionPart, digitNext_append_of_breaks hrest,
        (takeWhile_append_of_stops hrest.isDigit cs).1]
    · rw [List.cons_append, fractionPart.eq_2 _ fun ds hds => hdot (List.cons.inj hds).1,
        fractionPart.eq_2 _ fun ds hds => hdot (List.cons.inj hds).1]

theorem suffix?_append (hrest : Breaks rest) (cs : List Char) :
    suffix? (cs ++ rest) = suffix? cs := by
  cases cs with
  | nil => exact suffix?_of_stopsAt hrest.name
  | cons c cs => rfl

theorem nameNext_append (hrest : Breaks rest) (cs : List Char) :
    ((cs ++ rest).head?.map Scan.isNameChar).getD false =
      (cs.head?.map Scan.isNameChar).getD false := by
  cases cs with
  | nil => exact stopsAt_iff.1 hrest.name
  | cons c cs => rfl

/-- The fraction and the letter of a number are taken off the text. -/
theorem length_fraction_le (cs : List Char) :
    (fractionPart cs).length +
        (if (suffix? (cs.drop (fractionPart cs).length)).isSome then 1 else 0) ≤ cs.length := by
  obtain ⟨fraction, tail, rfl, hpart, -⟩ := exists_fraction cs
  obtain ⟨letter, after, rfl, hsuffix, hletter⟩ := exists_suffix tail
  rw [hpart, List.drop_left, hsuffix, length_letter hletter]
  simp only [List.length_append]
  omega

theorem number_append (hrest : Breaks rest) (pos : Nat) (c : Char) (cs : List Char) :
    number pos c (cs ++ rest) = number pos c cs := by
  obtain ⟨htake, hdrop⟩ := takeWhile_append_of_stops hrest.isDigit cs
  have hlength : (cs.takeWhile Char.isDigit).length + (cs.dropWhile Char.isDigit).length =
      cs.length := by
    rw [← List.length_append, List.takeWhile_append_dropWhile]
  have hparts := length_fraction_le (cs.dropWhile Char.isDigit)
  have hfraction := Nat.le_trans (Nat.le_add_right _ _) hparts
  simp only [number, htake, hdrop, fractionPart_append hrest,
    List.drop_append_of_le_length hfraction, suffix?_append hrest]
  rw [List.drop_append_of_le_length (by omega), nameNext_append hrest]

/-! ## One token -/

/-- An operator or an assignment is one of the tokens that go on. -/
theorem goesOn_of_operator {n : Nat} (h : operator pos c cs = .ok (k, n)) : goesOn k = true := by
  obtain ⟨body, rest, -, htext, -⟩ := exists_operatorText h
  cases htext <;> rfl

/-- So is what starts with a character that ends a symbol. -/
theorem goesOn_of_endsSymbol {n : Nat} (h : reading last c cs = some (k, n))
    (hc : endsSymbol c = true) : goesOn k = true := by
  rw [reading] at h
  cases hlex : lexeme last 0 c cs with
  | error f =>
    rw [hlex] at h
    cases h
  | ok l =>
    rw [hlex] at h
    obtain ⟨rfl, -⟩ := Prod.mk.inj (Option.some.inj h)
    have hoperator : operator 0 c cs = .ok (l.1, l.2) := by
      have hmem : c ∈ ['=', '<', '>'] := List.contains_iff_mem.1 hc
      simp only [List.mem_cons, List.not_mem_nil, or_false] at hmem
      rcases hmem with rfl | rfl | rfl <;> exact hlex
    exact goesOn_of_operator hoperator

/-- A token that is read at the end of a text, or further on in it, is read in front of another
text; only an operator looks at what comes after it. -/
theorem lexeme_append {n : Nat} (h : lexeme last pos c cs = .ok (k, n))
    (hend : cs = [] → goesOn k = false) (hrest : Breaks rest) :
    lexeme last pos c (cs ++ rest) = .ok (k, n) := by
  simp only [lexeme, digitNext_append_of_breaks hrest, number_append hrest] at h ⊢
  split at h
  · rename_i hstart
    rw [if_pos hstart, ← h]
    simp only [word, (takeWhile_append_of_stops hrest.name cs).1]
  rename_i hstart
  rw [if_neg hstart]
  split at h
  · rename_i hnumber
    rw [if_pos hnumber, h]
  rename_i hnumber
  rw [if_neg hnumber]
  split at h
  · rename_i hquote
    rw [if_pos hquote]
    rw [string] at h
    split at h
    · rename_i content extra hbody
      obtain ⟨body, tail, rfl, rfl, hprefix⟩ := exists_stringBody hbody
      rw [string, List.append_assoc, hprefix]
      exact h
    · cases h
  rename_i hquote
  rw [if_neg hquote]
  split at h
  · rename_i hoperator
    rw [if_pos hoperator]
    cases cs with
    | nil =>
      have hgoes := goesOn_of_operator h
      rw [hend rfl] at hgoes
      cases hgoes
    | cons d cs => exact h
  · rename_i hoperator
    rw [if_neg hoperator]
    exact h

theorem extra_le {n : Nat} (h : lexeme last pos c cs = .ok (k, n))
    (hend : cs = [] → goesOn k = false) : n ≤ cs.length := by
  obtain ⟨body, tail, rfl, -, rfl⟩ := exists_writes h
  fun_cases extent k body tail with
  | case1 o => cases hend rfl
  | case2 => rw [List.length_append]; exact Nat.le_add_right _ _

theorem reading_append {n : Nat} (h : reading last c cs = some (k, n))
    (hend : cs = [] → goesOn k = false) (hrest : Breaks rest) :
    reading last c (cs ++ rest) = some (k, n) := by
  rw [reading] at h
  cases hlex : lexeme last 0 c cs with
  | error f =>
    rw [hlex] at h
    cases h
  | ok l =>
    obtain ⟨k', n'⟩ := l
    rw [hlex] at h
    obtain ⟨rfl, rfl⟩ := Prod.mk.inj (Option.some.inj h)
    have hle := extra_le hlex hend
    rw [reading, lexeme_append hlex hend hrest]
    simp only [Except.toOption, Option.map_some, Nat.min_eq_left hle]
    rw [Nat.min_eq_left (by rw [List.length_append]; omega)]

/-! ## Texts -/

/-- Where a text does not end with what goes on, and the next text breaks it off, the tokens are
those of the one and then those of the other. -/
theorem Lexes.append (h : Lexes last cs ks) (hend : ∀ k ∈ ks.getLast?, goesOn k = false)
    (hrest : Breaks rest) (hus : Lexes (ks.getLast?.or last) rest us) :
    Lexes last (cs ++ rest) (ks ++ us) := by
  rw [lexes_iff] at h hus ⊢
  fun_induction kindsFrom last cs generalizing ks with
  | case1 last =>
    cases h
    exact hus
  | case2 last c cs hc ih =>
    rw [List.cons_append, kindsFrom, if_pos hc, ih h hend hus]
  | case3 => cases h
  | case4 last c cs hc k n hread ih =>
    obtain ⟨vs, hvs, rfl⟩ := Option.map_eq_some_iff.1 h
    have hlast : ∀ k' ∈ vs.getLast?, goesOn k' = false := by
      intro k' hk'
      refine hend k' ?_
      rw [List.getLast?_cons, hk']
      rfl
    have hfirst : cs = [] → goesOn k = false := by
      rintro rfl
      rw [List.drop_nil, kindsFrom] at hvs
      cases hvs
      exact hend k rfl
    have hnext : (k :: vs).getLast?.or last = vs.getLast?.or (some k) := by
      rw [List.getLast?_cons]
      cases vs.getLast? <;> rfl
    rw [hnext] at hus
    rw [List.cons_append, kindsFrom, if_neg hc, reading_append hread hfirst hrest]
    simp only [List.drop_append_of_le_length (le_length_of_reading hread), ih hvs hlast hus,
      Option.map_some, List.cons_append]

theorem Lexes.congr (h : Lexes last cs ks) (hlast : AdmitsSign last ↔ AdmitsSign last') :
    Lexes last' cs ks := by
  rw [lexes_iff] at h ⊢
  rw [← kindsFrom_congr hlast, h]

/-! ## Assignments -/

/-- An operator that may be joined with an equals sign is, where there is one. -/
theorem Lexes.compound {o : Operator} (ho : o.compounds = true) (hlast : ¬ AdmitsSign last)
    (h : Lexes (some (.assign (some o))) cs us) :
    Lexes last (o.symbol.toList ++ '=' :: cs) (.assign (some o) :: us) := by
  have hjoined : ∀ {c : Char}, Scan.isOperatorChar c = true →
      (∀ pos, Lexer.operator pos c ('=' :: cs) = .ok (.assign (some o), 1)) →
      Lexes last (c :: (['='] ++ cs)) (.assign (some o) :: us) := by
    intro c hc hread
    refine .token (classes_operatorChar hc).1 (fun pos => ?_) h
    rw [lexeme_operatorChar hc hlast]
    exact hread pos
  cases o with
  | add | sub | mul | div | bitAnd | bitOr | bitXor => exact hjoined rfl fun _ => rfl
  | _ => cases ho

/-- An equals sign alone is read in front of a character that ends no symbol. -/
theorem Lexes.equals {d : Char} (hd : endsSymbol d = false) (hlast : ¬ AdmitsSign last)
    (h : Lexes (some (.assign none)) (d :: cs) us) :
    Lexes last ('=' :: d :: cs) (.assign none :: us) := by
  refine .single rfl (fun pos => ?_) h
  have hsingle : Operator.ofSymbol? (String.ofList ['=']) = none := rfl
  rw [lexeme_operatorChar rfl hlast]
  simp only [Lexer.operator, List.head?_cons, Option.toList_some, ofSymbol?_pair hd, hsingle]
  rfl

end Lexer

/-! ## Expressions as parts of a text -/

/-- The tokens that an operand may end with. -/
def TokenKind.endsOperand : TokenKind → Bool
  | name _ | literal _ | closeParen => true
  | _ => false

namespace Grammar

theorem getLast?_append_cons {α : Type} {xs ys : List α} {x : α} (h : ys ≠ []) :
    (xs ++ x :: ys).getLast? = ys.getLast? := by
  rw [List.getLast?_append_of_ne_nil _ (List.cons_ne_nil _ _), List.getLast?_cons_of_ne_nil h]

/-- Behind a token that has a property, the last token has it if it is another one that has it. -/
theorem getLast?_cons_elim {P : TokenKind → Prop} {k : TokenKind} {ks : List TokenKind} (hk : P k)
    (hks : ∀ k' ∈ ks.getLast?, P k') : ∀ k' ∈ (k :: ks).getLast?, P k' := by
  cases ks with
  | nil =>
    intro k' hk'
    cases hk'
    exact hk
  | cons k₁ ks =>
    rw [List.getLast?_cons_of_ne_nil (List.cons_ne_nil _ _)]
    exact hks

theorem Derives.ne_nil {c : Expr → Prop} {d : Nat} {p : Phrase} {ks : List TokenKind}
    (h : Derives c d p ks) (hp : p.LeadsWithOperand) : ks ≠ [] := by
  obtain ⟨k, us, rfl, -⟩ := h.exists_head hp
  exact List.cons_ne_nil _ _

/-- Whatever is derived ends with a token that an operand may end with. -/
theorem Derives.endsOperand {c : Expr → Prop} {d : Nat} {p : Phrase} {ks : List TokenKind}
    (h : Derives c d p ks) : ∀ k ∈ ks.getLast?, k.endsOperand = true := by
  induction h with
  | expr _ _ ih => exact ih
  | binary _ _ _ hr _ ih =>
    rw [getLast?_append_cons (hr.ne_nil trivial)]
    exact ih
  | assign _ _ _ _ hr _ ih =>
    rw [getLast?_append_cons (hr.ne_nil trivial)]
    exact ih
  | cast _ he _ ih =>
    rw [getLast?_append_cons (he.ne_nil trivial)]
    exact ih
  | arg _ hes _ ih =>
    rw [getLast?_append_cons (hes.ne_nil trivial)]
    exact ih
  | new _ hcall _ ih =>
    obtain ⟨us, rfl⟩ := hcall.exists_openParen
    rw [List.getLast?_append_of_ne_nil _ (List.cons_ne_nil _ _)]
    exact ih
  | name _ ih => exact getLast?_cons_elim rfl ih
  | member _ _ _ _ _ ih =>
    rw [List.getLast?_append_of_ne_nil _ (List.cons_ne_nil _ _),
      List.getLast?_cons_of_ne_nil (List.cons_ne_nil _ _)]
    exact getLast?_cons_elim rfl ih
  | lastArg _ ih => exact ih
  | typeMember _ _ _ =>
    rw [List.getLast?_append_of_ne_nil _ (List.cons_ne_nil _ _)]
    rintro k ⟨⟩
    rfl
  | group _ _ | call _ _ =>
    rw [List.getLast?_concat]
    rintro k ⟨⟩
    rfl
  | noCall => exact nofun
  | literal | typeName | emptyCall =>
    rintro k ⟨⟩
    rfl

end Grammar

namespace Lexer

open Grammar (Derives Open goesOn)

variable {last : Option TokenKind} {cs rest : List Char} {k : TokenKind} {ks us : List TokenKind}
  {e : Expr} {l : Line}

theorem goesOn_of_endsOperand (h : k.endsOperand = true) : goesOn k = false := by
  cases k with
  | name | literal | closeParen => rfl
  | _ => cases h

theorem not_admitsSign_of_endsOperand (h : k.endsOperand = true) : ¬ AdmitsSign (some k) := by
  cases k with
  | name | literal | closeParen => exact Bool.false_ne_true
  | _ => cases h

/-- A text whose tokens are an expression. -/
structure ReadsAs (cs : List Char) (e : Expr) (ks : List TokenKind) : Prop where
  lexes : Lexes none cs ks
  derives : Derives Open 1 (.expr e) ks

theorem exists_readsAs (h : Parser.parse (.ofList cs) = .ok ⟨some e, false⟩) :
    ∃ ks, ReadsAs cs e ks := by
  obtain ⟨ks, hks, hline⟩ := parse_eq_ok_iff.1 h
  cases hline with
  | value he => exact ⟨ks, lexes_iff.2 hks, he⟩

/-- A text of tokens among which there is no marker, and which is read at all, is read as an
expression. -/
theorem ReadsAs.of_parse (h : Parser.parse (.ofList cs) = .ok l) (hks : Lexes none cs ks)
    (hne : ks ≠ []) (hmarker : TokenKind.marker ∉ ks) :
    ∃ x, l = ⟨some x, false⟩ ∧ ReadsAs cs x ks := by
  obtain ⟨ks', hks', hline⟩ := parse_eq_ok_iff.1 h
  obtain rfl := Option.some.inj (hks'.symm.trans (lexes_iff.1 hks))
  cases hline with
  | empty => exact absurd rfl hne
  | members => exact absurd (List.mem_singleton_self _) hmarker
  | value he => exact ⟨_, rfl, hks, he⟩
  | valueMembers _ => exact absurd (List.mem_append_right _ (List.mem_singleton_self _)) hmarker

theorem ReadsAs.marker_not_mem (h : ReadsAs cs e ks) : TokenKind.marker ∉ ks :=
  h.derives.marker_not_mem

/-- An expression is read in front of whatever breaks it off. -/
theorem ReadsAs.append (h : ReadsAs cs e ks) (hlast : AdmitsSign last) (hrest : Breaks rest)
    (hus : ∀ k, k.endsOperand = true → Lexes (some k) rest us) :
    Lexes last (cs ++ rest) (ks ++ us) := by
  obtain ⟨k, hk⟩ : ∃ k, ks.getLast? = some k :=
    ⟨_, List.getLast?_eq_some_getLast (h.derives.ne_nil trivial)⟩
  have hends := h.derives.endsOperand
  refine (h.lexes.congr ⟨fun _ => hlast, fun _ => rfl⟩).append
    (fun k hk => goesOn_of_endsOperand (hends k hk)) hrest ?_
  rw [hk]
  exact hus k (hends k hk)

theorem ReadsAs.lexes_after (h : ReadsAs cs e ks) (hlast : AdmitsSign last) : Lexes last cs ks :=
  h.lexes.congr ⟨fun _ => hlast, fun _ => rfl⟩

/-- An expression in parentheses. -/
theorem ReadsAs.parens (h : ReadsAs cs e ks) (hrest : Lexes (some .closeParen) rest us) :
    Lexes last ('(' :: (cs ++ ')' :: rest)) (.openParen :: (ks ++ .closeParen :: us)) :=
  .openParen (h.append rfl (breaks_closeParen rest) fun _ _ => .closeParen hrest)

/-- An expression does not start with the end of a symbol. -/
theorem ReadsAs.head (h : ReadsAs cs e ks) : ∃ d ds, cs = d :: ds ∧ endsSymbol d = false := by
  obtain ⟨k, us, rfl, hk⟩ := h.derives.exists_head trivial
  have hkinds := lexes_iff.1 h.lexes
  rcases cs with _ | ⟨d, ds⟩
  · rw [kindsFrom] at hkinds
    cases hkinds
  · refine ⟨d, ds, rfl, ?_⟩
    rw [kindsFrom] at hkinds
    split at hkinds
    · rename_i hblank
      exact endsSymbol_of_isBlank hblank
    · split at hkinds
      · cases hkinds
      · rename_i k' n hread
        obtain ⟨vs, -, hcons⟩ := Option.map_eq_some_iff.1 hkinds
        obtain ⟨rfl, rfl⟩ := List.cons.inj hcons
        refine Bool.eq_false_iff.2 fun hsymbol => ?_
        have hgoes := goesOn_of_endsSymbol hread hsymbol
        cases k' with
        | name | literal | new | openParen => cases hgoes
        | _ => cases hk

/-- An operator in front of an expression. -/
theorem ReadsAs.behind_symbol (h : ReadsAs cs e ks) (o : Operator) (hlast : ¬ AdmitsSign last) :
    Lexes last (o.symbol.toList ++ cs) (.op o :: ks) := by
  have hlexes : Lexes (some (.op o)) cs ks := h.lexes_after rfl
  obtain ⟨d, ds, rfl, hd⟩ := h.head
  exact .symbol o hd hlast hlexes

end Lexer

end DevConsole
