/-
# `DevConsole.Proofs.Grammar.CallFree` — lines without an opening parenthesis

Without an opening parenthesis there are no arguments, so that nothing is called or constructed, and
there are no groups and casts.  What is left of the grammar is

    expr      operand
              operand binop expr
              operand assignop expr
    operand   constant | name | operand '.' name

The operands are reads (`Expr.IsRead`), and only an operator or an assignment can do more
(`Derives.callFree`).  Both are seen in the text, since each token is written with characters of its
own (`Scans.exists_writes`):

    an operator or an assignment     starts with a character that operators are made of
    a closing parenthesis            is one, and does not go without an opening one

So a line that is read although it has a closing parenthesis and no opening one has it in a text
constant (`callFree_of_parse`).
-/
import DevConsole.Proofs.Lexing.Respacing
import DevConsole.Proofs.Lexing.Tokens

namespace DevConsole

/-! ## Reads -/

namespace Expr

/-- A constant, a name, or a member of such an expression, without a call. -/
inductive IsRead : Expr → Prop
  | literal (l : Literal) : IsRead (.literal l)
  | name (n : String) : IsRead (.name n none)
  | member {target : Expr} (n : String) : IsRead target → IsRead (.member target n none)

/-- An operator with two operands, or an assignment. -/
inductive IsOperation : Expr → Prop
  | binary (op : Operator) (left right : Expr) : IsOperation (.binary op left right)
  | assign (op : Option Operator) (target value : Expr) : IsOperation (.assign op target value)

end Expr

/-- Whether the token is an operator or the sign of an assignment. -/
def TokenKind.isOperation : TokenKind → Bool
  | op _ | assign _ => true
  | _ => false

namespace Grammar

/-- What a phrase can be if its tokens open no parenthesis. -/
def Phrase.CallFree (ts : List TokenKind) : Phrase → Prop
  | expr e => e.IsRead ∨ e.IsOperation ∧ ∃ k ∈ ts, k.isOperation = true
  | operand e _ => e.IsRead
  | call arguments => arguments = none
  | _ => True

/-- Tokens that open no parenthesis close none, and nothing is called. -/
theorem Derives.callFree {c : Expr → Prop} {d : Nat} {p : Phrase} {ts : List TokenKind}
    (h : Derives c d p ts) (hopen : TokenKind.openParen ∉ ts) :
    TokenKind.closeParen ∉ ts ∧ p.CallFree ts := by
  induction h with
  | expr _ _ ih =>
    obtain ⟨hclose, hread⟩ := ih hopen
    exact ⟨hclose, .inl hread⟩
  | @binary _ _ o l r ts us _ _ _ _ ihl ihr =>
    simp only [List.mem_append, List.mem_cons, reduceCtorEq, false_or, not_or] at hopen ⊢
    refine ⟨⟨(ihl hopen.1).1, (ihr hopen.2).1⟩, .inr ⟨.binary o l r, .op o, ?_, rfl⟩⟩
    exact List.mem_append_right ts List.mem_cons_self
  | @assign _ _ o l r ts us _ _ _ _ _ ihl ihr =>
    simp only [List.mem_append, List.mem_cons, reduceCtorEq, false_or, not_or] at hopen ⊢
    refine ⟨⟨(ihl hopen.1).1, (ihr hopen.2).1⟩, .inr ⟨.assign o l r, .assign o, ?_, rfl⟩⟩
    exact List.mem_append_right ts List.mem_cons_self
  | literal => exact ⟨by simp, .literal _⟩
  | @name _ n args ts _ ih =>
    simp only [List.mem_cons, reduceCtorEq, false_or] at hopen ⊢
    obtain ⟨hclose, rfl⟩ := ih hopen
    exact ⟨hclose, .name n⟩
  | group | cast | emptyCall | call => exact absurd List.mem_cons_self hopen
  | new _ hcall _ _ =>
    obtain ⟨us, rfl⟩ := hcall.exists_openParen
    exact absurd (List.mem_append_right _ List.mem_cons_self) hopen
  | @member _ _ e n args ts us _ _ _ _ ihe ihargs =>
    simp only [List.mem_append, List.mem_cons, reduceCtorEq, false_or, not_or] at hopen ⊢
    obtain ⟨hclose, hread⟩ := ihe hopen.1
    obtain ⟨hclose', rfl⟩ := ihargs hopen.2
    exact ⟨⟨hclose, hclose'⟩, .member n hread⟩
  | typeName => exact ⟨by simp, trivial⟩
  | typeMember _ _ ih =>
    simp only [List.mem_append, List.mem_cons, reduceCtorEq, List.not_mem_nil, or_false]
      at hopen ⊢
    exact ⟨(ih hopen).1, trivial⟩
  | noCall => exact ⟨List.not_mem_nil, rfl⟩
  | lastArg _ ih => exact ⟨(ih hopen).1, trivial⟩
  | arg _ _ ihe ihes =>
    simp only [List.mem_append, List.mem_cons, reduceCtorEq, false_or, not_or] at hopen ⊢
    exact ⟨⟨(ihe hopen.1).1, (ihes hopen.2).1⟩, trivial⟩

/-- A line that opens no parenthesis closes none, and its expression is a read or an operation. -/
theorem DerivesLine.callFree {c : Expr → Prop} {l : Line} {ts : List TokenKind}
    (h : DerivesLine c l ts) (hopen : TokenKind.openParen ∉ ts) :
    TokenKind.closeParen ∉ ts ∧
      ∀ e, l.expr = some e → e.IsRead ∨ e.IsOperation ∧ ∃ k ∈ ts, k.isOperation = true := by
  cases h with
  | empty => exact ⟨List.not_mem_nil, nofun⟩
  | members => exact ⟨by simp, nofun⟩
  | value h =>
    obtain ⟨hclose, hfree⟩ := h.callFree hopen
    refine ⟨hclose, ?_⟩
    rintro _ ⟨⟩
    exact hfree
  | valueMembers h =>
    simp only [List.mem_append, List.mem_cons, reduceCtorEq, List.not_mem_nil, or_false] at hopen
    obtain ⟨hclose, hfree⟩ := h.callFree hopen
    refine ⟨by simpa using hclose, ?_⟩
    rintro _ ⟨⟩
    refine hfree.imp_right ?_
    rintro ⟨hoperation, k, hk, hkind⟩
    exact ⟨hoperation, k, List.mem_append_left _ hk, hkind⟩

end Grammar

namespace Lexer

open Grammar (kinds)

/-! ## The characters of a token -/

variable {last : Option TokenKind} {c : Char} {body cs content : List Char} {k : TokenKind}
  {pos : Nat} {ts : List Token}

theorem Writes.eq_of_openParen (h : Writes last c body .openParen) : c = '(' := by
  generalize hk : TokenKind.openParen = k at h
  cases h with
  | word =>
    rw [keywordOrName] at hk
    repeat' split at hk
    all_goals cases hk
  | operator _ h => cases h <;> cases hk
  | mark h =>
    subst hk
    simpa [marks] using h
  | _ => cases hk

theorem Writes.isOperatorChar (h : Writes last c body k) (hk : k.isOperation = true) :
    Scan.isOperatorChar c = true := by
  cases h with
  | word =>
    rw [keywordOrName] at hk
    repeat' split at hk
    all_goals cases hk
  | operator hc _ => exact hc
  | mark h =>
    have hmarks : ∀ m ∈ marks, m.2.isOperation = false := by decide
    have hnot : k.isOperation = false := hmarks _ h
    rw [hnot] at hk
    cases hk
  | _ => cases hk

/-- A closing parenthesis in quotes is part of the text. -/
theorem closeParen_mem_of_stringBody {n : Nat} (h : stringBody cs = some (content, n))
    (hmem : ')' ∈ cs.take n) : ')' ∈ content := by
  fun_induction stringBody cs generalizing content n with
  | case1 => cases h
  | case2 cs =>
    cases h
    simp at hmem
  | case3 => cases h
  | case4 e cs ih =>
    obtain ⟨⟨inner, m⟩, hinner, heq⟩ := Option.map_eq_some_iff.1 h
    cases heq
    simp only [List.take_succ_cons, List.mem_cons] at hmem ⊢
    rcases hmem with hmem | rfl | hmem
    · cases hmem
    · exact .inl rfl
    · exact .inr (ih hinner hmem)
  | case5 d cs _ _ _ ih =>
    obtain ⟨⟨inner, m⟩, hinner, heq⟩ := Option.map_eq_some_iff.1 h
    cases heq
    simp only [List.take_succ_cons, List.mem_cons] at hmem ⊢
    exact hmem.imp_right (ih hinner)

/-- The characters after the first of an operator end it. -/
theorem OperatorText.endsSymbol_of_mem (h : OperatorText c body k) :
    ∀ d ∈ body, endsSymbol d = true := by
  cases h with
  | @pair _ d o hpair =>
    refine List.forall_mem_singleton.2 (Bool.eq_true_of_not_eq_false fun hd => ?_)
    rw [ofSymbol?_pair hd] at hpair
    cases hpair
  | compound => exact List.forall_mem_singleton.2 rfl
  | equals => nofun
  | single => nofun

/-- A number goes on with characters of names and a point. -/
theorem Numeral.isNameChar {whole fraction letter : List Char} (h : Numeral whole fraction letter) :
    ∀ d ∈ whole ++ (fraction ++ letter), Scan.isNameChar d = true ∨ d = '.' := by
  intro d hd
  rcases List.mem_append.1 hd with hd | hd
  · exact .inl (isNameChar_of_isDigit (h.whole_digits d hd))
  rcases List.mem_append.1 hd with hd | hd
  · rcases h.fraction_digits with rfl | ⟨e, es, rfl, hdigits⟩
    · cases hd
    · exact (List.mem_cons.1 hd).symm.imp_left fun hd => isNameChar_of_isDigit (hdigits d hd)
  · rcases h.letter_suffix with rfl | ⟨e, rfl, hsuffix⟩
    · cases hd
    · obtain rfl := List.mem_singleton.1 hd
      exact .inl (classes_suffix hsuffix).1

/-- A closing parenthesis is a token, or part of a text constant. -/
theorem Writes.of_closeParen_mem (h : Writes last c body k) (hmem : ')' ∈ c :: body) :
    k = .closeParen ∨ ∃ s, k = .literal (.str s) ∧ ')' ∈ s.toList := by
  cases h with
  | word hstart hbody =>
    rcases List.mem_cons.1 hmem with rfl | hmem
    · cases hstart
    · cases hbody _ hmem
  | number _ hsign hparts _ =>
    rcases List.mem_cons.1 hmem with rfl | hmem
    · cases hsign
    · rcases hparts.isNameChar _ hmem with hname | hpoint
      · cases hname
      · cases hpoint
  | @string body content h =>
    refine .inr ⟨_, rfl, ?_⟩
    have hbody : stringBody body = some (content, body.length) := by
      have hend := h []
      rwa [List.append_nil] at hend
    rw [String.toList_ofList]
    refine closeParen_mem_of_stringBody hbody ?_
    rw [List.take_length]
    rcases List.mem_cons.1 hmem with hquote | hmem
    · cases hquote
    · exact hmem
  | operator hc h =>
    rcases List.mem_cons.1 hmem with rfl | hmem
    · cases hc
    · cases h.endsSymbol_of_mem _ hmem
  | mark h =>
    obtain rfl := List.mem_singleton.1 hmem
    left
    simpa [marks] using h

/-! ## The tokens of a text -/

/-- Every token is written in the text. -/
theorem Scans.exists_writes (h : Scans pos last cs ts) :
    ∀ k ∈ kinds ts, ∃ last' c body, Writes last' c body k ∧ c ∈ cs := by
  induction h with
  | nil => nofun
  | blank _ _ ih =>
    intro k hk
    obtain ⟨last', d, body, hwrites, hmem⟩ := ih k hk
    exact ⟨last', d, body, hwrites, List.mem_cons_of_mem _ hmem⟩
  | @token _ last k₀ c body rest ts _ hwrites _ ih =>
    intro k hk
    rcases List.mem_cons.1 hk with rfl | hk
    · exact ⟨last, c, body, hwrites, List.mem_cons_self⟩
    · obtain ⟨last', d, body', hwrites', hmem⟩ := ih k hk
      exact ⟨last', d, body', hwrites', List.mem_cons_of_mem _ (List.mem_append_right _ hmem)⟩

/-- Every character of the text that is not blank is part of a token. -/
theorem Scans.exists_token (h : Scans pos last cs ts) :
    ∀ d ∈ cs, Text.isBlank d = false →
      ∃ k ∈ kinds ts, ∃ last' c body, Writes last' c body k ∧ d ∈ c :: body := by
  induction h with
  | nil => nofun
  | @blank _ _ c _ _ hc _ ih =>
    intro d hd hblank
    rcases List.mem_cons.1 hd with rfl | hd
    · rw [hc] at hblank
      cases hblank
    · exact ih d hd hblank
  | @token _ last k c body rest ts _ hwrites _ ih =>
    intro d hd hblank
    rw [← List.cons_append] at hd
    rcases List.mem_append.1 hd with hd | hd
    · exact ⟨k, List.mem_cons_self, last, c, body, hwrites, hd⟩
    · obtain ⟨k', hk', hexists⟩ := ih d hd hblank
      exact ⟨k', List.mem_cons_of_mem _ hk', hexists⟩

/-- What a line is read as that has no opening parenthesis.  Its expression is a read, or an
operation, which takes a character that operators are made of.  And if the line has a closing
parenthesis, a text constant of the line does. -/
theorem callFree_of_parse {source : String} {l : Line} (h : Parser.parse source = .ok l)
    (hopen : '(' ∉ source.toList) :
    (∀ e, l.expr = some e →
      e.IsRead ∨ e.IsOperation ∧ ∃ c ∈ source.toList, Scan.isOperatorChar c = true) ∧
    (')' ∈ source.toList → ∃ ts, tokenize source.toList = .ok ts ∧
      ∃ s, .literal (.str s) ∈ kinds ts ∧ ')' ∈ s.toList) := by
  simp only [Parser.parse] at h
  split at h
  · cases h
  rename_i ts hts
  have hscans := scans_of_tokensFrom hts
  have hfree : TokenKind.openParen ∉ kinds ts := by
    intro hmem
    obtain ⟨last, c, body, hwrites, hc⟩ := hscans.exists_writes _ hmem
    rw [hwrites.eq_of_openParen] at hc
    exact hopen hc
  obtain ⟨hclose, hexpr⟩ := (Grammar.line_sound h).callFree hfree
  constructor
  · intro e he
    refine (hexpr e he).imp_right ?_
    rintro ⟨hoperation, k, hk, hkind⟩
    obtain ⟨last, c, body, hwrites, hc⟩ := hscans.exists_writes k hk
    exact ⟨hoperation, c, hc, hwrites.isOperatorChar hkind⟩
  · intro hmem
    obtain ⟨k, hk, last, c, body, hwrites, hin⟩ := hscans.exists_token _ hmem rfl
    refine ⟨ts, hts, ?_⟩
    rcases hwrites.of_closeParen_mem hin with rfl | ⟨s, rfl, hs⟩
    · exact absurd hk hclose
    · exact ⟨s, hk, hs⟩

end Lexer

end DevConsole
