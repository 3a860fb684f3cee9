/-
# `DevConsole.Proofs.Grammar.Printing` — the compact form of an expression is read as the expression

The compact form writes no parentheses of its own, so a tree of any shape could be read as another
one.  The trees that come from a line are not of any shape.  What is read as an expression has tokens
that derive it, and the compact form is a text of the same tokens; so it needs no parentheses beyond
those that are in the tree as groups and casts, and it is nested no deeper than the line was.

    line  ⟶  tokens `ts`  ⟶  `e`             the lexer and the parser
    `e.text`  ⟶  tokens of the kinds of `ts`   here, by induction on the derivation (`PrintsAs`)

The induction carries two things along.  `Written last ts` says that every token of `ts` has a text
where it stands: a name that is no keyword, and a negative number only where a sign is admitted,
which is what keeps `a - 1` and `(a)1` apart from `a` and `-1`.  And what follows a phrase does not
go on with it (`Breaks`): a blank, a closing parenthesis, a dot before a name, or nothing.

Argument lists and the right sides of assignments are left out of the compact form, so the trees
that have one are excluded (`Expr.elides`).
-/
import DevConsole.Proofs.Lexing.Respacing
import DevConsole.Proofs.Lexing.Literals

namespace DevConsole

open Lexer

namespace Expr

/-- Whether two dots stand for something in the compact form. -/
def elides : Expr → Bool
  | literal _ => false
  | name _ args => args.isSome
  | member target _ args => target.elides || args.isSome
  | group inner => inner.elides
  | cast type operand => type.elides || operand.elides
  | new _ _ => true
  | binary _ left right => left.elides || right.elides
  | assign _ _ _ => true

/-- The constants that stand in the compact form. -/
def constants : Expr → List Literal
  | literal l => [l]
  | name _ _ => []
  | member target _ _ => target.constants
  | group inner => inner.constants
  | cast type operand => type.constants ++ operand.constants
  | new type _ => type.constants
  | binary _ left right => left.constants ++ right.constants
  | assign _ target _ => target.constants

end Expr

namespace Grammar

/-! ## Tokens that have a text where they stand -/

/-- Every token has a text, after the one before it. -/
def Written : Option TokenKind → List TokenKind → Prop
  | _, [] => True
  | last, k :: ks => (∃ c body, Writes last c body k) ∧ Written (some k) ks

theorem written_of_scans {pos : Nat} {last : Option TokenKind} {cs : List Char} {ts : List Token}
    (h : Scans pos last cs ts) : Written last (kinds ts) := by
  induction h with
  | nil => exact trivial
  | blank _ _ ih => exact ih
  | token _ hk _ ih => exact ⟨⟨_, _, hk⟩, ih⟩

/-- The parts of a run of tokens have a text, each after what is before it. -/
theorem Written.split {last : Option TokenKind} {ts us : List TokenKind} {k : TokenKind}
    (h : Written last (ts ++ k :: us)) :
    Written last ts ∧ (∃ last', Written last' [k]) ∧ Written (some k) us := by
  induction ts generalizing last with
  | nil => exact ⟨trivial, ⟨last, h.1, trivial⟩, h.2⟩
  | cons t ts ih =>
      obtain ⟨hts, hk, hus⟩ := ih h.2
      exact ⟨⟨h.1, hts⟩, hk, hus⟩

/-! ## What may follow a phrase -/

theorem breaks_nil : Breaks [] := ⟨stopsAt_nil _, rfl⟩

theorem breaks_blank (cs : List Char) : Breaks (' ' :: cs) := ⟨(stopsAt_cons _ _ _).2 rfl, rfl⟩

theorem breaks_closeParen (cs : List Char) : Breaks (')' :: cs) := ⟨(stopsAt_cons _ _ _).2 rfl, rfl⟩

/-- A dot before a name ends the number before it. -/
theorem breaks_dot {last : Option TokenKind} {c : Char} {body : List Char} {n : String}
    (hn : Writes last c body (.name n)) (rest : List Char) : Breaks ('.' :: (n.toList ++ rest)) := by
  obtain ⟨heq, -, hstart, -⟩ := hn.name_eq
  have hdigit : digitNext (n.toList ++ rest) = false := by
    rw [heq, String.toList_ofList]
    refine Bool.eq_false_iff.2 ?_
    intro hdigit
    rw [(classes_of_isDigit hdigit).2] at hstart
    cases hstart
  refine ⟨(stopsAt_cons _ _ _).2 rfl, ?_⟩
  rw [fractionPart, hdigit]
  rfl

/-- An operator between blanks is read back after whatever token. -/
theorem lexes_spaced (o : Operator) {rest : List Char} {us : List TokenKind}
    (h : Lexes (some (.op o)) rest us) (last : Option TokenKind) :
    Lexes last (' ' :: (o.symbol.toList ++ ' ' :: rest)) (.op o :: us) := by
  have htext : ∃ c body, o.symbol.toList = c :: body ∧ Scan.isOperatorChar c = true ∧
      OperatorText c body (.op o) := by
    cases o with
    | eq | ne | le | ge | shl | shr => exact ⟨_, _, rfl, rfl, .pair rfl⟩
    | _ => exact ⟨_, _, rfl, rfl, .single rfl⟩
  obtain ⟨c, body, hsymbol, hc, hop⟩ := htext
  have hgap : Gap (' ' :: rest) := (stopsAt_cons _ _ _).2 rfl
  rw [hsymbol]
  exact .blank rfl (.lexeme (classes_operatorChar hc).1 (.operator hc hop) hgap (.blank rfl h))

/-! ## Phrases -/

/-- Where the tokens have a text, the compact form of the expression is read as them. -/
def PrintsAs (e : Expr) (ts : List TokenKind) : Prop :=
  e.elides = false → (∀ l ∈ e.constants, l.Finite ∧ l.ReadsBack ∧ l.Quotable) →
    ∀ last, Written last ts → ∀ rest us, Breaks rest → (∀ last', Lexes last' rest us) →
      Lexes last (e.text.toList ++ rest) (ts ++ us)

theorem printsAs_literal (l : Literal) : PrintsAs (.literal l) [.literal l] := by
  intro _ hconstants last hwritten rest us hrest hus
  obtain ⟨⟨c, body, hl⟩, -⟩ := hwritten
  obtain ⟨hfinite, hreads, hquotable⟩ := hconstants l (List.mem_singleton_self l)
  exact .literal hl hfinite hreads hquotable hrest (hus _)

theorem printsAs_name (n : String) : PrintsAs (.name n none) [.name n] := by
  intro _ _ last hwritten rest us hrest hus
  obtain ⟨⟨c, body, hn⟩, -⟩ := hwritten
  have htext : (Expr.name n none).text.toList = n.toList := by
    simp [Expr.text, Expr.callText]
  rw [htext]
  exact .name hn hrest (hus _)

theorem PrintsAs.member {e : Expr} {ts : List TokenKind} (he : PrintsAs e ts) (n : String) :
    PrintsAs (.member e n none) (ts ++ [.dot, .name n]) := by
  intro helides hconstants last hwritten rest us hrest hus
  obtain ⟨hts, -, ⟨c, body, hn⟩, -⟩ := hwritten.split
  have hname : ∀ last', Lexes last' ('.' :: (n.toList ++ rest)) (.dot :: .name n :: us) :=
    fun _ => .dot (.name hn hrest (hus _))
  have htext : (Expr.member e n none).text.toList = e.text.toList ++ '.' :: n.toList := by
    simp [Expr.text, Expr.callText]
  rw [htext, List.append_assoc, List.append_assoc]
  exact he (by simpa [Expr.elides] using helides) hconstants last hts _ _ (breaks_dot hn rest) hname

theorem PrintsAs.group {e : Expr} {ts : List TokenKind} (he : PrintsAs e ts) :
    PrintsAs (.group e) (.openParen :: ts ++ [.closeParen]) := by
  intro helides hconstants last hwritten rest us _ hus
  obtain ⟨hts, -, -⟩ := hwritten.2.split
  have hinner := he helides hconstants _ hts (')' :: rest) (.closeParen :: us)
    (breaks_closeParen rest) fun _ => .closeParen (hus _)
  have htext : (Expr.group e).text.toList = '(' :: (e.text.toList ++ [')']) := by
    simp [Expr.text]
  rw [htext]
  simpa using Lexes.openParen hinner

theorem PrintsAs.cast {t e : Expr} {ts us : List TokenKind} (ht : PrintsAs t ts)
    (he : PrintsAs e us) : PrintsAs (.cast t e) (.openParen :: ts ++ .closeParen :: us) := by
  intro helides hconstants last hwritten rest vs hrest hvs
  obtain ⟨helt, hele⟩ := Bool.or_eq_false_iff.1 helides
  obtain ⟨hct, hce⟩ := List.forall_mem_append.1 hconstants
  obtain ⟨hts, -, hus⟩ := hwritten.2.split
  have hoperand := he hele hce _ hus rest vs hrest hvs
  have htype := ht helt hct _ hts (')' :: (e.text.toList ++ rest)) (.closeParen :: (us ++ vs))
    (breaks_closeParen _) fun _ => .closeParen hoperand
  have htext : (Expr.cast t e).text.toList = '(' :: (t.text.toList ++ ')' :: e.text.toList) := by
    simp [Expr.text]
  rw [htext]
  simpa using Lexes.openParen htype

theorem PrintsAs.binary {l r : Expr} {ts us : List TokenKind} (o : Operator) (hl : PrintsAs l ts)
    (hr : PrintsAs r us) : PrintsAs (.binary o l r) (ts ++ .op o :: us) := by
  intro helides hconstants last hwritten rest vs hrest hvs
  obtain ⟨hell, helr⟩ := Bool.or_eq_false_iff.1 helides
  obtain ⟨hcl, hcr⟩ := List.forall_mem_append.1 hconstants
  obtain ⟨hts, -, hus⟩ := hwritten.split
  have hright := hr helr hcr _ hus rest vs hrest hvs
  have hleft := hl hell hcl _ hts _ _ (breaks_blank _) (lexes_spaced o hright)
  have htext : (Expr.binary o l r).text.toList =
      l.text.toList ++ ' ' :: (o.symbol.toList ++ ' ' :: r.text.toList) := by
    simp [Expr.text]
  rw [htext]
  simpa using hleft

/-- What it means for a phrase that its compact form is read as its tokens. -/
def Phrase.PrintsAs : Phrase → List TokenKind → Prop
  | expr e, ts | operand e _, ts => Grammar.PrintsAs e ts
  | _, _ => True

/-- A tree that has tokens is written as them. -/
theorem Derives.printsAs {c : Expr → Prop} {d : Nat} {p : Phrase} {ts : List TokenKind}
    (h : Derives c d p ts) : p.PrintsAs ts := by
  induction h with
  | expr _ _ ih => exact ih
  | binary _ _ _ _ ihl ihr => exact ihl.binary _ ihr
  | assign _ _ _ _ _ _ _ => exact nofun
  | literal => exact printsAs_literal _
  | @name _ n args _ hcall _ =>
      cases args with
      | none =>
          rw [hcall.eq_nil_of_noCall]
          exact printsAs_name n
      | some as => exact nofun
  | group _ ih => exact ih.group
  | cast _ _ iht ihe => exact iht.cast ihe
  | new _ _ _ _ => exact nofun
  | @member _ _ e n args _ _ _ _ _ hcall ih _ =>
      cases args with
      | none =>
          rw [hcall.eq_nil_of_noCall]
          exact ih.member n
      | some as =>
          intro helides
          simp [Expr.elides] at helides
  | _ => exact trivial

end Grammar

/-! ## Lines -/

open Grammar

/-- The expression of a line has tokens that derive it and that have a text where they stand. -/
theorem exists_written {source : String} {l : Line} {e : Expr} (h : Parser.parse source = .ok l)
    (he : l.expr = some e) : ∃ ts, Derives Open 1 (.expr e) ts ∧ Written none ts := by
  simp only [Parser.parse] at h
  split at h
  · cases h
  · rename_i ts hts
    have hwritten := written_of_scans (scans_of_tokensFrom hts)
    have hline := line_sound h
    generalize kinds ts = ks at hwritten hline
    cases hline with
    | empty => cases he
    | members => cases he
    | value hderives =>
        obtain rfl := Option.some.inj he
        exact ⟨_, hderives, hwritten⟩
    | valueMembers hderives =>
        obtain rfl := Option.some.inj he
        exact ⟨_, hderives, hwritten.split.1⟩

/-- The compact form of an expression that a line was read as is read as that expression, if nothing
is left out of it.  Of its numbers of a binary format it is assumed that they are finite and that
their decimal text denotes them, and of its texts that they are quoted with escapes that are read. -/
theorem parse_text {source : String} {l : Line} {e : Expr} (h : Parser.parse source = .ok l)
    (he : l.expr = some e) (helides : e.elides = false) (hfinite : ∀ k ∈ e.constants, k.Finite)
    (hreads : ∀ k ∈ e.constants, k.ReadsBack) (hquotable : ∀ k ∈ e.constants, k.Quotable) :
    Parser.parse e.text = .ok ⟨some e, false⟩ := by
  obtain ⟨ts, hderives, hwritten⟩ := exists_written h he
  have hlexes := hderives.printsAs helides
    (fun k hk => ⟨hfinite k hk, hreads k hk, hquotable k hk⟩) none hwritten [] [] breaks_nil
    fun last => .nil last
  rw [List.append_nil, List.append_nil] at hlexes
  exact parse_of_lexes hlexes (.value hderives)

/-- A cast of one and a half. -/
def castOfHalf : Expr := .cast (.name "T" none) (.literal (.float (Float32.ofBits 0x3fc00000)))

theorem parse_castOfHalf : Parser.parse "( T ) 1.50F" = .ok ⟨some castOfHalf, false⟩ := by
  have hvalue : numberValue? "1.50".toList (suffix? ['F']) =
      some (.float (Float32.ofBits 0x3fc00000)) := by
    have hread : Reading.single? "1.50".toList = some (Float32.ofBits 0x3fc00000) := by
      decide +kernel
    have hletter : suffix? ['F'] = some .single := rfl
    rw [hletter, numberValue?, hread]
    rfl
  have hparts : Numeral [] ".50".toList ['F'] :=
    ⟨List.forall_mem_nil _, .inr ⟨'5', ['0'], rfl, List.all_eq_true.1 rfl⟩, .inr ⟨'F', rfl, rfl⟩,
      fun h => absurd h (List.cons_ne_nil _ _)⟩
  have hnumber : Lexes (some .closeParen) "1.50F".toList
      [.literal (.float (Float32.ofBits 0x3fc00000))] :=
    .numeral rfl hparts hvalue breaks_nil (.nil _)
  have hname : Lexes (some .openParen) ('T' :: ([] ++ " ) 1.50F".toList))
      [.name "T", .closeParen, .literal (.float (Float32.ofBits 0x3fc00000))] :=
    .keyword rfl rfl (List.forall_mem_nil _) (breaks_blank _) (.blank rfl (.closeParen (.blank rfl hnumber)))
  have hlexes : Lexes none "( T ) 1.50F".toList (.openParen :: [.name "T"] ++ .closeParen ::
      [.literal (.float (Float32.ofBits 0x3fc00000))]) := .openParen (.blank rfl hname)
  have hdepth : 2 ≤ Parser.maxDepth := by decide
  exact parse_of_lexes hlexes (.value (.expr (by decide)
    (.cast (.expr hdepth (.name .noCall)) (.expr hdepth .literal))))

/-- The theorem at a cast of a number that is not written in its shortest form. -/
theorem parse_text_castOfHalf : Parser.parse "( T ) 1.50F" = .ok ⟨some castOfHalf, false⟩ ∧
    castOfHalf.text = "(T)1.5f" ∧ Parser.parse "(T)1.5f" = .ok ⟨some castOfHalf, false⟩ := by
  have htext : castOfHalf.text = "(T)1.5f" := by decide +kernel
  have hfinite : Float32.magnitude (Float32.ofBits 0x3fc00000) =
      .finite false 0xc00000 (-23) := by decide +kernel
  have hreads : Reading.single? (Shortest.single (Float32.ofBits 0x3fc00000)).toList =
      some (Float32.ofBits 0x3fc00000) := by decide +kernel
  have hprinted := parse_text parse_castOfHalf rfl rfl
    (List.forall_mem_singleton.2 ⟨_, _, _, hfinite⟩) (List.forall_mem_singleton.2 hreads)
    (List.forall_mem_singleton.2 trivial)
  rw [htext] at hprinted
  exact ⟨parse_castOfHalf, htext, hprinted⟩

end DevConsole
