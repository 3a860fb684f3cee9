/-
# `DevConsole.Proofs.Completion.Chain` — the chain before a word is the one that is written there

Completion works on lines that are not finished, and so it does not parse.  It looks back from the
cursor, over the word, over the dot before it, and over whatever may belong to the chain before the
dot:

    inside parentheses     everything
    outside                names and dots

For a chain of names with argument lists whose parentheses match (`Scan.MemberChain`), behind
nothing or a character that an operand may follow, this finds the chain, no more and no less
(`site_of_memberChain`).
-/
import DevConsole.Completion.Engine
import DevConsole.Proofs.Completion.LongestChain
import DevConsole.Proofs.Lexing.LookAhead

namespace DevConsole

namespace Scan

/-! ## Characters -/

theorem isWordBreak_of_isNameChar {c : Char} (h : isNameChar c = true) : isWordBreak c = false := by
  have hedge := Lexer.isEdge_of_isNameChar h
  have hother : isDelimiter c = false ∧ (c == '"') = false := by
    have hbreaks : (['=', '!', '<', '>', '+', '-', '*', '/', '&', '|', '^', '%', '.', '(', ')', ',',
        '"'].all (!isNameChar ·)) = true := by
      decide +kernel
    have hne : ∀ d ∈ ['=', '!', '<', '>', '+', '-', '*', '/', '&', '|', '^', '%', '.', '(', ')', ',',
        '"'], c ≠ d := by
      rintro d hd rfl
      have hbreak := List.all_eq_true.1 hbreaks c hd
      rw [h] at hbreak
      cases hbreak
    simpa [isDelimiter, isOperatorChar, and_assoc] using hne
  rw [Lexer.isEdge, Bool.or_eq_false_iff] at hedge
  rw [isWordBreak, hother.1, hedge.1, hedge.2, hother.2]
  rfl

/-! ## Chains -/

/-- Every parenthesis has a partner. -/
inductive Balanced : List Char → Prop
  | nil : Balanced []
  | other {c : Char} {cs : List Char} (hopen : c ≠ '(') (hclose : c ≠ ')') :
    Balanced cs → Balanced (c :: cs)
  | parens {xs ys : List Char} : Balanced xs → Balanced ys → Balanced ('(' :: (xs ++ ')' :: ys))

/-- A name, with an argument list or without. -/
inductive Link : List Char → Prop
  | name {n : List Char} (hname : isName n = true) : Link n
  | call {n args : List Char} (hname : isName n = true) (hargs : Balanced args) :
    Link (n ++ '(' :: (args ++ [')']))

/-- Links with dots between them. -/
inductive MemberChain : List Char → Prop
  | link {cs : List Char} : Link cs → MemberChain cs
  | member {cs link : List Char} : MemberChain cs → Link link → MemberChain (cs ++ '.' :: link)

/-- A text behind which an operand may start: it is empty, or ends with an operator, an opening
parenthesis, a comma or a blank. -/
def AwaitsOperand (cs : List Char) : Prop :=
  ∀ c ∈ cs.getLast?, (isOperatorChar c || c == '(' || c == ',' || Text.isBlank c) = true

theorem isNameChar_of_isNameStart {c : Char} (h : isNameStart c = true) : isNameChar c = true := by
  rcases Bool.or_eq_true_iff.1 h with halpha | hunder
  · rw [isNameChar, Text.isAlphanumeric_of_isAlphabetic halpha, Bool.true_or]
  · rw [isNameChar, hunder, Bool.or_true]

theorem isNameChar_of_isName {n : List Char} (h : isName n = true) :
    ∀ c ∈ n, isNameChar c = true := by
  cases n with
  | nil => cases h
  | cons c r =>
    obtain ⟨hc, hr⟩ := Bool.and_eq_true_iff.1 h
    exact List.forall_mem_cons.2 ⟨isNameChar_of_isNameStart hc, List.all_eq_true.1 hr⟩

/-! ## Looking back -/

/-- Inside parentheses, a balanced text belongs to the chain. -/
theorem chainLength_balanced {cs : List Char} (h : Balanced cs) (depth : Nat) (rest : List Char) :
    chainLength (depth + 1) (cs.reverse ++ rest) = cs.length + chainLength (depth + 1) rest := by
  induction h generalizing depth rest with
  | nil => rw [List.reverse_nil, List.nil_append, List.length_nil, Nat.zero_add]
  | @other c cs hopen hclose _ ih =>
    have hc : chainLength (depth + 1) (c :: rest) = chainLength (depth + 1) rest + 1 := by
      simp [chainLength, hopen, hclose]
    rw [List.reverse_cons, List.append_assoc, List.singleton_append, ih, hc, List.length_cons]
    omega
  | @parens xs ys _ _ hxs hys =>
    have hline : ('(' :: (xs ++ ')' :: ys)).reverse ++ rest =
        ys.reverse ++ ')' :: (xs.reverse ++ '(' :: rest) := by
      simp
    have hclose (r : List Char) :
        chainLength (depth + 1) (')' :: r) = chainLength (depth + 2) r + 1 := by
      simp [chainLength]
    have hopen : chainLength (depth + 2) ('(' :: rest) = chainLength (depth + 1) rest + 1 := by
      simp [chainLength]
    rw [hline, hys, hclose, hxs, hopen, List.length_cons, List.length_append, List.length_cons]
    omega

theorem chainLength_isNameChar {cs : List Char} (h : ∀ c ∈ cs, isNameChar c = true)
    (rest : List Char) : chainLength 0 (cs.reverse ++ rest) = cs.length + chainLength 0 rest := by
  induction cs generalizing rest with
  | nil => rw [List.reverse_nil, List.nil_append, List.length_nil, Nat.zero_add]
  | cons c cs ih =>
    obtain ⟨hc, hcs⟩ := List.forall_mem_cons.1 h
    have hstep : chainLength 0 (c :: rest) = chainLength 0 rest + 1 := by
      have hbreak := isWordBreak_of_isNameChar hc
      simp only [isWordBreak, isDelimiter, List.contains_cons, Bool.or_eq_false_iff,
        beq_eq_false_iff_ne] at hbreak
      simp [chainLength, endsChain, isDelimiter, hbreak]
    rw [List.reverse_cons, List.append_assoc, List.singleton_append, ih hcs, hstep,
      List.length_cons]
    omega

theorem Link.chainLength {cs : List Char} (h : Link cs) (rest : List Char) :
    chainLength 0 (cs.reverse ++ rest) = cs.length + chainLength 0 rest := by
  cases h with
  | name hname => exact chainLength_isNameChar (isNameChar_of_isName hname) rest
  | @call n args hname hargs =>
    have hline : (n ++ '(' :: (args ++ [')'])).reverse ++ rest =
        ')' :: (args.reverse ++ '(' :: (n.reverse ++ rest)) := by
      simp
    have hclose (r : List Char) : Scan.chainLength 0 (')' :: r) = Scan.chainLength 1 r + 1 := by
      simp [Scan.chainLength]
    have hopen (r : List Char) : Scan.chainLength 1 ('(' :: r) = Scan.chainLength 0 r + 1 := by
      simp [Scan.chainLength]
    rw [hline, hclose, chainLength_balanced hargs 0, hopen,
      chainLength_isNameChar (isNameChar_of_isName hname), List.length_append, List.length_cons,
      List.length_append, List.length_singleton]
    omega

theorem MemberChain.chainLength {cs : List Char} (h : MemberChain cs) (rest : List Char) :
    chainLength 0 (cs.reverse ++ rest) = cs.length + chainLength 0 rest := by
  induction h generalizing rest with
  | link hlink => exact hlink.chainLength rest
  | @member cs link _ hlink ih =>
    have hline : (cs ++ '.' :: link).reverse ++ rest =
        link.reverse ++ '.' :: (cs.reverse ++ rest) := by
      simp
    have hdot (r : List Char) : Scan.chainLength 0 ('.' :: r) = Scan.chainLength 0 r + 1 := by
      simp [Scan.chainLength]
    rw [hline, hlink.chainLength, hdot, ih, List.length_append, List.length_cons]
    omega

/-- A chain does not reach back beyond a place where an operand may start. -/
theorem chainLength_awaitsOperand {cs : List Char} (h : AwaitsOperand cs) :
    chainLength 0 cs.reverse = 0 := by
  rw [AwaitsOperand, ← List.head?_reverse] at h
  cases hcs : cs.reverse with
  | nil => rfl
  | cons c r =>
    rw [hcs] at h
    have hc := h c rfl
    simp only [Bool.or_eq_true_iff, beq_iff_eq] at hc
    refine chainLength_of_ends ⟨rfl, ?_⟩
    rcases hc with ((hoperator | hopen) | hcomma) | hblank
    · exact .inr (.inl hoperator)
    · exact .inl hopen
    · exact .inr (.inr (.inl hcomma))
    · exact .inr (.inr (.inr (.inl hblank)))

/-- Looking back from the dot behind a chain, the chain is found. -/
theorem chainStart_eq {operand chain : List Char} (hoperand : AwaitsOperand operand)
    (hchain : MemberChain chain) (rest : List Char) :
    chainStart (operand ++ (chain ++ rest)) (operand.length + chain.length) = operand.length := by
  have htake : (operand ++ (chain ++ rest)).take (operand.length + chain.length) =
      operand ++ chain := by
    rw [← List.append_assoc, ← List.length_append, List.take_left]
  rw [chainStart, htake, List.reverse_append, hchain.chainLength,
    chainLength_awaitsOperand hoperand, List.length_append]
  omega

/-! ## The ends of a chain -/

theorem not_isBlank_of_isNameChar {c : Char} (h : isNameChar c = true) : Text.isBlank c = false :=
  Bool.eq_false_iff.2 fun hblank => by rw [Text.isNameChar_of_isBlank hblank] at h; cases h

theorem exists_of_isName {n : List Char} (h : isName n = true) :
    ∃ c r, n = c :: r ∧ isNameChar c = true := by
  cases n with
  | nil => cases h
  | cons c r => exact ⟨c, r, rfl, isNameChar_of_isName h c List.mem_cons_self⟩

/-- A chain starts with a character of a name. -/
theorem MemberChain.exists_head {cs : List Char} (h : MemberChain cs) :
    ∃ c r, cs = c :: r ∧ isNameChar c = true := by
  have hlink {link : List Char} (h : Link link) : ∃ c r, link = c :: r ∧ isNameChar c = true := by
    cases h with
    | name hname => exact exists_of_isName hname
    | @call n args hname _ =>
      obtain ⟨c, r, rfl, hc⟩ := exists_of_isName hname
      exact ⟨c, r ++ '(' :: (args ++ [')']), rfl, hc⟩
  induction h with
  | link h => exact hlink h
  | @member cs link _ _ ih =>
    obtain ⟨c, r, rfl, hc⟩ := ih
    exact ⟨c, r ++ '.' :: link, rfl, hc⟩

/-- A chain ends with a character of a name, or with a closing parenthesis. -/
theorem MemberChain.getLast {cs : List Char} (h : MemberChain cs) :
    ∀ c ∈ cs.getLast?, isNameChar c = true ∨ c = ')' := by
  have hlink {link : List Char} (h : Link link) :
      link ≠ [] ∧ ∀ c ∈ link.getLast?, isNameChar c = true ∨ c = ')' := by
    cases h with
    | name hname =>
      obtain ⟨c, r, rfl, -⟩ := exists_of_isName hname
      exact ⟨List.cons_ne_nil _ _, fun d hd =>
        .inl (isNameChar_of_isName hname d (List.mem_of_getLast? hd))⟩
    | @call n args =>
      refine ⟨by simp, fun d hd => .inr ?_⟩
      have hline : n ++ '(' :: (args ++ [')']) = (n ++ '(' :: args) ++ [')'] := by simp
      rw [hline, List.getLast?_concat] at hd
      exact (Option.some.inj hd).symm
  cases h with
  | link h => exact (hlink h).2
  | @member cs link _ h =>
    obtain ⟨hne, hlast⟩ := hlink h
    obtain ⟨d, hd⟩ := Option.isSome_iff_exists.1 (List.getLast?_isSome.2 hne)
    rw [List.append_cons, List.getLast?_append, hd, Option.some_or, ← hd]
    exact hlast

theorem MemberChain.trim {cs : List Char} (h : MemberChain cs) : Text.trim cs = cs := by
  refine Text.trim_of_ends ?_ fun c hc => ?_
  · obtain ⟨c, r, rfl, hc⟩ := h.exists_head
    rintro d ⟨⟩
    exact not_isBlank_of_isNameChar hc
  · rcases h.getLast c hc with hname | rfl
    · exact not_isBlank_of_isNameChar hname
    · rfl

/-! ## The word -/

section Word

variable {before word after : List Char} {n : Nat}

/-- From a cursor within a word or at one of its ends, a word reaches back to the character before
it that ends one. -/
theorem wordStart_append (hword : ∀ c ∈ word, isWordBreak c = false)
    (hbefore : ∀ b ∈ before.getLast?, isWordBreak b = true) (hn : n ≤ word.length) :
    wordStart (before ++ (word ++ after)) (before.length + n) = before.length := by
  have htake : (before ++ (word ++ after)).take (before.length + n) = before ++ word.take n := by
    rw [List.take_length_add_append, List.take_append_of_le_length hn]
  have hrun : ((before ++ word.take n).reverse.takeWhile (!isWordBreak ·)) =
      (word.take n).reverse := by
    rw [List.reverse_append]
    refine Lexer.takeWhile_run ?_ ?_
    · intro c hc
      rw [hword c (List.mem_of_mem_take (List.mem_reverse.1 hc))]
      rfl
    · intro c hc
      rw [List.head?_reverse] at hc
      exact congrArg Bool.not (hbefore c hc)
  rw [wordStart, htake, hrun, List.length_append, List.length_reverse]
  exact Nat.add_sub_cancel _ _

/-- It goes on to the character behind it that ends one. -/
theorem wordEnd_append (hword : ∀ c ∈ word, isWordBreak c = false)
    (hafter : ∀ c ∈ after.head?, isWordBreak c = true) (hn : n ≤ word.length) :
    wordEnd (before ++ (word ++ after)) (before.length + n) = before.length + word.length := by
  have hdrop : (before ++ (word ++ after)).drop (before.length + n) = word.drop n ++ after := by
    rw [List.drop_length_add_append, List.drop_append_of_le_length hn]
  have hrun : ((word.drop n ++ after).takeWhile (!isWordBreak ·)) = word.drop n := by
    refine Lexer.takeWhile_run ?_ ?_
    · intro c hc
      rw [hword c (List.mem_of_mem_drop hc)]
      rfl
    · intro c hc
      exact congrArg Bool.not (hafter c hc)
  rw [wordEnd, hdrop, hrun, List.length_drop]
  simp only [List.length_append]
  omega

/-- Behind a dot, a word reaches back to the dot. -/
theorem wordStart_eq (hword : ∀ c ∈ word, isNameChar c = true) (before : List Char) :
    wordStart (before ++ '.' :: word) (before ++ '.' :: word).length = before.length + 1 := by
  have hline : before ++ '.' :: word = (before ++ ['.']) ++ word := by simp
  have hbreaks : ∀ b ∈ (before ++ ['.']).getLast?, isWordBreak b = true := by
    rw [List.getLast?_concat]
    rintro _ ⟨⟩
    rfl
  have hstart : wordStart ((before ++ ['.']) ++ (word ++ []))
      ((before ++ ['.']).length + word.length) = (before ++ ['.']).length :=
    wordStart_append (fun c hc => isWordBreak_of_isNameChar (hword c hc)) hbreaks (Nat.le_refl _)
  rw [List.append_nil] at hstart
  rw [hline, List.length_append, hstart, List.length_append, List.length_singleton]

end Word

theorem wordEnd_length (cs : List Char) : wordEnd cs cs.length = cs.length := by
  rw [wordEnd, List.drop_length, Nat.min_self]
  rfl

end Scan

/-! ## The question -/

namespace Completion

theorem length_normalize (placeholder : Char) (start : Option Nat) (cs : List Char) :
    (normalize placeholder start cs).length = cs.length := by
  unfold normalize
  split
  · rw [List.length_append, List.length_map, ← List.length_append, List.take_append_drop]
  · rfl

/-- A line without placeholders is read as it is. -/
theorem normalize_of_not_mem {placeholder : Char} {cs : List Char} (h : placeholder ∉ cs)
    (lead : List Char) : normalize placeholder (some lead.length) (lead ++ cs) = lead ++ cs := by
  have hsame : ∀ c ∈ cs, (if c = placeholder then ' ' else c) = c := by
    intro c hc
    rw [if_neg]
    rintro rfl
    exact h hc
  rw [normalize, List.take_left, List.drop_left, List.map_congr_left hsame, List.map_id']

theorem expressionStart?_append {lead : List Char} (h : lead ≠ []) (cs : List Char) :
    expressionStart? lead (lead ++ cs) = some lead.length := by
  have hlead : (!lead.isEmpty) = true := by simp [h]
  rw [expressionStart?, List.take_left, Text.equalIgnoringAsciiCase, beq_self_eq_true,
    Bool.and_true, if_pos hlead]

variable {operand chain word : List Char}

/-- Behind a chain and a dot, the members of the chain are asked for. -/
theorem memberQuestion_eq (hoperand : Scan.AwaitsOperand operand) (hchain : Scan.MemberChain chain)
    (word : List Char) :
    memberQuestion (operand ++ (chain ++ '.' :: word)) (operand.length + chain.length + 1) =
      .members chain := by
  have hline : operand ++ (chain ++ '.' :: word) = (operand ++ chain ++ ['.']) ++ word := by simp
  have hlength : operand.length + chain.length + 1 = (operand ++ chain ++ ['.']).length := by
    simp [Nat.add_assoc]
  have hblank : Text.isBlank '.' = false := by decide +kernel
  have htake : (operand ++ (chain ++ '.' :: word)).take (operand.length + chain.length + 1) =
      operand ++ chain ++ ['.'] := by
    rw [hline, hlength, List.take_left]
  have hdot : Scan.precedingChar? (operand ++ (chain ++ '.' :: word))
      (operand.length + chain.length + 1) = some '.' := by
    rw [Scan.precedingChar?, htake, List.reverse_append]
    exact List.find?_cons_of_pos (by rw [hblank]; rfl)
  have hlast : ∀ c ∈ (operand ++ chain ++ ['.']).getLast?, Text.isBlank c = false := by
    rw [List.getLast?_concat]
    rintro c ⟨⟩
    exact hblank
  have hfound : chainBefore (operand ++ (chain ++ '.' :: word))
      (operand.length + chain.length + 1) = chain := by
    rw [chainBefore, htake, Text.trimEnd_of_getLast hlast, ← hlength, Nat.add_sub_cancel,
      Scan.chainStart_eq hoperand hchain, ← List.append_assoc, ← List.length_append, List.take_left,
      List.drop_left, hchain.trim]
  rw [memberQuestion, hdot]
  simp only
  rw [if_pos trivial, hfound]

/-- The line ends with a chain, a dot and a word, and the cursor is at its end: the word is
completed to a member of the chain. -/
theorem Engine.site_of_memberChain {e : Engine} (hlead : e.expressionLead.toList ≠ [])
    (hoperand : Scan.AwaitsOperand operand) (hchain : Scan.MemberChain chain)
    (hword : ∀ c ∈ word, Scan.isNameChar c = true)
    (hfree : e.placeholder ∉ operand ++ (chain ++ '.' :: word)) :
    e.site (e.expressionLead.toList ++ (operand ++ (chain ++ '.' :: word))) 0 =
      { before := e.expressionLead.toList ++ (operand ++ (chain ++ ['.']))
        lead := e.expressionLead.toList ++ (operand ++ (chain ++ '.' :: word))
        suffix := []
        tail := []
        question := .members chain } := by
  generalize hline : e.expressionLead.toList ++ (operand ++ (chain ++ '.' :: word)) = line
  have hnormal : normalize e.placeholder (some e.expressionLead.toList.length) line = line := by
    rw [← hline, normalize_of_not_mem hfree]
  have hstart : Scan.wordStart line line.length =
      e.expressionLead.toList.length + (operand.length + chain.length + 1) := by
    have hcut : line = (e.expressionLead.toList ++ (operand ++ chain)) ++ '.' :: word := by
      rw [← hline]
      simp
    rw [hcut, Scan.wordStart_eq hword, List.length_append, List.length_append]
    omega
  have hbefore : line.take
      (e.expressionLead.toList.length + (operand.length + chain.length + 1)) =
        e.expressionLead.toList ++ (operand ++ (chain ++ ['.'])) := by
    have hcut : line = (e.expressionLead.toList ++ (operand ++ (chain ++ ['.']))) ++ word := by
      rw [← hline]
      simp
    rw [hcut, List.take_left']
    simp
    omega
  have hexpression : line.drop e.expressionLead.toList.length =
      operand ++ (chain ++ '.' :: word) := by
    rw [← hline, List.drop_left]
  have hexprStart : expressionStart? e.expressionLead.toList line =
      some e.expressionLead.toList.length := by
    rw [← hline, expressionStart?_append hlead]
  rw [site]
  simp only [Nat.sub_zero, hexprStart, hnormal, hstart, Scan.wordEnd_length, hbefore,
    List.take_length, List.drop_length, hexpression, Nat.add_sub_cancel_left,
    memberQuestion_eq hoperand hchain, if_pos, Nat.le_add_right]

end Completion

end DevConsole
