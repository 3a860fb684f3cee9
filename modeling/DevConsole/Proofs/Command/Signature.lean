/-
# `DevConsole.Proofs.Command.Signature` — a signature and the usage shown for it

A signature is some words, one for each parameter, and each word is one of

    name:kind
    name:kind=default

The pieces are told apart by the first colon and by the first equals sign behind it.  That leaves no
choice: a name has no colon in it, what names a kind has no equals sign, and the default may have
both, since it is the rest.  `ParamSpec.Spelled kindName word p` says that the word is put together
like this, with `kindName` for the kind of `p`; reading a word finds the parameter that it spells
(`parse_eq_ok_iff`), and reading a signature those of its words, which must have different names
(`parseSignature_eq_ok_iff`).

A usage shows the parameters again, in brackets.  Without the brackets these are words that spell
them, now with the main name of the kind, and so they read as what they were made from.
-/
import DevConsole.Command.Param
import DevConsole.Proofs.Command.Report
import DevConsole.Proofs.Completion.Chain
import DevConsole.Proofs.Input.Script
import DevConsole.Proofs.Output.LineBreaks
import Mathlib.Data.List.Forall2

namespace DevConsole

namespace Text

theorem splitOnce_eq_none_iff {x : Char} {cs : List Char} : splitOnce x cs = none ↔ x ∉ cs := by
  induction cs with
  | nil => simp [splitOnce]
  | cons c cs ih =>
    rw [splitOnce]
    split
    · rename_i hc
      simp [hc]
    · rename_i hc
      simp [ih, Ne.symm hc]

/-- Words are found again in the text of them with a space between neighbours. -/
theorem words_joinWith {ws : List (List Char)} (hws : ∀ w ∈ ws, IsWord w) :
    words (joinWith [' '] ws) = ws := by
  by_cases hnil : ws = []
  · rw [hnil]
    rfl
  · rw [words, splitBy_joinWith isBlank_space hnil fun w hw => (hws w hw).not_isBlank]
    refine List.filter_eq_self.2 fun w hw => ?_
    simpa using (hws w hw).ne_nil

theorem isWord_of_mem_words {cs w : List Char} (h : w ∈ words cs) : IsWord w :=
  ⟨ne_nil_of_mem_words h, not_isBlank_of_mem_words h⟩

end Text

namespace ArgKind

theorem equals_not_mem_text (k : ArgKind) : '=' ∉ k.text.toList := by
  cases k <;> decide

theorem not_isBlank_of_mem_text (k : ArgKind) :
    ∀ c ∈ k.text.toList, Text.isBlank c = false := by
  have hall : k.text.toList.all (!Text.isBlank ·) = true := by cases k <;> rfl
  simpa using hall

end ArgKind

namespace ParamSpec

/-! ## Words -/

/-- The default as it stands in a word, behind an equals sign. -/
def defaultPart : Option String → List Char
  | none => []
  | some text => '=' :: text.toList

/-- The word spells the parameter, with `kindName` for its kind. -/
structure Spelled (kindName word : List Char) (p : ParamSpec) : Prop where
  isName : Scan.isName p.name.toList = true
  kind_eq : ArgKind.ofName? (.ofList kindName) = some p.kind
  equals_not_mem : '=' ∉ kindName
  default_read : ∀ d ∈ p.default, p.kind.read? d.1 = some d.2
  word_eq : word = p.name.toList ++ ':' :: (kindName ++ defaultPart (p.default.map Prod.fst))

theorem splitDefault_append {kindName : List Char} (h : '=' ∉ kindName) (text : Option String) :
    splitDefault (kindName ++ defaultPart text) = (.ofList kindName, text) := by
  unfold splitDefault
  cases text with
  | none => rw [defaultPart, List.append_nil, Text.splitOnce_eq_none_iff.2 h]
  | some text =>
    rw [defaultPart, Text.splitOnce_eq_some_iff.2 ⟨h, rfl⟩]
    simp only [String.ofList_toList]

/-- Whatever follows the colon can be cut into a name and a default. -/
theorem exists_eq_append_defaultPart (rest : List Char) :
    ∃ kindName text, '=' ∉ kindName ∧ rest = kindName ++ defaultPart text := by
  cases hsplit : Text.splitOnce '=' rest with
  | none =>
    exact ⟨rest, none, Text.splitOnce_eq_none_iff.1 hsplit, (List.append_nil rest).symm⟩
  | some cut =>
    obtain ⟨hkind, hrest⟩ := Text.splitOnce_eq_some_iff.1 hsplit
    refine ⟨cut.1, some (.ofList cut.2), hkind, ?_⟩
    rw [hrest, defaultPart, String.toList_ofList]

theorem default?_eq_ok_iff {kind : ArgKind} {text : Option String} {d : Option (String × Value)} :
    default? kind text = .ok d ↔
      d.map Prod.fst = text ∧ ∀ x ∈ d, kind.read? x.1 = some x.2 := by
  unfold default?
  constructor
  · intro h
    split at h
    · cases h
      exact ⟨rfl, nofun⟩
    · split at h
      · rename_i v hv
        cases h
        exact ⟨rfl, fun x hx => Option.mem_some.1 hx ▸ hv⟩
      · cases h
  · rintro ⟨rfl, hread⟩
    cases d with
    | none => rfl
    | some x => simp [hread x rfl]

/-- A word is read as the parameter that it spells. -/
theorem parse_eq_ok_iff {word : List Char} {p : ParamSpec} :
    parse word = .ok p ↔ ∃ kindName, Spelled kindName word p := by
  constructor
  · intro h
    simp only [parse] at h
    split at h
    · cases h
    rename_i name rest hcolon
    obtain ⟨-, rfl⟩ := Text.splitOnce_eq_some_iff.1 hcolon
    split at h
    · rename_i hname
      obtain ⟨kindName, text, hequals, rfl⟩ := exists_eq_append_defaultPart rest
      rw [splitDefault_append hequals] at h
      split at h
      · cases h
      rename_i kind hkind
      split at h
      · cases h
      rename_i d hd
      cases h
      obtain ⟨rfl, hread⟩ := default?_eq_ok_iff.1 hd
      refine ⟨kindName, ?_, hkind, hequals, hread, ?_⟩
      · rwa [String.toList_ofList]
      · rw [String.toList_ofList]
    · cases h
  · rintro ⟨kindName, hname, hkind, hequals, hread, rfl⟩
    have hcolon : ':' ∉ p.name.toList := fun hmem =>
      absurd (Scan.isNameChar_of_isName hname ':' hmem) (by decide)
    simp only [parse]
    rw [Text.splitOnce_eq_some_iff.2 ⟨hcolon, rfl⟩]
    simp only [hname, if_true, splitDefault_append hequals, hkind,
      default?_eq_ok_iff.2 ⟨rfl, hread⟩, String.ofList_toList]

/-! ## Signatures -/

theorem parseAll_eq_ok_iff {ws : List (List Char)} {ps : List ParamSpec} :
    parseAll ws = .ok ps ↔ List.Forall₂ (fun w p => parse w = .ok p) ws ps := by
  induction ws generalizing ps with
  | nil =>
    rw [parseAll, List.forall₂_nil_left_iff, Except.ok.injEq, eq_comm]
  | cons w ws ih =>
    simp only [parseAll, List.forall₂_cons_left_iff, ← ih]
    cases parse w with
    | error e => simp
    | ok p => cases parseAll ws <;> simp [eq_comm]

/-- There is no repeated name if all names are different, from each other and from those seen. -/
theorem duplicate?_eq_none_iff {seen : List String} {ps : List ParamSpec} :
    duplicate? seen ps = none ↔ (ps.map name).Nodup ∧ ∀ p ∈ ps, p.name ∉ seen := by
  induction ps generalizing seen with
  | nil => simp [duplicate?]
  | cons p ps ih =>
    rw [duplicate?]
    split
    · rename_i hseen
      simp [hseen]
    · rename_i hseen
      rw [ih, List.map_cons, List.nodup_cons, List.forall_mem_cons]
      simp only [List.mem_cons, not_or, List.mem_map, not_exists, not_and]
      constructor
      · rintro ⟨hnodup, hps⟩
        exact ⟨⟨fun q hq => (hps q hq).1, hnodup⟩, hseen, fun q hq => (hps q hq).2⟩
      · rintro ⟨⟨hne, hnodup⟩, -, hps⟩
        exact ⟨hnodup, fun q hq => ⟨hne q hq, hps q hq⟩⟩

/-- A signature is read as the parameters that its words spell, if their names are different. -/
theorem parseSignature_eq_ok_iff {signature : String} {ps : List ParamSpec} :
    parseSignature signature = .ok ps ↔
      List.Forall₂ (fun w p => ∃ kindName, Spelled kindName w p) (Text.words signature.toList) ps ∧
        (ps.map name).Nodup := by
  simp only [← parse_eq_ok_iff, ← parseAll_eq_ok_iff]
  unfold parseSignature
  cases parseAll (Text.words signature.toList) with
  | error e => simp
  | ok ps' =>
    simp only [Except.ok.injEq]
    cases hdup : duplicate? [] ps' with
    | none =>
      have hnodup := (duplicate?_eq_none_iff.1 hdup).1
      simp only [Except.ok.injEq]
      constructor
      · rintro rfl
        exact ⟨rfl, hnodup⟩
      · exact fun h => h.1
    | some name =>
      simp only [reduceCtorEq, false_iff]
      rintro ⟨rfl, hnodup⟩
      have hnone := duplicate?_eq_none_iff.2 ⟨hnodup, fun p _ => List.not_mem_nil⟩
      rw [hdup] at hnone
      cases hnone

/-- Each declared parameter is spelled by a word of the signature. -/
theorem exists_spelled_of_mem {signature : String} {ps : List ParamSpec}
    (h : parseSignature signature = .ok ps) {p : ParamSpec} (hp : p ∈ ps) :
    ∃ kindName word, Text.IsWord word ∧ Spelled kindName word p := by
  have hspelled := (parseSignature_eq_ok_iff.1 h).1
  have hwords : ∀ w ∈ Text.words signature.toList, Text.IsWord w :=
    fun w hw => Text.isWord_of_mem_words hw
  clear h
  generalize Text.words signature.toList = words at hspelled hwords
  induction hspelled with
  | nil => cases hp
  | @cons w q ws ps hq _ ih =>
    obtain ⟨hw, hwords⟩ := List.forall_mem_cons.1 hwords
    rcases List.mem_cons.1 hp with rfl | hp
    · obtain ⟨kindName, hq⟩ := hq
      exact ⟨kindName, w, hw, hq⟩
    · exact ih hp hwords

/-! ## Usages -/

/-- A text without its first and last character. -/
def unbracketed (text : String) : String := .ofList text.toList.tail.dropLast

theorem unbracketed_text (p : ParamSpec) : unbracketed p.text = p.word := by
  have hbrackets : p.text.toList = '[' :: (p.word.toList ++ [']']) := by
    rw [text, String.toList_append, String.toList_append]
    rfl
  rw [unbracketed, hbrackets, List.tail_cons, List.dropLast_concat, String.ofList_toList]

theorem toList_word (p : ParamSpec) :
    p.word.toList =
      p.name.toList ++ ':' :: (p.kind.text.toList ++ defaultPart (p.default.map Prod.fst)) := by
  rw [word]
  cases p.default <;> simp [defaultPart]

/-- What a word spells is also spelled with the main name of the kind. -/
theorem Spelled.word {kindName word : List Char} {p : ParamSpec} (h : Spelled kindName word p) :
    Spelled p.kind.text.toList p.word.toList p where
  isName := h.isName
  kind_eq := by
    rw [String.ofList_toList]
    exact p.kind.ofName?_text
  equals_not_mem := p.kind.equals_not_mem_text
  default_read := h.default_read
  word_eq := p.toList_word

/-- No blank comes in with the main name of the kind. -/
theorem Spelled.isWord {kindName word : List Char} {p : ParamSpec} (h : Spelled kindName word p)
    (hword : Text.IsWord word) : Text.IsWord p.word.toList := by
  have hblank := hword.not_isBlank
  rw [h.word_eq] at hblank
  rw [toList_word]
  refine ⟨by simp, ?_⟩
  intro c hc
  simp only [List.mem_append, List.mem_cons] at hc hblank
  rcases hc with hc | rfl | hc | hc
  · exact hblank c (.inl hc)
  · exact hblank ':' (.inr (.inl rfl))
  · exact p.kind.not_isBlank_of_mem_text c hc
  · exact hblank c (.inr (.inr (.inr hc)))

/-- The parameters that a signature declares, shown as in a usage but without the brackets, are a
signature that declares the same parameters.  Word by word, it differs from the first one in how the
kind is named, and in nothing else. -/
theorem parseSignature_usage {signature : String} {ps : List ParamSpec}
    (h : parseSignature signature = .ok ps) :
    parseSignature (Text.join " " (ps.map fun p => unbracketed p.text)) = .ok ps ∧
      List.Forall₂ (fun w p => ∃ kindName, Spelled kindName w p ∧
          Spelled p.kind.text.toList (unbracketed p.text).toList p)
        (Text.words signature.toList) ps := by
  obtain ⟨hspelled, hnodup⟩ := parseSignature_eq_ok_iff.1 h
  simp only [unbracketed_text]
  have hwords : ∀ w ∈ ps.map fun p => p.word.toList, Text.IsWord w := by
    refine List.forall_mem_map.2 fun p hp => ?_
    obtain ⟨kindName, w, hw, hp⟩ := exists_spelled_of_mem h hp
    exact hp.isWord hw
  refine ⟨parseSignature_eq_ok_iff.2 ⟨?_, hnodup⟩, ?_⟩
  · have hjoin : Text.words (Text.join " " (ps.map word)).toList =
        ps.map fun p => p.word.toList := by
      rw [Text.join, String.toList_ofList, List.map_map]
      exact Text.words_joinWith hwords
    rw [hjoin, List.forall₂_map_left_iff, List.forall₂_same]
    intro p hp
    obtain ⟨kindName, w, -, hp⟩ := exists_spelled_of_mem h hp
    exact ⟨_, hp.word⟩
  · exact hspelled.imp fun w p ⟨kindName, hp⟩ => ⟨kindName, hp, hp.word⟩

/-- Two kinds under other names, and a default with every separator in it. -/
theorem parseSignature_usage_of_aliases :
    let ps : List ParamSpec :=
      [{ name := "note", kind := .string, default := some ("x:y=[z]", .str "x:y=[z]") },
        { name := "count", kind := .int, default := some ("-5", .int (-5)) }]
    parseSignature "note:Str=x:y=[z]  count:INTEGER=-5" = .ok ps ∧
      parseSignature "note:string=x:y=[z] count:int=-5" = .ok ps := by
  intro ps
  have h : parseSignature "note:Str=x:y=[z]  count:INTEGER=-5" = .ok ps := rfl
  exact ⟨h, (parseSignature_usage h).1⟩

end ParamSpec

end DevConsole
