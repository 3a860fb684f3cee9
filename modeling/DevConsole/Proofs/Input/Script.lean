/-
# `DevConsole.Proofs.Input.Script` — what is written in a line is read back from it

A frame of input is written as text: a character stands for itself, and a key or the wheel for its
name between brackets.  Brackets are not quoted.  An opening bracket that starts no name is typed,
and so characters may be written that a name is read from:

    <tab>      the key, or five characters

Written events are read back if this happens nowhere (`ReadBack`), which is certain where no opening
bracket is typed.  It holds as well of whatever was read from a line (`readBack_eventsFrom`).  For
whether a bracket starts a name depends on the text before the next bracket alone
(`tagged?_congr`), and that text is the same in the line and in what is written of its events
(`run_render`), however the names between them were spelled.
-/
import DevConsole.Input.Script
import DevConsole.Proofs.Lexing.Integers

namespace DevConsole

namespace Text

/-- A text is cut at its first occurrence of the character. -/
theorem splitOnce_eq_some_iff {x : Char} {cs a b : List Char} :
    splitOnce x cs = some (a, b) ↔ x ∉ a ∧ cs = a ++ x :: b := by
  induction cs generalizing a with
  | nil => simp [splitOnce]
  | cons c cs ih =>
    rw [splitOnce]
    split
    · rename_i hc
      subst hc
      constructor
      · intro h
        cases h
        exact ⟨List.not_mem_nil, rfl⟩
      · rintro ⟨ha, hcs⟩
        rcases a with _ | ⟨d, a⟩
        · cases hcs
          rfl
        · exact absurd (List.mem_cons.2 (.inl (List.cons.inj hcs).1)) ha
    · rename_i hc
      rw [Option.map_eq_some_iff]
      constructor
      · rintro ⟨⟨a', b'⟩, hcs, hab⟩
        cases hab
        obtain ⟨ha, rfl⟩ := ih.1 hcs
        exact ⟨List.not_mem_cons_of_ne_of_not_mem (Ne.symm hc) ha, rfl⟩
      · rintro ⟨ha, hcs⟩
        rcases a with _ | ⟨d, a⟩
        · exact absurd (List.cons.inj hcs).1 hc
        · obtain ⟨rfl, rfl⟩ := List.cons.inj hcs
          exact ⟨(a, b), ih.2 ⟨List.not_mem_of_not_mem_cons ha, rfl⟩, rfl⟩

end Text

namespace Script

/-! ## Writing events -/

/-- The name of a key between brackets. -/
def keyName : Key → List Char
  | .backquote => "toggle".toList
  | .escape => "esc".toList
  | .enter => "enter".toList
  | .backspace => "bs".toList
  | .delete => "del".toList
  | .tab => "tab".toList
  | .up => "up".toList
  | .down => "down".toList
  | .left => "left".toList
  | .right => "right".toList
  | .function n => 'f' :: Decimal.digits n.toNat

/-- A name between brackets. -/
def bracketed (name : List Char) : List Char := '<' :: (name ++ ['>'])

/-- What an event is written as. -/
def written : InputEvent → List Char
  | .text c => [c]
  | .keyPress k false => bracketed (keyName k)
  | .keyPress k true => bracketed ('s' :: '-' :: keyName k)
  | .wheel d => bracketed ("wheel".toList ++ Decimal.ofInt d)

/-- A line in which the events of a frame are written. -/
def render (es : List InputEvent) : List Char := es.flatMap written

/-- An event that is written as a name which it is read back from. -/
def Named (e : InputEvent) : Prop :=
  ∃ name, written e = bracketed name ∧ '>' ∉ name ∧ event? name = some e

variable {e : InputEvent} {es last : List InputEvent} {name token cs rest : List Char}

theorem render_cons (e : InputEvent) (es : List InputEvent) :
    render (e :: es) = written e ++ render es := List.flatMap_cons

/-! ## Names -/

/-- A character of a name as it is written: it is no capital letter and does not close the
bracket. -/
def isTagChar (c : Char) : Bool := c.toLower == c && c != '>'

theorem map_toLower_of_tagChars (h : name.all isTagChar = true) : name.map Char.toLower = name := by
  refine (List.map_congr_left ?_).trans (List.map_id name)
  intro c hc
  exact beq_iff_eq.1 (Bool.and_eq_true_iff.1 (List.all_eq_true.1 h c hc)).1

theorem not_mem_of_tagChars (h : name.all isTagChar = true) : '>' ∉ name := by
  intro hc
  cases List.all_eq_true.1 h '>' hc

theorem all_isTagChar_digits (n : Nat) : (Decimal.digits n).all isTagChar = true := by
  have hdigit : ∀ k < 10, isTagChar (Decimal.digitChar k) = true := by decide
  refine List.all_eq_true.2 ?_
  intro c hc
  obtain ⟨k, hk, rfl⟩ :=
    Decimal.exists_digitChar (List.all_eq_true.1 (Decimal.all_isDigit_digits n) c hc)
  exact hdigit k hk

theorem all_isTagChar_ofInt (i : Int) : (Decimal.ofInt i).all isTagChar = true := by
  rw [Decimal.ofInt]
  split
  · rw [List.all_cons, all_isTagChar_digits]
    rfl
  · exact all_isTagChar_digits _

theorem all_isTagChar_keyName (k : Key) : (keyName k).all isTagChar = true := by
  cases k with
  | function n =>
    show (isTagChar 'f' && (Decimal.digits n.toNat).all isTagChar) = true
    rw [all_isTagChar_digits]
    rfl
  | _ => decide

theorem mem_of_lookup {k : Key} (h : keyNames.lookup (String.ofList name) = some k) :
    (String.ofList name, k) ∈ keyNames := by
  obtain ⟨before, after, hnames, -⟩ := List.lookup_eq_some_iff.1 h
  rw [hnames]
  exact List.mem_append_right _ List.mem_cons_self

/-- No listed name is taken for a function key, and none has a bracket in it. -/
theorem keyNames_apart : ∀ p ∈ keyNames, p.1.toList.head? ≠ some 'f' ∧ '<' ∉ p.1.toList := by
  decide

theorem lookup_function (ds : List Char) :
    keyNames.lookup (String.ofList ('f' :: ds)) = none := by
  cases h : keyNames.lookup (String.ofList ('f' :: ds)) with
  | none => rfl
  | some k =>
    have hhead := (keyNames_apart _ (mem_of_lookup h)).1
    rw [String.toList_ofList] at hhead
    exact absurd rfl hhead

theorem key?_keyName (k : Key) : key? (keyName k) = some k := by
  cases k with
  | function n =>
    have hrange : decide (n.toNat ≤ 255) = true := decide_eq_true (Nat.le_of_lt_succ n.toNat_lt)
    show key? ('f' :: Decimal.digits n.toNat) = _
    rw [key?, lookup_function]
    show ((Decimal.readNat _).filter _).map _ = _
    rw [Decimal.readNat_digits, Option.filter_some, if_pos hrange, Option.map_some,
      UInt8.ofNat_toNat]
  | _ => decide +kernel

/-- The name of a key holds no opening bracket. -/
theorem not_mem_of_key? {k : Key} (h : key? name = some k) : '<' ∉ name := by
  unfold key? at h
  split at h
  · rename_i hlookup
    have hopen := (keyNames_apart _ (mem_of_lookup hlookup)).2
    rwa [String.toList_ofList] at hopen
  · split at h
    · obtain ⟨n, hn, -⟩ := Option.map_eq_some_iff.1 h
      intro hmem
      have hmem := (List.mem_cons.1 hmem).resolve_left (by decide)
      have hdigit := Decimal.isDigit_of_readNat (Option.filter_eq_some_iff.1 hn).1 _ hmem
      revert hdigit
      decide
    · cases h

theorem named_keyPress (k : Key) (shift : Bool) : Named (.keyPress k shift) := by
  have htag := all_isTagChar_keyName k
  cases shift with
  | false =>
    have hread : (key? (keyName k)).map (InputEvent.keyPress · false) = some (.keyPress k false) := by
      rw [key?_keyName]
      rfl
    refine ⟨keyName k, rfl, not_mem_of_tagChars htag, ?_⟩
    rw [event?, map_toLower_of_tagChars htag]
    -- no name of a key starts like that of the wheel, or as with shift
    cases k <;> exact hread
  | true =>
    have htag : ('s' :: '-' :: keyName k).all isTagChar = true := by
      rw [List.all_cons, List.all_cons, htag]
      rfl
    refine ⟨'s' :: '-' :: keyName k, rfl, not_mem_of_tagChars htag, ?_⟩
    rw [event?, map_toLower_of_tagChars htag]
    show (key? _).map _ = _
    rw [key?_keyName]
    rfl

theorem named_wheel {d : Int} (hge : -2147483648 ≤ d) (hlt : d < 2147483648) : Named (.wheel d) := by
  have htag : ("wheel".toList ++ Decimal.ofInt d).all isTagChar = true := by
    rw [List.all_append, all_isTagChar_ofInt]
    decide
  refine ⟨_, rfl, not_mem_of_tagChars htag, ?_⟩
  rw [event?, map_toLower_of_tagChars htag]
  show (Decimal.readIntOfWidth 32 (Decimal.ofInt d)).map _ = _
  rw [Decimal.readIntOfWidth_ofInt hge hlt]
  rfl

/-- The name of an event holds no opening bracket, and the event can be written by a name again. -/
theorem named_of_event? (h : event? token = some e) : '<' ∉ token ∧ Named e := by
  have hlower : '<' ∈ token → '<' ∈ token.map Char.toLower := List.mem_map_of_mem
  unfold event? at h
  split at h
  · rename_i delta hname
    obtain ⟨d, hd, rfl⟩ := Option.map_eq_some_iff.1 h
    obtain ⟨hd, hrange⟩ := Option.filter_eq_some_iff.1 hd
    obtain ⟨hge, hlt⟩ := Bool.and_eq_true_iff.1 hrange
    refine ⟨?_, named_wheel (of_decide_eq_true hge) (of_decide_eq_true hlt)⟩
    intro hmem
    have hmem := hlower hmem
    rw [hname] at hmem
    have hdelta : '<' ∈ delta := by simpa using hmem
    have hdigit := Decimal.isDigit_of_readInt hd _ hdelta
    revert hdigit
    decide
  · rename_i name hname
    obtain ⟨k, hk, rfl⟩ := Option.map_eq_some_iff.1 h
    refine ⟨?_, named_keyPress k true⟩
    intro hmem
    have hmem := hlower hmem
    rw [hname] at hmem
    exact not_mem_of_key? hk (by simpa using hmem)
  · obtain ⟨k, hk, rfl⟩ := Option.map_eq_some_iff.1 h
    refine ⟨?_, named_keyPress k false⟩
    intro hmem
    exact not_mem_of_key? hk (hlower hmem)

/-! ## Where a bracket starts a name -/

theorem tagged?_eq_some_iff :
    tagged? cs = some (e, rest) ↔
      ∃ token, '>' ∉ token ∧ cs = token ++ '>' :: rest ∧ event? token = some e := by
  constructor
  · intro h
    unfold tagged? at h
    split at h
    · rename_i token rest' hsplit
      obtain ⟨e', he, heq⟩ := Option.map_eq_some_iff.1 h
      cases heq
      obtain ⟨htoken, hcs⟩ := Text.splitOnce_eq_some_iff.1 hsplit
      exact ⟨token, htoken, hcs, he⟩
    · cases h
  · rintro ⟨token, htoken, hcs, he⟩
    rw [tagged?, Text.splitOnce_eq_some_iff.2 ⟨htoken, hcs⟩]
    show (event? token).map _ = _
    rw [he]
    rfl

theorem tagged?_append (h : tagged? cs = some (e, rest)) (ds : List Char) :
    tagged? (cs ++ ds) = some (e, rest ++ ds) := by
  obtain ⟨token, htoken, rfl, he⟩ := tagged?_eq_some_iff.1 h
  refine tagged?_eq_some_iff.2 ⟨token, htoken, ?_, he⟩
  rw [List.append_assoc, List.cons_append]

/-- The text before the next opening bracket. -/
def run (cs : List Char) : List Char := cs.takeWhile (· ≠ '<')

theorem run_cons {c : Char} (hc : c ≠ '<') (cs : List Char) : run (c :: cs) = c :: run cs :=
  List.takeWhile_cons_of_pos (decide_eq_true hc)

theorem run_open (cs : List Char) : run ('<' :: cs) = [] :=
  List.takeWhile_cons_of_neg (by decide)

/-- A name is closed before the next bracket opens. -/
theorem tagged?_run (h : tagged? cs = some (e, rest)) : tagged? (run cs) = some (e, run rest) := by
  obtain ⟨token, htoken, rfl, he⟩ := tagged?_eq_some_iff.1 h
  refine tagged?_eq_some_iff.2 ⟨token, htoken, ?_, he⟩
  have hrun : ∀ c ∈ token, decide (c ≠ '<') = true := by
    intro c hc
    refine decide_eq_true ?_
    rintro rfl
    exact (named_of_event? he).1 hc
  rw [run, List.takeWhile_append_of_pos hrun]
  exact congrArg (token ++ ·) (run_cons (by decide) rest)

theorem tagged?_congr {ds : List Char} (hrun : run ds = run cs) (h : tagged? cs = none) :
    tagged? ds = none := by
  cases hds : tagged? ds with
  | none => rfl
  | some r =>
    have hcs := tagged?_append (tagged?_run hds) (cs.dropWhile (· ≠ '<'))
    rw [hrun, run, List.takeWhile_append_dropWhile, h] at hcs
    cases hcs

theorem eventsFrom_text {c : Char} (hc : c = '<' → tagged? cs = none) :
    eventsFrom (c :: cs) = .text c :: eventsFrom cs := by
  rw [eventsFrom]
  split
  · rename_i hopen
    split
    · rename_i hsome
      rw [hc hopen] at hsome
      cases hsome
    · rfl
  · rfl

theorem eventsFrom_tagged (h : tagged? cs = some (e, rest)) :
    eventsFrom ('<' :: cs) = e :: eventsFrom rest := by
  rw [eventsFrom, if_pos rfl]
  split
  · rename_i hsome
    rw [h] at hsome
    cases hsome
    rfl
  · rename_i hnone
    rw [h] at hnone
    cases hnone

theorem Named.eventsFrom_append (h : Named e) (cs : List Char) :
    eventsFrom (written e ++ cs) = e :: eventsFrom cs := by
  obtain ⟨name, hwritten, hclose, hname⟩ := h
  have htagged : tagged? (name ++ '>' :: cs) = some (e, cs) :=
    tagged?_eq_some_iff.2 ⟨name, hclose, rfl, hname⟩
  rw [hwritten, bracketed, List.cons_append, List.append_assoc]
  exact eventsFrom_tagged htagged

theorem Named.run_append (h : Named e) (cs : List Char) : run (written e ++ cs) = [] := by
  obtain ⟨name, hwritten, -, -⟩ := h
  rw [hwritten]
  exact run_open _

/-! ## Events that are read back -/

/-- Events of which no typed bracket starts a name in what is written. -/
inductive ReadBack : List InputEvent → Prop
  | nil : ReadBack []
  | text {c : Char} {es : List InputEvent} :
      (c = '<' → tagged? (render es) = none) → ReadBack es → ReadBack (.text c :: es)
  | named {e : InputEvent} {es : List InputEvent} : Named e → ReadBack es → ReadBack (e :: es)

theorem ReadBack.eventsFrom_render (h : ReadBack es) : eventsFrom (render es) = es := by
  induction h with
  | nil => rw [render, List.flatMap_nil, eventsFrom]
  | @text c es hc _ ih =>
    show eventsFrom (c :: render es) = _
    rw [eventsFrom_text hc, ih]
  | named he _ ih => rw [render_cons, he.eventsFrom_append, ih]

theorem readBack_of_forall (htext : ∀ c, .text c ∈ es → c ≠ '<')
    (hwheel : ∀ d, .wheel d ∈ es → -2147483648 ≤ d ∧ d < 2147483648) : ReadBack es := by
  induction es with
  | nil => exact .nil
  | cons e es ih =>
    have hes : ReadBack es := ih (fun c hc => htext c (List.mem_cons_of_mem _ hc))
      fun d hd => hwheel d (List.mem_cons_of_mem _ hd)
    cases e with
    | text c => exact .text (fun hc => absurd hc (htext c List.mem_cons_self)) hes
    | keyPress k shift => exact .named (named_keyPress k shift) hes
    | wheel d =>
      obtain ⟨hge, hlt⟩ := hwheel d List.mem_cons_self
      exact .named (named_wheel hge hlt) hes

/-- Up to the next bracket, what is written of the events of a line is the line. -/
theorem run_render (hlast : run (render last) = []) (cs : List Char) :
    run (render (eventsFrom cs ++ last)) = run cs := by
  induction cs using eventsFrom.induct with
  | case1 =>
    rw [eventsFrom, List.nil_append, hlast]
    rfl
  | case2 cs e rest h _ _ =>
    obtain ⟨token, -, -, he⟩ := tagged?_eq_some_iff.1 h
    rw [eventsFrom_tagged h, List.cons_append, render_cons, (named_of_event? he).2.run_append,
      run_open]
  | case3 cs h _ =>
    rw [eventsFrom_text fun _ => h, run_open]
    exact run_open _
  | case4 c cs hc ih =>
    rw [eventsFrom_text fun hopen => absurd hopen hc, run_cons hc, ← ih]
    exact run_cons hc _

/-- The events of a line are read back, and others can be written behind them that start with a
bracket. -/
theorem readBack_eventsFrom (h : ReadBack last) (hlast : run (render last) = []) (cs : List Char) :
    ReadBack (eventsFrom cs ++ last) := by
  induction cs using eventsFrom.induct with
  | case1 =>
    rw [eventsFrom]
    exact h
  | case2 cs e rest htagged _ ih =>
    obtain ⟨token, -, -, he⟩ := tagged?_eq_some_iff.1 htagged
    rw [eventsFrom_tagged htagged]
    exact .named (named_of_event? he).2 ih
  | case3 cs hnone ih =>
    rw [eventsFrom_text fun _ => hnone]
    exact .text (fun _ => tagged?_congr (run_render hlast cs) hnone) ih
  | case4 c cs hc ih =>
    rw [eventsFrom_text fun hopen => absurd hopen hc]
    exact .text (fun hopen => absurd hopen hc) ih

/-! ## Lines -/

theorem endsTyping_iff : endsTyping es = true ↔ ∃ c, es.getLast? = some (.text c) := by
  unfold endsTyping
  constructor
  · intro h
    split at h
    · rename_i c hlast
      exact ⟨c, hlast⟩
    · cases h
  · rintro ⟨c, hlast⟩
    rw [hlast]

theorem endsTyping_append_press (es : List InputEvent) (k : Key) :
    endsTyping (es ++ [.press k]) = false := by
  rw [endsTyping, List.getLast?_append]
  rfl

theorem endsTyping_lineEvents (line : List Char) : endsTyping (lineEvents line) = false := by
  rw [lineEvents]
  cases h : endsTyping (eventsFrom line) with
  | true => exact endsTyping_append_press _ _
  | false => exact h

theorem readBack_lineEvents (line : List Char) : ReadBack (lineEvents line) := by
  have henter : ReadBack [.press .enter] := .named (named_keyPress .enter false) .nil
  rw [lineEvents]
  cases endsTyping (eventsFrom line) with
  | true => exact readBack_eventsFrom henter (run_open _) line
  | false =>
    have hread := readBack_eventsFrom .nil rfl line
    rwa [List.append_nil] at hread

/-- Written events are read back, if no typed character is an opening bracket (and the wheel moves by
numbers of 32 bits, as it does); Enter is pressed behind them if the last of them is a typed
character.  And whatever a line is read as is read back from what is written of it. -/
theorem lineEvents_render :
    (∀ es : List InputEvent, (∀ c, .text c ∈ es → c ≠ '<') →
      (∀ d, .wheel d ∈ es → -2147483648 ≤ d ∧ d < 2147483648) →
      ((∃ c, es.getLast? = some (.text c)) → lineEvents (render es) = es ++ [.press .enter]) ∧
      ((¬ ∃ c, es.getLast? = some (.text c)) → lineEvents (render es) = es)) ∧
    ∀ line, lineEvents (render (lineEvents line)) = lineEvents line := by
  refine ⟨?_, ?_⟩
  · intro es htext hwheel
    have hread := (readBack_of_forall htext hwheel).eventsFrom_render
    rw [← endsTyping_iff, lineEvents, hread]
    exact ⟨fun h => if_pos h, fun h => if_neg h⟩
  · intro line
    have hread := (readBack_lineEvents line).eventsFrom_render
    rw [lineEvents, hread, endsTyping_lineEvents]
    rfl

/-- A frame with a shifted key and the wheel. -/
def shifted : List InputEvent :=
  [.text 'p', .keyPress (.function 12) true, .wheel (-3), .text '>']

theorem lineEvents_render_shifted :
    render shifted = "p<s-f12><wheel-3>>".toList ∧
      lineEvents (render shifted) = shifted ++ [.press .enter] ∧
      lineEvents (render (lineEvents "<ta<ESC>b".toList)) = lineEvents "<ta<ESC>b".toList := by
  have htext : ∀ c, .text c ∈ shifted → c ≠ '<' := by
    intro c hc
    have hc : c = 'p' ∨ c = '>' := by simpa [shifted] using hc
    rcases hc with rfl | rfl <;> decide
  have hwheel : ∀ d, .wheel d ∈ shifted → -2147483648 ≤ d ∧ d < 2147483648 := by
    intro d hd
    have hd : d = -3 := by simpa [shifted] using hd
    rw [hd]
    decide
  obtain ⟨hread, hagain⟩ := lineEvents_render
  exact ⟨by decide +kernel, (hread shifted htext hwheel).1 ⟨'>', rfl⟩, hagain _⟩

end Script

end DevConsole
