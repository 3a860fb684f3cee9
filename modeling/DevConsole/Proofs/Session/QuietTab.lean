/-
# `DevConsole.Proofs.Session.QuietTab` — what Tab does to the objects

Tab evaluates a part of a line that nobody has submitted: the text that stands in front of the dot
before the word, back to where a member chain starts.  The scan that looks for the start knows
parentheses, but no quotes:

    no closing parenthesis       stops at operators, so that the text reads the chain, or nothing
    one that closes              nothing is read, unless the line has an opening one too
    one in a text constant       goes on over operators, to the start of the line if need be

On a line without an opening parenthesis, the first two cases enter getters at most
(`lookUp_leadsTo`).  In the third the text is evaluated with whatever stands in it, an assignment
included (`Console.Operates`).
-/
import DevConsole.Proofs.Demo.Objects
import DevConsole.Proofs.Eval.Keeping
import DevConsole.Proofs.Session.MemberCompletion

namespace DevConsole

/-! ## The text that is evaluated -/

theorem Text.mem_trim_iff {c : Char} (hc : isBlank c = false) {cs : List Char} :
    c ∈ trim cs ↔ c ∈ cs := by
  have hdrop (l : List Char) : c ∈ l.dropWhile isBlank ↔ c ∈ l := by
    refine ⟨fun h => (List.dropWhile_sublist _).mem h, fun h => ?_⟩
    rw [← List.takeWhile_append_dropWhile (p := isBlank) (l := l)] at h
    refine (List.mem_append.1 h).resolve_left fun htake => ?_
    rw [List.mem_takeWhile_imp htake] at hc
    cases hc
  rw [trim, trimEnd, List.mem_reverse, hdrop, List.mem_reverse, trimStart, hdrop]

namespace Scan

/-- A chain that closes no parenthesis has no operator in it. -/
theorem not_isOperatorChar_of_chainLength {cs : List Char}
    (hclose : ')' ∉ cs.take (chainLength 0 cs)) :
    ∀ c ∈ cs.take (chainLength 0 cs), isOperatorChar c = false := by
  have hchained : Chained 0 (cs.take (chainLength 0 cs)).reverse :=
    (le_chainLength_iff (chainLength_le 0 cs)).1 le_rfl
  rw [← List.mem_reverse] at hclose
  intro c hc
  rw [← List.mem_reverse] at hc
  generalize (cs.take (chainLength 0 cs)).reverse = chain at hchained hclose hc
  obtain ⟨before, after, rfl⟩ := List.append_of_mem hc
  have htail : after <:+ before ++ c :: after := ⟨before ++ [c], by simp⟩
  have hclosed : after.count ')' = 0 := List.count_eq_zero.2 fun h => hclose (htail.subset h)
  have hopened := hchained.closes after htail
  have hstop := hchained.stops before c after rfl (by omega)
  exact Bool.eq_false_iff.2 fun hoperator => hstop (.inl hoperator)

end Scan

namespace Completion

variable {cs : List Char} {start : Nat}

/-- The chain before a word is what the scan finds, without the blanks around it. -/
theorem exists_mem_chainBefore_iff (cs : List Char) (start : Nat) :
    ∃ before : List Char, (∀ c ∈ before, c ∈ cs) ∧ ∀ c, Text.isBlank c = false →
      (c ∈ chainBefore cs start ↔ c ∈ before.take (Scan.chainLength 0 before)) := by
  refine ⟨(cs.take ((Text.trimEnd (cs.take start)).length - 1)).reverse, fun c hc => ?_,
    fun c hc => ?_⟩
  · exact List.mem_of_mem_take (List.mem_reverse.1 hc)
  · rw [chainBefore, Text.mem_trim_iff hc, Scan.chainStart, List.take_reverse, List.mem_reverse]

theorem chain_of_memberQuestion {chain : List Char} (h : memberQuestion cs start = .members chain) :
    chain = [] ∨ chain = chainBefore cs start := by
  unfold memberQuestion at h
  repeat' split at h
  all_goals cases h
  all_goals first | exact .inl rfl | exact .inr rfl

theorem mem_of_mem_normalize {placeholder c : Char} {start : Option Nat}
    (h : c ∈ normalize placeholder start cs) : c ∈ cs ∨ c = ' ' := by
  cases start with
  | none => exact .inl h
  | some n =>
    rcases List.mem_append.1 h with h | h
    · exact .inl (List.mem_of_mem_take h)
    · obtain ⟨d, hd, rfl⟩ := List.mem_map.1 h
      split
      · exact .inr rfl
      · exact .inl (List.mem_of_mem_drop hd)

/-- The chain that a completion asks about is empty, or it stands before a word of the expression. -/
theorem Engine.exists_chain_eq {e : Engine} {buffer chain : List Char} {cursor : Nat}
    (h : (e.site buffer cursor).question = .members chain) :
    chain = [] ∨ ∃ n start,
      chain = chainBefore ((normalize e.placeholder (some n) buffer).drop n) start := by
  simp only [site] at h
  cases hstart : expressionStart? e.expressionLead.toList buffer with
  | none =>
    simp only [hstart] at h
    cases h
  | some n =>
    simp only [hstart] at h
    split at h
    · exact (chain_of_memberQuestion h).imp_right fun hchain => ⟨n, _, hchain⟩
    · cases h

/-- On a line without an opening parenthesis, the chain that a completion asks about has none, and
has an operator in it only if it has a closing parenthesis. -/
theorem Engine.chain_of_question {e : Engine} {buffer chain : List Char} {cursor : Nat}
    (h : (e.site buffer cursor).question = .members chain) (hopen : '(' ∉ buffer) :
    '(' ∉ chain ∧ (')' ∉ chain → ∀ c ∈ chain, Scan.isOperatorChar c = false) := by
  rcases exists_chain_eq h with rfl | ⟨n, start, rfl⟩
  · exact ⟨List.not_mem_nil, fun _ => nofun⟩
  obtain ⟨before, hbefore, hmem⟩ :=
    exists_mem_chainBefore_iff ((normalize e.placeholder (some n) buffer).drop n) start
  constructor
  · intro hchain
    have hline := hbefore _ (List.mem_of_mem_take ((hmem _ rfl).1 hchain))
    rcases mem_of_mem_normalize (List.mem_of_mem_drop hline) with hbuffer | hspace
    · exact hopen hbuffer
    · cases hspace
  · intro hclose c hc
    have hslice := Scan.not_isOperatorChar_of_chainLength fun hin => hclose ((hmem _ rfl).2 hin)
    refine Bool.eq_false_iff.2 fun hoperator => ?_
    have hblank := (Lexer.classes_operatorChar hoperator).1
    rw [hslice c ((hmem c hblank).1 hc)] at hoperator
    cases hoperator

end Completion

/-! ## What is evaluated -/

/-- The objects that were there are there as they were, and static members have the values that they
had. -/
structure Store.Untouched (s s' : Store) : Prop where
  objects : ∀ r o, s.object? r = some o → s'.object? r = some o
  cells : ∀ cell, s'.cell? cell = s.cell? cell

theorem Store.steps_untouched : Steps Untouched where
  refl _ := ⟨fun _ _ => id, fun _ => rfl⟩
  trans h h' :=
    ⟨fun r o ho => h'.objects r o (h.objects r o ho), fun cell => (h'.cells cell).trans (h.cells cell)⟩

/-- No getter that its types declare touches an object or a static member. -/
def World.ReadsQuietly (w : World) : Prop :=
  ∀ ms ∈ w.declared, ∀ a ∈ ms.accessors, ∀ receiver (s : Store),
    s.Untouched ((a.get receiver).run s).2

namespace Console

variable {setup : Setup} {c : Console} {chain : List Char}

/-- The look-up leaves what the expression leaves that the chain is read as. -/
theorem lookUp_store (setup : Setup) (c : Console) (chain : List Char) :
    (lookUp setup c chain).2 =
      match Parser.parse (.ofList (chain ++ ['@'])) with
      | .ok ⟨some e, _⟩ => ((setup.context.evalHost e).run c.host.store).2
      | _ => c.host.store := by
  rw [lookUp]
  cases hparse : Parser.parse (.ofList (chain ++ ['@'])) with
  | error f => rw [Context.run_evaluate_of_error _ hparse]
  | ok l =>
    obtain ⟨e | e, marked⟩ := l
    · rw [Context.run_evaluate_of_ok _ hparse]
      cases marked <;> rfl
    · rw [Context.run_evaluate_of_ok _ hparse, Context.evalLine, Act.run_bind, Context.lineValue]
      simp only
      rcases (setup.context.evalHost e).run c.host.store with ⟨a | v, s⟩
      · rfl
      · cases marked <;> rfl

/-- Completion looks up a chain, and the chain is read as an operation. -/
def Operates (c : Console) (chain : List Char) (e : Expr) : Prop :=
  c.session.completion.question? c.session.buffer c.session.cursor = some (.members chain) ∧
    (∃ marked, Parser.parse (.ofList (chain ++ ['@'])) = .ok ⟨some e, marked⟩) ∧ e.IsOperation

theorem question_of_members
    (h : c.session.completion.question? c.session.buffer c.session.cursor =
      some (.members chain)) :
    (c.session.completion.site c.session.buffer c.session.cursor).question = .members chain := by
  unfold Completion.Engine.question? at h
  split at h
  · cases h
  · exact Option.some.inj h

/-- On a line without an opening parenthesis, the look-up keeps to what getters keep to, unless the
chain is read as an operation. -/
theorem lookUp_leadsTo {R : Store → Store → Prop} (hR : Steps R)
    (hw : setup.context.world.Reads hR.leading) (hopen : '(' ∉ c.session.buffer)
    (hquestion : c.session.completion.question? c.session.buffer c.session.cursor =
      some (.members chain))
    (hquiet : ∀ e, ¬ c.Operates chain e) : R c.host.store (lookUp setup c chain).2 := by
  rw [lookUp_store]
  split
  · rename_i e marked hparse
    have hfree : '(' ∉ (String.ofList (chain ++ ['@'])).toList := by
      have hchain := (Completion.Engine.chain_of_question (question_of_members hquestion) hopen).1
      simpa using hchain
    rcases (Lexer.callFree_of_parse hparse hfree).1 e rfl with hread | ⟨hoperation, -⟩
    · exact Context.evalHost_leadsTo hR hw hread c.host.store
    · exact absurd ⟨hquestion, ⟨marked, hparse⟩, hoperation⟩ (hquiet e)
  · exact hR.refl _

/-- If the chain is read as an operation, then a text constant in it has a closing parenthesis. -/
theorem Operates.exists_quoted {e : Expr} (h : c.Operates chain e)
    (hopen : '(' ∉ c.session.buffer) :
    ∃ ts, Lexer.tokenize (chain ++ ['@']) = .ok ts ∧
      ∃ s, .literal (.str s) ∈ Grammar.kinds ts ∧ ')' ∈ s.toList := by
  obtain ⟨hquestion, ⟨marked, hparse⟩, hoperation⟩ := h
  obtain ⟨hchain, hclose⟩ :=
    Completion.Engine.chain_of_question (question_of_members hquestion) hopen
  have hfree : '(' ∉ (String.ofList (chain ++ ['@'])).toList := by
    simpa using hchain
  obtain ⟨hexpr, hquoted⟩ := Lexer.callFree_of_parse hparse hfree
  rw [String.toList_ofList] at hexpr hquoted
  refine hquoted (List.mem_append_left _ ?_)
  by_contra hnone
  rcases hexpr e rfl with hread | ⟨-, d, hd, hoperator⟩
  · cases hread <;> cases hoperation
  · rcases List.mem_append.1 hd with hd | hd
    · rw [hclose hnone d hd] at hoperator
      cases hoperator
    · obtain rfl := List.mem_singleton.1 hd
      cases hoperator

/-- The names for a completion are looked up, or given without a change of the objects. -/
theorem names_store (setup : Setup) (c : Console) :
    (∃ chain, c.session.completion.question? c.session.buffer c.session.cursor =
        some (.members chain) ∧
      (names setup c c.host.store).2 = (lookUp setup c chain).2) ∨
    (∀ chain, c.session.completion.question? c.session.buffer c.session.cursor ≠
        some (.members chain)) ∧
      (names setup c c.host.store).2 = c.host.store := by
  by_cases hasks : ∃ chain,
      c.session.completion.question? c.session.buffer c.session.cursor = some (.members chain)
  · obtain ⟨chain, hquestion⟩ := hasks
    refine .inl ⟨chain, hquestion, ?_⟩
    rw [names_eq hquestion]
    rcases lookUp setup c chain with ⟨(f | p) | (v | es), store⟩ <;> rfl
  · have hnone := fun chain h => hasks ⟨chain, h⟩
    obtain ⟨ns, hnames⟩ := names_of_not_members hnone
    exact .inr ⟨hnone, by rw [hnames]⟩

/-- Tab changes nothing of the session but the line, the cursor and the completion, and nothing of
the host but the objects. -/
theorem exists_tab_eq (setup : Setup) (c : Console) (d : Direction) :
    ∃ buffer cursor completion, ((tab setup d).run c).2 =
      ⟨{ c.session with buffer := buffer, cursor := cursor, completion := completion },
        { c.host with store := (names setup c c.host.store).2 }⟩ := by
  rw [tab_run]
  rcases names setup c c.host.store with ⟨a | ns, store⟩
  · exact ⟨c.session.buffer, c.session.cursor, c.session.completion, rfl⟩
  · exact ⟨_, _, _, congrArg (Console.mk · { c.host with store := store })
      (c.session.complete_eq ns d)⟩

/-- Tab on a line without an opening parenthesis, in a world whose getters touch nothing.  Of the
session only the line, the cursor and the completion change, and of the host only the objects.  No
object and no static member is touched, unless the text in front of the dot, back to where the scan
stops, is read as an operation.  It is so only if a text constant in it has a closing parenthesis,
and then the objects are as the operation leaves them. -/
theorem tab_quiet {event : InputEvent} (hcompletes : c.Completes event)
    (hopen : '(' ∉ c.session.buffer) (hw : setup.context.world.ReadsQuietly) :
    ∃ buffer cursor completion store, ((handleEvent setup event).run c).2 =
        ⟨{ c.session with buffer := buffer, cursor := cursor, completion := completion },
          { c.host with store := store }⟩ ∧
      ((∀ chain e, ¬ c.Operates chain e) → c.host.store.Untouched store) ∧
      ∀ chain e, c.Operates chain e →
        store = ((setup.context.evalHost e).run c.host.store).2 ∧
        ∃ ts, Lexer.tokenize (chain ++ ['@']) = .ok ts ∧
          ∃ s, .literal (.str s) ∈ Grammar.kinds ts ∧ ')' ∈ s.toList := by
  obtain ⟨d, hrun⟩ := handleEvent_of_completes setup hcompletes
  obtain ⟨buffer, cursor, completion, htab⟩ := exists_tab_eq setup c d
  refine ⟨buffer, cursor, completion, _, by rw [hrun, htab], ?_, ?_⟩
  · intro hquiet
    rcases names_store setup c with ⟨chain, hquestion, hstore⟩ | ⟨-, hstore⟩
    · rw [hstore]
      exact lookUp_leadsTo Store.steps_untouched hw hopen hquestion (hquiet chain)
    · rw [hstore]
      exact Store.steps_untouched.refl _
  · intro chain e hoperates
    refine ⟨?_, hoperates.exists_quoted hopen⟩
    obtain ⟨hquestion, ⟨marked, hparse⟩, -⟩ := hoperates
    rcases names_store setup c with ⟨chain', hquestion', hstore⟩ | ⟨hnone, -⟩
    · rw [hquestion] at hquestion'
      cases hquestion'
      rw [hstore, lookUp_store, hparse]
    · exact absurd hquestion (hnone chain)

end Console

/-! ## The game -/

/-- The getters of the game look at objects, or give what they always give, or a new vector. -/
theorem Game.world_reads {H : HostProperty} (hvector : ∀ x y, H.Holds (newVector x y)) :
    world.Reads H := by
  have hlooks {host : String} {get : Object → Value} :
      ∀ receiver, H.Holds (Receiver.read catalog host receiver get) :=
    fun receiver => H.read catalog host receiver get
  refine List.forall_mem_cons.2 ⟨?_, List.forall_mem_cons.2 ⟨List.forall_mem_nil _,
    List.forall_mem_cons.2 ⟨?_, List.forall_mem_singleton.2 ?_⟩⟩⟩
  · refine List.forall_mem_cons.2 ⟨hlooks, List.forall_mem_cons.2 ⟨hlooks, ?_⟩⟩
    exact List.forall_mem_cons.2 ⟨hlooks, List.forall_mem_singleton.2 fun _ => hvector 0 0⟩
  · refine List.forall_mem_cons.2 ⟨hlooks, List.forall_mem_cons.2 ⟨hlooks, ?_⟩⟩
    refine List.forall_mem_cons.2 ⟨hlooks, List.forall_mem_cons.2 ⟨hlooks, ?_⟩⟩
    exact List.forall_mem_cons.2 ⟨hlooks, List.forall_mem_singleton.2 hlooks⟩
  · refine List.forall_mem_cons.2 ⟨hlooks, List.forall_mem_cons.2 ⟨hlooks, ?_⟩⟩
    refine List.forall_mem_cons.2 ⟨hlooks, List.forall_mem_cons.2 ⟨hlooks, ?_⟩⟩
    exact List.forall_mem_cons.2 ⟨hlooks, List.forall_mem_singleton.2 fun _ => H.pure _⟩

theorem Game.readsQuietly_world : world.ReadsQuietly := by
  refine @world_reads Store.steps_untouched.leading fun x y s => ⟨fun r o ho => ?_, fun _ => rfl⟩
  exact Store.object?_alloc_of_some ho

namespace Console

/-- What the console of the game is connected to. -/
def play : Setup := .new {} Game.world (.object Game.root)

/-- The console of a new game, opened, with a line typed in. -/
def played (line : String) : Console where
  session := Turn.takeAll (.new {}) <|
    ⟨play, {}, .reveal⟩ :: line.toList.map fun ch => ⟨play, {}, .event (.text ch)⟩
  host := { store := (Game.newGame.run {}).2 }

/-- A closing parenthesis that closes nothing: the assignment is looked at, and is not read. -/
theorem tab_quiet_paused :
    (played "call paused = )hp.").Completes (.press .tab) ∧
      '(' ∉ (played "call paused = )hp.").session.buffer ∧ Game.world.ReadsQuietly ∧
      (played "call paused = )hp.").host.store.Untouched
        ((handleEvent play (.press .tab)).run (played "call paused = )hp.")).2.host.store := by
  have hcompletes : (played "call paused = )hp.").Completes (.press .tab) :=
    ⟨⟨false, rfl⟩, by decide, by decide +kernel⟩
  have hopen : '(' ∉ (played "call paused = )hp.").session.buffer := by decide +kernel
  have hquestion : (played "call paused = )hp.").session.completion.question?
      (played "call paused = )hp.").session.buffer (played "call paused = )hp.").session.cursor =
        some (.members "paused = )hp".toList) := by
    decide +kernel
  obtain ⟨buffer, cursor, completion, store, hrun, huntouched, -⟩ :=
    @tab_quiet play _ _ hcompletes hopen Game.readsQuietly_world
  refine ⟨hcompletes, hopen, Game.readsQuietly_world, ?_⟩
  rw [hrun]
  refine huntouched ?_
  rintro chain e ⟨hasked, ⟨marked, hparse⟩, -⟩
  rw [hquestion] at hasked
  cases hasked
  obtain ⟨f, hmalformed⟩ :
      ∃ f, Parser.parse (.ofList ("paused = )hp".toList ++ ['@'])) = .error f := ⟨_, by cbv⟩
  rw [hmalformed] at hparse
  cases hparse

/-- A closing parenthesis in quotes: the assignment is read, and renames the player. -/
theorem tab_assigns_name :
    Game.world.ReadsQuietly ∧
      (played "call player.name = \")\".").Completes (.press .tab) ∧
      '(' ∉ (played "call player.name = \")\".").session.buffer ∧
      ((played "call player.name = \")\".").host.store.object? Game.hero).bind
        (·.slot? "name") = some (.str "hero") ∧
      (((handleEvent play (.press .tab)).run
        (played "call player.name = \")\".")).2.host.store.object? Game.hero).bind
          (·.slot? "name") = some (.str ")") := by
  have hcompletes : (played "call player.name = \")\".").Completes (.press .tab) :=
    ⟨⟨false, rfl⟩, by decide, by decide +kernel⟩
  have hquestion : (played "call player.name = \")\".").session.completion.question?
      (played "call player.name = \")\".").session.buffer
      (played "call player.name = \")\".").session.cursor =
        some (.members "player.name = \")\"".toList) := by
    decide +kernel
  have hparse : Parser.parse (.ofList ("player.name = \")\"".toList ++ ['@'])) =
      .ok ⟨some (.assign none (.member (.name "player" none) "name" none) (.literal (.str ")"))),
        true⟩ := by
    cbv
  obtain ⟨d, hrun⟩ := handleEvent_of_completes play hcompletes
  obtain ⟨buffer, cursor, completion, htab⟩ :=
    exists_tab_eq play (played "call player.name = \")\".") d
  refine ⟨Game.readsQuietly_world, hcompletes, by decide +kernel, rfl, ?_⟩
  rw [hrun, htab]
  rcases names_store play (played "call player.name = \")\".") with
    ⟨chain, hasked, hstore⟩ | ⟨hnone, -⟩
  · rw [hquestion] at hasked
    cases hasked
    rw [hstore, lookUp_store, hparse]
    rfl
  · exact absurd hquestion (hnone _)

end Console

end DevConsole
