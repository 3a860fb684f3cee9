/-
# `DevConsole.Proofs.Session.Containment` — how far trouble in host code reaches

While an event is handled, host code may be entered, and may fail or panic, on three ways:

    a line that was typed       in its command
    a line bound to a key       in its command
    a press of Tab              in the evaluation of the chain before the word

Nothing is assumed of host code: world, commands and objects are arbitrary.  The first two ways go
through dispatch, so that whatever happens is reported and handling the event comes to its end
(`handleEvent_of_line`).  On the third a failure leaves a completion run without candidates.  A
panic is not caught there: it ends the handling of the event, with the session as it was (`tab_run`).
There is no other early end.
-/
import DevConsole.Proofs.Command.Report
import DevConsole.Proofs.Lexing.Tokens
import DevConsole.Proofs.Session.Outcome

namespace DevConsole

/-! ## Completion without names -/

theorem Completion.Engine.corpus_fresh_nil (e : Completion.Engine) (buffer : List Char)
    (cursor : Nat) : (e.fresh buffer cursor []).corpus = [] := by
  have hfitting (q : Completion.Question) : fitting q [] = [] := by
    cases q <;> rfl
  simp only [fresh, hfitting, List.map_nil, sortedLines, List.mergeSort_nil]
  rfl

/-- Where there are no names, a completion that begins has no candidates, and the line stays. -/
theorem Session.complete_nil {s : Session} (hidle : s.completion.run = none) (d : Direction) :
    ∃ r : Completion.Run, r.corpus = [] ∧
      s.complete [] d = { s with completion := { s.completion with run := some r } } := by
  refine ⟨_, s.completion.corpus_fresh_nil s.buffer s.cursor, ?_⟩
  have hstep : s.completion.step s.buffer s.cursor [] d =
      (none, { s.completion with run := some (s.completion.fresh s.buffer s.cursor []) }) := by
    rw [Completion.Engine.step, Completion.Engine.current, hidle]
    simp only [Completion.Engine.corpus_fresh_nil]
    cases d <;> rfl
  rw [complete, hstep]

namespace Console

variable {setup : Setup} {c : Console} {e : InputEvent}

/-! ## Tab -/

/-- The event has the console complete the word at the cursor. -/
def Completes (c : Console) (e : InputEvent) : Prop :=
  (∃ shift, e = .keyPress .tab shift) ∧ c.session.config.toggleKey ≠ .tab ∧
    c.session.isOpen = true

/-- The event has the console look up the members of a chain. -/
def LooksUp (c : Console) (e : InputEvent) (chain : List Char) : Prop :=
  c.Completes e ∧
    c.session.completion.question? c.session.buffer c.session.cursor = some (.members chain)

/-- The look-up of the members of a chain. -/
def lookUp (setup : Setup) (c : Console) (chain : List Char) :
    Except Abort DevConsole.Outcome × Store :=
  (setup.context.evaluate (.ofList (chain ++ ['@']))).run c.host.store

/-- Completion goes by the names, and ends early with them. -/
theorem tab_run (setup : Setup) (c : Console) (d : Direction) :
    (tab setup d).run c =
      match names setup c c.host.store with
      | (.ok ns, store) => (.ok (), ⟨c.session.complete ns d, { c.host with store := store }⟩)
      | (.error a, store) => (.error a, ⟨c.session, { c.host with store := store }⟩) := by
  unfold tab
  rw [Act.run_bind, Act.run_get]
  simp only
  rw [Act.run_bind, run_onStore]
  rcases names setup c c.host.store with ⟨a | ns, store⟩ <;> rfl

/-- The names of members are those that the look-up gives, and a panic is passed on. -/
theorem names_eq {chain : List Char}
    (h : c.session.completion.question? c.session.buffer c.session.cursor =
      some (.members chain)) :
    names setup c c.host.store =
      match lookUp setup c chain with
      | (.ok (.members es), store) => (.ok (es.map (·.name)), store)
      | (.ok (.value _), store) => (.ok [], store)
      | (.error (.failed _), store) => (.ok [], store)
      | (.error (.panicked p), store) => (.error (.panicked p), store) := by
  unfold names
  rw [h]
  rfl

/-- Where no members are asked for, names are given without a look-up. -/
theorem names_of_not_members (h : ∀ chain,
    c.session.completion.question? c.session.buffer c.session.cursor ≠ some (.members chain)) :
    ∃ ns, names setup c c.host.store = (.ok ns, c.host.store) := by
  rw [names]
  cases hquestion : c.session.completion.question? c.session.buffer c.session.cursor with
  | none => exact ⟨_, rfl⟩
  | some q =>
    cases q with
    | members chain => exact absurd hquestion (h chain)
    | commands => exact ⟨_, rfl⟩
    | nothing => exact ⟨_, rfl⟩

/-- There are names, unless the look-up of members panics. -/
theorem names_eq_error_iff {a : Abort} :
    (names setup c c.host.store).1 = .error a ↔
      ∃ chain p, c.session.completion.question? c.session.buffer c.session.cursor =
        some (.members chain) ∧ a = .panicked p ∧
        (lookUp setup c chain).1 = .error (.panicked p) := by
  by_cases hasks : ∃ chain,
      c.session.completion.question? c.session.buffer c.session.cursor = some (.members chain)
  · obtain ⟨chain, hquestion⟩ := hasks
    rw [names_eq hquestion]
    rcases hlook : lookUp setup c chain with ⟨(f | p) | (v | es), store⟩
    · simp [hquestion, hlook]
    · simp [hquestion, hlook, eq_comm]
    · simp [hquestion, hlook]
    · simp [hquestion, hlook]
  · obtain ⟨ns, hnames⟩ := names_of_not_members fun chain h => hasks ⟨chain, h⟩
    rw [hnames]
    constructor
    · nofun
    · rintro ⟨chain, p, hquestion, -⟩
      exact absurd ⟨chain, hquestion⟩ hasks

theorem handleEvent_of_completes (setup : Setup) (h : c.Completes e) :
    ∃ d, (handleEvent setup e).run c = (tab setup d).run c := by
  obtain ⟨⟨shift, rfl⟩, hkey, hopen⟩ := h
  refine ⟨if shift then .backward else .forward, ?_⟩
  exact handlePress_of_open (Ne.symm hkey) rfl hopen shift

theorem handleEvent_of_not_completes (h : ¬ c.Completes e) :
    ((handleEvent setup e).run c).1 = .ok () := by
  cases e with
  | text ch => rfl
  | wheel delta => rfl
  | keyPress key shift =>
    show ((handlePress setup key shift).run c).1 = _
    rw [handlePress_run]
    split
    · rfl
    rename_i hkey
    split
    · rfl
    split
    · rename_i hopen
      cases key with
      | tab => exact absurd ⟨⟨shift, rfl⟩, Ne.symm hkey, hopen⟩ h
      | _ => rfl
    · rfl

/-- Handling an event ends early exactly if it looks up members and the look-up panics, and then
with this panic. -/
theorem handleEvent_eq_error_iff {a : Abort} :
    ((handleEvent setup e).run c).1 = .error a ↔
      ∃ chain p, c.LooksUp e chain ∧ a = .panicked p ∧
        (lookUp setup c chain).1 = .error (.panicked p) := by
  by_cases h : c.Completes e
  · obtain ⟨d, hrun⟩ := handleEvent_of_completes setup h
    have htab : ((tab setup d).run c).1 = .error a ↔
        (names setup c c.host.store).1 = .error a := by
      rw [tab_run]
      rcases names setup c c.host.store with ⟨b | ns, store⟩ <;> simp
    rw [hrun, htab, names_eq_error_iff]
    simp only [LooksUp, h, true_and]
  · rw [handleEvent_of_not_completes h]
    constructor
    · nofun
    · rintro ⟨chain, p, ⟨hcompletes, -⟩, -⟩
      exact absurd hcompletes h

/-! ## Lines -/

/-- What a command may touch of a console. -/
def environment (c : Console) : Environment := ⟨c.host, c.session.scrollback⟩

/-- An environment as an event leaves it to a line: of the console, nothing but the log has changed,
and the line has been echoed or not. -/
structure Hands (c : Console) (line : String) (env : Environment) : Prop where
  store : env.host.store = c.host.store
  requests : env.host.requests = c.host.requests
  scrollback : env.scrollback = c.session.scrollback ∨
    env.scrollback = c.session.scrollback.push ⟨"> " ++ line, c.session.config.palette.echoColor⟩

/-- Handling an event that runs a line comes to its end, and leaves what dispatch leaves. -/
theorem handleEvent_of_line (setup : Setup) {line : String}
    (h : (Operation.event e).line? c.session = some line) :
    ∃ before after, c.Hands line before ∧ (handleEvent setup e).run c = (.ok (), after) ∧
      after.environment =
        (setup.registry.dispatchLine c.session.config.palette line before).2 := by
  cases e with
  | text ch => cases h
  | wheel delta => cases h
  | keyPress key shift =>
    show ∃ before after, _ ∧ (handlePress setup key shift).run c = _ ∧ _
    rw [handlePress_run]
    unfold Operation.line? at h
    simp only at h
    split at h
    · cases h
    rename_i hkey
    rw [if_neg hkey]
    cases hslot : key.slot? with
    | some slot =>
      simp only [hslot] at h
      refine ⟨(c.info ("F" ++ Decimal.natText (slot + 1) ++ " -> " ++ line)).environment,
        fire setup slot c, ⟨rfl, rfl, .inl rfl⟩, rfl, ?_⟩
      rw [fire, h]
      rfl
    | none =>
      simp only [hslot] at h
      split at h
      · rename_i hline
        simp only [Bool.and_eq_true, decide_eq_true_eq, Bool.not_eq_true'] at hline
        obtain ⟨⟨hopen, rfl⟩, hfilled⟩ := hline
        cases h
        rw [if_pos hopen]
        refine ⟨⟨c.host, _⟩, enter setup (c.edit (·.resetCompletion)), ⟨rfl, rfl, .inr rfl⟩, rfl,
          ?_⟩
        have hfilled : (c.edit (·.resetCompletion)).session.buffer.isEmpty = false := hfilled
        rw [enter, hfilled]
        rfl
      · cases h

/-- Host code cannot do more to the handling of an event than this.  The handling ends early exactly
if it looks up the members of a chain and the look-up panics.  If the look-up fails, completion
begins with no candidates, and if it panics, nothing of the session changes; buffer and cursor stay
either way.  A line that the event runs has its say to the end: if its command fails or panics, the
event has been handled and the report stands behind what the command printed. -/
theorem handleEvent_contained (setup : Setup) (c : Console) (e : InputEvent) :
    (∀ a, ((handleEvent setup e).run c).1 = .error a ↔
      ∃ chain p, c.LooksUp e chain ∧ a = .panicked p ∧
        (lookUp setup c chain).1 = .error (.panicked p)) ∧
    (∀ chain, c.LooksUp e chain →
      match lookUp setup c chain with
      | (.ok _, _) => ((handleEvent setup e).run c).1 = .ok ()
      | (.error (.failed _), store) =>
        ∃ r : Completion.Run, r.corpus = [] ∧
          (handleEvent setup e).run c =
            (.ok (), ⟨{ c.session with completion := { c.session.completion with run := some r } },
              { c.host with store := store }⟩)
      | (.error (.panicked p), store) =>
        (handleEvent setup e).run c =
          (.error (.panicked p), ⟨c.session, { c.host with store := store }⟩)) ∧
    ∀ line, (Operation.event e).line? c.session = some line →
      ∃ before after, c.Hands line before ∧ (handleEvent setup e).run c = (.ok (), after) ∧
        after.environment =
          (setup.registry.dispatchLine c.session.config.palette line before).2 ∧
        ∀ word rest cmd act a mid, Text.Begins line.toList word rest →
          setup.registry.get? (.ofList word) = some cmd →
          setup.registry.Acts c.session.config.palette
            (Args.coerce cmd.params ((Text.words rest).map .ofList)) cmd.action act →
          act.run before = (.error a, mid) →
          after.environment = mid.reporting c.session.config.palette
            (Environment.reportLines (Registry.failureOf cmd.name a)) := by
  refine ⟨?_, ?_, ?_⟩
  · intro a
    exact handleEvent_eq_error_iff
  · rintro chain ⟨hcompletes, hquestion⟩
    obtain ⟨d, hrun⟩ := handleEvent_of_completes setup hcompletes
    have hidle : c.session.completion.run = none := by
      unfold Completion.Engine.question? at hquestion
      split at hquestion
      · cases hquestion
      · assumption
    rw [hrun, tab_run, names_eq hquestion]
    rcases lookUp setup c chain with ⟨(f | p) | (v | es), store⟩
    · obtain ⟨r, hr, hcomplete⟩ := Session.complete_nil hidle d
      refine ⟨r, hr, ?_⟩
      simp only [hcomplete]
    · rfl
    · rfl
    · rfl
  · intro line hline
    obtain ⟨before, after, hbefore, hrun, hafter⟩ := handleEvent_of_line setup hline
    refine ⟨before, after, hbefore, hrun, hafter, ?_⟩
    intro word rest cmd act a mid hbegins hcmd hact hends
    rw [hafter, Registry.dispatchLine_of_begins hbegins,
      Registry.dispatch_of_get?_eq_some hcmd, ← Registry.acts_iff.1 hact, hends]
    rfl

end Console

/-! ## A trap -/

namespace Trapped

/-- Reading the member panics. -/
def spring : Accessor where
  name := "x"
  kind := .any
  isStatic := false
  get := fun _ => Act.panic (.saying "boom")
  set := none

/-- One type with this member. -/
def world : World := ⟨{ headers := [{ name := "Trap" }] }, [{ properties := [spring] }]⟩

/-- A trap. -/
def host : Host := { store := { objects := [⟨.declared 0, "Trap", [], false⟩] } }

/-- A fresh console with the trap as root. -/
def setup : Setup := .new {} world (.object ⟨0⟩)

/-- Opened, with the member and a dot typed in. -/
def console : Console where
  session := Turn.takeAll (.new {}) <|
    ⟨setup, host, .reveal⟩ :: "call x.".toList.map fun ch => ⟨setup, host, .event (.text ch)⟩
  host := host

/-- Completing what comes after the dot looks the member up. -/
theorem looksUp_tab : console.LooksUp (.press .tab) ['x'] :=
  ⟨⟨⟨false, rfl⟩, by decide, by decide +kernel⟩, by decide +kernel⟩

/-- The look-up panics. -/
theorem lookUp_fst :
    (Console.lookUp setup console ['x']).1 = .error (.panicked (.saying "boom")) := by
  have hlexes : Lexer.Lexes none ('x' :: ([] ++ ['@'])) [.name "x", .marker] :=
    .word rfl rfl nofun ((Lexer.stopsAt_cons _ _ _).2 rfl) (.single rfl (fun _ => rfl) (.nil _))
  have hparse : Parser.parse (.ofList (['x'] ++ ['@'])) = .ok ⟨some (.name "x" none), true⟩ := by
    refine Lexer.parse_of_lexes ?_ (.valueMembers (.expr (by decide) (.name .noCall)))
    rw [String.toList_ofList]
    exact hlexes
  unfold Console.lookUp Context.evaluate
  rw [hparse]
  rfl

/-- The session stays as it is when the trap springs. -/
theorem handleEvent_contained_tab :
    console.LooksUp (.press .tab) ['x'] ∧
      ∃ p store, (Console.handleEvent setup (.press .tab)).run console =
        (.error (.panicked p), ⟨console.session, { console.host with store := store }⟩) := by
  have hcontained := (Console.handleEvent_contained setup console (.press .tab)).2.1 _ looksUp_tab
  rcases hlook : Console.lookUp setup console ['x'] with ⟨result, store⟩
  have hresult : result = .error (.panicked (.saying "boom")) := by
    rw [← lookUp_fst, hlook]
  rw [hlook, hresult] at hcontained
  exact ⟨looksUp_tab, _, store, hcontained⟩

/-- Handling the event ends early when the trap springs. -/
theorem handleEvent_eq_error :
    ((Console.handleEvent setup (.press .tab)).run console).1 =
      .error (.panicked (.saying "boom")) :=
  Console.handleEvent_eq_error_iff.2 ⟨_, _, looksUp_tab, rfl, lookUp_fst⟩

end Trapped

end DevConsole
