/-
# `DevConsole.Proofs.Session.CompletionRun` — a completion run describes the line

A completion run keeps a copy of the line, cut up around the word at the cursor, and the lines that
may come instead.  The line and the cursor of the session are kept apart from it.  Nothing compares
the two: they agree because whatever else edits the line ends the run first.

What matters is the line with its cursor and the engine (`Draft`), and an operation does one of three
things to it:

    stays        most of them
    ends         the run ends, and the line may become another one
    completes    a press of Tab, unless Tab toggles the console

A step of completion leaves a line that its run describes (`Completes.described`), and until the run
has ended nothing before or after the word is touched (`Step.onWord`).  Both hold throughout, by
induction over the turns.  That the cursor stands within the line is needed for the first step of a
run, which cuts the line there, and is an invariant of its own.
-/
import Mathlib.Data.List.Induction
import DevConsole.Demo.Game
import DevConsole.Proofs.Completion.Candidates
import DevConsole.Proofs.Completion.Chain
import DevConsole.Proofs.Session.Invariant
import DevConsole.Proofs.Session.Outcome

namespace DevConsole

namespace Completion

/-! ## The word at the cursor -/

namespace Site

variable (e : Engine) {buffer : List Char} {cursor : Nat}

/-- The word starts at the cursor or before it. -/
theorem before_isPrefix (buffer : List Char) (cursor : Nat) :
    (e.site buffer cursor).before <+: (e.site buffer cursor).lead :=
  List.take_prefix_take_left (Scan.wordStart_le _ _)

/-- And it ends at the cursor or after it. -/
theorem suffix_append_tail (buffer : List Char) (cursor : Nat) :
    (e.site buffer cursor).suffix ++ (e.site buffer cursor).tail =
      buffer.drop (buffer.length - cursor) := by
  have hstop := Scan.le_wordEnd (normalize e.placeholder
    (expressionStart? e.expressionLead.toList buffer) buffer) (buffer.length - cursor)
  rw [length_normalize] at hstop
  simp only [Engine.site]
  generalize Scan.wordEnd _ _ = stop at hstop ⊢
  rw [← List.drop_append_of_le_length, List.take_append_drop]
  rw [List.length_take]
  omega

end Site

/-! ## Runs -/

namespace Run

/-- The line and the cursor are where the run has got to. -/
def Describes (r : Run) (buffer : List Char) (cursor : Nat) : Prop :=
  match r.index with
  | some i => ∃ line, r.corpus[i]? = some line ∧ buffer = line ++ r.tail ∧ cursor = r.tail.length
  | none => buffer = r.lead ++ r.suffix ++ r.tail ∧ cursor = (r.suffix ++ r.tail).length

/-- The run is about the word between two texts. -/
structure Between (before tail : List Char) (r : Run) : Prop where
  lead : before <+: r.lead
  corpus : ∀ line ∈ r.corpus, before <+: line
  tail_eq : r.tail = tail

variable {r : Run} {buffer before tail : List Char} {cursor : Nat}

theorem Describes.between (h : r.Describes buffer cursor) (hr : r.Between before tail) :
    ∃ word, buffer = before ++ word ++ tail := by
  unfold Describes at h
  rw [hr.tail_eq] at h
  split at h
  · obtain ⟨line, hline, rfl, -⟩ := h
    obtain ⟨word, rfl⟩ := hr.corpus line (List.mem_of_getElem? hline)
    exact ⟨word, rfl⟩
  · obtain ⟨rfl, -⟩ := h
    obtain ⟨word, hword⟩ := hr.lead
    exact ⟨word ++ r.suffix, by rw [← hword, List.append_assoc before]⟩

/-- A new run describes the line that it is made from. -/
theorem describes_fresh (e : Engine) (hcursor : cursor ≤ buffer.length) (names : List String) :
    (e.fresh buffer cursor names).Describes buffer cursor := by
  have hafter := Site.suffix_append_tail e buffer cursor
  constructor
  · show buffer = buffer.take _ ++ (e.site buffer cursor).suffix ++ (e.site buffer cursor).tail
    rw [List.append_assoc, hafter, List.take_append_drop]
  · show cursor = ((e.site buffer cursor).suffix ++ (e.site buffer cursor).tail).length
    rw [hafter, List.length_drop]
    omega

/-- All lines of a new run are the same up to the word. -/
theorem between_fresh (e : Engine) (buffer : List Char) (cursor : Nat) (names : List String) :
    (e.fresh buffer cursor names).Between (e.site buffer cursor).before
      (e.site buffer cursor).tail where
  lead := Site.before_isPrefix e buffer cursor
  corpus line hline := by
    obtain ⟨name, -, rfl⟩ := List.mem_map.1 (Engine.mem_sortedLines.1 hline)
    exact List.prefix_append _ name
  tail_eq := rfl

end Run

end Completion

/-! ## Drafts -/

/-- The line with its cursor, and the engine that completes it. -/
structure Draft where
  buffer : List Char
  cursor : Nat
  engine : Completion.Engine

/-- The draft of a session. -/
def Session.draft (s : Session) : Draft := ⟨s.buffer, s.cursor, s.completion⟩

/-- The operation is a press of Tab, with or without shift. -/
def Operation.PressesTab : Operation → Prop
  | event (.keyPress key _) => key = .tab
  | _ => False

namespace Draft

/-- The word at the cursor. -/
def site (d : Draft) : Completion.Site := d.engine.site d.buffer d.cursor

/-- The run under way, or a new one. -/
def current (d : Draft) (names : List String) : Completion.Run :=
  d.engine.current d.buffer d.cursor names

/-- The run under way, if there is one, describes the line. -/
def Described (d : Draft) : Prop := ∀ r, d.engine.run = some r → r.Describes d.buffer d.cursor

/-- What a step of completion makes of a draft. -/
inductive Completes (d : Draft) (names : List String) : Draft → Prop where
  | missed : Completes d names
      { d with engine := { d.engine with run := some (d.current names) } }
  | found {i : Nat} {line : List Char} : (d.current names).corpus[i]? = some line →
      Completes d names ⟨line ++ (d.current names).tail, (d.current names).tail.length,
        { d.engine with run := some { d.current names with index := some i } }⟩

/-- What an operation does to the draft. -/
inductive Step (toggleKey : Key) : Operation → Draft → Draft → Prop where
  | stays {op : Operation} (d : Draft) : Step toggleKey op d d
  | ends {op : Operation} {d d' : Draft} : d'.engine = d.engine.reset →
      (op.PressesTab → toggleKey = .tab ∧ d'.buffer = d.buffer ∧ d'.cursor = d.cursor) →
      Step toggleKey op d d'
  | completes {op : Operation} {d d' : Draft} (names : List String) :
      toggleKey ≠ .tab → Completes d names d' → Step toggleKey op d d'

variable {toggleKey : Key} {op : Operation} {d d' : Draft} {names : List String}

/-! ### The run describes the line -/

theorem describes_current (hcursor : d.cursor ≤ d.buffer.length) (hd : d.Described) :
    (d.current names).Describes d.buffer d.cursor := by
  unfold current Completion.Engine.current
  split
  · rename_i r hr
    exact hd r hr
  · exact Completion.Run.describes_fresh d.engine hcursor names

theorem Completes.run_ne_none (h : Completes d names d') : d'.engine.run ≠ none := by
  cases h <;> exact Option.some_ne_none _

theorem Completes.described (h : Completes d names d') (hcursor : d.cursor ≤ d.buffer.length)
    (hd : d.Described) : d'.Described := by
  intro r hr
  cases h with
  | missed =>
    cases hr
    exact describes_current hcursor hd
  | found hline =>
    cases hr
    exact ⟨_, hline, rfl, rfl⟩

theorem Step.described (h : Step toggleKey op d d') (hcursor : d.cursor ≤ d.buffer.length)
    (hd : d.Described) : d'.Described := by
  cases h with
  | stays => exact hd
  | ends hengine =>
    intro r hr
    rw [hengine] at hr
    cases hr
  | completes names hkey hcompletes => exact hcompletes.described hcursor hd

/-! ### The run keeps to its word -/

/-- From a draft `o` without a run, completion can have come to a draft: it is still the same, or
has a run for the word of `o`. -/
inductive OnWord (toggleKey : Key) (o : Draft) : Draft → Prop where
  | waiting : OnWord toggleKey o o
  | running {d : Draft} {r : Completion.Run} : toggleKey ≠ .tab → d.engine.run = some r →
      r.Between o.site.before o.site.tail → OnWord toggleKey o d

variable {o : Draft}

theorem OnWord.between_current (hd : OnWord toggleKey o d) (hidle : o.engine.run = none)
    (names : List String) : (d.current names).Between o.site.before o.site.tail := by
  unfold current Completion.Engine.current
  cases hd with
  | waiting =>
    rw [hidle]
    exact Completion.Run.between_fresh d.engine d.buffer d.cursor names
  | running hkey hrun hr =>
    rw [hrun]
    exact hr

theorem Step.onWord (h : Step toggleKey op d d') (hop : op.PressesTab ∨ d'.engine.run ≠ none)
    (hidle : o.engine.run = none) (hd : OnWord toggleKey o d) : OnWord toggleKey o d' := by
  cases h with
  | stays => exact hd
  | ends hengine htab =>
    -- a run ends here only if Tab is the toggle key, and then there has been none
    have hrun : d'.engine.run = none := by
      rw [hengine]
      rfl
    obtain ⟨hkey, hbuffer, hcursor⟩ := htab (hop.resolve_right fun h => h hrun)
    cases hd with
    | running hkey' => exact absurd hkey hkey'
    | waiting =>
      have hsame : d.engine.reset = d.engine := by
        unfold Completion.Engine.reset
        rw [← hidle]
      obtain ⟨buffer, cursor, engine⟩ := d'
      cases hbuffer
      cases hcursor
      cases hengine.trans hsame
      exact .waiting
  | completes names hkey hcompletes =>
    have hcurrent := hd.between_current hidle names
    cases hcompletes with
    | missed => exact .running hkey rfl hcurrent
    | found hline => exact .running hkey rfl { hcurrent with }

theorem OnWord.exists_word (hd : OnWord toggleKey o d) (hcursor : o.cursor ≤ o.buffer.length)
    (hdescribed : d.Described) : ∃ word, d.buffer = o.site.before ++ word ++ o.site.tail := by
  cases hd with
  | waiting =>
    exact (Completion.Run.describes_fresh d.engine hcursor []).between
      (Completion.Run.between_fresh d.engine d.buffer d.cursor [])
  | running hkey hrun hr => exact (hdescribed _ hrun).between hr

end Draft

/-! ## The draft of a session -/

theorem Session.completes_draft (s : Session) (names : List String) (d : Direction) :
    s.draft.Completes names (s.complete names d).draft := by
  unfold Session.complete Completion.Engine.step
  extract_lets r
  cases hcycle : cycle r.corpus r.lead r.index d with
  | none => exact .missed
  | some i =>
    have hline : r.corpus[i]? = some (r.corpus.getD i []) := by
      rw [List.getD_eq_getElem?_getD, List.getElem?_eq_getElem (lt_of_cycle_eq_some hcycle)]
      rfl
    exact .found hline

namespace Console

variable {setup : Setup} {op : Operation} {c c' : Console}

theorem draft_reveal (c : Console) : c.reveal.session.draft = c.session.draft := by
  rw [session_reveal]
  split <;> rfl

theorem draft_close (c : Console) {toggleKey : Key} (htab : op.PressesTab → toggleKey = .tab) :
    Draft.Step toggleKey op c.session.draft c.close.session.draft := by
  rw [session_close]
  split
  · exact .ends rfl fun h => ⟨htab h, rfl, rfl⟩
  · exact .stays _

/-- Every operation does one of the three things to the draft. -/
theorem Outcome.draft (h : Outcome setup c op c') :
    Draft.Step c.session.config.toggleKey op c.session.draft c'.session.draft := by
  cases h with
  | revealed =>
    rw [draft_reveal]
    exact .stays _
  | closed => exact draft_close c nofun
  | toggled shift =>
    unfold toggle
    split
    · exact draft_close c id
    · rw [draft_reveal]
      exact .stays _
  | escaped shift hkey hopen =>
    rw [session_close]
    split <;> exact .ends rfl nofun
  | entered shift line hkey hopen => exact .ends rfl nofun
  | pressed shift buffer cursor seek hkey htab hopen => exact .ends rfl fun h => absurd h htab
  | typed ch buffer hopen => exact .ends rfl nofun
  | completed shift names d store hkey hopen =>
    exact .completes names (Ne.symm hkey) (c.session.completes_draft names d)
  | fired shift slot hkey hslot =>
    unfold fire
    split <;> exact .stays _
  | _ => exact .stays _

end Console

/-! ## Turns -/

namespace Turn

/-- Every turn is a press of Tab, or leaves a completion under way. -/
def Completing : Session → List Turn → Prop
  | _, [] => True
  | s, t :: ts =>
    (t.operation.PressesTab ∨ (t.take s).completion.run ≠ none) ∧ Completing (t.take s) ts

theorem completing_of_presses {ts : List Turn} (hts : ∀ t ∈ ts, t.operation.PressesTab)
    (s : Session) : Completing s ts := by
  induction ts generalizing s with
  | nil => exact trivial
  | cons t ts ih =>
    obtain ⟨ht, hts⟩ := List.forall_mem_cons.1 hts
    exact ⟨.inl ht, ih hts _⟩

theorem draft_take (t : Turn) (s : Session) :
    Draft.Step s.config.toggleKey t.operation s.draft (t.take s).draft :=
  (t.take_outcome s).draft

theorem described_takeAll (cfg : Config) (ts : List Turn) :
    (takeAll (.new cfg) ts).draft.Described := by
  induction ts using List.reverseRecOn with
  | nil => exact fun r hr => by cases hr
  | append_singleton ts t ih =>
    rw [takeAll_concat]
    exact (t.draft_take _).described (sound_takeAll cfg ts).cursor_le ih

/-- Completion keeps to the word that it began at. -/
theorem onWord_takeAll {o : Draft} (hidle : o.engine.run = none) {s : Session} {us : List Turn}
    (hus : Completing s us) (hs : Draft.OnWord s.config.toggleKey o s.draft) :
    Draft.OnWord s.config.toggleKey o (takeAll s us).draft := by
  induction us generalizing s with
  | nil => exact hs
  | cons t us ih =>
    obtain ⟨ht, hus⟩ := hus
    have hkey : (t.take s).config.toggleKey = s.config.toggleKey :=
      congrArg Config.toggleKey (config_takeAll s [t])
    have hnext := (t.draft_take s).onWord ht hidle hs
    rw [← hkey] at hnext ⊢
    exact ih hus hnext

/-- Whatever is done to a session, a completion run that is under way describes its line.  From
where a run begins, completion replaces nothing but the word at the cursor there. -/
theorem completion_describes (cfg : Config) (ts : List Turn) :
    (∀ r, (takeAll (.new cfg) ts).completion.run = some r →
      r.Describes (takeAll (.new cfg) ts).buffer (takeAll (.new cfg) ts).cursor) ∧
    ((takeAll (.new cfg) ts).completion.run = none →
      ∀ us, Completing (takeAll (.new cfg) ts) us →
        ∃ word, (takeAll (.new cfg) (ts ++ us)).buffer =
          (takeAll (.new cfg) ts).draft.site.before ++ word ++
            (takeAll (.new cfg) ts).draft.site.tail) := by
  refine ⟨described_takeAll cfg ts, fun hidle us hus => ?_⟩
  have hword := onWord_takeAll hidle hus .waiting
  rw [← takeAll_append] at hword
  exact hword.exists_word (sound_takeAll cfg ts).cursor_le (described_takeAll cfg (ts ++ us))

/-- The game's console, opened, with the first letter of a command. -/
def lettered : List Turn :=
  [⟨.new {} Game.world .null, {}, .reveal⟩, ⟨.new {} Game.world .null, {}, .event (.text 'c')⟩]

/-- A press of Tab. -/
def tabbed : List Turn := [⟨.new {} Game.world .null, {}, .event (.keyPress .tab false)⟩]

/-- Completing the letter begins a run. -/
theorem completion_describes_letter :
    (takeAll (.new {}) lettered).completion.run = none ∧
      Completing (takeAll (.new {}) lettered) tabbed ∧
      (∃ word, (takeAll (.new {}) (lettered ++ tabbed)).buffer =
        (takeAll (.new {}) lettered).draft.site.before ++ word ++
          (takeAll (.new {}) lettered).draft.site.tail) ∧
      ∃ r, (takeAll (.new {}) (lettered ++ tabbed)).completion.run = some r ∧
        r.Describes (takeAll (.new {}) (lettered ++ tabbed)).buffer
          (takeAll (.new {}) (lettered ++ tabbed)).cursor := by
  have hidle : (takeAll (.new {}) lettered).completion.run = none := rfl
  have htab : ∀ t ∈ tabbed, t.operation.PressesTab := List.forall_mem_singleton.2 rfl
  have htabs := completing_of_presses htab (takeAll (.new {}) lettered)
  have hrun : (takeAll (.new {}) (lettered ++ tabbed)).completion.run ≠ none := by
    rw [takeAll_append]
    exact ((takeAll (.new {}) lettered).completes_draft _ .forward).run_ne_none
  obtain ⟨r, hr⟩ := Option.ne_none_iff_exists'.1 hrun
  exact ⟨hidle, htabs, (completion_describes {} lettered).2 hidle tabbed htabs, r, hr,
    (completion_describes {} (lettered ++ tabbed)).1 r hr⟩

end Turn

end DevConsole
