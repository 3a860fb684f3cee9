/-
# `DevConsole.Proofs.Session.RunEnd` — what ends a completion run

A completion run holds the answer to one question.  It is asked when the run begins, about the line
and of the objects as they are then, and going through the candidates asks nothing.  So the answer
is good for nothing but Tab, and a press of any other key is to end the run.  It does so on two of
the three ways that a key can go:

    the toggle key       closes the console, which ends the run
    F1 to F12            run their lines, and leave the run alone
    any other key        ends the run before anything else

Without a run, the next Tab asks again, about the line and of the objects of that moment
(`recomputes_of_idle`).  With the run that a function key has left, it goes on in the old candidates,
whatever the line of the key has done to the objects (`goesOn_of_running`).
-/
import DevConsole.Proofs.Command.Registration
import DevConsole.Proofs.Session.CompletionRun
import DevConsole.Proofs.Session.Containment

namespace DevConsole

/-! ## Tab -/

theorem Draft.Completes.exists_index {d d' : Draft} {names : List String}
    (h : Draft.Completes d names d') :
    ∃ index, d'.engine.run = some { d.current names with index := index } := by
  cases h with
  | missed => exact ⟨_, rfl⟩
  | found hline => exact ⟨_, rfl⟩

namespace Console

variable {setup : Setup} {c : Console}

/-- Without a run, the names answer the question about the line. -/
theorem names_of_idle (h : c.session.completion.run = none) :
    names setup c = answer setup c.session.draft.site.question := by
  unfold names Completion.Engine.question?
  rw [h]
  rfl

/-- During a run, nothing is asked. -/
theorem names_of_running {r : Completion.Run} (h : c.session.completion.run = some r) :
    names setup c = pure [] := by
  unfold names Completion.Engine.question?
  rw [h]

end Console

namespace Turn

variable {t : Turn} {s : Session}

/-- The turn is a press of Tab that completes the word at the cursor. -/
def Completes (t : Turn) (s : Session) : Prop :=
  ∃ e, t.operation = .event e ∧ (⟨s, t.host⟩ : Console).Completes e

/-- The turn leaves a new run, for the line as it is and with the names that answer the question
about it now. -/
def Recomputes (t : Turn) (s : Session) : Prop :=
  ∀ ns store, Console.answer t.setup s.draft.site.question t.host.store = (.ok ns, store) →
    ∃ index, (t.take s).completion.run =
      some { s.completion.fresh s.buffer s.cursor ns with index := index }

/-- The turn goes on in a run. -/
def GoesOn (t : Turn) (s : Session) (r : Completion.Run) : Prop :=
  ∃ index, (t.take s).completion.run = some { r with index := index }

theorem take_of_completes (h : t.Completes s) {ns : List String} {store : Store}
    (hnames : Console.names t.setup ⟨s, t.host⟩ t.host.store = (.ok ns, store)) :
    ∃ d, t.take s = s.complete ns d := by
  obtain ⟨e, ht, hcompletes⟩ := h
  obtain ⟨d, hrun⟩ := Console.handleEvent_of_completes t.setup hcompletes
  refine ⟨d, ?_⟩
  rw [take_event ht, hrun, Console.tab_run]
  simp only [hnames]

/-- Without a run, Tab asks. -/
theorem recomputes_of_idle (h : t.Completes s) (hidle : s.completion.run = none) :
    t.Recomputes s := by
  intro ns store hanswer
  have hnames : Console.names t.setup ⟨s, t.host⟩ t.host.store = (.ok ns, store) := by
    rw [Console.names_of_idle hidle]
    exact hanswer
  obtain ⟨d, htake⟩ := take_of_completes h hnames
  have hcurrent : s.draft.current ns = s.completion.fresh s.buffer s.cursor ns := by
    unfold Draft.current Completion.Engine.current
    rw [show s.draft.engine.run = none from hidle]
    rfl
  rw [htake, ← hcurrent]
  exact (s.completes_draft ns d).exists_index

/-- During a run, Tab goes on in it. -/
theorem goesOn_of_running (h : t.Completes s) {r : Completion.Run}
    (hrun : s.completion.run = some r) : t.GoesOn s r := by
  have hnames : Console.names t.setup ⟨s, t.host⟩ t.host.store = (.ok [], t.host.store) := by
    rw [Console.names_of_running (c := ⟨s, t.host⟩) hrun]
    rfl
  obtain ⟨d, htake⟩ := take_of_completes h hnames
  have hcurrent : s.draft.current [] = r := by
    unfold Draft.current Completion.Engine.current
    rw [show s.draft.engine.run = some r from hrun]
  rw [GoesOn, htake, ← hcurrent]
  exact (s.completes_draft [] d).exists_index

end Turn

/-! ## Other keys -/

namespace Console

variable {setup : Setup} {c : Console}

theorem completion_reveal (c : Console) :
    c.reveal.session.completion = c.session.completion := by
  rw [session_reveal]
  split <;> rfl

/-- Closing ends the run. -/
theorem completion_close (c : Console) :
    c.close.session.completion =
      if c.session.isOpen then c.session.completion.reset else c.session.completion := by
  rw [session_close]
  split <;> rfl

theorem completion_toggle (c : Console) :
    c.toggle.session.completion =
      if c.session.isOpen then c.session.completion.reset else c.session.completion := by
  rw [toggle]
  split
  · rename_i hopen
    rw [completion_close, if_pos hopen]
  · exact completion_reveal c

/-- A function key leaves the run alone. -/
theorem completion_fire (setup : Setup) (slot : Nat) (c : Console) :
    (fire setup slot c).session.completion = c.session.completion := by
  unfold fire
  split <;> rfl

/-- Where a key other than Tab is handled in an open console, it ends the run. -/
theorem completion_handleKey {key : Key} (htab : key ≠ .tab) (shift : Bool) :
    ((handleKey setup key shift).run c).2.session.completion = c.session.completion.reset := by
  cases key with
  | tab => exact absurd rfl htab
  | escape =>
    show (c.edit (·.resetCompletion)).close.session.completion = _
    rw [completion_close]
    exact ite_self _
  | enter =>
    show ((c.edit (·.resetCompletion)).enter setup).session.completion = _
    unfold enter
    split <;> rfl
  | up =>
    show c.session.resetCompletion.older.completion = _
    rw [Session.older_eq]
    rfl
  | down =>
    show c.session.resetCompletion.newer.completion = _
    rw [Session.newer_eq]
    rfl
  | _ => rfl

/-- A press of a key other than Tab ends the run, unless the key is that of a slot. -/
theorem completion_handlePress {key : Key} (htab : key ≠ .tab) (shift : Bool)
    (hopen : c.session.isOpen = true) :
    ((handlePress setup key shift).run c).2.session.completion =
      if key = c.session.config.toggleKey ∨ key.slot? = none then c.session.completion.reset
      else c.session.completion := by
  by_cases hkey : key = c.session.config.toggleKey
  · subst hkey
    rw [handlePress_toggleKey, if_pos (.inl rfl)]
    exact (completion_toggle c).trans (if_pos hopen)
  · by_cases hslot : key.slot? = none
    · rw [handlePress_of_open hkey hslot hopen, if_pos (.inr hslot)]
      exact completion_handleKey htab shift
    · obtain ⟨slot, hslot'⟩ := Option.ne_none_iff_exists'.1 hslot
      rw [handlePress_of_slot hkey hslot', if_neg (not_or.2 ⟨hkey, hslot⟩)]
      exact completion_fire setup slot c

/-- Nothing but Tab begins a run. -/
theorem Outcome.run_eq_none {op : Operation} {c' : Console} (h : Outcome setup c op c')
    (htab : ¬ op.PressesTab) (hidle : c.session.completion.run = none) :
    c'.session.completion.run = none := by
  have hends : (if c.session.isOpen then c.session.completion.reset
      else c.session.completion).run = none := by
    split
    · rfl
    · exact hidle
  cases h with
  | revealed => rwa [completion_reveal]
  | closed => rwa [completion_close]
  | toggled shift => rwa [completion_toggle]
  | fired shift slot => rwa [completion_fire]
  | escaped shift =>
    rw [completion_close]
    split <;> rfl
  | completed => exact absurd rfl htab
  | panicked => exact absurd rfl htab
  | entered => rfl
  | pressed => rfl
  | typed => rfl
  | _ => exact hidle

end Console

namespace Turn

theorem run_take_eq_none {t : Turn} {s : Session} (htab : ¬ t.operation.PressesTab)
    (hidle : s.completion.run = none) : (t.take s).completion.run = none :=
  (t.take_outcome s).run_eq_none htab hidle

theorem run_takeAll_eq_none {s : Session} {us : List Turn}
    (hus : ∀ u ∈ us, ¬ u.operation.PressesTab) (hidle : s.completion.run = none) :
    (takeAll s us).completion.run = none := by
  induction us generalizing s with
  | nil => exact hidle
  | cons u us ih =>
    obtain ⟨hu, hus⟩ := List.forall_mem_cons.1 hus
    exact ih hus (run_take_eq_none hu hidle)

/-- What a key other than Tab does to the run of an open session. -/
theorem run_take {t : Turn} {s : Session} {key : Key} (hopen : s.isOpen = true)
    (htab : key ≠ .tab) (ht : t.operation.Presses key) :
    (t.take s).completion.run =
      if key = s.config.toggleKey ∨ key.slot? = none then none else s.completion.run := by
  obtain ⟨shift, ht⟩ := ht
  rw [take_event ht]
  show ((Console.handlePress t.setup key shift).run ⟨s, t.host⟩).2.session.completion.run = _
  rw [Console.completion_handlePress htab shift hopen]
  split <;> rfl

/-- A press of a key other than Tab, in an open session, leaves a completion run exactly if one was
under way and the key is that of a slot.  Where it leaves none, the next Tab asks about the line and
of the objects that it finds.  A run that it leaves is the old one, and Tab goes on in it. -/
theorem run_ends_iff (cfg : Config) (ts : List Turn)
    (hopen : (takeAll (.new cfg) ts).isOpen = true) (t : Turn) (key : Key) (htab : key ≠ .tab)
    (ht : t.operation.Presses key) :
    ((takeAll (.new cfg) (ts ++ [t])).completion.run = none ↔
      key = cfg.toggleKey ∨ key.slot? = none ∨
        (takeAll (.new cfg) ts).completion.run = none) ∧
    ((takeAll (.new cfg) (ts ++ [t])).completion.run = none →
      ∀ (us : List Turn) (u : Turn), (∀ v ∈ us, ¬ v.operation.PressesTab) →
        u.Completes (takeAll (.new cfg) (ts ++ [t] ++ us)) →
        u.Recomputes (takeAll (.new cfg) (ts ++ [t] ++ us))) ∧
    ∀ r, (takeAll (.new cfg) (ts ++ [t])).completion.run = some r →
      (takeAll (.new cfg) ts).completion.run = some r ∧
      ∀ u : Turn, u.Completes (takeAll (.new cfg) (ts ++ [t])) →
        u.GoesOn (takeAll (.new cfg) (ts ++ [t])) r := by
  have hrun : (takeAll (.new cfg) (ts ++ [t])).completion.run =
      if key = cfg.toggleKey ∨ key.slot? = none then none
      else (takeAll (.new cfg) ts).completion.run := by
    rw [takeAll_concat, run_take hopen htab ht, config_takeAll]
    rfl
  refine ⟨?_, ?_, ?_⟩
  · rw [hrun, ← or_assoc]
    split
    · rename_i hends
      exact iff_of_true rfl (.inl hends)
    · rename_i hends
      exact (or_iff_right hends).symm
  · intro hnone us u hus hu
    refine recomputes_of_idle hu ?_
    rw [takeAll_append]
    exact run_takeAll_eq_none hus hnone
  · intro r hr
    refine ⟨?_, fun u hu => goesOn_of_running hu hr⟩
    rw [hrun] at hr
    split at hr
    · cases hr
    · exact hr

/-- A press of a key in the game's console. -/
def press (key : Key) : Turn := ⟨.new {} Game.world .null, {}, .event (.keyPress key false)⟩

/-- The names of the game's commands, in rising order. -/
def commandNames : List String :=
  ["call", "clear", "exit", "fixed", "framerate", "help", "vsync"]

theorem perm_names : (press .tab).setup.registry.names.Perm commandNames := by
  rw [Registry.names]
  refine (Registry.perm_sorted _).trans ?_
  decide +kernel

theorem sortedLines_names :
    Completion.Engine.sortedLines
      ((Completion.Engine.fitting .commands (press .tab).setup.registry.names).map ([] ++ ·)) =
      commandNames.map String.toList := by
  refine (Completion.Engine.pairwise_sortedLines _).eq_of_mem_iff (by decide +kernel) fun line => ?_
  rw [Completion.Engine.mem_sortedLines, Completion.Engine.fitting, List.map_map,
    (perm_names.map _).mem_iff]
  rfl

/-- The letter completed to the first of the commands that begin with it. -/
theorem takeAll_tabbed :
    takeAll (.new {}) (lettered ++ tabbed) =
      { takeAll (.new {}) lettered with
        buffer := "call".toList
        completion := {
          expressionLead := "call "
          placeholder := '#'
          run := some ⟨['c'], [], [], commandNames.map String.toList, some 0⟩ } } := by
  have hcurrent : (takeAll (.new {}) lettered).completion.current
      (takeAll (.new {}) lettered).buffer (takeAll (.new {}) lettered).cursor
      (press .tab).setup.registry.names =
        ⟨['c'], [], [], commandNames.map String.toList, none⟩ := by
    rw [← sortedLines_names]
    rfl
  rw [takeAll_append]
  show (takeAll (.new {}) lettered).complete (press .tab).setup.registry.names .forward = _
  rw [Session.complete, Completion.Engine.step, hcurrent]
  rfl

/-- The left arrow ends the run that completing the letter has begun, and Tab asks again. -/
theorem run_ends_iff_left :
    (takeAll (.new {}) (lettered ++ tabbed)).isOpen = true ∧ Key.left ≠ .tab ∧
      (press .left).operation.Presses .left ∧
      (takeAll (.new {}) (lettered ++ tabbed ++ [press .left])).completion.run = none ∧
      (press .tab).Completes (takeAll (.new {}) (lettered ++ tabbed ++ [press .left])) ∧
      (press .tab).Recomputes (takeAll (.new {}) (lettered ++ tabbed ++ [press .left])) := by
  have hopen : (takeAll (.new {}) (lettered ++ tabbed)).isOpen = true := by
    rw [takeAll_tabbed]
    rfl
  have htab : Key.left ≠ .tab := by decide
  have hleft : (press .left).operation.Presses .left := ⟨false, rfl⟩
  have hends := run_ends_iff {} (lettered ++ tabbed) hopen (press .left) .left htab hleft
  have hnone := hends.1.2 (.inr (.inl rfl))
  have hcompletes :
      (press .tab).Completes (takeAll (.new {}) (lettered ++ tabbed ++ [press .left])) := by
    rw [takeAll_append, takeAll_tabbed]
    exact ⟨_, rfl, ⟨false, rfl⟩, nofun, rfl⟩
  have hrecomputes := hends.2.1 hnone [] (press .tab) (List.forall_mem_nil _)
  rw [List.append_nil] at hrecomputes
  exact ⟨hopen, htab, hleft, hnone, hcompletes, hrecomputes hcompletes⟩

/-- F5, with no line bound to it, leaves the run, and Tab goes on to its second candidate.  Asked
again about the line `call`, there would be no other. -/
theorem run_function_ne_none :
    (takeAll (.new {}) (lettered ++ tabbed)).isOpen = true ∧
      (takeAll (.new {}) (lettered ++ tabbed ++ [press (.function 5)])).completion.run ≠ none ∧
      (takeAll (.new {}) (lettered ++ tabbed ++ [press (.function 5)])).buffer =
        "call".toList ∧
      (takeAll (.new {}) (lettered ++ tabbed ++ [press (.function 5), press .tab])).buffer =
        "clear".toList := by
  simp only [takeAll_append _ (lettered ++ tabbed), takeAll_tabbed]
  decide +kernel

end Turn

end DevConsole
