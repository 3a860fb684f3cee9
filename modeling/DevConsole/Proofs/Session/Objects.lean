/-
# `DevConsole.Proofs.Session.Objects` — what a console does to the objects

A console with the commands of a fresh one comes to the objects in two places, and evaluates in
both: the command `call`, which a typed line or the line of a function key may run, and the look-up
of members for a completion.  Opening, closing, editing and the history do not touch them.  So where
evaluation keeps to a relation between objects and does not panic, the handling of events does too,
and comes to its end (`handleEvents_run`).
-/
import DevConsole.Proofs.Command.Dispatch
import DevConsole.Proofs.Eval.Keeping
import DevConsole.Proofs.Session.Containment

namespace DevConsole

variable {R : Store → Store → Prop}

/-- Reports leave the objects alone. -/
theorem Environment.reports_store (hR : Steps R) :
    Reports fun env env' => R env.host.store env'.host.store where
  refl env := hR.refl env.host.store
  trans := hR.trans
  print env _ _ := hR.refl env.host.store
  record env _ _ := hR.refl env.host.store

/-- The commands of a fresh console do to the objects what evaluation does. -/
theorem Standard.store_does (hR : Steps R) {cx : Context}
    (hcx : ∀ source, (cx.evaluate source).KeepsTo R) {placeholder : Char} {c : Command}
    (h : c ∈ (registry cx placeholder).commands) :
    c.Does fun env env' => R env.host.store env'.host.store := by
  rcases clear_or_evaluates h with rfl | hdoes
  · exact Command.does_of_run rfl fun _ _ env => hR.refl env.host.store
  · exact hdoes (Environment.reports_store hR) (fun env _ _ => hR.refl env.host.store)
      fun source env => (hcx source env.host.store).1

/-- A connection with the commands of a fresh console, whose evaluation keeps to the relation. -/
structure Setup.KeepsTo (R : Store → Store → Prop) (setup : Setup) : Prop where
  registry_eq : ∃ placeholder, setup.registry = Standard.registry setup.context placeholder
  evaluate : ∀ source, (setup.context.evaluate source).KeepsTo R

namespace Console

/-! ## Operations that leave the objects alone -/

theorem store_switchInput (c : Console) (enabled : Bool) :
    (c.switchInput enabled).host.store = c.host.store := by
  unfold switchInput
  split <;> rfl

theorem store_reveal (c : Console) : c.reveal.host.store = c.host.store := by
  unfold reveal
  split
  · exact store_switchInput _ false
  · rfl

theorem store_close (c : Console) : c.close.host.store = c.host.store := by
  unfold close
  split
  · exact store_switchInput _ true
  · rfl

theorem store_toggle (c : Console) : c.toggle.host.store = c.host.store := by
  unfold toggle
  split
  · exact store_close c
  · exact store_reveal c

/-- A frame in which the toggle key is pressed. -/
theorem store_update_toggle (setup : Setup) (c : Console) :
    ((update setup [.press c.session.config.toggleKey]).run c).2.host.store = c.host.store := by
  have htoggle := handlePress_toggleKey setup false (c.edit (·.beginFrame))
  have hrun : (update setup [.press c.session.config.toggleKey]).run c =
      (.ok (), (c.edit (·.beginFrame)).toggle) := by
    show (handlePress setup (c.edit (·.beginFrame)).session.config.toggleKey false >>=
      fun _ => pure ()).run (c.edit (·.beginFrame)) = _
    rw [Act.run_bind, htoggle]
    rfl
  rw [hrun]
  exact store_toggle _

/-! ## Events -/

variable {setup : Setup} (hR : Steps R) (hsetup : setup.KeepsTo R)
include hR hsetup

theorem store_dispatchLine (line : String) (c : Console) :
    R c.host.store (dispatchLine setup line c).2.host.store := by
  have hdoes : ∀ cmd, setup.registry.Runs line cmd →
      cmd.Does fun env env' => R env.host.store env'.host.store := by
    intro cmd hruns
    obtain ⟨placeholder, hregistry⟩ := hsetup.registry_eq
    have hmem := hruns.mem
    rw [hregistry] at hmem
    exact Standard.store_does hR hsetup.evaluate hmem
  exact Registry.dispatchLine_does (Environment.reports_store hR) hdoes c.session.config.palette
    ⟨c.host, c.session.scrollback⟩

theorem store_submit (line : String) (c : Console) :
    R c.host.store (submit setup line c).2.host.store :=
  store_dispatchLine hR hsetup line <| c.edit fun s =>
    { s with
      history := s.history.push line
      scrollback := s.scrollback.push ⟨"> " ++ line, s.config.palette.echoColor⟩ }

theorem store_fire (slot : Nat) (c : Console) :
    R c.host.store (fire setup slot c).host.store := by
  unfold fire
  split
  · exact hR.refl _
  · exact store_dispatchLine hR hsetup _ (c.info _)

/-- The names for a completion are looked up by evaluating. -/
theorem store_names (c : Console) : R c.host.store (names setup c c.host.store).2 := by
  by_cases hasks : ∃ chain,
      c.session.completion.question? c.session.buffer c.session.cursor = some (.members chain)
  · obtain ⟨chain, hquestion⟩ := hasks
    have hlook : R c.host.store (lookUp setup c chain).2 := (hsetup.evaluate _ c.host.store).1
    rw [names_eq hquestion]
    rcases hrun : lookUp setup c chain with ⟨(f | p) | (v | es), store⟩ <;>
      rw [hrun] at hlook <;> exact hlook
  · obtain ⟨ns, hnames⟩ := names_of_not_members fun chain h => hasks ⟨chain, h⟩
    rw [hnames]
    exact hR.refl _

theorem store_tab (d : Direction) (c : Console) :
    R c.host.store ((tab setup d).run c).2.host.store := by
  have hnames := store_names hR hsetup c
  rw [tab_run]
  rcases hrun : names setup c c.host.store with ⟨a | ns, store⟩ <;>
    rw [hrun] at hnames <;> exact hnames

theorem store_handleEvent (e : InputEvent) (c : Console) :
    R c.host.store ((handleEvent setup e).run c).2.host.store := by
  by_cases hcompletes : c.Completes e
  · obtain ⟨d, hrun⟩ := handleEvent_of_completes setup hcompletes
    rw [hrun]
    exact store_tab hR hsetup d c
  · have houtcome := @perform_outcome setup (.event e) c
    rw [show Operation.perform setup (.event e) c = ((handleEvent setup e).run c).2 from rfl]
      at houtcome
    generalize ((handleEvent setup e).run c).2 = c' at houtcome
    cases houtcome with
    | toggled shift =>
      rw [store_toggle]
      exact hR.refl _
    | fired shift slot => exact store_fire hR hsetup slot c
    | escaped shift =>
      rw [store_close]
      exact hR.refl _
    | entered shift line =>
      exact store_submit hR hsetup line
        (c.edit fun s => { s.resetCompletion.replaceLine [] with seek := none })
    | completed shift names d store hkey hopen =>
      exact absurd ⟨⟨shift, rfl⟩, Ne.symm hkey, hopen⟩ hcompletes
    | panicked shift store hkey hopen =>
      exact absurd ⟨⟨shift, rfl⟩, Ne.symm hkey, hopen⟩ hcompletes
    | _ => exact hR.refl _

omit hR in
/-- An event is handled to its end. -/
theorem handleEvent_eq_ok (e : InputEvent) (c : Console) :
    ((handleEvent setup e).run c).1 = .ok () := by
  rcases hrun : ((handleEvent setup e).run c).1 with a | ⟨⟩
  · obtain ⟨chain, p, -, -, hpanic⟩ := handleEvent_eq_error_iff.1 hrun
    exact absurd hpanic ((hsetup.evaluate _ c.host.store).2 p)
  · rfl

/-- Events are handled to their end, and do to the objects what evaluation does. -/
theorem handleEvents_run (es : List InputEvent) (c : Console) :
    ∃ c', (handleEvents setup es).run c = (.ok (), c') ∧ R c.host.store c'.host.store := by
  induction es generalizing c with
  | nil => exact ⟨c, rfl, hR.refl _⟩
  | cons e es ih =>
    have hok := handleEvent_eq_ok hsetup e c
    have hstore := store_handleEvent hR hsetup e c
    rcases hrun : (handleEvent setup e).run c with ⟨result, c₁⟩
    rw [hrun] at hok hstore
    obtain ⟨c', hrest, hstore'⟩ := ih c₁
    refine ⟨c', ?_, hR.trans hstore hstore'⟩
    show (handleEvent setup e >>= fun _ => handleEvents setup es).run c = _
    rw [Act.run_bind, hrun, show result = .ok () from hok]
    exact hrest

theorem update_run (es : List InputEvent) (c : Console) :
    ∃ c', (update setup es).run c = (.ok (), c') ∧ R c.host.store c'.host.store :=
  handleEvents_run hR hsetup es (c.edit (·.beginFrame))

end Console

end DevConsole
