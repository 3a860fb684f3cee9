/-
# `DevConsole.Proofs.Session.Scroll` — when the scrollback is scrolled too far

Scrolling stops at the oldest line of the scrollback, but what is compared is the scrollback as it
is at that moment.  Later the offset stays and the scrollback changes:

    a line is printed                         the scrollback does not get shorter
    the console is opened                     the offset is zero
    the wheel moves                           the offset is clamped again
    the scrollback is cleared                 it is empty, and the offset is what it was

So among the commands of a console there is one after which the offset can point beyond the oldest
line, and it does so exactly if it was not zero (`scroll_le_iff`).  The smallest such run is a line,
a look at it, and `clear` (`scrollback_size_lt_scroll_clear`).
-/
import DevConsole.Proofs.Session.Invariant

namespace DevConsole

/-! ## What changes the two numbers -/

namespace Scrollback

theorem size_le_push {n : Nat} {b : Scrollback} (hb : b.Keeps n) (line : OutputLine) :
    b.size ≤ (b.push line).size := by
  have hsize := hb.size_le
  have hcapacity := hb.capacity_eq
  simp only [push, size, List.length_take, List.length_cons] at hsize ⊢
  omega

theorem Printing.size_le {n : Nat} {b b' : Scrollback} (h : Printing b b') (hb : b.Keeps n) :
    b.size ≤ b'.size ∧ b'.Keeps n := by
  induction h with
  | refl => exact ⟨Nat.le_refl _, hb⟩
  | tail _ hpush ih =>
    obtain ⟨line, rfl⟩ := hpush
    obtain ⟨hle, hkeeps⟩ := ih
    exact ⟨Nat.le_trans hle (size_le_push hkeeps line), hkeeps.push line⟩

end Scrollback

namespace Session

variable {s s' : Session} {n : Nat}

/-- The offset is at most the number of lines. -/
def InBounds (s : Session) : Prop := s.scroll ≤ s.scrollback.size

theorem Change.inBounds (h : Change s s') (hkeeps : s.scrollback.Keeps n) (hs : s.InBounds) :
    s'.InBounds := by
  unfold InBounds at hs ⊢
  rcases h.output_cases.2 with ⟨heq, hscroll | hscroll⟩ | ⟨hscroll, line, heq⟩
  · rw [heq, hscroll]
    exact hs
  · rw [heq]
    exact hscroll
  · rw [heq, hscroll]
    exact Nat.le_trans hs (Scrollback.size_le_push hkeeps line)

theorem Leads.inBounds (h : Leads s s') (hkeeps : s.scrollback.Keeps n) (hs : s.InBounds) :
    s'.InBounds := by
  induction h with
  | refl => exact hs
  | tail hleads hchange ih => exact hchange.inBounds (Leads.keeps hleads hkeeps) ih

end Session

/-! ## Commands that clear -/

namespace Registry

/-- All commands but `clear` print. -/
def Prints (r : Registry) : Prop :=
  ∀ c ∈ r.commands, c = Standard.clear ∨ c.Writes Scrollback.Printing

theorem prints_standard (cx : Context) (placeholder : Char) :
    (Standard.registry cx placeholder).Prints := by
  intro c hc
  rcases Standard.clear_or_writes hc with rfl | hprints
  · exact .inl rfl
  · exact .inr (hprints Scrollback.outputs_printing)

variable {r : Registry} {line : String}

theorem scrollback_of_runs_clear (h : r.Runs line Standard.clear) (palette : Palette)
    (env : Environment) :
    (r.dispatchLine palette line env).2.scrollback = env.scrollback.clear := by
  obtain ⟨name, words, hwords, hget⟩ := h
  rw [dispatchLine, hwords]
  show (r.dispatch palette name words env).2.scrollback = _
  rw [dispatch, hget]
  rfl

theorem printing_of_not_runs_clear (hr : r.Prints) (h : ¬ r.Runs line Standard.clear)
    (palette : Palette) (env : Environment) :
    Scrollback.Printing env.scrollback (r.dispatchLine palette line env).2.scrollback := by
  refine dispatchLine_writes Scrollback.outputs_printing (fun c hc => ?_) palette env
  rcases hr c hc.mem with rfl | hprints
  · exact absurd hc h
  · exact hprints

end Registry

/-! ## Turns -/

namespace Turn

/-- The operation of a turn runs `clear`. -/
def Clears (t : Turn) (s : Session) : Prop :=
  ∃ line, t.operation.line? s = some line ∧ t.setup.registry.Runs line Standard.clear

theorem keepsCapacity_of_prints {t : Turn} (ht : t.setup.registry.Prints) : t.KeepsCapacity := by
  refine keepsCapacity_of_edits fun c hc => ?_
  rcases ht c hc with rfl | hprints
  · exact Standard.clear_writes
  · exact fun handler h palette args env => (hprints handler h palette args env).editing

/-- From within the bounds, a turn leads out of them exactly if it clears what is scrolled. -/
theorem take_inBounds_iff {t : Turn} (ht : t.setup.registry.Prints) {s : Session} {n : Nat}
    (hkeeps : s.scrollback.Keeps n) (hs : s.InBounds) :
    (t.take s).InBounds ↔ (t.Clears s → s.scroll = 0) := by
  have hturned := t.take_turned s
  unfold take Clears
  generalize t.operation.perform t.setup ⟨s, t.host⟩ = c' at hturned ⊢
  generalize t.operation.line? s = line? at hturned ⊢
  cases hturned with
  | quiet h =>
    constructor
    · rintro - ⟨line, hline, -⟩
      cases hline
    · intro _
      exact h.inBounds hkeeps hs
  | @ran d line h hscroll =>
    have hd := h.inBounds hkeeps hs
    by_cases hclear : t.setup.registry.Runs line Standard.clear
    · -- nothing is left to be scrolled
      have hempty := Registry.scrollback_of_runs_clear hclear d.session.config.palette
        ⟨d.host, d.session.scrollback⟩
      have hbounds : (Console.dispatchLine t.setup line d).2.session.InBounds ↔ s.scroll = 0 := by
        show d.session.scroll ≤ Scrollback.size _ ↔ _
        rw [hscroll]
        show s.scroll ≤ (t.setup.registry.dispatchLine _ line _).2.scrollback.size ↔ _
        rw [hempty]
        exact Nat.le_zero
      rw [hbounds]
      constructor
      · exact fun hzero _ => hzero
      · exact fun himp => himp ⟨line, rfl, hclear⟩
    · have hprinting := Registry.printing_of_not_runs_clear ht hclear d.session.config.palette
        ⟨d.host, d.session.scrollback⟩
      constructor
      · rintro - ⟨line', hline, hruns⟩
        cases hline
        exact absurd hruns hclear
      · intro _
        exact Nat.le_trans hd (hprinting.size_le (h.keeps hkeeps)).1

/-- Throughout a run, the offset is at most the number of lines, exactly if nothing in it clears
what is scrolled. -/
theorem scroll_le_iff (cfg : Config) {ts : List Turn} (hts : ∀ t ∈ ts, t.setup.registry.Prints) :
    (∀ us, us <+: ts →
      (takeAll (.new cfg) us).scroll ≤ (takeAll (.new cfg) us).scrollback.size) ↔
    ∀ us t, us ++ [t] <+: ts → t.Clears (takeAll (.new cfg) us) →
      (takeAll (.new cfg) us).scroll = 0 := by
  have hkeeps : ∀ us, us <+: ts →
      (takeAll (.new cfg) us).scrollback.Keeps (max 1 cfg.maxLines) := fun us hus =>
    keeps_takeAll cfg fun t ht => keepsCapacity_of_prints (hts t (hus.subset ht))
  have hstep : ∀ us t, us ++ [t] <+: ts → (takeAll (.new cfg) us).InBounds →
      ((takeAll (.new cfg) (us ++ [t])).InBounds ↔
        (t.Clears (takeAll (.new cfg) us) → (takeAll (.new cfg) us).scroll = 0)) := by
    intro us t hus hbounds
    rw [takeAll_concat]
    refine take_inBounds_iff (hts t (hus.subset ?_)) (hkeeps us ?_) hbounds
    · exact List.mem_append_right _ (List.mem_singleton_self t)
    · exact (List.prefix_append us [t]).trans hus
  constructor
  · intro hbounds us t hus
    exact (hstep us t hus (hbounds us ((List.prefix_append us [t]).trans hus))).1 (hbounds _ hus)
  · intro hclears us
    induction us using List.reverseRecOn with
    | nil => exact fun _ => Nat.le_refl 0
    | append_singleton us t ih =>
      intro hus
      exact (hstep us t hus (ih ((List.prefix_append us [t]).trans hus))).2 (hclears us t hus)

/-- A line is printed, and the wheel is moved to look at it. -/
def look : List Turn :=
  [.print "x", .reveal, .event (.wheel 1)].map (.mk (.new {} Game.world .null) {} ·)

theorem prints_of_mem_look {t : Turn} (ht : t ∈ look) : t.setup.registry.Prints := by
  obtain ⟨op, -, rfl⟩ := List.mem_map.1 ht
  exact Registry.prints_standard _ _

/-- Looking runs nothing. -/
theorem not_clears_of_mem_look {t : Turn} (ht : t ∈ look) (s : Session) : ¬ t.Clears s := by
  rintro ⟨line, hline, -⟩
  simp only [look, List.map_cons, List.map_nil, List.mem_cons, List.not_mem_nil, or_false] at ht
  rcases ht with rfl | rfl | rfl <;> cases hline

/-- A look stays within the scrollback. -/
theorem scroll_le_look :
    (∀ t ∈ look, t.setup.registry.Prints) ∧
    ∀ us, us <+: look →
      (takeAll (.new {}) us).scroll ≤ (takeAll (.new {}) us).scrollback.size := by
  have hprints : ∀ t ∈ look, t.setup.registry.Prints := fun t ht => prints_of_mem_look ht
  refine ⟨hprints, (scroll_le_iff {} hprints).2 ?_⟩
  intro us t hus hclears
  have ht : t ∈ us ++ [t] := List.mem_append_right _ (List.mem_singleton_self t)
  exact absurd hclears (not_clears_of_mem_look (hus.subset ht) _)

/-- If the scrollback is then cleared, the look goes to the line that was there. -/
theorem scrollback_size_lt_scroll_clear :
    let s := takeAll (.new {}) (look ++ [⟨.new {} Game.world .null, {}, .submit "clear"⟩])
    s.scrollback.size < s.scroll := by
  decide +kernel

end Turn

end DevConsole
