/-
# `DevConsole.Proofs.Eval.Keeping` — what evaluation does to the objects

Nothing but host code changes objects, and so what evaluation does to them is what the host code of
the world does, any number of times.  Let `R` relate the objects before to those after and be
reflexive and transitive (`Steps`).  If all host code of a world keeps to `R`, however it ends, and
does not panic, then so does the evaluation of every line (`Context.evaluate_keepsTo`).

Evaluation itself raises no panic and undoes nothing: a line that fails half way has done what it
did, which is why `R` is asked for of failures too.

A read enters getters alone, so that for reads it is enough if getters keep to `R`
(`Context.evalHost_leadsTo`).  There panics do no harm, and are not excluded.
-/
import DevConsole.Proofs.Eval.Frames
import DevConsole.Proofs.Grammar.CallFree

namespace DevConsole

variable {σ α β : Type}

/-- Any number of steps, and there may be none. -/
structure Steps (R : σ → σ → Prop) : Prop where
  refl : ∀ s, R s s
  trans : ∀ {a b c}, R a b → R b c → R a c

/-- However it ends, a computation leads from a state to a related one, and it does not end in a
panic. -/
def Act.KeepsTo (R : σ → σ → Prop) (a : Act σ α) : Prop :=
  ∀ s, R s (a.run s).2 ∧ ∀ p, (a.run s).1 ≠ .error (.panicked p)

/-! ## Computations -/

namespace Act.KeepsTo

variable {R : σ → σ → Prop} (hR : Steps R)
include hR

theorem pure (x : α) : KeepsTo R (Pure.pure x : Act σ α) := by
  intro s
  exact ⟨hR.refl s, nofun⟩

theorem get : KeepsTo R (Act.get : Act σ σ) := by
  intro s
  exact ⟨hR.refl s, nofun⟩

theorem fail (f : Failure) : KeepsTo R (Act.fail f : Act σ α) := by
  intro s
  exact ⟨hR.refl s, nofun⟩

theorem ofExcept (r : Except Failure α) : KeepsTo R (Act.ofExcept r : Act σ α) := by
  cases r with
  | ok x => exact pure hR x
  | error f => exact fail hR f

theorem bind {a : Act σ α} {f : α → Act σ β} (ha : KeepsTo R a) (hf : ∀ x, KeepsTo R (f x)) :
    KeepsTo R (a >>= f) := by
  intro s
  obtain ⟨hfirst, hcalm⟩ := ha s
  rw [run_bind]
  rcases hrun : a.run s with ⟨e | x, s'⟩
  · rw [hrun] at hfirst hcalm
    refine ⟨hfirst, ?_⟩
    rintro p ⟨⟩
    exact hcalm p rfl
  · rw [hrun] at hfirst
    obtain ⟨hrest, hcalm⟩ := hf x s'
    exact ⟨hR.trans hfirst hrest, hcalm⟩

omit hR in
theorem rescue {a : Act σ α} (x : α) (ha : KeepsTo R a) : KeepsTo R (a.rescue x) := by
  intro s
  obtain ⟨hstate, hcalm⟩ := ha s
  rw [run, Act.rescue]
  rw [run] at hstate hcalm
  rcases hrun : a s with ⟨(f | p) | y, s'⟩
  · rw [hrun] at hstate
    refine ⟨hstate, ?_⟩
    rintro p ⟨⟩
  · rw [hrun] at hcalm
    exact absurd rfl (hcalm p)
  · rw [hrun] at hstate
    refine ⟨hstate, ?_⟩
    rintro p ⟨⟩

end Act.KeepsTo

/-- Keeping to a relation between objects, as a property of host code. -/
def Steps.keeping {R : Store → Store → Prop} (hR : Steps R) : HostProperty where
  Holds := Act.KeepsTo R
  pure := .pure hR
  get := .get hR
  refuse c := .fail hR (.of c)
  bind := .bind hR
  rescue := .rescue

/-! ## Evaluation -/

namespace EvalM

variable {R : Store → Store → Prop}

/-- A computation of evaluation keeps to the relation between objects, whatever frames are
active. -/
def KeepsTo (R : Store → Store → Prop) (a : EvalM α) : Prop :=
  Act.KeepsTo (fun r r' : Run => R r.store r'.store) a

theorem steps_store (hR : Steps R) : Steps fun r r' : Run => R r.store r'.store where
  refl r := hR.refl r.store
  trans := hR.trans

theorem KeepsTo.host {a : HostM α} (ha : a.KeepsTo R) : KeepsTo R (EvalM.host a) := by
  intro r
  rw [run_host]
  exact ha r.store

theorem KeepsTo.framed {a : EvalM α} (label : String) (ha : KeepsTo R a) :
    KeepsTo R (EvalM.framed label a) := by
  intro r
  obtain ⟨hstate, hcalm⟩ := ha { r with frames := label :: r.frames }
  rw [Act.run] at hstate hcalm ⊢
  rw [EvalM.framed]
  rcases hrun : a { r with frames := label :: r.frames } with ⟨(f | p) | x, r'⟩
  · rw [hrun] at hstate
    refine ⟨hstate, ?_⟩
    rintro p ⟨⟩
  · rw [hrun] at hcalm
    exact absurd rfl (hcalm p)
  · rw [hrun] at hstate
    refine ⟨hstate, ?_⟩
    rintro p ⟨⟩

end EvalM

/-- Keeping to a relation between objects, as a property of evaluation. -/
def Steps.keepingRun {R : Store → Store → Prop} (hR : Steps R) : EvalProperty hR.keeping where
  Holds := EvalM.KeepsTo R
  host := .host
  bind := Act.KeepsTo.bind (EvalM.steps_store hR)
  framed := .framed

namespace Context

variable {cx : Context} {R : Store → Store → Prop}

section KeepsTo

variable (hR : Steps R) (hw : cx.world.Obeys hR.keeping)
include hw

theorem evalHost_keepsTo (e : Expr) : (cx.evalHost e).KeepsTo R :=
  fun s => evalSigned_obeys hR.keepingRun hw e false ⟨s, []⟩

theorem lineValue_keepsTo (l : Line) : (cx.lineValue l).KeepsTo R := by
  unfold lineValue
  split
  · exact evalHost_keepsTo hR hw _
  · exact .pure hR _

/-- If host code keeps to a relation between objects and does not panic, then so does the evaluation
of every line. -/
theorem evaluate_keepsTo (source : String) : (cx.evaluate source).KeepsTo R := by
  refine .bind hR (.ofExcept hR _) fun l => .bind hR (lineValue_keepsTo hR hw l) fun v => ?_
  split
  · exact .bind hR (.get hR) fun s => .pure hR _
  · exact .pure hR _

end KeepsTo

end Context

/-! ## Reads -/

/-- However it ends, a computation leads from a state to a related one. -/
def Act.LeadsTo (R : σ → σ → Prop) (a : Act σ α) : Prop := ∀ s, R s (a.run s).2

namespace Act.LeadsTo

variable {R : σ → σ → Prop}

theorem bind (hR : Steps R) {a : Act σ α} {f : α → Act σ β} (ha : LeadsTo R a)
    (hf : ∀ x, LeadsTo R (f x)) : LeadsTo R (a >>= f) := by
  intro s
  have hfirst := ha s
  rw [run_bind]
  rcases hrun : a.run s with ⟨e | x, s'⟩
  · rw [hrun] at hfirst
    exact hfirst
  · rw [hrun] at hfirst
    exact hR.trans hfirst (hf x s')

theorem rescue {a : Act σ α} (x : α) (ha : LeadsTo R a) : LeadsTo R (a.rescue x) := by
  intro s
  have hstate := ha s
  rw [run] at hstate ⊢
  rw [Act.rescue]
  rcases hrun : a s with ⟨(f | p) | y, s'⟩ <;>
    rw [hrun] at hstate <;> exact hstate

end Act.LeadsTo

/-- Leading to a related state, as a property of host code. -/
def Steps.leading {R : Store → Store → Prop} (hR : Steps R) : HostProperty where
  Holds := Act.LeadsTo R
  pure _ := hR.refl
  get := hR.refl
  refuse _ := hR.refl
  bind := .bind hR
  rescue := .rescue

/-- Leading to related objects, as a property of evaluation. -/
def Steps.leadingRun {R : Store → Store → Prop} (hR : Steps R) : EvalProperty hR.leading where
  Holds := Act.LeadsTo fun r r' : Run => R r.store r'.store
  host ha r := ha r.store
  bind := .bind (EvalM.steps_store hR)
  framed := by
    intro α a label ha r
    have hstate := ha { r with frames := label :: r.frames }
    rw [Act.run] at hstate ⊢
    rw [EvalM.framed]
    rcases hrun : a { r with frames := label :: r.frames } with ⟨(f | p) | x, r'⟩ <;>
      rw [hrun] at hstate <;> exact hstate

namespace Context

variable {cx : Context} {H : HostProperty}

/-- Reads have every property that getters have. -/
theorem evalSigned_reads (E : EvalProperty H) (hw : cx.world.Reads H) {e : Expr} (he : e.IsRead) :
    ∀ negative, E.Holds (cx.evalSigned negative e) := by
  induction he with
  | literal l =>
    intro negative
    rw [evalSigned]
    exact signed_obeys E negative _
  | name n =>
    intro negative
    rw [evalSigned]
    refine E.bind (E.framed _ (E.host (World.readName_reads hw cx.root n))) fun v => ?_
    exact signed_obeys E negative v
  | member n _ ih =>
    intro negative
    rw [evalSigned]
    refine E.bind (E.framed _ (E.bind (ih false) fun receiver => ?_)) fun v =>
      signed_obeys E negative v
    exact E.host (World.readMember_reads hw receiver n)

/-- If getters keep to a relation between objects, then so do reads. -/
theorem evalHost_leadsTo {R : Store → Store → Prop} (hR : Steps R)
    (hw : cx.world.Reads hR.leading) {e : Expr} (he : e.IsRead) : (cx.evalHost e).LeadsTo R :=
  fun s => evalSigned_reads hR.leadingRun hw he false ⟨s, []⟩

end Context

end DevConsole
