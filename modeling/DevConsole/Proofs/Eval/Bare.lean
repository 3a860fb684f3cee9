/-
# `DevConsole.Proofs.Eval.Bare` — evaluation with the traces of failures dropped

Two expressions that do the same in different frames fail with different traces and are the same
otherwise.  To say this, the traces are dropped: of a failure the cause is left, which its kind and
its message are read off (`Act.bare`).

With the traces dropped, the active frames have no effect any more, whatever host code does
(`Context.evalSigned_steady`), so that they can be left out (`EvalM.bare`).  What is left are laws
by which an evaluation is taken apart into host code:

    (a >>= f).bare               a.bare >>= fun x => (f x).bare
    (framed label a).bare        a.bare
    (host a).bare                a.bare

A value that is given is the same with the traces and without (`Act.bare_run_eq_ok_iff`).
-/
import DevConsole.Proofs.Eval.Keeping
import DevConsole.Proofs.Eval.ReadBack

namespace DevConsole

variable {σ α β : Type}

/-! ## Computations -/

/-- How a computation ends, without the trace. -/
def Abort.bare : Abort → Abort
  | .failed f => .failed (.of f.cause)
  | .panicked p => .panicked p

theorem Abort.bare_traced (f : Failure) (frames : List String) :
    (Abort.failed (f.traced frames)).bare = (Abort.failed f).bare := by
  rw [bare, bare, Failure.cause_traced]

namespace Act

variable {a : Act σ α} {s s' : σ} {x : α}

/-- A computation whose failures have no trace. -/
def bare (a : Act σ α) : Act σ α := fun s => ((a.run s).1.mapError Abort.bare, (a.run s).2)

theorem run_bare (a : Act σ α) (s : σ) :
    a.bare.run s = ((a.run s).1.mapError Abort.bare, (a.run s).2) := rfl

@[simp] theorem bare_pure (x : α) : (Pure.pure x : Act σ α).bare = Pure.pure x := rfl

theorem bare_bind (a : Act σ α) (f : α → Act σ β) :
    (a >>= f).bare = a.bare >>= fun x => (f x).bare := by
  funext s
  show (a >>= f).bare.run s = (a.bare >>= fun x => (f x).bare).run s
  rw [run_bare, run_bind, run_bind, run_bare]
  rcases a.run s with ⟨e | x, s'⟩ <;> rfl

/-- Dropping the trace of a failure changes nothing where there is none. -/
theorem bare_run_eq_ok_iff : a.bare.run s = (.ok x, s') ↔ a.run s = (.ok x, s') := by
  rw [run_bare]
  rcases a.run s with ⟨e | y, s₁⟩
  · exact ⟨nofun, nofun⟩
  · rfl

/-- Computations that are the same but for traces give the same values. -/
theorem run_eq_ok_iff_of_bare {b : Act σ α} (h : a.bare = b.bare) :
    a.run s = (.ok x, s') ↔ b.run s = (.ok x, s') := by
  rw [← bare_run_eq_ok_iff, h, bare_run_eq_ok_iff]

end Act

/-! ## Frames -/

namespace EvalM

/-- A computation of evaluation as host code: from no active frames, and without traces. -/
def bare (a : EvalM α) : HostM α := fun s =>
  ((Act.bare a ⟨s, []⟩).1, (Act.bare a ⟨s, []⟩).2.store)

/-- With the traces dropped, the active frames are a base that a computation neither looks at nor
changes. -/
def Steady (a : EvalM α) : Prop := ∀ s F,
  Act.bare a ⟨s, F⟩ = ((a.bare.run s).1, ⟨(a.bare.run s).2, F⟩)

/-- A trace is all that a frame gives to what leaves it. -/
theorem bare_framed_apply (label : String) (a : EvalM α) (s : Store) (F : List String) :
    Act.bare (framed label a) ⟨s, F⟩ =
      ((Act.bare a ⟨s, label :: F⟩).1,
        { (Act.bare a ⟨s, label :: F⟩).2 with
          frames := (Act.bare a ⟨s, label :: F⟩).2.frames.tail }) := by
  simp only [Act.bare, Act.run, framed]
  rcases a ⟨s, label :: F⟩ with ⟨(f | p) | x, r⟩
  · show (Except.error (Abort.failed (f.traced _)).bare, _) =
      (Except.error (Abort.failed f).bare, _)
    rw [Abort.bare_traced]
  · rfl
  · rfl

namespace Steady

theorem host (a : HostM α) : Steady (EvalM.host a) := by
  intro s F
  rfl

theorem bare_framed {a : EvalM α} (ha : a.Steady) (label : String) :
    (EvalM.framed label a).bare = a.bare := by
  funext s
  rw [EvalM.bare, bare_framed_apply, ha s [label]]
  rfl

theorem framed {a : EvalM α} (label : String) (ha : a.Steady) : Steady (EvalM.framed label a) := by
  intro s F
  rw [ha.bare_framed, bare_framed_apply, ha s (label :: F)]
  rfl

/-- Sequences are taken apart, from whatever frames. -/
theorem bare_bind_apply {a : EvalM α} {f : α → EvalM β} (ha : a.Steady) (s : Store)
    (F : List String) : Act.bare (a >>= f) ⟨s, F⟩ =
      match a.bare.run s with
      | (.ok x, s') => Act.bare (f x) ⟨s', F⟩
      | (.error e, s') => (.error e, ⟨s', F⟩) := by
  rw [Act.bare_bind]
  show (Act.bare a >>= fun x => Act.bare (f x)).run ⟨s, F⟩ = _
  rw [Act.run_bind, show (Act.bare a).run ⟨s, F⟩ = _ from ha s F]
  rcases a.bare.run s with ⟨e | x, s'⟩ <;> rfl

theorem bare_bind {a : EvalM α} (ha : a.Steady) (f : α → EvalM β) :
    (a >>= f).bare = a.bare >>= fun x => (f x).bare := by
  funext s
  show (a >>= f).bare s = (a.bare >>= fun x => (f x).bare).run s
  rw [EvalM.bare, ha.bare_bind_apply, Act.run_bind]
  rcases a.bare.run s with ⟨e | x, s'⟩ <;> rfl

theorem bind {a : EvalM α} {f : α → EvalM β} (ha : a.Steady) (hf : ∀ x, (f x).Steady) :
    Steady (a >>= f) := by
  intro s F
  rw [ha.bare_bind_apply, ha.bare_bind, Act.run_bind]
  rcases a.bare.run s with ⟨e | x, s'⟩
  · rfl
  · exact hf x s' F

end Steady

@[simp] theorem bare_pure (x : α) : EvalM.bare (Pure.pure x) = Pure.pure x := rfl

@[simp] theorem bare_host (a : HostM α) : (host a).bare = Act.bare a := rfl

end EvalM

/-! ## Evaluation -/

/-- What holds of all host code. -/
def anything : HostProperty where
  Holds _ := True
  pure _ := trivial
  get := trivial
  refuse _ := trivial
  bind _ _ := trivial
  rescue _ _ := trivial

theorem World.obeys_anything (w : World) : w.Obeys anything := by
  intro ms _
  exact ⟨fun _ _ => ⟨fun _ => trivial, fun _ _ _ _ => trivial⟩, fun _ _ _ _ => trivial,
    fun _ _ _ _ => trivial, fun _ _ _ => trivial⟩

/-- Being steady, as a property that asks nothing of host code. -/
def steadily : EvalProperty anything where
  Holds := EvalM.Steady
  host _ := .host _
  bind := .bind
  framed := .framed

namespace Context

variable (cx : Context)

/-- With the traces dropped, evaluation neither looks at the active frames nor changes them. -/
theorem evalSigned_steady (e : Expr) (negative : Bool) : (cx.evalSigned negative e).Steady :=
  evalSigned_obeys steadily cx.world.obeys_anything e negative

theorem evalOperands_steady (os : List Operand) : (cx.evalOperands os).Steady :=
  evalOperands_obeys steadily os fun o _ => cx.evalSigned_steady o.expr false

theorem bare_eval (e : Expr) : (cx.eval e).bare = (cx.evalHost e).bare := rfl

theorem bare_evalOperands_nil : (cx.evalOperands []).bare = pure [] := by
  rw [evalOperands, EvalM.bare_pure]

theorem bare_evalOperands_value (e : Expr) (os : List Operand) :
    (cx.evalOperands (.value e :: os)).bare = (do
      let v ← (cx.evalHost e).bare
      let vs ← (cx.evalOperands os).bare
      return v :: vs) := by
  rw [evalOperands, evalOperand, (cx.evalSigned_steady e false).bare_bind]
  simp only [(cx.evalOperands_steady os).bare_bind, EvalM.bare_pure]
  rfl

theorem bare_evalOperands_type (e : Expr) (os : List Operand) :
    (cx.evalOperands (.type e :: os)).bare = (do
      let v ← (cx.evalHost e).bare
      let t ← (typeValue e v).bare
      let vs ← (cx.evalOperands os).bare
      return .type t :: vs) := by
  have htype : ∀ v, (typeValue e v).Steady := typeValue_obeys steadily e
  rw [evalOperands, evalOperand, bind_assoc, (cx.evalSigned_steady e false).bare_bind]
  simp only [bind_assoc, pure_bind, (htype _).bare_bind, (cx.evalOperands_steady os).bare_bind,
    EvalM.bare_pure]
  rfl

/-- An expression in a frame: its operands, and the step that it takes with their values. -/
theorem bare_evalHost_framed {e : Expr} {os : List Operand} (h : e.operands? = some os) :
    (cx.evalHost e).bare = (cx.evalOperands os).bare >>= fun vs => (cx.finish e vs).bare := by
  have hoperands := cx.evalOperands_steady os
  rw [← bare_eval, eval_framed h, (hoperands.bind fun vs => .host _).bare_framed,
    hoperands.bare_bind]
  rfl

variable {cx}

theorem bare_evaluate {source : String} {e : Expr}
    (h : Parser.parse source = .ok ⟨some e, false⟩) :
    (cx.evaluate source).bare = (cx.evalHost e >>= fun v => pure (.value v)).bare := by
  funext s
  show (cx.evaluate source).bare.run s = (cx.evalHost e >>= fun v => pure (.value v)).bare.run s
  rw [Act.run_bare, Act.run_bare, evaluate_of_parse h, Act.run_bind, run_evalHost]
  rcases (cx.eval e).run ⟨s, []⟩ with ⟨a | v, r⟩ <;> rfl

end Context

end DevConsole
