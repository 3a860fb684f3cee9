/-
Computations that change a state and may end early.

The state survives an early end: whatever was changed before a failure or a panic stays changed.
Host callbacks, evaluation and command handlers are all of this kind, over different states.
-/
import DevConsole.Error

namespace DevConsole

/-- A computation over states `σ` with results in `α`. -/
def Act (σ α : Type) : Type := σ → Except Abort α × σ

namespace Act

variable {σ τ α β : Type}

/-- Run from a state. -/
def run (a : Act σ α) (s : σ) : Except Abort α × σ := a s

/-- A result that changes nothing. -/
protected def pure (x : α) : Act σ α := fun s => (.ok x, s)

/-- One computation after another; the second does not start if the first ends early. -/
protected def bind (a : Act σ α) (f : α → Act σ β) : Act σ β := fun s =>
  match a s with
  | (.ok x, s') => f x s'
  | (.error e, s') => (.error e, s')

instance : Monad (Act σ) where
  pure := Act.pure
  bind := Act.bind

/-- The current state. -/
def get : Act σ σ := fun s => (.ok s, s)

/-- Replace the state. -/
def set (s : σ) : Act σ Unit := fun _ => (.ok (), s)

/-- Change the state. -/
def modify (f : σ → σ) : Act σ Unit := fun s => (.ok (), f s)

/-- A result read off the state. -/
def reads (f : σ → α) : Act σ α := fun s => (.ok (f s), s)

/-- End early with a failure. -/
def fail (f : Failure) : Act σ α := fun s => (.error (.failed f), s)

/-- End early with a failure of a cause. -/
def refuse (c : Cause) : Act σ α := fail (.of c)

/-- End early with a panic. -/
def panic (p : Panic) : Act σ α := fun s => (.error (.panicked p), s)

/-- A result or a failure that changes nothing. -/
def ofExcept : Except Failure α → Act σ α
  | .ok x => Act.pure x
  | .error f => fail f

/-- Run a computation on a part of the state. -/
def onPart (part : σ → τ) (put : τ → σ → σ) (a : Act τ α) : Act σ α := fun s =>
  let r := a (part s)
  (r.1, put r.2 s)

/-- Change the failure, but not a panic, of a computation. -/
def mapFailure (f : σ → Failure → Failure) (a : Act σ α) : Act σ α := fun s =>
  match a s with
  | (.error (.failed e), s') => (.error (.failed (f s' e)), s')
  | r => r

/-! ## Running -/

@[simp] theorem run_pure (x : α) (s : σ) : (Pure.pure x : Act σ α).run s = (.ok x, s) := rfl

theorem run_bind (a : Act σ α) (f : α → Act σ β) (s : σ) :
    (a >>= f).run s =
      match a.run s with
      | (.ok x, s') => (f x).run s'
      | (.error e, s') => (.error e, s') := rfl

@[simp] theorem run_get (s : σ) : (get : Act σ σ).run s = (.ok s, s) := rfl

@[simp] theorem run_modify (f : σ → σ) (s : σ) : (modify f).run s = (.ok (), f s) := rfl

@[simp] theorem run_reads (f : σ → α) (s : σ) : (reads f).run s = (.ok (f s), s) := rfl

@[simp] theorem run_fail (e : Failure) (s : σ) :
    (fail e : Act σ α).run s = (.error (.failed e), s) := rfl

@[simp] theorem run_panic (p : Panic) (s : σ) :
    (panic p : Act σ α).run s = (.error (.panicked p), s) := rfl

/-- Mapping the identity over a computation is the computation. -/
theorem id_map_eq (a : Act σ α) : id <$> a = a := by
  funext s
  show (match a s with
    | (.ok x, s') => (Act.pure (id x) : Act σ α) s'
    | (.error e, s') => (.error e, s')) = a s
  rcases a s with ⟨_ | _, _⟩ <;> rfl

/-- Sequences of three may be grouped either way. -/
theorem bind_assoc_eq {γ : Type} (a : Act σ α) (f : α → Act σ β) (g : β → Act σ γ) :
    a >>= f >>= g = a >>= fun x => f x >>= g := by
  funext s
  show (Act.bind (Act.bind a f) g) s = (Act.bind a fun x => Act.bind (f x) g) s
  unfold Act.bind
  rcases a s with ⟨_ | _, _⟩ <;> rfl

instance : LawfulMonad (Act σ) :=
  LawfulMonad.mk' (Act σ) id_map_eq (fun _ _ => rfl) bind_assoc_eq

end Act

end DevConsole
