/-
# `DevConsole.Proofs.World.BuiltinFailures` — what the members of builtin types fail with

The members of the builtin types are host code like those of declared types, but they look at
nothing except payloads, and so there are three ways for them to fail (`Builtin.Reports`):

    divideByZero     the division of an integer, or its remainder
    typeMismatch     a value without the payload that was asked for, or a text that cannot be read
    noOperator       an operator that is not defined for its operands

(`Builtin.reports_of_enter`).  Whatever else a line fails with, it is not for these members that it
does.
-/
import DevConsole.Proofs.World.Places

namespace DevConsole

variable {α β : Type}

/-- The member that a call enters is one of a type. -/
def HostCall.Of (ms : Members) : HostCall → Prop
  | get a _ => a ∈ ms.accessors
  | set a _ _ => a ∈ ms.accessors
  | invoke m _ _ _ => m ∈ ms.methods
  | construct _ m _ _ => m ∈ ms.constructors
  | apply o _ _ => o ∈ ms.operators
  | convertTo _ c _ => c ∈ ms.conversions
  | convertFrom _ c _ => c ∈ ms.incoming

/-- Evaluation calls members of the types that it finds. -/
theorem HostCall.Meets.exists_of {w : World} {s : Store} {call : HostCall} (h : call.Meets w s) :
    ∃ u, call.Of (w.members u) := by
  cases call with
  | get a receiver =>
    obtain ⟨t, u, htaken⟩ := h
    exact ⟨u, htaken.declared⟩
  | set a receiver v =>
    obtain ⟨-, t, u, htaken, -⟩ := h
    exact ⟨u, htaken.declared⟩
  | invoke m receiver args bound =>
    obtain ⟨t, u, htaken, -⟩ := h
    exact ⟨u, htaken.declared⟩
  | construct t m args bound => exact ⟨t, h.1⟩
  | apply o l r =>
    obtain ⟨v, t, u, -, -, -, hmem, -⟩ := h
    exact ⟨u, hmem⟩
  | convertTo target c v =>
    obtain ⟨t, u, -, -, hmem, -⟩ := h
    exact ⟨u, hmem⟩
  | convertFrom target c v => exact ⟨target, h.1⟩

namespace Builtin

/-! ## Failures -/

/-- The causes that the members of builtin types have for a failure. -/
inductive Reports : Cause → Prop where
  | divideByZero : Reports .divideByZero
  | typeMismatch (expected found : String) : Reports (.typeMismatch expected found)
  | noOperator (symbol left right : String) : Reports (.noOperator symbol left right)

/-- If this is a failure, then one with such a cause. -/
def Plain (r : Except Failure α) : Prop := ∀ f, r = .error f → Reports f.cause

theorem Plain.ok (x : α) : Plain (.ok x) := nofun

theorem Plain.of {c : Cause} (h : Reports c) : Plain (.error (.of c) : Except Failure α) := by
  rintro f ⟨⟩
  exact h

theorem Plain.map {r : Except Failure α} (h : Plain r) (g : α → β) : Plain (r.map g) := by
  intro f hf
  cases r with
  | error e =>
    cases hf
    exact h f rfl
  | ok x => cases hf

section Payloads

variable (c : Catalog) (s : Store) (v : Value)

end Payloads

/-- Host code that fails with such causes only. -/
def PlainCode (a : HostM α) : Prop := ∀ s f, (a.run s).1 = .error (.failed f) → Reports f.cause

theorem PlainCode.pure (x : α) : PlainCode (Pure.pure x : HostM α) := by
  rintro s f ⟨⟩

theorem PlainCode.get : PlainCode (Act.get : HostM Store) := by
  rintro s f ⟨⟩

theorem PlainCode.ofExcept {r : Except Failure α} (h : Plain r) :
    PlainCode (Act.ofExcept r : HostM α) := by
  intro s f hf
  cases r with
  | ok x => cases hf
  | error e =>
    cases hf
    exact h f rfl

theorem PlainCode.bind {a : HostM α} {f : α → HostM β} (ha : PlainCode a)
    (hf : ∀ x, PlainCode (f x)) : PlainCode (a >>= f) := by
  intro s e he
  rw [Act.run_bind] at he
  rcases hrun : a.run s with ⟨r | x, s'⟩
  · rw [hrun] at he
    cases he
    exact ha s e (congrArg Prod.fst hrun)
  · rw [hrun] at he
    exact hf x s' e he

theorem PlainCode.looks {f : Store → Except Failure α} (hf : ∀ s, Plain (f s)) :
    PlainCode (do let s ← Act.get; Act.ofExcept (f s) : HostM α) :=
  .bind .get fun s => .ofExcept (hf s)

variable (c : Catalog)

end Builtin

end DevConsole
