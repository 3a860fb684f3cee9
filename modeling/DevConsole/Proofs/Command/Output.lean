/-
# `DevConsole.Proofs.Command.Output` — what commands do to the scrollback

A handler is lent the scrollback to print on.  What it does to it is stated as a relation `R`
between before and after:

    Printing     lines are pushed
    Editing      lines are pushed, and all are dropped

These are the operations of a scrollback, but not all that a handler can do: it may also put another
scrollback in place of the one it is lent.  So either relation is a condition on handlers, and is
proved of those at hand: of the commands of a fresh console all but `clear` print, and `clear` and
the commands that are given as data edit.

Whatever the relation, if it is that of some number of operations and has pushing among them
(`Scrollback.Outputs`), then it is one that reports and services are in.  So dispatch adds nothing
to what the handlers do.
-/
import Mathlib.Logic.Relation
import DevConsole.Proofs.Command.Dispatch

namespace DevConsole

variable {α : Type}

/-! ## The scrollback -/

namespace Scrollback

/-- A line is pushed, or all are dropped. -/
inductive Edit : Scrollback → Scrollback → Prop where
  | push (b : Scrollback) (line : OutputLine) : Edit b (b.push line)
  | clear (b : Scrollback) : Edit b b.clear

/-- Some lines are pushed. -/
abbrev Printing : Scrollback → Scrollback → Prop :=
  Relation.ReflTransGen fun b b' => ∃ line, b' = b.push line

/-- The operations of a scrollback, in any number. -/
abbrev Editing : Scrollback → Scrollback → Prop := Relation.ReflTransGen Edit

/-- Some number of operations, pushing among them. -/
structure Outputs (R : Scrollback → Scrollback → Prop) : Prop where
  refl : ∀ b, R b b
  trans : ∀ {a b c}, R a b → R b c → R a c
  push : ∀ b line, R b (b.push line)

theorem Printing.editing {b b' : Scrollback} (h : Printing b b') : Editing b b' := by
  induction h with
  | refl => exact .refl
  | tail _ hpush ih =>
    obtain ⟨line, rfl⟩ := hpush
    exact ih.tail (.push _ line)

theorem outputs_printing : Outputs Printing where
  refl _ := .refl
  trans := .trans
  push _ line := .single ⟨line, rfl⟩

theorem outputs_editing : Outputs Editing where
  refl _ := .refl
  trans := .trans
  push b line := .single (.push b line)

end Scrollback

/-! ## Commands -/

/-- A computation takes the scrollback from one state to a related one, however it ends. -/
def Act.Writes (R : Scrollback → Scrollback → Prop) (a : Act Environment α) : Prop :=
  ∀ env, R env.scrollback (a.run env).2.scrollback

/-- The handler of a command, if it has one, takes the scrollback to a related one. -/
def Command.Writes (R : Scrollback → Scrollback → Prop) (c : Command) : Prop :=
  ∀ handler, c.action = .run handler → ∀ palette args, Act.Writes R (handler palette args)

namespace Scrollback.Outputs

variable {R : Scrollback → Scrollback → Prop}

/-- Of services, only printing shows in the scrollback. -/
theorem services (hR : Outputs R) :
    Environment.Services fun env env' => R env.scrollback env'.scrollback where
  refl env := hR.refl env.scrollback
  trans := hR.trans
  print env color text := hR.push env.scrollback ⟨text, color⟩
  record env _ _ := hR.refl env.scrollback
  store env _ := hR.refl env.scrollback
  request env _ _ := hR.refl env.scrollback

end Scrollback.Outputs

theorem Scrollback.works_editing :
    Environment.Works fun env env' => Editing env.scrollback env'.scrollback where
  toServices := outputs_editing.services
  clear env := .single (.clear env.scrollback)

section Outputs

variable {R : Scrollback → Scrollback → Prop} (hR : Scrollback.Outputs R)
include hR

/-- Dispatch does to the scrollback what the command of the line does, and prints. -/
theorem Registry.dispatchLine_writes {r : Registry} {line : String}
    (hr : ∀ c, r.Runs line c → c.Writes R) (palette : Palette) (env : Environment) :
    R env.scrollback (r.dispatchLine palette line env).2.scrollback :=
  dispatchLine_does hR.services.toReports hr palette env

end Outputs

/-! ## The commands of a fresh console -/

namespace Standard

open Scrollback

theorem clear_writes : clear.Writes Editing := clear_does works_editing

/-- All commands of a fresh console but `clear` print. -/
theorem clear_or_writes {cx : Context} {placeholder : Char} {c : Command}
    (h : c ∈ (registry cx placeholder).commands) : c = clear ∨ ∀ {R}, Outputs R → c.Writes R :=
  (clear_or_does h).imp_right fun hdoes _ hR => hdoes hR.services

/-- The commands of a fresh console use the operations of the scrollback. -/
theorem writes_of_mem {cx : Context} {placeholder : Char} {c : Command}
    (h : c ∈ (registry cx placeholder).commands) : c.Writes Editing :=
  does_of_mem works_editing h

end Standard

/-! ## Commands given as data -/

/-- A registry stays one whose commands use the operations of the scrollback if a command given as
data joins it. -/
theorem CommandPlan.writes_of_register {p : CommandPlan} {r r' : Registry}
    (hr : ∀ c ∈ r.commands, c.Writes Scrollback.Editing) (h : p.register r = .ok r') :
    ∀ c ∈ r'.commands, c.Writes Scrollback.Editing :=
  does_of_register Scrollback.works_editing hr h

end DevConsole
