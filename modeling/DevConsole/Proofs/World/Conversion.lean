/-
# `DevConsole.Proofs.World.Conversion` — the standard conversion

Setters, arguments and casts to enumerated types rest on one conversion:

    the value itself    where it is assignable to the kind
    `coerce?`           where it is not

Whatever comes out is assignable to the kind, so converting once more changes nothing: the values
that convert to themselves are the assignable ones (`convert?_eq_self_iff`).  A value that is
accepted is assignable or a narrower number, and either way it converts.
-/
import DevConsole.Proofs.Eval.Overloads

namespace DevConsole

namespace Catalog

variable {c : Catalog} {s : Store} {v w : Value} {k : Kind}

/-- The values that convert to themselves are the assignable ones. -/
theorem convert?_eq_self_iff : c.convert? s v k = some v ↔ c.isAssignable s v k = true :=
  ⟨isAssignable_of_convert?, convert?_of_isAssignable⟩

/-- What has been converted converts to itself. -/
theorem convert?_of_convert? (h : c.convert? s v k = some w) : c.convert? s w k = some w :=
  convert?_eq_self_iff.2 (isAssignable_of_convert? h)

/-- The standard conversion gives values of the kind and is the identity on them, so doing it twice
is doing it once; and every value that is accepted where the kind is declared has one. -/
theorem convert?_lawful (c : Catalog) (s : Store) (v : Value) (k : Kind) :
    (∀ w, c.convert? s v k = some w →
      c.isAssignable s w k = true ∧ c.convert? s w k = some w) ∧
    (c.isAssignable s v k = true → c.convert? s v k = some v) ∧
    (c.accepts s k v = true → (c.convert? s v k).isSome = true) := by
  refine ⟨?_, ?_, ?_⟩
  · intro w hw
    exact ⟨isAssignable_of_convert? hw, convert?_of_convert? hw⟩
  · intro hv
    exact convert?_of_isAssignable hv
  · intro hv
    exact World.isSome_convert?_of_accepts hv

end Catalog

/-! ## A type of two variants -/

namespace Seasons

/-- An enumerated type. -/
def catalog : Catalog where
  headers := [{ name := "Season", variants := some [("Summer", 0), ("Winter", 10)] }]

/-- The name of a variant becomes the variant, which is of the type and stays as it is; an integer
is accepted where a number with a fraction is declared, and becomes one. -/
theorem convert?_lawful_variant :
    let season : Kind := .type (.declared 0)
    (catalog.convert? {} (.str " Winter ") season = some (.enum (.declared 0) 10) ∧
      catalog.isAssignable {} (.enum (.declared 0) 10) season = true ∧
      catalog.convert? {} (.enum (.declared 0) 10) season = some (.enum (.declared 0) 10)) ∧
    (catalog.convert? {} (.int 3) .double).isSome = true := by
  intro season
  have hname : catalog.convert? {} (.str " Winter ") season =
      some (.enum (.declared 0) 10) := by
    rfl
  obtain ⟨hgives, -, -⟩ := Catalog.convert?_lawful catalog {} (.str " Winter ") season
  obtain ⟨hassignable, hagain⟩ := hgives _ hname
  obtain ⟨-, hself, -⟩ :=
    Catalog.convert?_lawful catalog {} (.enum (.declared 0) 10) season
  obtain ⟨-, -, haccepted⟩ := Catalog.convert?_lawful catalog {} (.int 3) .double
  exact ⟨⟨hname, hassignable, hself hassignable⟩, haccepted rfl⟩

end Seasons

end DevConsole
