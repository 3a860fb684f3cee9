/-
Arguments of a command: one value for each parameter, addressed by name.
-/
import DevConsole.Command.Param

namespace DevConsole

/-- Values by parameter name, in the order of the parameters. -/
structure Args where
  values : List (String × Value)
deriving Repr

namespace Args

/-- Values for the parameters from on the `i`-th of `count`.  When there are more words than
parameters, a string parameter in the last place takes all the words that are left. -/
def coerceFrom (raw : List String) (count : Nat) : Nat → List ParamSpec → List (String × Value)
  | _, [] => []
  | i, p :: ps =>
    let v :=
      if i + 1 = count && p.kind = .string && count < raw.length then
        .str (Text.join " " (raw.drop i))
      else p.resolve raw[i]?
    (p.name, v) :: coerceFrom raw count (i + 1) ps

/-- Fit words to parameters by position. -/
def coerce (params : List ParamSpec) (raw : List String) : Args :=
  ⟨coerceFrom raw params.length 0 params⟩

/-- The value of a parameter. -/
def get? (a : Args) (name : String) : Option Value := a.values.lookup name

/-- The number of parameters. -/
def size (a : Args) : Nat := a.values.length

/-- A text argument, empty if there is none. -/
def str (a : Args) (name : String) : String :=
  match a.get? name with
  | some (.str s) => s
  | _ => ""

/-- An integer argument, zero if there is none. -/
def int (a : Args) (name : String) : Int64 :=
  match a.get? name with
  | some (.int i) => i
  | _ => 0

/-- A float argument, zero if there is none.  Integers count as floats. -/
def float (a : Args) (name : String) : Float32 :=
  match a.get? name with
  | some (.float x) => x
  | some (.int i) => i.toFloat32
  | _ => 0

/-- A truth value, false if there is none. -/
def bool (a : Args) (name : String) : Bool :=
  match a.get? name with
  | some (.bool b) => b
  | _ => false

end Args

end DevConsole
