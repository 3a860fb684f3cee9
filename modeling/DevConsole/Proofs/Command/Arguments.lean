/-
# `DevConsole.Proofs.Command.Arguments` — what a handler finds in its arguments

A command gets one value for each of its parameters, whatever the words of the line are:

    a string in the last place       the words from there on, if they are as many as the parameters
    any other, or with fewer words   its own word if that reads, else the default, else zero

`Args.coerce_complete` says this of every signature that is accepted.  Each value is of the kind of
its parameter (`ArgKind.Holds`), because that is all that words and defaults can read as; and since
a signature has no name twice, a handler that asks for a name gets the value in that place.
-/
import DevConsole.Command.Args
import DevConsole.Proofs.Command.Signature

namespace DevConsole

/-! ## Kinds -/

/-- The value is one of the kind.  A float has to be finite. -/
inductive ArgKind.Holds : ArgKind → Value → Prop where
  | string (s : String) : Holds .string (.str s)
  | int (i : Int64) : Holds .int (.int i)
  | float {x : Float32} (finite : x.isFinite = true) : Holds .float (.float x)
  | bool (b : Bool) : Holds .bool (.bool b)

namespace ArgKind

theorem holds_of_read?_eq_some {k : ArgKind} {text : String} {v : Value}
    (h : k.read? text = some v) : k.Holds v := by
  cases k with
  | string =>
    cases h
    exact .string text
  | int =>
    obtain ⟨i, -, rfl⟩ := Option.map_eq_some_iff.1 h
    exact .int i
  | float =>
    obtain ⟨x, hx, rfl⟩ := Option.map_eq_some_iff.1 h
    exact .float (Option.filter_eq_some_iff.1 hx).2
  | bool =>
    obtain ⟨b, -, rfl⟩ := Option.map_eq_some_iff.1 h
    exact .bool b

theorem holds_zero (k : ArgKind) : k.Holds k.zero := by
  cases k with
  | string => exact .string ""
  | int => exact .int 0
  | float => exact .float (by decide +kernel)
  | bool => exact .bool false

end ArgKind

/-! ## Values -/

namespace ParamSpec

/-- The value for a parameter without a word of its own. -/
def fallback (p : ParamSpec) : Value := (p.default.map Prod.snd).getD p.kind.zero

theorem resolve_eq (p : ParamSpec) (arg : Option String) :
    p.resolve arg = (arg.bind p.kind.read?).getD p.fallback := by
  unfold resolve fallback
  cases arg.bind p.kind.read? with
  | some v => rfl
  | none => cases p.default <;> rfl

/-- A default was read as its kind when the parameter was declared. -/
theorem Spelled.holds_fallback {kindName word : List Char} {p : ParamSpec}
    (h : Spelled kindName word p) : p.kind.Holds p.fallback := by
  unfold fallback
  cases hdefault : p.default with
  | none => exact p.kind.holds_zero
  | some d => exact ArgKind.holds_of_read?_eq_some (h.default_read d hdefault)

theorem Spelled.holds_resolve {kindName word : List Char} {p : ParamSpec}
    (h : Spelled kindName word p) (arg : Option String) : p.kind.Holds (p.resolve arg) := by
  rw [resolve_eq]
  cases hread : arg.bind p.kind.read? with
  | none => exact h.holds_fallback
  | some v =>
    obtain ⟨text, -, htext⟩ := Option.bind_eq_some_iff.1 hread
    exact ArgKind.holds_of_read?_eq_some htext

end ParamSpec

namespace Args

/-- The value for the parameter `p` in place `i` of `count`. -/
def valueAt (raw : List String) (count i : Nat) (p : ParamSpec) : Value :=
  if i + 1 = count ∧ p.kind = .string ∧ count ≤ raw.length then
    .str (Text.join " " (raw.drop i))
  else (raw[i]?.bind p.kind.read?).getD p.fallback

/-- With exactly as many words as parameters there is nothing to join, as the last word stands
alone. -/
theorem valueAt_eq (raw : List String) (count i : Nat) (p : ParamSpec) :
    valueAt raw count i p =
      if i + 1 = count && p.kind = .string && count < raw.length then
        .str (Text.join " " (raw.drop i))
      else p.resolve raw[i]? := by
  unfold valueAt
  rw [p.resolve_eq]
  by_cases hlast : i + 1 = count ∧ p.kind = .string
  swap
  · simp [hlast, ← and_assoc]
  obtain ⟨rfl, hkind⟩ := hlast
  rcases Nat.lt_trichotomy (i + 1) raw.length with hlt | heq | hgt
  · simp [hkind, hlt, Nat.le_of_lt hlt]
  · have hword : raw.drop i = [raw[i]] := by
      rw [List.drop_eq_getElem_cons (by omega), heq, List.drop_length]
    have hget : raw[i]? = some raw[i] := List.getElem?_eq_getElem (by omega)
    simp [hkind, heq, hword, hget, ArgKind.read?, Text.join, Text.joinWith]
  · simp [hkind, Nat.not_le.2 hgt, Nat.lt_asymm hgt]

/-- The values are those for the places, one after the other. -/
theorem getElem?_coerceFrom (raw : List String) (count : Nat) (ps : List ParamSpec) (i j : Nat) :
    (coerceFrom raw count i ps)[j]? =
      ps[j]?.map fun p => (p.name, valueAt raw count (i + j) p) := by
  induction ps generalizing i j with
  | nil => rfl
  | cons p ps ih =>
    rw [coerceFrom]
    cases j with
    | zero => simp [valueAt_eq]
    | succ j => simp [ih, Nat.add_right_comm, Nat.add_assoc]

theorem getElem?_coerce (ps : List ParamSpec) (raw : List String) (i : Nat) :
    (coerce ps raw).values[i]? =
      ps[i]?.map fun p => (p.name, valueAt raw ps.length i p) := by
  rw [coerce, getElem?_coerceFrom, Nat.zero_add]

theorem map_fst_coerce (ps : List ParamSpec) (raw : List String) :
    (coerce ps raw).values.map Prod.fst = ps.map ParamSpec.name := by
  apply List.ext_getElem?
  intro i
  rw [List.getElem?_map, List.getElem?_map, getElem?_coerce, Option.map_map]
  rfl

/-! ## Names -/

/-- A value is found under its name if no other one has that name. -/
theorem lookup_eq_some_of_mem {name : String} {v : Value} {values : List (String × Value)}
    (hnodup : (values.map Prod.fst).Nodup) (h : (name, v) ∈ values) :
    values.lookup name = some v := by
  induction values with
  | nil => cases h
  | cons first values ih =>
    obtain ⟨first, w⟩ := first
    rw [List.map_cons, List.nodup_cons] at hnodup
    obtain ⟨hfirst, hnodup⟩ := hnodup
    rw [List.lookup_cons]
    rcases List.mem_cons.1 h with heq | h
    · cases heq
      simp
    · have hne : name ≠ first := fun heq => hfirst (heq ▸ List.mem_map.2 ⟨_, h, rfl⟩)
      rw [beq_eq_false_iff_ne.2 hne]
      exact ih hnodup h

/-- What the getter for values of a kind returns. -/
def typed (a : Args) (name : String) : ArgKind → Value
  | .string => .str (a.str name)
  | .int => .int (a.int name)
  | .float => .float (a.float name)
  | .bool => .bool (a.bool name)

theorem typed_eq_of_holds {a : Args} {name : String} {k : ArgKind} {v : Value} (hv : k.Holds v)
    (h : a.get? name = some v) : a.typed name k = v := by
  cases hv <;> simp only [typed, str, int, float, bool, h]

/-- With a signature that is accepted, the arguments are complete, whatever the words are: the names
are those of the parameters, each once and in their order, and in each place stands the value for
it, which is of the parameter's kind.  It is what the getters return for the name. -/
theorem coerce_complete {signature : String} {ps : List ParamSpec}
    (h : ParamSpec.parseSignature signature = .ok ps) (raw : List String) :
    (coerce ps raw).values.map Prod.fst = ps.map ParamSpec.name ∧ (ps.map ParamSpec.name).Nodup ∧
      ∀ (i : Nat) (p : ParamSpec), ps[i]? = some p →
        ∃ v, (coerce ps raw).values[i]? = some (p.name, v) ∧ p.kind.Holds v ∧
          (coerce ps raw).get? p.name = some v ∧ (coerce ps raw).typed p.name p.kind = v ∧
          v = if i + 1 = ps.length ∧ p.kind = .string ∧ ps.length ≤ raw.length then
            .str (Text.join " " (raw.drop i))
          else (raw[i]?.bind p.kind.read?).getD ((p.default.map Prod.snd).getD p.kind.zero) := by
  have hnames := map_fst_coerce ps raw
  have hnodup := (ParamSpec.parseSignature_eq_ok_iff.1 h).2
  refine ⟨hnames, hnodup, fun i p hp => ?_⟩
  have hplace : (coerce ps raw).values[i]? = some (p.name, valueAt raw ps.length i p) := by
    rw [getElem?_coerce, hp, Option.map_some]
  have hholds : p.kind.Holds (valueAt raw ps.length i p) := by
    obtain ⟨kindName, word, -, hspelled⟩ :=
      ParamSpec.exists_spelled_of_mem h (List.mem_of_getElem? hp)
    rw [valueAt_eq]
    split
    · rename_i hlast
      simp only [Bool.and_eq_true, decide_eq_true_eq] at hlast
      rw [hlast.1.2]
      exact .string _
    · exact hspelled.holds_resolve raw[i]?
  have hget : (coerce ps raw).get? p.name = some (valueAt raw ps.length i p) :=
    lookup_eq_some_of_mem (hnames ▸ hnodup) (List.mem_of_getElem? hplace)
  exact ⟨_, hplace, hholds, hget, typed_eq_of_holds hholds hget, rfl⟩

/-- A word that does not read as its kind, and a text of several words. -/
theorem coerce_complete_of_surplus :
    let ps : List ParamSpec :=
      [{ name := "n", kind := .int, default := some ("7", .int 7) },
        { name := "text", kind := .string, default := none }]
    ParamSpec.parseSignature "n:int=7 text:string" = .ok ps ∧
      (coerce ps ["a", "b", "=", "1"]).typed "n" .int = .int 7 ∧
      (coerce ps ["a", "b", "=", "1"]).typed "text" .string = .str "b = 1" := by
  intro ps
  have h : ParamSpec.parseSignature "n:int=7 text:string" = .ok ps := rfl
  obtain ⟨n, -, -, -, hn, rfl⟩ := (coerce_complete h ["a", "b", "=", "1"]).2.2 0 _ rfl
  obtain ⟨text, -, -, -, htext, rfl⟩ := (coerce_complete h ["a", "b", "=", "1"]).2.2 1 _ rfl
  have hword : ArgKind.int.read? "a" = none := rfl
  refine ⟨h, hn.trans ?_, htext.trans ?_⟩
  · simp [ps, hword]
  · simp [ps, Text.join, Text.joinWith]

end Args

end DevConsole
