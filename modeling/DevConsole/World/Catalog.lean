/-
The catalog: what values need to know about types.

A header gives the name, base, variants and description of a declared type.  Everything about values
that does not run host code is settled by the catalog and the store: names, subtypes, printing,
equality, which kinds take a value, and the standard conversions.

Types are told apart by name, and a declared type may share its name with a builtin one.
-/
import DevConsole.Number.Arithmetic
import DevConsole.Number.Reading
import DevConsole.Number.Shortest
import DevConsole.Text.Quoted
import DevConsole.Text.Split
import DevConsole.World.Store

namespace DevConsole

/-- What is known about a declared type apart from its members. -/
structure Header where
  name : String
  base : Option TypeRef := none
  /-- The variants of an enumerated type with their ordinals. -/
  variants : Option (List (String × Int64)) := none
  /-- The text of an object of the type. -/
  describe : Store → Object → String := fun _ _ => name

instance : Inhabited Header := ⟨{ name := "" }⟩

/-- The declared types of a world, in the order of their declaration. -/
structure Catalog where
  headers : List Header

namespace Catalog

/-- The header of a type; a builtin one has only its keyword. -/
def header (c : Catalog) : TypeRef → Header
  | .builtin b => { name := b.name }
  | .declared i => c.headers.getD i default

/-- The name of a type. -/
def name (c : Catalog) (t : TypeRef) : String := (c.header t).name

/-- The base of a type.  Only an earlier type can be a base. -/
def base? (c : Catalog) (t : TypeRef) : Option TypeRef :=
  (c.header t).base.filter (·.rank < t.rank)

/-- A type and at most `n` of its bases. -/
def lineage (c : Catalog) : Nat → TypeRef → List TypeRef
  | 0, t => [t]
  | n + 1, t =>
    match c.base? t with
    | none => [t]
    | some b => t :: c.lineage n b

/-- A type followed by its bases, the nearest first. -/
def hierarchy (c : Catalog) (t : TypeRef) : List TypeRef :=
  c.lineage t.rank t

/-- Whether the first type is the second or derives from it. -/
def isSubtype (c : Catalog) (t u : TypeRef) : Bool :=
  (c.hierarchy t).any fun a => c.name a == c.name u

/-- The variants of a type, none for a type that is not enumerated. -/
def variants (c : Catalog) (t : TypeRef) : List (String × Int64) :=
  (c.header t).variants.getD []

/-- Whether a type is enumerated. -/
def isEnum (c : Catalog) (t : TypeRef) : Bool :=
  (c.header t).variants.isSome

/-- The first variant with an ordinal. -/
def variantName? (c : Catalog) (t : TypeRef) (ordinal : Int64) : Option String :=
  ((c.variants t).find? (·.2 == ordinal)).map (·.1)

/-- The ordinal of the first variant with a name. -/
def variantOrdinal? (c : Catalog) (t : TypeRef) (name : String) : Option Int64 :=
  ((c.variants t).find? (·.1 == name)).map (·.2)

/-- The declared type with a name, or else the builtin one. -/
def find? (c : Catalog) (name : String) : Option TypeRef :=
  match c.headers.findIdx? (·.name == name) with
  | some i => some (.declared i)
  | none => (Builtin.ofName? name).map .builtin

/-! ## Hierarchies -/

/-- A base was declared before the types that derive from it. -/
theorem rank_lt_of_base? {c : Catalog} {t b : TypeRef} (h : c.base? t = some b) :
    b.rank < t.rank := by
  simpa using (Option.filter_eq_some_iff.1 h).2

/-- Enough steps give the whole lineage. -/
theorem lineage_eq_of_le (c : Catalog) {m n : Nat} {t : TypeRef} (hm : t.rank ≤ m)
    (hn : t.rank ≤ n) : c.lineage m t = c.lineage n t := by
  induction m generalizing n t with
  | zero =>
    cases n with
    | zero => rfl
    | succ n =>
      cases hb : c.base? t with
      | none => simp [lineage, hb]
      | some b =>
        have := rank_lt_of_base? hb
        omega
  | succ m ih =>
    cases hb : c.base? t with
    | none => cases n <;> simp [lineage, hb]
    | some b =>
      have hlt := rank_lt_of_base? hb
      cases n with
      | zero => omega
      | succ n =>
        simp only [lineage, hb, List.cons.injEq, true_and]
        exact ih (by omega) (by omega)

/-- A hierarchy is the type and then the hierarchy of its base. -/
theorem hierarchy_eq (c : Catalog) (t : TypeRef) :
    c.hierarchy t =
      t :: match c.base? t with
        | none => []
        | some b => c.hierarchy b := by
  unfold hierarchy
  cases hb : c.base? t with
  | none => cases t.rank <;> simp [lineage, hb]
  | some b =>
    have hlt := rank_lt_of_base? hb
    obtain ⟨n, hn⟩ : ∃ n, t.rank = n + 1 := ⟨t.rank - 1, by omega⟩
    rw [hn]
    simp only [lineage, hb, List.cons.injEq, true_and]
    exact c.lineage_eq_of_le (by omega) (Nat.le_refl _)

/-- A type stands in its own hierarchy. -/
theorem mem_hierarchy_self (c : Catalog) (t : TypeRef) : t ∈ c.hierarchy t := by
  rw [hierarchy_eq]
  exact List.mem_cons_self

/-- Every type is a subtype of itself. -/
theorem isSubtype_refl (c : Catalog) (t : TypeRef) : c.isSubtype t t = true := by
  unfold isSubtype
  exact List.any_eq_true.2 ⟨t, c.mem_hierarchy_self t, by simp⟩

/-! ## Kinds -/

/-- The text of a kind. -/
def kindText (c : Catalog) : Kind → String
  | .any => "any"
  | .void => "void"
  | .bool => "bool"
  | .int => "int"
  | .float => "float"
  | .double => "double"
  | .str => "string"
  | .type t => c.name t
  | .own => "Self"

/-- The kind that a type stands for in a cast.  Types with the name of a builtin one stand for the
builtin kind. -/
def kindOf (c : Catalog) (t : TypeRef) : Kind :=
  match Builtin.ofName? (c.name t) with
  | some .bool => .bool
  | some .int => .int
  | some .float => .float
  | some .double => .double
  | some .string => .str
  | none => .type t

/-- Whether two kinds are the same, types being told apart by name. -/
def sameKind (c : Catalog) : Kind → Kind → Bool
  | .type t, .type u => c.name t == c.name u
  | k, l => k == l

/-! ## Printing -/

/-- The name of the type of a value, for messages. -/
def typeName (c : Catalog) (s : Store) : Value → String
  | .null => "null"
  | .type t => "type " ++ c.name t
  | v =>
    match s.typeOf? v with
    | some t => c.name t
    | none => "object"

/-- The text of a value. -/
def display (c : Catalog) (s : Store) : Value → String
  | .null => "null"
  | .bool b => if b then "true" else "false"
  | .int i => Decimal.text i
  | .float x => Shortest.single x
  | .double x => Shortest.double x
  | .str t => t
  | .enum t ordinal => (c.variantName? t ordinal).getD (Decimal.text ordinal)
  | .object r =>
    match s.object? r with
    | some o => if o.inUse then "<object in use>" else (c.header o.type).describe s o
    | none => "<object in use>"
  | .type t => c.name t

/-- The text of a value with its type, as diagnostics show it. -/
def inspect (c : Catalog) (s : Store) : Value → String
  | .str t => "Str(" ++ Text.quoted t ++ ")"
  | .null => "Null"
  | v => c.typeName s v ++ "(" ++ c.display s v ++ ")"

/-- A type with its base, as diagnostics show it. -/
def inspectType (c : Catalog) (t : TypeRef) : String :=
  let base := match c.base? t with
    | some b => "Some(" ++ Text.quoted (c.name b) ++ ")"
    | none => "None"
  "TypeInfo \x7b name: " ++ Text.quoted (c.name t) ++ ", base: " ++ base ++ ", .. \x7d"

/-- A kind, as diagnostics show it. -/
def inspectKind (c : Catalog) (k : Kind) : String := "Kind(" ++ c.kindText k ++ ")"

/-! ## Equality, acceptance and conversion -/

/-- Equality of values: numbers by value, enumerated values by the name of their type and ordinal,
objects by identity, types by name. -/
def same (c : Catalog) : Value → Value → Bool
  | .null, .null => true
  | .bool a, .bool b => a == b
  | .int a, .int b => a == b
  | .float a, .float b => a == b
  | .double a, .double b => a == b
  | .str a, .str b => a == b
  | .enum t a, .enum u b => c.name t == c.name u && a == b
  | .object a, .object b => a == b
  | .type t, .type u => c.name t == c.name u
  | _, _ => false

/-- Whether a value can be stored where the kind is declared, as it is. -/
def isAssignable (c : Catalog) (s : Store) (v : Value) (k : Kind) : Bool :=
  match v, k with
  | _, .any => true
  | .null, .str => true
  | .null, .type t => !c.isEnum t
  | .bool _, .bool => true
  | .int _, .int => true
  | .float _, .float => true
  | .double _, .double => true
  | .str _, .str => true
  | .enum u _, .type t => c.isSubtype u t
  | .object r, .type t =>
    match s.typeOf? (.object r) with
    | some u => c.isSubtype u t
    | none => false
  | _, _ => false

/-- Whether a value can be passed where the kind is declared: as it is, or as a wider number. -/
def accepts (c : Catalog) (s : Store) (k : Kind) (v : Value) : Bool :=
  c.isAssignable s v k ||
    match v, k with
    | .int _, .float | .int _, .double | .float _, .double => true
    | _, _ => false

/-- A truth value written in any case, with blanks around it. -/
def boolOfText? (text : String) : Option Bool :=
  let word := (Text.trim text.toList).map Char.toLower
  if word = "true".toList then some true
  else if word = "false".toList then some false
  else none

/-- The standard conversion of a value that is not assignable as it is: wider and narrower numbers,
reading and writing text, ordinals and names of variants. -/
def coerce? (c : Catalog) (s : Store) (v : Value) (k : Kind) : Option Value :=
  match v, k with
  | .int i, .float => some (.float i.toFloat32)
  | .int i, .double => some (.double i.toFloat)
  | .int i, .bool => some (.bool (i != 0))
  | .float x, .int => (Float32.magnitude x).roundEven?.map .int
  | .float x, .double => some (.double x.toFloat)
  | .float x, .bool => some (.bool (x != 0))
  | .double x, .int => (Float.magnitude x).roundEven?.map .int
  | .double x, .float => some (.float x.toFloat32)
  | .double x, .bool => some (.bool (x != 0))
  | .bool b, .int => some (.int (if b then 1 else 0))
  | .bool b, .float => some (.float (if b then 1 else 0))
  | .bool b, .double => some (.double (if b then 1 else 0))
  | .str t, .int => (Decimal.read (Text.trim t.toList)).map .int
  | .str t, .float => (Reading.single? (Text.trim t.toList)).map .float
  | .str t, .double => (Reading.double? (Text.trim t.toList)).map .double
  | .str t, .bool => (boolOfText? t).map .bool
  | .enum _ ordinal, .int => some (.int ordinal)
  | .int i, .type t => if c.isEnum t then some (.enum t i) else none
  | .str text, .type t =>
    if c.isEnum t then
      (c.variantOrdinal? t (String.ofList (Text.trim text.toList))).map (.enum t)
    else none
  | .bool _, .str | .int _, .str | .float _, .str | .double _, .str | .enum _ _, .str =>
    some (.str (c.display s v))
  | _, _ => none

/-- The standard conversion: the value itself where it is assignable, else by `coerce?`. -/
def convert? (c : Catalog) (s : Store) (v : Value) (k : Kind) : Option Value :=
  if c.isAssignable s v k then some v else c.coerce? s v k

/-- What is assignable converts to itself. -/
theorem convert?_of_isAssignable {c : Catalog} {s : Store} {v : Value} {k : Kind}
    (h : c.isAssignable s v k = true) : c.convert? s v k = some v := by
  simp [convert?, h]

/-! ## Extraction

The payload of a value of an expected sort, integers counting as floats and floats as doubles. -/

/-- The failure for a value that is not of the expected sort. -/
def mismatch (c : Catalog) (s : Store) (expected : String) (v : Value) : Failure :=
  .of (.typeMismatch expected (c.typeName s v))

/-- A truth value. -/
def asBool (c : Catalog) (s : Store) : Value → Except Failure Bool
  | .bool b => .ok b
  | v => .error (c.mismatch s "bool" v)

/-- An integer; an enumerated value counts as its ordinal. -/
def asInt (c : Catalog) (s : Store) : Value → Except Failure Int64
  | .int i => .ok i
  | .enum _ ordinal => .ok ordinal
  | v => .error (c.mismatch s "int" v)

/-- A 32-bit number. -/
def asFloat (c : Catalog) (s : Store) : Value → Except Failure Float32
  | .float x => .ok x
  | .int i => .ok i.toFloat32
  | v => .error (c.mismatch s "float" v)

/-- A 64-bit number. -/
def asDouble (c : Catalog) (s : Store) : Value → Except Failure Float
  | .double x => .ok x
  | .float x => .ok x.toFloat
  | .int i => .ok i.toFloat
  | v => .error (c.mismatch s "double" v)

/-- A text. -/
def asStr (c : Catalog) (s : Store) : Value → Except Failure String
  | .str t => .ok t
  | v => .error (c.mismatch s "string" v)

/-- A reference to an object. -/
def asObject (c : Catalog) (s : Store) : Value → Except Failure ObjectRef
  | .object r => .ok r
  | v => .error (c.mismatch s "object" v)

/-- The type and ordinal of an enumerated value. -/
def asEnum (c : Catalog) (s : Store) : Value → Except Failure (TypeRef × Int64)
  | .enum t ordinal => .ok (t, ordinal)
  | v => .error (c.mismatch s "enum" v)

end Catalog

end DevConsole
