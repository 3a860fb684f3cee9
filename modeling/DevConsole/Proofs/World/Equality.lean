/-
# `DevConsole.Proofs.World.Equality` — equality does not depend on the order of its operands

`l == r` asks the type of `l` for an entry, then the type of `r`, and compares identity where
neither has one that accepts both.  No step of this is symmetric.  Values without an equality of
their own (`World.StandardEquality`) are compared alike in both orders all the same, because of what
an entry accepts:

    declared by                 accepts                               compares
    a builtin type              null and builtin values               by the arithmetic
    an enumeration              values of it and of derived ones      ordinals
    the type of an object       not declared

So an entry is found for two builtin values, or for two enumerated values that have a type in
common, and everything else is compared by identity.  Both parts of the second case are symmetric:
whether there is a type in common does not depend on which of the two hierarchies is walked.

There is one exception.  Types are told apart by their names, and so an enumeration accepts an
object that has nothing to do with it if a type of the object has the name of one of its own
(`World.Mistakes`).  Its entry is found then, in either order, and fails on the object.

Numbers are widened before they are compared, each to the same type in both orders, and the
equality of floating-point numbers is symmetric although it is not reflexive.
-/
import DevConsole.Proofs.World.OperatorTables
import Mathlib

namespace DevConsole

/-! ## Numbers -/

namespace Arithmetic

open Float.Model (UnpackedFloat)

variable {op : Operator} {l r : Value}

theorem unpacked_beq_comm (x y : UnpackedFloat) : x.beq y = y.beq x := by
  rw [Bool.eq_iff_iff, UnpackedFloat.beq_iff_ne_notANumber_and_eq,
    UnpackedFloat.beq_iff_ne_notANumber_and_eq]
  grind

theorem float_beq_comm (x y : Float) : (x == y) = (y == x) :=
  unpacked_beq_comm x.toModel.unpack y.toModel.unpack

theorem float32_beq_comm (x y : Float32) : (x == y) = (y == x) :=
  unpacked_beq_comm x.toModel.unpack y.toModel.unpack

/-- A number is not equal to one that it is below: there is one comparison behind both questions. -/
theorem unpacked_beq_of_lt {x y : UnpackedFloat} (h : x.lt y = true) : x.beq y = false := by
  rw [UnpackedFloat.lt, beq_iff_eq] at h
  rw [UnpackedFloat.beq, h]
  rfl

theorem order_eq {p q : Prop} [Decidable p] [Decidable q] {e : Bool} (h : p → e = false) :
    ((if p then some Ordering.lt else if e then some .eq else if q then some .gt else none) ==
      some .eq) = e := by
  split
  · rename_i hp
    rw [h hp]
    rfl
  · cases e with
    | true => rfl
    | false =>
      simp only [Bool.false_eq_true, if_false]
      split <;> rfl

theorem floatOrder_eq (x y : Float) : (floatOrder x y == some .eq) = (x == y) :=
  order_eq fun h => unpacked_beq_of_lt (of_decide_eq_true h)

theorem float32Order_eq (x y : Float32) : (float32Order x y == some .eq) = (x == y) :=
  order_eq fun h => unpacked_beq_of_lt (of_decide_eq_true h)

theorem intOrder_eq (i j : Int64) : (some (intOrder i j) == some .eq) = (i == j) := by
  unfold intOrder
  split
  · rename_i hlt
    have hne : (i == j) = false := beq_eq_false_iff_ne.2 (Int64.ne_of_lt hlt)
    rw [hne]
    rfl
  · split
    · rename_i heq
      rw [heq, BEq.rfl (a := j)]
      rfl
    · rename_i hne
      rw [beq_eq_false_iff_ne.2 hne]
      rfl

/-- Equality and inequality ask for nothing but whether two operands are in the order of equals. -/
theorem compare?_equality (hop : op = .eq ∨ op = .ne) (order : Option Ordering) :
    compare? op order = some ((order == some .eq) == (op == .eq)) := by
  rcases hop with rfl | rfl <;> rcases order with _ | _ | _ | _ <;> rfl

/-- A computation answers `b` to equality, and so the opposite to inequality. -/
def Answers (f : Operator → Option (Except Failure Value)) (b : Bool) : Prop :=
  ∀ op, op = .eq ∨ op = .ne → f op = some (.ok (.bool (b == (op == .eq))))

theorem int?_answers (i j : Int64) : Answers (int? · i j) (i == j) := by
  intro op hop
  have hcompare : int? op i j =
      (compare? op (some (intOrder i j))).map fun x => .ok (.bool x) := by
    rcases hop with rfl | rfl <;> rfl
  simp only [hcompare, compare?_equality hop, intOrder_eq, Option.map_some]

theorem float?_answers (x y : Float32) :
    Answers (fun op => (float? op x y).map .ok) (x == y) := by
  intro op hop
  have hcompare : float? op x y = (compare? op (float32Order x y)).map .bool := by
    rcases hop with rfl | rfl <;> rfl
  simp only [hcompare, compare?_equality hop, float32Order_eq, Option.map_some]

theorem double?_answers (x y : Float) :
    Answers (fun op => (double? op x y).map .ok) (x == y) := by
  intro op hop
  have hcompare : double? op x y = (compare? op (floatOrder x y)).map .bool := by
    rcases hop with rfl | rfl <;> rfl
  simp only [hcompare, compare?_equality hop, floatOrder_eq, Option.map_some]

theorem float?_answers_swap (x y : Float32) :
    Answers (fun op => (float? op y x).map .ok) (x == y) :=
  float32_beq_comm y x ▸ float?_answers y x

theorem double?_answers_swap (x y : Float) :
    Answers (fun op => (double? op y x).map .ok) (x == y) :=
  float_beq_comm y x ▸ double?_answers y x

/-- Two numbers are widened to the same type in both orders. -/
theorem number?_answers (hl : l.IsNumber) (hr : r.IsNumber) :
    ∃ b, Answers (number? · l r) b ∧ Answers (number? · r l) b := by
  cases hl with
  | int i =>
    cases hr with
    | int j => exact ⟨_, int?_answers i j, BEq.comm (a := j) ▸ int?_answers j i⟩
    | float y => exact ⟨_, float?_answers _ y, float?_answers_swap _ y⟩
    | double y => exact ⟨_, double?_answers _ y, double?_answers_swap _ y⟩
  | float x =>
    cases hr with
    | int j => exact ⟨_, float?_answers x _, float?_answers_swap x _⟩
    | float y => exact ⟨_, float?_answers x y, float?_answers_swap x y⟩
    | double y => exact ⟨_, double?_answers _ y, double?_answers_swap _ y⟩
  | double x =>
    cases hr with
    | int j => exact ⟨_, double?_answers x _, double?_answers_swap x _⟩
    | float y => exact ⟨_, double?_answers x _, double?_answers_swap x _⟩
    | double y => exact ⟨_, double?_answers x y, double?_answers_swap x y⟩

end Arithmetic

/-! ## Builtin values -/

theorem Catalog.same_comm (c : Catalog) (l r : Value) : c.same l r = c.same r l := by
  cases l <;> cases r
  case float.float x y => exact Arithmetic.float32_beq_comm x y
  case double.double x y => exact Arithmetic.float_beq_comm x y
  case enum.enum t i u j =>
    rw [same, same, BEq.comm (a := c.name t), BEq.comm (a := i)]
  all_goals first | rfl | exact BEq.comm

namespace Arithmetic

variable {c : Catalog} {s : Store} {op : Operator} {l r : Value}

/-- Equality and inequality are defined for the same operands, in either order. -/
theorem Defined.equality {op' : Operator} (h : Defined op l r) (hop : op = .eq ∨ op = .ne)
    (hop' : op' = .eq ∨ op' = .ne) : Defined op' l r ∧ Defined op' r l := by
  have hbool : op' ∈ Builtin.boolOperators := by rcases hop' with rfl | rfl <;> decide
  have hnumber : op' ∈ Builtin.numericOperators := by rcases hop' with rfl | rfl <;> decide
  cases h with
  | join => simp at hop
  | null _ h => exact ⟨.null hop' h, .null hop' h.symm⟩
  | texts _ a b => exact ⟨.texts hop' a b, .texts hop' b a⟩
  | bools _ a b => exact ⟨.bools hbool a b, .bools hbool b a⟩
  | ints _ i j => exact ⟨.ints op' i j, .ints op' j i⟩
  | numbers _ hl hr => exact ⟨.numbers hnumber hl hr, .numbers hnumber hr hl⟩

/-- Where equality is defined, both orders have one answer. -/
theorem result?_answers (h : Defined .eq l r) :
    ∃ b, Answers (result? c s · l r) b ∧ Answers (result? c s · r l) b := by
  cases h with
  | null _ h =>
    refine ⟨c.same l r, fun op hop => result?_null hop h, fun op hop => ?_⟩
    rw [Catalog.same_comm]
    exact result?_null hop h.symm
  | texts _ a b =>
    refine ⟨c.same (.str a) (.str b), fun op hop => result?_texts hop a b, fun op hop => ?_⟩
    rw [Catalog.same_comm]
    exact result?_texts hop b a
  | bools _ a b =>
    refine ⟨a == b, fun op hop => ?_, fun op hop => ?_⟩
    · rcases hop with rfl | rfl <;> cases a <;> cases b <;> rfl
    · rcases hop with rfl | rfl <;> cases a <;> cases b <;> rfl
  | ints _ i j =>
    simp only [result?_number (.int i) (.int j), result?_number (.int j) (.int i)]
    exact number?_answers (.int i) (.int j)
  | numbers _ hl hr =>
    simp only [result?_number hl hr, result?_number hr hl]
    exact number?_answers hl hr

theorem result?_eq_none (h : ¬ Defined .eq l r) (hop : op = .eq ∨ op = .ne) :
    result? c s op l r = none ∧ result? c s op r l = none := by
  have hnone : ∀ {l' r' : Value}, ¬ Defined op l' r' → result? c s op l' r' = none :=
    fun hnot => Option.not_isSome_iff_eq_none.1 (mt result?_isSome_iff.1 hnot)
  exact ⟨hnone fun hlr => h (hlr.equality hop (.inl rfl)).1,
    hnone fun hrl => h (hrl.equality hop (.inl rfl)).2⟩

end Arithmetic

namespace World

variable {w : World} {s : Store} {op : Operator} {o : Overload} {l r v : Value} {t u : TypeRef}
  {b : Bool}

/-- Equality of two values answers `b`, and inequality the opposite, under either rule. -/
def Equates (w : World) (s : Store) (l r : Value) (b : Bool) : Prop :=
  ∀ (strict : Bool) (op : Operator), op = .eq ∨ op = .ne →
    (w.applyOperator strict op l r).run s = (.ok (.bool (b == (op == .eq))), s)

theorem equates_same (h : ∀ op, op = .eq ∨ op = .ne → w.overload? s op l r = none) :
    w.Equates s l r (w.catalog.same l r) := by
  intro strict op hop
  rw [applyOperator_of_not_overload? (h op hop), if_pos hop]
  rfl

theorem equates_of_answers (hl : l.IsPrimitive) (hr : r.IsPrimitive)
    (h : Arithmetic.Answers (Arithmetic.result? w.catalog s · l r) b) : w.Equates s l r b := by
  intro strict op hop
  have hresult : Arithmetic.result? w.catalog s op l r = some (.ok (.bool (b == (op == .eq)))) :=
    h op hop
  rw [(applyOperator_primitive w s strict op hl hr).1, hresult]
  rfl

theorem equates_of_undefined (hl : l.IsPrimitive) (hr : r.IsPrimitive)
    (h : ∀ op, op = .eq ∨ op = .ne → Arithmetic.result? w.catalog s op l r = none) :
    w.Equates s l r (w.catalog.same l r) := by
  intro strict op hop
  rw [(applyOperator_primitive w s strict op hl hr).1, h op hop]
  simp only [if_pos hop]
  rfl

/-- Null and builtin values are compared by the arithmetic, or by identity. -/
theorem equates_primitive (hl : l.IsPrimitive) (hr : r.IsPrimitive) :
    ∃ b, w.Equates s l r b ∧ w.Equates s r l b := by
  by_cases h : Arithmetic.Defined .eq l r
  · obtain ⟨b, hlr, hrl⟩ := Arithmetic.result?_answers (c := w.catalog) (s := s) h
    exact ⟨b, equates_of_answers hl hr hlr, equates_of_answers hr hl hrl⟩
  · refine ⟨w.catalog.same l r, ?_, w.catalog.same_comm l r ▸ ?_⟩
    · exact equates_of_undefined hl hr fun op hop => (Arithmetic.result?_eq_none h hop).1
    · exact equates_of_undefined hr hl fun op hop => (Arithmetic.result?_eq_none h hop).2

end World

/-! ## What the entries for equality accept -/

section Entries

variable {w : World} {c : Catalog} {s : Store} {op : Operator} {o : Overload} {l r v : Value}
  {t u : TypeRef} {b : Builtin} {k : Kind} {i j : Int64}

/-- The kinds of the builtin types. -/
def Kind.builtins : List Kind := [.bool, .int, .float, .double, .str]

theorem Kind.resolve_builtins (hk : k ∈ builtins) (t : TypeRef) : k.resolve t = k := by
  simp only [builtins, List.mem_cons, List.not_mem_nil, or_false] at hk
  rcases hk with rfl | rfl | rfl | rfl | rfl <;> rfl

theorem Catalog.isPrimitive_of_accepts (hk : k ∈ Kind.builtins) (h : c.accepts s k v = true) :
    v.IsPrimitive := by
  simp only [Kind.builtins, List.mem_cons, List.not_mem_nil, or_false] at hk
  rcases hk with rfl | rfl | rfl | rfl | rfl <;>
    cases v <;> first | exact .inl rfl | exact .inr rfl | cases h

theorem Builtin.kinds_of_mem_overloads {ops : List Operator} {left right : Kind}
    (ho : o ∈ overloads c ops left right) (hleft : left ∈ Kind.builtins)
    (hright : right ∈ Kind.builtins) : o.left ∈ Kind.builtins ∧ o.right ∈ Kind.builtins := by
  obtain ⟨op, -, rfl⟩ := List.mem_map.1 ho
  exact ⟨hleft, hright⟩

/-- Only joining a text with anything is declared for values that are not builtin. -/
theorem Builtin.kinds_of_equality (ho : o ∈ (members c b).operators)
    (hop : o.op = .eq ∨ o.op = .ne) :
    o.left ∈ Kind.builtins ∧ o.right ∈ Kind.builtins := by
  have hstr : Kind.str ∈ Kind.builtins := by decide
  cases b with
  | bool => exact kinds_of_mem_overloads ho (by decide) (by decide)
  | int =>
    rcases List.mem_append.1 ho with ho | ho
    · exact kinds_of_mem_overloads ho (by decide) (by decide)
    · exact kinds_of_mem_overloads ho (by decide) (by decide)
  | float => exact kinds_of_mem_overloads ho (by decide) (by decide)
  | double => exact kinds_of_mem_overloads ho (by decide) (by decide)
  | string =>
    simp only [members, stringMembers, List.mem_cons, List.not_mem_nil, or_false] at ho
    rcases ho with rfl | rfl | rfl | rfl
    · simp at hop
    · simp at hop
    · exact ⟨hstr, hstr⟩
    · exact ⟨hstr, hstr⟩

/-- The two entries of every enumeration compare ordinals. -/
theorem Members.entry_of_enumeration (ho : o ∈ (Members.enumeration c).operators) :
    (o.op = .eq ∨ o.op = .ne) ∧ o.left = .own ∧ o.right = .own ∧
      ∀ t i u j, (o.apply (.enum t i) (.enum u j)).run s =
        (.ok (.bool ((i == j) == (o.op == .eq))), s) := by
  simp only [Members.enumeration, List.mem_cons, List.not_mem_nil, or_false] at ho
  rcases ho with rfl | rfl
  · refine ⟨.inl rfl, rfl, rfl, fun t i u j => ?_⟩
    show (Except.ok (Value.bool (i == j)), s) = (.ok (.bool ((i == j) == true)), s)
    rw [beq_true]
  · refine ⟨.inr rfl, rfl, rfl, fun t i u j => ?_⟩
    show (Except.ok (Value.bool (i != j)), s) = (.ok (.bool ((i == j) == false)), s)
    rw [beq_false, bne]

/-- The entries of an enumeration fail on an object, on whichever side it stands. -/
theorem Members.entry_of_object (ho : o ∈ (Members.enumeration c).operators) (t : TypeRef)
    (i : Int64) (p : ObjectRef) :
    (o.apply (.enum t i) (.object p)).run s =
        (.error (.failed (c.mismatch s "enum" (.object p))), s) ∧
      (o.apply (.object p) (.enum t i)).run s =
        (.error (.failed (c.mismatch s "enum" (.object p))), s) := by
  simp only [Members.enumeration, List.mem_cons, List.not_mem_nil, or_false] at ho
  rcases ho with rfl | rfl <;> exact ⟨rfl, rfl⟩

theorem Members.exists_entry_of_enumeration (c : Catalog) (hop : op = .eq ∨ op = .ne) :
    ∃ o ∈ (Members.enumeration c).operators, o.op = op := by
  rcases hop with rfl | rfl
  · exact ⟨_, .head _, rfl⟩
  · exact ⟨_, .tail _ (.head _), rfl⟩

/-- Only numbers are widened. -/
theorem Catalog.accepts_type (c : Catalog) (s : Store) (u : TypeRef) (v : Value) :
    c.accepts s (.type u) v = c.isAssignable s v (.type u) := by
  cases v <;> exact Bool.or_false _

/-- An enumeration accepts its own values and those of derived types, and no null. -/
theorem Catalog.accepts_enumeration (hu : c.isEnum u = true)
    (h : c.accepts s (.type u) v = true) :
    (∃ t i, v = .enum t i ∧ c.isSubtype t u = true) ∨
      ∃ p t, v = .object p ∧ s.typeOf? v = some t ∧ c.isSubtype t u = true := by
  rw [accepts_type] at h
  cases v with
  | null => simp [isAssignable, hu] at h
  | enum t i => exact .inl ⟨t, i, rfl, h⟩
  | object p =>
    rw [isAssignable] at h
    split at h
    · rename_i t ht
      exact .inr ⟨p, t, rfl, ht, h⟩
    · cases h
  | _ => cases h

end Entries

/-! ## Types in common -/

namespace Catalog

variable {c : Catalog} {t u : TypeRef}

/-- Whether two types have a type in common, by name, among themselves and their bases. -/
def related (c : Catalog) (t u : TypeRef) : Bool :=
  (c.hierarchy t).any fun a => c.isSubtype u a

theorem related_iff :
    c.related t u = true ↔ ∃ a ∈ c.hierarchy t, ∃ b ∈ c.hierarchy u, c.name b = c.name a := by
  simp only [related, isSubtype, List.any_eq_true, beq_iff_eq]

theorem related_comm (c : Catalog) (t u : TypeRef) : c.related t u = c.related u t := by
  rw [Bool.eq_iff_iff, related_iff, related_iff]
  constructor
  · rintro ⟨a, ha, b, hb, h⟩
    exact ⟨b, hb, a, ha, h.symm⟩
  · rintro ⟨a, ha, b, hb, h⟩
    exact ⟨b, hb, a, ha, h.symm⟩

theorem isSubtype_of_mem {a : TypeRef} (ha : a ∈ c.hierarchy t) : c.isSubtype t a = true :=
  List.any_eq_true.2 ⟨a, ha, beq_self_eq_true _⟩

theorem related_of_isSubtype {a : TypeRef} (ht : c.isSubtype t a = true)
    (hu : c.isSubtype u a = true) : c.related t u = true := by
  simp only [isSubtype, List.any_eq_true, beq_iff_eq] at ht hu
  obtain ⟨x, hx, hxa⟩ := ht
  obtain ⟨y, hy, hya⟩ := hu
  exact related_iff.2 ⟨x, hx, y, hy, hya.trans hxa.symm⟩

theorem related_of_name (h : c.name t = c.name u) : c.related t u = true :=
  related_iff.2 ⟨t, c.mem_hierarchy_self t, u, c.mem_hierarchy_self u, h.symm⟩

theorem same_enum_of_not_related (h : c.related t u = false) (i j : Int64) :
    c.same (.enum t i) (.enum u j) = false := by
  have hname : (c.name t == c.name u) = false := by
    rw [beq_eq_false_iff_ne]
    intro hname
    rw [related_of_name hname] at h
    cases h
  rw [same, hname, Bool.false_and]

end Catalog

/-! ## Values without an equality of their own -/

namespace World

variable {w : World} {s : Store} {op : Operator} {o : Overload} {l r v : Value} {t u : TypeRef}
  {i j : Int64} {b : Bool}

/-- The type and its bases are enumerations that declare no operators but those that every
enumeration has. -/
def IsPlainEnum (w : World) (t : TypeRef) : Prop :=
  ∀ u ∈ w.catalog.hierarchy t, w.catalog.isEnum u = true ∧
    (w.members u).operators = (Members.enumeration w.catalog).operators

/-- Neither the type nor one of its bases declares an equality. -/
def HasNoEquality (w : World) (t : TypeRef) : Prop :=
  ∀ u ∈ w.catalog.hierarchy t, ∀ o ∈ (w.members u).operators, o.op ≠ .eq ∧ o.op ≠ .ne

/-- Values without an equality of their own.  An object in use has no type that could declare
one. -/
inductive StandardEquality (w : World) (s : Store) : Value → Prop
  | primitive {v : Value} (h : v.IsPrimitive) : StandardEquality w s v
  | type (t : TypeRef) : StandardEquality w s (.type t)
  | enum {t : TypeRef} (i : Int64) (h : w.IsPlainEnum t) : StandardEquality w s (.enum t i)
  | object {p : ObjectRef} (h : ∀ t, s.typeOf? (.object p) = some t → w.HasNoEquality t) :
    StandardEquality w s (.object p)

theorem StandardEquality.isPlainEnum (h : w.StandardEquality s (.enum t i)) :
    w.IsPlainEnum t := by
  cases h with
  | primitive hprimitive => rcases hprimitive with hnull | hbuiltin <;> contradiction
  | enum _ hplain => exact hplain

/-- An enumerated value and an object that is taken for one: the two have a type in common, by
name. -/
def Mistakes (w : World) (s : Store) (l r : Value) : Prop :=
  ∃ t i p u, l = .enum t i ∧ r = .object p ∧ s.typeOf? r = some u ∧ w.catalog.related t u = true

/-- An entry of a plain enumeration takes operands of the enumeration. -/
theorem IsPlainEnum.accepts (ht : w.IsPlainEnum t) (hu : u ∈ w.catalog.hierarchy t)
    (h : w.Offers s op l r u o) :
    w.catalog.accepts s (.type u) l = true ∧ w.catalog.accepts s (.type u) r = true := by
  have ho : o ∈ (Members.enumeration w.catalog).operators := (ht u hu).2 ▸ h.listed
  obtain ⟨-, hleft, hright, -⟩ := Members.entry_of_enumeration (s := s) ho
  have hl := h.left
  have hr := h.right
  rw [hleft] at hl
  rw [hright] at hr
  exact ⟨hl, hr⟩

/-- What a plain enumeration accepts is a value of one, or mistaken for it. -/
theorem StandardEquality.enum_or_mistaken (hv : w.StandardEquality s v) (ht : w.IsPlainEnum t)
    (hu : u ∈ w.catalog.hierarchy t) (h : w.catalog.accepts s (.type u) v = true) (i : Int64) :
    (∃ t' j, v = .enum t' j ∧ w.IsPlainEnum t') ∨ w.Mistakes s (.enum t i) v := by
  rcases Catalog.accepts_enumeration (ht u hu).1 h with ⟨t', j, rfl, -⟩ | ⟨p, t', rfl, htype, hsub⟩
  · exact .inl ⟨t', j, rfl, hv.isPlainEnum⟩
  · have hrelated := Catalog.related_of_isSubtype (Catalog.isSubtype_of_mem hu) hsub
    exact .inr ⟨t, i, p, t', rfl, rfl, htype, hrelated⟩

/-- Whose type declares an entry for equality, and what it accepts. -/
theorem StandardEquality.of_offers (hv : w.StandardEquality s v) (ht : s.typeOf? v = some t)
    (hu : u ∈ w.catalog.hierarchy t) (hop : op = .eq ∨ op = .ne) (h : w.Offers s op l r u o) :
    (l.IsPrimitive ∧ r.IsPrimitive) ∨ (∃ i, v = .enum t i) ∧ w.IsPlainEnum t := by
  cases hv with
  | primitive hprimitive =>
    rw [Store.typeOf?_primitive hprimitive] at ht
    obtain ⟨b, -, rfl⟩ := Option.map_eq_some_iff.1 ht
    obtain rfl : u = .builtin b := List.mem_singleton.1 hu
    obtain ⟨hleft, hright⟩ := Builtin.kinds_of_equality h.listed (h.op_eq ▸ hop)
    have hl := h.left
    have hr := h.right
    rw [Kind.resolve_builtins hleft] at hl
    rw [Kind.resolve_builtins hright] at hr
    exact .inl ⟨Catalog.isPrimitive_of_accepts hleft hl, Catalog.isPrimitive_of_accepts hright hr⟩
  | type => cases ht
  | enum i hplain =>
    cases ht
    exact .inr ⟨⟨i, rfl⟩, hplain⟩
  | object hnone =>
    obtain ⟨heq, hne⟩ := hnone t ht u hu o h.listed
    rw [h.op_eq] at heq hne
    exact (hop.elim heq hne).elim

/-- Unless one operand is mistaken, an entry for equality is found for two builtin values or for
two enumerated ones. -/
theorem alike_of_overload? (hl : w.StandardEquality s l) (hr : w.StandardEquality s r)
    (hlr : ¬ w.Mistakes s l r) (hrl : ¬ w.Mistakes s r l) (hop : op = .eq ∨ op = .ne)
    (h : w.overload? s op l r = some o) :
    (l.IsPrimitive ∧ r.IsPrimitive) ∨
      (∃ t i, l = .enum t i ∧ w.IsPlainEnum t) ∧ ∃ u j, r = .enum u j ∧ w.IsPlainEnum u := by
  obtain ⟨v, t, u, rfl | rfl, ht, hu, hoffers⟩ := exists_offers_of_overload? h
  · rcases hl.of_offers ht hu hop hoffers with hprimitive | ⟨⟨i, rfl⟩, hplain⟩
    · exact .inl hprimitive
    · have hright := (hplain.accepts hu hoffers).2
      have henum := (hr.enum_or_mistaken hplain hu hright i).resolve_right hlr
      exact .inr ⟨⟨t, i, rfl, hplain⟩, henum⟩
  · rcases hr.of_offers ht hu hop hoffers with hprimitive | ⟨⟨j, rfl⟩, hplain⟩
    · exact .inl hprimitive
    · have hleft := (hplain.accepts hu hoffers).1
      have henum := (hl.enum_or_mistaken hplain hu hleft j).resolve_right hrl
      exact .inr ⟨henum, t, j, rfl, hplain⟩

/-! ## Symmetry -/

/-- A type among those of a plain enumeration that accepts both operands has an entry for them. -/
theorem IsPlainEnum.overload?_isSome_of_accepts {v : Value} (ht : w.IsPlainEnum t)
    (hv : v = l ∨ v = r) (htype : s.typeOf? v = some t) (hu : u ∈ w.catalog.hierarchy t)
    (hop : op = .eq ∨ op = .ne) (hl : w.catalog.accepts s (.type u) l = true)
    (hr : w.catalog.accepts s (.type u) r = true) : (w.overload? s op l r).isSome = true := by
  obtain ⟨o, ho, hop'⟩ := Members.exists_entry_of_enumeration w.catalog hop
  obtain ⟨-, hleft, hright, -⟩ := Members.entry_of_enumeration (s := s) ho
  have hoffers : w.Offers s op l r u o := by
    refine ⟨(ht u hu).2 ▸ ho, hop', ?_, ?_⟩
    · rw [hleft]
      exact hl
    · rw [hright]
      exact hr
  exact overload?_isSome_of_offers hv htype hu hoffers

/-- The entry of a type that both have in common accepts both. -/
theorem IsPlainEnum.overload?_isSome (ht : w.IsPlainEnum t) (hop : op = .eq ∨ op = .ne)
    (h : w.catalog.related t u = true) :
    (w.overload? s op (.enum t i) (.enum u j)).isSome = true := by
  obtain ⟨a, ha, hsub⟩ := List.any_eq_true.1 h
  have hleft : w.catalog.accepts s (.type a) (.enum t i) = true :=
    (Catalog.accepts_type _ _ _ _).trans (Catalog.isSubtype_of_mem ha)
  have hright : w.catalog.accepts s (.type a) (.enum u j) = true :=
    (Catalog.accepts_type _ _ _ _).trans hsub
  exact ht.overload?_isSome_of_accepts (.inl rfl) rfl ha hop hleft hright

/-- Enumerated values are compared by their ordinals where their types are related, and are
different elsewhere. -/
theorem equates_enum (ht : w.IsPlainEnum t) (hu : w.IsPlainEnum u) :
    w.Equates s (.enum t i) (.enum u j) (w.catalog.related t u && i == j) := by
  intro strict op hop
  cases hfound : w.overload? s op (.enum t i) (.enum u j) with
  | some o =>
    obtain ⟨v, t', a, hv, htype, ha, hoffers⟩ := exists_offers_of_overload? hfound
    have hplain : w.IsPlainEnum t' := by
      rcases hv with rfl | rfl <;> cases htype <;> assumption
    obtain ⟨hleft, hright⟩ := hplain.accepts ha hoffers
    rw [Catalog.accepts_type] at hleft hright
    have hrelated : w.catalog.related t u = true := Catalog.related_of_isSubtype hleft hright
    have ho : o ∈ (Members.enumeration w.catalog).operators := (hplain a ha).2 ▸ hoffers.listed
    obtain ⟨-, -, -, happly⟩ := Members.entry_of_enumeration (s := s) ho
    rw [applyOperator_of_overload? hfound, happly, hoffers.op_eq, hrelated, Bool.true_and]
  | none =>
    have hnot : w.catalog.related t u = false := by
      rw [← Bool.not_eq_true]
      intro hrelated
      have hsome : (w.overload? s op (.enum t i) (.enum u j)).isSome = true :=
        ht.overload?_isSome hop hrelated
      rw [hfound] at hsome
      cases hsome
    rw [applyOperator_of_not_overload? hfound, if_pos hop, hnot,
      Catalog.same_enum_of_not_related hnot]
    rfl

theorem equates_of_not_alike (hl : w.StandardEquality s l) (hr : w.StandardEquality s r)
    (hlr : ¬ w.Mistakes s l r) (hrl : ¬ w.Mistakes s r l)
    (hprimitive : ¬ (l.IsPrimitive ∧ r.IsPrimitive))
    (henum : ¬ ((∃ t i, l = .enum t i ∧ w.IsPlainEnum t) ∧
      ∃ u j, r = .enum u j ∧ w.IsPlainEnum u)) :
    w.Equates s l r (w.catalog.same l r) := by
  refine equates_same fun op hop => Option.eq_none_iff_forall_ne_some.2 fun o hfound => ?_
  exact (alike_of_overload? hl hr hlr hrl hop hfound).elim hprimitive henum

/-- Values without an equality of their own are compared alike in both orders, unless one is
mistaken. -/
theorem exists_equates (hl : w.StandardEquality s l) (hr : w.StandardEquality s r)
    (hlr : ¬ w.Mistakes s l r) (hrl : ¬ w.Mistakes s r l) :
    ∃ b, w.Equates s l r b ∧ w.Equates s r l b ∧
      (∀ t i j, l = .enum t i → r = .enum t j → b = (i == j)) ∧
      ∀ p q, l = .object p → r = .object q → b = (p == q) := by
  by_cases hprimitive : l.IsPrimitive ∧ r.IsPrimitive
  · obtain ⟨b, hb, hb'⟩ := equates_primitive (w := w) (s := s) hprimitive.1 hprimitive.2
    refine ⟨b, hb, hb', ?_, ?_⟩
    · rintro t i j rfl -
      rcases hprimitive.1 with h | h <;> cases h
    · rintro p q rfl -
      rcases hprimitive.1 with h | h <;> cases h
  by_cases henum : (∃ t i, l = .enum t i ∧ w.IsPlainEnum t) ∧
      ∃ u j, r = .enum u j ∧ w.IsPlainEnum u
  · obtain ⟨⟨t, i, rfl, ht⟩, u, j, rfl, hu⟩ := henum
    refine ⟨w.catalog.related t u && i == j, equates_enum ht hu, ?_, ?_, ?_⟩
    · rw [Catalog.related_comm, BEq.comm (a := i)]
      exact equates_enum hu ht
    · rintro t' i' j' ⟨⟩ ⟨⟩
      rw [Catalog.related_of_name rfl, Bool.true_and]
    · rintro p q ⟨⟩
  · refine ⟨w.catalog.same l r, equates_of_not_alike hl hr hlr hrl hprimitive henum, ?_, ?_, ?_⟩
    · rw [Catalog.same_comm]
      exact equates_of_not_alike hr hl hrl hlr (fun h => hprimitive h.symm) fun h => henum h.symm
    · rintro t i j rfl rfl
      rw [Catalog.same, beq_self_eq_true, Bool.true_and]
    · rintro p q rfl rfl
      rfl

/-! ## The exception -/

/-- An object that is mistaken is accepted where the enumerated value is, so an entry is found in
either order. -/
theorem overload?_isSome_of_mistakes {v q : Value} (hv : w.StandardEquality s v)
    (h : w.Mistakes s v q) (hop : op = .eq ∨ op = .ne) (hlr : l = v ∧ r = q ∨ l = q ∧ r = v) :
    (w.overload? s op l r).isSome = true := by
  obtain ⟨t, i, p, u, rfl, rfl, htype, hrelated⟩ := h
  obtain ⟨a, ha, hsub⟩ := List.any_eq_true.1 hrelated
  have hplain : w.IsPlainEnum t := hv.isPlainEnum
  have henum : w.catalog.accepts s (.type a) (.enum t i) = true :=
    (Catalog.accepts_type _ _ _ _).trans (Catalog.isSubtype_of_mem ha)
  have hobject : w.catalog.accepts s (.type a) (.object p) = true := by
    rw [Catalog.accepts_type, Catalog.isAssignable, htype]
    exact hsub
  rcases hlr with ⟨rfl, rfl⟩ | ⟨rfl, rfl⟩
  · exact hplain.overload?_isSome_of_accepts (.inl rfl) rfl ha hop henum hobject
  · exact hplain.overload?_isSome_of_accepts (.inr rfl) rfl ha hop hobject henum

/-- The entry that is found for an object that is mistaken is one of the enumeration: the object has
none, and one for builtin values would not take it. -/
theorem exists_entry_of_mistakes {v q : Value} (hv : w.StandardEquality s v)
    (hq : w.StandardEquality s q) (h : w.Mistakes s v q) (hop : op = .eq ∨ op = .ne)
    (hlr : l = v ∧ r = q ∨ l = q ∧ r = v) :
    ∃ o ∈ (Members.enumeration w.catalog).operators, w.overload? s op l r = some o := by
  have hsome := overload?_isSome_of_mistakes hv h hop hlr
  obtain ⟨o, hfound⟩ := Option.isSome_iff_exists.1 hsome
  refine ⟨o, ?_, hfound⟩
  obtain ⟨x, t', u', hx, ht', hu', hoffers⟩ := exists_offers_of_overload? hfound
  have hstandard : w.StandardEquality s x := by
    rcases hx with rfl | rfl <;> rcases hlr with ⟨rfl, rfl⟩ | ⟨rfl, rfl⟩ <;> assumption
  rcases hstandard.of_offers ht' hu' hop hoffers with ⟨hl, hr⟩ | ⟨-, hplain⟩
  · obtain ⟨t, i, p, u, rfl, rfl, -⟩ := h
    rcases hlr with ⟨rfl, -⟩ | ⟨-, rfl⟩
    · rcases hl with hnull | hbuiltin <;> contradiction
    · rcases hr with hnull | hbuiltin <;> contradiction
  · exact (hplain u' hu').2 ▸ hoffers.listed

/-- Equality and inequality fail on an object that is mistaken for an enumerated value, on
whichever side it stands. -/
theorem applyOperator_of_mistakes (strict : Bool) (hl : w.StandardEquality s l)
    (hr : w.StandardEquality s r) (h : w.Mistakes s l r) (hop : op = .eq ∨ op = .ne) :
    (w.applyOperator strict op l r).run s =
        (.error (.failed (w.catalog.mismatch s "enum" r)), s) ∧
      (w.applyOperator strict op r l).run s =
        (.error (.failed (w.catalog.mismatch s "enum" r)), s) := by
  obtain ⟨o, ho, hfound⟩ := exists_entry_of_mistakes hl hr h hop (.inl ⟨rfl, rfl⟩)
  obtain ⟨o', ho', hfound'⟩ := exists_entry_of_mistakes hl hr h hop (.inr ⟨rfl, rfl⟩)
  obtain ⟨t, i, p, u, rfl, rfl, -, -⟩ := h
  rw [applyOperator_of_overload? hfound, applyOperator_of_overload? hfound']
  exact ⟨(Members.entry_of_object ho t i p).1, (Members.entry_of_object ho' t i p).2⟩

/-- Equality is symmetric and inequality is its negation, for null, builtin values, types, values of
enumerations and objects, where no type among theirs declares an equality of its own: both orders
succeed with one answer, and neither changes anything.  Two values of one enumeration are equal if
their ordinals are, two objects if they are the same one.  Only where one is an enumerated value and
the other an object that is mistaken for one, both operators fail in both orders. -/
theorem equality_symm (w : World) (s : Store) (strict : Bool) (hl : w.StandardEquality s l)
    (hr : w.StandardEquality s r) :
    (¬ w.Mistakes s l r → ¬ w.Mistakes s r l →
      ∃ b, (w.applyOperator strict .eq l r).run s = (.ok (.bool b), s) ∧
        (w.applyOperator strict .eq r l).run s = (.ok (.bool b), s) ∧
        (w.applyOperator strict .ne l r).run s = (.ok (.bool !b), s) ∧
        (∀ t i j, l = .enum t i → r = .enum t j → b = (i == j)) ∧
        ∀ p q, l = .object p → r = .object q → b = (p == q)) ∧
    (w.Mistakes s l r → ∀ op, op = .eq ∨ op = .ne →
      (w.applyOperator strict op l r).run s =
          (.error (.failed (w.catalog.mismatch s "enum" r)), s) ∧
        (w.applyOperator strict op r l).run s =
          (.error (.failed (w.catalog.mismatch s "enum" r)), s)) := by
  constructor
  · intro hlr hrl
    obtain ⟨b, hb, hb', hordinals, hidentity⟩ := exists_equates hl hr hlr hrl
    refine ⟨b, ?_, ?_, ?_, hordinals, hidentity⟩
    · rw [hb strict .eq (.inl rfl), beq_self_eq_true, beq_true]
    · rw [hb' strict .eq (.inl rfl), beq_self_eq_true, beq_true]
    · rw [hb strict .ne (.inr rfl), show (Operator.ne == .eq) = false from rfl, beq_false]
  · intro h op hop
    exact applyOperator_of_mistakes strict hl hr h hop

/-- An enumeration and two types of objects, of which one has the name of the enumeration. -/
def facings : World :=
  let catalog : Catalog :=
    ⟨[{ name := "Facing", variants := some [("Left", 0), ("Right", 1)] }, { name := "Player" },
      { name := "Facing" }]⟩
  ⟨catalog, [Members.enumeration catalog, {}, {}]⟩

/-- One object of either type. -/
def playerAndNamesake : Store where
  objects :=
    [{ type := .declared 1, host := "Player", slots := [] },
      { type := .declared 2, host := "Facing", slots := [] }]

theorem hierarchy_facings {i : Nat} (hi : i < 3) :
    facings.catalog.hierarchy (.declared i) = [.declared i] := by
  match i with
  | 0 | 1 | 2 => decide

theorem isPlainEnum_facing : facings.IsPlainEnum (.declared 0) := by
  intro u hu
  rw [hierarchy_facings (by decide), List.mem_singleton] at hu
  subst hu
  exact ⟨rfl, rfl⟩

theorem hasNoEquality_facings {i : Nat} (hi : i = 1 ∨ i = 2) :
    facings.HasNoEquality (.declared i) := by
  intro u hu o ho
  rw [hierarchy_facings (by omega), List.mem_singleton] at hu
  subst hu
  rcases hi with rfl | rfl <;> cases ho

/-- The theorem at a facing and a player, which the enumeration does not accept. -/
theorem equality_symm_facing_player :
    facings.StandardEquality playerAndNamesake (.enum (.declared 0) 0) ∧
    facings.StandardEquality playerAndNamesake (.object ⟨0⟩) ∧
    ∃ b, (facings.applyOperator true .eq (.enum (.declared 0) 0) (.object ⟨0⟩)).run
          playerAndNamesake = (.ok (.bool b), playerAndNamesake) ∧
      (facings.applyOperator true .eq (.object ⟨0⟩) (.enum (.declared 0) 0)).run
          playerAndNamesake = (.ok (.bool b), playerAndNamesake) := by
  have hl : facings.StandardEquality playerAndNamesake (.enum (.declared 0) 0) :=
    .enum 0 isPlainEnum_facing
  have hr : facings.StandardEquality playerAndNamesake (.object ⟨0⟩) := by
    refine .object fun t ht => ?_
    cases ht
    exact hasNoEquality_facings (.inl rfl)
  have hlr : ¬ facings.Mistakes playerAndNamesake (.enum (.declared 0) 0) (.object ⟨0⟩) := by
    rintro ⟨t, i, p, u, ht, -, hu, hrelated⟩
    cases ht
    cases hu
    exact absurd hrelated (by decide)
  have hrl : ¬ facings.Mistakes playerAndNamesake (.object ⟨0⟩) (.enum (.declared 0) 0) := by
    rintro ⟨t, i, p, u, ht, -⟩
    cases ht
  obtain ⟨b, hb, hb', -⟩ := (equality_symm facings playerAndNamesake true hl hr).1 hlr hrl
  exact ⟨hl, hr, b, hb, hb'⟩

/-- A facing cannot be compared with an object whose type has the name of the enumeration, although
neither has an equality of its own. -/
theorem not_equality_facing_namesake :
    facings.StandardEquality playerAndNamesake (.enum (.declared 0) 0) ∧
    facings.StandardEquality playerAndNamesake (.object ⟨1⟩) ∧
    ¬ ∃ b, (facings.applyOperator true .eq (.enum (.declared 0) 0) (.object ⟨1⟩)).run
        playerAndNamesake = (.ok (.bool b), playerAndNamesake) := by
  have hl : facings.StandardEquality playerAndNamesake (.enum (.declared 0) 0) :=
    .enum 0 isPlainEnum_facing
  have hr : facings.StandardEquality playerAndNamesake (.object ⟨1⟩) := by
    refine .object fun t ht => ?_
    cases ht
    exact hasNoEquality_facings (.inr rfl)
  have hmistaken : facings.Mistakes playerAndNamesake (.enum (.declared 0) 0) (.object ⟨1⟩) :=
    ⟨_, _, _, _, rfl, rfl, rfl, by decide⟩
  refine ⟨hl, hr, fun ⟨b, hb⟩ => ?_⟩
  rw [(applyOperator_of_mistakes true hl hr hmistaken (.inl rfl)).1] at hb
  cases hb

end World

end DevConsole
