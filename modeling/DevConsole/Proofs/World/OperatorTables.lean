/-
# `DevConsole.Proofs.World.OperatorTables` — operators by table and by arithmetic

What an operator does to builtin values is said in two places.  The arithmetic goes by the two
values: it widens the narrower number, joins texts and compares with null.  Evaluation goes by
tables: the type of the left operand and then that of the right one is searched for an entry whose
kinds accept both operands.  The two agree (`World.applyOperator_primitive`), because

    an entry is found       only where the arithmetic is defined, and then the entry computes it
    no entry is found       only where the arithmetic is undefined, or where it compares with null

and a comparison with null is the identity comparison that evaluation falls back on.

The entry for joining a text with anything accepts a null on the side of the text.  So an entry is
judged together with the type whose table it is in: one of the operands has that type.
-/
import DevConsole.Proofs.Eval.HostContract

namespace DevConsole

variable {w : World} {c : Catalog} {s : Store} {op : Operator} {o : Overload} {b : Builtin}
  {l r v : Value} {t u : TypeRef}

/-! ## Builtin values -/

namespace Value

/-- The builtin type of a value. -/
def builtin? : Value → Option Builtin
  | bool _ => some .bool
  | int _ => some .int
  | float _ => some .float
  | double _ => some .double
  | str _ => some .string
  | null | enum _ _ | object _ | type _ => none

/-- Null, or a value of a builtin type. -/
def IsPrimitive (v : Value) : Prop := v = .null ∨ v.builtin?.isSome = true

instance : DecidablePred IsPrimitive
  | null => .isTrue (.inl rfl)
  | bool _ | int _ | float _ | double _ | str _ => .isTrue (.inr rfl)
  | enum _ _ | object _ | type _ => .isFalse (by rintro (h | h) <;> cases h)

theorem isNull_iff {v : Value} : v.isNull = true ↔ v = .null := by
  cases v <;> simp [isNull]

/-- A number of any width. -/
inductive IsNumber : Value → Prop
  | int (i : Int64) : IsNumber (.int i)
  | float (x : Float32) : IsNumber (.float x)
  | double (x : Float) : IsNumber (.double x)

end Value

theorem Store.typeOf?_primitive (h : v.IsPrimitive) :
    s.typeOf? v = v.builtin?.map TypeRef.builtin := by
  rcases h with rfl | h
  · rfl
  · cases v <;> first | rfl | cases h

namespace Catalog

theorem accepts_any : c.accepts s .any v = true := by
  cases v <;> rfl

theorem accepts_bool_iff : c.accepts s .bool v = true ↔ ∃ a, v = .bool a := by
  cases v <;> simp [accepts, isAssignable]

theorem accepts_int_iff : c.accepts s .int v = true ↔ ∃ i, v = .int i := by
  cases v <;> simp [accepts, isAssignable]

theorem isNumber_of_accepts_float (h : c.accepts s .float v = true) : v.IsNumber := by
  cases v <;> first | exact .int _ | exact .float _ | cases h

theorem accepts_double_iff : c.accepts s .double v = true ↔ v.IsNumber := by
  constructor
  · intro h
    cases v <;> first | exact .int _ | exact .float _ | exact .double _ | cases h
  · rintro (_ | _ | _) <;> rfl

theorem accepts_str_iff : c.accepts s .str v = true ↔ v = .null ∨ ∃ t, v = .str t := by
  cases v <;> simp [accepts, isAssignable]

end Catalog

/-! ## Where the arithmetic is defined -/

namespace Arithmetic

/-- The operands for which the arithmetic defines an operator. -/
inductive Defined : Operator → Value → Value → Prop
  | join {l r : Value} (h : (isStr l || isStr r) = true) : Defined .add l r
  | null {op : Operator} {l r : Value} (hop : op = .eq ∨ op = .ne) (h : l = .null ∨ r = .null) :
    Defined op l r
  | texts {op : Operator} (hop : op = .eq ∨ op = .ne) (a b : String) : Defined op (.str a) (.str b)
  | bools {op : Operator} (hop : op ∈ Builtin.boolOperators) (a b : Bool) :
    Defined op (.bool a) (.bool b)
  | ints (op : Operator) (i j : Int64) : Defined op (.int i) (.int j)
  | numbers {op : Operator} {l r : Value} (hop : op ∈ Builtin.numericOperators) (hl : l.IsNumber)
      (hr : r.IsNumber) : Defined op l r

theorem compare?_isSome (order : Option Ordering) : (compare? op order).isSome = op.compares := by
  cases op <;> cases order <;> rfl

theorem int?_isSome (i j : Int64) : (int? op i j).isSome = true := by
  cases op <;> rfl

theorem float?_isSome_iff (x y : Float32) :
    (float? op x y).isSome = true ↔ op ∈ Builtin.numericOperators := by
  cases op <;> simp [float?, compare?_isSome, Operator.compares, Builtin.numericOperators]

theorem double?_isSome_iff (x y : Float) :
    (double? op x y).isSome = true ↔ op ∈ Builtin.numericOperators := by
  cases op <;> simp [double?, compare?_isSome, Operator.compares, Builtin.numericOperators]

theorem bool?_isSome_iff (x y : Bool) :
    (bool? op x y).isSome = true ↔ op ∈ Builtin.boolOperators := by
  cases op <;> simp [bool?, Builtin.boolOperators]

theorem str?_isSome_iff (x y : String) : (str? op x y).isSome = true ↔ op = .eq ∨ op = .ne := by
  cases op <;> simp [str?]

theorem number?_isSome (hl : l.IsNumber) (hr : r.IsNumber) (hop : op ∈ Builtin.numericOperators) :
    (number? op l r).isSome = true := by
  cases hl <;> cases hr <;>
    simp [number?, int?_isSome, float?_isSome_iff, double?_isSome_iff, hop]

theorem isNumber_of_number? (h : (number? op l r).isSome = true) : l.IsNumber ∧ r.IsNumber := by
  cases l <;> cases r <;> first | cases h | exact ⟨by constructor, by constructor⟩

theorem defined_of_number? (h : (number? op l r).isSome = true) : Defined op l r := by
  obtain ⟨hl, hr⟩ := isNumber_of_number? h
  cases hl <;> cases hr
  case int.int i j => exact .ints op i j
  all_goals
    simp only [number?, Option.isSome_map, float?_isSome_iff, double?_isSome_iff] at h
    exact .numbers h (by constructor) (by constructor)

theorem result?_number (hl : l.IsNumber) (hr : r.IsNumber) :
    result? c s op l r = number? op l r := by
  cases hl <;> cases hr <;> simp [result?, isStr, Value.isNull]

theorem result?_bools (a b : Bool) :
    result? c s op (.bool a) (.bool b) = (bool? op a b).map fun x => .ok (.bool x) := by
  simp [result?, isStr, Value.isNull]

theorem result?_join (h : (isStr l || isStr r) = true) :
    result? c s .add l r = some (.ok (.str (c.display s l ++ c.display s r))) := by
  simp [result?, h]

theorem result?_null (hop : op = .eq ∨ op = .ne) (h : l = .null ∨ r = .null) :
    result? c s op l r = some (.ok (.bool (c.same l r == (op == .eq)))) := by
  have hadd : op ≠ .add := by rintro rfl; simp at hop
  rcases h with rfl | rfl <;> simp [result?, hadd, hop, Value.isNull]

/-- Equality of two texts is the identity comparison. -/
theorem result?_texts (hop : op = .eq ∨ op = .ne) (a b : String) :
    result? c s op (.str a) (.str b) =
      some (.ok (.bool (c.same (.str a) (.str b) == (op == .eq)))) := by
  have hne : (Operator.ne == Operator.eq) = false := rfl
  rcases hop with rfl | rfl <;>
    simp [result?, str?, isStr, Value.isNull, Catalog.same, hne, bne]

theorem result?_isSome_iff : (result? c s op l r).isSome = true ↔ Defined op l r := by
  constructor
  · intro h
    rw [result?.eq_def] at h
    split at h
    · rename_i hjoin
      simp only [Bool.and_eq_true, decide_eq_true_eq] at hjoin
      obtain ⟨rfl, htext⟩ := hjoin
      exact .join htext
    split at h
    · rename_i hnull
      simp only [Bool.and_eq_true, Bool.or_eq_true, decide_eq_true_eq, Value.isNull_iff] at hnull
      exact .null hnull.1 hnull.2
    split at h
    · rw [Option.isSome_map, str?_isSome_iff] at h
      exact .texts h _ _
    · rw [Option.isSome_map, bool?_isSome_iff] at h
      exact .bools h _ _
    · exact defined_of_number? h
  · intro h
    cases h with
    | join htext => rw [result?_join htext]; rfl
    | null hop hnull => rw [result?_null hop hnull]; rfl
    | texts hop a b => rw [result?_texts hop]; rfl
    | bools hop a b =>
      rw [result?_bools, Option.isSome_map]
      exact (bool?_isSome_iff a b).2 hop
    | ints op i j =>
      rw [result?_number (.int i) (.int j)]
      exact int?_isSome i j
    | numbers hop hl hr =>
      rw [result?_number hl hr]
      exact number?_isSome hl hr hop

theorem int?_eq_error {i j : Int64} {f : Failure} (h : int? op i j = some (.error f)) :
    f = .of .divideByZero := by
  cases op
  case div | rem =>
    rw [int?] at h
    split at h <;> cases h
    rfl
  all_goals simp [int?] at h

/-- The only failure of the arithmetic is a division by zero. -/
theorem result?_eq_error {f : Failure} (h : result? c s op l r = some (.error f)) :
    f = .of .divideByZero := by
  simp only [result?] at h
  repeat' split at h
  all_goals first | cases h | skip
  · simp at h
  · simp at h
  · rw [number?.eq_def] at h
    split at h
    · exact int?_eq_error h
    all_goals simp at h

end Arithmetic

/-! ## Entries of the tables -/

/-- The arithmetic is defined for two operands, and the entry computes it. -/
def Overload.Computes (o : Overload) (c : Catalog) (s : Store) (l r : Value) : Prop :=
  ∃ e, Arithmetic.result? c s o.op l r = some e ∧ (o.apply l r).run s = (Act.ofExcept e).run s

namespace Builtin

/-- An entry for an operator in the table of a builtin type, whose kinds accept both operands. -/
structure Offers (b : Builtin) (c : Catalog) (s : Store) (op : Operator) (l r : Value)
    (o : Overload) : Prop where
  listed : o ∈ (members c b).operators
  op_eq : o.op = op
  left : c.accepts s (o.left.resolve (.builtin b)) l = true
  right : c.accepts s (o.right.resolve (.builtin b)) r = true

variable {ops : List Operator} {left right : Kind}

theorem operands_of_mem_overloads {t : TypeRef} (ho : o ∈ overloads c ops left right)
    (hl : c.accepts s (o.left.resolve t) l = true)
    (hr : c.accepts s (o.right.resolve t) r = true) :
    o.op ∈ ops ∧ c.accepts s (left.resolve t) l = true ∧
      c.accepts s (right.resolve t) r = true := by
  obtain ⟨op, hop, rfl⟩ := List.mem_map.1 ho
  exact ⟨hop, hl, hr⟩

theorem computes_of_mem_overloads (ho : o ∈ overloads c ops left right)
    (hdefined : Arithmetic.Defined o.op l r) : o.Computes c s l r := by
  obtain ⟨op, -, rfl⟩ := List.mem_map.1 ho
  obtain ⟨e, he⟩ := Option.isSome_iff_exists.1 (Arithmetic.result?_isSome_iff.2 hdefined)
  refine ⟨e, he, ?_⟩
  show (Act.ofExcept ((Arithmetic.result? c s op l r).getD _)).run s = _
  rw [he]
  rfl

theorem result?_of_accepts_str (hop : op = .eq ∨ op = .ne) (hl : c.accepts s .str l = true)
    (hr : c.accepts s .str r = true) :
    Arithmetic.result? c s op l r = some (.ok (.bool (c.same l r == (op == .eq)))) := by
  rcases Catalog.accepts_str_iff.1 hl with rfl | ⟨a, rfl⟩
  · exact Arithmetic.result?_null hop (.inl rfl)
  · rcases Catalog.accepts_str_iff.1 hr with rfl | ⟨b, rfl⟩
    · exact Arithmetic.result?_null hop (.inr rfl)
    · exact Arithmetic.result?_texts hop a b

theorem isStr_of_builtin? (h : v.builtin? = some .string) : Arithmetic.isStr v = true := by
  cases v <;> first | rfl | cases h

theorem Offers.computes (h : b.Offers c s op l r o)
    (htype : l.builtin? = some b ∨ r.builtin? = some b) : o.Computes c s l r := by
  obtain ⟨ho, rfl, hl, hr⟩ := h
  cases b with
  | bool =>
    obtain ⟨hop, hl, hr⟩ := operands_of_mem_overloads ho hl hr
    obtain ⟨x, rfl⟩ := Catalog.accepts_bool_iff.1 hl
    obtain ⟨y, rfl⟩ := Catalog.accepts_bool_iff.1 hr
    exact computes_of_mem_overloads ho (.bools hop x y)
  | int =>
    rcases List.mem_append.1 ho with ho | ho
    · obtain ⟨-, hl, hr⟩ := operands_of_mem_overloads ho hl hr
      obtain ⟨i, rfl⟩ := Catalog.accepts_int_iff.1 hl
      obtain ⟨j, rfl⟩ := Catalog.accepts_int_iff.1 hr
      exact computes_of_mem_overloads ho (.ints _ i j)
    · obtain ⟨hop, hl, hr⟩ := operands_of_mem_overloads ho hl hr
      obtain ⟨i, rfl⟩ := Catalog.accepts_int_iff.1 hl
      exact computes_of_mem_overloads ho (.numbers hop (.int i) (Catalog.accepts_double_iff.1 hr))
  | float =>
    obtain ⟨hop, hl, hr⟩ := operands_of_mem_overloads ho hl hr
    exact computes_of_mem_overloads ho
      (.numbers hop (Catalog.isNumber_of_accepts_float hl) (Catalog.accepts_double_iff.1 hr))
  | double =>
    obtain ⟨hop, hl, hr⟩ := operands_of_mem_overloads ho hl hr
    exact computes_of_mem_overloads ho
      (.numbers hop (Catalog.accepts_double_iff.1 hl) (Catalog.accepts_double_iff.1 hr))
  | string =>
    -- null is accepted as a text, so it takes the type of the table to see which side is one
    have htext : (Arithmetic.isStr l || Arithmetic.isStr r) = true :=
      Bool.or_eq_true_iff.2 (htype.imp isStr_of_builtin? isStr_of_builtin?)
    simp only [members, stringMembers, List.mem_cons, List.not_mem_nil, or_false] at ho
    rcases ho with rfl | rfl | rfl | rfl
    · exact ⟨_, Arithmetic.result?_join htext, rfl⟩
    · exact ⟨_, Arithmetic.result?_join htext, rfl⟩
    · refine ⟨_, result?_of_accepts_str (.inl rfl) hl hr, ?_⟩
      show (Except.ok (Value.bool (c.same l r)), s) = (.ok (.bool (c.same l r == true)), s)
      rw [beq_true]
    · refine ⟨_, result?_of_accepts_str (.inr rfl) hl hr, ?_⟩
      show (Except.ok (Value.bool (!c.same l r)), s) = (.ok (.bool (c.same l r == false)), s)
      rw [beq_false]

theorem exists_offers_of_subset (hlisted : overloads c ops left right ⊆ (members c b).operators)
    (hop : op ∈ ops) (hl : c.accepts s (left.resolve (.builtin b)) l = true)
    (hr : c.accepts s (right.resolve (.builtin b)) r = true) : ∃ o, b.Offers c s op l r o :=
  ⟨_, hlisted (List.mem_map_of_mem hop), rfl, hl, hr⟩

theorem exists_offers_numbers (hop : op ∈ numericOperators) (hl : l.IsNumber) (hr : r.IsNumber) :
    ∃ b, l.builtin? = some b ∧ ∃ o, b.Offers c s op l r o := by
  have hright : c.accepts s .double r = true := Catalog.accepts_double_iff.2 hr
  cases hl with
  | int i =>
    exact ⟨.int, rfl, exists_offers_of_subset (List.subset_append_right _ _) hop rfl hright⟩
  | float x => exact ⟨.float, rfl, exists_offers_of_subset (List.Subset.refl _) hop rfl hright⟩
  | double x => exact ⟨.double, rfl, exists_offers_of_subset (List.Subset.refl _) hop rfl hright⟩

/-- One of the first two entries of texts joins a text with anything, one of the last two compares
texts. -/
theorem exists_offers_join (h : (Arithmetic.isStr l || Arithmetic.isStr r) = true) :
    (l.builtin? = some .string ∨ r.builtin? = some .string) ∧
      ∃ o, Builtin.string.Offers c s .add l r o := by
  by_cases hl : Arithmetic.isStr l = true
  · cases l <;> cases hl
    exact ⟨.inl rfl, _, .head _, rfl, rfl, Catalog.accepts_any⟩
  · have hr : Arithmetic.isStr r = true := by simpa [hl] using h
    cases r <;> cases hr
    exact ⟨.inr rfl, _, .tail _ (.head _), rfl, Catalog.accepts_any, rfl⟩

theorem exists_offers_texts (hop : op = .eq ∨ op = .ne) (x y : String) :
    ∃ o, Builtin.string.Offers c s op (.str x) (.str y) o := by
  rcases hop with rfl | rfl
  · exact ⟨_, .tail _ (.tail _ (.head _)), rfl, rfl, rfl⟩
  · exact ⟨_, .tail _ (.tail _ (.tail _ (.head _))), rfl, rfl, rfl⟩

/-- Where the arithmetic is defined and does not compare with null, there is an entry. -/
theorem exists_offers (h : Arithmetic.Defined op l r) :
    (∃ b, (l.builtin? = some b ∨ r.builtin? = some b) ∧ ∃ o, b.Offers c s op l r o) ∨
      (op = .eq ∨ op = .ne) ∧ (l = .null ∨ r = .null) := by
  cases h with
  | null hop hnull => exact .inr ⟨hop, hnull⟩
  | join htext => exact .inl ⟨.string, exists_offers_join htext⟩
  | texts hop x y => exact .inl ⟨.string, .inl rfl, exists_offers_texts hop x y⟩
  | bools hop x y =>
    exact .inl ⟨.bool, .inl rfl, exists_offers_of_subset (List.Subset.refl _) hop rfl rfl⟩
  | ints op i j =>
    exact .inl ⟨.int, .inl rfl,
      exists_offers_of_subset (List.subset_append_left _ _) op.mem_all rfl rfl⟩
  | numbers hop hl hr =>
    obtain ⟨b, htype, ho⟩ := exists_offers_numbers hop hl hr
    exact .inl ⟨b, .inl htype, ho⟩

end Builtin

/-! ## The search for an entry -/

namespace World

/-- The type `u` declares an entry for an operator whose kinds accept both operands. -/
structure Offers (w : World) (s : Store) (op : Operator) (l r : Value) (u : TypeRef)
    (o : Overload) : Prop where
  listed : o ∈ (w.members u).operators
  op_eq : o.op = op
  left : w.catalog.accepts s (o.left.resolve u) l = true
  right : w.catalog.accepts s (o.right.resolve u) r = true

theorem exists_offers_of_overload? (h : w.overload? s op l r = some o) :
    ∃ v t u, (v = l ∨ v = r) ∧ s.typeOf? v = some t ∧ u ∈ w.catalog.hierarchy t ∧
      w.Offers s op l r u o := by
  obtain ⟨v, hv, hfound⟩ := List.exists_of_findSome?_eq_some h
  obtain ⟨t, ht, hentry⟩ := Option.bind_eq_some_iff.1 hfound
  obtain ⟨⟨u, o'⟩, hp, rfl⟩ := Option.map_eq_some_iff.1 hentry
  have haccepts := List.find?_some hp
  rw [Bool.and_eq_true] at haccepts
  obtain ⟨u', hu', hlisted⟩ := List.mem_flatMap.1 (List.mem_of_find?_eq_some hp)
  obtain ⟨o'', ho'', heq⟩ := List.mem_map.1 hlisted
  cases heq
  obtain ⟨ho, hop⟩ := List.mem_filter.1 ho''
  exact ⟨v, t, u, by simpa using hv, ht, hu', ho, beq_iff_eq.1 hop, haccepts.1, haccepts.2⟩

theorem overload?_isSome_of_offers (hv : v = l ∨ v = r) (ht : s.typeOf? v = some t)
    (hu : u ∈ w.catalog.hierarchy t) (h : w.Offers s op l r u o) :
    (w.overload? s op l r).isSome = true := by
  have hlisted : (u, o) ∈ w.overloads t op :=
    List.mem_flatMap.2 ⟨u, hu, List.mem_map_of_mem
      (List.mem_filter.2 ⟨h.listed, beq_iff_eq.2 h.op_eq⟩)⟩
  refine List.findSome?_isSome_iff.2 ⟨v, by simpa using hv, ?_⟩
  rw [ht, Option.bind_some, Option.isSome_map, List.find?_isSome]
  exact ⟨_, hlisted, Bool.and_eq_true_iff.2 ⟨h.left, h.right⟩⟩

theorem offers_of_overload? (hl : l.IsPrimitive) (hr : r.IsPrimitive)
    (h : w.overload? s op l r = some o) :
    ∃ b, (l.builtin? = some b ∨ r.builtin? = some b) ∧ b.Offers w.catalog s op l r o := by
  obtain ⟨v, t, u, hv, ht, hu, hoffers⟩ := exists_offers_of_overload? h
  have hprimitive : v.IsPrimitive := by rcases hv with rfl | rfl <;> assumption
  rw [Store.typeOf?_primitive hprimitive] at ht
  obtain ⟨b, hb, rfl⟩ := Option.map_eq_some_iff.1 ht
  -- a builtin type has no base, so only its own table is searched
  obtain rfl : u = .builtin b := List.mem_singleton.1 hu
  refine ⟨b, ?_, hoffers.listed, hoffers.op_eq, hoffers.left, hoffers.right⟩
  rcases hv with rfl | rfl
  · exact .inl hb
  · exact .inr hb

theorem overload?_isSome (hl : l.IsPrimitive) (hr : r.IsPrimitive)
    (htype : l.builtin? = some b ∨ r.builtin? = some b) (h : b.Offers w.catalog s op l r o) :
    (w.overload? s op l r).isSome = true := by
  obtain ⟨v, hv, hprimitive, hb⟩ :
      ∃ v, (v = l ∨ v = r) ∧ v.IsPrimitive ∧ v.builtin? = some b := by
    rcases htype with hb | hb
    · exact ⟨l, .inl rfl, hl, hb⟩
    · exact ⟨r, .inr rfl, hr, hb⟩
  have ht : s.typeOf? v = some (.builtin b) := by rw [Store.typeOf?_primitive hprimitive, hb]; rfl
  exact overload?_isSome_of_offers hv ht (w.catalog.mem_hierarchy_self _)
    ⟨h.listed, h.op_eq, h.left, h.right⟩

theorem applyOperator_of_overload? {strict : Bool} (h : w.overload? s op l r = some o) :
    (w.applyOperator strict op l r).run s = (o.apply l r).run s := by
  simp only [applyOperator, Act.run_bind, Act.run_get, h]

/-- Without an entry, equality is identity, and any other operator fails under the strict rule and
else gives its right operand. -/
theorem applyOperator_of_not_overload? {strict : Bool} (h : w.overload? s op l r = none) :
    (w.applyOperator strict op l r).run s =
      (Act.ofExcept (if op = .eq ∨ op = .ne then .ok (.bool (w.catalog.same l r == (op == .eq)))
        else if strict then .error (Arithmetic.undefinedFor w.catalog s op l r)
        else .ok r)).run s := by
  simp only [applyOperator, Act.run_bind, Act.run_get, h, Bool.or_eq_true, decide_eq_true_eq]
  repeat' split
  all_goals rfl

/-- Applying an operator to null and builtin values is the arithmetic, whichever tables are
searched: its value, or the division by zero that it fails with.  Where the arithmetic is not
defined there is no entry either. -/
theorem applyOperator_primitive (w : World) (s : Store) (strict : Bool) (op : Operator)
    (hl : l.IsPrimitive) (hr : r.IsPrimitive) :
    (w.applyOperator strict op l r).run s =
      (Act.ofExcept (match Arithmetic.result? w.catalog s op l r with
        | some e => e
        | none =>
          if op = .eq ∨ op = .ne then .ok (.bool (w.catalog.same l r == (op == .eq)))
          else if strict then .error (.of
            (.noOperator op.symbol (w.catalog.typeName s l) (w.catalog.typeName s r)))
          else .ok r)).run s ∧
    (∀ f, Arithmetic.result? w.catalog s op l r = some (.error f) → f = .of .divideByZero) ∧
    ((w.overload? s op l r).isSome = true →
      (Arithmetic.result? w.catalog s op l r).isSome = true) := by
  cases hfound : w.overload? s op l r with
  | some o =>
    obtain ⟨b, htype, hoffers⟩ := offers_of_overload? hl hr hfound
    obtain ⟨e, he, happly⟩ := hoffers.computes htype
    rw [hoffers.op_eq] at he
    refine ⟨?_, fun f => Arithmetic.result?_eq_error, fun _ => ?_⟩
    · rw [applyOperator_of_overload? hfound, happly, he]
    · rw [he]
      rfl
  | none =>
    refine ⟨?_, fun f => Arithmetic.result?_eq_error, fun h => absurd h Bool.false_ne_true⟩
    rw [applyOperator_of_not_overload? hfound]
    cases he : Arithmetic.result? w.catalog s op l r with
    | none => rfl
    | some e =>
      have hdefined := Arithmetic.result?_isSome_iff.1 (Option.isSome_of_eq_some he)
      rcases Builtin.exists_offers (c := w.catalog) (s := s) hdefined with
        ⟨b, htype, o, ho⟩ | ⟨hop, hnull⟩
      · have hsome := overload?_isSome hl hr htype ho
        rw [hfound] at hsome
        cases hsome
      · -- comparing with null is identity in the arithmetic too
        rw [Arithmetic.result?_null hop hnull] at he
        cases he
        rw [if_pos hop]

/-- The theorem at an integer added to null, which the tables of integers and texts both refuse. -/
theorem applyOperator_int_null : (Value.int 1).IsPrimitive ∧ Value.null.IsPrimitive ∧
    ((⟨⟨[]⟩, []⟩ : World).applyOperator true .add (.int 1) .null).run ⟨[], []⟩ =
      (.error (.failed (.of (.noOperator "+" "int" "null"))), ⟨[], []⟩) := by
  have hl : (Value.int 1).IsPrimitive := by decide
  have hr : Value.null.IsPrimitive := by decide
  exact ⟨hl, hr, (applyOperator_primitive ⟨⟨[]⟩, []⟩ ⟨[], []⟩ true .add hl hr).1⟩

end World

end DevConsole
