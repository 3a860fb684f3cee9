/-
# `DevConsole.Proofs.Number.MachineLaws` — division, shifts and order of machine integers

The operators on integers end with a value whatever their operands are, with one exception: nothing
is divided by zero.  What the values are can be said without the way they are computed:

    a / b, a % b     the one quotient and remainder with |r| < |b| and the sign of a (`IsDivision`)
    a << b, a >> b   a times and a over 2 ^ k, cut to 64 bits and floored, where k is b modulo 64
    <, ==, >         one of the three, as the integers stand; <=, >= and != are put together of them

Each law is settled in whole numbers first, which machine integers are read as.  Only one division
leaves their range, that of the least integer by minus one.  Its quotient wraps around to the least
integer itself, so that the law of quotient and remainder holds modulo 2 ^ 64 even there, and holds
in whole numbers everywhere else (`isDivision_iff`).
-/
import DevConsole.Proofs.Number.Wrapping
import Mathlib.Data.Int.ModEq

namespace DevConsole

namespace Arithmetic

variable {a b q r : Int64}

/-! ## Failing -/

/-- An operator on integers gives a value, or it fails because of a division by zero. -/
theorem int?_cases (op : Operator) (a b : Int64) :
    int? op a b = some (.error (.of .divideByZero)) ∧ (op = .div ∨ op = .rem) ∧ b = 0 ∨
      (∃ v, int? op a b = some (.ok v)) ∧ ¬((op = .div ∨ op = .rem) ∧ b = 0) := by
  by_cases hb : b = 0
  · cases op <;> simp [int?, compare?, hb]
  · cases op <;> simp [int?, compare?, hb]

theorem int?_eq_divideByZero_iff {op : Operator} :
    int? op a b = some (.error (.of .divideByZero)) ↔ (op = .div ∨ op = .rem) ∧ b = 0 := by
  rcases int?_cases op a b with ⟨hfails, hzero⟩ | ⟨⟨v, hv⟩, hzero⟩
  · exact iff_of_true hfails hzero
  · refine iff_of_false ?_ hzero
    rw [hv]
    nofun

/-! ## Division -/

/-- `q` and `r` are quotient and remainder of `a` by `b`. -/
structure IsDivision (a b q r : Int64) : Prop where
  modEq : q.toInt * b.toInt + r.toInt ≡ a.toInt [ZMOD 2 ^ 64]
  remainder_lt : |r.toInt| < |b.toInt|
  remainder_sign : r = 0 ∨ r.toInt.sign = a.toInt.sign
  /-- Within the range, the law of quotient and remainder holds in whole numbers. -/
  exact : ¬(a = .minValue ∧ b = -1) → q.toInt * b.toInt + r.toInt = a.toInt
  /-- The one quotient that leaves the range wraps around. -/
  wraps : a = .minValue → b = -1 → q = .minValue ∧ r = 0

/-- The quotient is that of the whole numbers, unless it leaves the range. -/
theorem toInt_div_of_fits (h : ¬(a = .minValue ∧ b = -1)) :
    (a / b).toInt = a.toInt.tdiv b.toInt := by
  by_cases ha : a = .minValue
  · exact Int64.toInt_div_of_ne_right a b fun hb => h ⟨ha, hb⟩
  · exact Int64.toInt_div_of_ne_left a b ha

theorem abs_toInt_mod_lt (hb : b ≠ 0) : |(a % b).toInt| < |b.toInt| := by
  have hpos : 0 < b.toInt.natAbs := Int.natAbs_pos.2 fun h => hb ((toInt_eq_zero_iff b).1 h)
  rw [Int.abs_eq_natAbs, Int.abs_eq_natAbs, Int64.toInt_mod, Int.natAbs_tmod]
  exact_mod_cast Nat.mod_lt _ hpos

theorem sign_toInt_mod (a b : Int64) : a % b = 0 ∨ (a % b).toInt.sign = a.toInt.sign := by
  rw [← toInt_eq_zero_iff, Int64.toInt_mod, ← Int.sign_eq_zero_iff_zero, Int.sign_tmod]
  split
  · exact .inl rfl
  · exact .inr rfl

theorem isDivision_div_mod (hb : b ≠ 0) : IsDivision a b (a / b) (a % b) where
  modEq := by
    by_cases h : a = .minValue ∧ b = -1
    · obtain ⟨rfl, rfl⟩ := h
      decide
    · rw [toInt_div_of_fits h, Int64.toInt_mod, Int.tdiv_mul_add_tmod]
  remainder_lt := abs_toInt_mod_lt hb
  remainder_sign := sign_toInt_mod a b
  exact h := by rw [toInt_div_of_fits h, Int64.toInt_mod, Int.tdiv_mul_add_tmod]
  wraps := by
    rintro rfl rfl
    decide

/-- A remainder with the sign of the dividend lies on its side of zero. -/
theorem IsDivision.remainder_side (h : IsDivision a b q r) :
    (0 ≤ a.toInt → 0 ≤ r.toInt) ∧ (a.toInt ≤ 0 → r.toInt ≤ 0) := by
  rcases h.remainder_sign with rfl | hsign
  · exact ⟨fun _ => le_rfl, fun _ => le_rfl⟩
  · rw [← Int.sign_nonneg_iff, ← hsign, Int.sign_nonneg_iff, ← Int.sign_nonpos_iff, ← hsign,
      Int.sign_nonpos_iff]
    exact ⟨id, id⟩

/-- There is one quotient and remainder, which division finds. -/
theorem isDivision_iff (hb : b ≠ 0) : IsDivision a b q r ↔ q = a / b ∧ r = a % b := by
  constructor
  · intro h
    by_cases hfits : a = .minValue ∧ b = -1
    · obtain ⟨rfl, rfl⟩ := hfits
      obtain ⟨rfl, rfl⟩ := h.wraps rfl rfl
      decide
    · have hne : b.toInt ≠ 0 := fun hzero => hb ((toInt_eq_zero_iff b).1 hzero)
      have hlaw : r.toInt + b.toInt * q.toInt = a.toInt := by
        rw [← h.exact hfits, Int.mul_comm, Int.add_comm]
      have hlt := abs_lt.1 h.remainder_lt
      rw [Int.abs_eq_natAbs] at hlt
      obtain ⟨hquotient, hremainder⟩ : a.toInt.tdiv b.toInt = q.toInt ∧
          a.toInt.tmod b.toInt = r.toInt := by
        rcases Int.le_total 0 a.toInt with ha | ha
        · exact (Int.tdiv_tmod_unique ha hne).2 ⟨hlaw, h.remainder_side.1 ha, hlt.2⟩
        · exact (Int.tdiv_tmod_unique' ha hne).2 ⟨hlaw, hlt.1, h.remainder_side.2 ha⟩
      rw [← toInt_div_of_fits hfits] at hquotient
      rw [← Int64.toInt_mod] at hremainder
      exact ⟨(Int64.toInt.inj hquotient).symm, (Int64.toInt.inj hremainder).symm⟩
  · rintro ⟨rfl, rfl⟩
    exact isDivision_div_mod hb

/-! ## Shifts -/

/-- What is cut to 64 bits keeps its value modulo 2 ^ 64. -/
theorem toInt_ofInt_modEq (i : Int) : (Int64.ofInt i).toInt ≡ i [ZMOD 2 ^ 64] := by
  rw [Int64.toInt_ofInt]
  exact Int.bmod_emod

theorem toInt_shiftLeft_modEq (a b : Int64) :
    (a <<< b).toInt ≡ a.toInt * 2 ^ (b.toInt % 64).toNat [ZMOD 2 ^ 64] := by
  rw [shiftLeft_eq]
  exact toInt_ofInt_modEq _

theorem toInt_shiftRight_eq_fdiv (a b : Int64) :
    (a >>> b).toInt = a.toInt.fdiv (2 ^ (b.toInt % 64).toNat) := by
  rw [toInt_shiftRight, Int.fdiv_eq_ediv_of_nonneg _ (Int.pow_nonneg (by decide))]

/-- The count of a shift, whatever its sign, is the number below 64 that it is congruent to. -/
theorem shiftCount_lt (b : Int64) :
    (b.toInt % 64).toNat < 64 ∧ ((b.toInt % 64).toNat : Int) ≡ b.toInt [ZMOD 64] := by
  have hnonneg : 0 ≤ b.toInt % 64 := Int.emod_nonneg _ (by decide)
  have hlt : b.toInt % 64 < 64 := Int.emod_lt_of_pos _ (by decide)
  refine ⟨by omega, ?_⟩
  rw [Int.toNat_of_nonneg hnonneg]
  exact Int.mod_modEq _ _

/-! ## Order -/

/-- `lt`, `eq` and `gt` are what the comparisons of two integers come to. -/
structure Compares (a b : Int64) (lt eq gt : Bool) : Prop where
  int?_lt : int? .lt a b = some (.ok (.bool lt))
  int?_eq : int? .eq a b = some (.ok (.bool eq))
  int?_gt : int? .gt a b = some (.ok (.bool gt))
  int?_le : int? .le a b = some (.ok (.bool (lt || eq)))
  int?_ge : int? .ge a b = some (.ok (.bool (gt || eq)))
  int?_ne : int? .ne a b = some (.ok (.bool (!eq)))
  lt_iff : lt = true ↔ a.toInt < b.toInt
  eq_iff : eq = true ↔ a.toInt = b.toInt
  gt_iff : gt = true ↔ b.toInt < a.toInt

theorem intOrder_cases (a b : Int64) :
    intOrder a b = .lt ∧ a.toInt < b.toInt ∨ intOrder a b = .eq ∧ a.toInt = b.toInt ∨
      intOrder a b = .gt ∧ b.toInt < a.toInt := by
  unfold intOrder
  split
  · rename_i hlt
    exact .inl ⟨rfl, Int64.lt_iff_toInt_lt.1 hlt⟩
  · rename_i hlt
    rw [Int64.lt_iff_toInt_lt] at hlt
    split
    · rename_i heq
      exact .inr (.inl ⟨rfl, congrArg _ heq⟩)
    · rename_i hne
      have htoInt : a.toInt ≠ b.toInt := fun h => hne (Int64.toInt.inj h)
      exact .inr (.inr ⟨rfl, by omega⟩)

theorem intOrder_eq_lt_iff : intOrder a b = .lt ↔ a.toInt < b.toInt := by
  rcases intOrder_cases a b with ⟨h, horder⟩ | ⟨h, horder⟩ | ⟨h, horder⟩
  · exact iff_of_true h horder
  · exact iff_of_false (by rw [h]; nofun) (by omega)
  · exact iff_of_false (by rw [h]; nofun) (by omega)

theorem intOrder_eq_eq_iff : intOrder a b = .eq ↔ a.toInt = b.toInt := by
  rcases intOrder_cases a b with ⟨h, horder⟩ | ⟨h, horder⟩ | ⟨h, horder⟩
  · exact iff_of_false (by rw [h]; nofun) (by omega)
  · exact iff_of_true h horder
  · exact iff_of_false (by rw [h]; nofun) (by omega)

theorem intOrder_eq_gt_iff : intOrder a b = .gt ↔ b.toInt < a.toInt := by
  rcases intOrder_cases a b with ⟨h, horder⟩ | ⟨h, horder⟩ | ⟨h, horder⟩
  · exact iff_of_false (by rw [h]; nofun) (by omega)
  · exact iff_of_false (by rw [h]; nofun) (by omega)
  · exact iff_of_true h horder

/-- An operator that is no arithmetic goes by the order of the integers. -/
theorem int?_of_compares {op : Operator} (h : op.compares = true) (a b : Int64) :
    int? op a b = (compare? op (some (intOrder a b))).map fun r => .ok (.bool r) := by
  cases op <;> first | rfl | cases h

theorem compares_intOrder (a b : Int64) :
    Compares a b (intOrder a b == .lt) (intOrder a b == .eq) (intOrder a b == .gt) where
  int?_lt := int?_of_compares rfl a b
  int?_eq := int?_of_compares rfl a b
  int?_gt := int?_of_compares rfl a b
  int?_le := by
    rw [int?_of_compares rfl]
    cases intOrder a b <;> rfl
  int?_ge := by
    rw [int?_of_compares rfl]
    cases intOrder a b <;> rfl
  int?_ne := int?_of_compares rfl a b
  lt_iff := beq_iff_eq.trans intOrder_eq_lt_iff
  eq_iff := beq_iff_eq.trans intOrder_eq_eq_iff
  gt_iff := beq_iff_eq.trans intOrder_eq_gt_iff

/-- Exactly one of the three orders is the order of two integers. -/
theorem count_order (o : Ordering) : [o == .lt, o == .eq, o == .gt].count true = 1 := by
  cases o <;> rfl

/-! ## The laws -/

/-- Of two integers, an operator on builtin values makes what it makes of integers. -/
theorem result?_int (c : Catalog) (s : Store) (op : Operator) (a b : Int64) :
    result? c s op (.int a) (.int b) = int? op a b := by
  simp [result?, isStr, Value.isNull, number?]

/-- An operator on integers gives a value unless it divides by zero.  Otherwise there is one
quotient and remainder, and division gives them; a shift by whatever count is a multiplication modulo
2 ^ 64 or a floored division by a power of two below 2 ^ 64; and of smaller, equal and greater,
exactly one is true. -/
theorem int?_lawful (a b : Int64) :
    (∀ c s op, result? c s op (.int a) (.int b) = int? op a b) ∧
    (∀ op, int? op a b = some (.error (.of .divideByZero)) ↔ (op = .div ∨ op = .rem) ∧ b = 0) ∧
    (∀ op, int? op a b = some (.error (.of .divideByZero)) ∨ ∃ v, int? op a b = some (.ok v)) ∧
    (b ≠ 0 → ∃ q r, int? .div a b = some (.ok (.int q)) ∧ int? .rem a b = some (.ok (.int r)) ∧
      IsDivision a b q r ∧ ∀ q' r', IsDivision a b q' r' → q' = q ∧ r' = r) ∧
    (∃ k : Nat, k < 64 ∧ (k : Int) ≡ b.toInt [ZMOD 64] ∧
      (∃ x, int? .shl a b = some (.ok (.int x)) ∧ x.toInt ≡ a.toInt * 2 ^ k [ZMOD 2 ^ 64]) ∧
      ∃ y, int? .shr a b = some (.ok (.int y)) ∧ y.toInt = a.toInt.fdiv (2 ^ k)) ∧
    ∃ lt eq gt, Compares a b lt eq gt ∧ [lt, eq, gt].count true = 1 := by
  refine ⟨fun c s op => result?_int c s op a b, fun op => int?_eq_divideByZero_iff, fun op => ?_,
    fun hb => ?_, ?_, ?_⟩
  · exact (int?_cases op a b).imp And.left And.left
  · have hdiv : int? .div a b = some (.ok (.int (a / b))) := by rw [int?, if_neg hb]
    have hrem : int? .rem a b = some (.ok (.int (a % b))) := by rw [int?, if_neg hb]
    exact ⟨a / b, a % b, hdiv, hrem, isDivision_div_mod hb, fun q r => (isDivision_iff hb).1⟩
  · obtain ⟨hlt, hcount⟩ := shiftCount_lt b
    exact ⟨(b.toInt % 64).toNat, hlt, hcount, ⟨a <<< b, rfl, toInt_shiftLeft_modEq a b⟩,
      a >>> b, rfl, toInt_shiftRight_eq_fdiv a b⟩
  · exact ⟨_, _, _, compares_intOrder a b, count_order _⟩

/-- The theorem at the quotient that leaves the range. -/
theorem int?_lawful_minValue : (-1 : Int64) ≠ 0 ∧
    int? .div .minValue (-1) = some (.ok (.int .minValue)) ∧
    int? .rem .minValue (-1) = some (.ok (.int 0)) ∧ IsDivision .minValue (-1) .minValue 0 := by
  have hb : (-1 : Int64) ≠ 0 := by decide
  obtain ⟨-, -, -, hdivision, -, -⟩ := int?_lawful .minValue (-1)
  obtain ⟨q, r, hdiv, hrem, hlaw, -⟩ := hdivision hb
  obtain ⟨rfl, rfl⟩ := hlaw.wraps rfl rfl
  exact ⟨hb, hdiv, hrem, hlaw⟩

/-- A count of minus one is one of 63. -/
example : int? .shl 1 (-1) = some (.ok (.int .minValue)) := rfl

end Arithmetic

end DevConsole
