/-
# `DevConsole.Proofs.Number.Wrapping` — machine integers against whole numbers

The integers of a console are machine integers, and what their operators mean is said in whole
numbers: the operator is applied without any bound, and of the result 64 bits are kept.

    a op b  =  Int64.ofInt (x op y)         x, y the whole numbers that a, b stand for

The whole number of a division is the quotient cut off toward zero, that of a remainder has the sign
of the dividend; neither exists where the divisor is zero.  A shift is a multiplication or a floored
division by a power of two, the count taken modulo 64, which is never negative.  The bitwise
operators work on the two's complement of whole numbers, which has no last place.

The comparisons are left out here: their results are no numbers.
-/
import DevConsole.World.Arithmetic
import Mathlib.Data.Int.Bitwise

namespace DevConsole

namespace Arithmetic

/-- An operator on whole numbers, where it gives one. -/
def whole? (op : Operator) (x y : Int) : Option Int :=
  match op with
  | .add => some (x + y)
  | .sub => some (x - y)
  | .mul => some (x * y)
  | .div => if y = 0 then none else some (x.tdiv y)
  | .rem => if y = 0 then none else some (x.tmod y)
  | .shl => some (x * 2 ^ (y % 64).toNat)
  | .shr => some (x / 2 ^ (y % 64).toNat)
  | .bitAnd => some (x.land y)
  | .bitOr => some (x.lor y)
  | .bitXor => some (x.xor y)
  | _ => none

/-- A machine integer that stands for a whole number is that number, cut to 64 bits. -/
theorem eq_ofInt {a : Int64} {i : Int} (h : a.toInt = i) : a = Int64.ofInt i := by
  rw [← h, Int64.ofInt_toInt]

theorem ofInt_toInt (a : Int64) : BitVec.ofInt 64 a.toInt = a.toBitVec := by
  rw [← Int64.toInt_toBitVec, BitVec.ofInt_toInt]

/-! ## Division -/

theorem div_eq (a b : Int64) : a / b = Int64.ofInt (a.toInt.tdiv b.toInt) := by
  refine Int64.toInt.inj ?_
  rw [Int64.toInt_div, Int64.toInt_ofInt]

theorem mod_eq (a b : Int64) : a % b = Int64.ofInt (a.toInt.tmod b.toInt) :=
  eq_ofInt (Int64.toInt_mod a b)

theorem toInt_eq_zero_iff (b : Int64) : b.toInt = 0 ↔ b = 0 := by
  constructor
  · intro h
    exact Int64.toInt.inj h
  · rintro rfl
    rfl

/-! ## Shifts

The count is taken modulo 64 with the sign of the divisor, so it is a natural number. -/

theorem toNat_smod_64 (b : Int64) : (b.toBitVec.smod 64).toNat = (b.toInt % 64).toNat := by
  have hsmod : (b.toBitVec.smod 64).toInt = b.toInt % 64 := by
    rw [BitVec.toInt_smod]
    exact Int.fmod_eq_emod_of_nonneg _ (by decide)
  have hnonneg : 0 ≤ b.toInt % 64 := Int.emod_nonneg _ (by decide)
  have hmsb : (b.toBitVec.smod 64).msb = false := by
    rw [BitVec.msb_eq_false_iff_two_mul_lt]
    have hneg := BitVec.toInt_neg_iff (x := b.toBitVec.smod 64)
    omega
  rw [← hsmod, BitVec.toNat_toInt_of_msb _ hmsb]

theorem ofInt_two_pow (w n : Nat) : BitVec.ofInt w (2 ^ n) = BitVec.twoPow w n := by
  rw [show (2 ^ n : Int) = ((2 ^ n : Nat) : Int) by norm_cast, BitVec.ofInt_natCast]
  refine BitVec.eq_of_toNat_eq ?_
  rw [BitVec.toNat_ofNat, BitVec.toNat_twoPow]

theorem shiftLeft_eq (a b : Int64) :
    a <<< b = Int64.ofInt (a.toInt * 2 ^ (b.toInt % 64).toNat) := by
  refine Int64.toBitVec.inj ?_
  calc
    (a <<< b).toBitVec = a.toBitVec <<< (b.toInt % 64).toNat := by
      rw [Int64.toBitVec_shiftLeft, BitVec.shiftLeft_eq', toNat_smod_64]
    _ = a.toBitVec * BitVec.twoPow 64 (b.toInt % 64).toNat := BitVec.shiftLeft_eq_mul_twoPow _ _
    _ = BitVec.ofInt 64 a.toInt * BitVec.ofInt 64 (2 ^ (b.toInt % 64).toNat) := by
      rw [ofInt_two_pow, ofInt_toInt]
    _ = BitVec.ofInt 64 (a.toInt * 2 ^ (b.toInt % 64).toNat) := (BitVec.ofInt_mul _ _).symm

/-- A shift to the right does not leave the range, so there is nothing to cut. -/
theorem toInt_shiftRight (a b : Int64) :
    (a >>> b).toInt = a.toInt / 2 ^ (b.toInt % 64).toNat := by
  calc
    (a >>> b).toInt = (a.toBitVec.sshiftRight' (b.toBitVec.smod 64)).toInt := by
      rw [← Int64.toInt_toBitVec, Int64.toBitVec_shiftRight]
    _ = a.toBitVec.toInt >>> (b.toBitVec.smod 64).toNat := BitVec.toInt_sshiftRight'
    _ = a.toInt / 2 ^ (b.toInt % 64).toNat := by
      rw [toNat_smod_64, Int64.toInt_toBitVec, Int.shiftRight_eq_div_pow]
      norm_cast

theorem shiftRight_eq (a b : Int64) :
    a >>> b = Int64.ofInt (a.toInt / 2 ^ (b.toInt % 64).toNat) :=
  eq_ofInt (toInt_shiftRight a b)

/-! ## Bits

Cutting a whole number to some bits keeps these bits of its two's complement. -/

theorem getLsbD_ofInt (w : Nat) (i : Int) (k : Nat) :
    (BitVec.ofInt w i).getLsbD k = (decide (k < w) && i.testBit k) := by
  cases i with
  | ofNat n =>
      rw [Int.ofNat_eq_natCast, BitVec.ofInt_natCast, BitVec.getLsbD_ofNat]
      rfl
  | negSucc n =>
      rw [BitVec.ofInt_negSucc_eq_not_ofNat, BitVec.getLsbD_not, BitVec.getLsbD_ofNat]
      by_cases h : k < w <;> simp [h, Int.testBit]

theorem getLsbD_eq_testBit (a : Int64) {k : Nat} (hk : k < 64) :
    a.toBitVec.getLsbD k = a.toInt.testBit k := by
  rw [← ofInt_toInt a, getLsbD_ofInt, decide_eq_true hk, Bool.true_and]

/-- A bitwise operator may be applied before or after the cut. -/
theorem eq_ofInt_of_bitwise {a b c : Int64} {i : Int} (f : Bool → Bool → Bool)
    (hc : ∀ k, c.toBitVec.getLsbD k = f (a.toBitVec.getLsbD k) (b.toBitVec.getLsbD k))
    (hi : ∀ k, i.testBit k = f (a.toInt.testBit k) (b.toInt.testBit k)) : c = Int64.ofInt i := by
  refine Int64.toBitVec.inj (BitVec.eq_of_getLsbD_eq ?_)
  intro k hk
  rw [hc k, getLsbD_eq_testBit a hk, getLsbD_eq_testBit b hk, ← hi k, Int64.toBitVec_ofInt,
    getLsbD_ofInt, decide_eq_true hk, Bool.true_and]

theorem and_eq (a b : Int64) : a &&& b = Int64.ofInt (a.toInt.land b.toInt) := by
  refine eq_ofInt_of_bitwise and (fun k => ?_) (Int.testBit_land _ _)
  rw [Int64.toBitVec_and, BitVec.getLsbD_and]

theorem or_eq (a b : Int64) : a ||| b = Int64.ofInt (a.toInt.lor b.toInt) := by
  refine eq_ofInt_of_bitwise or (fun k => ?_) (Int.testBit_lor _ _)
  rw [Int64.toBitVec_or, BitVec.getLsbD_or]

theorem xor_eq (a b : Int64) : a ^^^ b = Int64.ofInt (a.toInt.xor b.toInt) := by
  refine eq_ofInt_of_bitwise xor (fun k => ?_) (Int.testBit_lxor _ _)
  rw [Int64.toBitVec_xor, BitVec.getLsbD_xor]

/-! ## Operators -/

/-- What an operator that is no comparison gives for two machine integers. -/
theorem int?_eq {op : Operator} (h : op.compares = false) (a b : Int64) :
    int? op a b = some (match whole? op a.toInt b.toInt with
      | some i => .ok (.int (Int64.ofInt i))
      | none => .error (.of .divideByZero)) := by
  cases op with
  | add => simp only [int?, whole?, Int64.ofInt_add, Int64.ofInt_toInt]
  | sub => simp only [int?, whole?, Int64.ofInt_sub, Int64.ofInt_toInt]
  | mul => simp only [int?, whole?, Int64.ofInt_mul, Int64.ofInt_toInt]
  | div =>
      simp only [int?, whole?, toInt_eq_zero_iff, div_eq]
      by_cases hb : b = 0 <;> simp [hb]
  | rem =>
      simp only [int?, whole?, toInt_eq_zero_iff, mod_eq]
      by_cases hb : b = 0 <;> simp [hb]
  | shl => simp only [int?, whole?, shiftLeft_eq]
  | shr => simp only [int?, whole?, shiftRight_eq]
  | bitAnd => simp only [int?, whole?, and_eq]
  | bitOr => simp only [int?, whole?, or_eq]
  | bitXor => simp only [int?, whole?, xor_eq]
  | _ => cases h

end Arithmetic

end DevConsole
