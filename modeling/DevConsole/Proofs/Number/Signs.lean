/-
# `DevConsole.Proofs.Number.Signs` — the sign of a number that was read

A number is read into a bit pattern, and it is written from its bit pattern; in between stands the
machine number, which is made from the pattern by unpacking it and packing it again.  That puts one
pattern in place of all those of no number, and of the rest only the sign matters here: it is kept.

So a number that was read from a text without a sign is written without one
(`Reading.single?_unsigned`, `Reading.double?_unsigned`).
-/
import DevConsole.Number.Reading
import Mathlib

namespace DevConsole

open Float.Model

namespace Format

/-! ## Packing keeps a clear sign -/

/-- No number, or one with the positive sign. -/
def Unsigned : UnpackedFloat → Prop
  | .notANumber => True
  | .infinity s | .zero s | .finite s _ _ _ => s = .positive

section Packing

variable {spec : Float.Model.Format}

/-- The patterns whose sign bit is clear. -/
def signLimit (spec : Float.Model.Format) : Nat :=
  2 ^ (spec.exponentBits + spec.mantissaBitsWithoutImplicit)

theorem unpackSign_eq_zero {b : BitVec spec.numBits} (h : b.toNat < signLimit spec) :
    UnpackedFloat.unpackSign b = 0#1 := by
  have hzero : b.toNat >>> (spec.mantissaBitsWithoutImplicit + spec.exponentBits) = 0 := by
    rw [Nat.shiftRight_eq_div_pow, Nat.add_comm]
    exact Nat.div_eq_of_lt h
  refine BitVec.eq_of_toNat_eq ?_
  simp [UnpackedFloat.unpackSign, BitVec.extractLsb, hzero]

theorem unsigned_unpack {b : BitVec spec.numBits} (h : b.toNat < signLimit spec) :
    Unsigned (UnpackedFloat.unpack spec b) := by
  have hsign : UnpackedFloat.Sign.ofBitVec (UnpackedFloat.unpackSign b) = .positive := by
    rw [unpackSign_eq_zero h]
    rfl
  simp only [UnpackedFloat.unpack, hsign]
  repeat' split
  all_goals first | exact rfl | exact trivial

theorem toNat_packComponents_lt (e : BitVec spec.exponentBits)
    (m : BitVec spec.mantissaBitsWithoutImplicit) :
    (UnpackedFloat.packComponents spec .positive e m).toNat < signLimit spec := by
  have hbound := (e ++ m).isLt
  rw [BitVec.toNat_append] at hbound
  rw [signLimit]
  simpa [UnpackedFloat.packComponents, UnpackedFloat.Sign.toBitVec, BitVec.toNat_append]
    using hbound

theorem toNat_pack_lt {x : UnpackedFloat} (h : Unsigned x) :
    (UnpackedFloat.pack spec x).toNat < signLimit spec := by
  cases x with
  | notANumber => exact toNat_packComponents_lt _ _
  | infinity s =>
      obtain rfl : s = .positive := h
      exact toNat_packComponents_lt _ _
  | zero s =>
      obtain rfl : s = .positive := h
      exact toNat_packComponents_lt _ _
  | finite s m e hm =>
      obtain rfl : s = .positive := h
      simp only [UnpackedFloat.pack]
      repeat' split
      all_goals exact toNat_packComponents_lt _ _

end Packing

/-- A pattern with a clear sign denotes no negative number. -/
theorem decode_unsigned {f : Format} {bits m : Nat} {e : Int} {negative : Bool}
    (hbits : bits < f.signBit) (h : f.decode bits = .finite negative m e) : negative = false := by
  have hclear : decide (f.signBit ≤ bits) = false := decide_eq_false (by omega)
  simp only [decode, hclear] at h
  repeat' split at h
  all_goals cases h
  all_goals rfl

theorem ofRatio_le (f : Format) (num den : Nat) : f.ofRatio num den ≤ f.infinityBits := by
  rw [ofRatio]
  split
  · exact Nat.zero_le _
  · exact Nat.min_le_left _ _

end Format

namespace Reading

/-- The pattern of a literal does not reach the sign bit. -/
theorem Literal.bits_le (f : Format) (l : Literal) : l.bits f ≤ f.nanBits := by
  have hinfinity : f.infinityBits ≤ f.nanBits := Nat.le_add_right _ _
  cases l with
  | nan => exact Nat.le_refl _
  | infinite => exact hinfinity
  | exact c e =>
      simp only [bits]
      repeat' split
      · exact Nat.zero_le _
      · exact hinfinity
      · exact Nat.zero_le _
      · exact Nat.le_trans (f.ofRatio_le _ _) hinfinity

/-- A text that starts with a digit has no sign. -/
theorem signed?_of_isDigit {c : Char} (hc : c.isDigit = true) (cs : List Char) :
    signed? (c :: cs) = (unsigned? (c :: cs)).map (false, ·) := by
  refine signed?.eq_3 _ ?_ ?_
  · rintro ds h
    rw [(List.cons.inj h).1] at hc
    cases hc
  · rintro ds h
    rw [(List.cons.inj h).1] at hc
    cases hc

/-- What is read from a text that starts with a digit is not negative. -/
theorem single?_unsigned {c : Char} (hc : c.isDigit = true) {cs : List Char} {x : Float32}
    (h : single? (c :: cs) = some x) {negative : Bool} {m : Nat} {e : Int}
    (hx : Float32.magnitude x = .finite negative m e) : negative = false := by
  rw [single?, signed?_of_isDigit hc, Option.map_map, Option.map_eq_some_iff] at h
  obtain ⟨l, -, rfl⟩ := h
  have hpattern : (UInt32.ofNat (l.bits .single)).toBitVec.toNat <
      Format.signLimit .binary32 := by
    refine Nat.lt_of_le_of_lt (Nat.mod_le _ _) (Nat.lt_of_le_of_lt (l.bits_le _) ?_)
    decide
  exact Format.decode_unsigned (Format.toNat_pack_lt (Format.unsigned_unpack hpattern)) hx

theorem double?_unsigned {c : Char} (hc : c.isDigit = true) {cs : List Char} {x : Float}
    (h : double? (c :: cs) = some x) {negative : Bool} {m : Nat} {e : Int}
    (hx : Float.magnitude x = .finite negative m e) : negative = false := by
  rw [double?, signed?_of_isDigit hc, Option.map_map, Option.map_eq_some_iff] at h
  obtain ⟨l, -, rfl⟩ := h
  have hpattern : (UInt64.ofNat (l.bits .double)).toBitVec.toNat <
      Format.signLimit .binary64 := by
    refine Nat.lt_of_le_of_lt (Nat.mod_le _ _) (Nat.lt_of_le_of_lt (l.bits_le _) ?_)
    decide
  exact Format.decode_unsigned (Format.toNat_pack_lt (Format.unsigned_unpack hpattern)) hx

end Reading

end DevConsole
