/-
# `DevConsole.Proofs.Number.Negation` — a number with a minus sign in front

A number is written with a minus sign, or it is written without one and its sign is changed
afterwards: the two are the same number, `numberValue?_minus`.  For machine integers that is
arithmetic.  A number of a binary format is made from its bit pattern, the sign bit being added to
the pattern of the text without a sign, and its sign is changed by unpacking it, changing the sign
and packing it again; packing and unpacking pass the sign bit along and look at nothing else because
of it (`Format.pack_unpack_signLimit_add`).
-/
import DevConsole.Proofs.Number.Signs
import DevConsole.Expr.Lexer

namespace DevConsole

/-- A constant with its sign changed, if it is a number. -/
def Literal.negated : Literal → Literal
  | .int i => .int (-i)
  | .float x => .float (-x)
  | .double x => .double (-x)
  | l => l

/-- Whether the constant is a number. -/
def Literal.IsNumber : Literal → Prop
  | .int _ | .float _ | .double _ => True
  | _ => False

open Float.Model

namespace Format

section Packing

variable {spec : Float.Model.Format}

/-! ## The sign bit -/

/-- The sign bit stands above everything else. -/
theorem toNat_packComponents_negative (e : BitVec spec.exponentBits)
    (m : BitVec spec.mantissaBitsWithoutImplicit) :
    (UnpackedFloat.packComponents spec .negative e m).toNat =
      signLimit spec + (UnpackedFloat.packComponents spec .positive e m).toNat := by
  have hbody := (e ++ m).isLt
  have happend : ∀ b : BitVec 1, (b ++ e ++ m).toNat =
      b.toNat <<< (spec.exponentBits + spec.mantissaBitsWithoutImplicit) + (e ++ m).toNat := by
    intro b
    rw [Nat.shiftLeft_add_eq_or_of_lt hbody, ← BitVec.toNat_append, BitVec.append_assoc,
      BitVec.toNat_cast]
  have hnegative := happend 1#1
  have hpositive := happend 0#1
  rw [BitVec.toNat_ofNat, Nat.one_mod, Nat.one_shiftLeft, ← signLimit] at hnegative
  rw [BitVec.toNat_ofNat, Nat.zero_mod, Nat.zero_shiftLeft, Nat.zero_add] at hpositive
  rw [← hpositive] at hnegative
  exact hnegative

/-- Unpacking passes the sign bit along. -/
theorem unpack_packComponents_negative (e : BitVec spec.exponentBits)
    (m : BitVec spec.mantissaBitsWithoutImplicit) :
    UnpackedFloat.unpack spec (UnpackedFloat.packComponents spec .negative e m) =
      (UnpackedFloat.unpack spec (UnpackedFloat.packComponents spec .positive e m)).neg := by
  have hnegative : UnpackedFloat.Sign.ofBitVec (UnpackedFloat.Sign.toBitVec .negative) =
      .negative := rfl
  have hpositive : UnpackedFloat.Sign.ofBitVec (UnpackedFloat.Sign.toBitVec .positive) =
      .positive := rfl
  simp only [UnpackedFloat.unpack, UnpackedFloat.unpackSign_packComponents,
    UnpackedFloat.unpackExponent_packComponents, UnpackedFloat.unpackMantissa_packComponents,
    hnegative, hpositive]
  repeat' split
  all_goals rfl

/-- A pattern with a clear sign bit, and the one with the bit set. -/
theorem unpack_signLimit_add {b b' : BitVec spec.numBits} (hb : b.toNat < signLimit spec)
    (hb' : b'.toNat = signLimit spec + b.toNat) :
    UnpackedFloat.unpack spec b' = (UnpackedFloat.unpack spec b).neg := by
  have hparts := UnpackedFloat.packComponents_unpackSign_unpackExponent_unpackMantissa b
  have hsign : UnpackedFloat.Sign.ofBitVec (UnpackedFloat.unpackSign b) = .positive := by
    rw [unpackSign_eq_zero hb]
    rfl
  rw [hsign] at hparts
  have hflipped : b' = UnpackedFloat.packComponents spec .negative
      (UnpackedFloat.unpackExponent b) (UnpackedFloat.unpackMantissa b) := by
    refine BitVec.eq_of_toNat_eq ?_
    rw [toNat_packComponents_negative, hparts, hb']
  rw [hflipped, unpack_packComponents_negative, hparts]

/-! ## There and back -/

/-- What was unpacked comes back from its packed form. -/
theorem unpack_pack_unpack (hspec : 2 ≤ spec.exponentBits) (b : BitVec spec.numBits) :
    UnpackedFloat.unpack spec (UnpackedFloat.pack spec (UnpackedFloat.unpack spec b)) =
      UnpackedFloat.unpack spec b := by
  rw [UnpackedFloat.pack_unpack b hspec]
  split
  · rename_i hnan
    obtain ⟨hexponent, hmantissa⟩ := of_decide_eq_true hnan
    rw [UnpackedFloat.unpack_packedNaN]
    simp only [UnpackedFloat.unpack, if_pos hexponent, if_neg hmantissa]
  · rfl

/-- Setting the sign bit of a pattern changes the sign of the number that is made from it. -/
theorem pack_unpack_signLimit_add (hspec : 2 ≤ spec.exponentBits) {b b' : BitVec spec.numBits}
    (hb : b.toNat < signLimit spec) (hb' : b'.toNat = signLimit spec + b.toNat) :
    UnpackedFloat.pack spec (UnpackedFloat.unpack spec b') =
      UnpackedFloat.pack spec (UnpackedFloat.unpack spec
        (UnpackedFloat.pack spec (UnpackedFloat.unpack spec b))).neg := by
  rw [unpack_pack_unpack hspec, unpack_signLimit_add hb hb']

end Packing

end Format

/-! ## Machine numbers -/

theorem float32OfBits_signBit_add {n : Nat} (h : n < Format.single.signBit) :
    float32OfBits (Format.single.signBit + n) = -float32OfBits n := by
  have hn : (UInt32.ofNat n).toBitVec.toNat = n := Nat.mod_eq_of_lt (Nat.lt_trans h (by decide))
  have hn' : (UInt32.ofNat (Format.single.signBit + n)).toBitVec.toNat =
      Format.single.signBit + n :=
    Nat.mod_eq_of_lt (Nat.lt_of_lt_of_le (Nat.add_lt_add_left h _) (by decide))
  have hpacked : Float32.Model.ofBits (UInt32.ofNat (Format.single.signBit + n)) =
      -Float32.Model.ofBits (UInt32.ofNat n) := by
    refine (Float32.Model.mk.injEq ..).mpr (UInt32.eq_of_toBitVec_eq ?_)
    refine Format.pack_unpack_signLimit_add (by decide) ?_ ?_
    · rw [hn]
      exact h
    · rw [hn, hn']
      rfl
  exact congrArg Float32.ofModel hpacked

theorem floatOfBits_signBit_add {n : Nat} (h : n < Format.double.signBit) :
    floatOfBits (Format.double.signBit + n) = -floatOfBits n := by
  have hn : (UInt64.ofNat n).toBitVec.toNat = n := Nat.mod_eq_of_lt (Nat.lt_trans h (by decide))
  have hn' : (UInt64.ofNat (Format.double.signBit + n)).toBitVec.toNat =
      Format.double.signBit + n :=
    Nat.mod_eq_of_lt (Nat.lt_of_lt_of_le (Nat.add_lt_add_left h _) (by decide))
  have hpacked : Float.Model.ofBits (UInt64.ofNat (Format.double.signBit + n)) =
      -Float.Model.ofBits (UInt64.ofNat n) := by
    refine (Float.Model.mk.injEq ..).mpr (UInt64.eq_of_toBitVec_eq ?_)
    refine Format.pack_unpack_signLimit_add (by decide) ?_ ?_
    · rw [hn]
      exact h
    · rw [hn, hn']
      rfl
  exact congrArg Float.ofModel hpacked

/-! ## Texts -/

namespace Decimal

/-- A text that starts with a digit has no sign, and so all of it are digits. -/
theorem readInt_digit {d : Char} (hd : d.isDigit = true) (ds : List Char) :
    readInt (d :: ds) =
      if (d :: ds).all Char.isDigit then some (ofDigits (d :: ds) : Int) else none := by
  have hsign : ∀ c, c.isDigit = false → ∀ cs, d :: ds ≠ c :: cs := by
    rintro c hc cs ⟨⟩
    rw [hc] at hd
    cases hd
  rw [readInt.eq_2 _ (hsign '-' rfl), readNat]
  · rw [apply_ite (Option.map Int.ofNat)]
    rfl
  · exact hsign '+' rfl

theorem read_minus {d : Char} (hd : d.isDigit = true) {ds : List Char} {i : Int64}
    (h : read (d :: ds) = some i) : read ('-' :: d :: ds) = some (-i) := by
  obtain ⟨j, hj, rfl⟩ := Option.map_eq_some_iff.1 h
  obtain ⟨hread, hrange⟩ := Option.filter_eq_some_iff.1 hj
  rw [readInt_digit hd] at hread
  obtain ⟨hdigits, heq⟩ := Option.ite_none_right_eq_some.1 hread
  obtain rfl := Option.some.inj heq
  have hminus : readInt ('-' :: d :: ds) = some (-(ofDigits (d :: ds) : Int)) := by
    rw [readInt, hdigits]
    rfl
  simp only [Bool.and_eq_true, decide_eq_true_eq] at hrange
  rw [read, readIntOfWidth, hminus, Option.filter_some_pos, Option.map_some, Int64.ofInt_neg]
  simp only [Bool.and_eq_true, decide_eq_true_eq]
  omega

end Decimal

namespace Reading

theorem signed?_minus {d : Char} (hd : d.isDigit = true) {ds : List Char} {l : Bool × Literal}
    (h : signed? (d :: ds) = some l) :
    l.1 = false ∧ signed? ('-' :: d :: ds) = some (true, l.2) := by
  rw [signed?_of_isDigit hd] at h
  obtain ⟨l, hl, rfl⟩ := Option.map_eq_some_iff.1 h
  refine ⟨rfl, ?_⟩
  rw [signed?, hl, Option.map_some]

theorem single?_minus {d : Char} (hd : d.isDigit = true) {ds : List Char} {x : Float32}
    (h : single? (d :: ds) = some x) : single? ('-' :: d :: ds) = some (-x) := by
  obtain ⟨⟨negative, l⟩, hl, rfl⟩ := Option.map_eq_some_iff.1 h
  obtain ⟨rfl, hminus⟩ := signed?_minus hd hl
  have hbits : l.bits .single < Format.single.signBit :=
    Nat.lt_of_le_of_lt (l.bits_le _) (by decide)
  rw [single?, hminus, Option.map_some]
  exact congrArg some (float32OfBits_signBit_add hbits)

theorem double?_minus {d : Char} (hd : d.isDigit = true) {ds : List Char} {x : Float}
    (h : double? (d :: ds) = some x) : double? ('-' :: d :: ds) = some (-x) := by
  obtain ⟨⟨negative, l⟩, hl, rfl⟩ := Option.map_eq_some_iff.1 h
  obtain ⟨rfl, hminus⟩ := signed?_minus hd hl
  have hbits : l.bits .double < Format.double.signBit :=
    Nat.lt_of_le_of_lt (l.bits_le _) (by decide)
  rw [double?, hminus, Option.map_some]
  exact congrArg some (floatOfBits_signBit_add hbits)

end Reading

theorem Lexer.isNumber_of_numberValue? {cs : List Char} {suffix : Option Suffix} {l : Literal}
    (h : numberValue? cs suffix = some l) : l.IsNumber := by
  match suffix with
  | none | some .single | some .double =>
    obtain ⟨x, -, rfl⟩ := Option.map_eq_some_iff.1 h
    trivial

/-- The constant of a number text with a minus sign in front is that of the text, with its sign
changed. -/
theorem Lexer.numberValue?_minus {d : Char} (hd : d.isDigit = true) {ds : List Char}
    {suffix : Option Suffix} {l : Literal} (h : numberValue? (d :: ds) suffix = some l) :
    numberValue? ('-' :: d :: ds) suffix = some l.negated := by
  match suffix with
  | none =>
    obtain ⟨i, hi, rfl⟩ := Option.map_eq_some_iff.1 h
    rw [numberValue?, Decimal.read_minus hd hi]
    rfl
  | some .single =>
    obtain ⟨x, hx, rfl⟩ := Option.map_eq_some_iff.1 h
    rw [numberValue?, Reading.single?_minus hd hx]
    rfl
  | some .double =>
    obtain ⟨x, hx, rfl⟩ := Option.map_eq_some_iff.1 h
    rw [numberValue?, Reading.double?_minus hd hx]
    rfl

end DevConsole
