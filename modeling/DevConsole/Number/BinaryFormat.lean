/-
Binary floating-point formats.

A finite number of a format is a whole mantissa times a power of two.  Decoding takes a bit pattern
apart; `ofRatio` goes the other way and rounds a quotient of natural numbers to the nearest number
of the format, a tie to the even mantissa.  Everything is exact arithmetic on natural numbers, and
the two machine types are two values of `Format`.
-/

namespace DevConsole

/-- The layout of a format: the bits of the fraction and of the exponent. -/
structure Format where
  fractionBits : Nat
  exponentBits : Nat
deriving Repr, DecidableEq

/-- What a bit pattern denotes: `finite n m e` is `m · 2 ^ e`, negated if `n`. -/
inductive Magnitude where
  | nan
  | infinite (negative : Bool)
  | finite (negative : Bool) (mantissa : Nat) (exponent : Int)
deriving Repr, DecidableEq

namespace Format

/-- The 32-bit format. -/
def single : Format := ⟨23, 8⟩

/-- The 64-bit format. -/
def double : Format := ⟨52, 11⟩

/-- The exponent of the smallest step between numbers of the format. -/
def minExponent (f : Format) : Int :=
  2 - (Nat.pow 2 (f.exponentBits - 1) : Nat) - f.fractionBits

/-- The bit pattern of positive infinity. -/
def infinityBits (f : Format) : Nat :=
  (Nat.pow 2 f.exponentBits - 1) * Nat.pow 2 f.fractionBits

/-- The value of the sign bit. -/
def signBit (f : Format) : Nat :=
  Nat.pow 2 (f.fractionBits + f.exponentBits)

/-- The number that a bit pattern denotes. -/
def decode (f : Format) (bits : Nat) : Magnitude :=
  let negative := f.signBit ≤ bits
  let body := bits % f.signBit
  let fraction := body % Nat.pow 2 f.fractionBits
  let step := body / Nat.pow 2 f.fractionBits
  if body = f.infinityBits then .infinite negative
  else if f.infinityBits < body then .nan
  else if step = 0 then .finite negative fraction f.minExponent
  else .finite negative (Nat.pow 2 f.fractionBits + fraction) (f.minExponent + step - 1)

/-- A numerator and a denominator of `num / den / 2 ^ e`. -/
def scaleDown (num den : Nat) (e : Int) : Nat × Nat :=
  if 0 ≤ e then (num, den * Nat.pow 2 e.toNat) else (num * Nat.pow 2 (-e).toNat, den)

/-- The quotient rounded to the nearest whole number, a tie to the even one. -/
def divRoundEven (num den : Nat) : Nat :=
  let q := num / den
  let r := num % den
  if den < 2 * r || (2 * r == den && q % 2 == 1) then q + 1 else q

/-- The bit pattern of the number nearest to `num / den`, for a positive `den`.  A carry out of the
mantissa moves on to the next exponent by itself, because patterns of neighbours are neighbours. -/
def ofRatio (f : Format) (num den : Nat) : Nat :=
  if num = 0 then 0
  else
    let guess : Int := max f.minExponent (Int.ofNat num.log2 - den.log2 - f.fractionBits)
    let full := scaleDown num den guess
    let e := if full.1 / full.2 < Nat.pow 2 f.fractionBits && f.minExponent < guess then guess - 1
      else guess
    let s := scaleDown num den e
    min f.infinityBits ((e - f.minExponent).toNat * Nat.pow 2 f.fractionBits + divRoundEven s.1 s.2)

/-- The bit pattern with the sign that `negative` asks for. -/
def withSign (f : Format) (negative : Bool) (bits : Nat) : Nat :=
  if negative then f.signBit + bits else bits

/-- A bit pattern of no number. -/
def nanBits (f : Format) : Nat :=
  f.infinityBits + Nat.pow 2 (f.fractionBits - 1)

end Format

/-- What a 32-bit number denotes. -/
def Float32.magnitude (x : Float32) : Magnitude :=
  Format.single.decode x.toBits.toNat

/-- What a 64-bit number denotes. -/
def Float.magnitude (x : Float) : Magnitude :=
  Format.double.decode x.toBits.toNat

/-- The 32-bit number with a bit pattern. -/
def float32OfBits (n : Nat) : Float32 :=
  Float32.ofBits (UInt32.ofNat n)

/-- The 64-bit number with a bit pattern. -/
def floatOfBits (n : Nat) : Float :=
  Float.ofBits (UInt64.ofNat n)

end DevConsole
