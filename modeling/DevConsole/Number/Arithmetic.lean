/-
Operations on binary numbers that need exact arithmetic: conversion to machine integers, by
truncation and by rounding, and the remainder of a division toward zero.
-/
import DevConsole.Number.BinaryFormat

namespace DevConsole

/-- The machine integer nearest to a whole number: out of range goes to the nearer end. -/
def clampInt64 (i : Int) : Int64 :=
  Int64.ofInt (max (-(Nat.pow 2 63 : Int)) (min ((Nat.pow 2 63 : Int) - 1) i))

namespace Magnitude

/-- A sign on a natural number. -/
def signed (negative : Bool) (n : Nat) : Int :=
  if negative then -(n : Int) else n

/-- The whole part, toward zero; no number counts as zero and infinity as out of range. -/
def truncate : Magnitude → Int64
  | .nan => 0
  | .infinite negative => clampInt64 (signed negative (Nat.pow 2 64))
  | .finite negative m e =>
    clampInt64 (signed negative (m * Nat.pow 2 e.toNat / Nat.pow 2 (-e).toNat))

/-- The nearest whole number, a tie to the even one; only finite numbers have one. -/
def roundEven? : Magnitude → Option Int64
  | .finite negative m e =>
    some (clampInt64 (signed negative
      (Format.divRoundEven (m * Nat.pow 2 e.toNat) (Nat.pow 2 (-e).toNat))))
  | _ => none

/-- The bit pattern of the remainder of a division toward zero.  It has the sign of the dividend
and is exact: both numbers are multiples of the finer of their two steps. -/
def remainder (f : Format) (x y : Magnitude) : Nat :=
  match x, y with
  | .finite nx mx ex, .finite _ my ey =>
    if my = 0 then f.nanBits
    else
      let e := min ex ey
      let r := (mx * Nat.pow 2 (ex - e).toNat) % (my * Nat.pow 2 (ey - e).toNat)
      f.withSign nx (f.ofRatio (r * Nat.pow 2 e.toNat) (Nat.pow 2 (-e).toNat))
  | .finite nx mx ex, .infinite _ =>
    f.withSign nx (f.ofRatio (mx * Nat.pow 2 ex.toNat) (Nat.pow 2 (-ex).toNat))
  | _, _ => f.nanBits

end Magnitude

/-- The length of the hypotenuse of a right triangle, from 64-bit squares.  An infinite side makes
it infinite, whatever the other is. -/
def Float32.hypotenuse (x y : Float32) : Float32 :=
  if x.isInf || y.isInf then float32OfBits Format.single.infinityBits
  else (x.toFloat * x.toFloat + y.toFloat * y.toFloat).sqrt.toFloat32

/-- The remainder of a division of 32-bit numbers, with the sign of the dividend. -/
def Float32.remainder (x y : Float32) : Float32 :=
  float32OfBits (Magnitude.remainder .single (Float32.magnitude x) (Float32.magnitude y))

/-- The remainder of a division of 64-bit numbers, with the sign of the dividend. -/
def Float.remainder (x y : Float) : Float :=
  floatOfBits (Magnitude.remainder .double (Float.magnitude x) (Float.magnitude y))

end DevConsole
