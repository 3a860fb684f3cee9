/-
Colors of console lines: four channels of a byte, written and read as hexadecimal.
-/

namespace DevConsole

/-- A color with an alpha channel. -/
structure Color where
  r : UInt8
  g : UInt8
  b : UInt8
  a : UInt8
deriving Repr, DecidableEq

namespace Color

/-- An opaque color. -/
def opaqueRgb (r g b : UInt8) : Color := ⟨r, g, b, 255⟩

/-- The color of regular output. -/
def white : Color := opaqueRgb 255 255 255
/-- The color of errors. -/
def red : Color := opaqueRgb 255 80 80
/-- The color of echoed lines. -/
def yellow : Color := opaqueRgb 240 220 100
/-- The color of notices. -/
def gray : Color := opaqueRgb 170 170 170

/-- A hexadecimal digit in upper case. -/
def upperDigit (n : Nat) : Char :=
  if n < 10 then Char.ofNat (48 + n) else Char.ofNat (55 + n)

/-- Two hexadecimal digits. -/
def channelDigits (v : UInt8) : List Char :=
  [upperDigit (v.toNat / 16), upperDigit (v.toNat % 16)]

/-- `#RRGGBB`, or `#RRGGBBAA` for a color that is not opaque. -/
def hex (c : Color) : String :=
  String.ofList ('#' :: channelDigits c.r ++ channelDigits c.g ++ channelDigits c.b ++
    if c.a = 255 then [] else channelDigits c.a)

/-- The value of a hexadecimal digit of either case. -/
def digit? (c : Char) : Option Nat :=
  if c.isDigit then some (c.toNat - 48)
  else if 'a' ≤ c && c ≤ 'f' then some (c.toNat - 87)
  else if 'A' ≤ c && c ≤ 'F' then some (c.toNat - 55)
  else none

/-- A channel from its two places.  The first may also be a plus sign, and then the channel is the
second digit alone. -/
def channel? (a b : Char) : Option UInt8 :=
  if a = '+' then (digit? b).map UInt8.ofNat
  else do
    let high ← digit? a
    let low ← digit? b
    return UInt8.ofNat (16 * high + low)

/-- Read `#RRGGBB` or `#RRGGBBAA`. -/
def ofHex? (s : String) : Option Color :=
  match s.toList with
  | ['#', r, r', g, g', b, b'] => do
    return ⟨← channel? r r', ← channel? g g', ← channel? b b', 255⟩
  | ['#', r, r', g, g', b, b', a, a'] => do
    return ⟨← channel? r r', ← channel? g g', ← channel? b b', ← channel? a a'⟩
  | _ => none

end Color

end DevConsole
