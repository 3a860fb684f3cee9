/-
The shortest decimal text of a binary number.

The reals that round to a number form an interval around it, whose ends belong to it exactly when
the mantissa is even.  The text is taken from the coarsest power-of-ten grid that has a point in
that interval, which is the same as the fewest digits that read back; of two such points the nearer
one is taken, and a tie goes away from zero.  The notation is always positional.
-/
import DevConsole.Number.BinaryFormat
import DevConsole.Number.Decimal

namespace DevConsole

namespace Shortest

/-- A positive number and the interval that rounds to it, over one denominator. -/
structure Interval where
  low : Nat
  value : Nat
  high : Nat
  den : Nat
  closed : Bool
deriving Repr

/-- The interval around `m · 2 ^ e`.  Below a power of two the step halves, unless the power is the
first of its format. -/
def Interval.around (f : Format) (m : Nat) (e : Int) : Interval :=
  let up := Nat.pow 2 e.toNat
  let below := if m = Nat.pow 2 f.fractionBits && f.minExponent < e then 1 else 2
  { low := (4 * m - below) * up
    value := 4 * m * up
    high := (4 * m + 2) * up
    den := 4 * Nat.pow 2 (-e).toNat
    closed := m % 2 == 0 }

/-- Whether the grid point `c · m / n` lies in the interval. -/
def Interval.holds (i : Interval) (c m n : Nat) : Bool :=
  let x := c * i.den * m
  if i.closed then i.low * n ≤ x && x ≤ i.high * n else i.low * n < x && x < i.high * n

/-- The point of the grid `10 ^ s` to write for the interval, if it has one there. -/
def Interval.pick? (i : Interval) (s : Int) : Option Nat :=
  let m := Nat.pow 10 s.toNat
  let n := Nat.pow 10 (-s).toNat
  let a := i.value * n / (i.den * m)
  let down := i.holds a m n
  let up := i.holds (a + 1) m n
  if up && (!down || (2 * a + 1) * i.den * m ≤ 2 * i.value * n) then some (a + 1)
  else if down then some a
  else none

/-- The first hit on the grids `10 ^ s`, `10 ^ (s - 1)`, … -/
def Interval.search (i : Interval) : Nat → Int → Nat × Int
  | 0, s => (i.value * Nat.pow 10 (-s).toNat / (i.den * Nat.pow 10 s.toNat), s)
  | fuel + 1, s =>
    match i.pick? s with
    | some c => (c, s)
    | none => i.search fuel (s - 1)

/-- The number of zeros that follow the point in `num / den`, counted up to `fuel`. -/
def leadingZeros (num den : Nat) : Nat → Nat
  | 0 => 0
  | fuel + 1 => if den ≤ num * 10 then 0 else leadingZeros (num * 10) den fuel + 1

/-- An exponent whose power of ten lies above the value and within one digit of it. -/
def Interval.top (i : Interval) : Int :=
  let whole := i.value / i.den
  if 0 < whole then (Decimal.digits whole).length
  else -(leadingZeros i.value i.den (2 * i.den.log2) : Int)

/-- Coefficient and power of ten of the shortest decimal for `m · 2 ^ e`. -/
def decimal (f : Format) (m : Nat) (e : Int) : Nat × Int :=
  let i := Interval.around f m e
  i.search (f.fractionBits + 2) i.top

/-- The text without zeros at its end. -/
def dropZeros (cs : List Char) : List Char :=
  (cs.reverse.dropWhile (· == '0')).reverse

/-- `c · 10 ^ s` in positional notation, with a point only before a digit other than a final
zero. -/
def positional (c : Nat) (s : Int) : List Char :=
  let ds := Decimal.digits c
  if 0 ≤ s then ds ++ List.replicate s.toNat '0'
  else
    let places := (-s).toNat
    let padded := List.replicate (places + 1 - ds.length) '0' ++ ds
    let fraction := dropZeros (padded.drop (padded.length - places))
    let whole := padded.take (padded.length - places)
    if fraction.isEmpty then whole else whole ++ '.' :: fraction

/-- The decimal text of a number of the format. -/
def render (f : Format) : Magnitude → List Char
  | .nan => "NaN".toList
  | .infinite negative => (if negative then ['-'] else []) ++ "inf".toList
  | .finite negative m e =>
    (if negative then ['-'] else []) ++
      if m = 0 then ['0']
      else
        let d := decimal f m e
        positional d.1 d.2

/-- The text of a 32-bit number. -/
def single (x : Float32) : String :=
  String.ofList (render .single (Float32.magnitude x))

/-- The text of a 64-bit number. -/
def double (x : Float) : String :=
  String.ofList (render .double (Float.magnitude x))

end Shortest

end DevConsole
