/-
Reading decimal numbers into binary formats.

A number is an optional sign and digits around an optional point, with at least one digit in all,
then optionally an exponent; or it is a sign and one of the words for infinity and for no number,
in any case.  The value is rounded once, from the exact quotient.
-/
import DevConsole.Number.BinaryFormat
import DevConsole.Number.Decimal
import DevConsole.Text.LetterCase

namespace DevConsole

namespace Reading

/-- A decimal text as an exact value: `coefficient · 10 ^ exponent`, or one of the words. -/
inductive Literal where
  | nan
  | infinite
  | exact (coefficient : Nat) (exponent : Int)
deriving Repr, DecidableEq

/-- The exponent part: nothing, or a letter and a signed number. -/
def exponent? : List Char → Option Int
  | [] => some 0
  | c :: cs =>
    if c = 'e' || c = 'E' then
      match cs with
      | '-' :: ds => if ds.all Char.isDigit && !ds.isEmpty then some (-(Decimal.ofDigits ds : Int))
        else none
      | _ => (Decimal.readNat cs).map Int.ofNat
    else none

/-- Digits, a point, digits, an exponent. -/
def number? (cs : List Char) : Option Literal :=
  let whole := cs.takeWhile Char.isDigit
  let rest := cs.dropWhile Char.isDigit
  let afterPoint := match rest with
    | '.' :: r => r
    | _ => []
  let pointed := match rest with
    | '.' :: _ => true
    | _ => false
  let fraction := afterPoint.takeWhile Char.isDigit
  let tail := if pointed then afterPoint.dropWhile Char.isDigit else rest
  if whole.isEmpty && fraction.isEmpty then none
  else (exponent? tail).map fun e =>
    .exact (Decimal.ofDigits (whole ++ fraction)) (e - fraction.length)

/-- An unsigned number or word. -/
def unsigned? (cs : List Char) : Option Literal :=
  let word := cs.map Char.toLower
  if word = "inf".toList || word = "infinity".toList then some .infinite
  else if word = "nan".toList then some .nan
  else number? cs

/-- A number or word with an optional sign. -/
def signed? : List Char → Option (Bool × Literal)
  | '-' :: cs => (unsigned? cs).map (true, ·)
  | '+' :: cs => (unsigned? cs).map (false, ·)
  | cs => (unsigned? cs).map (false, ·)

/-- Decimal exponents beyond this bound are out of reach of both formats. -/
def reach : Int := 400

/-- The bit pattern nearest to a literal. -/
def Literal.bits (f : Format) : Literal → Nat
  | .nan => f.nanBits
  | .infinite => f.infinityBits
  | .exact c e =>
    let size : Int := (Decimal.digits c).length + e
    if c = 0 then 0
    else if reach < size then f.infinityBits
    else if size < -reach then 0
    else f.ofRatio (c * Nat.pow 10 e.toNat) (Nat.pow 10 (-e).toNat)

/-- The 32-bit number that a text denotes. -/
def single? (cs : List Char) : Option Float32 :=
  (signed? cs).map fun l => float32OfBits (Format.single.withSign l.1 (l.2.bits .single))

/-- The 64-bit number that a text denotes. -/
def double? (cs : List Char) : Option Float :=
  (signed? cs).map fun l => floatOfBits (Format.double.withSign l.1 (l.2.bits .double))

end Reading

end DevConsole
