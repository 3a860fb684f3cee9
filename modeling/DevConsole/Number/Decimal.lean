/-
Whole numbers in decimal.

Writing never pads; reading takes an optional sign and one or more ASCII digits and checks the
range.  The law that ties the two: what is written reads back.
-/
import DevConsole.Text.CharClass

namespace DevConsole

namespace Decimal

/-- The digit for a number below ten. -/
def digitChar (n : Nat) : Char :=
  Char.ofNat (48 + n)

/-- The value of an ASCII digit. -/
def digitValue (c : Char) : Nat :=
  c.toNat - 48

/-- The decimal digits of a number, without leading zeros. -/
def digits (n : Nat) : List Char :=
  if n < 10 then [digitChar n] else digits (n / 10) ++ [digitChar (n % 10)]

/-- The number that a list of digits denotes. -/
def ofDigits (cs : List Char) : Nat :=
  cs.foldl (fun n c => 10 * n + digitValue c) 0

/-- A whole number with a sign in front if it is negative. -/
def ofInt (i : Int) : List Char :=
  if i < 0 then '-' :: digits i.natAbs else digits i.natAbs

/-- The decimal text of a machine integer. -/
def text (i : Int64) : String :=
  String.ofList (ofInt i.toInt)

/-- The decimal text of a count. -/
def natText (n : Nat) : String :=
  String.ofList (digits n)

/-- An unsigned number: one or more digits after an optional plus sign. -/
def readNat (cs : List Char) : Option Nat :=
  let ds := match cs with
    | '+' :: r => r
    | _ => cs
  if !ds.isEmpty && ds.all Char.isDigit then some (ofDigits ds) else none

/-- An unsigned number of at most `max`. -/
def readNatUpTo (max : Nat) (cs : List Char) : Option Nat :=
  (readNat cs).filter (· ≤ max)

/-- A signed number: digits after an optional sign. -/
def readInt (cs : List Char) : Option Int :=
  match cs with
  | '-' :: ds => if !ds.isEmpty && ds.all Char.isDigit then some (-(ofDigits ds : Int)) else none
  | _ => (readNat cs).map Int.ofNat

/-- A signed number of `bits` bits in two's complement. -/
def readIntOfWidth (bits : Nat) (cs : List Char) : Option Int :=
  (readInt cs).filter fun i => -(Nat.pow 2 (bits - 1) : Int) ≤ i && i < Nat.pow 2 (bits - 1)

/-- A machine integer. -/
def read (cs : List Char) : Option Int64 :=
  (readIntOfWidth 64 cs).map Int64.ofInt

/-! ## What is written reads back -/

theorem digitChar_isDigit : ∀ {n : Nat}, n < 10 → (digitChar n).isDigit = true := by
  decide

theorem digitValue_digitChar : ∀ {n : Nat}, n < 10 → digitValue (digitChar n) = n := by
  decide

theorem digits_ne_nil (n : Nat) : digits n ≠ [] := by
  unfold digits
  split <;> simp

theorem all_isDigit_digits (n : Nat) : (digits n).all Char.isDigit = true := by
  induction n using digits.induct with
  | case1 n h => unfold digits; simp [h, digitChar_isDigit]
  | case2 n h ih =>
    unfold digits
    have h10 : n % 10 < 10 := Nat.mod_lt _ (by decide)
    rw [if_neg h, List.all_append, ih]
    simp [digitChar_isDigit h10]

theorem ofDigits_append_singleton (cs : List Char) (c : Char) :
    ofDigits (cs ++ [c]) = 10 * ofDigits cs + digitValue c := by
  simp [ofDigits]

/-- The digits of a number denote it. -/
theorem ofDigits_digits (n : Nat) : ofDigits (digits n) = n := by
  induction n using digits.induct with
  | case1 n h => unfold digits; simp [h, ofDigits, digitValue_digitChar]
  | case2 n h ih =>
    unfold digits
    have h10 : n % 10 < 10 := Nat.mod_lt _ (by decide)
    rw [if_neg h, ofDigits_append_singleton, ih, digitValue_digitChar h10]
    omega

end Decimal

end DevConsole
