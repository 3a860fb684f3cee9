/-
Character classes.

Every class is split at U+0080: below it the rule is written out, above it a table of the property
decides.  So a statement about ASCII text never has to look into a table.
-/
import DevConsole.Text.Unicode.Alphabetic
import DevConsole.Text.Unicode.Numeric
import DevConsole.Text.Unicode.GraphemeExtend
import DevConsole.Text.Unicode.Unprintable
import DevConsole.Text.Unicode.Cased
import DevConsole.Text.Unicode.CaseIgnorable

namespace DevConsole

/-- Whether one of the inclusive ranges holds `n`. -/
def inRanges (ranges : List (Nat × Nat)) (n : Nat) : Bool :=
  ranges.any fun r => r.1 ≤ n && n ≤ r.2

namespace Text

/-- A letter: any character with the property Alphabetic. -/
def isAlphabetic (c : Char) : Bool :=
  if c.toNat < 0x80 then c.isAlpha else inRanges Unicode.alphabeticRanges c.toNat

/-- A decimal digit, letter number or other number of any script. -/
def isNumeric (c : Char) : Bool :=
  if c.toNat < 0x80 then c.isDigit else inRanges Unicode.numericRanges c.toNat

/-- A letter or a number. -/
def isAlphanumeric (c : Char) : Bool :=
  isAlphabetic c || isNumeric c

/-- The white space characters above U+007F. -/
def blankRanges : List (Nat × Nat) :=
  [(0x85, 0x85), (0xA0, 0xA0), (0x1680, 0x1680), (0x2000, 0x200A), (0x2028, 0x2029),
    (0x202F, 0x202F), (0x205F, 0x205F), (0x3000, 0x3000)]

/-- White space: tab to carriage return, the space, and the blanks of other scripts. -/
def isBlank (c : Char) : Bool :=
  if c.toNat < 0x80 then 9 ≤ c.toNat && c.toNat ≤ 13 || c == ' '
  else inRanges blankRanges c.toNat

/-- A control character: U+0000 to U+001F and U+007F to U+009F. -/
def isControl (c : Char) : Bool :=
  c.toNat < 0x20 || 0x7F ≤ c.toNat && c.toNat < 0xA0

/-- The Hangul fillers: letters that hold the place of a missing one and show nothing. -/
def isFiller (c : Char) : Bool :=
  ['\u115f', '\u1160', '\u3164', '\uffa0'].contains c

/-- A character with a visible form of its own, or the plain space. -/
def isPrintable (c : Char) : Bool :=
  if c.toNat < 0x80 then !isControl c
  else !inRanges Unicode.unprintableRanges c.toNat && !isFiller c

/-- A mark that extends the character before it. -/
def extendsGrapheme (c : Char) : Bool :=
  inRanges Unicode.graphemeExtendRanges c.toNat

/-- The halfwidth voiced and semi-voiced sound marks: they extend the character before them but
fill a cell of their own. -/
def isSpacingSoundMark (c : Char) : Bool :=
  c == '\uff9e' || c == '\uff9f'

/-- Whether a character can be told from a text that shows it: it has a visible form and does not
merge into the character before it. -/
def standsAlone (c : Char) : Bool :=
  isPrintable c && (!extendsGrapheme c || isSpacingSoundMark c)

/-- A character that has case, whether or not it has a partner. -/
def isCased (c : Char) : Bool :=
  if c.toNat < 0x80 then c.isAlpha else inRanges Unicode.casedRanges c.toNat

/-- A character that the rules for case look through, such as an apostrophe within a word. -/
def isCaseIgnorable (c : Char) : Bool :=
  if c.toNat < 0x80 then ['\'', '.', ':', '^', '\x60'].contains c
  else inRanges Unicode.caseIgnorableRanges c.toNat

/-! ## The classes among each other -/

/-- Every letter is alphanumeric. -/
theorem isAlphanumeric_of_isAlphabetic {c : Char} (h : isAlphabetic c = true) :
    isAlphanumeric c = true := by
  simp [isAlphanumeric, h]

/-- The plain space is blank. -/
theorem isBlank_space : isBlank ' ' = true := rfl

end Text

end DevConsole
