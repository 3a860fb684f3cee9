/-
Letter case.

Upper and lower case of a text by the full mappings, which may lengthen it, and the ASCII-only
folding that key names and literals use.  A capital sigma is the one letter whose lower case
depends on its neighbours: it takes its final form at the end of a word.
-/
import DevConsole.Text.CharClass
import DevConsole.Text.Unicode.CaseMap

namespace DevConsole

namespace Text

/-- The character at a code point; the tables name valid ones only. -/
def charAt (n : Nat) : Char :=
  Char.ofNat n

/-- The image of one character under a case mapping given by runs and listed sequences. -/
def mapCase (runs : List Unicode.CaseRun) (sequences : List (Nat × List Nat)) (c : Char) :
    List Char :=
  match sequences.lookup c.toNat with
  | some ns => ns.map charAt
  | none =>
    match runs.find? (·.covers c.toNat) with
    | some r => [charAt (c.toNat + r.shift).toNat]
    | none => [c]

/-- The lower case of one character, out of any context. -/
def lowerChar (c : Char) : List Char :=
  if c.toNat < 0x80 then [c.toLower] else mapCase Unicode.lowerRuns Unicode.lowerSequences c

/-- The upper case of one character. -/
def upperChar (c : Char) : List Char :=
  if c.toNat < 0x80 then [c.toUpper] else mapCase Unicode.upperRuns Unicode.upperSequences c

/-- Whether the first character that case rules do not look through is cased. -/
def casedAhead (cs : List Char) : Bool :=
  match cs.dropWhile isCaseIgnorable with
  | [] => false
  | c :: _ => isCased c

/-- Lower case of a text whose preceding characters, nearest first, are `before`. -/
def lowerFrom (before : List Char) : List Char → List Char
  | [] => []
  | c :: cs =>
    let image :=
      if c = 'Σ' then [if casedAhead before && !casedAhead cs then 'ς' else 'σ'] else lowerChar c
    image ++ lowerFrom (c :: before) cs

/-- The text in lower case. -/
def lowercase (s : String) : String :=
  String.ofList (lowerFrom [] s.toList)

/-- The text in upper case. -/
def uppercase (s : String) : String :=
  String.ofList (s.toList.flatMap upperChar)

/-- The text with the ASCII capitals, and no other letters, in lower case. -/
def asciiLowercase (s : String) : String :=
  String.ofList (s.toList.map Char.toLower)

/-- Equality that ignores the case of ASCII letters only. -/
def equalIgnoringAsciiCase (a b : List Char) : Bool :=
  a.map Char.toLower == b.map Char.toLower

end Text

end DevConsole
