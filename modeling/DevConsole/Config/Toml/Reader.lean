/-
Reading documents of settings.

A document is read line by line into statements, which are applied as they come.  Each reader takes
characters and returns what it read with the characters after it; `none` refuses the document, since
the console tells its user only that the file is not in order.  Loops are bounded by the length of
the text, values by how deeply they may be nested.
-/
import DevConsole.Color
import DevConsole.Config.Toml.Node
import DevConsole.Number.Reading

namespace DevConsole

namespace Toml

/-- How deeply values, and the parts of a key, may be nested. -/
def nesting : Nat := 79

/-! ## Blanks -/

/-- A space or a tab. -/
def isSpace (c : Char) : Bool := c = ' ' || c = '\t'

/-- The text after spaces and tabs. -/
def skipSpace (cs : List Char) : List Char := cs.dropWhile isSpace

/-- A character that may stand in text and comments: no control character but the tab. -/
def isTextChar (c : Char) : Bool := c = '\t' || (' ' ≤ c && c ≠ '\x7f')

/-- The text after a line break. -/
def newline? : List Char → Option (List Char)
  | '\n' :: cs => some cs
  | '\r' :: '\n' :: cs => some cs
  | _ => none

/-- The text after a comment, if one starts here. -/
def skipComment : List Char → List Char
  | '#' :: cs => cs.dropWhile isTextChar
  | cs => cs

/-- The end of a statement: blanks, perhaps a comment, and a line break or the end of the text. -/
def endOfLine? (cs : List Char) : Option (List Char) :=
  match skipComment (skipSpace cs) with
  | [] => some []
  | rest => newline? rest

/-- The text after blanks, comments and line breaks. -/
def skipLines : Nat → List Char → List Char
  | 0, cs => cs
  | fuel + 1, cs =>
    let rest := skipComment (skipSpace cs)
    match newline? rest with
    | some rest => skipLines fuel rest
    | none => rest

/-! ## Text -/

/-- The character of a code written in hexadecimal. -/
def codeChar? (digits : List Char) : Option Char := do
  let n ← digits.foldlM (fun n c => (Color.digit? c).map (16 * n + ·)) 0
  if n.isValidChar then some (Char.ofNat n) else none

/-- The character that an escape stands for, after its backslash. -/
def escape? : List Char → Option (Char × List Char)
  | 'b' :: cs => some ('\x08', cs)
  | 't' :: cs => some ('\t', cs)
  | 'n' :: cs => some ('\n', cs)
  | 'f' :: cs => some ('\x0c', cs)
  | 'r' :: cs => some ('\r', cs)
  | '"' :: cs => some ('"', cs)
  | '\\' :: cs => some ('\\', cs)
  | 'u' :: cs => if cs.length < 4 then none else (codeChar? (cs.take 4)).map (·, cs.drop 4)
  | 'U' :: cs => if cs.length < 8 then none else (codeChar? (cs.take 8)).map (·, cs.drop 8)
  | _ => none

/-- A text with a character in front. -/
def prepend (c : Char) (a : Option (List Char × List Char)) : Option (List Char × List Char) :=
  a.map fun r => (c :: r.1, r.2)

/-- The rest of a text between double quotes. -/
def basic : Nat → List Char → Option (List Char × List Char)
  | 0, _ => none
  | fuel + 1, cs =>
    match cs with
    | [] => none
    | '"' :: cs => some ([], cs)
    | '\\' :: cs => do
      let (c, cs) ← escape? cs
      prepend c (basic fuel cs)
    | c :: cs => if isTextChar c then prepend c (basic fuel cs) else none

/-- The rest of a text between single quotes, where nothing is escaped. -/
def verbatim : List Char → Option (List Char × List Char)
  | [] => none
  | '\'' :: cs => some ([], cs)
  | c :: cs => if isTextChar c then prepend c (verbatim cs) else none

/-- The closing quotes of a text of many lines.  Up to two quotes more than three belong to the
text. -/
def closing? (q : Char) (cs : List Char) : Option (List Char × List Char) :=
  let run := (cs.takeWhile (· == q)).length
  if run < 3 then none
  else
    let extra := min (run - 3) 2
    some (List.replicate extra q, cs.drop (3 + extra))

/-- The text after a backslash at the end of a line, and the blanks and line breaks that follow. -/
def continued? (fuel : Nat) (cs : List Char) : Option (List Char) :=
  (newline? (skipSpace cs)).map fun rest =>
    (List.range fuel).foldl
      (fun rest _ =>
        let rest := skipSpace rest
        (newline? rest).getD rest) rest

/-- The rest of a text of many lines between double quotes. -/
def basicLines : Nat → List Char → Option (List Char × List Char)
  | 0, _ => none
  | fuel + 1, cs =>
    match closing? '"' cs with
    | some r => some r
    | none =>
      match newline? cs with
      | some cs => prepend '\n' (basicLines fuel cs)
      | none =>
        match cs with
        | [] => none
        | '\\' :: cs =>
          match continued? (cs.length + 1) cs with
          | some cs => basicLines fuel cs
          | none => do
            let (c, cs) ← escape? cs
            prepend c (basicLines fuel cs)
        | c :: cs => if isTextChar c then prepend c (basicLines fuel cs) else none

/-- The rest of a text of many lines between single quotes. -/
def verbatimLines : Nat → List Char → Option (List Char × List Char)
  | 0, _ => none
  | fuel + 1, cs =>
    match closing? '\'' cs with
    | some r => some r
    | none =>
      match newline? cs with
      | some cs => prepend '\n' (verbatimLines fuel cs)
      | none =>
        match cs with
        | [] => none
        | c :: cs => if isTextChar c then prepend c (verbatimLines fuel cs) else none

/-- A text without the line break at its start. -/
def dropNewline (cs : List Char) : List Char := (newline? cs).getD cs

/-- A text on one line, as keys may be. -/
def quoted? : List Char → Option (List Char × List Char)
  | '"' :: cs => basic (cs.length + 1) cs
  | '\'' :: cs => verbatim cs
  | _ => none

/-- A text in any of its four forms. -/
def string? : List Char → Option (List Char × List Char)
  | '"' :: '"' :: '"' :: cs => basicLines (cs.length + 1) (dropNewline cs)
  | '\'' :: '\'' :: '\'' :: cs => verbatimLines (cs.length + 1) (dropNewline cs)
  | cs => quoted? cs

/-! ## Keys -/

/-- A character of a key that needs no quotes. -/
def isKeyChar (c : Char) : Bool := c.isAlphanum || c = '_' || c = '-'

/-- One part of a key. -/
def keyPart? (cs : List Char) : Option (List Char × List Char) :=
  match cs with
  | '"' :: _ | '\'' :: _ => quoted? cs
  | _ =>
    let part := cs.takeWhile isKeyChar
    if part.isEmpty then none else some (part, cs.dropWhile isKeyChar)

/-- The parts of a key, with dots and blanks between them. -/
def keyParts? : Nat → List Char → Option (List (List Char) × List Char)
  | 0, _ => none
  | fuel + 1, cs => do
    let (part, rest) ← keyPart? (skipSpace cs)
    match skipSpace rest with
    | '.' :: rest => do
      let (parts, rest) ← keyParts? fuel rest
      some (part :: parts, rest)
    | rest => some ([part], rest)

/-- A key as a path and its last part. -/
def key? (cs : List Char) : Option ((List (List Char) × List Char) × List Char) := do
  let (parts, rest) ← keyParts? (nesting + 1) cs
  if nesting < parts.length then none
  else
    let last ← parts.getLast?
    some ((parts.dropLast, last), rest)

/-! ## Numbers and dates -/

/-- Digits with single underscores between them, the first digit being `c`. -/
def digitRun (p : Char → Bool) : List Char → List Char × List Char
  | '_' :: c :: cs =>
    if p c then
      let r := digitRun p cs
      (c :: r.1, r.2)
    else ([], '_' :: c :: cs)
  | c :: cs =>
    if p c then
      let r := digitRun p cs
      (c :: r.1, r.2)
    else ([], c :: cs)
  | [] => ([], [])

/-- One or more digits, with single underscores between them. -/
def digits? (p : Char → Bool) : List Char → Option (List Char × List Char)
  | c :: cs =>
    if p c then
      let r := digitRun p cs
      some (c :: r.1, r.2)
    else none
  | [] => none

/-- A sign, if one is there. -/
def sign : List Char → Bool × List Char
  | '-' :: cs => (true, cs)
  | '+' :: cs => (false, cs)
  | cs => (false, cs)

/-- Decimal digits without a leading zero. -/
def whole? (cs : List Char) : Option (List Char × List Char) :=
  match cs with
  | '0' :: rest => some (['0'], rest)
  | _ => digits? Char.isDigit cs

/-- The digits of a number, with fraction and exponent if it has them. -/
def decimal? (cs : List Char) : Option ((List Char × List Char × List Char) × List Char) := do
  let (whole, rest) ← whole? cs
  let (fraction, rest) := match rest with
    | '.' :: r =>
      match digits? Char.isDigit r with
      | some (f, r) => ('.' :: f, r)
      | none => ([], rest)
    | _ => ([], rest)
  let exponent (r : List Char) : Option (List Char × List Char) := do
    let (negative, r) := sign r
    let (e, r) ← digits? Char.isDigit r
    some ('e' :: (if negative then '-' :: e else e), r)
  let (exp, rest) := match rest with
    | 'e' :: r | 'E' :: r => (exponent r).getD ([], rest)
    | _ => ([], rest)
  some ((whole, fraction, exp), rest)

/-- An integer of 64 bits. -/
def integerNode (i : Int) : Option Node :=
  if -(Nat.pow 2 63 : Int) ≤ i ∧ i < Nat.pow 2 63 then some (.integer i) else none

/-- A number in another base than ten. -/
def radixNode (base : Nat) (cs : List Char) : Option (Node × List Char) := do
  let p (c : Char) : Bool := ((Color.digit? c).map fun d => decide (d < base)).getD false
  let (ds, rest) ← digits? p cs
  let n := ds.foldl (fun n c => base * n + (Color.digit? c).getD 0) 0
  let node ← integerNode n
  some (node, rest)

/-- A number in base ten, or one of the words for infinity and for no number.  A fraction that is
too large to be a number is refused. -/
def decimalNode (cs : List Char) : Option (Node × List Char) :=
  let (negative, body) := sign cs
  match body with
  | 'i' :: 'n' :: 'f' :: rest | 'n' :: 'a' :: 'n' :: rest => some (.float, rest)
  | _ => do
    let ((whole, fraction, exp), rest) ← decimal? body
    if fraction.isEmpty && exp.isEmpty then do
      let n : Int := Decimal.ofDigits whole
      let node ← integerNode (if negative then -n else n)
      some (node, rest)
    else do
      let l ← Reading.number? (whole ++ fraction ++ exp)
      if l.bits .double = Format.double.infinityBits && !negative then none
      else some (.float, rest)

/-- A number. -/
def numberNode (cs : List Char) : Option (Node × List Char) :=
  match cs with
  | '0' :: 'x' :: rest => radixNode 16 rest
  | '0' :: 'o' :: rest => radixNode 8 rest
  | '0' :: 'b' :: rest => radixNode 2 rest
  | _ => decimalNode cs

/-- A number of exactly `n` digits within bounds. -/
def fixed? (n low high : Nat) (cs : List Char) : Option (Nat × List Char) :=
  let ds := cs.take n
  let v := Decimal.ofDigits ds
  if ds.length = n && ds.all Char.isDigit && low ≤ v && v ≤ high then some (v, cs.drop n) else none

/-- The text after a given character. -/
def after? (c : Char) : List Char → Option (List Char)
  | d :: cs => if d = c then some cs else none
  | [] => none

/-- The days of a month. -/
def daysIn (year month : Nat) : Nat :=
  if month = 2 then
    if year % 4 = 0 ∧ (year % 100 ≠ 0 ∨ year % 400 = 0) then 29 else 28
  else if [4, 6, 9, 11].contains month then 30 else 31

/-- The text after a date. -/
def date? (cs : List Char) : Option (List Char) := do
  let (year, cs) ← fixed? 4 0 9999 cs
  let cs ← after? '-' cs
  let (month, cs) ← fixed? 2 1 12 cs
  let cs ← after? '-' cs
  let (_, cs) ← fixed? 2 1 (daysIn year month) cs
  some cs

/-- The text after hour and minute. -/
def hourMinute? (cs : List Char) : Option (List Char) := do
  let (_, cs) ← fixed? 2 0 23 cs
  let cs ← after? ':' cs
  let (_, cs) ← fixed? 2 0 59 cs
  some cs

/-- The text after a time of day. -/
def time? (cs : List Char) : Option (List Char) := do
  let cs ← hourMinute? cs
  let cs ← after? ':' cs
  let (_, cs) ← fixed? 2 0 60 cs
  match cs with
  | '.' :: rest =>
    match rest with
    | d :: _ => if d.isDigit then some (rest.dropWhile Char.isDigit) else some cs
    | [] => some cs
  | _ => some cs

/-- The text after an offset from universal time, if one is there. -/
def offset? : List Char → Option (List Char)
  | 'Z' :: cs | 'z' :: cs => some cs
  | '+' :: cs | '-' :: cs => hourMinute? cs
  | cs => some cs

/-- The text after a date, perhaps with a time and an offset, or after a time. -/
def dateTime? (cs : List Char) : Option (List Char) :=
  match date? cs with
  | some rest =>
    match rest with
    | c :: r =>
      if c = 'T' || c = 't' || c = ' ' then
        match time? r with
        | some r => offset? r
        | none => some rest
      else some rest
    | [] => some []
  | none => time? cs

/-! ## Values -/

/-- The elements of an array up to its closing bracket, read by `value`. -/
def elements? (value : List Char → Option (Node × List Char)) :
    Nat → List Char → Option (List Node × List Char)
  | 0, _ => none
  | fuel + 1, cs =>
    match skipLines (cs.length + 1) cs with
    | ']' :: rest => some ([], rest)
    | cs => do
      let (v, rest) ← value cs
      match skipLines (rest.length + 1) rest with
      | ']' :: rest => some ([v], rest)
      | ',' :: rest => do
        let (vs, rest) ← elements? value fuel rest
        some (v :: vs, rest)
      | _ => none

/-- A key, an equals sign and a value. -/
def keyValue? (value : List Char → Option (Node × List Char)) (cs : List Char) :
    Option ((List (List Char) × List Char × Node) × List Char) := do
  let ((path, key), rest) ← key? cs
  let rest ← after? '=' rest
  let (v, rest) ← value (skipSpace rest)
  some ((path, key, v), rest)

/-- The entries of an inline table up to its closing brace, read by `value`. -/
def inlineEntries? (value : List Char → Option (Node × List Char)) :
    Nat → Entries → List Char → Option (Entries × List Char)
  | 0, _, _ => none
  | fuel + 1, es, cs => do
    let ((path, key, v), rest) ← keyValue? value cs
    let es ← insertDotted key v path es
    match skipSpace rest with
    | '\x7d' :: rest => some (es, rest)
    | ',' :: rest => inlineEntries? value fuel es rest
    | _ => none

/-- A value, at most `depth` arrays and inline tables deep. -/
def value? : Nat → List Char → Option (Node × List Char)
  | depth, cs =>
    match cs with
    | '[' :: rest =>
      match depth with
      | 0 => none
      | d + 1 => (elements? (value? d) (rest.length + 1) rest).map fun r => (.array r.1, r.2)
    | '\x7b' :: rest =>
      match depth with
      | 0 => none
      | d + 1 =>
        match skipSpace rest with
        | '\x7d' :: rest => some (.table .inline [], rest)
        | rest => (inlineEntries? (value? d) (rest.length + 1) [] rest).map fun r =>
          (.table .inline r.1, r.2)
    | '"' :: _ | '\'' :: _ => (string? cs).map fun r => (.string r.1, r.2)
    | 't' :: 'r' :: 'u' :: 'e' :: rest => some (.boolean true, rest)
    | 'f' :: 'a' :: 'l' :: 's' :: 'e' :: rest => some (.boolean false, rest)
    | _ =>
      match dateTime? cs with
      | some rest => some (.date, rest)
      | none => numberNode cs

/-! ## Documents -/

/-- A header, after its opening brackets. -/
def header? (cs : List Char) : Option (Statement × List Char) :=
  match cs with
  | '[' :: rest => do
    let ((path, key), rest) ← key? rest
    let rest ← after? ']' rest
    let rest ← after? ']' rest
    some (.element path key, rest)
  | _ => do
    let ((path, key), rest) ← key? cs
    let rest ← after? ']' rest
    some (.header path key, rest)

/-- One statement. -/
def statement? (cs : List Char) : Option (Statement × List Char) :=
  match cs with
  | '[' :: rest => header? rest
  | _ => (keyValue? (value? nesting) cs).map fun r => (.entry r.1.1 r.1.2.1 r.1.2.2, r.2)

/-- Read statements to the end of the text. -/
def document? : Nat → Document → List Char → Option Document
  | 0, _, _ => none
  | fuel + 1, d, cs =>
    match skipLines (cs.length + 1) cs with
    | [] => some d
    | cs => do
      let (s, rest) ← statement? cs
      let rest ← endOfLine? rest
      let d ← d.apply s
      document? fuel d rest

/-- A text without the mark that may stand at its start. -/
def dropMark : List Char → List Char
  | '\ufeff' :: cs => cs
  | cs => cs

/-- The root table of a document. -/
def read? (text : List Char) : Option Entries :=
  (document? (text.length + 1) {} (dropMark text)).map (·.root)

end Toml

end DevConsole
