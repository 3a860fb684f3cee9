/-
A configuration from a document of settings.

Settings that are missing keep their defaults, and keys that mean nothing are ignored; a setting of
the wrong sort refuses the document.  What is read must then meet the rules of a configuration.
-/
import DevConsole.Config.Basic
import DevConsole.Config.Toml.Reader

namespace DevConsole

namespace Config

/-- A setting: the default if it is missing, else what `read` makes of it. -/
def setting {α : Type} (es : Toml.Entries) (key : String) (default : α)
    (read : Toml.Node → Option α) : Option α :=
  match Toml.lookup key.toList es with
  | some v => read v
  | none => some default

/-- A text. -/
def textOf? : Toml.Node → Option String
  | .string s => some (String.ofList s)
  | _ => none

/-- A single character. -/
def charOf? : Toml.Node → Option Char
  | .string [c] => some c
  | _ => none

/-- A count. -/
def countOf? : Toml.Node → Option Nat
  | .integer i => if 0 ≤ i then some i.toNat else none
  | _ => none

/-- A switch. -/
def switchOf? : Toml.Node → Option Bool
  | .boolean b => some b
  | _ => none

/-- A key from a table with one entry: a function key with its number, or another key with an empty
table or array. -/
def keyOfEntries? : Toml.Entries → Option Key
  | [(['F'], .integer i)] =>
    if 0 ≤ i ∧ i ≤ 255 then some (.function (UInt8.ofNat i.toNat)) else none
  | [(name, .table _ [])] | [(name, .array [])] => Key.ofName? (String.ofList name)
  | _ => none

/-- A key: by name, or as a table. -/
def keyOf? : Toml.Node → Option Key
  | .string s => Key.ofName? (String.ofList s)
  | .table _ es => keyOfEntries? es
  | _ => none

/-- A palette from a table. -/
def paletteOfEntries? (es : Toml.Entries) : Option Palette := do
  let d : Palette := {}
  return {
    echo := ← setting es "echo" d.echo textOf?
    output := ← setting es "output" d.output textOf?
    error := ← setting es "error" d.error textOf?
    info := ← setting es "info" d.info textOf? }

/-- The entries that a list of colors stands for, in the order of a palette. -/
def paletteEntries (items : List Toml.Node) : Toml.Entries :=
  ["echo".toList, "output".toList, "error".toList, "info".toList].zip items

/-- A palette: a table, or a list of colors in order.  A date has no colors in it. -/
def paletteOf? : Toml.Node → Option Palette
  | .table _ es => paletteOfEntries? es
  | .array items => paletteOfEntries? (paletteEntries items)
  | .date => some {}
  | _ => none

/-- A configuration from the settings of a document. -/
def ofEntries? (es : Toml.Entries) : Option Config := do
  let d : Config := {}
  return {
    toggleKey := ← setting es "toggle_key" d.toggleKey keyOf?
    maxLines := ← setting es "max_lines" d.maxLines countOf?
    maxHistory := ← setting es "max_history" d.maxHistory countOf?
    expressionLead := ← setting es "expression_prefix" d.expressionLead textOf?
    placeholder := ← setting es "space_placeholder" d.placeholder charOf?
    wrapWidth := ← setting es "wrap_width" d.wrapWidth countOf?
    visibleLines := ← setting es "visible_lines" d.visibleLines countOf?
    suppressInput := ← setting es "suppress_input" d.suppressInput switchOf?
    strictOperators := ← setting es "strict_operators" d.strictOperators switchOf?
    palette := ← setting es "palette" d.palette paletteOf? }

/-- The failure for a text that is not a document of settings. -/
def unreadable : Failure := .of (.config "console.toml")

/-- A configuration from text: nothing if the text does not fit the settings, else the first rule
that it breaks or the configuration itself. -/
def parse? (text : String) : Option (Except Failure Config) :=
  ((Toml.read? text.toList).bind ofEntries?).map validate

/-- A configuration from text. -/
def parse (text : String) : Except Failure Config :=
  (parse? text).getD (.error unreadable)

end Config

end DevConsole
