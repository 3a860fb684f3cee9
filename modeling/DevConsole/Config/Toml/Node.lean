/-
Documents of settings as trees, and how statements build them.

A document is a table.  A header opens a table, or adds one to an array of tables; a key with dots
opens tables on its way.  A table can be opened once: a header may claim a table that an earlier,
deeper header had to assume, and dotted keys may go on with tables that dotted keys opened, but
neither may reopen what is closed.  Where a rule is broken the answer is `none`.
-/

namespace DevConsole

namespace Toml

/-- How a table came about. -/
inductive Origin where
  /-- Written out between braces. -/
  | inline
  /-- Opened by a header. -/
  | header
  /-- Assumed by a deeper header. -/
  | assumed
  /-- Opened by a dotted key. -/
  | dotted
deriving Repr, DecidableEq

/-- A value of a document.  Of numbers with a fraction and of dates nothing is kept. -/
inductive Node where
  | string (s : List Char)
  | integer (i : Int)
  | boolean (b : Bool)
  | float
  | date
  | array (items : List Node)
  /-- A table with its entries in order. -/
  | table (origin : Origin) (entries : List (List Char × Node))
  /-- Tables that headers have added to an array, the last one first. -/
  | tables (items : List (List (List Char × Node)))
deriving Repr

/-- The entries of a table. -/
abbrev Entries := List (List Char × Node)

/-- The value under a key. -/
def lookup (key : List Char) (es : Entries) : Option Node :=
  (es.find? (·.1 == key)).map (·.2)

/-- Put a value under a key: in place of the old one, or at the end. -/
def put (key : List Char) (v : Node) : Entries → Entries
  | [] => [(key, v)]
  | (k, w) :: es => if k = key then (k, v) :: es else (k, w) :: put key v es

/-- Add a key that must be new. -/
def add (key : List Char) (v : Node) (es : Entries) : Option Entries :=
  match lookup key es with
  | some _ => none
  | none => some (es ++ [(key, v)])

/-- Add a value under the last key of a path.  The tables on the way must be open to dotted keys,
and the one that takes the value must have been opened by a dotted key itself, unless the path is a
single key. -/
def insertDotted (last : List Char) (v : Node) : List (List Char) → Entries → Option Entries
  | [], es => add last v es
  | k :: ks, es =>
    match lookup k es with
    | none => (insertDotted last v ks []).map fun inner => put k (.table .dotted inner) es
    | some (.table origin inner) =>
      if origin = .dotted || (origin = .assumed && !ks.isEmpty) then
        (insertDotted last v ks inner).map fun inner => put k (.table origin inner) es
      else none
    | some (.tables (inner :: rest)) =>
      if ks.isEmpty then none
      else (insertDotted last v ks inner).map fun inner => put k (.tables (inner :: rest)) es
    | some _ => none

/-- Go down a path of headers and change the table at its end, assuming tables that are not there
yet. -/
def descend (change : Entries → Option Entries) : List (List Char) → Entries → Option Entries
  | [], es => change es
  | k :: ks, es =>
    match lookup k es with
    | none => (descend change ks []).map fun inner => put k (.table .assumed inner) es
    | some (.table .inline _) => none
    | some (.table origin inner) =>
      (descend change ks inner).map fun inner => put k (.table origin inner) es
    | some (.tables (inner :: rest)) =>
      (descend change ks inner).map fun inner => put k (.tables (inner :: rest)) es
    | some _ => none

/-- Open a table under a key, or claim one that was only assumed. -/
def claim (key : List Char) (es : Entries) : Option Entries :=
  match lookup key es with
  | none => some (put key (.table .header []) es)
  | some (.table .assumed inner) => some (put key (.table .header inner) es)
  | some _ => none

/-- Add a table to the array under a key. -/
def extend (key : List Char) (es : Entries) : Option Entries :=
  match lookup key es with
  | none => some (put key (.tables [[]]) es)
  | some (.tables items) => some (put key (.tables ([] :: items)) es)
  | some _ => none

/-- A statement of a document. -/
inductive Statement where
  | header (path : List (List Char)) (key : List Char)
  | element (path : List (List Char)) (key : List Char)
  | entry (path : List (List Char)) (key : List Char) (v : Node)
deriving Repr

/-- A document under construction: its root, and the path of the header in force. -/
structure Document where
  root : Entries := []
  current : List (List Char) := []
deriving Repr

/-- The document after one more statement. -/
def Document.apply (d : Document) : Statement → Option Document
  | .header path key => (descend (claim key) path d.root).map fun root => ⟨root, path ++ [key]⟩
  | .element path key => (descend (extend key) path d.root).map fun root => ⟨root, path ++ [key]⟩
  | .entry path key v =>
    (descend (insertDotted key v path) d.current d.root).map fun root => { d with root := root }

end Toml

end DevConsole
