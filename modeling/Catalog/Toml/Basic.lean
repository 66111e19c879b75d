/-!
# TOML documents

The values of a TOML document, and how tables come about. A table can be written in pieces: by
headers, by keys with dots, and inline. A piece may add to what is there, but never change it, and
only certain kinds of tables may be added to.

## Main definitions

* `Toml` — a value.
* `Toml.Node`, `Toml.Entries` — a table that is being written.
* `Toml.assign` — the table with a value put at a key with dots.
* `Toml.addSection`, `Toml.addElement` — the table with what follows a header.
* `Toml.build` — the table that a document denotes.
-/

namespace Catalog

/-- A value of a TOML document. -/
inductive Toml where
  | bool (b : Bool)
  | int (n : Int)
  | str (s : String)
  | array (items : List Toml)
  | table (entries : List (String × Toml))
deriving Repr, Inhabited

namespace Toml

/-- What stands at a key while a document is being read. -/
inductive Node where
  /-- A value, which cannot be added to. -/
  | value (v : Toml)
  /-- A table. It is implied if it came about as a part of a longer key or header, and dotted if
  that was a key. -/
  | table (implied dotted : Bool) (entries : List (String × Node))
  /-- An array of tables, in order. -/
  | tables (elements : List (List (String × Node)))
deriving Inhabited

/-- The entries of a table that is being written. -/
abbrev Entries := List (String × Node)

/-- Replaces what stands at a key, which must be there. -/
def replace (key : String) (n : Node) : Entries → Entries
  | [] => []
  | (k, m) :: es => if k = key then (k, n) :: es else (k, m) :: replace key n es

/-! ### Keys -/

/-- The entries with a value put at a key, where the entries are those of a table that is dotted or
not, and `steps` leads to the table with the key. Only tables that keys with dots made may be added
to in that way. -/
def assignFrom (viaDots : Bool) (key : String) (v : Node) :
    (steps : List String) → (dotted : Bool) → Entries → Option Entries
  | [], dotted, es =>
    if dotted != viaDots || (es.lookup key).isSome then none else some (es ++ [(key, v)])
  | s :: steps, _, es =>
    match es.lookup s with
    | none => do
      return es ++ [(s, .table true true (← assignFrom viaDots key v steps true []))]
    | some (.value _) => none
    | some (.table false _ _) => none
    | some (.table true dotted inner) => do
      return replace s (.table true dotted (← assignFrom viaDots key v steps dotted inner)) es
    | some (.tables elements) => do
      let last ← elements.getLast?
      let last ← assignFrom viaDots key v steps false last
      return replace s (.tables (elements.dropLast ++ [last])) es

/-- The entries with a value put at a key of one or more parts. -/
def assign (path : List String) (v : Node) (es : Entries) : Option Entries := do
  assignFrom (1 < path.length) (← path.getLast?) v path.dropLast false es

/-! ### Headers -/

/-- Changes the table that the parts of a header lead to. -/
def descend (change : Entries → Option Entries) : List String → Entries → Option Entries
  | [], es => change es
  | s :: steps, es =>
    match es.lookup s with
    | none => do return es ++ [(s, .table true false (← descend change steps []))]
    | some (.value _) => none
    | some (.table implied dotted inner) => do
      return replace s (.table implied dotted (← descend change steps inner)) es
    | some (.tables elements) => do
      let last ← descend change steps (← elements.getLast?)
      return replace s (.tables (elements.dropLast ++ [last])) es

/-- The entries with those that follow the header of a table. The header may name a table that
longer headers implied, but no other one. -/
def addSection (path : List String) (fill : Entries → Option Entries) (es : Entries) :
    Option Entries := do
  let key ← path.getLast?
  descend (fun es =>
    match es.lookup key with
    | none => do return es ++ [(key, .table false false (← fill []))]
    | some (.table true false inner) => do
      return replace key (.table false false (← fill inner)) es
    | some _ => none) path.dropLast es

/-- The entries with those that follow the header of an element of an array of tables. -/
def addElement (path : List String) (fill : Entries → Option Entries) (es : Entries) :
    Option Entries := do
  let key ← path.getLast?
  descend (fun es =>
    match es.lookup key with
    | none => do return es ++ [(key, .tables [← fill []])]
    | some (.tables elements) => do
      return replace key (.tables (elements ++ [← fill []])) es
    | some _ => none) path.dropLast es

/-! ### Documents -/

/-- A header, by the parts of its key. -/
structure Header where
  /-- Whether it starts an element of an array of tables. -/
  isElement : Bool
  path : List String
deriving DecidableEq, Repr, Inhabited

/-- A header with the keys and values that follow it; the first section has none. -/
structure Section where
  header : Option Header
  lines : List (List String × Toml)
deriving Repr, Inhabited

/-- The entries with the keys and values of lines. -/
def assignAll (lines : List (List String × Toml)) (es : Entries) : Option Entries :=
  lines.foldlM (fun es (path, v) => assign path (.value v) es) es

/-- The entries with those of a section. -/
def Section.add (s : Section) (es : Entries) : Option Entries :=
  match s.header with
  | none => assignAll s.lines es
  | some ⟨false, path⟩ => addSection path (assignAll s.lines) es
  | some ⟨true, path⟩ => addElement path (assignAll s.lines) es

/-- The entries that the sections of a document make up. -/
def build (document : List Section) : Option Entries := document.foldlM (fun es s => s.add es) []

/-! ### Values of nodes -/

mutual

/-- The value of a node. -/
def Node.close : Node → Toml
  | .value v => v
  | .table _ _ es => .table (closeEntries es)
  | .tables elements => .array (closeElements elements)

/-- The values of entries. -/
def closeEntries : Entries → List (String × Toml)
  | [] => []
  | (k, n) :: es => (k, n.close) :: closeEntries es

/-- The values of the elements of an array of tables. -/
def closeElements : List Entries → List Toml
  | [] => []
  | es :: rest => .table (closeEntries es) :: closeElements rest

end

end Toml

end Catalog
