import FormRules.Toml

/-!
# Adding to tables

The lines of a document add to its tables.  A line goes through the tables on its
path, and makes those that are missing.

* An entry has to be new.
* A table has at most one header.  One that so far only stands above another
  table may still get it.
* The header of an element adds a table to an array that was made by such
  headers.  A path goes through the last element of such an array.
* A dotted key goes only through tables that dotted keys made, or that have no
  header yet.  The last of them becomes a table of dotted keys, so that it gets
  no header any more.
* Nothing is added to what is written between brackets or braces.
-/

namespace FormRules.Toml

/-- A path to an entry. -/
structure KeyPath where
  /-- The tables on the way, outermost first. -/
  parents : List String
  /-- The key of the entry. -/
  key : String
deriving DecidableEq, Repr

/-- The path with the entry itself. -/
def KeyPath.all (p : KeyPath) : List String := p.parents ++ [p.key]

/-- A table that lines may add to. -/
structure OpenTable where
  /-- How it came about. -/
  origin : TableOrigin
  /-- Its entries so far, in order. -/
  entries : TomlEntries

namespace OpenTable

/-- The table as a value. -/
def close (t : OpenTable) : Toml := .table t.origin t.entries

/-- The table with one more entry at its end. -/
def append (t : OpenTable) (key : String) (v : Toml) : OpenTable :=
  { t with entries := t.entries ++ [(key, v)] }

/-- The table with another value for an entry that it has. -/
def replace (t : OpenTable) (key : String) (v : Toml) : OpenTable :=
  { t with entries := Entries.upsert key (fun _ => v) t.entries }

end OpenTable

/-- A change of a table, if it is allowed. -/
abbrev TableChange := OpenTable → Option OpenTable

/-- The change of a table that changes the one at the end of a path.  A dotted key makes missing
tables by itself, and a header implies them. -/
def along (byDottedKey : Bool) (change : TableChange) : List String → TableChange
  | [], t => change t
  | key :: path, t =>
    match Entries.find? key t.entries with
    | none =>
      let origin : TableOrigin := if byDottedKey then .dotted else .implied
      (along byDottedKey change path ⟨origin, []⟩).map fun inner => t.append key inner.close
    | some (.table origin inner) =>
      if origin = .inline ∨ (byDottedKey ∧ origin = .header) then none
      else
        (along byDottedKey change path ⟨origin, inner⟩).map fun inner => t.replace key inner.close
    | some (.array true items) =>
      match items.getLast? with
      | some (.table origin inner) =>
        (along byDottedKey change path ⟨origin, inner⟩).map fun inner =>
          t.replace key (.array true (items.dropLast ++ [inner.close]))
      | _ => none
    | some _ => none

/-- Puts a new entry into a table. -/
def putEntry (key : String) (v : Toml) : TableChange := fun t =>
  if Entries.find? key t.entries = none then some (t.append key v) else none

/-- Makes a table one of dotted keys, unless it has a header or is written between braces. -/
def extendByDottedKey (change : TableChange) : TableChange := fun t =>
  if t.origin = .implied ∨ t.origin = .dotted then change { t with origin := .dotted } else none

/-- Gives a table its header. -/
def openTable (key : String) : TableChange := fun t =>
  match Entries.find? key t.entries with
  | none => some (t.append key (.table .header []))
  | some (.table .implied inner) => some (t.replace key (.table .header inner))
  | some _ => none

/-- Adds a table to an array of tables. -/
def openElement (key : String) : TableChange := fun t =>
  match Entries.find? key t.entries with
  | none => some (t.append key (.array true [.table .header []]))
  | some (.array true items) => some (t.replace key (.array true (items ++ [.table .header []])))
  | some _ => none

/-- Puts an entry under a key that may be dotted. -/
def assign (p : KeyPath) (v : Toml) : TableChange :=
  match p.parents with
  | [] => putEntry p.key v
  | parents => along true (extendByDottedKey (putEntry p.key v)) parents

/-- The table that is written between braces with these entries. -/
def inlineTable? (entries : List (KeyPath × Toml)) : Option Toml :=
  (entries.foldlM (fun t e => assign e.1 e.2 t) ⟨.inline, []⟩).map OpenTable.close

/-! ## Documents -/

/-- What a line of a document says. -/
inductive Statement where
  /-- The header of a table. -/
  | table (path : KeyPath)
  /-- The header of an element of an array of tables. -/
  | element (path : KeyPath)
  /-- An entry of the table whose header came last. -/
  | entry (path : KeyPath) (v : Toml)

/-- A document as far as it was read. -/
structure Draft where
  /-- The root. -/
  root : OpenTable
  /-- The path of the table that entries go to. -/
  current : List String

/-- A document with one more line. -/
def Draft.add (d : Draft) : Statement → Option Draft
  | .table p => (along false (openTable p.key) p.parents d.root).map (⟨·, p.all⟩)
  | .element p => (along false (openElement p.key) p.parents d.root).map (⟨·, p.all⟩)
  | .entry p v => (along false (assign p v) d.current d.root).map (⟨·, d.current⟩)

/-- The root of the document that has these lines. -/
def document? (statements : List Statement) : Option TomlEntries :=
  (statements.foldlM Draft.add ⟨⟨.header, []⟩, []⟩).map fun d => d.root.entries

end FormRules.Toml
