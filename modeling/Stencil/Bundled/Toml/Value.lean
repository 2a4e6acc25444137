/-!
# Stencil.Bundled.Toml.Value

Values of a TOML document and the rules by which tables grow.

* `Value`        — scalars, arrays, tables, and lists of tables. A number that is well formed may
  still have no value.
* `TableKind`    — how a table came about; this decides who may add to it.
* `openTable`    — work on the entries of the table at the end of a header path.
* `defineTable`, `appendTable` — the headers `[path]` and `[[path]]`.
* `insertAt`     — a value under a dotted key.

Each operation gives `none` where the document defines something twice.
-/

namespace Stencil.Bundled.Toml

inductive TableKind where
  /-- Written inline; complete. -/
  | closed
  /-- Defined by its own header. -/
  | header
  /-- Known only as part of the path to another table. -/
  | path
  /-- Made by a dotted key. -/
  | dotted
deriving DecidableEq

inductive Value where
  | text (s : String)
  | integer (i : Option Int)
  | float (x : Option Float)
  | boolean (b : Bool)
  | moment
  | array (items : List Value)
  | table (kind : TableKind) (entries : List (String × Value))
  | tables (rows : List (List (String × Value)))

abbrev Entries := List (String × Value)

namespace Entries

def set (es : Entries) (key : String) (v : Value) : Entries :=
  es.map fun e => if e.1 == key then (key, v) else e

end Entries

/-- A header path passes through tables of any open kind, and through the last of a list. -/
def openTable (f : Entries → Option Entries) : List String → Entries → Option Entries
  | [], es => f es
  | key :: rest, es =>
    match es.lookup key with
    | none => (openTable f rest []).map fun sub => es ++ [(key, .table .path sub)]
    | some (.table .closed _) => none
    | some (.table kind sub) => (openTable f rest sub).map fun sub => es.set key (.table kind sub)
    | some (.tables rows) =>
      match rows.reverse with
      | [] => none
      | last :: before =>
        (openTable f rest last).map fun last => es.set key (.tables (last :: before).reverse)
    | some _ => none

/-- A table that was only passed through can still get its header. -/
def defineTable (path : List String) (es : Entries) : Option Entries :=
  match path.getLast? with
  | none => none
  | some key =>
    openTable (fun es =>
      match es.lookup key with
      | none => some (es ++ [(key, .table .header [])])
      | some (.table .path sub) => some (es.set key (.table .header sub))
      | some _ => none) path.dropLast es

def appendTable (path : List String) (es : Entries) : Option Entries :=
  match path.getLast? with
  | none => none
  | some key =>
    openTable (fun es =>
      match es.lookup key with
      | none => some (es ++ [(key, .tables [[]])])
      | some (.tables rows) => some (es.set key (.tables (rows ++ [[]])))
      | some _ => none) path.dropLast es

/-- The table that takes the value must have been made by dotted keys, unless the key has one part
only. The way to it may also lead through tables that are only known as part of a path, and through
the last of a list. -/
def insertAt (v : Value) : List String → Entries → Option Entries
  | [], _ => none
  | [key], es => if (es.lookup key).isSome then none else some (es ++ [(key, v)])
  | key :: rest, es =>
    match es.lookup key with
    | none => (insertAt v rest []).map fun sub => es ++ [(key, .table .dotted sub)]
    | some (.table .dotted sub) =>
      (insertAt v rest sub).map fun sub => es.set key (.table .dotted sub)
    | some (.table .path sub) =>
      if rest.length = 1 then none
      else (insertAt v rest sub).map fun sub => es.set key (.table .path sub)
    | some (.tables rows) =>
      match rows.reverse with
      | [] => none
      | last :: before =>
        if rest.length = 1 then none
        else (insertAt v rest last).map fun last => es.set key (.tables (last :: before).reverse)
    | some _ => none

end Stencil.Bundled.Toml
