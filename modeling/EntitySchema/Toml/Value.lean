/-
  EntitySchema.Toml.Value
  ────────────────────────────────
  **CONFIGURATION VALUES AND HOW TABLES GROW.**

  The values of a TOML document.  A table remembers how it came about,
  since that decides what may still be added to it:

      braces   written out in braces        nothing
      header   opened by its own header     entries below that header
      implied  on the way to a header       its own header, once
      dotted   on the way of a dotted name  further dotted names

  Of numbers with a fraction and of moments only the kind is kept: no
  setting holds one.
-/
import EntitySchema.Json.Value

namespace EntitySchema

/-- How a table came about. -/
inductive Toml.Origin where
  | braces
  | header
  | implied
  | dotted
  deriving DecidableEq, Repr

/-- A TOML value. -/
inductive Toml where
  | text (s : String)
  | integer (n : Int)
  | float
  | bool (b : Bool)
  /-- A date, a time of day, or both. -/
  | moment
  | array (items : List Toml)
  | table (origin : Toml.Origin) (entries : List (String × Toml))
  /-- Tables of one name, each with a header of its own. -/
  | tables (items : List (List (String × Toml)))
  deriving Repr

namespace Toml

/-- Named values of a table. -/
abbrev Entries := List (String × Toml)

/-! ## §1. Growing. -/

/-- Entries with another value under a name that is there. -/
def Entries.replace (name : String) (v : Toml) (es : Entries) : Entries :=
  es.map fun e => if e.1 = name then (name, v) else e

/-- Whether a path may lead through a table of this origin; `onWay` is the
origin of the tables that the path makes. -/
def Origin.admits (onWay : Origin) : Origin → Bool
  | .braces => false
  | .header => onWay ≠ .dotted
  | .implied | .dotted => true

/-- Changes the table that a path leads to.  Missing tables on the way are
made; of tables with one name the last one is meant. -/
def Entries.alter (onWay : Origin) (change : Origin → Entries → Option Entries) :
    List String → Origin → Entries → Option Entries
  | [], origin, es => change origin es
  | name :: path, _, es =>
      match es.lookup name with
      | none =>
          (Entries.alter onWay change path onWay []).map fun inner =>
            es ++ [(name, .table onWay inner)]
      | some (.table origin inner) =>
          if onWay.admits origin then
            (Entries.alter onWay change path origin inner).map fun inner =>
              es.replace name (.table origin inner)
          else none
      | some (.tables items) =>
          match items.getLast? with
          | none => none
          | some last =>
              (Entries.alter onWay change path .header last).map fun last =>
                es.replace name (.tables (items.dropLast ++ [last]))
      | some _ => none

/-- Adds a value under a new name. -/
def Entries.add (name : String) (v : Toml) (es : Entries) : Option Entries :=
  if (es.lookup name).isSome then none else some (es ++ [(name, v)])

/-- Adds a value under a dotted name.  A table that a longer name leads to
must be one of dotted names. -/
def Entries.addAt (path : List String) (name : String) (v : Toml) (es : Entries) :
    Option Entries :=
  es.alter .dotted
    (fun origin inner =>
      if path.isEmpty || origin = .dotted then inner.add name v else none)
    path .header

/-! ## §2. Documents. -/

/-- One step of a document. -/
inductive Statement where
  /-- Header of a table. -/
  | table (path : List String) (name : String)
  /-- Header of one more table of a name. -/
  | element (path : List String) (name : String)
  /-- Value under a name, below the last header. -/
  | entry (path : List String) (name : String) (v : Toml)
  deriving Repr

/-- Opens a table; one that was implied becomes a table of its own. -/
def Entries.openTable (name : String) (es : Entries) : Option Entries :=
  match es.lookup name with
  | none => some (es ++ [(name, .table .header [])])
  | some (.table .implied inner) => some (es.replace name (.table .header inner))
  | some _ => none

/-- Opens one more table of a name. -/
def Entries.openElement (name : String) (es : Entries) : Option Entries :=
  match es.lookup name with
  | none => some (es ++ [(name, .tables [[]])])
  | some (.tables items) => some (es.replace name (.tables (items ++ [[]])))
  | some _ => none

/-- A document so far: its entries and the path of the last header. -/
structure Draft where
  entries : Entries
  header : List String

/-- The document after one more statement, unless that contradicts it. -/
def Draft.step (d : Draft) : Statement → Option Draft
  | .table path name =>
      (d.entries.alter .implied (fun _ es => es.openTable name) path .header).map fun entries =>
        ⟨entries, path ++ [name]⟩
  | .element path name =>
      (d.entries.alter .implied (fun _ es => es.openElement name) path .header).map
        fun entries => ⟨entries, path ++ [name]⟩
  | .entry path name v =>
      (d.entries.alter .implied (fun _ es => es.addAt path name v) d.header .header).map
        fun entries => ⟨entries, d.header⟩

/-- Document that statements make up, unless one contradicts the others. -/
def ofStatements? (ss : List Statement) : Option Toml :=
  (ss.foldlM Draft.step ⟨[], []⟩).map fun d => .table .header d.entries

/-! ## §3. As JSON. -/

mutual

/-- Document in JSON.  A number with a fraction becomes null and a moment an
object without members, which is what a reader of settings sees in them. -/
def toJson : Toml → Json
  | .text s => .text s
  | .integer n => .int n
  | .float => .null
  | .bool b => .bool b
  | .moment => .object []
  | .array items => .array (itemsToJson items)
  | .table _ entries => Json.ofMembers (entriesToJson entries)
  | .tables items => .array (tablesToJson items)

/-- Items of an array in JSON. -/
def itemsToJson : List Toml → List Json
  | [] => []
  | v :: vs => v.toJson :: itemsToJson vs

/-- Entries of a table in JSON. -/
def entriesToJson : List (String × Toml) → List (String × Json)
  | [] => []
  | (name, v) :: es => (name, v.toJson) :: entriesToJson es

/-- Tables of one name in JSON. -/
def tablesToJson : List (List (String × Toml)) → List Json
  | [] => []
  | es :: rest => Json.ofMembers (entriesToJson es) :: tablesToJson rest

end

end Toml
end EntitySchema
