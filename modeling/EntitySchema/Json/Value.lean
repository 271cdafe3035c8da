/-
  EntitySchema.Json.Value
  ────────────────────────────────
  **DOCUMENTS.**

  The value of a JSON text.  Whole numbers and other numbers are kept
  apart, since a message shows them differently.  The reader hands over
  the members of an object in the order of their names, each name once;
  the functions here ask only for the member of a name.
-/
import EntitySchema.Decimal.Binary64

namespace EntitySchema

/-- A JSON value. -/
inductive Json where
  | null
  | bool (b : Bool)
  | int (n : Int)
  | float (x : Decimal.Binary64)
  | text (s : String)
  | array (items : List Json)
  | object (members : List (String × Json))
  deriving Repr

namespace Json

instance : Inhabited Json := ⟨.null⟩

/-- Member of an object; a value of another kind has none. -/
def member? (name : String) : Json → Option Json
  | .object ms => ms.lookup name
  | _ => none

/-- Text of a text value. -/
def text? : Json → Option String
  | .text s => some s
  | _ => none

/-- Truth value of a truth value. -/
def bool? : Json → Option Bool
  | .bool b => some b
  | _ => none

/-- Items of an array. -/
def items? : Json → Option (List Json)
  | .array vs => some vs
  | _ => none

/-- An array of texts. -/
def texts (ss : List String) : Json := .array (ss.map .text)

/-- A text or null. -/
def textOrNull (s : Option String) : Json := (s.map .text).getD .null

/-- A natural number. -/
def nat (n : Nat) : Json := .int n

/-! ## §1. Members in the order of their names. -/

/-- Enters a member among members in the order of their names; a member of
the same name gives way. -/
def enter (name : String) (v : Json) : List (String × Json) → List (String × Json)
  | [] => [(name, v)]
  | (k, w) :: rest =>
      if name = k then (name, v) :: rest
      else if name < k then (name, v) :: (k, w) :: rest
      else (k, w) :: enter name v rest

/-- Object of the listed members: names in order, the last value of a name
counts. -/
def ofMembers (ms : List (String × Json)) : Json :=
  .object (ms.foldl (fun acc m => enter m.1 m.2 acc) [])

mutual

/-- The same document with the members of every object in the order of their
names. -/
def inOrder : Json → Json
  | .array vs => .array (inOrderItems vs)
  | .object ms => ofMembers (inOrderMembers ms)
  | v => v

/-- Items of an array, each in order. -/
def inOrderItems : List Json → List Json
  | [] => []
  | v :: vs => v.inOrder :: inOrderItems vs

/-- Members of an object, each in order. -/
def inOrderMembers : List (String × Json) → List (String × Json)
  | [] => []
  | (k, v) :: ms => (k, v.inOrder) :: inOrderMembers ms

end

end Json
end EntitySchema
