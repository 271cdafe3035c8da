/-
  EntitySchema.Json.Reader
  ────────────────────────────────
  **DOCUMENTS FROM TEXTS.**

  One pass over the tokens with the list of open containers, innermost
  first.  The state says what may come next, so every token either leads to
  the next state or shows a fault; nothing is looked at twice.

      value      — a value has to follow
      firstItem  — an array was just opened
      firstName  — an object was just opened
      name       — a comma inside an object was just read
      colon      — the name of a member was just read
      after      — a value was just completed

  At most 127 containers may be open at a time.
-/
import EntitySchema.Json.Token

namespace EntitySchema.Json

/-! ## §1. The machine. -/

/-- An open container with what it holds so far, last first. -/
inductive Frame where
  | items (done : List Json)
  | members (done : List (String × Json)) (name : String)

/-- What may come next. -/
inductive ReaderState where
  | value (outer : List Frame)
  | firstItem (outer : List Frame)
  | firstName (outer : List Frame)
  | name (done : List (String × Json)) (outer : List Frame)
  | colon (done : List (String × Json)) (name : String) (outer : List Frame)
  | after (v : Json) (outer : List Frame)

/-- How many containers may be open at a time. -/
def nestingLimit : Nat := 127

/-- Start of a value. -/
def beginValue (outer : List Frame) : Token → Option ReaderState
  | .value v => some (.after v outer)
  | .openArray => if outer.length < nestingLimit then some (.firstItem outer) else none
  | .openObject => if outer.length < nestingLimit then some (.firstName outer) else none
  | _ => none

/-- State after one more token. -/
def ReaderState.next : ReaderState → Token → Option ReaderState
  | .value outer, t => beginValue outer t
  | .firstItem outer, .closeArray => some (.after (.array []) outer)
  | .firstItem outer, t => beginValue (.items [] :: outer) t
  | .firstName outer, .closeObject => some (.after (.object []) outer)
  | .firstName outer, .value (.text k) => some (.colon [] k outer)
  | .name done outer, .value (.text k) => some (.colon done k outer)
  | .colon done k outer, .colon => some (.value (.members done k :: outer))
  | .after v (.items done :: outer), .comma => some (.value (.items (v :: done) :: outer))
  | .after v (.items done :: outer), .closeArray =>
      some (.after (.array (v :: done).reverse) outer)
  | .after v (.members done k :: outer), .comma => some (.name ((k, v) :: done) outer)
  | .after v (.members done k :: outer), .closeObject =>
      some (.after (ofMembers ((k, v) :: done).reverse) outer)
  | _, _ => none

/-! ## §2. Reading. -/

/-- Document that the tokens spell. -/
def ofTokens? (ts : List Token) : Option Json :=
  match ts.foldlM ReaderState.next (.value []) with
  | some (.after v []) => some v
  | _ => none

/-- Document that a text spells; none if it is no JSON text. -/
def read? (text : String) : Option Json := (tokens text.toList).bind ofTokens?

end EntitySchema.Json
