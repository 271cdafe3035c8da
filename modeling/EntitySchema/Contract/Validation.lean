/-
  EntitySchema.Contract.Validation
  ────────────────────────────────
  **VIOLATIONS OF A SCHEMA.**

  All places where a document differs from a schema, in a fixed order:
  inside a record the members in the order of their names, then the
  required members that are absent; a value of another type than the
  schema's has that violation alone, but for a closed set of names, which
  is checked first.  What is wrong inside an alternative is not told.

  A place is a JSON pointer, the root being a single slash.
-/
import EntitySchema.Contract.Schema
import EntitySchema.Json.Writer

namespace EntitySchema

/-! ## §1. Violations. -/

/-- How a value violates its schema. -/
inductive ViolationCause where
  | wrongType (types : List JsonType)
  | notAmong (names : List String)
  | missing (name : String)
  | noAlternative
  deriving DecidableEq, Repr

/-- A violation: where, by which value, how. -/
structure Violation where
  path : List String
  value : Json
  cause : ViolationCause

/-- Types in a message: in the order of their names. -/
def typeList (ts : List JsonType) : String :=
  let names := (ts.map (·.name)).mergeSort (· ≤ ·)
  (if ts.length = 1 then "type " else "types ") ++ ", ".intercalate (names.map Json.quoted)

/-- Wording of a violation. -/
def Violation.message (v : Violation) : String :=
  match v.cause with
  | .wrongType ts => v.value.compact ++ " is not of " ++ typeList ts
  | .notAmong names => v.value.compact ++ " is not one of " ++ (Json.texts names).compact
  | .missing name => Json.quoted name ++ " is a required property"
  | .noAlternative =>
      v.value.compact
        ++ " is not valid under any of the schemas listed in the 'anyOf' keyword"

/-- Step of a pointer, its special characters escaped. -/
def pointerStep (step : String) : String :=
  "/" ++ String.ofList (step.toList.flatMap fun c =>
    if c = '~' then ['~', '0'] else if c = '/' then ['~', '1'] else [c])

/-- Pointer to the place of a violation. -/
def Violation.pointer (v : Violation) : String :=
  if v.path.isEmpty then "/" else String.join (v.path.map pointerStep)

/-! ## §2. Checking. -/

/-- Whether a document has a type. -/
def JsonType.has : JsonType → Json → Bool
  | .array, .array _ | .boolean, .bool _ | .null, .null | .object, .object _
  | .string, .text _ => true
  | _, _ => false

namespace Schema

/-- Violation by type, unless the document has one of the types. -/
def checkType (path : List String) (types : List JsonType) (v : Json) : List Violation :=
  if types.any (·.has v) then [] else [⟨path, v, .wrongType types⟩]

/-- Violations by items, which `check` finds at each place. -/
def checkItems (path : List String) (check : List String → Json → List Violation)
    (start : Nat) : List Json → List Violation
  | [] => []
  | v :: vs => check (path ++ [toString start]) v ++ checkItems path check (start + 1) vs

/-- Violations by required members that an object lacks. -/
def checkRequired (path : List String) (v : Json) (ms : List (String × Json))
    (required : List String) : List Violation :=
  (required.filter fun name => (ms.lookup name).isNone).map fun name => ⟨path, v, .missing name⟩

mutual

/-- Violations of a schema by the value at a place. -/
def violationsAt (path : List String) : Schema → Json → List Violation
  | .scalar types, v => checkType path types v
  | .list items, v =>
      match v with
      | .array vs => checkItems path (fun p w => items.violationsAt p w) 0 vs
      | w => checkType path [.array] w
  | .record properties required, v =>
      match v with
      | .object ms =>
          propertyViolations path ms properties ++ checkRequired path (.object ms) ms required
      | w => checkType path [.object] w
  | .choice names, v =>
      match v with
      | .text s => if names.contains s then [] else [⟨path, .text s, .notAmong names⟩]
      | w => ⟨path, w, .notAmong names⟩ :: checkType path [.string] w
  | .named _ body, v => body.violationsAt path v
  | .conjunction body, v => body.violationsAt path v
  | .nullable body, v =>
      match v with
      | .null => []
      | w => if (body.violationsAt path w).isEmpty then [] else [⟨path, w, .noAlternative⟩]
  | .noted _ body, v => body.violationsAt path v

/-- Violations by the members of an object. -/
def propertyViolations (path : List String) (ms : List (String × Json)) :
    List (String × Schema) → List Violation
  | [] => []
  | (name, s) :: rest =>
      (match ms.lookup name with
        | some v => s.violationsAt (path ++ [name]) v
        | none => []) ++ propertyViolations path ms rest

end

/-- Violations of a schema by a document. -/
def violations (s : Schema) (v : Json) : List Violation := s.violationsAt [] v

end Schema
end EntitySchema
