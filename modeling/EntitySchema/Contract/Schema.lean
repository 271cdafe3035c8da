/-
  EntitySchema.Contract.Schema
  ────────────────────────────────
  **SCHEMAS OF DOCUMENTS.**

  The part of JSON Schema that describes records: types, lists, records
  with required members, closed sets of names, and alternatives with null.
  A named schema carries its body, so a schema is a finite tree and every
  walk over it ends; in the written form the bodies of named schemas stand
  among the definitions.
-/
import EntitySchema.Json.Value

namespace EntitySchema

/-! ## §1. Schemas. -/

/-- Types of documents that a schema may ask for. -/
inductive JsonType where
  | array
  | boolean
  | null
  | object
  | string
  deriving DecidableEq, Repr

/-- Name of a type. -/
def JsonType.name : JsonType → String
  | .array => "array"
  | .boolean => "boolean"
  | .null => "null"
  | .object => "object"
  | .string => "string"

/-- What a schema says beside its rules: nothing that a document could
violate. -/
structure SchemaNote where
  description : Option String := none
  default : Option Json := none

/-- A schema. -/
inductive Schema where
  /-- Documents of one of the types. -/
  | scalar (types : List JsonType)
  /-- Arrays of such items. -/
  | list (items : Schema)
  /-- Objects with such members, the required ones present. -/
  | record (properties : List (String × Schema)) (required : List String)
  /-- One of the names. -/
  | choice (names : List String)
  /-- The schema of a definition. -/
  | named (name : String) (body : Schema)
  /-- The schema as the only part of a conjunction. -/
  | conjunction (body : Schema)
  /-- The schema or null. -/
  | nullable (body : Schema)
  /-- The schema with a note. -/
  | noted (note : SchemaNote) (body : Schema)

namespace Schema

/-! ## §2. Written form. -/

/-- Types as the written form lists them. -/
def typesJson : List JsonType → Json
  | [t] => .text t.name
  | ts => .texts (ts.map (·.name))

/-- Members that a note adds. -/
def noteMembers (n : SchemaNote) : List (String × Json) :=
  (n.description.map fun d => ("description", Json.text d)).toList
    ++ (n.default.map fun d => ("default", d)).toList

mutual

/-- Members of the written form of a schema. -/
def members : Schema → List (String × Json)
  | .scalar types => [("type", typesJson types)]
  | .list items => [("items", Json.ofMembers items.members), ("type", .text "array")]
  | .record properties required =>
      [("properties", Json.ofMembers (propertyMembers properties)), ("type", .text "object")]
        ++ if required.isEmpty then [] else [("required", .texts required)]
  | .choice names => [("enum", .texts names), ("type", .text "string")]
  | .named name _ => [("$ref", .text ("#/definitions/" ++ name))]
  | .conjunction body => [("allOf", .array [Json.ofMembers body.members])]
  | .nullable body =>
      [("anyOf", .array [Json.ofMembers body.members,
        Json.ofMembers [("type", .text "null")]])]
  | .noted note body => noteMembers note ++ body.members

/-- Written forms of the properties of a record. -/
def propertyMembers : List (String × Schema) → List (String × Json)
  | [] => []
  | (k, s) :: rest => (k, Json.ofMembers s.members) :: propertyMembers rest

end

mutual

/-- Written forms of the named schemas that a schema uses. -/
def definitions : Schema → List (String × Json)
  | .scalar _ | .choice _ => []
  | .list items => items.definitions
  | .record properties _ => propertyDefinitions properties
  | .named name body => (name, Json.ofMembers body.members) :: body.definitions
  | .conjunction body | .nullable body | .noted _ body => body.definitions

/-- Written forms of the named schemas that properties use. -/
def propertyDefinitions : List (String × Schema) → List (String × Json)
  | [] => []
  | (_, s) :: rest => s.definitions ++ propertyDefinitions rest

end

/-- Written form of a schema as a document of its own. -/
def document (title : String) (s : Schema) : Json :=
  Json.ofMembers (
    [("$schema", .text "http://json-schema.org/draft-07/schema#"), ("title", .text title),
     ("definitions", Json.ofMembers s.definitions)]
      ++ s.members)

end Schema
end EntitySchema
