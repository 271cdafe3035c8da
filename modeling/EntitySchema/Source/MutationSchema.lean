/-
  EntitySchema.Source.MutationSchema
  ────────────────────────────────
  **THE API SCHEMA OF AN ENTITY'S MUTATIONS.**

  Six mutations per entity, for one object and for several, and the input
  type of the update of several.
-/
import EntitySchema.Model.Basic
import EntitySchema.Identifier.Style
import EntitySchema.Text.Lines

namespace EntitySchema.Source

/-- Mutation fields that an entity declares: name and the rest of the
declaration. -/
def mutationFields (e : Entity) : List (String × String) :=
  let n := e.name
  let p := e.pluralName
  [("create" ++ n, "(input: Create" ++ n ++ "Input!): " ++ n),
   ("create" ++ p, "(input: [Create" ++ n ++ "Input!]!): [" ++ n ++ "!]"),
   ("update" ++ n, "(id: ID!, input: Update" ++ n ++ "Input!): " ++ n),
   ("update" ++ p, "(input: [Update" ++ p ++ "Input!]!): [" ++ n ++ "!]"),
   ("delete" ++ n, "(id: ID!): Boolean!"),
   ("delete" ++ p, "(ids: [ID!]!): Boolean!")]

/-- Input type that an entity declares. -/
def bulkInputName (e : Entity) : String := "Update" ++ e.pluralName ++ "Input"

/-- API schema of the mutations of an entity. -/
def mutationSchema (e : Entity) : String :=
  Text.unlines (
    ["extend type Mutation \x7b"]
      ++ (mutationFields e).map (fun f => "  " ++ f.1 ++ f.2)
      ++ ["\x7d", "", "input " ++ bulkInputName e ++ " \x7b", "  id: ID!",
        "  " ++ Identifier.camel e.name ++ ": Update" ++ e.name ++ "Input!", "\x7d"])

end EntitySchema.Source
