/-
  EntitySchema.Source.Layout
  ────────────────────────────────
  **WHERE GENERATED FILES GO.**

  Directories below the output directory, one per kind of file, and the
  generated package's import path.
-/
import EntitySchema.Path
import EntitySchema.Json.Codec

namespace EntitySchema

/-- Layout of the generated files. -/
structure OutputLayout where
  /-- Directory of the schema sources. -/
  schemaDir : Path := "ent/schema"
  /-- Directory of the API schemas. -/
  graphqlDir : Path := "graphql"
  /-- Import path of the generated package. -/
  entPackage : String := "app/ent"
  /-- Directory of the server configuration. -/
  configDir : Path := "config"
  deriving DecidableEq, Repr

/-- Written form of a layout. -/
def OutputLayout.record : Record OutputLayout where
  title := "struct EmitConfig"
  blank := {}
  members := [
    .of "schema_dir" .default .path (·.schemaDir) fun a s => { s with schemaDir := a },
    .of "graphql_dir" .default .path (·.graphqlDir) fun a s => { s with graphqlDir := a },
    .of "ent_package" .default .text (·.entPackage) fun a s => { s with entPackage := a },
    .of "config_dir" .default .path (·.configDir) fun a s => { s with configDir := a }]

end EntitySchema
