/-
  EntitySchema.Source.ServerConfig
  ────────────────────────────────
  **THE CONFIGURATION OF THE API SERVER.**

  Which packages are bound, which scalars have models of their own, and
  which API schemas are read: the one the ORM generates and one for each
  entity with mutations.
-/
import EntitySchema.Model.Basic
import EntitySchema.Source.Layout
import EntitySchema.Text.Lines
import EntitySchema.Text.Case

namespace EntitySchema.Source

/-- Lines that bind a scalar to a model. -/
def modelLines (scalar model : String) : List String :=
  ["  " ++ scalar ++ ":", "    model:", "      - " ++ model]

/-- Model of a scalar that the ORM cannot bind on its own. -/
def scalarModel? : String → Option String
  | "Uint32" => some "github.com/99designs/gqlgen/graphql.Uint32"
  | "Uint64" => some "github.com/99designs/gqlgen/graphql.Uint64"
  | "Float" => some "github.com/99designs/gqlgen/graphql.Float"
  | _ => none

/-- Scalars that any of the entities uses. -/
def usedScalars (es : List Entity) : NameSet :=
  es.foldl (fun s e => s.union e.graphqlTypes) NameSet.empty

/-- Scalars with a model of their own, with that model. -/
def boundScalars (es : List Entity) : List (String × String) :=
  (usedScalars es).names.filterMap fun s => (scalarModel? s).map (s, ·)

/-- API schemas that the server reads. -/
def schemaFiles (es : List Entity) : List String :=
  "ent.graphql" :: (es.filter (·.hasMutations)).map (·.graphqlSchemaFileName)

/-- Packages that the server binds. -/
def boundPackages (es : List Entity) (entPackage : String) : List String :=
  entPackage :: es.map fun e => entPackage ++ "/" ++ String.ofList (Text.lower e.name.toList)

/-- Configuration of the API server. -/
def serverConfig (es : List Entity) (entPackage : String) : String :=
  Text.unlines (
    ["resolver:", "  layout: follow-schema", "  dir: .", "autobind:"]
      ++ (boundPackages es entPackage).map ("  - " ++ ·)
      ++ ["models:"]
      ++ modelLines "ID" "github.com/99designs/gqlgen/graphql.UUID"
      ++ modelLines "Node" (entPackage ++ ".Noder")
      ++ (boundScalars es).flatMap (fun m => modelLines m.1 m.2)
      ++ ["schema:"]
      ++ (schemaFiles es).map ("  - " ++ ·))

end EntitySchema.Source
