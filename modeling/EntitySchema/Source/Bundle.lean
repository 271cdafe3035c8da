/-
  EntitySchema.Source.Bundle
  ────────────────────────────────
  **ALL GENERATED FILES.**

  One schema source per entity, one API schema per entity with mutations,
  and the server configuration.  An edge to an entity outside the list is a
  fault; a compiled list has none, an edited document may.
-/
import EntitySchema.Source.OrmSchema
import EntitySchema.Source.MutationSchema
import EntitySchema.Source.ServerConfig

namespace EntitySchema.Source

/-- A generated file, its path below the output directory. -/
structure GeneratedFile where
  path : Path
  contents : String
  deriving DecidableEq, Repr

/-- An edge to an entity outside the list. -/
structure DanglingEdge where
  entity : String
  edge : String
  target : String
  deriving DecidableEq, Repr

/-- Wording of a dangling edge. -/
def DanglingEdge.message (d : DanglingEdge) : String :=
  "edge " ++ d.entity ++ "." ++ d.edge ++ " targets " ++ d.target
    ++ ", which is not part of the emitted set"

/-- First edge of an entity whose target is not among the names. -/
def danglingEdge? (names : List String) (e : Entity) : Option DanglingEdge :=
  (e.edges.find? fun d => !names.contains d.target).map fun d => ⟨e.name, d.name, d.target⟩

/-- Schema source file of an entity. -/
def schemaFile (l : OutputLayout) (e : Entity) : GeneratedFile :=
  ⟨Path.join l.schemaDir e.schemaFileName, ormSchema e⟩

/-- API schema file of an entity. -/
def mutationFile (l : OutputLayout) (e : Entity) : GeneratedFile :=
  ⟨Path.join l.graphqlDir e.graphqlSchemaFileName, mutationSchema e⟩

/-- Server configuration file. -/
def configFile (l : OutputLayout) (es : List Entity) : GeneratedFile :=
  ⟨Path.join l.configDir "gqlgen.yml", serverConfig es l.entPackage⟩

/-- Generated files of entities. -/
def bundle (l : OutputLayout) (es : List Entity) : Except DanglingEdge (List GeneratedFile) :=
  match es.findSome? (danglingEdge? (es.map (·.name))) with
  | some d => .error d
  | none =>
      .ok (es.map (schemaFile l) ++ (es.filter (·.hasMutations)).map (mutationFile l)
        ++ [configFile l es])

end EntitySchema.Source
