/-
  EntitySchema.Compilation
  ────────────────────────────────
  **COMPILING A DESCRIPTOR SET.**

  Both halves together: the catalog of all selected entities, then the
  edges of each one, then one resolved entity per catalog entry, in
  declaration order.  The first fault ends the work; there is no partial
  result.
-/
import EntitySchema.Pairing

namespace EntitySchema

/-- API scalars of attributes. -/
def scalarsOf (attributes : List Attribute) : NameSet :=
  NameSet.ofList (attributes.filterMap (·.graphqlScalar))

/-- Annotations of an entity: mutations are offered if there is anything
besides the identity to set. -/
def entityAnnotations (attributes : List Attribute) : List EntityAnnotation :=
  [.queryField, .relayConnection]
    ++ if attributes.any (fun a => !a.isIdentity) then [.mutations true true] else []

/-- Entity of a name with its attributes and edges. -/
def Entity.assemble (name : String) (attributes : List Attribute) (edges : List Edge) :
    Entity where
  name
  pluralName := Identifier.plural name
  schemaFileName := Identifier.snake name ++ ".go"
  graphqlSchemaFileName := Identifier.snake name ++ ".graphql"
  attributes
  edges
  annotations := entityAnnotations attributes
  graphqlTypes := scalarsOf attributes

/-- Resolved entity of a catalog entry. -/
def Catalog.entity (c : Catalog) (e : CatalogEntry) : Except CompileFault Entity := do
  let edges ← (c.resolveAll e).mapError .pairing
  return .assemble e.name e.attributes edges

/-- Resolved entities of a descriptor set. -/
def compile (o : CompileOptions) (s : DescriptorSet) : Except CompileFault (List Entity) := do
  let c ← Catalog.build o s
  c.entries.mapM c.entity

end EntitySchema
