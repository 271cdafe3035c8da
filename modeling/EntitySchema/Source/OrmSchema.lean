/-
  EntitySchema.Source.OrmSchema
  ────────────────────────────────
  **THE SCHEMA SOURCE OF AN ENTITY.**

  One file of Go source per entity: its imports, its type, and three
  methods that list the fields, the edges and the annotations.  A field or
  an edge is a chain of calls, one call per property that it has, in a
  fixed order.  Only packages that the file uses are imported, in ascending
  order.
-/
import EntitySchema.Model.Basic
import EntitySchema.Source.Literal
import EntitySchema.Text.Lines

namespace EntitySchema.Source

/-! ## §1. Chains of calls. -/

/-- Call of a method without arguments, if `present`. -/
def flagCall (name : String) (present : Bool) : List String :=
  if present then [name ++ "()"] else []

/-- Call of a method with one argument, if there is one. -/
def argumentCall (name : String) (write : String → String) (argument : Option String) :
    List String :=
  (argument.map fun a => name ++ "(" ++ write a ++ ")").toList

/-- Call of a method with a list of texts, if there are any. -/
def listCall (name : String) (values : List String) : List String :=
  if values.isEmpty then [] else [name ++ "(" ++ quoteAll values ++ ")"]

/-- Calls joined into a chain. -/
def chain (calls : List String) : String := ".".intercalate calls

/-- Annotation of a field or an edge. -/
def annotationValue : Annotation → String
  | .orderField key => "entgql.OrderField(" ++ quote key ++ ")"
  | .graphqlType type => "entgql.Type(" ++ quote type ++ ")"
  | .relayConnection => "entgql.RelayConnection()"

/-- Call that attaches annotations, if there are any. -/
def annotationsCall (annotations : List Annotation) : List String :=
  if annotations.isEmpty then []
  else ["Annotations(" ++ ", ".intercalate (annotations.map annotationValue) ++ ")"]

/-! ## §2. Fields. -/

/-- First call of a field. -/
def fieldConstructor (a : Attribute) : String :=
  "field." ++ a.storageKind.constructorName ++ "(" ++ quote a.name
    ++ (if a.isIdentity then ", uuid.UUID\x7b\x7d" else "") ++ ")"

/-- Definition of a field. -/
def fieldDefinition (a : Attribute) : String :=
  chain (
    [fieldConstructor a]
      ++ listCall "Values" a.enumValues
      ++ argumentCall "Default" id a.defaultExpr
      ++ argumentCall "DefaultFunc" id a.defaultFuncExpr
      ++ flagCall "Optional" a.optional
      ++ flagCall "Nillable" a.nillable
      ++ flagCall "Immutable" a.immutable
      ++ flagCall "Unique" a.unique
      ++ argumentCall "Comment" quote a.comment
      ++ argumentCall "StorageKey" quote a.storageKey
      ++ argumentCall "StructTag" raw a.structTag
      ++ flagCall "Sensitive" a.sensitive
      ++ argumentCall "GoType" id a.goType
      ++ annotationsCall a.annotations)

/-! ## §3. Edges. -/

/-- First calls of an edge. -/
def edgeConstructor (e : Edge) : List String :=
  match e.direction with
  | .owning => ["edge.To(" ++ quote e.name ++ ", " ++ e.target ++ ".Type)"]
  | .referencing r =>
      ["edge.From(" ++ quote e.name ++ ", " ++ e.target ++ ".Type)", "Ref(" ++ quote r ++ ")"]

/-- Options of a storage override. -/
def storageKeyOptions (k : StorageKey) : String :=
  ", ".intercalate (
    listCall "edge.Symbols" k.symbols
      ++ listCall "edge.Columns" k.columns
      ++ (if k.column.isEmpty then [] else ["edge.Column(" ++ quote k.column ++ ")"])
      ++ (if k.table.isEmpty then [] else ["edge.Table(" ++ quote k.table ++ ")"])
      ++ (if k.symbol.isEmpty then [] else ["edge.Symbol(" ++ quote k.symbol ++ ")"]))

/-- Definition of an edge. -/
def edgeDefinition (e : Edge) : String :=
  chain (
    edgeConstructor e
      ++ flagCall "Unique" e.unique
      ++ argumentCall "Field" quote e.bindField
      ++ flagCall "Required" e.required
      ++ flagCall "Immutable" e.immutable
      ++ argumentCall "StorageKey" id (e.storageKey.map storageKeyOptions)
      ++ argumentCall "StructTag" raw e.structTag
      ++ argumentCall "Comment" quote e.comment
      ++ annotationsCall e.annotations)

/-! ## §4. Imports. -/

/-- Packages that a schema source may use. -/
inductive Package where
  | entgql
  | ent
  | schema
  | edge
  | field
  | uuid
  deriving DecidableEq, Repr

namespace Package

/-- Import path of a package. -/
def importPath : Package → String
  | .entgql => "entgo.io/contrib/entgql"
  | .ent => "entgo.io/ent"
  | .schema => "entgo.io/ent/schema"
  | .edge => "entgo.io/ent/schema/edge"
  | .field => "entgo.io/ent/schema/field"
  | .uuid => "github.com/google/uuid"

/-- All packages in ascending order of their import paths. -/
def all : List Package := [.entgql, .ent, .schema, .edge, .field, .uuid]

/-- Whether the source of an entity uses a package. -/
def isUsedBy (e : Entity) : Package → Bool
  | .ent | .schema => true
  | .field => !e.attributes.isEmpty
  | .edge => !e.edges.isEmpty
  | .uuid => e.attributes.any (·.isIdentity)
  | .entgql =>
      !e.annotations.isEmpty || e.attributes.any (fun a => !a.annotations.isEmpty)
        || e.edges.any (fun d => !d.annotations.isEmpty)

end Package

/-- Packages that the source of an entity imports. -/
def imports (e : Entity) : List Package := Package.all.filter (·.isUsedBy e)

/-! ## §5. The file. -/

/-- Banner of generated sources. -/
def banner : String := "// Code generated by entgen. DO NOT EDIT."

/-- Annotation of an entity. -/
def entityAnnotationValue : EntityAnnotation → String
  | .queryField => "entgql.QueryField()"
  | .relayConnection => "entgql.RelayConnection()"
  | .mutations create update =>
      "entgql.Mutations("
        ++ ", ".intercalate (flagCall "entgql.MutationCreate" create
          ++ flagCall "entgql.MutationUpdate" update)
        ++ ")"

/-- Lines of a method that lists items. -/
def listMethod (typeName method itemType : String) (items : List String) : List String :=
  ["", "func (" ++ typeName ++ ") " ++ method ++ "() []" ++ itemType ++ " \x7b",
    "\treturn []" ++ itemType ++ "\x7b"]
    ++ items.map (fun i => "\t\t" ++ i ++ ",")
    ++ ["\t\x7d", "\x7d"]

/-- Schema source of an entity. -/
def ormSchema (e : Entity) : String :=
  Text.unlines (
    [banner, "", "package schema", "", "import ("]
      ++ (imports e).map (fun p => "\t" ++ quote p.importPath)
      ++ [")", "", "type " ++ e.name ++ " struct \x7b", "\tent.Schema", "\x7d"]
      ++ listMethod e.name "Fields" "ent.Field" (e.attributes.map fieldDefinition)
      ++ listMethod e.name "Edges" "ent.Edge" (e.edges.map edgeDefinition)
      ++ listMethod e.name "Annotations" "schema.Annotation"
        (e.annotations.map entityAnnotationValue))

end EntitySchema.Source
