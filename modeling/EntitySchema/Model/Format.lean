/-
  EntitySchema.Model.Format
  ────────────────────────────────
  **MODEL DOCUMENTS.**

  How the resolved model is written in JSON and read back.  Every member is
  required unless it may be null.  Two kinds of tagged values occur:

      beside its payload   {"kind": "order_field", "value": "TITLE"}
      among its members    {"kind": "referencing", "ref_name": "posts"}
-/
import EntitySchema.Model.Basic
import EntitySchema.Descriptor.Format
import EntitySchema.Json.Codec

namespace EntitySchema

/-! ## §1. Names. -/

/-- Storage kinds by name. -/
def StorageKind.codec : Codec StorageKind :=
  .variant (StorageKind.all.map fun k => (k.name, k)) StorageKind.name

/-- Cardinalities by name. -/
def Cardinality.codec : Codec Cardinality :=
  .variant (Cardinality.all.map fun k => (k.name, k)) Cardinality.name

/-- Sets of names, written as arrays. -/
def NameSet.codec : Codec NameSet := (Codec.list .text).map NameSet.ofList (·.names)

/-! ## §2. A tag beside its payload. -/

/-- Variants of an annotation. -/
inductive Annotation.Tag where
  | orderField
  | graphqlType
  | relayConnection
  deriving DecidableEq, Repr

/-- Variants of an annotation by name. -/
def Annotation.tags : List (String × Annotation.Tag) :=
  [("order_field", .orderField), ("graphql_type", .graphqlType),
   ("relay_connection", .relayConnection)]

/-- What an annotation document is expected to be. -/
def Annotation.title : String := "adjacently tagged enum Annotation"

/-- Annotation of a variant and its payload. -/
def Annotation.ofPayload (payload : Json) : Annotation.Tag → Decoded Annotation
  | .orderField => (Codec.text.decode payload).map .orderField
  | .graphqlType => (Codec.text.decode payload).map .graphqlType
  | .relayConnection =>
      match payload with
      | .null => .ok .relayConnection
      | v => .error (.unexpected v "unit variant Annotation::RelayConnection")

/-- Annotation of a variant without payload. -/
def Annotation.ofTagAlone : Annotation.Tag → Decoded Annotation
  | .relayConnection => .ok .relayConnection
  | _ => .error (.missing "value")

/-- Reads an annotation. -/
def Annotation.decode : Json → Decoded Annotation
  | .object ms =>
      match ms.lookup "kind" with
      | none => .error (.missing "kind")
      | some tag => do
          let t ← decodeTag Annotation.tags tag
          match ms.lookup "value" with
          | some payload => Annotation.ofPayload payload t
          | none => Annotation.ofTagAlone t
  | .array vs =>
      match vs with
      | [] => .error (.wrongLength 0 Annotation.title)
      | tag :: rest => do
          let t ← decodeTag Annotation.tags tag
          match rest with
          | [] => .error (.wrongLength 1 Annotation.title)
          | payload :: _ => do
              let a ← Annotation.ofPayload payload t
              Surplus.refused.check 2 vs.length
              return a
  | v => .error (.unexpected v Annotation.title)

/-- Writes an annotation. -/
def Annotation.encode : Annotation → Json
  | .orderField key => .object [("kind", .text "order_field"), ("value", .text key)]
  | .graphqlType t => .object [("kind", .text "graphql_type"), ("value", .text t)]
  | .relayConnection => .object [("kind", .text "relay_connection")]

/-- Annotations. -/
def Annotation.codec : Codec Annotation := { encode := Annotation.encode, decode := Annotation.decode }

/-! ## §3. A tag among the members. -/

/-- Reads a value whose variant is named by the member `kind`, or by the
first item of an array; the other members or items make up the content. -/
def decodeTagged {τ α : Type} (title : String) (tags : List (String × τ))
    (content : Json → τ → Decoded α) : Json → Decoded α
  | .object ms =>
      match ms.lookup "kind" with
      | none => .error (.missing "kind")
      | some tag => do
          let t ← decodeTag tags tag
          content (.object ms) t
  | .array [] => .error (.missing "kind")
  | .array (tag :: rest) => do
      let t ← decodeTag tags tag
      content (.array rest) t
  | v => .error (.unexpected v title)

/-- Content of a variant without members. -/
def decodeNoMembers : Json → Decoded Unit
  | .array vs => Surplus.miscounted.check 0 vs.length
  | _ => .ok ()

/-- Members of a referencing direction. -/
def Direction.record : Record String where
  title := "struct variant EdgeDirection::Referencing"
  blank := ""
  members := [.of "ref_name" .required .text id fun a _ => a]

/-- Content of a direction: owning if the tag says so, else referencing. -/
def Direction.ofContent (content : Json) (owning : Bool) : Decoded Direction :=
  if owning then (decodeNoMembers content).map fun _ => .owning
  else (Direction.record.decode .miscounted content).map .referencing

/-- Directions. -/
def Direction.codec : Codec Direction where
  encode
    | .owning => .object [("kind", .text "owning")]
    | .referencing r => .object [("kind", .text "referencing"), ("ref_name", .text r)]
  decode := decodeTagged "internally tagged enum EdgeDirection"
    [("owning", true), ("referencing", false)] Direction.ofContent

/-- Variants of an entity annotation. -/
inductive EntityAnnotation.Tag where
  | queryField
  | relayConnection
  | mutations
  deriving DecidableEq, Repr

/-- Members of the mutations annotation. -/
def EntityAnnotation.mutationsRecord : Record (Bool × Bool) where
  title := "struct variant EntityAnnotation::Mutations"
  blank := (false, false)
  members := [
    .of "create" .required .bool (·.1) fun a s => (a, s.2),
    .of "update" .required .bool (·.2) fun a s => (s.1, a)]

/-- Content of an entity annotation. -/
def EntityAnnotation.ofContent (content : Json) : EntityAnnotation.Tag → Decoded EntityAnnotation
  | .queryField => (decodeNoMembers content).map fun _ => .queryField
  | .relayConnection => (decodeNoMembers content).map fun _ => .relayConnection
  | .mutations =>
      Except.map (fun p => .mutations p.1 p.2)
        ( EntityAnnotation.mutationsRecord.decode .miscounted content)

/-- Entity annotations. -/
def EntityAnnotation.codec : Codec EntityAnnotation where
  encode
    | .queryField => .object [("kind", .text "query_field")]
    | .relayConnection => .object [("kind", .text "relay_connection")]
    | .mutations c u =>
        .object [("kind", .text "mutations"), ("create", .bool c), ("update", .bool u)]
  decode := decodeTagged "internally tagged enum EntityAnnotation"
    [("query_field", .queryField), ("relay_connection", .relayConnection),
     ("mutations", .mutations)] EntityAnnotation.ofContent

/-! ## §4. Attributes, edges and entities. -/

/-- Texts that may be null. -/
def Codec.optionalText : Codec (Option String) := .option .text

/-- Attributes. -/
def Attribute.record : Record Attribute where
  title := "struct FieldDef"
  blank := {
    name := "", declaredName := "", storageKind := .uuid, isIdentity := false, goType := none,
    defaultExpr := none, defaultFuncExpr := none, optional := false, nillable := false,
    immutable := false, unique := false, comment := none, storageKey := none,
    structTag := none, sensitive := false, enumValues := [], enumTypeName := none,
    annotations := [] }
  members := [
    .of "name" .required .text (·.name) fun a s => { s with name := a },
    .of "declared_name" .required .text (·.declaredName) fun a s => { s with declaredName := a },
    .of "storage_kind" .required StorageKind.codec (·.storageKind)
      fun a s => { s with storageKind := a },
    .of "is_identity" .required .bool (·.isIdentity) fun a s => { s with isIdentity := a },
    .of "go_type" .null .optionalText (·.goType) fun a s => { s with goType := a },
    .of "default_expr" .null .optionalText (·.defaultExpr) fun a s => { s with defaultExpr := a },
    .of "default_func_expr" .null .optionalText (·.defaultFuncExpr)
      fun a s => { s with defaultFuncExpr := a },
    .of "optional" .required .bool (·.optional) fun a s => { s with optional := a },
    .of "nillable" .required .bool (·.nillable) fun a s => { s with nillable := a },
    .of "immutable" .required .bool (·.immutable) fun a s => { s with immutable := a },
    .of "unique" .required .bool (·.unique) fun a s => { s with unique := a },
    .of "comment" .null .optionalText (·.comment) fun a s => { s with comment := a },
    .of "storage_key" .null .optionalText (·.storageKey) fun a s => { s with storageKey := a },
    .of "struct_tag" .null .optionalText (·.structTag) fun a s => { s with structTag := a },
    .of "sensitive" .required .bool (·.sensitive) fun a s => { s with sensitive := a },
    .of "enum_values" .required (.list .text) (·.enumValues)
      fun a s => { s with enumValues := a },
    .of "enum_type_name" .null .optionalText (·.enumTypeName)
      fun a s => { s with enumTypeName := a },
    .of "annotations" .required (.list Annotation.codec) (·.annotations)
      fun a s => { s with annotations := a }]

/-- Edges. -/
def Edge.record : Record Edge where
  title := "struct EdgeDef"
  blank := {
    name := "", declaredName := "", owner := "", target := "", direction := .owning,
    bidirectional := false, counterpart := "", cardinality := .oneToOne, unique := false,
    required := false, immutable := false, bindField := none, storageKey := none,
    structTag := none, comment := none, annotations := [] }
  members := [
    .of "name" .required .text (·.name) fun a s => { s with name := a },
    .of "declared_name" .required .text (·.declaredName) fun a s => { s with declaredName := a },
    .of "owner" .required .text (·.owner) fun a s => { s with owner := a },
    .of "target" .required .text (·.target) fun a s => { s with target := a },
    .of "direction" .required Direction.codec (·.direction) fun a s => { s with direction := a },
    .of "bidirectional" .required .bool (·.bidirectional)
      fun a s => { s with bidirectional := a },
    .of "counterpart" .required .text (·.counterpart) fun a s => { s with counterpart := a },
    .of "cardinality" .required Cardinality.codec (·.cardinality)
      fun a s => { s with cardinality := a },
    .of "unique" .required .bool (·.unique) fun a s => { s with unique := a },
    .of "required" .required .bool (·.required) fun a s => { s with required := a },
    .of "immutable" .required .bool (·.immutable) fun a s => { s with immutable := a },
    .of "bind_field" .null .optionalText (·.bindField) fun a s => { s with bindField := a },
    .of "storage_key" .null (.option StorageKey.record.codec) (·.storageKey)
      fun a s => { s with storageKey := a },
    .of "struct_tag" .null .optionalText (·.structTag) fun a s => { s with structTag := a },
    .of "comment" .null .optionalText (·.comment) fun a s => { s with comment := a },
    .of "annotations" .required (.list Annotation.codec) (·.annotations)
      fun a s => { s with annotations := a }]

/-- Entities. -/
def Entity.record : Record Entity where
  title := "struct SchemaObject"
  blank := {
    name := "", pluralName := "", schemaFileName := "", graphqlSchemaFileName := "",
    attributes := [], edges := [], annotations := [], graphqlTypes := NameSet.empty }
  members := [
    .of "name" .required .text (·.name) fun a s => { s with name := a },
    .of "plural_name" .required .text (·.pluralName) fun a s => { s with pluralName := a },
    .of "schema_file_name" .required .text (·.schemaFileName)
      fun a s => { s with schemaFileName := a },
    .of "graphql_schema_file_name" .required .text (·.graphqlSchemaFileName)
      fun a s => { s with graphqlSchemaFileName := a },
    .of "fields" .required (.list Attribute.record.codec) (·.attributes)
      fun a s => { s with attributes := a },
    .of "edges" .required (.list Edge.record.codec) (·.edges) fun a s => { s with edges := a },
    .of "annotations" .required (.list EntityAnnotation.codec) (·.annotations)
      fun a s => { s with annotations := a },
    .of "graphql_types" .required NameSet.codec (·.graphqlTypes)
      fun a s => { s with graphqlTypes := a }]

/-- Documents. -/
def SchemaDocument.record : Record SchemaDocument where
  title := "struct IrDocument"
  blank := ⟨"", []⟩
  members := [
    .of "ir_version" .required .text (·.irVersion) fun a s => { s with irVersion := a },
    .of "entities" .required (.list Entity.record.codec) (·.entities)
      fun a s => { s with entities := a }]

end EntitySchema
