/-
  EntitySchema.Descriptor.Format
  ────────────────────────────────
  **DESCRIPTOR DOCUMENTS.**

  How descriptors are written in JSON.  Only the entities of a set, the
  name of a message, and the name and kind of a field are required; every
  other member has the value of the blank record when it is absent.
-/
import EntitySchema.Descriptor.Basic
import EntitySchema.Json.Codec

namespace EntitySchema

/-- Wire kinds by name. -/
def FieldKind.codec : Codec FieldKind :=
  .variant (FieldKind.all.map fun k => (k.name, k)) FieldKind.name

/-- Storage overrides. -/
def StorageKey.record : Record StorageKey where
  title := "struct EdgeStorageKey"
  blank := {}
  members := [
    .of "table" .default .text (·.table) fun a s => { s with table := a },
    .of "columns" .default (.list .text) (·.columns) fun a s => { s with columns := a },
    .of "column" .default .text (·.column) fun a s => { s with column := a },
    .of "symbols" .default (.list .text) (·.symbols) fun a s => { s with symbols := a },
    .of "symbol" .default .text (·.symbol) fun a s => { s with symbol := a }]

/-- Edge overrides. -/
def EdgeOptions.record : Record EdgeOptions where
  title := "struct EdgeOptions"
  blank := {}
  members := [
    .of "ref" .default .text (·.refName) fun a s => { s with refName := a },
    .of "required" .default .bool (·.required) fun a s => { s with required := a },
    .of "immutable" .default .bool (·.immutable) fun a s => { s with immutable := a },
    .of "storage_key" .default (.option StorageKey.record.codec) (·.storageKey)
      fun a s => { s with storageKey := a },
    .of "struct_tag" .default .text (·.structTag) fun a s => { s with structTag := a },
    .of "comment" .default .text (·.comment) fun a s => { s with comment := a },
    .of "bind_field" .default .bool (·.bindField) fun a s => { s with bindField := a },
    .of "bind_field_name" .default (.option .text) (·.bindFieldName)
      fun a s => { s with bindFieldName := a }]

/-- Field overrides. -/
def FieldOptions.record : Record FieldOptions where
  title := "struct FieldOptions"
  blank := {}
  members := [
    .of "ignore" .default .bool (·.ignore) fun a s => { s with ignore := a },
    .of "default" .default .text (·.default) fun a s => { s with default := a },
    .of "default_func" .default .text (·.defaultFunc) fun a s => { s with defaultFunc := a },
    .of "nillable" .default .bool (·.nillable) fun a s => { s with nillable := a },
    .of "immutable" .default .bool (·.immutable) fun a s => { s with immutable := a },
    .of "unique" .default .bool (·.unique) fun a s => { s with unique := a },
    .of "comment" .default .text (·.comment) fun a s => { s with comment := a },
    .of "storage_key" .default .text (·.storageKey) fun a s => { s with storageKey := a },
    .of "struct_tag" .default .text (·.structTag) fun a s => { s with structTag := a },
    .of "sensitive" .default .bool (·.sensitive) fun a s => { s with sensitive := a },
    .of "go_type" .default .text (·.goType) fun a s => { s with goType := a },
    .of "graphql_type" .default .text (·.graphqlType) fun a s => { s with graphqlType := a },
    .of "include_unspecified_enum" .default .bool (·.includeUnspecifiedEnum)
      fun a s => { s with includeUnspecifiedEnum := a },
    .of "edge" .default EdgeOptions.record.codec (·.edge) fun a s => { s with edge := a }]

/-- Fields. -/
def FieldDescriptor.record : Record FieldDescriptor where
  title := "struct FieldDescriptor"
  blank := { name := "", kind := .double }
  members := [
    .of "name" .required .text (·.name) fun a s => { s with name := a },
    .of "kind" .required FieldKind.codec (·.kind) fun a s => { s with kind := a },
    .of "repeated" .default .bool (·.repeated) fun a s => { s with repeated := a },
    .of "optional" .default .bool (·.optional) fun a s => { s with optional := a },
    .of "type_name" .default (.option .text) (·.typeName) fun a s => { s with typeName := a },
    .of "enum_values" .default (.list .text) (·.enumValues)
      fun a s => { s with enumValues := a },
    .of "options" .default FieldOptions.record.codec (·.options)
      fun a s => { s with options := a }]

/-- Message options: the opt-in alone. -/
def MessageDescriptor.optionsRecord : Record Bool where
  title := "struct MessageOptions"
  blank := false
  members := [.of "generate" .default .bool id fun a _ => a]

/-- Messages. -/
def MessageDescriptor.record : Record MessageDescriptor where
  title := "struct MessageDescriptor"
  blank := { name := "" }
  members := [
    .of "name" .required .text (·.name) fun a s => { s with name := a },
    .of "options" .default MessageDescriptor.optionsRecord.codec (·.generate)
      fun a s => { s with generate := a },
    .of "fields" .default (.list FieldDescriptor.record.codec) (·.fields)
      fun a s => { s with fields := a }]

/-- Descriptor sets. -/
def DescriptorSet.record : Record DescriptorSet where
  title := "struct DescriptorSet"
  blank := ⟨[]⟩
  members := [
    .of "entities" .required (.list MessageDescriptor.record.codec) (·.entities)
      fun a _ => ⟨a⟩]

end EntitySchema
