/-
  EntitySchema.Proofs.Descriptor.Omission
  ────────────────────────────────
  **WHAT A DESCRIPTOR DOCUMENT MAY LEAVE OUT.**

  Four members must be there: the entities of a set, the name of a message,
  and the name and kind of a field.  All others have a default, that of an
  object being the object of its members' defaults:

      {"entities": [{"name": "Post", "fields": [{"name": "id", "kind": "string"}]}]}

  Leaving a default out changes nothing, at any depth, and neither do members
  of other names.

  Main result: `descriptorSet_reads_eased`.
-/
import EntitySchema.Descriptor.Format
import EntitySchema.Proofs.Json.Omission

namespace EntitySchema

open Json (Shape Eased)
open Json.Shape (needed omissible defaults)
open Codec (text_tolerates bool_tolerates texts_tolerates optionText_tolerates)

/-! ## §1. Members and their defaults. -/

/-- Members of storage overrides. -/
def StorageKey.shapes : List (String × Option Json × Shape) :=
  [omissible "table" (.text "") .leaf,
   omissible "columns" (.array []) (.list .leaf),
   omissible "column" (.text "") .leaf,
   omissible "symbols" (.array []) (.list .leaf),
   omissible "symbol" (.text "") .leaf]

/-- Members of edge overrides. -/
def EdgeOptions.shapes : List (String × Option Json × Shape) :=
  [omissible "ref" (.text "") .leaf,
   omissible "required" (.bool false) .leaf,
   omissible "immutable" (.bool false) .leaf,
   omissible "storage_key" .null (.nullable (.record StorageKey.shapes)),
   omissible "struct_tag" (.text "") .leaf,
   omissible "comment" (.text "") .leaf,
   omissible "bind_field" (.bool false) .leaf,
   omissible "bind_field_name" .null (.nullable .leaf)]

/-- Members of field overrides. -/
def FieldOptions.shapes : List (String × Option Json × Shape) :=
  [omissible "ignore" (.bool false) .leaf,
   omissible "default" (.text "") .leaf,
   omissible "default_func" (.text "") .leaf,
   omissible "nillable" (.bool false) .leaf,
   omissible "immutable" (.bool false) .leaf,
   omissible "unique" (.bool false) .leaf,
   omissible "comment" (.text "") .leaf,
   omissible "storage_key" (.text "") .leaf,
   omissible "struct_tag" (.text "") .leaf,
   omissible "sensitive" (.bool false) .leaf,
   omissible "go_type" (.text "") .leaf,
   omissible "graphql_type" (.text "") .leaf,
   omissible "include_unspecified_enum" (.bool false) .leaf,
   omissible "edge" (defaults EdgeOptions.shapes) (.record EdgeOptions.shapes)]

/-- Members of a field. -/
def FieldDescriptor.shapes : List (String × Option Json × Shape) :=
  [needed "name" .leaf,
   needed "kind" .leaf,
   omissible "repeated" (.bool false) .leaf,
   omissible "optional" (.bool false) .leaf,
   omissible "type_name" .null (.nullable .leaf),
   omissible "enum_values" (.array []) (.list .leaf),
   omissible "options" (defaults FieldOptions.shapes) (.record FieldOptions.shapes)]

/-- Members of message options. -/
def MessageDescriptor.optionsShapes : List (String × Option Json × Shape) :=
  [omissible "generate" (.bool false) .leaf]

/-- Members of a message. -/
def MessageDescriptor.shapes : List (String × Option Json × Shape) :=
  [needed "name" .leaf,
   omissible "options" (defaults MessageDescriptor.optionsShapes)
    (.record MessageDescriptor.optionsShapes),
   omissible "fields" (.array []) (.list (.record FieldDescriptor.shapes))]

/-- Members of a descriptor set. -/
def DescriptorSet.shapes : List (String × Option Json × Shape) :=
  [needed "entities" (.list (.record MessageDescriptor.shapes))]

/-! ## §2. Records. -/

theorem FieldKind.codec_tolerates : FieldKind.codec.Tolerates .leaf := by
  refine .of_leaf fun k => ?_
  cases k <;> rfl

theorem StorageKey.codec_tolerates :
    StorageKey.record.codec.Tolerates (.record StorageKey.shapes) :=
  Record.tolerates (by decide) fun _ =>
    .omissible text_tolerates "" rfl nofun rfl <|
    .omissible texts_tolerates [] rfl nofun rfl <|
    .omissible text_tolerates "" rfl nofun rfl <|
    .omissible texts_tolerates [] rfl nofun rfl <|
    .omissible text_tolerates "" rfl nofun rfl .nil

theorem EdgeOptions.codec_tolerates :
    EdgeOptions.record.codec.Tolerates (.record EdgeOptions.shapes) :=
  Record.tolerates (by decide) fun _ =>
    .omissible text_tolerates "" rfl nofun rfl <|
    .omissible bool_tolerates false rfl nofun rfl <|
    .omissible bool_tolerates false rfl nofun rfl <|
    .omissible (StorageKey.codec_tolerates.option fun _ => nofun) none rfl nofun rfl <|
    .omissible text_tolerates "" rfl nofun rfl <|
    .omissible text_tolerates "" rfl nofun rfl <|
    .omissible bool_tolerates false rfl nofun rfl <|
    .omissible optionText_tolerates none rfl nofun rfl .nil

theorem FieldOptions.codec_tolerates :
    FieldOptions.record.codec.Tolerates (.record FieldOptions.shapes) :=
  Record.tolerates (by decide) fun _ =>
    .omissible bool_tolerates false rfl nofun rfl <|
    .omissible text_tolerates "" rfl nofun rfl <|
    .omissible text_tolerates "" rfl nofun rfl <|
    .omissible bool_tolerates false rfl nofun rfl <|
    .omissible bool_tolerates false rfl nofun rfl <|
    .omissible bool_tolerates false rfl nofun rfl <|
    .omissible text_tolerates "" rfl nofun rfl <|
    .omissible text_tolerates "" rfl nofun rfl <|
    .omissible text_tolerates "" rfl nofun rfl <|
    .omissible bool_tolerates false rfl nofun rfl <|
    .omissible text_tolerates "" rfl nofun rfl <|
    .omissible text_tolerates "" rfl nofun rfl <|
    .omissible bool_tolerates false rfl nofun rfl <|
    .omissible EdgeOptions.codec_tolerates {} rfl nofun rfl .nil

theorem FieldDescriptor.codec_tolerates :
    FieldDescriptor.record.codec.Tolerates (.record FieldDescriptor.shapes) :=
  Record.tolerates (by decide) fun _ =>
    .needed text_tolerates <|
    .needed FieldKind.codec_tolerates <|
    .omissible bool_tolerates false rfl nofun rfl <|
    .omissible bool_tolerates false rfl nofun rfl <|
    .omissible optionText_tolerates none rfl nofun rfl <|
    .omissible texts_tolerates [] rfl nofun rfl <|
    .omissible FieldOptions.codec_tolerates {} rfl nofun rfl .nil

theorem MessageDescriptor.optionsCodec_tolerates :
    MessageDescriptor.optionsRecord.codec.Tolerates (.record MessageDescriptor.optionsShapes) :=
  Record.tolerates (by decide) fun _ => .omissible bool_tolerates false rfl nofun rfl .nil

theorem MessageDescriptor.codec_tolerates :
    MessageDescriptor.record.codec.Tolerates (.record MessageDescriptor.shapes) :=
  Record.tolerates (by decide) fun _ =>
    .needed text_tolerates <|
    .omissible MessageDescriptor.optionsCodec_tolerates false rfl nofun rfl <|
    .omissible FieldDescriptor.codec_tolerates.list [] rfl nofun rfl .nil

theorem DescriptorSet.codec_tolerates :
    DescriptorSet.record.codec.Tolerates (.record DescriptorSet.shapes) :=
  Record.tolerates (by decide) fun _ => .needed MessageDescriptor.codec_tolerates.list .nil

/-! ## §3. Descriptor sets. -/

/-- **A DESCRIPTOR SET READS BACK**, as it was written and with defaults left
out and other members added anywhere. -/
theorem descriptorSet_reads_eased (s : DescriptorSet) :
    DescriptorSet.record.codec.decode (DescriptorSet.record.codec.encode s) = .ok s
      ∧ ∀ w, Eased (.record DescriptorSet.shapes) (DescriptorSet.record.codec.encode s) w →
        DescriptorSet.record.codec.decode w = .ok s :=
  ⟨DescriptorSet.codec_tolerates.decode_encode s, DescriptorSet.codec_tolerates s⟩

/-- A post with a tag, whose edge says where it is stored. -/
def storedTag : DescriptorSet :=
  ⟨[{ name := "Post",
      fields := [
        { name := "tag", kind := .message, typeName := some "Tag",
          options := { edge := { refName := "post", storageKey := some { table := "tags" } } } }] }]⟩

/-- That post in few words, with remarks in between. -/
def terseTag : Json :=
  .object [("version", .int 2), ("entities", .array [.object [
    ("fields", .array [.object [("kind", .text "message"), ("name", .text "tag"),
      ("type_name", .text "Tag"),
      ("options", .object [("color", .text "red"), ("edge", .object [("ref", .text "post"),
        ("storage_key", .object [("table", .text "tags"), ("engine", .array [])])])])]]),
    ("name", .text "Post")]])]

/-- Members with their defaults are left out on every level, and the post still
reads back. -/
theorem storedTag_reads_terse : DescriptorSet.record.codec.decode terseTag = .ok storedTag := by
  have hkey : Eased (.record StorageKey.shapes) (StorageKey.record.codec.encode { table := "tags" })
      (.object [("table", .text "tags"), ("engine", .array [])]) := by
    refine .record ?_
    simp only [StorageKey.shapes, List.forall_mem_cons]
    exact ⟨.kept (.unchanged _), .left, .left, .left, .left, List.forall_mem_nil _⟩
  have hedge : Eased (.record EdgeOptions.shapes)
      (EdgeOptions.record.codec.encode
        { refName := "post", storageKey := some { table := "tags" } })
      (.object [("ref", .text "post"),
        ("storage_key", .object [("table", .text "tags"), ("engine", .array [])])]) := by
    refine .record ?_
    simp only [EdgeOptions.shapes, List.forall_mem_cons]
    exact ⟨.kept (.unchanged _), .left, .left, .kept (.nullable hkey), .left, .left, .left, .left,
      List.forall_mem_nil _⟩
  have hoptions : Eased (.record FieldOptions.shapes)
      (FieldOptions.record.codec.encode
        { edge := { refName := "post", storageKey := some { table := "tags" } } })
      (.object [("color", .text "red"), ("edge", .object [("ref", .text "post"),
        ("storage_key", .object [("table", .text "tags"), ("engine", .array [])])])]) := by
    refine .record ?_
    simp only [FieldOptions.shapes, List.forall_mem_cons]
    exact ⟨.left, .left, .left, .left, .left, .left, .left, .left, .left, .left, .left, .left,
      .left, .kept hedge, List.forall_mem_nil _⟩
  refine (descriptorSet_reads_eased storedTag).2 terseTag (.record ?_)
  refine List.forall_mem_singleton.2 (.kept (.cons (.record ?_) .nil))
  simp only [MessageDescriptor.shapes, List.forall_mem_cons]
  refine ⟨.kept (.unchanged _), .left, .kept (.cons (.record ?_) .nil), List.forall_mem_nil _⟩
  simp only [FieldDescriptor.shapes, List.forall_mem_cons]
  exact ⟨.kept (.unchanged _), .kept (.unchanged _), .left, .left, .kept (.unchanged _), .left,
    .kept hoptions, List.forall_mem_nil _⟩

end EntitySchema
