/-
  EntitySchema.Contract.DescriptorSchema
  ────────────────────────────────
  **THE SCHEMA OF DESCRIPTOR DOCUMENTS.**

  What a front end may rely on, written down as a schema.  Properties stand
  in the order of their names; every one that has a default may be left
  out.
-/
import EntitySchema.Contract.Validation
import EntitySchema.Descriptor.Format

namespace EntitySchema

namespace Contract

/-! ## §1. Properties with a default. -/

/-- Description of a property, if there is one. -/
def describe (text : String) : Option String := if text.isEmpty then none else some text

/-- Text, empty by default. -/
def text (description : String) : Schema :=
  .noted ⟨describe description, some (.text "")⟩ (.scalar [.string])

/-- Text or null, null by default. -/
def textOrNull (description : String) : Schema :=
  .noted ⟨describe description, some .null⟩ (.scalar [.string, .null])

/-- Truth value, false by default. -/
def flag (description : String) : Schema :=
  .noted ⟨describe description, some (.bool false)⟩ (.scalar [.boolean])

/-- List of texts, empty by default. -/
def texts (description : String) : Schema :=
  .noted ⟨describe description, some (.array [])⟩ (.list (.scalar [.string]))

/-- Record with a description. -/
def described (description : String) (properties : List (String × Schema))
    (required : List String) : Schema :=
  .noted ⟨describe description, none⟩ (.record properties required)

/-- Named schema with a default, which makes it a conjunction. -/
def withDefault (default : Json) (s : Schema) : Schema :=
  .noted ⟨none, some default⟩ (.conjunction s)

/-! ## §2. Definitions. -/

/-- Wire kinds. -/
def fieldKind : Schema :=
  .named "FieldKind" (.noted ⟨some "Wire kind of a declared field.", none⟩
    (.choice (FieldKind.all.map (·.name))))

/-- Storage overrides. -/
def storageKey : Schema :=
  .named "EdgeStorageKey" (described "Physical storage override for an edge."
    [("column", text ""),
     ("columns", texts ""),
     ("symbol", text ""),
     ("symbols", texts ""),
     ("table", text "")] [])

/-- Edge overrides. -/
def edgeOptions : Schema :=
  .named "EdgeOptions" (described "Edge-specific overrides for message-typed fields."
    [("bind_field", flag "Bind the edge to a scalar foreign-key field."),
     ("bind_field_name",
       textOrNull "Overrides the default `<edge>_id` bind field name; implies `bind_field`."),
     ("comment", text ""),
     ("immutable", flag ""),
     ("ref", text "Name of the counterpart field on the target entity."),
     ("required", flag ""),
     ("storage_key", .noted ⟨none, some .null⟩ (.nullable storageKey)),
     ("struct_tag", text "")] [])

/-- What the schema says about field overrides. -/
def fieldOptionsText : String :=
  "Explicit overrides attached to a field.\n\nThe compiler copies these through verbatim; it "
    ++ "never interprets the content of expressions such as `default` or `struct_tag`."

/-- Field overrides. -/
def fieldOptions : Schema :=
  .named "FieldOptions" (described fieldOptionsText
    [("comment", text ""),
     ("default", text ""),
     ("default_func", text ""),
     ("edge", withDefault (EdgeOptions.record.encode {}).inOrder edgeOptions),
     ("go_type", text ""),
     ("graphql_type",
       text "Explicit API type, wins over the derived unsigned-integer override."),
     ("ignore", flag ""),
     ("immutable", flag ""),
     ("include_unspecified_enum", flag "Keep enum literals carrying the unspecified marker."),
     ("nillable", flag ""),
     ("sensitive", flag ""),
     ("storage_key", text ""),
     ("struct_tag", text ""),
     ("unique", flag "")] [])

/-- Fields. -/
def field : Schema :=
  .named "FieldDescriptor" (described "A single declared field."
    [("enum_values", texts "Declared enum literals, in declaration order."),
     ("kind", fieldKind),
     ("name", .scalar [.string]),
     ("optional", flag "Explicit-presence marker (`optional` keyword) on the source field."),
     ("options", withDefault (FieldOptions.record.encode {}).inOrder fieldOptions),
     ("repeated", flag ""),
     ("type_name", textOrNull "Full name of the referenced message or enum type.")]
    ["kind", "name"])

/-- Message options. -/
def messageOptions : Schema :=
  .named "MessageOptions" (described "Per-message generation options."
    [("generate", flag "Opt-in flag: only messages with `generate` set become entities.")] [])

/-- Messages. -/
def message : Schema :=
  .named "MessageDescriptor" (described "A message-like record supplied by the front end."
    [("fields", .noted ⟨none, some (.array [])⟩ (.list field)),
     ("name", .scalar [.string]),
     ("options",
       withDefault (MessageDescriptor.optionsRecord.encode false).inOrder messageOptions)]
    ["name"])

/-- What the schema says about descriptor sets. -/
def setText : String :=
  "Descriptor set handed over by the IDL front end.\n\nThe compiler only ever borrows this "
    ++ "tree; everything it produces owns its own copies of the attributes it needs."

/-- Descriptor sets. -/
def descriptorSet : Schema :=
  described setText
    [("entities", .noted ⟨some "Entities in declaration order.", none⟩ (.list message))]
    ["entities"]

end Contract

/-! ## §3. The document. -/

/-- Written form of the schema of descriptor documents. -/
def descriptorSchema : Json := Contract.descriptorSet.document "DescriptorSet"

/-- Violations by a descriptor document. -/
def descriptorViolations (document : Json) : List Violation :=
  Contract.descriptorSet.violations document

end EntitySchema
