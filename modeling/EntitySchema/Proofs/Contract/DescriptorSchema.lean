/-
  EntitySchema.Proofs.Contract.DescriptorSchema
  ────────────────────────────────
  **THE SCHEMA OF DESCRIPTOR DOCUMENTS AND THEIR DECODER AGREE.**

  A front end relies on the schema, the program on its decoder.  Which
  documents are written plainly is said record by record, naming the members
  that hold records or kinds again:

      set  entities  message  options
                              fields  field  kind
                                             options  edge  storage_key

  So a document that has passed the check decodes.

  Main result: `validated_iff_decoded`.
-/
import EntitySchema.Proofs.Contract.Agreement
import EntitySchema.Proofs.Run.Product

namespace EntitySchema

open Json (IsText ObjectWith EachItem IfAny)

/-! ## §1. Documents written plainly. -/

/-- Storage overrides: an object. -/
def StorageKey.PlainlyWritten : Json → Prop := ObjectWith []

/-- Edge overrides: an object, and in it the storage overrides if any. -/
def EdgeOptions.PlainlyWritten : Json → Prop :=
  ObjectWith [("storage_key", IfAny StorageKey.PlainlyWritten)]

/-- Field overrides: an object, and in it the edge overrides. -/
def FieldOptions.PlainlyWritten : Json → Prop :=
  ObjectWith [("edge", EdgeOptions.PlainlyWritten)]

/-- A field: an object, its kind a text, and in it the field overrides. -/
def FieldDescriptor.PlainlyWritten : Json → Prop :=
  ObjectWith [("kind", IsText), ("options", FieldOptions.PlainlyWritten)]

/-- Message options: an object. -/
def MessageDescriptor.OptionsPlainlyWritten : Json → Prop := ObjectWith []

/-- A message: an object, and in it the options and the fields. -/
def MessageDescriptor.PlainlyWritten : Json → Prop :=
  ObjectWith [
    ("options", MessageDescriptor.OptionsPlainlyWritten),
    ("fields", EachItem FieldDescriptor.PlainlyWritten)]

/-- A descriptor set: an object, and in it the messages. -/
def DescriptorSet.PlainlyWritten : Json → Prop :=
  ObjectWith [("entities", EachItem MessageDescriptor.PlainlyWritten)]

/-! ## §2. Members with a default. -/

open Codec (Anyhow text_agreesWith bool_agreesWith optionText_agreesWith)
open Contract (flag texts textOrNull)
open Member (agreesWith_of agreesWith_of_part)

theorem text_agreesWith_noted (description : String) :
    Codec.text.AgreesWith (Contract.text description) Anyhow := text_agreesWith.noted _

theorem flag_agreesWith (description : String) :
    Codec.bool.AgreesWith (flag description) Anyhow := bool_agreesWith.noted _

theorem textOrNull_agreesWith (description : String) :
    (Codec.option .text).AgreesWith (textOrNull description) Anyhow := optionText_agreesWith.noted _

theorem texts_agreesWith (description : String) :
    (Codec.list .text).AgreesWith (texts description) Anyhow := text_agreesWith.list_anyhow.noted _

/-! ## §3. Records. -/

theorem fieldKind_agreesWith : FieldKind.codec.AgreesWith Contract.fieldKind IsText :=
  (Codec.variant_agreesWith.noted _).named _

theorem storageKey_agreesWith :
    StorageKey.record.codec.AgreesWith Contract.storageKey StorageKey.PlainlyWritten := by
  refine (Record.DescribedBy.agreesWith { members := ?_ } |>.noted _).named _
  simp only [StorageKey.record, List.forall_mem_cons]
  exact ⟨agreesWith_of (text_agreesWith_noted _) rfl rfl,
    agreesWith_of (texts_agreesWith _) rfl rfl,
    agreesWith_of (text_agreesWith_noted _) rfl rfl,
    agreesWith_of (texts_agreesWith _) rfl rfl,
    agreesWith_of (text_agreesWith_noted _) rfl rfl, List.forall_mem_nil _⟩

theorem edgeOptions_agreesWith :
    EdgeOptions.record.codec.AgreesWith Contract.edgeOptions EdgeOptions.PlainlyWritten := by
  refine (Record.DescribedBy.agreesWith { members := ?_ } |>.noted _).named _
  simp only [EdgeOptions.record, List.forall_mem_cons]
  exact ⟨agreesWith_of (text_agreesWith_noted _) rfl rfl,
    agreesWith_of (flag_agreesWith _) rfl rfl,
    agreesWith_of (flag_agreesWith _) rfl rfl,
    agreesWith_of_part (.noted (.option storageKey_agreesWith) _) rfl rfl,
    agreesWith_of (text_agreesWith_noted _) rfl rfl,
    agreesWith_of (text_agreesWith_noted _) rfl rfl,
    agreesWith_of (flag_agreesWith _) rfl rfl,
    agreesWith_of (textOrNull_agreesWith _) rfl rfl, List.forall_mem_nil _⟩

theorem fieldOptions_agreesWith :
    FieldOptions.record.codec.AgreesWith Contract.fieldOptions FieldOptions.PlainlyWritten := by
  refine (Record.DescribedBy.agreesWith { members := ?_ } |>.noted _).named _
  simp only [FieldOptions.record, List.forall_mem_cons]
  exact ⟨agreesWith_of (flag_agreesWith _) rfl rfl,
    agreesWith_of (text_agreesWith_noted _) rfl rfl,
    agreesWith_of (text_agreesWith_noted _) rfl rfl,
    agreesWith_of (flag_agreesWith _) rfl rfl,
    agreesWith_of (flag_agreesWith _) rfl rfl,
    agreesWith_of (flag_agreesWith _) rfl rfl,
    agreesWith_of (text_agreesWith_noted _) rfl rfl,
    agreesWith_of (text_agreesWith_noted _) rfl rfl,
    agreesWith_of (text_agreesWith_noted _) rfl rfl,
    agreesWith_of (flag_agreesWith _) rfl rfl,
    agreesWith_of (text_agreesWith_noted _) rfl rfl,
    agreesWith_of (text_agreesWith_noted _) rfl rfl,
    agreesWith_of (flag_agreesWith _) rfl rfl,
    agreesWith_of_part (.noted (.conjunction edgeOptions_agreesWith) _) rfl rfl,
    List.forall_mem_nil _⟩

theorem field_agreesWith :
    FieldDescriptor.record.codec.AgreesWith Contract.field FieldDescriptor.PlainlyWritten := by
  refine (Record.DescribedBy.agreesWith { members := ?_ } |>.noted _).named _
  simp only [FieldDescriptor.record, List.forall_mem_cons]
  exact ⟨agreesWith_of text_agreesWith rfl rfl,
    agreesWith_of_part fieldKind_agreesWith rfl rfl,
    agreesWith_of (flag_agreesWith _) rfl rfl,
    agreesWith_of (flag_agreesWith _) rfl rfl,
    agreesWith_of (textOrNull_agreesWith _) rfl rfl,
    agreesWith_of (texts_agreesWith _) rfl rfl,
    agreesWith_of_part (.noted (.conjunction fieldOptions_agreesWith) _) rfl rfl,
    List.forall_mem_nil _⟩

theorem messageOptions_agreesWith :
    MessageDescriptor.optionsRecord.codec.AgreesWith Contract.messageOptions
      MessageDescriptor.OptionsPlainlyWritten := by
  refine (Record.DescribedBy.agreesWith { members := ?_ } |>.noted _).named _
  simp only [MessageDescriptor.optionsRecord, List.forall_mem_cons]
  exact ⟨agreesWith_of (flag_agreesWith _) rfl rfl, List.forall_mem_nil _⟩

theorem message_agreesWith :
    MessageDescriptor.record.codec.AgreesWith Contract.message
      MessageDescriptor.PlainlyWritten := by
  refine (Record.DescribedBy.agreesWith { members := ?_ } |>.noted _).named _
  simp only [MessageDescriptor.record, List.forall_mem_cons]
  exact ⟨agreesWith_of text_agreesWith rfl rfl,
    agreesWith_of_part (.noted (.conjunction messageOptions_agreesWith) _) rfl rfl,
    agreesWith_of_part (.noted (.list field_agreesWith) _) rfl rfl, List.forall_mem_nil _⟩

theorem descriptorSet_agreesWith :
    DescriptorSet.record.codec.AgreesWith Contract.descriptorSet
      DescriptorSet.PlainlyWritten := by
  refine Record.DescribedBy.agreesWith { members := ?_ } |>.noted _
  simp only [DescriptorSet.record, List.forall_mem_cons]
  exact ⟨agreesWith_of_part (.noted (.list message_agreesWith) _) rfl rfl, List.forall_mem_nil _⟩

/-! ## §4. Documents. -/

theorem descriptorViolations_eq_nil_iff {d : Json} :
    descriptorViolations d = []
      ↔ (∃ set, DescriptorSet.record.codec.decode d = .ok set) ∧ DescriptorSet.PlainlyWritten d :=
  (Schema.violationsAt_eq_nil_iff [] Contract.descriptorSet d).trans (descriptorSet_agreesWith d)

theorem exists_decode_of_checked {d d' : Json} (h : (checkDocument d).result = .ok d') :
    ∃ set, DescriptorSet.record.codec.decode d' = .ok set := by
  obtain ⟨hd, rfl⟩ := checkDocument_eq_ok_iff.1 h
  exact (descriptorViolations_eq_nil_iff.1 hd).1

/-- No run fails for a value that does not decode. -/
theorem ofInput_ne_value (s : Settings) (modelOnly : Bool) (text : String) (e : DecodeError) :
    (Product.ofInput s modelOnly text).result ≠ .error (.json (.value e)) := by
  unfold Product.ofInput
  simp only [ne_eq, Reported.andThen_eq_error_iff, not_or, not_exists, not_and]
  refine ⟨?_, fun d _ => ⟨?_, fun d' hd' => ⟨?_, fun set _ => ⟨?_, fun es _ => ⟨?_, ?_⟩⟩⟩⟩⟩
  · unfold readDocument Reported.silent
    cases Json.read? text <;> simp
  · unfold checkDocument
    cases descriptorViolations d <;> simp
  · -- the document has been checked
    obtain ⟨set, hset⟩ := exists_decode_of_checked hd'
    rw [decodeDocument_eq_ok_iff.2 hset]
    simp
  · unfold compileReported
    cases compile s.compile set <;> simp [Except.mapError]
  · unfold bundleReported Reported.silent
    cases modelOnly <;> cases Source.bundle s.emit es <;> simp
  · intro files _
    simp [Reported.silent]

/-- **THE SCHEMA AND THE DECODER AGREE**: a document violates its schema
nowhere iff it decodes and is written plainly.  A document that has been
checked decodes, so no run fails in between. -/
theorem validated_iff_decoded :
    (∀ d, descriptorViolations d = []
        ↔ (∃ set, DescriptorSet.record.codec.decode d = .ok set)
          ∧ DescriptorSet.PlainlyWritten d)
      ∧ (∀ d d', (checkDocument d).result = .ok d' → ∃ set, (decodeDocument d').result = .ok set)
      ∧ ∀ (s : Settings) (modelOnly : Bool) (text : String) (e : DecodeError),
        (Product.ofInput s modelOnly text).result ≠ .error (.json (.value e)) := by
  refine ⟨fun d => descriptorViolations_eq_nil_iff, fun d d' hd => ?_, ofInput_ne_value⟩
  obtain ⟨set, hset⟩ := exists_decode_of_checked hd
  exact ⟨set, decodeDocument_eq_ok_iff.2 hset⟩

/-- A field with its overrides, written plainly. -/
def plainField : Json :=
  .object [("kind", .text "message"), ("name", .text "author"), ("note", .int 1),
    ("options", .object [("edge", .object [("ref", .text "posts"), ("storage_key", .null)])]),
    ("type_name", .text "User")]

/-- Document of one message with a given field. -/
def documentOfField (field : Json) : Json :=
  .object [("entities", .array [.object [("name", .text "Post"), ("fields", .array [field])]])]

/-- A checked document decodes; the same field written as an array decodes
as well, but is not written plainly. -/
theorem plainField_validated :
    (checkDocument (documentOfField plainField)).result = .ok (documentOfField plainField)
      ∧ (∃ set, (decodeDocument (documentOfField plainField)).result = .ok set)
      ∧ (∃ set, DescriptorSet.record.codec.decode
          (documentOfField (.array [.text "author", .text "message"])) = .ok set)
      ∧ ¬ DescriptorSet.PlainlyWritten
          (documentOfField (.array [.text "author", .text "message"])) := by
  have hchecked : (checkDocument (documentOfField plainField)).result
      = .ok (documentOfField plainField) := rfl
  have hdecoded : ∃ set, DescriptorSet.record.codec.decode
      (documentOfField (.array [.text "author", .text "message"])) = .ok set := ⟨_, rfl⟩
  refine ⟨hchecked, validated_iff_decoded.2.1 _ _ hchecked, hdecoded, fun hplain => ?_⟩
  exact List.cons_ne_nil _ _ ((validated_iff_decoded.1 _).2 ⟨hdecoded, hplain⟩)

end EntitySchema
