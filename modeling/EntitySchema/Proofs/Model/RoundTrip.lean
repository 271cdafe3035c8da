/-
  EntitySchema.Proofs.Model.RoundTrip
  ────────────────────────────────
  **MODEL DOCUMENTS READ BACK.**

  Each type of the model writes itself so that it reads back, in whatever
  order the members of an object have come to stand.  What counts is the
  depth: a document has seven levels of containers, and the reader of texts
  allows for many more.

      document  entities  entity  fields  field  annotations  annotation
         {         [        {       [       {         [            {

  So the files generated from a model file are those generated from the
  model itself.

  Main result: `model_rereads`.
-/
import EntitySchema.Proofs.Json.WrittenText
import EntitySchema.Proofs.Run.Product

namespace EntitySchema

variable {room : Nat}

/-! ## §1. Members of an object. -/

namespace Json

theorem Same.text_eq {s : String} {v : Json} (h : (Json.text s).Same v) : v = .text s := by
  cases h
  rfl

theorem Same.bool_eq {b : Bool} {v : Json} (h : (Json.bool b).Same v) : v = .bool b := by
  cases h
  rfl

theorem object_same_iff {ms : List (String × Json)} {v : Json} :
    (Json.object ms).Same v
      ↔ ∃ ns, v = .object ns ∧ ∀ name, Option.Rel Same (ms.lookup name) (ns.lookup name) := by
  constructor
  · intro h
    cases h with
    | object members => exact ⟨_, rfl, members⟩
  · intro h
    obtain ⟨ns, rfl, members⟩ := h
    exact .object members

theorem eq_none_of_same {o : Option Json} (h : Option.Rel Same none o) : o = none := by
  cases h
  rfl

theorem eq_text_of_same {s : String} {o : Option Json} (h : Option.Rel Same (some (.text s)) o) :
    o = some (.text s) := by
  cases h with
  | some h => rw [h.text_eq]

theorem eq_bool_of_same {b : Bool} {o : Option Json} (h : Option.Rel Same (some (.bool b)) o) :
    o = some (.bool b) := by
  cases h with
  | some h => rw [h.bool_eq]

end Json

open Json (object_same_iff eq_none_of_same eq_text_of_same eq_bool_of_same)

/-! ## §2. Names and tagged values. -/

theorem StorageKind.codec_faithful : StorageKind.codec.Faithful room :=
  Codec.variant_faithful fun k => by cases k <;> rfl

theorem Cardinality.codec_faithful : Cardinality.codec.Faithful room :=
  Codec.variant_faithful fun c => by cases c <;> rfl

theorem NameSet.ofList_names (s : NameSet) : NameSet.ofList s.names = s :=
  NameSet.ext_mem fun _ => NameSet.mem_ofList

theorem NameSet.codec_faithful : NameSet.codec.Faithful (room + 1) :=
  Codec.text_faithful.list.map NameSet.ofList_names

theorem Codec.optionalText_faithful : Codec.optionalText.Faithful room :=
  Codec.text_faithful.option fun _ h => by cases h

theorem Annotation.codec_faithful : Annotation.codec.Faithful (room + 1) where
  plain a := by
    cases a with
    | orderField key => exact .object (by simp) (by simp [Json.Plain.text])
    | graphqlType t => exact .object (by simp) (by simp [Json.Plain.text])
    | relayConnection => exact .object (by simp) (by simp [Json.Plain.text])
  reads a v hv := by
    cases a with
    | orderField key =>
        obtain ⟨ns, rfl, hns⟩ := object_same_iff.1 hv
        have hkind : ns.lookup "kind" = some (.text "order_field") := eq_text_of_same (hns "kind")
        have hvalue : ns.lookup "value" = some (.text key) := eq_text_of_same (hns "value")
        simp only [codec, decode, hkind, hvalue]
        rfl
    | graphqlType t =>
        obtain ⟨ns, rfl, hns⟩ := object_same_iff.1 hv
        have hkind : ns.lookup "kind" = some (.text "graphql_type") := eq_text_of_same (hns "kind")
        have hvalue : ns.lookup "value" = some (.text t) := eq_text_of_same (hns "value")
        simp only [codec, decode, hkind, hvalue]
        rfl
    | relayConnection =>
        obtain ⟨ns, rfl, hns⟩ := object_same_iff.1 hv
        have hkind : ns.lookup "kind" = some (.text "relay_connection") :=
          eq_text_of_same (hns "kind")
        have hvalue : ns.lookup "value" = none := eq_none_of_same (hns "value")
        simp only [codec, decode, hkind, hvalue]
        rfl

theorem Direction.record_faithful : Direction.record.Faithful room where
  distinct := by decide
  members s := ⟨_, .cons (Member.writes_of Codec.text_faithful s) .nil, rfl⟩

theorem Direction.codec_faithful : Direction.codec.Faithful (room + 1) where
  plain d := by
    cases d with
    | owning => exact .object (by simp) (by simp [Json.Plain.text])
    | referencing r => exact .object (by simp) (by simp [Json.Plain.text])
  reads d v hv := by
    cases d with
    | owning =>
        obtain ⟨ns, rfl, hns⟩ := object_same_iff.1 hv
        have hkind : ns.lookup "kind" = some (.text "owning") := eq_text_of_same (hns "kind")
        simp only [codec, decodeTagged, hkind]
        rfl
    | referencing r =>
        obtain ⟨ns, rfl, hns⟩ := object_same_iff.1 hv
        have hkind : ns.lookup "kind" = some (.text "referencing") := eq_text_of_same (hns "kind")
        have hname : ns.lookup "ref_name" = some (.text r) := eq_text_of_same (hns "ref_name")
        have hrecord : record.decodeObject ns = .ok r := by
          have hfaithful : record.Faithful 0 := record_faithful
          refine hfaithful.decodeObject_eq fun m hm => ?_
          rw [List.mem_singleton.1 hm]
          exact ⟨_, hname, .text r⟩
        simp only [codec, decodeTagged, hkind]
        show (record.decodeObject ns).map referencing = .ok (referencing r)
        rw [hrecord]
        rfl

theorem EntityAnnotation.mutationsRecord_faithful : mutationsRecord.Faithful room where
  distinct := by decide
  members s :=
    ⟨_, .cons (Member.writes_of Codec.bool_faithful s)
      (.cons (Member.writes_of Codec.bool_faithful s) .nil), rfl⟩

theorem EntityAnnotation.codec_faithful : EntityAnnotation.codec.Faithful (room + 1) where
  plain a := by
    cases a with
    | queryField => exact .object (by simp) (by simp [Json.Plain.text])
    | relayConnection => exact .object (by simp) (by simp [Json.Plain.text])
    | mutations c u => exact .object (by simp) (by simp [Json.Plain.text, Json.Plain.bool])
  reads a v hv := by
    cases a with
    | queryField =>
        obtain ⟨ns, rfl, hns⟩ := object_same_iff.1 hv
        have hkind : ns.lookup "kind" = some (.text "query_field") := eq_text_of_same (hns "kind")
        simp only [codec, decodeTagged, hkind]
        rfl
    | relayConnection =>
        obtain ⟨ns, rfl, hns⟩ := object_same_iff.1 hv
        have hkind : ns.lookup "kind" = some (.text "relay_connection") :=
          eq_text_of_same (hns "kind")
        simp only [codec, decodeTagged, hkind]
        rfl
    | mutations c u =>
        obtain ⟨ns, rfl, hns⟩ := object_same_iff.1 hv
        have hkind : ns.lookup "kind" = some (.text "mutations") := eq_text_of_same (hns "kind")
        have hrecord : mutationsRecord.decodeObject ns = .ok (c, u) := by
          have hfaithful : mutationsRecord.Faithful 0 := mutationsRecord_faithful
          refine hfaithful.decodeObject_eq fun m hm => ?_
          rcases List.mem_pair.1 hm with rfl | rfl
          · exact ⟨_, eq_bool_of_same (hns "create"), .bool c⟩
          · exact ⟨_, eq_bool_of_same (hns "update"), .bool u⟩
        simp only [codec, decodeTagged, hkind]
        show (mutationsRecord.decodeObject ns).map (fun p => mutations p.1 p.2) = _
        rw [hrecord]
        rfl

/-! ## §3. Records. -/

theorem StorageKey.record_faithful : StorageKey.record.Faithful (room + 1) where
  distinct := by decide
  members s :=
    ⟨_, .cons (Member.writes_of Codec.text_faithful s)
      <| .cons (Member.writes_of (.list Codec.text_faithful) s)
      <| .cons (Member.writes_of Codec.text_faithful s)
      <| .cons (Member.writes_of (.list Codec.text_faithful) s)
      <| .cons (Member.writes_of Codec.text_faithful s) .nil, rfl⟩

theorem StorageKey.optional_faithful : (Codec.option record.codec).Faithful (room + 2) :=
  .option (Record.Faithful.codec record_faithful) fun _ h => by cases h

theorem Attribute.record_faithful : Attribute.record.Faithful (room + 2) where
  distinct := by decide
  members s :=
    ⟨_, .cons (Member.writes_of Codec.text_faithful s)
      <| .cons (Member.writes_of Codec.text_faithful s)
      <| .cons (Member.writes_of StorageKind.codec_faithful s)
      <| .cons (Member.writes_of Codec.bool_faithful s)
      <| .cons (Member.writes_of Codec.optionalText_faithful s)
      <| .cons (Member.writes_of Codec.optionalText_faithful s)
      <| .cons (Member.writes_of Codec.optionalText_faithful s)
      <| .cons (Member.writes_of Codec.bool_faithful s)
      <| .cons (Member.writes_of Codec.bool_faithful s)
      <| .cons (Member.writes_of Codec.bool_faithful s)
      <| .cons (Member.writes_of Codec.bool_faithful s)
      <| .cons (Member.writes_of Codec.optionalText_faithful s)
      <| .cons (Member.writes_of Codec.optionalText_faithful s)
      <| .cons (Member.writes_of Codec.optionalText_faithful s)
      <| .cons (Member.writes_of Codec.bool_faithful s)
      <| .cons (Member.writes_of (.list Codec.text_faithful) s)
      <| .cons (Member.writes_of Codec.optionalText_faithful s)
      <| .cons (Member.writes_of (.list Annotation.codec_faithful) s) .nil, rfl⟩

theorem Edge.record_faithful : Edge.record.Faithful (room + 2) where
  distinct := by decide
  members s :=
    ⟨_, .cons (Member.writes_of Codec.text_faithful s)
      <| .cons (Member.writes_of Codec.text_faithful s)
      <| .cons (Member.writes_of Codec.text_faithful s)
      <| .cons (Member.writes_of Codec.text_faithful s)
      <| .cons (Member.writes_of Direction.codec_faithful s)
      <| .cons (Member.writes_of Codec.bool_faithful s)
      <| .cons (Member.writes_of Codec.text_faithful s)
      <| .cons (Member.writes_of Cardinality.codec_faithful s)
      <| .cons (Member.writes_of Codec.bool_faithful s)
      <| .cons (Member.writes_of Codec.bool_faithful s)
      <| .cons (Member.writes_of Codec.bool_faithful s)
      <| .cons (Member.writes_of Codec.optionalText_faithful s)
      <| .cons (Member.writes_of StorageKey.optional_faithful s)
      <| .cons (Member.writes_of Codec.optionalText_faithful s)
      <| .cons (Member.writes_of Codec.optionalText_faithful s)
      <| .cons (Member.writes_of (.list Annotation.codec_faithful) s) .nil, rfl⟩

theorem Entity.record_faithful : Entity.record.Faithful (room + 4) where
  distinct := by decide
  members s :=
    ⟨_, .cons (Member.writes_of Codec.text_faithful s)
      <| .cons (Member.writes_of Codec.text_faithful s)
      <| .cons (Member.writes_of Codec.text_faithful s)
      <| .cons (Member.writes_of Codec.text_faithful s)
      <| .cons (Member.writes_of (.list (Record.Faithful.codec Attribute.record_faithful)) s)
      <| .cons (Member.writes_of (.list (Record.Faithful.codec Edge.record_faithful)) s)
      <| .cons (Member.writes_of (.list EntityAnnotation.codec_faithful) s)
      <| .cons (Member.writes_of NameSet.codec_faithful s) .nil, rfl⟩

theorem SchemaDocument.record_faithful : SchemaDocument.record.Faithful (room + 6) where
  distinct := by decide
  members s :=
    ⟨_, .cons (Member.writes_of Codec.text_faithful s)
      <| .cons (Member.writes_of (.list (Record.Faithful.codec Entity.record_faithful)) s) .nil, rfl⟩

/-! ## §4. Documents. -/

namespace SchemaDocument

/-- The texts of model files stay below the nesting that a reader allows. -/
theorem codec_faithful : record.codec.Faithful Json.nestingLimit :=
  Record.Faithful.codec record_faithful

/-- The text of a document is read as the document, its members in order. -/
theorem exists_read? (d : SchemaDocument) :
    ∃ v, Json.read? (record.encode d).fileText = some v ∧ record.codec.decode v = .ok d := by
  have h : record.codec.Faithful Json.nestingLimit := codec_faithful
  exact ⟨_, Json.read?_fileText (h.plain d), h.reads d _ (h.plain d).same_inOrder⟩

end SchemaDocument

/-- Files generated from the text of a model file; none if it holds no
model. -/
def filesOfModelText (l : OutputLayout) (text : String) :
    Option (Except Source.DanglingEdge (List Source.GeneratedFile)) := do
  let v ← Json.read? text
  let d ← (SchemaDocument.record.codec.decode v).toOption
  return Source.bundle l d.entities

theorem filesOfModelText_fileText (l : OutputLayout) (d : SchemaDocument) :
    filesOfModelText l (SchemaDocument.record.encode d).fileText
      = some (Source.bundle l d.entities) := by
  obtain ⟨v, hread, hdecode⟩ := d.exists_read?
  rw [filesOfModelText, hread, Option.bind_eq_bind, Option.bind_some, hdecode]
  rfl

/-- **MODEL DOCUMENTS READ BACK**: whatever the order of members, from the
document and from its text; and the files of a run are those that its model
file gives. -/
theorem model_rereads :
    (∀ (d : SchemaDocument) (v : Json), (SchemaDocument.record.encode d).Same v →
        SchemaDocument.record.codec.decode v = .ok d)
      ∧ (∀ d : SchemaDocument,
        SchemaDocument.record.codec.decode (SchemaDocument.record.encode d) = .ok d)
      ∧ (∀ d : SchemaDocument, ∃ v, Json.read? (SchemaDocument.record.encode d).fileText = some v
        ∧ SchemaDocument.record.codec.decode v = .ok d)
      ∧ (∀ (d : SchemaDocument) (l : OutputLayout),
        filesOfModelText l (SchemaDocument.record.encode d).fileText
          = some (Source.bundle l d.entities))
      ∧ ∀ (s : Settings) (text : String) (p : Product),
        (Product.ofInput s false text).result = .ok p →
          filesOfModelText s.emit p.modelText = some (.ok p.files) := by
  have h : SchemaDocument.record.codec.Faithful Json.nestingLimit := SchemaDocument.codec_faithful
  refine ⟨h.reads, ?_, SchemaDocument.exists_read?, fun d l => filesOfModelText_fileText l d, ?_⟩
  · intro d
    exact h.reads d _ (h.plain d).same_self
  · intro s text p hp
    obtain ⟨-, -, -, -, -, -, hfiles⟩ := Product.ofInput_eq_ok_iff.1 hp
    rw [Product.modelText, filesOfModelText_fileText]
    exact congrArg some hfiles

/-- A document with a tagged value of every sort. -/
def taggedDocument : SchemaDocument where
  irVersion := "0.1"
  entities := [{
    name := "Post", pluralName := "Posts", schemaFileName := "post.go",
    graphqlSchemaFileName := "post.graphql",
    attributes := [{
      name := "title", declaredName := "title", storageKind := .uint32, isIdentity := false,
      goType := some "", defaultExpr := none, defaultFuncExpr := none, optional := true,
      nillable := false, immutable := false, unique := true, comment := some "\"\n",
      storageKey := none, structTag := none, sensitive := false, enumValues := ["A", "A"],
      enumTypeName := none, annotations := [.orderField "TITLE", .graphqlType "Uint32"] }],
    edges := [{
      name := "author", declaredName := "author", owner := "Post", target := "User",
      direction := .referencing "posts", bidirectional := false, counterpart := "posts",
      cardinality := .manyToOne, unique := true, required := false, immutable := false,
      bindField := none, storageKey := some { columns := ["a", "b"] }, structTag := none,
      comment := none, annotations := [.relayConnection] }],
    annotations := [.queryField, .mutations true false],
    graphqlTypes := .ofList ["Uint32", "String"] }]

/-- Input of one message without fields. -/
def postInput : String :=
  "\x7b\"entities\": [\x7b\"name\": \"Post\", \"options\": \x7b\"generate\": true\x7d\x7d]\x7d"

/-- A document with tagged values reads back with its members in order, and
the model file of a run gives the two files of the run. -/
theorem taggedDocument_rereads :
    (SchemaDocument.record.encode taggedDocument).Same
        (SchemaDocument.record.encode taggedDocument).inOrder
      ∧ SchemaDocument.record.codec.decode (SchemaDocument.record.encode taggedDocument).inOrder
          = .ok taggedDocument
      ∧ ∃ p, (Product.ofInput {} false postInput).result = .ok p ∧ p.files.length = 2
        ∧ filesOfModelText {} p.modelText = some (.ok p.files) := by
  have h : SchemaDocument.record.codec.Faithful Json.nestingLimit := SchemaDocument.codec_faithful
  have hsame := (h.plain taggedDocument).same_inOrder
  refine ⟨hsame, model_rereads.1 taggedDocument _ hsame, ?_⟩
  have hrun : ((Product.ofInput {} false postInput).result.toOption.map (·.files.length))
      = some 2 := by
    decide +kernel
  cases hp : (Product.ofInput {} false postInput).result with
  | error e =>
      rw [hp] at hrun
      cases hrun
  | ok p =>
      rw [hp] at hrun
      exact ⟨p, rfl, Option.some.inj hrun, model_rereads.2.2.2.2 {} _ p hp⟩

end EntitySchema
