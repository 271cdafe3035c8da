/-
  EntitySchema.Proofs.Source.BuilderChain
  ────────────────────────────────
  **BUILDER CHAINS LOSE NOTHING.**

  The source of an edge or a field is a first call and a chain of others,
  most of which may be missing.  The first call tells the kind, the name and
  the target, each other call one property by its name:

      edge.From("author", User.Type)   direction, name, target
        .Ref("posts")                  the rest of the direction
        .Unique()                      that the edge is unique
        .Comment("...")                the comment

  So two edges have one source iff they agree on all that a source shows, and
  so do two fields.

  Main result: `definition_eq_iff`.
-/
import EntitySchema.Proofs.Source.CallSlots

namespace EntitySchema.Source

/-! ## §1. Edges. -/

/-- Function that starts an edge. -/
def edgeCallee : Direction → String
  | .owning => "edge.To"
  | .referencing _ => "edge.From"

/-- First call of an edge. -/
def edgeHead (e : Edge) : String :=
  edgeCallee e.direction ++ "(" ++ quote e.name ++ ", " ++ e.target ++ ".Type)"

/-- Other calls of an edge. -/
def edgeSlots (e : Edge) : List (String × Option (List Item)) :=
  [("Ref", e.direction.refName?.map fun r => [.literal r]),
   ("Unique", flagArgument e.unique),
   ("Field", e.bindField.map fun f => [.literal f]),
   ("Required", flagArgument e.required),
   ("Immutable", flagArgument e.immutable),
   ("StorageKey", e.storageKey.map keyItems),
   ("StructTag", e.structTag.map fun t => [.tag t]),
   ("Comment", e.comment.map fun c => [.literal c]),
   ("Annotations", annotationsArgument e.annotations)]

theorem edgeConstructor_eq (e : Edge) :
    edgeConstructor e = edgeHead e :: argumentCall "Ref" quote e.direction.refName? := by
  unfold edgeConstructor edgeHead
  cases e.direction <;> rfl

theorem edgeDefinition_eq (e : Edge) :
    edgeDefinition e = edgeHead e ++ tail (present (edgeSlots e)) := by
  have hkey : argumentCall "StorageKey" id (e.storageKey.map storageKeyOptions)
      = (calls "StorageKey" (e.storageKey.map keyItems)).map Call.source :=
    argumentCall_eq id storageKeyOptions keyItems storageKeyOptions_eq e.storageKey
  have hnil : present ([] : List (String × Option (List Item))) = [] := rfl
  rw [← chain_cons, edgeDefinition, edgeConstructor_eq, hkey]
  simp only [literalCall_eq, flagCall_eq, tagCall_eq, annotationsCall_eq, edgeSlots, present_cons,
    hnil, calls, List.map_append, List.cons_append, List.append_assoc, List.append_nil]

/-- The first call tells the name and the target. -/
theorem edgeHead_append_inj {e e' : Edge} {x y : String} (he : '.' ∉ e.target.toList)
    (he' : '.' ∉ e'.target.toList) (h : edgeHead e ++ x = edgeHead e' ++ y) :
    e.name = e'.name ∧ e.target = e'.target ∧ x = y := by
  have hcallee : ∀ d, '(' ∉ (edgeCallee d).toList := by
    intro d
    cases d <;> simp [edgeCallee]
  simp only [edgeHead, String.append_assoc] at h
  obtain ⟨-, hargs⟩ := append_mark_inj '(' (hcallee _) (hcallee _) (by simp) (by simp) h
  obtain ⟨hname, htype⟩ := quote_append_inj.1 ((String.append_right_inj _).1 hargs)
  obtain ⟨htarget, hend⟩ := append_mark_inj '.' he he' (by simp) (by simp)
    ((String.append_right_inj _).1 htype)
  exact ⟨hname, htarget, (String.append_right_inj _).1 hend⟩

theorem refName?_inj {d d' : Direction} (h : d.refName? = d'.refName?) : d = d' := by
  cases d <;> cases d' <;> simp_all [Direction.refName?]

/-! ## §2. Fields. -/

/-- Other calls of a field, with those left out that take a text as it is. -/
def attributeSlots (a : Attribute) : List (String × Option (List Item)) :=
  [("Values", (listArgument a.enumValues).map literals),
   ("Optional", flagArgument a.optional),
   ("Nillable", flagArgument a.nillable),
   ("Immutable", flagArgument a.immutable),
   ("Unique", flagArgument a.unique),
   ("Comment", a.comment.map fun c => [.literal c]),
   ("StorageKey", a.storageKey.map fun k => [.literal k]),
   ("StructTag", a.structTag.map fun t => [.tag t]),
   ("Sensitive", flagArgument a.sensitive),
   ("Annotations", annotationsArgument a.annotations)]

theorem fieldDefinition_eq {a : Attribute} (hexpr : a.defaultExpr = none)
    (hfunc : a.defaultFuncExpr = none) (htype : a.goType = none) :
    fieldDefinition a = fieldConstructor a ++ tail (present (attributeSlots a)) := by
  have hnone : ∀ n write, argumentCall n write none = [] := fun _ _ => rfl
  have hnil : present ([] : List (String × Option (List Item))) = [] := rfl
  rw [← chain_cons, fieldDefinition, hexpr, hfunc, htype]
  simp only [hnone, literalCall_eq, flagCall_eq, listCall_eq, tagCall_eq, annotationsCall_eq,
    attributeSlots, present_cons, hnil, calls, List.map_append, List.cons_append, List.nil_append,
    List.append_assoc, List.append_nil]

theorem constructorName_inj {k k' : StorageKind} (h : k.constructorName = k'.constructorName) :
    k = k' := by
  have hmem : ∀ k : StorageKind, k ∈ StorageKind.all := by
    intro k
    cases k <;> decide
  have hall : ∀ k ∈ StorageKind.all, ∀ k' ∈ StorageKind.all,
      k.constructorName = k'.constructorName → k = k' := by decide
  exact hall k (hmem k) k' (hmem k') h

/-- The first call tells the kind, the name and the identity. -/
theorem fieldConstructor_append_inj {a a' : Attribute} {x y : String}
    (h : fieldConstructor a ++ x = fieldConstructor a' ++ y) :
    a.name = a'.name ∧ a.storageKind = a'.storageKind ∧ a.isIdentity = a'.isIdentity ∧ x = y := by
  have hbracket : ∀ k : StorageKind, '(' ∉ k.constructorName.toList := by
    intro k
    cases k <;> decide
  simp only [fieldConstructor, String.append_assoc, String.append_right_inj] at h
  obtain ⟨hkind, hargs⟩ := append_mark_inj '(' (hbracket _) (hbracket _) (by simp) (by simp) h
  obtain ⟨hname, hrest⟩ := quote_append_inj.1 ((String.append_right_inj _).1 hargs)
  -- a comma or a bracket follows the name
  have hidentity : a.isIdentity = a'.isIdentity ∧ x = y := by
    cases ha : a.isIdentity <;> cases ha' : a'.isIdentity <;> rw [ha, ha'] at hrest
    · exact ⟨rfl, by simpa using hrest⟩
    · simpa using congrArg String.toList hrest
    · simpa using congrArg String.toList hrest
    · exact ⟨rfl, by simpa using hrest⟩
  exact ⟨hname, constructorName_inj hkind, hidentity⟩

end EntitySchema.Source

namespace EntitySchema

open EntitySchema.Source

/-! ## §3. One source, one definition. -/

namespace Edge

/-- Edges whose source can be told apart. -/
structure Legible (e : Edge) : Prop where
  target : ∀ c ∈ e.target.toList, c.isAlphanum ∨ c = '_'
  structTag : ∀ t, e.structTag = some t → backquote ∉ t.toList

/-- Edges that agree on what a source shows. -/
structure ShownAs (e e' : Edge) : Prop where
  name : e.name = e'.name
  target : e.target = e'.target
  direction : e.direction = e'.direction
  unique : e.unique = e'.unique
  bindField : e.bindField = e'.bindField
  required : e.required = e'.required
  immutable : e.immutable = e'.immutable
  storageKey : e.storageKey = e'.storageKey
  structTag : e.structTag = e'.structTag
  comment : e.comment = e'.comment
  annotations : e.annotations = e'.annotations

variable {e e' : Edge}

theorem ShownAs.definition_eq (h : e.ShownAs e') : edgeDefinition e = edgeDefinition e' := by
  rw [edgeDefinition_eq, edgeDefinition_eq, edgeHead, edgeHead, edgeSlots, edgeSlots, h.name,
    h.target, h.direction, h.unique, h.bindField, h.required, h.immutable, h.storageKey,
    h.structTag, h.comment, h.annotations]

theorem Legible.dot_notMem (h : e.Legible) : '.' ∉ e.target.toList := by
  intro hmem
  have hdot := h.target '.' hmem
  simp at hdot

theorem Legible.plain (h : e.Legible) : ∀ s ∈ edgeSlots e, PlainArgument s.2 := by
  simp only [edgeSlots, List.forall_mem_cons, plainArgument_flag, plainArgument_literal,
    plainArgument_key, plainArgument_tag h.structTag, plainArgument_annotations, true_and]
  simp

/-- A source tells all of an edge that it shows. -/
theorem Legible.shownAs (h : e.Legible) (h' : e'.Legible)
    (heq : edgeDefinition e = edgeDefinition e') : e.ShownAs e' := by
  rw [edgeDefinition_eq, edgeDefinition_eq] at heq
  obtain ⟨hname, htarget, htail⟩ := edgeHead_append_inj h.dot_notMem h'.dot_notMem heq
  have hslots : edgeSlots e = edgeSlots e' :=
    slots_inj (show ["Ref", "Unique", "Field", "Required", "Immutable", "StorageKey",
      "StructTag", "Comment", "Annotations"].Nodup by decide) (by decide) rfl rfl
      h.plain h'.plain htail
  simp only [edgeSlots, List.cons.injEq, Prod.mk.injEq, true_and, and_true] at hslots
  obtain ⟨href, hunique, hfield, hrequired, himmutable, hkey, htag, hcomment,
    hannotations⟩ := hslots
  exact {
    name := hname
    target := htarget
    direction := refName?_inj (literalArgument_inj href)
    unique := flagArgument_inj hunique
    bindField := literalArgument_inj hfield
    required := flagArgument_inj hrequired
    immutable := flagArgument_inj himmutable
    storageKey := Option.map_injective (fun _ _ => keyItems_inj) hkey
    structTag := tagArgument_inj htag
    comment := literalArgument_inj hcomment
    annotations := annotationsArgument_inj hannotations }

/-- Edge with a name and a target, and nothing else that its source shows. -/
def bare (owner name target : String) : Edge where
  name := name
  declaredName := name
  owner := owner
  target := target
  direction := .owning
  bidirectional := false
  counterpart := ""
  cardinality := .manyToMany
  unique := false
  required := false
  immutable := false
  bindField := none
  storageKey := none
  structTag := none
  comment := none
  annotations := []

end Edge

namespace Attribute

/-- Attributes whose source can be told apart: none of their texts is put into
it as it is. -/
structure Legible (a : Attribute) : Prop where
  defaultExpr : a.defaultExpr = none
  defaultFuncExpr : a.defaultFuncExpr = none
  goType : a.goType = none
  structTag : ∀ t, a.structTag = some t → backquote ∉ t.toList

/-- Attributes that agree on what a source shows. -/
structure ShownAs (a a' : Attribute) : Prop where
  name : a.name = a'.name
  storageKind : a.storageKind = a'.storageKind
  isIdentity : a.isIdentity = a'.isIdentity
  enumValues : a.enumValues = a'.enumValues
  optional : a.optional = a'.optional
  nillable : a.nillable = a'.nillable
  immutable : a.immutable = a'.immutable
  unique : a.unique = a'.unique
  comment : a.comment = a'.comment
  storageKey : a.storageKey = a'.storageKey
  structTag : a.structTag = a'.structTag
  sensitive : a.sensitive = a'.sensitive
  annotations : a.annotations = a'.annotations

variable {a a' : Attribute}

theorem Legible.definition_eq (h : a.Legible) :
    fieldDefinition a = fieldConstructor a ++ tail (present (attributeSlots a)) :=
  fieldDefinition_eq h.defaultExpr h.defaultFuncExpr h.goType

theorem Legible.plain (h : a.Legible) : ∀ s ∈ attributeSlots a, PlainArgument s.2 := by
  simp only [attributeSlots, List.forall_mem_cons, plainArgument_flag, plainArgument_literal,
    plainArgument_literals, plainArgument_tag h.structTag, plainArgument_annotations, true_and]
  simp

theorem ShownAs.definition_eq (h : a.ShownAs a') (ha : a.Legible) (ha' : a'.Legible) :
    fieldDefinition a = fieldDefinition a' := by
  rw [ha.definition_eq, ha'.definition_eq, fieldConstructor, fieldConstructor, attributeSlots,
    attributeSlots, h.name, h.storageKind, h.isIdentity, h.enumValues, h.optional, h.nillable,
    h.immutable, h.unique, h.comment, h.storageKey, h.structTag, h.sensitive, h.annotations]

/-- A source tells all of a field that it shows. -/
theorem Legible.shownAs (h : a.Legible) (h' : a'.Legible)
    (heq : fieldDefinition a = fieldDefinition a') : a.ShownAs a' := by
  rw [h.definition_eq, h'.definition_eq] at heq
  obtain ⟨hname, hkind, hidentity, htail⟩ := fieldConstructor_append_inj heq
  have hslots : attributeSlots a = attributeSlots a' :=
    slots_inj (show ["Values", "Optional", "Nillable", "Immutable", "Unique", "Comment",
      "StorageKey", "StructTag", "Sensitive", "Annotations"].Nodup by decide) (by decide) rfl rfl
      h.plain h'.plain htail
  simp only [attributeSlots, List.cons.injEq, Prod.mk.injEq, true_and, and_true] at hslots
  obtain ⟨hvalues, hoptional, hnillable, himmutable, hunique, hcomment, hkey, htag, hsensitive,
    hannotations⟩ := hslots
  exact {
    name := hname
    storageKind := hkind
    isIdentity := hidentity
    enumValues := listArgument_inj (Option.map_injective (fun _ _ => literals_inj) hvalues)
    optional := flagArgument_inj hoptional
    nillable := flagArgument_inj hnillable
    immutable := flagArgument_inj himmutable
    unique := flagArgument_inj hunique
    comment := literalArgument_inj hcomment
    storageKey := literalArgument_inj hkey
    structTag := tagArgument_inj htag
    sensitive := flagArgument_inj hsensitive
    annotations := annotationsArgument_inj hannotations }

/-- Attribute with a name and a kind, and nothing else that its source shows. -/
def bare (name : String) (kind : StorageKind) : Attribute where
  name := name
  declaredName := name
  storageKind := kind
  isIdentity := false
  goType := none
  defaultExpr := none
  defaultFuncExpr := none
  optional := false
  nillable := false
  immutable := false
  unique := false
  comment := none
  storageKey := none
  structTag := none
  sensitive := false
  enumValues := []
  enumTypeName := none
  annotations := []

end Attribute

/-- **BUILDER CHAINS LOSE NOTHING.**  Two edges have one source iff they agree
on all that it shows, and so do two fields. -/
theorem definition_eq_iff :
    (∀ e e' : Edge, e.Legible → e'.Legible →
      (edgeDefinition e = edgeDefinition e' ↔ e.ShownAs e'))
      ∧ ∀ a a' : Attribute, a.Legible → a'.Legible →
        (fieldDefinition a = fieldDefinition a' ↔ a.ShownAs a') where
  left _ _ h h' := ⟨h.shownAs h', Edge.ShownAs.definition_eq⟩
  right _ _ h h' := ⟨h.shownAs h', fun hshown => hshown.definition_eq h h'⟩

/-- The owner is not shown, and a comment that looks like a call is none. -/
theorem comment_told_from_call :
    edgeDefinition (.bare "Post" "author" "User") = edgeDefinition (.bare "Draft" "author" "User")
      ∧ edgeDefinition { Edge.bare "Post" "author" "User" with comment := some "a\").Unique(" }
        ≠ edgeDefinition
          { Edge.bare "Post" "author" "User" with unique := true, comment := some "a" }
      ∧ fieldDefinition { Attribute.bare "title" .string with comment := some "a\").Sensitive(" }
        ≠ fieldDefinition
          { Attribute.bare "title" .string with comment := some "a", sensitive := true } := by
  have hbare : ∀ owner unique comment, Edge.Legible
      { Edge.bare owner "author" "User" with unique := unique, comment := comment } := by
    intro owner unique comment
    have hletters : "User".toList.all (fun c => c.isAlphanum || c = '_') = true := by decide
    refine ⟨fun c hc => ?_, by simp [Edge.bare]⟩
    simpa only [Bool.or_eq_true, decide_eq_true_eq] using List.all_eq_true.1 hletters c hc
  have htitle : ∀ comment sensitive, Attribute.Legible
      { Attribute.bare "title" .string with comment := comment, sensitive := sensitive } := by
    intro comment sensitive
    exact ⟨rfl, rfl, rfl, by simp [Attribute.bare]⟩
  refine ⟨?_, ?_, ?_⟩
  · exact (definition_eq_iff.1 _ _ (hbare "Post" false none) (hbare "Draft" false none)).2
      ⟨rfl, rfl, rfl, rfl, rfl, rfl, rfl, rfl, rfl, rfl, rfl⟩
  · intro heq
    have hshown := (definition_eq_iff.1 _ _ (hbare "Post" false _) (hbare "Post" true _)).1 heq
    exact Bool.false_ne_true hshown.unique
  · intro heq
    have hshown := (definition_eq_iff.2 _ _ (htitle _ false) (htitle _ true)).1 heq
    exact Bool.false_ne_true hshown.sensitive

end EntitySchema
