/-
  EntitySchema.Proofs.Compilation.Scalars
  ────────────────────────────────
  **WHICH SCALARS A COMPILATION USES.**

  Three scalars are numbers that the API does not know by itself.  An
  explicit type counts on every stored field; without one the declaration
  decides:

      float, double        Float     whether repeated or not
      uint32, fixed32      Uint32    unless repeated
      uint64, fixed64      Uint64    unless repeated

  The identity never counts, nor does a reference or a field that is
  ignored.

  Main result: `mem_usedScalars_iff`.
-/
import EntitySchema.Proofs.Compilation.Members
import EntitySchema.Source.ServerConfig

namespace EntitySchema

variable {o : CompileOptions} {s : DescriptorSet} {S : String}

/-! ## §1. Scalars of fields. -/

/-- Numbers that the API does not know by itself, in the order of their bytes. -/
def numberScalars : List String := ["Float", "Uint32", "Uint64"]

/-- Number that a declared kind is shown as, if it is one of those. -/
def FieldKind.numberScalar? (repeated : Bool) : FieldKind → Option String
  | .float | .double => some "Float"
  | .uint32 | .fixed32 => if repeated then none else some "Uint32"
  | .uint64 | .fixed64 => if repeated then none else some "Uint64"
  | _ => none

/-- A field is shown as a scalar, by its explicit type or else by its
declaration. -/
structure FieldDescriptor.ShownAs (o : CompileOptions) (S : String) (f : FieldDescriptor) :
    Prop where
  kept : f.isIgnored = false
  stored : f.isReference o = false
  other : f.name ≠ identityName
  scalar : f.options.graphqlType = S
    ∨ (f.options.graphqlType = "" ∧ f.kind.numberScalar? f.repeated = some S)

theorem FieldDescriptor.shownAs_iff {f : FieldDescriptor} :
    f.ShownAs o S ↔ f.isStored o = true ∧ f.name ≠ identityName
      ∧ (f.options.graphqlType = S
        ∨ (f.options.graphqlType = "" ∧ f.kind.numberScalar? f.repeated = some S)) := by
  unfold isStored
  constructor
  · intro h
    exact ⟨by simp [h.kept, h.stored], h.other, h.scalar⟩
  · intro h
    obtain ⟨hstored, hother, hscalar⟩ := h
    simp only [Bool.and_eq_true, Bool.or_eq_true, Bool.not_eq_true', decide_eq_true_eq,
      or_iff_right hother] at hstored
    exact ⟨hstored.1, hstored.2, hother, hscalar⟩

instance (f : FieldDescriptor) : Decidable (f.ShownAs o S) :=
  decidable_of_iff _ FieldDescriptor.shownAs_iff.symm

/-- Some field of a selected message is shown as a scalar. -/
def DescriptorSet.Shows (o : CompileOptions) (S : String) (s : DescriptorSet) : Prop :=
  ∃ m ∈ s.selected, ∃ f ∈ m.fields, f.ShownAs o S

instance : Decidable (s.Shows o S) :=
  inferInstanceAs (Decidable (∃ m ∈ s.selected, ∃ f ∈ m.fields, f.ShownAs o S))

/-! ## §2. Scalars of attributes. -/

/-- The explicit type of an attribute comes first, then what its storage
shows. -/
theorem graphqlScalar_ofField (entity : String) (f : FieldDescriptor) (kind : StorageKind) :
    (Attribute.ofField o entity f kind).graphqlScalar
      = (nonEmpty f.options.graphqlType).or kind.graphqlScalar := by
  have hexplicit : ∀ type : Option String,
      (Attribute.ofField o entity f kind).annotations
        = (if kind.isCollection then [] else [.orderField (Identifier.sortKey
            (Identifier.snake f.name))]) ++ (type.map .graphqlType).toList →
      (Attribute.ofField o entity f kind).graphqlTypeOverride = type := by
    intro type hannotations
    rw [Attribute.graphqlTypeOverride, hannotations]
    cases kind.isCollection <;> cases type <;> rfl
  rw [Attribute.graphqlScalar, hexplicit _ rfl, Option.or_assoc]
  have hoverride : kind.graphqlOverride.or kind.graphqlScalar = kind.graphqlScalar := by
    cases kind <;> rfl
  exact congrArg _ hoverride

/-- Storage shows a number iff the declared kind does. -/
theorem graphqlScalar_of_storageKind? {f : FieldDescriptor} {kind : StorageKind}
    (h : f.storageKind? o = some kind) (hS : S ∈ numberScalars) :
    kind.graphqlScalar = some S ↔ f.kind.numberScalar? f.repeated = some S := by
  -- kind by kind, for points in time and for the tables
  have htime : f.isTimestamp o = true → f.kind.numberScalar? f.repeated = none := by
    intro htimestamp
    have hmessage : f.isMessage = true := (Bool.and_eq_true_iff.1 htimestamp).1
    rw [of_decide_eq_true hmessage]
    rfl
  have htables : ∀ (k : FieldKind) (repeated : Bool),
      (if repeated then k.collectionKind? else k.storageKind?) = some kind →
      kind.graphqlScalar.filter (· ∈ numberScalars) = k.numberScalar? repeated := by
    intro k repeated hk
    cases repeated <;> cases k <;> cases hk <;> rfl
  have hnumber : kind.graphqlScalar.filter (· ∈ numberScalars)
      = f.kind.numberScalar? f.repeated := by
    unfold FieldDescriptor.storageKind? at h
    split at h
    next htimestamp =>
      split at h
      · cases h
      · cases h
        rw [htime htimestamp]
        rfl
    next => exact htables f.kind f.repeated h
  rw [← hnumber, Option.filter_eq_some_iff, decide_eq_true_iff, and_iff_left hS]

/-- An attribute is shown as a number iff its field is. -/
theorem graphqlScalar_of_classify {entity : String} {f : FieldDescriptor} {a : Attribute}
    (h : classify o entity f = .ok a) (hS : S ∈ numberScalars) :
    a.graphqlScalar = some S
      ↔ f.name ≠ identityName ∧ (f.options.graphqlType = S
        ∨ (f.options.graphqlType = "" ∧ f.kind.numberScalar? f.repeated = some S)) := by
  -- an identity is no number; any other field is shown by its override, or else by its kind
  unfold classify at h
  split at h
  next hid =>
    cases h
    have hidentity : ∀ S ∈ numberScalars, Attribute.identity.graphqlScalar ≠ some S := by
      decide
    exact iff_of_false (hidentity S hS) fun h => h.1 hid
  next hid =>
    split at h
    next kind hkind =>
      cases h
      have hne : S ≠ "" := by
        rintro rfl
        revert hS
        decide
      rw [graphqlScalar_ofField, and_iff_right hid, nonEmpty]
      by_cases hempty : f.options.graphqlType.isEmpty = true
      · have htype : f.options.graphqlType = "" := String.isEmpty_iff.1 hempty
        rw [if_pos hempty, Option.none_or, graphqlScalar_of_storageKind? hkind hS, htype,
          or_iff_right hne.symm, and_iff_right rfl]
      · have htype : f.options.graphqlType ≠ "" := mt String.isEmpty_iff.2 hempty
        rw [if_neg hempty, Option.some_or, Option.some.injEq, or_iff_left fun h => htype h.1]
    next => cases h

/-! ## §3. Scalars of compilations. -/

theorem mem_scalarsOf_iff {attributes : List Attribute} :
    S ∈ (scalarsOf attributes).names ↔ ∃ a ∈ attributes, a.graphqlScalar = some S := by
  rw [scalarsOf, NameSet.mem_ofList, List.mem_filterMap]

theorem mem_usedScalars {es : List Entity} :
    S ∈ (Source.usedScalars es).names ↔ ∃ E ∈ es, S ∈ E.graphqlTypes.names := by
  have hfold : ∀ t : NameSet, S ∈ (es.foldl (fun t e => t.union e.graphqlTypes) t).names
      ↔ S ∈ t.names ∨ ∃ E ∈ es, S ∈ E.graphqlTypes.names := by
    induction es with
    | nil => simp
    | cons E es ih =>
        intro t
        rw [List.foldl_cons, ih, NameSet.union, NameSet.mem_foldl_insert, List.exists_mem_cons_iff,
          or_assoc]
  rw [Source.usedScalars, hfold, NameSet.empty, or_iff_right List.not_mem_nil]

/-- An entity uses a number iff some field of its message is shown as it. -/
theorem mem_graphqlTypes_iff {m : MessageDescriptor} {e : CatalogEntry} {E : Entity} {c : Catalog}
    (he : CatalogEntry.ofMessage o m = .ok e) (hE : c.entity e = .ok E) (hS : S ∈ numberScalars) :
    S ∈ E.graphqlTypes.names ↔ ∃ f ∈ m.fields, f.ShownAs o S := by
  obtain ⟨ds, -, rfl⟩ := Catalog.entity_eq_ok_iff.1 hE
  have hattributes := attributes_of_ofMessage he
  show S ∈ (scalarsOf e.attributes).names ↔ _
  rw [mem_scalarsOf_iff]
  constructor
  · intro h
    obtain ⟨a, ha, hscalar⟩ := h
    obtain ⟨f, hf, hfa⟩ := exists_left_of_mem hattributes a ha
    obtain ⟨hf, hstored⟩ := List.mem_filter.1 hf
    exact ⟨f, hf, f.shownAs_iff.2 ⟨hstored, (graphqlScalar_of_classify hfa hS).1 hscalar⟩⟩
  · intro h
    obtain ⟨f, hf, h⟩ := h
    obtain ⟨hstored, h⟩ := f.shownAs_iff.1 h
    have hmem : f ∈ m.storedFields o := List.mem_filter.2 ⟨hf, hstored⟩
    obtain ⟨a, ha, hfa⟩ := exists_right_of_mem hattributes f hmem
    exact ⟨a, ha, (graphqlScalar_of_classify hfa hS).2 h⟩

/-- **WHICH NUMBERS A COMPILATION USES**: those that fields are shown as. -/
theorem mem_usedScalars_iff {es : List Entity} (h : compile o s = .ok es)
    (hS : S ∈ numberScalars) : S ∈ (Source.usedScalars es).names ↔ s.Shows o S := by
  obtain ⟨c, -, hes⟩ := entities_of_compile h
  rw [mem_usedScalars]
  constructor
  · intro hused
    obtain ⟨E, hmem, hE⟩ := hused
    obtain ⟨m, hm, e, he, hcE⟩ := exists_left_of_mem hes E hmem
    exact ⟨m, hm, (mem_graphqlTypes_iff he hcE hS).1 hE⟩
  · intro hshown
    obtain ⟨m, hm, hf⟩ := hshown
    obtain ⟨E, hmem, e, he, hcE⟩ := exists_right_of_mem hes m hm
    exact ⟨E, hmem, (mem_graphqlTypes_iff he hcE hS).2 hf⟩

end EntitySchema
