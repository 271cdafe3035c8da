/-
  EntitySchema.Proofs.Catalog.Likeness
  ────────────────────────────────
  **TWO CATALOGS SIDE BY SIDE.**

  Two sets have the same messages in the same places, and their fields are
  related one by one.  What the catalogs of both have in common is decided
  where a single field is placed:

      R f f'   the fields          place f  ~  place f'    (`KeepsPlaces`)
      S f f'   the references      build s  ~  build t     (`build_like`)

  Then both sets have catalogs, with the same attributes and with references
  that are related by `S` in the same places, or neither has one, for the
  same fault.  The options may differ too, as long as placing agrees.  An
  instance are fields that differ in the overrides of their edges.

  Main result: `KeepsPlaces.build_like`.
-/
import EntitySchema.Proofs.Catalog.Contents
import EntitySchema.Proofs.SameOutcome

namespace EntitySchema

variable {o o' : CompileOptions} {R S : FieldDescriptor → FieldDescriptor → Prop}

/-! ## §1. Sets with related fields. -/

/-- The same message with related fields in the same places. -/
structure MessageDescriptor.Fieldwise (R : FieldDescriptor → FieldDescriptor → Prop)
    (m m' : MessageDescriptor) : Prop where
  name : m'.name = m.name
  generate : m'.generate = m.generate
  fields : List.Forall₂ R m.fields m'.fields

/-- The same messages with related fields in the same places. -/
def DescriptorSet.Fieldwise (R : FieldDescriptor → FieldDescriptor → Prop)
    (s t : DescriptorSet) : Prop :=
  List.Forall₂ (MessageDescriptor.Fieldwise R) s.entities t.entities

theorem DescriptorSet.Fieldwise.imp {R' : FieldDescriptor → FieldDescriptor → Prop}
    {s t : DescriptorSet} (h : s.Fieldwise R t) (hR : ∀ f f', R f f' → R' f f') :
    s.Fieldwise R' t :=
  List.Forall₂.imp (fun _ _ hm => ⟨hm.name, hm.generate, hm.fields.imp hR⟩) h

/-- Both sets select the messages in the same places. -/
theorem DescriptorSet.Fieldwise.selected {s t : DescriptorSet} (h : s.Fieldwise R t) :
    List.Forall₂ (MessageDescriptor.Fieldwise R) s.selected t.selected := by
  refine List.rel_filter (fun m m' hm => ?_) h
  show m.generate = true ↔ m'.generate = true
  rw [hm.generate]

/-! ## §2. Related contents. -/

/-- The same placement, references related. -/
inductive Placement.Like (S : FieldDescriptor → FieldDescriptor → Prop) :
    Placement → Placement → Prop where
  | left : Like S .ignored .ignored
  | stored (a : Attribute) : Like S (.attribute a) (.attribute a)
  | waiting {f f' : FieldDescriptor} (related : S f f') : Like S (.reference f) (.reference f')

theorem Placement.Like.refl (hS : ∀ f, S f f) : ∀ p : Placement, p.Like S p
  | .ignored => .left
  | .attribute a => .stored a
  | .reference f => .waiting (hS f)

/-- Entries of the same name with the same attributes and related
references. -/
structure CatalogEntry.Like (S : FieldDescriptor → FieldDescriptor → Prop)
    (e e' : CatalogEntry) : Prop where
  name : e'.name = e.name
  attributes : e'.attributes = e.attributes
  references : List.Forall₂ S e.references e'.references

/-- Catalogs with related entries in the same places. -/
structure Catalog.Like (S : FieldDescriptor → FieldDescriptor → Prop) (c c' : Catalog) : Prop where
  positions : c'.positions = c.positions
  entries : List.Forall₂ (CatalogEntry.Like S) c.entries c'.entries

theorem attributes_eq_of_like {ps ps' : List Placement}
    (h : List.Forall₂ (Placement.Like S) ps ps') :
    ps'.filterMap (·.attribute?) = ps.filterMap (·.attribute?) := by
  induction h with
  | nil => rfl
  | cons hp _ ih =>
      rw [List.filterMap_cons, List.filterMap_cons, ih]
      cases hp <;> rfl

theorem references_of_like {ps ps' : List Placement}
    (h : List.Forall₂ (Placement.Like S) ps ps') :
    List.Forall₂ S (ps.filterMap (·.reference?)) (ps'.filterMap (·.reference?)) := by
  refine List.rel_filterMap (fun p p' hp => ?_) h
  cases hp with
  | left => exact .none
  | stored a => exact .none
  | waiting related => exact .some related

namespace Catalog

variable {c c' : Catalog}

theorem like_empty (S : FieldDescriptor → FieldDescriptor → Prop) : empty.Like S empty :=
  ⟨rfl, .nil⟩

/-- What one catalog finds, the other one finds alike. -/
theorem Like.get? (h : c.Like S c') (n : String) :
    Option.Rel (CatalogEntry.Like S) (c.get? n) (c'.get? n) := by
  rw [Catalog.get?, Catalog.get?, h.positions]
  cases c.positions.lookup n with
  | none => exact .none
  | some i => exact forall₂_getElem? h.entries i

theorem Like.push (h : c.Like S c') {e e' : CatalogEntry} (he : e.Like S e') :
    (c.push e).Like S (c'.push e') where
  positions := by
    show (e'.name, c'.size) :: c'.positions = (e.name, c.size) :: c.positions
    rw [he.name, h.positions, size, size, h.entries.length_eq]
  entries := List.rel_append h.entries (.cons he .nil)

end Catalog

/-! ## §3. From one field to the catalog. -/

/-- Related fields have one name and are placed alike, each under its own
options. -/
structure KeepsPlaces (o o' : CompileOptions) (R S : FieldDescriptor → FieldDescriptor → Prop) :
    Prop where
  name : ∀ f f', R f f' → f'.name = f.name
  place : ∀ entity seen f f', R f f' →
    SameOutcome (Placement.Like S) (place o entity seen f) (place o' entity seen f')

/-- What placing reads of two fields is the same, each under its own options.
The type has to be named where the field waits for a counterpart only. -/
structure FieldDescriptor.PlacedLike (o o' : CompileOptions)
    (S : FieldDescriptor → FieldDescriptor → Prop) (f f' : FieldDescriptor) : Prop where
  name : f'.name = f.name
  ignored : f'.isIgnored = f.isIgnored
  reference : f'.isReference o' = f.isReference o
  untyped : f.isReference o = true →
    f'.typeName.all String.isEmpty = f.typeName.all String.isEmpty
  related : f.isReference o = true → f.typeName.all String.isEmpty = false → S f f'
  classified : ∀ entity, classify o' entity f' = classify o entity f

theorem FieldDescriptor.PlacedLike.place_like {f f' : FieldDescriptor}
    (h : f.PlacedLike o o' S f') (entity : String) (seen : List String) :
    SameOutcome (Placement.Like S) (place o entity seen f) (place o' entity seen f') := by
  unfold place
  rw [h.name, h.ignored, h.reference, h.classified]
  split
  · exact .error _
  split
  · exact .ok .left
  split
  next hr =>
    -- both wait for a counterpart, so both name a type or neither does
    obtain ⟨-, hr⟩ := Bool.and_eq_true_iff.1 hr
    rw [h.untyped hr]
    split
    · exact .error _
    next htyped => exact .ok (.waiting (h.related hr (Bool.eq_false_iff.2 htyped)))
  · refine (SameOutcome.of_eq rfl).map fun a b hab => ?_
    rw [hab]
    exact .stored b

theorem KeepsPlaces.of_placedLike (h : ∀ f f', R f f' → f.PlacedLike o o' S f') :
    KeepsPlaces o o' R S where
  name f f' hf := (h f f' hf).name
  place entity seen f f' hf := (h f f' hf).place_like entity seen

namespace KeepsPlaces

theorem placeAll_like (h : KeepsPlaces o o' R S) (entity : String) {fs fs' : List FieldDescriptor}
    (hfs : List.Forall₂ R fs fs') (seen : List String) :
    SameOutcome (List.Forall₂ (Placement.Like S)) (placeAll o entity seen fs)
      (placeAll o' entity seen fs') := by
  induction hfs generalizing seen with
  | nil => exact .ok .nil
  | @cons f f' fs fs' hf _ ih =>
      rw [placeAll, placeAll, h.name f f' hf]
      refine (h.place entity seen f f' hf).bind fun p p' hp => ?_
      exact (ih (f.name :: seen)).bind fun ps ps' hps => .ok (.cons hp hps)

theorem ofMessage_like (h : KeepsPlaces o o' R S) {m m' : MessageDescriptor}
    (hm : m.Fieldwise R m') :
    SameOutcome (CatalogEntry.Like S) (CatalogEntry.ofMessage o m)
      (CatalogEntry.ofMessage o' m') := by
  unfold CatalogEntry.ofMessage
  rw [hm.name]
  refine (h.placeAll_like m.name hm.fields []).bind fun ps ps' hps => ?_
  exact .ok ⟨hm.name, attributes_eq_of_like hps, references_of_like hps⟩

/-- **Entering related messages** keeps the catalogs alike, or both messages
are refused for the same reason. -/
theorem enter_like (h : KeepsPlaces o o' R S) {c c' : Catalog} (hc : c.Like S c')
    {m m' : MessageDescriptor} (hm : m.Fieldwise R m') :
    SameOutcome (Catalog.Like S) (Catalog.enter o c m) (Catalog.enter o' c' m') := by
  unfold Catalog.enter
  rw [hc.positions, hm.name]
  split
  · exact .error _
  · exact (h.ofMessage_like hm).map fun e e' he => hc.push he

/-- **CATALOGS ARE AS LIKE AS THE PLACES OF FIELDS**, and where there is none
there is the same fault. -/
theorem build_like (h : KeepsPlaces o o' R S) {s t : DescriptorSet}
    (hst : List.Forall₂ (MessageDescriptor.Fieldwise R) s.selected t.selected) :
    SameOutcome (Catalog.Like S) (Catalog.build o s) (Catalog.build o' t) := by
  refine SameOutcome.foldlM (R := MessageDescriptor.Fieldwise R) (S := Catalog.Like S) ?_ hst
    (Catalog.like_empty S)
  intro c c' m m' hc hm
  exact h.enter_like hc hm

end KeepsPlaces

/-! ## §4. Overrides of edges. -/

/-- Fields that may differ in the overrides of their edges. -/
def FieldDescriptor.StoredAlike (f f' : FieldDescriptor) : Prop :=
  f' = { f with options := { f.options with edge := f'.options.edge } }

namespace FieldDescriptor.StoredAlike

variable {f f' : FieldDescriptor}

theorem name_eq (h : f.StoredAlike f') : f'.name = f.name := by
  rw [h]

theorem target?_eq (h : f.StoredAlike f') : f'.target? = f.target? := by
  rw [h]
  rfl

theorem isOpen_eq (h : f.StoredAlike f') (o : CompileOptions) : f'.isOpen o = f.isOpen o := by
  rw [h]
  rfl

/-- An attribute shows every override but those of edges. -/
theorem placedLike (h : f.StoredAlike f') : f.PlacedLike o o FieldDescriptor.StoredAlike f' where
  name := h.name_eq
  ignored := by rw [h]; rfl
  reference := by rw [h]; rfl
  untyped _ := by rw [h]
  related _ _ := h
  classified entity := by rw [h]; rfl

end FieldDescriptor.StoredAlike

theorem keepsPlaces_storedAlike (o : CompileOptions) :
    KeepsPlaces o o FieldDescriptor.StoredAlike FieldDescriptor.StoredAlike :=
  .of_placedLike fun _ _ h => h.placedLike

end EntitySchema
