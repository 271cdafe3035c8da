/-
  EntitySchema.Proofs.Compilation.Mutations
  ────────────────────────────────
  **WHICH ENTITIES OFFER MUTATIONS.**

  A compiled entity offers mutations iff there is something to set: an
  attribute besides the identity, that is, a stored field of the message
  that is not called after the identity.  References alone do not count.

  Main result: `offered_of_compile`.
-/
import EntitySchema.Proofs.Compilation.Members

namespace EntitySchema

variable {o : CompileOptions} {s : DescriptorSet}

/-- Whether a message has a stored field besides the identity. -/
def MessageDescriptor.isMutable (o : CompileOptions) (m : MessageDescriptor) : Bool :=
  (m.storedFields o).any (·.name ≠ identityName)

/-- Selected messages with something to set, in declaration order. -/
def DescriptorSet.mutables (o : CompileOptions) (s : DescriptorSet) : List MessageDescriptor :=
  s.selected.filter (·.isMutable o)

/-- An entity is named after a message, and offers mutations iff that message
has something to set. -/
structure Entity.Offered (o : CompileOptions) (m : MessageDescriptor) (E : Entity) : Prop where
  name : E.name = m.name
  pluralName : E.pluralName = Identifier.plural m.name
  attributes : E.hasMutations = true ↔ ∃ a ∈ E.attributes, a.isIdentity = false
  message : E.hasMutations = m.isMutable o

theorem hasMutations_assemble (name : String) (attributes : List Attribute) (edges : List Edge) :
    (Entity.assemble name attributes edges).hasMutations
      = attributes.any fun a => !a.isIdentity := by
  show (entityAnnotations attributes).any _ = _
  unfold entityAnnotations
  cases attributes.any fun a => !a.isIdentity <;> rfl

theorem offered_of_entry {m : MessageDescriptor} {e : CatalogEntry} {E : Entity} {c : Catalog}
    (he : CatalogEntry.ofMessage o m = .ok e) (hE : c.entity e = .ok E) : E.Offered o m := by
  obtain ⟨ds, -, rfl⟩ := Catalog.entity_eq_ok_iff.1 hE
  have hname := (describes_of_ofMessage he).name_eq
  have hattributes := attributes_of_ofMessage he
  refine ⟨hname, congrArg Identifier.plural hname, ?_, ?_⟩
  · rw [hasMutations_assemble, List.any_eq_true]
    simp only [Bool.not_eq_true']
    rfl
  · rw [hasMutations_assemble, Bool.eq_iff_iff, MessageDescriptor.isMutable, List.any_eq_true,
      List.any_eq_true]
    simp only [Bool.not_eq_true', decide_eq_true_eq]
    -- each attribute is that of a stored field, and each stored field has one
    constructor
    · intro h
      obtain ⟨a, ha, hid⟩ := h
      obtain ⟨f, hf, hfa⟩ := exists_left_of_mem hattributes a ha
      refine ⟨f, hf, fun hname => ?_⟩
      rw [(isIdentity_of_classify hfa).2 hname] at hid
      cases hid
    · intro h
      obtain ⟨f, hf, hname⟩ := h
      obtain ⟨a, ha, hfa⟩ := exists_right_of_mem hattributes f hf
      exact ⟨a, ha, Bool.eq_false_iff.2 (mt (isIdentity_of_classify hfa).1 hname)⟩

/-- **WHICH ENTITIES OFFER MUTATIONS**: those of the messages with something to
set. -/
theorem offered_of_compile {es : List Entity} (h : compile o s = .ok es) :
    List.Forall₂ (fun m E => E.Offered o m) s.selected es := by
  obtain ⟨c, -, hes⟩ := entities_of_compile h
  refine hes.imp fun m E hE => ?_
  obtain ⟨e, he, hE⟩ := hE
  exact offered_of_entry he hE

/-- The entities with mutations are those of the messages with something to
set, in declaration order. -/
theorem offered_filter_of_compile {es : List Entity} (h : compile o s = .ok es) :
    List.Forall₂ (fun m E => E.Offered o m) (s.mutables o) (es.filter (·.hasMutations)) := by
  refine List.rel_filter ?_ (offered_of_compile h)
  intro m E hE
  show m.isMutable o = true ↔ E.hasMutations = true
  rw [hE.message]

end EntitySchema
