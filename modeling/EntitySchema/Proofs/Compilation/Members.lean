/-
  EntitySchema.Proofs.Compilation.Members
  ────────────────────────────────
  **NOTHING IS LOST, DOUBLED OR MOVED.**

  A compiled entity has the members that its message declares: an attribute
  for every stored field and an edge for every other field that is not
  ignored, each in declaration order.

      fields   id   title   old   author   at
      kept     id   title         author   at        `old` is ignored
               a    a             e        a

  So every field that is kept is the source of one member, and an entity has
  an identity iff it keeps a field of that name, whatever its kind.

  Main result: `compiled_members`.
-/
import EntitySchema.Proofs.Compilation.Edges

namespace EntitySchema

variable {o : CompileOptions} {s : DescriptorSet}

/-! ## §1. Attributes of stored fields. -/

theorem isIdentity_of_classify {entity : String} {f : FieldDescriptor} {a : Attribute}
    (h : classify o entity f = .ok a) : a.isIdentity = true ↔ f.name = identityName := by
  unfold classify at h
  split at h
  next hid =>
    cases h
    exact iff_of_true rfl hid
  next hid =>
    split at h
    · cases h
      exact iff_of_false Bool.false_ne_true hid
    · cases h

/-! ## §2. Members of an entity. -/

/-- Fields of a message that are not ignored. -/
def MessageDescriptor.keptFields (m : MessageDescriptor) : List FieldDescriptor :=
  m.fields.filter fun f => !f.isIgnored

/-- The members of an entity are the kept fields of a message. -/
structure Entity.Keeps (o : CompileOptions) (m : MessageDescriptor) (E : Entity) : Prop where
  /-- Attributes are those of the stored fields. -/
  attributes : E.attributes.map (·.declaredName)
    = (m.keptFields.filter fun f => f.name = identityName || !f.isReference o).map (·.name)
  /-- Edges are those of the fields that are kept and not stored. -/
  edges : E.edges.map (·.declaredName)
    = (m.keptFields.filter fun f => !(f.name = identityName || !f.isReference o)).map (·.name)
  /-- A kept field has one member, an ignored one has none. -/
  once : ∀ f ∈ m.fields,
    (E.attributes.map (·.declaredName) ++ E.edges.map (·.declaredName)).count f.name
      = if f.isIgnored then 0 else 1
  /-- There is one identity if a kept field has that name, and none if not. -/
  identity : (E.attributes.filter (·.isIdentity)).length
    = if ∃ f ∈ m.keptFields, f.name = identityName then 1 else 0

namespace MessageDescriptor

variable {m : MessageDescriptor}

theorem storedFields_eq (o : CompileOptions) (m : MessageDescriptor) :
    m.storedFields o = m.keptFields.filter fun f => f.name = identityName || !f.isReference o := by
  rw [storedFields, keptFields, List.filter_filter]
  refine List.filter_congr fun f _ => ?_
  rw [FieldDescriptor.isStored, Bool.and_comm]

theorem openReferences_eq (o : CompileOptions) (m : MessageDescriptor) :
    m.openReferences o
      = m.keptFields.filter fun f => !(f.name = identityName || !f.isReference o) := by
  rw [openReferences, keptFields, List.filter_filter]
  refine List.filter_congr fun f _ => ?_
  rw [FieldDescriptor.isOpen, Bool.and_assoc, Bool.and_comm, Bool.not_or, Bool.not_not,
    decide_not]

theorem keptFields_distinct (hd : (m.fields.map (·.name)).Nodup) :
    (m.keptFields.map (·.name)).Nodup :=
  hd.sublist (List.filter_sublist.map _)

/-- With distinct names, the name of a field tells whether it is kept. -/
theorem count_keptFields (hd : (m.fields.map (·.name)).Nodup) {f : FieldDescriptor}
    (hf : f ∈ m.fields) :
    (m.keptFields.map (·.name)).count f.name = if f.isIgnored then 0 else 1 := by
  have hmem : f.name ∈ m.keptFields.map (·.name) ↔ ¬ f.isIgnored = true := by
    rw [List.mem_map]
    constructor
    · intro h
      obtain ⟨g, hg, hname⟩ := h
      obtain ⟨hg, hkept⟩ := List.mem_filter.1 hg
      obtain rfl : g = f := List.inj_on_of_nodup_map hd hg hf hname
      simpa using hkept
    · intro h
      exact ⟨f, List.mem_filter.2 ⟨hf, by simpa using h⟩, rfl⟩
  rw [(keptFields_distinct hd).count]
  simp only [hmem, ite_not]

/-- One kept field at most has the name of the identity. -/
theorem length_filter_identityName (hd : (m.fields.map (·.name)).Nodup) :
    (m.keptFields.filter fun f => f.name = identityName).length
      = if ∃ f ∈ m.keptFields, f.name = identityName then 1 else 0 := by
  split
  next h =>
    obtain ⟨f, hf, hname⟩ := h
    rw [← hname, filter_key_eq_singleton (keptFields_distinct hd) hf]
    rfl
  next h =>
    rw [List.length_eq_zero_iff, List.filter_eq_nil_iff]
    intro f hf hname
    exact h ⟨f, hf, of_decide_eq_true hname⟩

end MessageDescriptor

/-- An entity with the attributes of the stored fields and the edges of the
open ones keeps all that its message declares. -/
theorem Entity.keeps_of_members {m : MessageDescriptor} {E : Entity}
    (hd : (m.fields.map (·.name)).Nodup)
    (ha : List.Forall₂ (fun f a => classify o m.name f = .ok a) (m.storedFields o) E.attributes)
    (he : (m.openReferences o).map (·.name) = E.edges.map (·.declaredName)) : E.Keeps o m := by
  have hattributes := map_declaredName_of_classify ha
  rw [MessageDescriptor.storedFields_eq] at ha hattributes
  rw [MessageDescriptor.openReferences_eq] at he
  refine ⟨hattributes, he.symm, ?_, ?_⟩
  · intro f hf
    -- both halves together are the kept fields, in another order
    rw [← MessageDescriptor.count_keptFields hd hf, hattributes, ← he, ← List.map_append]
    exact ((List.filter_append_perm _ m.keptFields).map _).count_eq _
  · -- the identity among the attributes is the one among the stored fields
    have hidentity : Relator.LiftFun (fun f a => classify o m.name f = .ok a) (· ↔ ·)
        (fun f => decide (f.name = identityName) = true) (fun a => a.isIdentity = true) := by
      intro f a h
      exact decide_eq_true_iff.trans (isIdentity_of_classify h).symm
    rw [← MessageDescriptor.length_filter_identityName hd,
      ← (List.rel_filter hidentity ha).length_eq, List.filter_filter]
    refine congrArg List.length (List.filter_congr fun f _ => ?_)
    by_cases hid : f.name = identityName <;> simp [hid]

/-! ## §3. Compilations. -/

/-- The edges of an entity are declared by its references. -/
theorem Catalog.declaredNames_of_entity {c : Catalog} {e : CatalogEntry} {E : Entity}
    (h : c.entity e = .ok E) :
    E.attributes = e.attributes
      ∧ e.references.map (·.name) = E.edges.map (·.declaredName) := by
  obtain ⟨ds, hds, rfl⟩ := entity_eq_ok_iff.1 h
  refine ⟨rfl, map_eq_map_of_forall₂ hds fun f d hd => ?_⟩
  obtain ⟨t, g, -, rfl⟩ := resolve_eq_ok_iff.1 hd
  rfl

/-- **NOTHING IS LOST, DOUBLED OR MOVED**: the compiled entities are those of
the selected messages, in their order, and each one has the members that its
message declares. -/
theorem compiled_members {es : List Entity} (h : compile o s = .ok es) :
    es.map (·.name) = s.selected.map (·.name)
      ∧ List.Forall₂ (fun m E => E.Keeps o m) s.selected es := by
  refine ⟨(compiled_of_compile h).names_eq, ?_⟩
  obtain ⟨c, -, hes⟩ := entities_of_compile h
  refine hes.imp fun m E hE => ?_
  obtain ⟨e, he, hE⟩ := hE
  obtain ⟨hattributes, hedges⟩ := Catalog.declaredNames_of_entity hE
  have hd := describes_of_ofMessage he
  refine Entity.keeps_of_members hd.distinct ?_ ?_
  · rw [hattributes]
    exact attributes_of_ofMessage he
  · rw [← hedges, hd.references]

/-- Posts with an identity of a message type, a time, an ignored field and
an author between them. -/
def datedPosts : DescriptorSet :=
  ⟨[{ name := "Post", generate := true,
      fields := [.ofMessage "at" "google.protobuf.Timestamp", .ofMessage "author" "User",
        { name := "old", kind := .group, options := { ignore := true } },
        .ofMessage "id" "PostId", { name := "title", kind := .string }] },
    { name := "Draft", fields := [.ofMessage "author" "User"] },
    { name := "User", generate := true,
      fields := [(FieldDescriptor.ofMessage "posts" "Post").asRepeated] }]⟩

theorem datedPosts_members :
    ∃ es, compile {} datedPosts = .ok es ∧ es.map (·.name) = ["Post", "User"]
      ∧ ∃ E ∈ es, E.attributes.map (·.declaredName) = ["at", "id", "title"]
        ∧ E.edges.map (·.declaredName) = ["author"]
        ∧ (E.attributes.map (·.declaredName) ++ E.edges.map (·.declaredName)).count "old" = 0
        ∧ (E.attributes.filter (·.isIdentity)).length = 1 := by
  obtain ⟨es, h⟩ : ∃ es, compile {} datedPosts = .ok es := ⟨_, rfl⟩
  obtain ⟨hnames, hkeeps⟩ := compiled_members h
  let post : MessageDescriptor := datedPosts.entities.head (by decide)
  obtain ⟨E, hE, hpost⟩ := exists_right_of_mem hkeeps post (by decide)
  refine ⟨es, h, hnames, E, hE, hpost.attributes, hpost.edges, ?_, ?_⟩
  · exact hpost.once (post.fields[2]) (by decide)
  · rw [hpost.identity]
    decide

end EntitySchema
