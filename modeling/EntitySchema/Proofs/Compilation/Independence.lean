/-
  EntitySchema.Proofs.Compilation.Independence
  ────────────────────────────────
  **LINKS AND ATTRIBUTES DO NOT INFLUENCE EACH OTHER.**

  A field carries overrides for its attribute and overrides for its edge,
  some of the same name, and each half of a compilation reads its own:

      edges        names, targets, which references repeat, edge overrides
      attributes   everything but the edge overrides

  Edges show the attributes of their targets in their sort keys, but by
  name only.  So no override of an attribute reaches an edge, nor does the
  kind of a stored field; and no override of an edge reaches an attribute.

  Main result: `links_and_attributes_independent`.
-/
import EntitySchema.Proofs.Compilation.Likeness
import EntitySchema.Proofs.Compilation.MemberNames
import EntitySchema.Proofs.Compilation.Reordering

namespace EntitySchema

open Identifier

variable {o : CompileOptions} {s t : DescriptorSet}

/-! ## §1. What edges read of the fields. -/

/-- Fields that may differ in all that edges do not read: a field that waits
for no counterpart may be of any type, as long as it waits for none. -/
structure FieldDescriptor.LinkedAlike (o : CompileOptions) (f f' : FieldDescriptor) : Prop where
  name : f'.name = f.name
  ignored : f'.isIgnored = f.isIgnored
  edge : f'.options.edge = f.options.edge
  type : f'.kind = f.kind ∧ f'.repeated = f.repeated ∧ f'.typeName = f.typeName
    ∨ f.isOpen o = false ∧ f'.isOpen o = false

namespace FieldDescriptor.LinkedAlike

variable {f f' : FieldDescriptor}

theorem isOpen_eq (h : f.LinkedAlike o f') : f'.isOpen o = f.isOpen o := by
  rcases h.type with ⟨hkind, -, htype⟩ | ⟨hf, hf'⟩
  · simp only [isOpen, isReference, isTimestamp, isMessage, h.name, h.ignored, hkind, htype]
  · rw [hf, hf']

theorem isStored_eq (h : f.LinkedAlike o f') : f'.isStored o = f.isStored o := by
  rw [FieldDescriptor.isStored_eq, FieldDescriptor.isStored_eq, h.isOpen_eq, h.ignored]

/-- References have kept all that pairing reads. -/
theorem interchangeable (h : f.LinkedAlike o f') (hf : f.isOpen o = true) :
    f.Interchangeable f' := by
  rcases h.type with ⟨-, hrepeated, htype⟩ | ⟨hclosed, -⟩
  · exact ⟨⟨h.name, by rw [target?, target?, htype], hrepeated⟩, h.edge⟩
  · rw [hf] at hclosed
    cases hclosed

end FieldDescriptor.LinkedAlike

/-! ## §2. Entries and their edges. -/

/-- The names to sort an entity by are those of its stored fields, without
the identity, whatever their kinds are. -/
theorem orderable_names_of_ofMessage {m : MessageDescriptor} {e : CatalogEntry}
    (h : CatalogEntry.ofMessage o m = .ok e) :
    e.orderable.map (·.name)
      = ((m.storedFields o).filter (·.name ≠ identityName)).map fun f => snake f.name := by
  have hfiltered : List.Forall₂ (fun f a => classify o m.name f = .ok a)
      ((m.storedFields o).filter (·.name ≠ identityName)) e.orderable := by
    refine List.rel_filter (fun f a hf => ?_) (attributes_of_ofMessage h)
    have hid := isIdentity_of_classify hf
    simp only [decide_not, Bool.not_eq_true', decide_eq_false_iff_not, ← hid, Bool.not_eq_true]
  refine (map_eq_map_of_forall₂ hfiltered fun f a hf => ?_).symm
  rw [name_of_classify hf, declaredName_of_classify hf]

namespace MessageDescriptor.Fieldwise

variable {m m' : MessageDescriptor}

theorem storedFields (h : m.Fieldwise (FieldDescriptor.LinkedAlike o) m') :
    List.Forall₂ (FieldDescriptor.LinkedAlike o) (m.storedFields o) (m'.storedFields o) := by
  refine List.rel_filter (fun f f' hf => ?_) h.fields
  show f.isStored o = true ↔ f'.isStored o = true
  rw [hf.isStored_eq]

theorem openReferences (h : m.Fieldwise (FieldDescriptor.LinkedAlike o) m') :
    List.Forall₂ FieldDescriptor.Interchangeable (m.openReferences o) (m'.openReferences o) := by
  have hopen : List.Forall₂ (FieldDescriptor.LinkedAlike o) (m.openReferences o)
      (m'.openReferences o) := by
    refine List.rel_filter (fun f f' hf => ?_) h.fields
    show f.isOpen o = true ↔ f'.isOpen o = true
    rw [hf.isOpen_eq]
  refine forall₂_imp_of_mem hopen fun f hf f' hff' => ?_
  exact hff'.interchangeable (List.of_mem_filter hf)

theorem resembles (h : m.Fieldwise (FieldDescriptor.LinkedAlike o) m') {e e' : CatalogEntry}
    (he : CatalogEntry.ofMessage o m = .ok e) (he' : CatalogEntry.ofMessage o m' = .ok e') :
    e.Resembles FieldDescriptor.Interchangeable e' where
  name := by
    rw [(describes_of_ofMessage he).name_eq, (describes_of_ofMessage he').name_eq, h.name]
  orderable := by
    rw [orderable_names_of_ofMessage he, orderable_names_of_ofMessage he']
    -- identities have kept their names, and so have all others
    have hnamed : List.Forall₂ (FieldDescriptor.LinkedAlike o)
        ((m.storedFields o).filter (·.name ≠ identityName))
        ((m'.storedFields o).filter (·.name ≠ identityName)) := by
      refine List.rel_filter (fun f f' hf => ?_) h.storedFields
      show decide (f.name ≠ identityName) = true ↔ decide (f'.name ≠ identityName) = true
      rw [hf.name]
    exact (map_eq_map_of_forall₂ hnamed fun f f' hf => by rw [hf.name]).symm
  references := by
    rw [(describes_of_ofMessage he).references, (describes_of_ofMessage he').references]
    exact h.openReferences

end MessageDescriptor.Fieldwise

namespace Catalog

variable {c c' : Catalog}

theorem entries_of_linkedAlike (h : s.Fieldwise (FieldDescriptor.LinkedAlike o) t)
    (hc : build o s = .ok c) (hc' : build o t = .ok c') :
    List.Forall₂ (CatalogEntry.Resembles FieldDescriptor.Interchangeable) c.entries c'.entries := by
  -- from an entry to its message, on to the related one, and to its entry
  have hmessages : List.Forall₂ (fun e m' => ∃ m, CatalogEntry.ofMessage o m = .ok e
      ∧ m.Fieldwise (FieldDescriptor.LinkedAlike o) m') c.entries t.selected :=
    forall₂_trans (entries_of_build hc).flip h.selected fun e _ m _ m' he hm => ⟨m, he, hm⟩
  refine forall₂_trans hmessages (entries_of_build hc') fun e _ m' _ e' hm he' => ?_
  obtain ⟨m, he, hm⟩ := hm
  exact hm.resembles he he'

/-- Entries that resemble each other in the same places are found under the
same names. -/
theorem resembles_of_entries (hc : c.Indexed) (hc' : c'.Indexed)
    (h : List.Forall₂ (CatalogEntry.Resembles FieldDescriptor.Interchangeable) c.entries
      c'.entries) : c.Resembles c' := by
  intro n
  rw [hc.get?_eq, hc'.get?_eq]
  refine forall₂_find? h fun e e' he => ?_
  rw [he.name]

end Catalog

/-! ## §3. Two sets. -/

/-- **LINKS AND ATTRIBUTES DO NOT INFLUENCE EACH OTHER.**  Where the fields of
two sets differ only in what edges do not read, their entities have equal
edges, or equal faults in resolving them.  Where they differ only in the
overrides of edges, their entities have equal attributes, or neither set has
a catalog, for the same fault. -/
theorem links_and_attributes_independent (o : CompileOptions) (s t : DescriptorSet) :
    (s.Fieldwise (FieldDescriptor.LinkedAlike o) t →
      ∀ c c', Catalog.build o s = .ok c → Catalog.build o t = .ok c' →
        List.Forall₂ (fun e e' => e'.name = e.name ∧ c'.resolveAll e' = c.resolveAll e)
          c.entries c'.entries)
      ∧ (s.Fieldwise FieldDescriptor.StoredAlike t →
        SameOutcome
          (fun c c' => List.Forall₂ (fun e e' => e'.name = e.name ∧ e'.attributes = e.attributes)
            c.entries c'.entries)
          (Catalog.build o s) (Catalog.build o t)) := by
  constructor
  · -- the catalogs find entries that differ in nothing that pairing reads
    intro h c c' hc hc'
    have hentries := Catalog.entries_of_linkedAlike h hc hc'
    have hcatalogs := Catalog.resembles_of_entries (Catalog.lists_of_build hc).indexed
      (Catalog.lists_of_build hc').indexed hentries
    exact hentries.imp fun e e' he => ⟨he.name, hcatalogs.resolveAll_eq he⟩
  · -- each field is placed as it was
    intro h
    refine ((keepsPlaces_storedAlike o).build_like h.selected).imp fun c c' hc => ?_
    exact hc.entries.imp fun e e' he => ⟨he.name, he.attributes⟩

/-- The signed posts with a title that is a list of numbers, and with other
overrides of the attributes. -/
def renumberedPosts : DescriptorSet :=
  ⟨[{ name := "Post", generate := true,
      fields := [
        { name := "title", kind := .int64, repeated := true, optional := true,
          options := { comment := "pages", structTag := "json", immutable := true } },
        { FieldDescriptor.ofMessage "author" "User" with
          optional := true, options := { storageKey := "writer", unique := true } }] },
    { name := "User", generate := true,
      fields := [{ name := "name", kind := .enum, enumValues := ["ANN", "BOB"] },
        { name := "age", kind := .uint64, options := { graphqlType := "Age" } },
        (FieldDescriptor.ofMessage "posts" "Post").asRepeated] }]⟩

/-- The signed posts with an author that names no list of posts. -/
def strayedPosts : DescriptorSet :=
  ⟨[{ name := "Post", generate := true,
      fields := [{ name := "title", kind := .string },
        (FieldDescriptor.ofMessage "author" "User").withRef "drafts"] },
    { name := "User", generate := true,
      fields := [{ name := "name", kind := .string }, { name := "age", kind := .int32 },
        { (FieldDescriptor.ofMessage "posts" "Post").asRepeated with
          options := { edge := { comment := "in print", required := true } } }] }]⟩

/-- Other attributes leave the edges as they were, and edges that cannot be
resolved leave the attributes as they were. -/
theorem signedPosts_independent :
    ∃ c, Catalog.build {} signedPosts = .ok c
      ∧ (∃ c', Catalog.build {} renumberedPosts = .ok c'
        ∧ List.Forall₂ (fun e e' => e'.name = e.name ∧ c'.resolveAll e' = c.resolveAll e)
          c.entries c'.entries)
      ∧ (∀ es, compile {} strayedPosts ≠ .ok es)
      ∧ SameOutcome
        (fun c c' => List.Forall₂ (fun e e' => e'.name = e.name ∧ e'.attributes = e.attributes)
          c.entries c'.entries)
        (Catalog.build {} signedPosts) (Catalog.build {} strayedPosts) := by
  have hlinked : signedPosts.Fieldwise (FieldDescriptor.LinkedAlike {}) renumberedPosts := by
    refine .cons ⟨rfl, rfl, ?_⟩ (.cons ⟨rfl, rfl, ?_⟩ .nil)
    · exact .cons ⟨rfl, rfl, rfl, .inr (by decide)⟩
        (.cons ⟨rfl, rfl, rfl, .inl (by decide)⟩ .nil)
    · exact .cons ⟨rfl, rfl, rfl, .inr (by decide)⟩ (.cons ⟨rfl, rfl, rfl, .inr (by decide)⟩
        (.cons ⟨rfl, rfl, rfl, .inl (by decide)⟩ .nil))
  have hstored : signedPosts.Fieldwise FieldDescriptor.StoredAlike strayedPosts := by
    refine .cons ⟨rfl, rfl, ?_⟩ (.cons ⟨rfl, rfl, ?_⟩ .nil)
    · exact .cons rfl (.cons rfl .nil)
    · exact .cons rfl (.cons rfl (.cons rfl .nil))
  obtain ⟨c, hc⟩ : ∃ c, Catalog.build {} signedPosts = .ok c := ⟨_, rfl⟩
  obtain ⟨c', hc'⟩ : ∃ c', Catalog.build {} renumberedPosts = .ok c' := ⟨_, rfl⟩
  refine ⟨c, hc, ⟨c', hc', ?_⟩, ?_, ?_⟩
  · exact (links_and_attributes_independent {} signedPosts renumberedPosts).1 hlinked c c' hc hc'
  · have hfault : compile {} strayedPosts
        = .error (.pairing ⟨"Post", "author", "User", .refNotFound "drafts"⟩) := rfl
    rw [hfault]
    intro es hes
    cases hes
  · exact (links_and_attributes_independent {} signedPosts strayedPosts).2 hstored

end EntitySchema
