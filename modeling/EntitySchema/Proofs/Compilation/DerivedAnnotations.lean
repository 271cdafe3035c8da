/-
  EntitySchema.Proofs.Compilation.DerivedAnnotations
  ────────────────────────────────
  **WHAT AN EDGE IS ANNOTATED WITH.**

  Whoever reads compiled entities can tell the annotations of an edge
  without the descriptors.  Its own field decides whether the edge leads to
  one object, and that decides what it is annotated with:

      author    not repeated  →  unique        AUTHOR_NAME, AUTHOR_ALIASES
      written   repeated      →  not unique    a connection, WRITTEN_COUNT

  The keys of a unique edge end in those of its target's attributes, as far
  as these have any: many values have none of their own.

  Main result: `edge_annotations_derived`.
-/
import EntitySchema.Proofs.Compilation.SelfReference
import EntitySchema.Proofs.Compilation.SortKeys

namespace EntitySchema

open Identifier

variable {o : CompileOptions} {s : DescriptorSet} {es : List Entity} {E : Entity} {d : Edge}

/-! ## §1. Edges to one object. -/

theorem Cardinality.isUnique_iff {k : Cardinality} :
    k.isUnique = true ↔ k = .oneToOne ∨ k = .manyToOne := by
  cases k <;> decide

theorem Catalog.unique_eq_of_entity {c : Catalog} {e : CatalogEntry} (hE : c.entity e = .ok E)
    (hd : d ∈ E.edges) : d.unique = d.cardinality.isUnique := by
  obtain ⟨ds, hds, rfl⟩ := entity_eq_ok_iff.1 hE
  obtain ⟨f, -, hf⟩ := exists_left_of_mem hds d hd
  obtain ⟨t, g, -, rfl⟩ := resolve_eq_ok_iff.1 hf
  rfl

theorem unique_eq_of_compile (h : compile o s = .ok es) (hE : E ∈ es) (hd : d ∈ E.edges) :
    d.unique = d.cardinality.isUnique := by
  obtain ⟨c, -, hes⟩ := compile_eq_ok_iff.1 h
  obtain ⟨e, -, he⟩ := exists_left_of_mem hes E hE
  exact Catalog.unique_eq_of_entity he hd

/-- The field that declares the edge of a reference is that of the
reference. -/
theorem Edge.Joins.eq_of_declaredBy (hs : s.Admissible o) {r q : Reference o s} (hj : d.Joins r q)
    {f : FieldDescriptor} (hf : d.DeclaredBy s f) : f = r.field := by
  obtain ⟨m, hm, howner, hfm, hname⟩ := hf
  obtain rfl : m = r.owner := hs.owner_eq hm r.owner_mem (howner.trans hj.owner)
  have hr : r.field ∈ r.owner.fields := List.mem_of_mem_filter r.field_mem
  exact List.inj_on_of_nodup_map (hs.fields_distinct _ hm) hfm hr (hname.trans hj.declaredName)

/-! ## §2. Annotations. -/

/-- What an edge from `E` to `T` is annotated with, told from both entities. -/
structure Edge.Annotated (s : DescriptorSet) (E T : Entity) (d : Edge) : Prop where
  owner : d.owner = E.name
  declared : ∃ f, d.DeclaredBy s f
  unique_iff : d.unique = true ↔ d.cardinality = .oneToOne ∨ d.cardinality = .manyToOne
  /-- A field that declares the edge repeats iff the edge is not unique. -/
  unique_iff_single : ∀ f, d.DeclaredBy s f → (d.unique = true ↔ f.repeated = false)
  /-- A unique edge has a key per mutable attribute of its target. -/
  single : d.unique = true → d.annotations = T.mutableAttributes.map fun a =>
    .orderField (sortKey d.name ++ "_" ++ sortKey a.name)
  /-- The second part of such a key is the key of the attribute itself, unless
  that one holds many values. -/
  own_key : ∀ a ∈ T.mutableAttributes, a.storageKind.isCollection = false →
    a.orderKeys = [sortKey a.name]
  /-- Any other edge is a connection that is sorted by a number of objects. -/
  several : d.unique = false → d.annotations = [.relayConnection,
    .orderField
      (sortKey (if 2 ≤ (E.listsOf T.name).length then d.declaredName else T.name) ++ "_COUNT")]

/-- **WHAT AN EDGE IS ANNOTATED WITH** follows from the entities at its
ends. -/
theorem edge_annotations_derived (h : compile o s = .ok es) (hE : E ∈ es) (hd : d ∈ E.edges) :
    ∃ T, es.filter (·.name = d.target) = [T] ∧ d.Annotated s E T := by
  have hc := compiled_of_compile h
  obtain ⟨r, q, ho, -, hj⟩ := hc.exists_reference hE hd
  obtain ⟨T, hT, hname, hannotations⟩ := annotations_of_compile h hE hd
  have hunique := unique_eq_of_compile h hE hd
  rw [Edge.derivedAnnotations, Entity.countName] at hannotations
  refine ⟨T, hc.filter_name hT hname, ?_⟩
  refine ⟨hj.owner.trans ho, ⟨r.field, hj.declaredBy⟩, ?_, ?_, ?_, ?_, ?_⟩
  · rw [hunique, Cardinality.isUnique_iff]
  · -- the field of the reference is the only one that declares the edge
    intro f hf
    obtain rfl := hj.eq_of_declaredBy hc.admissible hf
    rw [hunique, hj.cardinality, Cardinality.isUnique_between, Bool.not_eq_true']
  · intro hsingle
    rw [hannotations, if_pos hsingle]
  · -- what is mutable and holds one value can be sorted by
    intro a ha hkind
    obtain ⟨ha, hid⟩ := List.mem_filter.1 ha
    have hsortable : a.isSortable = true := by rw [Attribute.isSortable, hid, hkind]; rfl
    rw [orderKeys_of_compile h hT ha, if_pos hsortable]
  · intro hseveral
    rw [hannotations, hseveral, hname]
    rfl

/-- Users have names and aliases, and two lists of posts, each with its own
field on the other side. -/
def creditedPosts : DescriptorSet :=
  ⟨[{ name := "User", generate := true,
      fields := [{ name := "id", kind := .string }, { name := "name", kind := .string },
        { name := "aliases", kind := .string, repeated := true },
        (FieldDescriptor.ofMessage "written" "Post").asRepeated,
        (FieldDescriptor.ofMessage "edited" "Post").asRepeated] },
    { name := "Post", generate := true,
      fields := [(FieldDescriptor.ofMessage "author" "User").withRef "written",
        (FieldDescriptor.ofMessage "editors" "User").asRepeated.withRef "edited"] }]⟩

theorem creditedPosts_annotated :
    ∃ es, compile {} creditedPosts = .ok es
      ∧ (es.flatMap fun E => E.edges.map fun d => (d.name, d.annotations))
        = [("written", [.relayConnection, .orderField "WRITTEN_COUNT"]),
          ("edited", [.relayConnection, .orderField "EDITED_COUNT"]),
          ("author", [.orderField "AUTHOR_NAME", .orderField "AUTHOR_ALIASES"]),
          ("editors", [.relayConnection, .orderField "USER_COUNT"])]
      ∧ ∀ E ∈ es, ∀ d ∈ E.edges, ∃ T, es.filter (·.name = d.target) = [T]
        ∧ d.Annotated creditedPosts E T := by
  obtain ⟨es, h⟩ : ∃ es, compile {} creditedPosts = .ok es := ⟨_, rfl⟩
  have hannotations : (compile {} creditedPosts).toOption.map
      (fun es => es.flatMap fun E => E.edges.map fun d => (d.name, d.annotations))
      = some [("written", [.relayConnection, .orderField "WRITTEN_COUNT"]),
          ("edited", [.relayConnection, .orderField "EDITED_COUNT"]),
          ("author", [.orderField "AUTHOR_NAME", .orderField "AUTHOR_ALIASES"]),
          ("editors", [.relayConnection, .orderField "USER_COUNT"])] := by decide +kernel
  rw [h] at hannotations
  exact ⟨es, h, Option.some.inj hannotations, fun E hE d hd => edge_annotations_derived h hE hd⟩

end EntitySchema
