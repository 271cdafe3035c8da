/-
  EntitySchema.Proofs.Compilation.Reordering
  ────────────────────────────────
  **COMPILING DOES NOT DEPEND ON ORDER.**

  Whoever declares the messages of a set in another order gets the same
  entities in that order.  Whoever declares the fields of messages in
  another order gets the same entities with their attributes and edges in
  another order, and so the sort keys that a unique edge takes from the
  attributes of its target; nothing else changes:

      target    title  year     ──▶    year  title
      edge      A_TITLE A_YEAR  ──▶    A_YEAR A_TITLE

  Main result: `compile_reordered`.
-/
import EntitySchema.Proofs.Catalog.Reordering
import EntitySchema.Proofs.Compilation.Edges

namespace EntitySchema

variable {o : CompileOptions} {s t : DescriptorSet}

/-! ## §1. Edges. -/

/-- The same edge, the sort keys of a unique one in another order. -/
structure Edge.Reordered (d d' : Edge) : Prop where
  same : d' = { d with annotations := d'.annotations }
  annotations : d'.annotations = d.annotations
    ∨ d.unique = true ∧ ∃ ks ks' : List String, ks.Perm ks'
      ∧ d.annotations = ks.map .orderField ∧ d'.annotations = ks'.map .orderField

/-- The counterpart is found wherever it stands. -/
theorem findCounterpart_of_perm {f g : FieldDescriptor} {cs cs' : List FieldDescriptor}
    (hd : (cs.map (·.name)).Nodup) (hp : cs.Perm cs') (h : findCounterpart f cs = .ok g) :
    findCounterpart f cs' = .ok g := by
  have hd' : (cs'.map (·.name)).Nodup := (hp.map _).nodup_iff.1 hd
  rw [findCounterpart_eq_ok_iff hd'] at *
  rw [findCounterpart_eq_ok_iff hd] at h
  simpa only [hp.mem_iff] using h

section Entries

variable {e e' t t' : CatalogEntry} {f g : FieldDescriptor}

/-- The references of the owner are counted, in whatever order. -/
theorem countBase_of_reordered (he : e.Reordered e') (n : String) :
    countBase e' f n = countBase e f n := by
  unfold countBase
  rw [((he.referencesTo n).filter _).length_eq]

/-- A unique edge has one sort key per attribute of its target. -/
theorem uniqueEdgeAnnotations_eq (edgeName : String) (t : CatalogEntry) :
    uniqueEdgeAnnotations edgeName t
      = (t.orderable.map fun a =>
          Identifier.sortKey edgeName ++ "_" ++ Identifier.sortKey a.name).map .orderField := by
  rw [uniqueEdgeAnnotations, List.map_map]
  rfl

theorem edgeAnnotations_of_reordered (he : e.Reordered e') (ht : t.Reordered t') (unique : Bool) :
    edgeAnnotations e' t' f unique = edgeAnnotations e t f unique
      ∨ unique = true ∧ ∃ ks ks' : List String, ks.Perm ks'
        ∧ edgeAnnotations e t f unique = ks.map .orderField
        ∧ edgeAnnotations e' t' f unique = ks'.map .orderField := by
  unfold edgeAnnotations
  cases unique with
  | false =>
      left
      simp only [Bool.false_eq_true, if_false, ht.name, countBase_of_reordered he]
  | true =>
      right
      simp only [if_true, uniqueEdgeAnnotations_eq]
      exact ⟨trivial, _, _, (ht.orderable.map _), rfl, rfl⟩

theorem reordered_ofPair (he : e.Reordered e') (ht : t.Reordered t') :
    (Edge.ofPair e t f g).Reordered (Edge.ofPair e' t' f g) where
  same := by
    simp only [Edge.ofPair, isBidirectional, he.name, ht.name]
  annotations := edgeAnnotations_of_reordered he ht _

end Entries

/-! ## §2. Entities. -/

/-- The same entity, its attributes and edges in another order. -/
structure Entity.Reordered (E E' : Entity) : Prop where
  same : E' = { E with attributes := E'.attributes, edges := E'.edges }
  attributes : E.attributes.Perm E'.attributes
  edges : ∃ ds, E.edges.Perm ds ∧ List.Forall₂ Edge.Reordered ds E'.edges

theorem scalarsOf_of_perm {as as' : List Attribute} (h : as.Perm as') :
    scalarsOf as' = scalarsOf as := by
  refine NameSet.ext_mem fun x => ?_
  rw [scalarsOf, scalarsOf, NameSet.mem_ofList, NameSet.mem_ofList]
  exact (h.filterMap _).mem_iff.symm

theorem entityAnnotations_of_perm {as as' : List Attribute} (h : as.Perm as') :
    entityAnnotations as' = entityAnnotations as := by
  unfold entityAnnotations
  rw [h.any_eq]

theorem reordered_assemble {n : String} {as as' : List Attribute} {ds ds' es : List Edge}
    (ha : as.Perm as') (hp : ds.Perm es) (hd : List.Forall₂ Edge.Reordered es ds') :
    (Entity.assemble n as ds).Reordered (.assemble n as' ds') where
  same := by
    simp only [Entity.assemble, scalarsOf_of_perm ha, entityAnnotations_of_perm ha]
  attributes := ha
  edges := ⟨es, hp, hd⟩

namespace Catalog

variable {c c' : Catalog} {e e' : CatalogEntry}

/-- A catalog serves its entities by what it finds. -/
theorem entity_congr (h : ∀ n, c'.get? n = c.get? n) : c'.entity = c.entity := by
  have hpair : c'.pair = c.pair := by
    funext owner standing f
    simp only [pair, h]
  have hresolve : c'.resolve = c.resolve := by
    funext owner standing f
    simp only [resolve, hpair]
  funext e
  simp only [entity, resolveAll, hresolve]

theorem exists_pair_of_reordered (h : c.Lists o s) (h' : c'.Lists o t)
    (hr : List.Forall₂ CatalogEntry.Reordered c.entries c'.entries) (he : e.Reordered e')
    {f g : FieldDescriptor} {x : CatalogEntry} (hx : c.pair e .declared f = .ok (x, g)) :
    ∃ x', c'.pair e' .declared f = .ok (x', g) ∧ x.Reordered x' := by
  -- what decides about a pair: the target, its candidates, and the check
  obtain ⟨hget, hfind, hcheck⟩ := pair_eq_ok.1 hx
  obtain ⟨x', hget', hreordered⟩ := h.exists_get?_of_reordered h' hr hget
  obtain ⟨m, hm, hmx⟩ := h.exists_message (h.get?_eq_some_iff.1 hget).1
  have hd := referencesTo_distinct h.admissible hm hmx e.name
  refine ⟨x', pair_eq_ok.2 ⟨hget', ?_, ?_⟩, hreordered⟩
  · rw [he.name]
    exact findCounterpart_of_perm hd (hreordered.referencesTo e.name) hfind
  · rw [he.name, hreordered.name]
    exact hcheck

theorem exists_resolve_of_reordered (h : c.Lists o s) (h' : c'.Lists o t)
    (hr : List.Forall₂ CatalogEntry.Reordered c.entries c'.entries) (he : e.Reordered e')
    {f : FieldDescriptor} {d : Edge} (hd : c.resolve e .declared f = .ok d) :
    ∃ d', c'.resolve e' .declared f = .ok d' ∧ d.Reordered d' := by
  obtain ⟨x, g, hpair, rfl⟩ := resolve_eq_ok_iff.1 hd
  obtain ⟨x', hpair', hx⟩ := exists_pair_of_reordered h h' hr he hpair
  exact ⟨_, resolve_eq_ok_iff.2 ⟨x', g, hpair', rfl⟩, reordered_ofPair he hx⟩

theorem exists_entity_of_reordered (h : c.Lists o s) (h' : c'.Lists o t)
    (hr : List.Forall₂ CatalogEntry.Reordered c.entries c'.entries) (he : e.Reordered e')
    {E : Entity} (hE : c.entity e = .ok E) : ∃ E', c'.entity e' = .ok E' ∧ E.Reordered E' := by
  obtain ⟨ds, hds, rfl⟩ := entity_eq_ok_iff.1 hE
  -- first the edges in the new order, then those of the other catalog
  obtain ⟨ds₁, hds₁, hperm⟩ := List.perm_comp_forall₂ he.references.symm hds
  have hedges : ∀ f d f', c.resolve e .declared f = .ok d → f = f' →
      ∃ d', c'.resolve e' .declared f' = .ok d' ∧ d.Reordered d' := by
    intro f d f' hd hf
    cases hf
    exact exists_resolve_of_reordered h h' hr he hd
  obtain ⟨ds', hds', hreordered⟩ :=
    exists_forall₂_of_related hds₁ (List.forall₂_refl e'.references) hedges
  refine ⟨_, entity_eq_ok_iff.2 ⟨ds', hds', rfl⟩, ?_⟩
  rw [he.name]
  exact reordered_assemble he.attributes hperm.symm hreordered

end Catalog

/-! ## §3. Compilations. -/

theorem selected_of_reordered
    (h : List.Forall₂ MessageDescriptor.Reordered s.entities t.entities) :
    List.Forall₂ MessageDescriptor.Reordered s.selected t.selected := by
  refine List.rel_filter (fun m m' hm => ?_) h
  show m.generate = true ↔ m'.generate = true
  rw [hm.generate]

/-- A message has one entity at most. -/
theorem rightUnique_entity (o : CompileOptions) (c : Catalog) :
    Relator.RightUnique fun m E =>
      ∃ e, CatalogEntry.ofMessage o m = .ok e ∧ c.entity e = .ok E := by
  intro m E E' h h'
  obtain ⟨e, he, hE⟩ := h
  obtain ⟨e', he', hE'⟩ := h'
  cases he.symm.trans he'
  cases hE.symm.trans hE'
  rfl

/-- Messages in another order: each one gets the same entity. -/
theorem exists_compile_of_perm {es : List Entity} (hp : s.selected.Perm t.selected)
    (h : compile o s = .ok es) :
    ∃ object : MessageDescriptor → Entity, es = s.selected.map object
      ∧ compile o t = .ok (t.selected.map object) := by
  obtain ⟨c, hc, hes⟩ := entities_of_compile h
  obtain ⟨c', hc', hfind⟩ := Catalog.exists_build_of_perm hp hc
  obtain ⟨ts, hts, -⟩ := List.perm_comp_forall₂ hp.symm hes
  have : Nonempty Entity := ⟨.assemble "" [] []⟩
  obtain ⟨object, hobject⟩ := exists_map_of_rightUnique (rightUnique_entity o c)
  -- the other catalog finds the same, so it makes the same of each message
  rw [hobject _ _ hts, ← Catalog.entity_congr hfind] at hts
  exact ⟨object, hobject _ _ hes, compile_of_entities hc' hts⟩

/-- Fields in another order: each message gets the same entity in another
order. -/
theorem exists_compile_of_reordered {es : List Entity}
    (hr : List.Forall₂ MessageDescriptor.Reordered s.selected t.selected)
    (h : compile o s = .ok es) :
    ∃ es', compile o t = .ok es' ∧ List.Forall₂ Entity.Reordered es es' := by
  obtain ⟨c, hc, hes⟩ := compile_eq_ok_iff.1 h
  obtain ⟨c', hc', hentries⟩ := Catalog.exists_build_of_reordered hr hc
  have hl := Catalog.lists_of_build hc
  have hl' := Catalog.lists_of_build hc'
  obtain ⟨es', hes', hreordered⟩ := exists_forall₂_of_related hes hentries
    fun e E e' hE he => Catalog.exists_entity_of_reordered hl hl' hentries he hE
  exact ⟨es', compile_eq_ok_iff.2 ⟨c', hc', hes'⟩, hreordered⟩

/-- **COMPILING DOES NOT DEPEND ON ORDER**: messages in another order get
the same entities in that order, and with their fields in another order too
they get the same entities with their contents in another order. -/
theorem compile_reordered {es : List Entity} (h : compile o s = .ok es) {t u : DescriptorSet}
    (ht : s.entities.Perm t.entities)
    (hu : List.Forall₂ MessageDescriptor.Reordered t.entities u.entities) :
    ∃ object : MessageDescriptor → Entity, es = s.selected.map object
      ∧ compile o t = .ok (t.selected.map object)
      ∧ ∃ es', compile o u = .ok es'
        ∧ List.Forall₂ Entity.Reordered (t.selected.map object) es' := by
  obtain ⟨object, hes, hts⟩ := exists_compile_of_perm (ht.filter _) h
  exact ⟨object, hes, hts, exists_compile_of_reordered (selected_of_reordered hu) hts⟩

/-- Posts of one user each, who has a name and an age. -/
def signedPosts : DescriptorSet :=
  ⟨[{ name := "Post", generate := true,
      fields := [{ name := "title", kind := .string }, .ofMessage "author" "User"] },
    { name := "User", generate := true,
      fields := [{ name := "name", kind := .string }, { name := "age", kind := .int32 },
        (FieldDescriptor.ofMessage "posts" "Post").asRepeated] }]⟩

/-- Users before posts, and the fields of both from the last to the first. -/
def reversedPosts : DescriptorSet :=
  ⟨signedPosts.entities.reverse.map fun m => { m with fields := m.fields.reverse }⟩

theorem reversedPosts_compiled :
    ∃ es, compile {} signedPosts = .ok es
      ∧ compile {} ⟨signedPosts.entities.reverse⟩ = .ok es.reverse
      ∧ ∃ es', compile {} reversedPosts = .ok es'
        ∧ List.Forall₂ Entity.Reordered es.reverse es' := by
  obtain ⟨es, h⟩ : ∃ es, compile {} signedPosts = .ok es := ⟨_, rfl⟩
  have hu : List.Forall₂ MessageDescriptor.Reordered signedPosts.entities.reverse
      reversedPosts.entities := by
    refine List.forall₂_map_right_iff.2 (List.forall₂_same.2 fun m _ => ?_)
    exact ⟨rfl, rfl, (List.reverse_perm _).symm⟩
  obtain ⟨object, rfl, hts, hes'⟩ := compile_reordered h
    (t := ⟨signedPosts.entities.reverse⟩) (u := reversedPosts) (List.reverse_perm _).symm hu
  exact ⟨_, h, hts, hes'⟩

example : [signedPosts, reversedPosts].map (fun s => (compile {} s).toOption.map
      fun es => es.flatMap fun E => E.edges.flatMap (·.annotations))
    = [some [.orderField "AUTHOR_NAME", .orderField "AUTHOR_AGE", .relayConnection,
        .orderField "POST_COUNT"],
      some [.relayConnection, .orderField "POST_COUNT", .orderField "AUTHOR_AGE",
        .orderField "AUTHOR_NAME"]] := by decide +kernel

end EntitySchema
