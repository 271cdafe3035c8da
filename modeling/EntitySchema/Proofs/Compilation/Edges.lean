/-
  EntitySchema.Proofs.Compilation.Edges
  ────────────────────────────────
  **WHICH EDGES A COMPILATION YIELDS.**

  A compilation succeeds iff its catalog can be built and every reference
  has a partner.  Then its entities are those of the selected messages, and
  the edges of each one are those of its open references, all in
  declaration order, each one joining a reference to its partner:

      compile o s = ok es  →  es are the compiled entities of s

  All that later laws need of an edge stands in `Edge.Joins`, so none of
  them looks at the search again.
-/
import EntitySchema.Compilation
import EntitySchema.Proofs.Pairing.Partner

namespace EntitySchema

variable {o : CompileOptions} {s : DescriptorSet}

/-! ## §1. The edge of a reference and its partner. -/

/-- An edge leads from one reference to another. -/
structure Edge.Joins (d : Edge) (r q : Reference o s) : Prop where
  declaredName : d.declaredName = r.field.name
  owner : d.owner = r.owner.name
  target : d.target = q.owner.name
  counterpart : d.counterpart = q.field.name
  cardinality : d.cardinality = .between r.field.repeated q.field.repeated
  bidirectional : d.bidirectional = true ↔ r.owner.name = q.owner.name ∧ r.Names r
  direction : d.direction = edgeDirection d.bidirectional r.field

theorem joins_ofPair {r q : Reference o s} {e t : CatalogEntry} (he : e.Describes o r.owner)
    (ht : t.Describes o q.owner) : (Edge.ofPair e t r.field q.field).Joins r q where
  declaredName := rfl
  owner := he.name_eq
  target := ht.name_eq
  counterpart := rfl
  cardinality := rfl
  bidirectional := by
    show isBidirectional e t r.field = true ↔ _
    rw [isBidirectional, Bool.and_eq_true, decide_eq_true_eq, decide_eq_true_eq, he.name_eq,
      ht.name_eq]
    rfl
  direction := rfl

namespace Edge.Joins

variable {d : Edge} {r q : Reference o s}

/-- Only a reference that is its own partner by its own hint has a
bidirectional edge. -/
theorem bidirectional_iff (h : d.Joins r q) (hs : s.Admissible o) (hp : r.Partner q) :
    d.bidirectional = true ↔ r = q ∧ ¬ r.Silent := by
  rw [h.bidirectional]
  constructor
  · intro hb
    obtain ⟨ho, hn⟩ := hb
    have hr : ¬ r.Silent := fun hr => hr.not_names hn
    -- a reference to its own owner faces itself, and its hint picks itself
    have hself : r.Faces r := ⟨ho ▸ hp.faces.1, ho ▸ hp.faces.1⟩
    exact ⟨hs.eq_of_names hp.faces hself (hp.names hr) hn, hr⟩
  · intro hb
    obtain ⟨rfl, hr⟩ := hb
    exact ⟨rfl, hp.names hr⟩

/-- An edge points back iff its reference names another one. -/
theorem direction_eq_referencing_iff (h : d.Joins r q) (hs : s.Admissible o) (hp : r.Partner q)
    {n : String} :
    d.direction = .referencing n ↔ r.field.refHint = some n ∧ r ≠ q := by
  rw [h.direction, edgeDirection]
  cases hn : r.field.refHint with
  | none => simp
  | some k =>
      -- with a hint, only a bidirectional edge does not point back
      have hr : ¬ r.Silent := by
        rw [Reference.Silent, hn]
        exact Option.some_ne_none k
      have hb : d.bidirectional = true ↔ r = q := by
        rw [h.bidirectional_iff hs hp, and_iff_left hr]
      by_cases hrq : r = q
      · simp [hb.2 hrq, hrq]
      · simp [Bool.eq_false_iff.2 (mt hb.1 hrq), hrq]

theorem direction_eq_owning_iff (h : d.Joins r q) (hs : s.Admissible o) (hp : r.Partner q) :
    d.direction = .owning ↔ r.Silent ∨ r = q := by
  -- there are two directions, and the other one is known
  have hback := fun n => h.direction_eq_referencing_iff hs hp (n := n)
  cases hd : d.direction with
  | owning =>
      simp only [hd, reduceCtorEq, false_iff, not_and, not_not] at hback
      cases hn : r.field.refHint with
      | none => simp [Reference.Silent, hn]
      | some n => simp [hback n hn]
  | referencing n =>
      obtain ⟨hn, hrq⟩ := (hback n).1 hd
      simp [Reference.Silent, hn, hrq]

end Edge.Joins

/-! ## §2. Entities of messages. -/

/-- An entity has the name of a message and the edges of its references. -/
structure Entity.Realises (o : CompileOptions) (s : DescriptorSet) (m : MessageDescriptor)
    (E : Entity) : Prop where
  name : E.name = m.name
  edges : List.Forall₂
    (fun f d => ∃ r q : Reference o s, r.owner = m ∧ r.field = f ∧ r.Partner q ∧ d.Joins r q)
    (m.openReferences o) E.edges

namespace Catalog

variable {c : Catalog}

theorem resolve_eq_ok_iff {e : CatalogEntry} {standing : Standing} {f : FieldDescriptor}
    {d : Edge} :
    c.resolve e standing f = .ok d
      ↔ ∃ t g, c.pair e standing f = .ok (t, g) ∧ d = .ofPair e t f g := by
  unfold resolve
  cases c.pair e standing f with
  | error cause => simp
  | ok p =>
      obtain ⟨t, g⟩ := p
      simp [eq_comm]

theorem entity_eq_ok_iff {e : CatalogEntry} {E : Entity} :
    c.entity e = .ok E
      ↔ ∃ ds, List.Forall₂ (fun f d => c.resolve e .declared f = .ok d) e.references ds
        ∧ E = .assemble e.name e.attributes ds := by
  unfold entity
  simp only [bind_eq_ok_iff, mapError_eq_ok_iff, pure_eq_ok_iff, resolveAll, mapM_eq_ok_iff,
    eq_comm (b := E)]

/-- An open reference of a catalog is resolved iff it has a partner, and its
edge joins the two. -/
theorem exists_resolve_iff (h : c.Lists o s) {r : Reference o s} {e : CatalogEntry}
    (he : e.Describes o r.owner) {P : Edge → Prop} :
    (∃ d, c.resolve e .declared r.field = .ok d ∧ P d)
      ↔ ∃ t ∈ c.entries, ∃ q, t.Describes o q.owner ∧ r.Partner q
        ∧ P (.ofPair e t r.field q.field) := by
  constructor
  · intro hd
    obtain ⟨d, hd, hP⟩ := hd
    obtain ⟨t, g, hpair, rfl⟩ := resolve_eq_ok_iff.1 hd
    obtain ⟨ht, q, htq, rfl, hp⟩ := (pair_eq_ok_iff h he).1 hpair
    exact ⟨t, ht, q, htq, hp, hP⟩
  · intro hq
    obtain ⟨t, ht, q, htq, hp, hP⟩ := hq
    have hpair := (pair_eq_ok_iff h he).2 ⟨ht, q, htq, rfl, hp⟩
    exact ⟨_, resolve_eq_ok_iff.2 ⟨t, q.field, hpair, rfl⟩, hP⟩

theorem realises_of_entity (h : c.Lists o s) {m : MessageDescriptor} (hm : m ∈ s.selected)
    {e : CatalogEntry} (he : e.Describes o m) {E : Entity} (hE : c.entity e = .ok E) :
    E.Realises o s m := by
  obtain ⟨ds, hds, rfl⟩ := entity_eq_ok_iff.1 hE
  refine ⟨he.name_eq, ?_⟩
  rw [← he.references]
  -- a field that is resolved here is an open reference of the message
  have hmem := (List.forall₂_and_left (p := (· ∈ e.references)) _ _).2 ⟨fun f hf => hf, hds⟩
  refine hmem.imp ?_
  intro f d h'
  obtain ⟨hf, hd⟩ := h'
  let r : Reference o s := ⟨m, f, hm, he.references ▸ hf⟩
  obtain ⟨t, -, q, htq, hp, rfl⟩ := (exists_resolve_iff h (r := r) he (P := (d = ·))).1 ⟨d, hd, rfl⟩
  exact ⟨r, q, rfl, rfl, hp, joins_ofPair he htq⟩

theorem exists_entity (h : c.Lists o s) (hpart : ∀ r : Reference o s, ∃ q, r.Partner q)
    {e : CatalogEntry} (he : e ∈ c.entries) : ∃ E, c.entity e = .ok E := by
  obtain ⟨m, hm, hem⟩ := h.exists_message he
  have hall : ∀ f ∈ e.references, ∃ d, c.resolve e .declared f = .ok d := by
    intro f hf
    let r : Reference o s := ⟨m, f, hm, hem.references ▸ hf⟩
    obtain ⟨q, hp⟩ := hpart r
    obtain ⟨t, ht, htq⟩ := h.exists_entry q.owner_mem
    obtain ⟨d, hd, -⟩ := (exists_resolve_iff h (r := r) hem (P := fun _ => True)).2
      ⟨t, ht, q, htq, hp, trivial⟩
    exact ⟨d, hd⟩
  obtain ⟨ds, hds⟩ := exists_forall₂ hall
  exact ⟨_, entity_eq_ok_iff.2 ⟨ds, hds, rfl⟩⟩

end Catalog

/-! ## §3. Compilations. -/

/-- What a successful compilation of a set yields. -/
structure Compiled (o : CompileOptions) (s : DescriptorSet) (es : List Entity) : Prop where
  admissible : s.Admissible o
  entities : List.Forall₂ (fun m E => E.Realises o s m) s.selected es

theorem compile_eq_ok_iff {es : List Entity} :
    compile o s = .ok es ↔ ∃ c, Catalog.build o s = .ok c
      ∧ List.Forall₂ (fun e E => c.entity e = .ok E) c.entries es := by
  unfold compile
  simp only [bind_eq_ok_iff, mapM_eq_ok_iff]

/-- Each compiled entity is that of the entry of its message. -/
theorem entities_of_compile {es : List Entity} (h : compile o s = .ok es) :
    ∃ c, Catalog.build o s = .ok c
      ∧ List.Forall₂ (fun m E => ∃ e, CatalogEntry.ofMessage o m = .ok e ∧ c.entity e = .ok E)
        s.selected es := by
  obtain ⟨c, hc, hes⟩ := compile_eq_ok_iff.1 h
  refine ⟨c, hc, forall₂_trans (Catalog.entries_of_build hc) hes ?_⟩
  intro m _ e _ E he hE
  exact ⟨e, he, hE⟩

theorem compile_of_entities {es : List Entity} {c : Catalog} (hc : Catalog.build o s = .ok c)
    (h : List.Forall₂ (fun m E => ∃ e, CatalogEntry.ofMessage o m = .ok e ∧ c.entity e = .ok E)
      s.selected es) : compile o s = .ok es := by
  refine compile_eq_ok_iff.2 ⟨c, hc, forall₂_trans (Catalog.entries_of_build hc).flip h ?_⟩
  intro e _ m _ E he hE
  obtain ⟨e', he', hE⟩ := hE
  rw [he] at he'
  cases he'
  exact hE

theorem compiled_of_compile {es : List Entity} (h : compile o s = .ok es) : Compiled o s es := by
  obtain ⟨c, hc, hes⟩ := compile_eq_ok_iff.1 h
  have hl := Catalog.lists_of_build hc
  refine ⟨hl.admissible, forall₂_trans hl.entries hes ?_⟩
  intro m hm e _ E he hE
  exact Catalog.realises_of_entity hl hm he hE

namespace Compiled

variable {es : List Entity}

theorem names_eq (h : Compiled o s es) : es.map (·.name) = s.selected.map (·.name) :=
  (map_eq_map_of_forall₂ h.entities fun _ _ hE => hE.name.symm).symm

theorem names_distinct (h : Compiled o s es) : (es.map (·.name)).Nodup :=
  h.names_eq ▸ h.admissible.distinct

/-- Declared names identify the edges of an entity. -/
theorem edges_distinct (h : Compiled o s es) {E : Entity} (hE : E ∈ es) :
    (E.edges.map (·.declaredName)).Nodup := by
  obtain ⟨m, hm, hr⟩ := exists_left_of_mem h.entities E hE
  have hnames : (m.openReferences o).map (·.name) = E.edges.map (·.declaredName) := by
    refine map_eq_map_of_forall₂ hr.edges ?_
    intro f d hd
    obtain ⟨r, q, -, rfl, -, hj⟩ := hd
    exact hj.declaredName.symm
  exact hnames ▸ h.admissible.openReferences_distinct hm

/-- Every edge joins a reference of its entity to the partner. -/
theorem exists_reference (h : Compiled o s es) {E : Entity} (hE : E ∈ es) {d : Edge}
    (hd : d ∈ E.edges) :
    ∃ r q : Reference o s, r.owner.name = E.name ∧ r.Partner q ∧ d.Joins r q := by
  obtain ⟨m, -, hr⟩ := exists_left_of_mem h.entities E hE
  obtain ⟨f, -, r, q, rfl, -, hp, hj⟩ := exists_left_of_mem hr.edges d hd
  exact ⟨r, q, hr.name.symm, hp, hj⟩

/-- Every reference has an edge in the entity of its owner. -/
theorem exists_edge (h : Compiled o s es) (r : Reference o s) :
    ∃ E ∈ es, E.name = r.owner.name
      ∧ ∃ d ∈ E.edges, ∃ q : Reference o s, r.Partner q ∧ d.Joins r q := by
  obtain ⟨E, hE, hr⟩ := exists_right_of_mem h.entities r.owner r.owner_mem
  obtain ⟨d, hd, r', q, ho, hf, hp, hj⟩ := exists_right_of_mem hr.edges r.field r.field_mem
  -- the edge at this place is that of a reference with the same names
  obtain rfl : r' = r :=
    h.admissible.reference_eq (congrArg (·.name) ho) (congrArg (·.name) hf)
  exact ⟨E, hE, hr.name, d, hd, q, hp, hj⟩

/-- The entity of a name is the only one. -/
theorem filter_name (h : Compiled o s es) {E : Entity} (hE : E ∈ es) {n : String}
    (hn : E.name = n) : es.filter (·.name = n) = [E] :=
  hn ▸ filter_key_eq_singleton h.names_distinct hE

/-- The edge of a declared name is the only one of its entity. -/
theorem filter_declaredName (h : Compiled o s es) {E : Entity} (hE : E ∈ es) {d : Edge}
    (hd : d ∈ E.edges) {n : String} (hn : d.declaredName = n) :
    E.edges.filter (·.declaredName = n) = [d] :=
  hn ▸ filter_key_eq_singleton (h.edges_distinct hE) hd

/-- Two edges that join the same reference are one. -/
theorem edge_eq (h : Compiled o s es) {E E' : Entity} (hE : E ∈ es) (hE' : E' ∈ es) {d d' : Edge}
    (hd : d ∈ E.edges) (hd' : d' ∈ E'.edges) {r q q' : Reference o s}
    (ho : r.owner.name = E.name) (ho' : r.owner.name = E'.name) (hj : d.Joins r q)
    (hj' : d'.Joins r q') : d = d' := by
  obtain rfl : E = E' :=
    List.inj_on_of_nodup_map h.names_distinct hE hE' (ho.symm.trans ho')
  exact List.inj_on_of_nodup_map (h.edges_distinct hE) hd hd'
    (hj.declaredName.trans hj'.declaredName.symm)

/-- The edges of all entities differ: by their owners or by their names. -/
theorem edges_nodup (h : Compiled o s es) : (es.flatMap (·.edges)).Nodup := by
  rw [List.nodup_flatMap]
  refine ⟨fun E hE => (h.edges_distinct hE).of_map _, ?_⟩
  refine (List.pairwise_map.1 h.names_distinct).imp_of_mem ?_
  intro E E' hE hE' hne d hd hd'
  obtain ⟨r, q, ho, -, hj⟩ := h.exists_reference hE hd
  obtain ⟨r', q', ho', -, hj'⟩ := h.exists_reference hE' hd'
  apply hne
  rw [← ho, ← ho', ← hj.owner, ← hj'.owner]

/-- **The counterpart of an edge has an edge** that leads to the entity;
target and counterpart are found by name. -/
theorem exists_counterpart (h : Compiled o s es) {E : Entity} (hE : E ∈ es) {d : Edge}
    (hd : d ∈ E.edges) :
    ∃ r q y : Reference o s, r.owner.name = E.name ∧ r.Partner q ∧ d.Joins r q ∧ q.Partner y
      ∧ ∃ T b, es.filter (·.name = d.target) = [T]
        ∧ T.edges.filter (·.declaredName = d.counterpart) = [b] ∧ b.Joins q y
        ∧ b.target = E.name := by
  obtain ⟨r, q, ho, hp, hj⟩ := h.exists_reference hE hd
  obtain ⟨T, hT, hname, b, hb, y, hy, hjb⟩ := h.exists_edge q
  refine ⟨r, q, y, ho, hp, hj, hy, T, b, ?_, ?_, hjb, ?_⟩
  · exact h.filter_name hT (hname.trans hj.target.symm)
  · exact h.filter_declaredName hT hb (hjb.declaredName.trans hj.counterpart.symm)
  · rw [hjb.target, ← ho]
    exact hp.faces.symm.owner_name_eq hy.faces

theorem exists_partner (h : Compiled o s es) (r : Reference o s) : ∃ q, r.Partner q := by
  obtain ⟨E, -, -, d, -, q, hp, -⟩ := h.exists_edge r
  exact ⟨q, hp⟩

end Compiled

/-- **A compilation succeeds iff its catalog can be built and every
reference has a partner.** -/
theorem exists_compile_eq_ok_iff :
    (∃ es, compile o s = .ok es)
      ↔ (∃ c, Catalog.build o s = .ok c) ∧ ∀ r : Reference o s, ∃ q, r.Partner q := by
  constructor
  · intro h
    obtain ⟨es, h⟩ := h
    obtain ⟨c, hc, -⟩ := compile_eq_ok_iff.1 h
    exact ⟨⟨c, hc⟩, (compiled_of_compile h).exists_partner⟩
  · intro h
    obtain ⟨⟨c, hc⟩, hpart⟩ := h
    have hl := Catalog.lists_of_build hc
    obtain ⟨es, hes⟩ := exists_forall₂ fun e he => Catalog.exists_entity hl hpart (e := e) he
    exact ⟨es, compile_eq_ok_iff.2 ⟨c, hc, hes⟩⟩

/-! ## §4. An example. -/

/-- Users write and review posts, and are friends of users. -/
def reviewingUser : MessageDescriptor where
  name := "User"
  generate := true
  fields := [(FieldDescriptor.ofMessage "written" "Post").asRepeated,
    (FieldDescriptor.ofMessage "reviewed" "Post").asRepeated,
    (FieldDescriptor.ofMessage "friends" "User").asRepeated.withRef "friends"]

/-- Posts have an author and a reviewer, each with a hint at its list. -/
def reviewedPost : MessageDescriptor where
  name := "Post"
  generate := true
  fields := [(FieldDescriptor.ofMessage "author" "User").withRef "written",
    (FieldDescriptor.ofMessage "reviewer" "User").withRef "reviewed"]

/-- Users and posts, with two parallel pairs of references. -/
def reviewedPosts : DescriptorSet := ⟨[reviewingUser, reviewedPost]⟩

example : (compile {} reviewedPosts).map
      (fun es => es.map fun E => E.edges.map fun d => (d.declaredName, d.counterpart))
    = .ok [[("written", "author"), ("reviewed", "reviewer"), ("friends", "friends")],
        [("author", "written"), ("reviewer", "reviewed")]] := rfl

end EntitySchema
