/-
  EntitySchema.Proofs.Compilation.SelfReference
  ────────────────────────────────
  **HOW AN ENTITY IS PAIRED WITH ITSELF.**

  A reference to the entity that declares it faces itself and every other
  reference of that kind.  So it is alone only if there is no other one, and
  no rival can come between two of them: the way from the partner always
  leads back.

      friends  (ref friends)    ⟲  owning, bidirectional
      parent   (ref children)   ⇄  children, one owning and one back
      manager  and no other     ⟲  owning

  Main result: `self_references_pair_up`.
-/
import EntitySchema.Proofs.Compilation.BackReference

namespace EntitySchema

variable {o : CompileOptions} {s : DescriptorSet} {es : List Entity}

/-! ## §1. References that face themselves. -/

namespace Reference

variable {r q x y : Reference o s}

/-- A reference faces itself iff its own entity is its target. -/
theorem faces_self_iff : r.Faces r ↔ r.field.target? = some r.owner.name := by
  rw [Faces, and_self]

/-- Two references of one entity face each other if one faces itself. -/
theorem Faces.of_owner (hself : r.Faces r) (hx : x.Faces x) (ho : x.owner.name = r.owner.name) :
    r.Faces x :=
  ⟨by rw [ho]; exact hself.1, by rw [← ho]; exact hx.1⟩

/-- A silent reference that faces itself and is its own partner faces no
other one. -/
theorem Partner.eq_of_silent (h : r.Partner r) (hr : r.Silent) (hf : r.Faces x) : x = r :=
  h.only_of_silent hr hr x hf

/-- Two silent partners that face themselves are one reference. -/
theorem Partner.eq_of_both_silent (hself : r.Faces r) (h : r.Partner q) (hr : r.Silent)
    (hq : q.Silent) : r = q :=
  h.only_of_silent hr hq r hself

/-- Of two partners in one entity exactly one is silent. -/
theorem Partner.silent_iff (hself : r.Faces r) (h : r.Partner q) (hne : r ≠ q) :
    r.Silent ↔ ¬ q.Silent := by
  constructor
  · intro hr hq
    exact hne (h.eq_of_both_silent hself hr hq)
  · intro hq
    by_contra hr
    exact hq (h.silent_of_ne hr hne)

/-- **THE WAY LEADS BACK** from the partner of a reference that faces
itself. -/
theorem Partner.comes_back_of_self (hs : s.Admissible o) (hself : r.Faces r) (hr : r.Partner q)
    (hq : q.Partner y) : y = r := by
  by_cases hsilent : q.Silent
  · by_cases hrs : r.Silent
    -- both are silent, so there is only one reference
    · obtain rfl : r = q := hr.eq_of_both_silent hself hrs hsilent
      exact hr.eq_of_silent hrs hq.faces
    · exact hq.eq_of_called hsilent hr.faces.symm (hr.names hrs)
  · exact hq.eq_of_names hs hr.faces.symm (hr.names_of_not_silent hsilent)

end Reference

/-! ## §2. Edges that stay in their entity. -/

namespace Entity

/-- Edges of an entity that lead to the entity itself. -/
def selfEdges (E : Entity) : List Edge := E.edges.filter (·.target = E.name)

/-- Edge of an entity that the counterpart of one of its edges declares. -/
def counterpart? (E : Entity) (d : Edge) : Option Edge :=
  E.edges.find? (·.declaredName = d.counterpart)

end Entity

theorem Entity.mem_selfEdges_iff {E : Entity} {d : Edge} :
    d ∈ E.selfEdges ↔ d ∈ E.edges ∧ d.target = E.name := by
  rw [selfEdges, List.mem_filter, decide_eq_true_eq]

/-- A field of a selected message declares an edge. -/
def Edge.DeclaredBy (s : DescriptorSet) (d : Edge) (f : FieldDescriptor) : Prop :=
  ∃ m ∈ s.selected, m.name = d.owner ∧ f ∈ m.fields ∧ f.name = d.declaredName

theorem Edge.Joins.declaredBy {d : Edge} {r q : Reference o s} (h : d.Joins r q) :
    d.DeclaredBy s r.field :=
  ⟨r.owner, r.owner_mem, h.owner.symm, List.mem_of_mem_filter r.field_mem, h.declaredName.symm⟩

/-- An edge of an entity to itself that is its own counterpart. -/
structure Edge.IsLoop (s : DescriptorSet) (E : Entity) (d : Edge) : Prop where
  owning : d.direction = .owning
  cardinality : d.cardinality = .oneToOne ∨ d.cardinality = .manyToMany
  bidirectional : ∃ f, d.DeclaredBy s f ∧ (d.bidirectional = true ↔ f.refHint = some f.name)
  alone : d.bidirectional = false → E.selfEdges = [d]

/-- Two edges of which the first one carries the relation and the second one
points back. -/
structure Edge.PointedAtBy (d b : Edge) : Prop where
  owning : d.direction = .owning
  referencing : b.direction = .referencing d.declaredName
  oneWay : d.bidirectional = false
  oneWay' : b.bidirectional = false

namespace Compiled

variable {E : Entity} {d b : Edge} {r q : Reference o s}

/-- An edge of an entity to itself and that of its counterpart join the same
two references, each in its direction. -/
theorem exists_selfEdge (h : Compiled o s es) (hE : E ∈ es) (hd : d ∈ E.selfEdges) :
    ∃ r q : Reference o s, r.owner.name = E.name ∧ r.Faces r ∧ r.Partner q ∧ d.Joins r q
      ∧ q.Partner r ∧ ∃ b ∈ E.selfEdges, b.Joins q r
        ∧ E.counterpart? d = some b ∧ E.counterpart? b = some d := by
  obtain ⟨hd, ht⟩ := Entity.mem_selfEdges_iff.1 hd
  obtain ⟨r, q, ho, hr, hj⟩ := h.exists_reference hE hd
  have hq : q.owner.name = E.name := hj.target.symm.trans ht
  have hself : r.Faces r := by
    rw [Reference.faces_self_iff, hr.faces.1, hq, ho]
  obtain ⟨E', hE', hname, b, hb, y, hy, hjb⟩ := h.exists_edge q
  obtain rfl : E' = E := List.inj_on_of_nodup_map h.names_distinct hE' hE (hname.trans hq)
  -- behind a reference to its own entity the partner always leads back
  obtain rfl : y = r := hr.comes_back_of_self h.admissible hself hy
  have hdistinct := h.edges_distinct hE
  refine ⟨y, q, ho, hself, hr, hj, hy, b, ?_, hjb, ?_, ?_⟩
  · exact Entity.mem_selfEdges_iff.2 ⟨hb, hjb.target.trans ho⟩
  · exact (find?_key_eq_some_iff hdistinct).2 ⟨hb, hjb.declaredName.trans hj.counterpart.symm⟩
  · exact (find?_key_eq_some_iff hdistinct).2 ⟨hd, hj.declaredName.trans hjb.counterpart.symm⟩

/-- An edge that joins a reference to itself is a loop. -/
theorem isLoop (h : Compiled o s es) (hE : E ∈ es) (hd : d ∈ E.selfEdges)
    (ho : r.owner.name = E.name) (hr : r.Partner r) (hj : d.Joins r r) : d.IsLoop s E where
  owning := (hj.direction_eq_owning_iff h.admissible hr).2 (.inr rfl)
  cardinality := by
    rw [hj.cardinality]
    cases r.field.repeated
    · exact .inl rfl
    · exact .inr rfl
  bidirectional := by
    refine ⟨r.field, hj.declaredBy, ?_⟩
    rw [hj.bidirectional]
    exact and_iff_right rfl
  alone := by
    intro hb
    have hdE := Entity.mem_selfEdges_iff.1 hd
    have hsilent : r.Silent := by
      by_contra hr'
      rw [(hj.bidirectional_iff h.admissible hr).2 ⟨rfl, hr'⟩] at hb
      cases hb
    refine (filter_eq_singleton_iff ((h.edges_distinct hE).of_map _)).2
      ⟨hdE.1, decide_eq_true hdE.2, fun x hx ht => ?_⟩
    -- any other edge of the kind joins a reference that `r` faces
    have hx' : x ∈ E.selfEdges := List.mem_filter.2 ⟨hx, ht⟩
    obtain ⟨r', q', ho', hself', -, hj', -, -⟩ := h.exists_selfEdge hE hx'
    obtain rfl : r' = r :=
      hr.eq_of_silent hsilent (hr.faces.of_owner hself' (ho'.trans ho.symm))
    exact h.edge_eq hE hE hx hdE.1 ho ho hj' hj

/-- Two edges that join a silent reference and one that names it. -/
theorem pointedAtBy (h : Compiled o s es) (hr : r.Partner q) (hq : q.Partner r)
    (hj : d.Joins r q) (hjb : b.Joins q r) (hne : r ≠ q) (hsilent : r.Silent) (hq' : ¬ q.Silent) :
    d.PointedAtBy b where
  owning := (hj.direction_eq_owning_iff h.admissible hr).2 (.inl hsilent)
  referencing := by
    rw [hj.declaredName]
    exact (hjb.direction_eq_referencing_iff h.admissible hq).2 ⟨hq.names hq', hne.symm⟩
  oneWay := by
    rw [← Bool.not_eq_true, hj.bidirectional_iff h.admissible hr]
    exact fun hb => hne hb.1
  oneWay' := by
    rw [← Bool.not_eq_true, hjb.bidirectional_iff h.admissible hq]
    exact fun hb => hne hb.1.symm

end Compiled

/-! ## §3. Self-references of an entity. -/

/-- **SELF-REFERENCES PAIR UP**: on the edges of an entity to itself, the edge
of the counterpart leads back to the first one.  An edge that is its own
counterpart is a loop; of two different ones, one carries the relation and
the other points back at it. -/
theorem self_references_pair_up (h : compile o s = .ok es) {E : Entity} (hE : E ∈ es) :
    ∀ d ∈ E.selfEdges, ∃ b ∈ E.selfEdges,
      E.counterpart? d = some b ∧ E.counterpart? b = some d
        ∧ (b = d → d.IsLoop s E) ∧ (b ≠ d → d.PointedAtBy b ∨ b.PointedAtBy d) := by
  intro d hd
  have hc := compiled_of_compile h
  obtain ⟨r, q, ho, hself, hr, hj, hq, b, hb, hjb, hdb, hbd⟩ := hc.exists_selfEdge hE hd
  refine ⟨b, hb, hdb, hbd, ?_, ?_⟩
  · rintro rfl
    -- the edge is declared by both references, so they are one
    obtain rfl : r = q :=
      hc.admissible.reference_eq (hj.owner.symm.trans hjb.owner)
        (hj.declaredName.symm.trans hjb.declaredName)
    exact hc.isLoop hE hd ho hr hj
  · intro hne
    have hrq : r ≠ q := by
      rintro rfl
      exact hne (hc.edge_eq hE hE (Entity.mem_selfEdges_iff.1 hb).1
        (Entity.mem_selfEdges_iff.1 hd).1 ho ho hjb hj)
    -- the silent one of the two carries the relation
    by_cases hsilent : r.Silent
    · exact .inl (hc.pointedAtBy hr hq hj hjb hrq hsilent ((hr.silent_iff hself hrq).1 hsilent))
    · have hq' : q.Silent := not_not.1 (mt (hr.silent_iff hself hrq).2 hsilent)
      exact .inr (hc.pointedAtBy hq hr hjb hj hrq.symm hq' hsilent)

/-- Persons are friends of persons; parents and children are two sides of one
relation. -/
def relatedPersons : DescriptorSet :=
  ⟨[{ name := "Person", generate := true,
      fields := [(FieldDescriptor.ofMessage "friends" "Person").asRepeated.withRef "friends",
        (FieldDescriptor.ofMessage "children" "Person").asRepeated,
        (FieldDescriptor.ofMessage "parent" "Person").withRef "children"] }]⟩

theorem relatedPersons_pair_up :
    ∃ es, compile {} relatedPersons = .ok es ∧ ∃ E ∈ es,
      E.selfEdges.map (·.declaredName) = ["friends", "children", "parent"]
        ∧ ∀ d ∈ E.selfEdges, ∃ b ∈ E.selfEdges,
          E.counterpart? d = some b ∧ E.counterpart? b = some d
            ∧ (b = d → d.IsLoop relatedPersons E)
            ∧ (b ≠ d → d.PointedAtBy b ∨ b.PointedAtBy d) := by
  obtain ⟨E, h⟩ : ∃ E, compile {} relatedPersons = .ok [E] := ⟨_, rfl⟩
  have hnames : (compile {} relatedPersons).toOption.map
      (fun es => es.map fun E => E.selfEdges.map (·.declaredName))
      = some [["friends", "children", "parent"]] := rfl
  rw [h] at hnames
  refine ⟨[E], h, E, List.mem_singleton_self E, ?_, ?_⟩
  · exact (List.cons.inj (Option.some.inj hnames)).1
  · exact self_references_pair_up h (List.mem_singleton_self E)

end EntitySchema
