/-
  EntitySchema.Proofs.Compilation.Symmetry
  ────────────────────────────────
  **WHEN THE COUNTERPART LEADS BACK.**

  The counterpart of an edge declares an edge back to the entity.  That
  edge has the first field as its own counterpart unless the first edge has
  a rival: another field of the entity, to the same target, whose hint is
  the name of the counterpart.

      User.written ──▶ Post.author ◀──▶ User.edited (ref author)

  Main result (`counterpart_comes_back_iff`): of each edge, that it comes
  back iff it has no rival; of all edges, that two of them share a
  counterpart iff one has a rival.
-/
import EntitySchema.Proofs.Compilation.Edges
import EntitySchema.Proofs.Pairing.Symmetry

namespace EntitySchema

variable {o : CompileOptions} {s : DescriptorSet} {es : List Entity}

/-! ## §1. Rivals. -/

/-- Another reference of the owner has the same target and names the
counterpart. -/
def Edge.HasRival (o : CompileOptions) (s : DescriptorSet) (d : Edge) : Prop :=
  ∃ x : Reference o s, x.owner.name = d.owner ∧ x.field.name ≠ d.declaredName
    ∧ x.field.target? = some d.target ∧ x.field.refHint = some d.counterpart

/-- The rivals of an edge are the other references that name the partner. -/
theorem Edge.Joins.hasRival_iff (hs : s.Admissible o) {d : Edge} {r q : Reference o s}
    (hj : d.Joins r q) (hp : r.Partner q) :
    d.HasRival o s ↔ ∃ x, x.Faces q ∧ x.Names q ∧ x ≠ r := by
  unfold Edge.HasRival
  rw [hj.owner, hj.declaredName, hj.target, hj.counterpart]
  constructor
  · intro h
    obtain ⟨x, ho, hne, ht, hn⟩ := h
    have hf : x.Faces q := ⟨ht, by rw [ho]; exact hp.faces.2⟩
    exact ⟨x, hf, hn, fun hxr => hne (by rw [hxr])⟩
  · intro h
    obtain ⟨x, hf, hn, hne⟩ := h
    have ho : x.owner.name = r.owner.name := hp.faces.symm.owner_name_eq hf.symm
    exact ⟨x, ho, fun hname => hne (hs.reference_eq ho hname), hf.1, hn⟩

/-! ## §2. One edge. -/

/-- **An edge comes back iff it has no rival.** -/
theorem Compiled.comes_back_iff (h : Compiled o s es) {d : Edge} {r q y : Reference o s}
    (hj : d.Joins r q) (hr : r.Partner q) (hq : q.Partner y) : y = r ↔ ¬ d.HasRival o s := by
  rw [hj.hasRival_iff h.admissible hr, hr.comes_back_iff h.admissible h.exists_partner hq]
  constructor
  · intro honly hrival
    obtain ⟨x, hf, hn, hne⟩ := hrival
    exact hne (honly x hf hn)
  · intro hnone x hf hn
    by_contra hne
    exact hnone ⟨x, hf, hn, hne⟩

theorem Compiled.counterpart_eq_iff (h : Compiled o s es) {d b : Edge} {r q y : Reference o s}
    (hj : d.Joins r q) (hr : r.Partner q) (hq : q.Partner y) (hb : b.Joins q y) :
    b.counterpart = d.declaredName ↔ ¬ d.HasRival o s := by
  rw [← h.comes_back_iff hj hr hq, hb.counterpart, hj.declaredName]
  constructor
  · intro hname
    exact h.admissible.reference_eq (hr.faces.symm.owner_name_eq hq.faces) hname
  · intro hyr
    rw [hyr]

/-! ## §3. All edges. -/

/-- Two edges of different fields have the same counterpart. -/
def SharedCounterpart (es : List Entity) : Prop :=
  ∃ E ∈ es, ∃ d ∈ E.edges, ∃ E' ∈ es, ∃ d' ∈ E'.edges,
    (E.name, d.declaredName) ≠ (E'.name, d'.declaredName)
      ∧ d.target = d'.target ∧ d.counterpart = d'.counterpart

/-- A counterpart is shared iff some edge has a rival. -/
theorem Compiled.sharedCounterpart_iff (h : Compiled o s es) :
    SharedCounterpart es ↔ ∃ E ∈ es, ∃ d ∈ E.edges, d.HasRival o s := by
  have hs := h.admissible
  constructor
  · intro hshared
    obtain ⟨E, hE, d, hd, E', hE', d', hd', hne, ht, hc⟩ := hshared
    obtain ⟨r, q, ho, hr, hj⟩ := h.exists_reference hE hd
    obtain ⟨r', q', ho', hr', hj'⟩ := h.exists_reference hE' hd'
    -- target and counterpart name the partner, so both have the same one
    obtain rfl : q = q' := by
      refine hs.reference_eq ?_ ?_
      · rw [← hj.target, ht, hj'.target]
      · rw [← hj.counterpart, hc, hj'.counterpart]
    obtain ⟨y, hq⟩ := h.exists_partner q
    -- the way back from `q` misses one of the two references
    by_cases hyr : y = r
    · have hyr' : y ≠ r' := by
        intro hyr'
        apply hne
        rw [← ho, ← ho', hj.declaredName, hj'.declaredName, ← hyr, ← hyr']
      exact ⟨E', hE', d', hd', not_not.1 (mt (h.comes_back_iff hj' hr' hq).2 hyr')⟩
    · exact ⟨E, hE, d, hd, not_not.1 (mt (h.comes_back_iff hj hr hq).2 hyr)⟩
  · intro hrival
    obtain ⟨E, hE, d, hd, hrival⟩ := hrival
    obtain ⟨r, q, ho, hr, hj⟩ := h.exists_reference hE hd
    obtain ⟨x, hf, hn, hne⟩ := (hj.hasRival_iff hs hr).1 hrival
    -- the edge of the rival has that counterpart as well
    obtain ⟨E', hE', hname, d', hd', q', hx, hj'⟩ := h.exists_edge x
    obtain rfl : q' = q := hx.eq_of_names hs hf hn
    refine ⟨E, hE, d, hd, E', hE', d', hd', ?_, ?_, ?_⟩
    · intro heq
      rw [← ho, hname, hj.declaredName, hj'.declaredName, Prod.mk.injEq] at heq
      exact hne (hs.reference_eq heq.1.symm heq.2.symm)
    · rw [hj.target, hj'.target]
    · rw [hj.counterpart, hj'.counterpart]

/-- **THE COUNTERPART LEADS BACK EXACTLY WITHOUT A RIVAL.**  The target of
an edge is one entity, the counterpart has one edge there, and that edge
leads to the entity; its own counterpart is the field of the first edge iff
that one has no rival.  No two fields share a counterpart iff no edge has a
rival. -/
theorem counterpart_comes_back_iff (h : compile o s = .ok es) :
    (∀ E ∈ es, ∀ d ∈ E.edges, ∃ T b, es.filter (·.name = d.target) = [T]
        ∧ T.edges.filter (·.declaredName = d.counterpart) = [b] ∧ b.target = E.name
        ∧ (b.counterpart = d.declaredName ↔ ¬ d.HasRival o s))
      ∧ (SharedCounterpart es ↔ ∃ E ∈ es, ∃ d ∈ E.edges, d.HasRival o s) := by
  have hc := compiled_of_compile h
  refine ⟨fun E hE d hd => ?_, hc.sharedCounterpart_iff⟩
  obtain ⟨r, q, y, -, hr, hj, hq, T, b, hT, hb, hjb, ht⟩ := hc.exists_counterpart hE hd
  exact ⟨T, b, hT, hb, ht, hc.counterpart_eq_iff hj hr hq hjb⟩

/-- A post has one author; two lists of a user lead to the posts, and one of
them names that author. -/
def contestedAuthor : DescriptorSet :=
  ⟨[{ name := "User", generate := true,
      fields := [(FieldDescriptor.ofMessage "written" "Post").asRepeated,
        (FieldDescriptor.ofMessage "edited" "Post").asRepeated.withRef "author"] },
    { name := "Post", generate := true, fields := [.ofMessage "author" "User"] }]⟩

/-- The author is the counterpart of both lists, and leads back to one of
them only. -/
theorem contestedAuthor_one_way :
    ∃ es, compile {} contestedAuthor = .ok es ∧ SharedCounterpart es
      ∧ ∃ E ∈ es, ∃ d ∈ E.edges, d.declaredName = "written"
        ∧ ∃ T b, es.filter (·.name = d.target) = [T]
          ∧ T.edges.filter (·.declaredName = d.counterpart) = [b] ∧ b.target = E.name
          ∧ b.counterpart ≠ d.declaredName := by
  obtain ⟨es, h⟩ : ∃ es, compile {} contestedAuthor = .ok es := ⟨_, rfl⟩
  have hc := compiled_of_compile h
  let user : MessageDescriptor := contestedAuthor.entities.head (by decide)
  have huser : user ∈ contestedAuthor.selected := by decide
  let written : Reference {} contestedAuthor :=
    ⟨user, user.fields.head (by decide), huser, by decide⟩
  let edited : Reference {} contestedAuthor :=
    ⟨user, user.fields.getLast (by decide), huser, by decide⟩
  obtain ⟨E, hE, hname, d, hd, q, hp, hj⟩ := hc.exists_edge written
  -- only the author of a post faces the list of written posts
  have hauthor : ∀ m ∈ contestedAuthor.selected, m.name = "Post" →
      ∀ f ∈ m.openReferences {}, f.name = "author" := by decide
  have htarget : written.field.target? = some "Post" := rfl
  have howner : q.owner.name = "Post" := Option.some.inj (hp.faces.1.symm.trans htarget)
  have hq : q.field.name = "author" := hauthor _ q.owner_mem howner _ q.field_mem
  have hrival : d.HasRival {} contestedAuthor := by
    refine ⟨edited, hj.owner.symm, ?_, ?_, ?_⟩
    · rw [hj.declaredName]
      show "edited" ≠ "written"
      decide
    · rw [hj.target]
      exact hp.faces.1
    · rw [hj.counterpart, hq]
      rfl
  obtain ⟨hback, hshared⟩ := counterpart_comes_back_iff h
  obtain ⟨T, b, hT, hb, hbt, hiff⟩ := hback E hE d hd
  refine ⟨es, h, hshared.2 ⟨E, hE, d, hd, hrival⟩, E, hE, d, hd, hj.declaredName, T, b, hT, hb,
    hbt, ?_⟩
  exact fun heq => hiff.1 heq hrival

end EntitySchema
