/-
  EntitySchema.Proofs.Compilation.InferredHint
  ────────────────────────────────
  **WRITING DOWN WHAT WAS INFERRED.**

  Two references without hints that lead to each other are a couple.
  Whoever writes the name of one of them down as a hint of the other gets
  the same entities, but for the direction of one edge:

      profile ⇄ user             both owning
      profile (ref user) ⇄ user  referencing `user`, and owning

  An empty name is no hint, and the entities stay as they are.

  Main result: `compile_withHint`.
-/
import EntitySchema.Proofs.Compilation.Edges
import EntitySchema.Proofs.Compilation.Likeness
import EntitySchema.Proofs.Pairing.Hints

namespace EntitySchema

variable {o : CompileOptions} {s : DescriptorSet}

/-! ## §1. Edges. -/

/-- The edge, pointing back under the hint if that is for its field. -/
def Edge.withHint (d : Edge) (k : Hint) : Edge :=
  if d.owner = k.entity ∧ d.declaredName = k.field then { d with direction := .referencing k.ref }
  else d

/-- The entity, with the edge of the hint pointing back. -/
def Entity.withHint (E : Entity) (k : Hint) : Entity :=
  { E with edges := E.edges.map (·.withHint k) }

theorem Edge.withHint_of_at {d : Edge} {k : Hint} (howner : d.owner = k.entity)
    (hfield : d.declaredName = k.field) :
    d.withHint k = { d with direction := .referencing k.ref } :=
  if_pos ⟨howner, hfield⟩

theorem Edge.withHint_of_not {d : Edge} {k : Hint}
    (h : ¬ (d.owner = k.entity ∧ d.declaredName = k.field)) : d.withHint k = d :=
  if_neg h

/-- Only an edge from an entity to itself is bidirectional. -/
theorem isBidirectional_of_ne {e t : CatalogEntry} (h : e.name ≠ t.name) (f : FieldDescriptor) :
    isBidirectional e t f = false := by
  rw [isBidirectional, decide_eq_false h, Bool.false_and]

namespace Reference

variable {r q x y : Reference o s} {e e' t t' : CatalogEntry}

/-- A hint gives an edge between the same fields that may differ in its
direction. -/
theorem ofPair_hinted (k : Hint) (x y : Reference o s)
    (he : e.Like FieldDescriptor.StoredAlike e') (ht : t.Like FieldDescriptor.StoredAlike t') :
    Edge.ofPair e' t' (x.hinted k).field (y.hinted k).field
      = { Edge.ofPair e t x.field y.field with
          bidirectional := isBidirectional e t (x.hinted k).field
          direction :=
            edgeDirection (isBidirectional e t (x.hinted k).field) (x.hinted k).field } := by
  have hparallel : ∀ f f' : FieldDescriptor, f.StoredAlike f' → f.Parallel f' :=
    fun _ _ hf => hf.parallel
  -- a hint changes the reference name of a field, and nothing else of it
  have hedge : (x.hinted k).field.options.edge
      = { x.field.options.edge with refName := (x.hinted k).field.options.edge.refName } := by
    show (k.onField x.owner x.field).options.edge
      = { x.field.options.edge with refName := (k.onField x.owner x.field).options.edge.refName }
    unfold Hint.onField
    split <;> rfl
  exact (he.resembles.imp hparallel).ofPair_eq_of_parallel (ht.resembles.imp hparallel)
    (k.storedAlike_onField x.owner x.field).parallel
    (k.storedAlike_onField y.owner y.field).parallel hedge

/-- A hint of the one of a couple turns its edge around and leaves all other
edges as they were. -/
theorem Couple.ofPair_hinted (hc : r.Couple q) (hs : s.Admissible o) (hname : q.field.name ≠ "")
    (h : x.Partner y) (hx : e.Describes o x.owner) (hy : t.Describes o y.owner)
    (he : e.Like FieldDescriptor.StoredAlike e') (ht : t.Like FieldDescriptor.StoredAlike t') :
    Edge.ofPair e' t' (x.hinted (r.hintTo q)).field (y.hinted (r.hintTo q)).field
      = (Edge.ofPair e t x.field y.field).withHint (r.hintTo q) := by
  rw [Reference.ofPair_hinted (r.hintTo q) x y he ht]
  by_cases hxr : x = r
  · -- between two entities no edge is bidirectional, so the hint points back
    subst hxr
    obtain rfl : y = q := hc.only y h.faces
    have hone : ∀ f, isBidirectional e t f = false := by
      refine isBidirectional_of_ne ?_
      rw [hx.name_eq, hy.name_eq]
      exact hc.owner_ne
    have hback : edgeDirection false (x.hinted (x.hintTo y)).field
        = .referencing y.field.name := by
      have hhint := names_hinted (r := x) hs hname
      rw [Names, hinted_field_name] at hhint
      rw [edgeDirection, hhint]
      rfl
    have hboth : (Edge.ofPair e t x.field y.field).bidirectional = false := hone x.field
    rw [Edge.withHint_of_at hx.name_eq rfl, hone, hback]
    simp only [hboth]
    rfl
  · rw [Edge.withHint_of_not, hinted_other_field hs hxr]
    -- the field is as it was, and so is all that an edge reads of it
    · rfl
    · intro hr
      exact hxr (hs.reference_eq (hx.name_eq.symm.trans hr.1) hr.2)

end Reference

/-! ## §2. Entities. -/

namespace Catalog

variable {c c' : Catalog}

/-- A message with a hint has an entry that is alike. -/
theorem exists_ofMessage_onMessage (k : Hint) {m : MessageDescriptor} {e : CatalogEntry}
    (he : CatalogEntry.ofMessage o m = .ok e) :
    ∃ e', CatalogEntry.ofMessage o (k.onMessage m) = .ok e'
      ∧ e.Like FieldDescriptor.StoredAlike e' :=
  ((keepsPlaces_storedAlike o).ofMessage_like (k.fieldwise_onMessage m)).exists_of_ok he

/-- A set that has a catalog has one with the hint as well. -/
theorem exists_build_withHint (h : build o s = .ok c) (k : Hint) :
    ∃ c', build o (s.withHint k) = .ok c' := by
  have hfieldwise : s.Fieldwise FieldDescriptor.StoredAlike (s.withHint k) :=
    List.forall₂_map_right_iff.2 (List.forall₂_same.2 fun m _ => k.fieldwise_onMessage m)
  obtain ⟨c', hc', -⟩ :=
    ((keepsPlaces_storedAlike o).build_like hfieldwise.selected).exists_of_ok h
  exact ⟨c', hc'⟩

section Couple

variable {r q : Reference o s} (hcouple : r.Couple q) (hname : q.field.name ≠ "")
  (hc : build o s = .ok c) (hc' : build o (s.withHint (r.hintTo q)) = .ok c')
include hcouple hname hc hc'

/-- **Each edge stays**, that of the hint apart. -/
theorem resolve_withHint {x : Reference o s} {e e' : CatalogEntry} (he : e.Describes o x.owner)
    (he' : e'.Describes o ((r.hintTo q).onMessage x.owner))
    (hlike : e.Like FieldDescriptor.StoredAlike e') {d : Edge}
    (hd : c.resolve e .declared x.field = .ok d) :
    c'.resolve e' .declared (x.hinted (r.hintTo q)).field = .ok (d.withHint (r.hintTo q)) := by
  have hl := lists_of_build hc
  have hl' := lists_of_build hc'
  -- the edge joins the reference and its partner `y`, in either set
  obtain ⟨t, ht, y, hty, hp, rfl⟩ := (exists_resolve_iff hl he (P := (d = ·))).1 ⟨d, hd, rfl⟩
  obtain ⟨t', ht', htlike⟩ := exists_ofMessage_onMessage (r.hintTo q) (ofMessage_of_mem hc ht hty)
  have hmem : t' ∈ c'.entries :=
    mem_entries_of_ofMessage hc' (y.hinted (r.hintTo q)).owner_mem ht'
  have hpartner := hcouple.partner_hinted hl.admissible hname hp
  have hedge := hcouple.ofPair_hinted hl.admissible hname hp he hty hlike htlike
  obtain ⟨d', hd', rfl⟩ := (exists_resolve_iff hl' (r := x.hinted (r.hintTo q)) he'
    (P := (· = (Edge.ofPair e t x.field y.field).withHint (r.hintTo q)))).2
    ⟨t', hmem, y.hinted (r.hintTo q), describes_of_ofMessage ht', hpartner, hedge⟩
  exact hd'

/-- **Each entity stays**, the edge of the hint apart. -/
theorem exists_entity_withHint {m : MessageDescriptor} (hm : m ∈ s.selected) {e : CatalogEntry}
    (he : CatalogEntry.ofMessage o m = .ok e) {E : Entity} (hE : c.entity e = .ok E) :
    ∃ e', CatalogEntry.ofMessage o ((r.hintTo q).onMessage m) = .ok e'
      ∧ c'.entity e' = .ok (E.withHint (r.hintTo q)) := by
  have hd := describes_of_ofMessage he
  obtain ⟨e', he', hlike⟩ := exists_ofMessage_onMessage (r.hintTo q) he
  have hd' := describes_of_ofMessage he'
  obtain ⟨ds, hds, rfl⟩ := entity_eq_ok_iff.1 hE
  refine ⟨e', he', entity_eq_ok_iff.2 ⟨ds.map (·.withHint (r.hintTo q)), ?_, ?_⟩⟩
  · rw [hd'.references, Hint.openReferences_onMessage, ← hd.references, List.forall₂_map_left_iff,
      List.forall₂_map_right_iff]
    refine forall₂_imp_of_mem hds fun f hf d hfd => ?_
    let x : Reference o s := ⟨m, f, hm, hd.references ▸ hf⟩
    exact resolve_withHint hcouple hname hc hc' (x := x) hd hd' hlike hfd
  · rw [hlike.name, hlike.attributes]
    rfl

end Couple
end Catalog

/-! ## §3. Compilations. -/

/-- In compiled entities, the edge of one reference leads to another one. -/
def Reference.LeadsTo (es : List Entity) (r q : Reference o s) : Prop :=
  ∃ E ∈ es, E.name = r.owner.name ∧ ∃ d ∈ E.edges, d.declaredName = r.field.name
    ∧ d.target = q.owner.name ∧ d.counterpart = q.field.name

instance (es : List Entity) (r q : Reference o s) : Decidable (r.LeadsTo es q) :=
  inferInstanceAs (Decidable (∃ E ∈ es, E.name = r.owner.name ∧ ∃ d ∈ E.edges,
    d.declaredName = r.field.name ∧ d.target = q.owner.name ∧ d.counterpart = q.field.name))

variable {es : List Entity} {r q : Reference o s}

theorem Compiled.partner_of_leadsTo (h : Compiled o s es) (hrq : r.LeadsTo es q) :
    r.Partner q := by
  obtain ⟨E, hE, hname, d, hd, hdeclared, htarget, hcounterpart⟩ := hrq
  obtain ⟨x, y, ho, hp, hj⟩ := h.exists_reference hE hd
  obtain rfl : x = r :=
    h.admissible.reference_eq (ho.trans hname) (hj.declaredName.symm.trans hdeclared)
  obtain rfl : y = q :=
    h.admissible.reference_eq (hj.target.symm.trans htarget)
      (hj.counterpart.symm.trans hcounterpart)
  exact hp

/-- **WRITING DOWN WHAT WAS INFERRED** is harmless: of two references without
hints that lead to each other, one may name the other.  The set still
compiles, to the same entities but for the edge of that reference, which now
points back.  An empty name is no hint, and changes nothing. -/
theorem compile_withHint (h : compile o s = .ok es) (hne : r ≠ q) (hrq : r.LeadsTo es q)
    (hqr : q.LeadsTo es r) (hr : r.Silent) (hq : q.Silent) :
    (q.field.name ≠ "" →
        compile o (s.withHint (r.hintTo q)) = .ok (es.map (·.withHint (r.hintTo q))))
      ∧ (q.field.name = "" → compile o (s.withHint (r.hintTo q)) = .ok es) := by
  have hcompiled := compiled_of_compile h
  have hcouple : r.Couple q :=
    (hcompiled.partner_of_leadsTo hrq).couple (hcompiled.partner_of_leadsTo hqr) hne hr hq
  constructor
  · -- the catalog of the set with the hint yields the entities one by one
    intro hname
    obtain ⟨c, hc, hes⟩ := entities_of_compile h
    obtain ⟨c', hc'⟩ := Catalog.exists_build_withHint hc (r.hintTo q)
    refine compile_of_entities hc' ?_
    rw [Hint.selected_withHint, List.forall₂_map_left_iff, List.forall₂_map_right_iff]
    refine forall₂_imp_of_mem hes fun m hm E hE => ?_
    obtain ⟨e, he, hE⟩ := hE
    exact Catalog.exists_entity_withHint hcouple hname hc hc' hm he hE
  · -- that set is the set itself
    intro hname
    rw [withHint_eq_of_empty hcompiled.admissible hr hname]
    exact h

/-- Users with one profile each, whose field for the user is named as given;
posts and their authors are paired by a hint. -/
def profiledUsers (back : String) : DescriptorSet :=
  ⟨[{ name := "User", generate := true,
      fields := [.ofMessage "profile" "Profile",
        (FieldDescriptor.ofMessage "posts" "Post").asRepeated] },
    { name := "Profile", generate := true, fields := [.ofMessage back "User"] },
    { name := "Post", generate := true,
      fields := [(FieldDescriptor.ofMessage "author" "User").withRef "posts"] }]⟩

/-- The profile may name the user that it was paired with. -/
theorem profiledUsers_hinted :
    ∃ es, compile {} (profiledUsers "user") = .ok es
      ∧ compile {} ((profiledUsers "user").withHint ⟨"User", "profile", "user"⟩)
        = .ok (es.map (·.withHint ⟨"User", "profile", "user"⟩)) := by
  let profile : Reference {} (profiledUsers "user") :=
    ⟨(profiledUsers "user").entities[0], .ofMessage "profile" "Profile", by decide, by decide⟩
  let user : Reference {} (profiledUsers "user") :=
    ⟨(profiledUsers "user").entities[1], .ofMessage "user" "User", by decide, by decide⟩
  obtain ⟨es, h⟩ : ∃ es, compile {} (profiledUsers "user") = .ok es := ⟨_, rfl⟩
  have hlead : profile.LeadsTo ((compile {} (profiledUsers "user")).toOption.getD []) user
      ∧ user.LeadsTo ((compile {} (profiledUsers "user")).toOption.getD []) profile := by
    decide +kernel
  rw [h] at hlead
  have hne : profile ≠ user := fun heq => absurd (congrArg (·.owner.name) heq) (by decide)
  exact ⟨es, h, (compile_withHint h hne hlead.1 hlead.2 rfl rfl).1 (by decide)⟩

/-- A user without a name cannot be named: the profile and the user lead to
each other, but with the name of the user for a hint, the edge of the profile
does not point back. -/
theorem namelessUser_not_hinted :
    ∃ es, compile {} (profiledUsers "") = .ok es
      ∧ (∃ r q : Reference {} (profiledUsers ""),
        r.hintTo q = ⟨"User", "profile", ""⟩ ∧ r ≠ q ∧ r.LeadsTo es q ∧ q.LeadsTo es r
          ∧ r.Silent ∧ q.Silent)
      ∧ compile {} ((profiledUsers "").withHint ⟨"User", "profile", ""⟩)
        ≠ .ok (es.map (·.withHint ⟨"User", "profile", ""⟩)) := by
  let profile : Reference {} (profiledUsers "") :=
    ⟨(profiledUsers "").entities[0], .ofMessage "profile" "Profile", by decide, by decide⟩
  let user : Reference {} (profiledUsers "") :=
    ⟨(profiledUsers "").entities[1], .ofMessage "" "User", by decide, by decide⟩
  obtain ⟨es, h⟩ : ∃ es, compile {} (profiledUsers "") = .ok es := ⟨_, rfl⟩
  have hlead : profile.LeadsTo ((compile {} (profiledUsers "")).toOption.getD []) user
      ∧ user.LeadsTo ((compile {} (profiledUsers "")).toOption.getD []) profile := by
    decide +kernel
  have hturned : (compile {} ((profiledUsers "").withHint ⟨"User", "profile", ""⟩)).toOption
      ≠ (compile {} (profiledUsers "")).toOption.map
        fun es => es.map (·.withHint ⟨"User", "profile", ""⟩) := by
    decide +kernel
  rw [h] at hlead hturned
  have hne : profile ≠ user := fun heq => absurd (congrArg (·.owner.name) heq) (by decide)
  refine ⟨es, h, ⟨profile, user, rfl, hne, hlead.1, hlead.2, rfl, rfl⟩, ?_⟩
  intro hes
  rw [hes] at hturned
  exact hturned rfl

end EntitySchema
