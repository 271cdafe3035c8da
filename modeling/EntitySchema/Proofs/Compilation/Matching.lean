/-
  EntitySchema.Proofs.Compilation.Matching
  ────────────────────────────────
  **A HINTED MATCHING IS COMPILED AS IT IS.**

  A matching takes each reference to one that faces it, and back.  It is
  hinted if of two matched references exactly one has a hint, the name of
  the other, and a reference that is matched with itself has its own name:

      r ──hint──▶ p r        p (p r) = r

  Then, however many references run in parallel, every set whose catalog
  can be built compiles, and each edge is that of the matching.

  Main result: `hinted_matching_realised`.
-/
import EntitySchema.Proofs.Compilation.Edges
import EntitySchema.Proofs.Pairing.Symmetry

namespace EntitySchema

variable {o : CompileOptions} {s : DescriptorSet}

/-! ## §1. Hinted matchings. -/

/-- References are matched in pairs that face each other, with one hint to
each pair. -/
structure HintedMatching (p : Reference o s → Reference o s) : Prop where
  involutive : Function.Involutive p
  target : ∀ r, r.field.target? = some (p r).owner.name
  pair : ∀ r, p r ≠ r → r.Names (p r) ∧ (p r).Silent ∨ r.Silent ∧ (p r).Names r
  self : ∀ r, p r = r → r.Names r

namespace HintedMatching

variable {p : Reference o s → Reference o s}

theorem faces (hp : HintedMatching p) (r : Reference o s) : r.Faces (p r) := by
  have hback : (p r).field.target? = some (p (p r)).owner.name := hp.target (p r)
  rw [hp.involutive r] at hback
  exact ⟨hp.target r, hback⟩

/-- A reference with a hint names its match. -/
theorem names (hp : HintedMatching p) {r : Reference o s} (hr : ¬ r.Silent) : r.Names (p r) := by
  by_cases hself : p r = r
  · rw [hself]
    exact hp.self r hself
  · rcases hp.pair r hself with h | h
    · exact h.1
    · exact absurd h.1 hr

/-- A reference that faces a silent one and names it is its match: the two
matches of a name would be one reference. -/
theorem eq_of_names (hp : HintedMatching p) (hs : s.Admissible o) {r x : Reference o s}
    (hf : r.Faces x) (hx : x.Names r) : x = p r := by
  have hsilent : ¬ x.Silent := fun h => h.not_names hx
  -- `x` names `r` and names its own match, and both face it
  have hmatch : p x = r := hs.eq_of_names hf.symm (hp.faces x) hx (hp.names hsilent)
  rw [← hmatch, hp.involutive x]

/-- **The match of a reference is its partner.** -/
theorem partner (hp : HintedMatching p) (hs : s.Admissible o) (r : Reference o s) :
    r.Partner (p r) := by
  have hf := hp.faces r
  by_cases hself : p r = r
  · rw [hself] at hf ⊢
    exact .itself hf (hp.self r hself)
  · rcases hp.pair r hself with h | h
    · exact .named hf h.1 h.2
    · exact .called hf h.1 h.2 fun x hx hn => hp.eq_of_names hs hx hn

end HintedMatching

/-! ## §2. Compiling a hinted matching. -/

/-- **A HINTED MATCHING IS COMPILED AS IT IS**: the compilation succeeds,
every reference has an edge, and every edge is that of a reference and its
match.  Of two matched references the one with the hint points back, and
only one that is matched with itself is bidirectional. -/
theorem hinted_matching_realised {c : Catalog} (hb : Catalog.build o s = .ok c)
    {p : Reference o s → Reference o s} (hp : HintedMatching p) :
    ∃ es, compile o s = .ok es
      ∧ (∀ r : Reference o s, ∃ E ∈ es, E.name = r.owner.name
        ∧ ∃ d ∈ E.edges, d.declaredName = r.field.name)
      ∧ ∀ E ∈ es, ∀ d ∈ E.edges, ∃ r : Reference o s,
        r.owner.name = E.name ∧ r.field.name = d.declaredName
          ∧ d.target = (p r).owner.name ∧ d.counterpart = (p r).field.name
          ∧ (p r ≠ r → ¬ r.Silent → d.direction = .referencing (p r).field.name)
          ∧ (p r = r ∨ r.Silent → d.direction = .owning)
          ∧ (d.bidirectional = true ↔ p r = r) := by
  have hs := (Catalog.lists_of_build hb).admissible
  obtain ⟨es, h⟩ := exists_compile_eq_ok_iff.2 ⟨⟨c, hb⟩, fun r => ⟨p r, hp.partner hs r⟩⟩
  have hc := compiled_of_compile h
  refine ⟨es, h, ?_, ?_⟩
  · intro r
    obtain ⟨E, hE, hname, d, hd, q, -, hj⟩ := hc.exists_edge r
    exact ⟨E, hE, hname, d, hd, hj.declaredName⟩
  · intro E hE d hd
    obtain ⟨r, q, ho, hr, hj⟩ := hc.exists_reference hE hd
    obtain rfl : q = p r := hr.unique hs (hp.partner hs r)
    refine ⟨r, ho, hj.declaredName.symm, hj.target, hj.counterpart, ?_, ?_, ?_⟩
    · intro hne hsilent
      exact (hj.direction_eq_referencing_iff hs hr).2 ⟨hr.names hsilent, hne.symm⟩
    · intro h
      refine (hj.direction_eq_owning_iff hs hr).2 ?_
      rcases h with hself | hsilent
      · exact .inr hself.symm
      · exact .inl hsilent
    · rw [hj.bidirectional_iff hs hr]
      constructor
      · intro h
        exact h.1.symm
      · intro hself
        exact ⟨hself.symm, fun hsilent => hsilent.not_names (hp.self r hself)⟩

/-! ## §3. Two parallel pairs. -/

namespace ReviewedPosts

/-- The written posts of a user. -/
def written : Reference {} reviewedPosts :=
  ⟨reviewingUser, reviewingUser.fields[0], by decide, by decide⟩

/-- The reviewed posts of a user. -/
def reviewed : Reference {} reviewedPosts :=
  ⟨reviewingUser, reviewingUser.fields[1], by decide, by decide⟩

/-- The friends of a user. -/
def friends : Reference {} reviewedPosts :=
  ⟨reviewingUser, reviewingUser.fields[2], by decide, by decide⟩

/-- The author of a post. -/
def author : Reference {} reviewedPosts :=
  ⟨reviewedPost, reviewedPost.fields[0], by decide, by decide⟩

/-- The reviewer of a post. -/
def reviewer : Reference {} reviewedPosts :=
  ⟨reviewedPost, reviewedPost.fields[1], by decide, by decide⟩

theorem reference_cases (r : Reference {} reviewedPosts) :
    r = written ∨ r = reviewed ∨ r = friends ∨ r = author ∨ r = reviewer := by
  -- names identify references, so the five are told by their names
  have hnames : ∀ m ∈ reviewedPosts.selected, ∀ f ∈ m.openReferences {},
      (m.name, f.name) = ("User", "written") ∨ (m.name, f.name) = ("User", "reviewed")
        ∨ (m.name, f.name) = ("User", "friends") ∨ (m.name, f.name) = ("Post", "author")
        ∨ (m.name, f.name) = ("Post", "reviewer") := by decide
  obtain ⟨c, hb⟩ : ∃ c, Catalog.build {} reviewedPosts = .ok c := ⟨_, rfl⟩
  have hs := (Catalog.lists_of_build hb).admissible
  have heq : ∀ q : Reference {} reviewedPosts,
      (r.owner.name, r.field.name) = (q.owner.name, q.field.name) → r = q := by
    intro q h
    rw [Prod.mk.injEq] at h
    exact hs.reference_eq h.1 h.2
  rcases hnames r.owner r.owner_mem r.field r.field_mem with h | h | h | h | h
  · exact .inl (heq written h)
  · exact .inr (.inl (heq reviewed h))
  · exact .inr (.inr (.inl (heq friends h)))
  · exact .inr (.inr (.inr (.inl (heq author h))))
  · exact .inr (.inr (.inr (.inr (heq reviewer h))))

/-- Lists and the fields that name them. -/
def mate (r : Reference {} reviewedPosts) : Reference {} reviewedPosts :=
  if r.field.name = "written" then author
  else if r.field.name = "reviewed" then reviewer
  else if r.field.name = "author" then written
  else if r.field.name = "reviewer" then reviewed
  else friends

theorem hintedMatching_mate : HintedMatching mate where
  involutive r := by
    rcases reference_cases r with rfl | rfl | rfl | rfl | rfl <;> rfl
  target r := by
    rcases reference_cases r with rfl | rfl | rfl | rfl | rfl <;> rfl
  pair r hne := by
    rcases reference_cases r with rfl | rfl | rfl | rfl | rfl
    · exact .inr ⟨rfl, rfl⟩
    · exact .inr ⟨rfl, rfl⟩
    · exact absurd rfl hne
    · exact .inl ⟨rfl, rfl⟩
    · exact .inl ⟨rfl, rfl⟩
  self r hself := by
    have hname : (mate r).field.name = r.field.name := by rw [hself]
    rcases reference_cases r with rfl | rfl | rfl | rfl | rfl
    · exact absurd hname (by decide)
    · exact absurd hname (by decide)
    · rfl
    · exact absurd hname (by decide)
    · exact absurd hname (by decide)

theorem mate_realised :
    ∃ es, compile {} reviewedPosts = .ok es ∧ ∀ E ∈ es, ∀ d ∈ E.edges,
      ∃ r, r.owner.name = E.name ∧ r.field.name = d.declaredName
        ∧ d.counterpart = (mate r).field.name ∧ (d.bidirectional = true ↔ mate r = r) := by
  obtain ⟨c, hb⟩ : ∃ c, Catalog.build {} reviewedPosts = .ok c := ⟨_, rfl⟩
  obtain ⟨es, h, -, hall⟩ := hinted_matching_realised hb hintedMatching_mate
  refine ⟨es, h, ?_⟩
  intro E hE d hd
  obtain ⟨r, ho, hf, -, hcounterpart, -, -, hself⟩ := hall E hE d hd
  exact ⟨r, ho, hf, hcounterpart, hself⟩

end ReviewedPosts
end EntitySchema
