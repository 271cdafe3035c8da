/-
  EntitySchema.Proofs.Compilation.Composition
  ────────────────────────────────
  **SETS COMPILE SIDE BY SIDE.**

  A set that compiles refers to itself only.  Messages added behind it find
  no field there that refers to them, so they have to find their
  counterparts among themselves:

      compile s = es
      compile (s ++ t) = us   ⇄   nothing in t bears a name of s,
                                  compile t = ts and us = es ++ ts

  One direction only needs that a catalog which finds more resolves all
  that was resolved before.  The other one needs that the first catalog is
  closed: it offers no candidates to a name it does not have.

  Main result: `compile_append_eq_ok_iff`.
-/
import EntitySchema.Proofs.Catalog.Union
import EntitySchema.Proofs.Compilation.Edges

namespace EntitySchema

variable {o : CompileOptions} {s t : DescriptorSet}

namespace Catalog

variable {c c' : Catalog}

/-! ## §1. A catalog that finds more. -/

/-- What one catalog finds, the other one finds as well. -/
def Extends (c' c : Catalog) : Prop := ∀ n x, c.get? n = some x → c'.get? n = some x

theorem Extends.pair (h : c'.Extends c) {e x : CatalogEntry} {f g : FieldDescriptor}
    (hp : c.pair e .declared f = .ok (x, g)) : c'.pair e .declared f = .ok (x, g) := by
  obtain ⟨hget, hfind⟩ := pair_eq_ok.1 hp
  exact pair_eq_ok.2 ⟨h _ _ hget, hfind⟩

theorem Extends.resolve (h : c'.Extends c) {e : CatalogEntry} {f : FieldDescriptor} {d : Edge}
    (hd : c.resolve e .declared f = .ok d) : c'.resolve e .declared f = .ok d := by
  obtain ⟨x, g, hp, rfl⟩ := resolve_eq_ok_iff.1 hd
  exact resolve_eq_ok_iff.2 ⟨x, g, h.pair hp, rfl⟩

/-- **Entities stay** when the catalog finds more. -/
theorem Extends.entity (h : c'.Extends c) {e : CatalogEntry} {E : Entity}
    (hE : c.entity e = .ok E) : c'.entity e = .ok E := by
  obtain ⟨ds, hds, rfl⟩ := entity_eq_ok_iff.1 hE
  exact entity_eq_ok_iff.2 ⟨ds, hds.imp fun _ _ => h.resolve, rfl⟩

/-! ## §2. A catalog that refers to itself only. -/

/-- What the entries of a catalog refer to is in the catalog. -/
def Closed (c : Catalog) : Prop :=
  ∀ x ∈ c.entries, ∀ g ∈ x.references, ∀ n, g.target? = some n → (c.get? n).isSome = true

/-- A catalog with all its entities is closed. -/
theorem closed_of_entities {es : List Entity}
    (h : List.Forall₂ (fun e E => c.entity e = .ok E) c.entries es) : c.Closed := by
  intro x hx g hg n hn
  obtain ⟨E, -, hE⟩ := exists_right_of_mem h x hx
  obtain ⟨ds, hds, -⟩ := entity_eq_ok_iff.1 hE
  obtain ⟨d, -, hd⟩ := exists_right_of_mem hds g hg
  obtain ⟨y, k, hp, -⟩ := resolve_eq_ok_iff.1 hd
  have hget := (pair_eq_ok.1 hp).1
  rw [hn, Option.getD_some] at hget
  rw [hget]
  rfl

/-- **A closed catalog offers no candidates** to a name it does not have. -/
theorem Closed.referencesTo_eq_nil (h : c.Closed) {x : CatalogEntry} (hx : x ∈ c.entries)
    {n : String} (hn : c.get? n = none) : x.referencesTo n = [] := by
  rw [CatalogEntry.referencesTo, List.filter_eq_nil_iff]
  intro g hg htarget
  have hsome := h x hx g hg n (of_decide_eq_true htarget)
  rw [hn] at hsome
  cases hsome

/-! ## §3. Two catalogs. -/

/-- Without candidates there is no counterpart. -/
theorem findCounterpart_nil (f : FieldDescriptor) : findCounterpart f [] = .error .noCounterpart :=
  rfl

section Union

variable (hc : c.Lists o s) (hc' : c'.Lists o t) (hapart : s.Apart t)
include hc hc'

theorem Lists.get?_union (hu : (c.union c').Lists o (s ++ t)) (n : String) :
    (c.union c').get? n = (c.get? n).or (c'.get? n) :=
  Catalog.get?_union hc.indexed hc'.indexed hu.indexed n

theorem Lists.union_extends_left (hu : (c.union c').Lists o (s ++ t)) :
    (c.union c').Extends c := by
  intro n x hx
  rw [hc.get?_union hc' hu, hx, Option.some_or]

include hapart

theorem Lists.union_extends_right (hu : (c.union c').Lists o (s ++ t)) :
    (c.union c').Extends c' := by
  intro n x hx
  -- the name is one of the second set, so the first catalog does not have it
  obtain ⟨hmem, rfl⟩ := hc'.get?_eq_some_iff.1 hx
  rw [hc.get?_union hc' hu, get?_eq_none_of_apart hc hc' hapart hmem, Option.none_or, hx]

/-- A reference of the second set finds its counterpart in the second set. -/
theorem Lists.pair_of_union (hu : (c.union c').Lists o (s ++ t)) (hclosed : c.Closed)
    {e : CatalogEntry} (he : e ∈ c'.entries) {x : CatalogEntry} {f g : FieldDescriptor}
    (hp : (c.union c').pair e .declared f = .ok (x, g)) : c'.pair e .declared f = .ok (x, g) := by
  obtain ⟨hget, hfind, hcheck⟩ := pair_eq_ok.1 hp
  rw [hc.get?_union hc' hu] at hget
  cases hx : c.get? (f.target?.getD "") with
  | none =>
      rw [hx, Option.none_or] at hget
      exact pair_eq_ok.2 ⟨hget, hfind, hcheck⟩
  | some y =>
      -- a target in the first set has no field that refers to this entry
      rw [hx, Option.some_or] at hget
      obtain rfl : y = x := Option.some.inj hget
      have hy : y ∈ c.entries := (hc.get?_eq_some_iff.1 hx).1
      rw [hclosed.referencesTo_eq_nil hy (get?_eq_none_of_apart hc hc' hapart he),
        findCounterpart_nil] at hfind
      cases hfind

theorem Lists.entity_of_union (hu : (c.union c').Lists o (s ++ t)) (hclosed : c.Closed)
    {e : CatalogEntry} (he : e ∈ c'.entries) {E : Entity}
    (hE : (c.union c').entity e = .ok E) : c'.entity e = .ok E := by
  obtain ⟨ds, hds, rfl⟩ := entity_eq_ok_iff.1 hE
  refine entity_eq_ok_iff.2 ⟨ds, hds.imp fun f d hd => ?_, rfl⟩
  obtain ⟨x, g, hp, rfl⟩ := resolve_eq_ok_iff.1 hd
  exact resolve_eq_ok_iff.2 ⟨x, g, hc.pair_of_union hc' hapart hu hclosed he hp, rfl⟩

end Union
end Catalog

/-! ## §4. Compilations. -/

/-- **SETS COMPILE SIDE BY SIDE**: behind a set that compiles, another one
compiles to its own entities and in no other way. -/
theorem compile_append_eq_ok_iff {es : List Entity} (h : compile o s = .ok es) {us : List Entity} :
    compile o (s ++ t) = .ok us
      ↔ s.Apart t ∧ ∃ ts, compile o t = .ok ts ∧ us = es ++ ts := by
  obtain ⟨c, hc, hes⟩ := compile_eq_ok_iff.1 h
  have hl := Catalog.lists_of_build hc
  constructor
  · intro hus
    obtain ⟨u, hu, hus⟩ := compile_eq_ok_iff.1 hus
    obtain ⟨hapart, c₁, c', hc₁, hc', rfl⟩ := Catalog.build_append_eq_ok_iff.1 hu
    obtain rfl : c₁ = c := Except.ok.inj (hc₁.symm.trans hc)
    have hl' := Catalog.lists_of_build hc'
    have hlu := Catalog.lists_of_build hu
    rw [Catalog.entries_union] at hus
    obtain ⟨es', ts, hes', hts, rfl⟩ := forall₂_append_left_iff.1 hus
    -- the entities of the first set are the ones it had before
    have hsame : es' = es := by
      have hes := hes.imp fun _ _ => (hl.union_extends_left hl' hlu).entity
      refine List.right_unique_forall₂' (fun e E E' hE hE' => ?_) hes' hes
      exact Except.ok.inj (hE.symm.trans hE')
    refine ⟨hapart, ts, compile_eq_ok_iff.2 ⟨c', hc', ?_⟩, hsame ▸ rfl⟩
    have hmem := (List.forall₂_and_left (p := (· ∈ c'.entries)) _ _).2 ⟨fun e he => he, hts⟩
    refine hmem.imp fun e E hE => ?_
    exact hl.entity_of_union hl' hapart hlu (Catalog.closed_of_entities hes) hE.1 hE.2
  · intro hts
    obtain ⟨hapart, ts, hts, rfl⟩ := hts
    obtain ⟨c', hc', hts⟩ := compile_eq_ok_iff.1 hts
    have hl' := Catalog.lists_of_build hc'
    have hu : Catalog.build o (s ++ t) = .ok (c.union c') :=
      Catalog.build_append_eq_ok_iff.2 ⟨hapart, c, c', hc, hc', rfl⟩
    have hlu := Catalog.lists_of_build hu
    refine compile_eq_ok_iff.2 ⟨c.union c', hu, ?_⟩
    rw [Catalog.entries_union]
    refine forall₂_append_left_iff.2 ⟨es, ts, ?_, ?_, rfl⟩
    · exact hes.imp fun _ _ => (hl.union_extends_left hl' hlu).entity
    · exact hts.imp fun _ _ => (hl.union_extends_right hl' hapart hlu).entity

/-- Tags with tags below them. -/
def nestedTags : DescriptorSet :=
  ⟨[{ name := "Tag", generate := true,
      fields := [(FieldDescriptor.ofMessage "parent" "Tag").withRef "children",
        (FieldDescriptor.ofMessage "children" "Tag").asRepeated] }]⟩

/-- Comments on posts that know nothing of comments. -/
def postComments : DescriptorSet :=
  ⟨[{ name := "Comment", generate := true, fields := [.ofMessage "post" "Post"] }]⟩

/-- Tags join the posts and leave them as they were; comments cannot attach
themselves to the posts. -/
theorem reviewedPosts_composed :
    ∃ es ts, compile {} reviewedPosts = .ok es ∧ compile {} nestedTags = .ok ts
      ∧ compile {} (reviewedPosts ++ nestedTags) = .ok (es ++ ts)
      ∧ ¬ ∃ us, compile {} (reviewedPosts ++ postComments) = .ok us := by
  obtain ⟨es, h⟩ : ∃ es, compile {} reviewedPosts = .ok es := ⟨_, rfl⟩
  obtain ⟨ts, ht⟩ : ∃ ts, compile {} nestedTags = .ok ts := ⟨_, rfl⟩
  have hapart : reviewedPosts.Apart nestedTags := by decide
  refine ⟨es, ts, h, ht, (compile_append_eq_ok_iff h).2 ⟨hapart, ts, ht, rfl⟩, ?_⟩
  intro hus
  obtain ⟨us, hus⟩ := hus
  obtain ⟨-, cs, hcs, -⟩ := (compile_append_eq_ok_iff h).1 hus
  have halone : compile {} postComments
      = .error (.pairing ⟨"Comment", "post", "Post", .unknownTarget⟩) := rfl
  rw [halone] at hcs
  cases hcs

end EntitySchema
