/-
  EntitySchema.Proofs.Compilation.Likeness
  ────────────────────────────────
  **WHAT A COMPILATION READS OF ITS CATALOG.**

  Pairing reads four things of a reference; an edge reads three things of
  the entries at its ends:

      reference   name, target, whether it repeats, its overrides
      entry       name, references, names of the attributes to sort by

  Catalogs that agree in these yield equal edges or equal faults for equal
  places.  Where they agree in the attributes as well, the entities are
  equal.

  Main results: `Catalog.Resembles.resolveAll_eq`, `compile_eq_of_like`.
-/
import EntitySchema.Compilation
import EntitySchema.Proofs.Catalog.Likeness

namespace EntitySchema

/-! ## §1. References. -/

/-- Fields of one name that lead to one target, both repeated or neither. -/
structure FieldDescriptor.Parallel (f f' : FieldDescriptor) : Prop where
  name : f'.name = f.name
  target : f'.target? = f.target?
  repeated : f'.repeated = f.repeated

theorem FieldDescriptor.StoredAlike.parallel {f f' : FieldDescriptor} (h : f.StoredAlike f') :
    f.Parallel f' where
  name := h.name_eq
  target := h.target?_eq
  repeated := by rw [h]

/-- Fields that pairing cannot tell apart. -/
structure FieldDescriptor.Interchangeable (f f' : FieldDescriptor) : Prop extends
    f.Parallel f' where
  edge : f'.options.edge = f.options.edge

theorem FieldDescriptor.Interchangeable.refl (f : FieldDescriptor) : f.Interchangeable f where
  name := rfl
  target := rfl
  repeated := rfl
  edge := rfl

theorem FieldDescriptor.Interchangeable.refHint {f f' : FieldDescriptor}
    (h : f.Interchangeable f') : f'.refHint = f.refHint := by
  rw [FieldDescriptor.refHint, FieldDescriptor.refHint, h.edge]

section Pairing

variable {f f' g g' : FieldDescriptor} {cs cs' : List FieldDescriptor}

/-- **The same search** among interchangeable candidates finds
interchangeable counterparts, or fails for the same cause. -/
theorem findCounterpart_like (hf : f.Interchangeable f')
    (hcs : List.Forall₂ FieldDescriptor.Interchangeable cs cs') :
    SameOutcome FieldDescriptor.Interchangeable (findCounterpart f cs)
      (findCounterpart f' cs') := by
  have hnames : cs'.map (·.name) = cs.map (·.name) :=
    (map_eq_map_of_forall₂ hcs fun _ _ hg => hg.name.symm).symm
  have hfind : ∀ r : String, Option.Rel FieldDescriptor.Interchangeable
      (cs.find? (·.name = r)) (cs'.find? (·.name = r)) := by
    intro r
    refine forall₂_find? hcs fun g g' hg => ?_
    rw [hg.name]
  have hcalled : List.Forall₂ FieldDescriptor.Interchangeable
      (cs.filter (·.refHint = some f.name)) (cs'.filter (·.refHint = some f.name)) := by
    refine List.rel_filter (fun g g' hg => ?_) hcs
    show decide (g.refHint = _) = true ↔ decide (g'.refHint = _) = true
    rw [hg.refHint]
  unfold findCounterpart
  rw [hf.refHint, hf.name, hnames]
  cases hcs with
  | nil => exact .error _
  | @cons g g' cs cs' hg hcs =>
      cases f.refHint with
      | some r =>
          -- the own hint decides, and both sides find it or both miss it
          dsimp only
          have hr := hfind r
          generalize (g :: cs).find? (·.name = r) = x at hr ⊢
          generalize (g' :: cs').find? (·.name = r) = x' at hr ⊢
          cases hr with
          | none => exact .error _
          | some hx => exact .ok hx
      | none =>
          cases hcs with
          | nil => exact .ok hg
          | cons hk hcs =>
              -- several candidates: the only one that calls the field
              dsimp only
              generalize List.filter _ _ = l at hcalled ⊢
              generalize List.filter _ _ = l' at hcalled ⊢
              cases hcalled with
              | nil => exact .error _
              | cons hx hrest =>
                  cases hrest with
                  | nil => exact .ok hx
                  | cons _ _ => exact .error _

theorem checkPairing_eq (hf : f.Interchangeable f') (hg : g.Interchangeable g') (same : Bool) :
    checkPairing same f' g' = checkPairing same f g := by
  unfold checkPairing
  rw [hg.refHint, hf.refHint, hf.name, hg.name]

end Pairing

/-! ## §2. Entries. -/

/-- Entries of one name that offer the same names to sort by, with related
references. -/
structure CatalogEntry.Resembles (S : FieldDescriptor → FieldDescriptor → Prop)
    (e e' : CatalogEntry) : Prop where
  name : e'.name = e.name
  orderable : e'.orderable.map (·.name) = e.orderable.map (·.name)
  references : List.Forall₂ S e.references e'.references

namespace CatalogEntry

variable {S S' : FieldDescriptor → FieldDescriptor → Prop} {e e' t t' : CatalogEntry}

theorem Like.resembles (h : e.Like S e') : e.Resembles S e' where
  name := h.name
  orderable := by rw [CatalogEntry.orderable, CatalogEntry.orderable, h.attributes]
  references := h.references

theorem Resembles.imp (h : e.Resembles S e') (hS : ∀ f f', S f f' → S' f f') :
    e.Resembles S' e' where
  name := h.name
  orderable := h.orderable
  references := h.references.imp hS

/-- Parallel references to an entity stand in the same places. -/
theorem Resembles.referencesTo (h : e.Resembles S e') (hS : ∀ f f', S f f' → f.Parallel f')
    (n : String) : List.Forall₂ S (e.referencesTo n) (e'.referencesTo n) := by
  refine List.rel_filter (fun f f' hf => ?_) h.references
  show decide (f.target? = _) = true ↔ decide (f'.target? = _) = true
  rw [(hS f f' hf).target]

theorem Resembles.countBase_eq (h : e.Resembles FieldDescriptor.Parallel e')
    {f f' : FieldDescriptor} (hf : f.Parallel f') (n : String) :
    countBase e' f' n = countBase e f n := by
  have hlists : List.Forall₂ FieldDescriptor.Parallel ((e.referencesTo n).filter (·.repeated))
      ((e'.referencesTo n).filter (·.repeated)) := by
    refine List.rel_filter (fun g g' hg => ?_) (h.referencesTo (fun _ _ hg => hg) n)
    show g.repeated = true ↔ g'.repeated = true
    rw [hg.repeated]
  unfold countBase
  rw [hlists.length_eq, hf.name]

/-- An edge takes the same sort keys from entries that resemble each
other. -/
theorem Resembles.edgeAnnotations_eq (he : e.Resembles FieldDescriptor.Parallel e')
    (ht : t.Resembles FieldDescriptor.Parallel t') {f f' : FieldDescriptor} (hf : f.Parallel f')
    (unique : Bool) : edgeAnnotations e' t' f' unique = edgeAnnotations e t f unique := by
  -- the keys of a unique edge are made from names only
  have hkeys : ∀ (n : String) (u : CatalogEntry), uniqueEdgeAnnotations n u
      = (u.orderable.map (·.name)).map fun a =>
          .orderField (Identifier.sortKey n ++ "_" ++ Identifier.sortKey a) := by
    intro n u
    rw [uniqueEdgeAnnotations, List.map_map]
    rfl
  unfold edgeAnnotations
  rw [hf.name, hkeys, hkeys, ht.orderable, ht.name, he.countBase_eq hf]

theorem Resembles.isBidirectional_eq (he : e.Resembles S e') (ht : t.Resembles S t')
    (f : FieldDescriptor) : isBidirectional e' t' f = isBidirectional e t f := by
  rw [isBidirectional, isBidirectional, he.name, ht.name]

/-- **The hint of a reference decides on the direction only**: another one
gives an edge that is the same in all else. -/
theorem Resembles.ofPair_eq_of_parallel (he : e.Resembles FieldDescriptor.Parallel e')
    (ht : t.Resembles FieldDescriptor.Parallel t') {f f' g g' : FieldDescriptor}
    (hf : f.Parallel f') (hg : g.Parallel g')
    (hedge : f'.options.edge
      = { f.options.edge with refName := f'.options.edge.refName }) :
    Edge.ofPair e' t' f' g'
      = { Edge.ofPair e t f g with
          bidirectional := isBidirectional e t f'
          direction := edgeDirection (isBidirectional e t f') f' } := by
  simp only [Edge.ofPair, he.isBidirectional_eq ht, he.edgeAnnotations_eq ht hf, hf.name,
    hf.repeated, hg.name, hg.repeated, he.name, ht.name]
  rw [hedge]
  rfl

/-- **The same edge** of interchangeable references between entries that
resemble each other. -/
theorem Resembles.ofPair_eq (he : e.Resembles FieldDescriptor.Interchangeable e')
    (ht : t.Resembles FieldDescriptor.Interchangeable t') {f f' g g' : FieldDescriptor}
    (hf : f.Interchangeable f') (hg : g.Interchangeable g') :
    Edge.ofPair e' t' f' g' = Edge.ofPair e t f g := by
  have hparallel : ∀ k k' : FieldDescriptor, k.Interchangeable k' → k.Parallel k' :=
    fun _ _ hk => hk.toParallel
  have hedge := (he.imp hparallel).ofPair_eq_of_parallel (ht.imp hparallel) hf.toParallel
    hg.toParallel (by rw [hf.edge])
  have hbidirectional : isBidirectional e t f' = isBidirectional e t f := by
    rw [isBidirectional, isBidirectional, hf.refHint, hf.name]
  rw [hedge, hbidirectional, edgeDirection, hf.refHint]
  rfl

end CatalogEntry

/-! ## §3. Catalogs. -/

/-- Catalogs that find entries resembling each other under every name. -/
def Catalog.Resembles (c c' : Catalog) : Prop :=
  ∀ n, Option.Rel (CatalogEntry.Resembles FieldDescriptor.Interchangeable) (c.get? n) (c'.get? n)

namespace Catalog

variable {c c' : Catalog} {e e' : CatalogEntry} {f f' : FieldDescriptor}

theorem Like.resembles (h : c.Like FieldDescriptor.Interchangeable c') : c.Resembles c' := by
  intro n
  have hget := h.get? n
  generalize c.get? n = x at hget ⊢
  generalize c'.get? n = x' at hget ⊢
  cases hget with
  | none => exact .none
  | some he => exact .some he.resembles

namespace Resembles

/-- Catalogs that resemble each other pair a reference with the same
counterpart, or fail to for the same cause. -/
theorem pair_like (h : c.Resembles c')
    (he : e.Resembles FieldDescriptor.Interchangeable e') (hf : f.Interchangeable f')
    (st : Standing) :
    SameOutcome (fun p p' => p.1.Resembles FieldDescriptor.Interchangeable p'.1
        ∧ p.2.Interchangeable p'.2)
      (c.pair e st f) (c'.pair e' st f') := by
  unfold Catalog.pair
  rw [hf.target]
  have hget := h (f.target?.getD "")
  generalize c.get? (f.target?.getD "") = x at hget ⊢
  generalize c'.get? (f.target?.getD "") = x' at hget ⊢
  -- the target is unknown to both, or known to both and alike
  cases hget with
  | none => exact .error _
  | @some t t' ht =>
      dsimp only
      rw [he.name, ht.name, hf.name]
      refine (findCounterpart_like hf (ht.referencesTo (fun _ _ hk => hk.toParallel) _)).bind
        fun g g' hg => ?_
      rw [checkPairing_eq hf hg, hg.name]
      refine (SameOutcome.of_eq rfl).bind fun _ _ _ => ?_
      exact .ok ⟨ht, hg⟩

/-- **Equal edges or equal faults** for interchangeable references. -/
theorem resolve_eq (h : c.Resembles c') (he : e.Resembles FieldDescriptor.Interchangeable e')
    (hf : f.Interchangeable f') (st : Standing) :
    c'.resolve e' st f' = c.resolve e st f := by
  unfold Catalog.resolve
  have hpair := h.pair_like he hf st
  generalize c.pair e st f = x at hpair ⊢
  generalize c'.pair e' st f' = x' at hpair ⊢
  cases hpair with
  | error cause => rw [he.name, hf.name, hf.target]
  | @ok p p' hp =>
      obtain ⟨t, g⟩ := p
      obtain ⟨t', g'⟩ := p'
      exact congrArg Except.ok (he.ofPair_eq hp.1 hf hp.2)

theorem resolveAll_eq (h : c.Resembles c')
    (he : e.Resembles FieldDescriptor.Interchangeable e') :
    c'.resolveAll e' = c.resolveAll e := by
  unfold Catalog.resolveAll
  refine (mapM_congr_of_forall₂ (he.references.imp fun f f' hf => ?_)).symm
  exact (h.resolve_eq he hf .declared).symm

end Resembles

theorem Like.entity_eq (h : c.Like FieldDescriptor.Interchangeable c')
    (he : e.Like FieldDescriptor.Interchangeable e') : c'.entity e' = c.entity e := by
  unfold Catalog.entity
  rw [h.resembles.resolveAll_eq he.resembles, he.name, he.attributes]

theorem Like.entities_eq (h : c.Like FieldDescriptor.Interchangeable c') :
    c'.entries.mapM c'.entity = c.entries.mapM c.entity :=
  (mapM_congr_of_forall₂ (h.entries.imp fun _ _ he => (h.entity_eq he).symm)).symm

end Catalog

/-- **Equal entities or equal faults** from catalogs that are alike. -/
theorem compile_eq_of_like {o o' : CompileOptions} {s t : DescriptorSet}
    (h : SameOutcome (Catalog.Like FieldDescriptor.Interchangeable) (Catalog.build o s)
      (Catalog.build o' t)) : compile o' t = compile o s := by
  have houtcome : SameOutcome (· = ·) (compile o s) (compile o' t) :=
    h.bind fun c c' hc => .of_eq hc.entities_eq.symm
  exact houtcome.eq.symm

end EntitySchema
