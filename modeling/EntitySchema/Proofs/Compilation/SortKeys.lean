/-
  EntitySchema.Proofs.Compilation.SortKeys
  ────────────────────────────────
  **WHAT A RESULT CAN BE SORTED BY.**

  The annotations of a compiled edge are made before there are any edges,
  from the catalog.  They can be read off the compiled entities as well:

      one object     a key per mutable attribute of the target
      many objects   a key for their number, with the name of the target,
                     or of the edge if more lists lead to that target

  Main result: `annotations_of_compile`.
-/
import EntitySchema.Proofs.Compilation.Members

namespace EntitySchema

open Identifier

variable {o : CompileOptions} {s : DescriptorSet}

/-! ## §1. Attributes. -/

/-- Sort keys that an attribute offers. -/
def Attribute.orderKeys (a : Attribute) : List String := a.annotations.filterMap (·.orderKey?)

/-- Whether results can be sorted by an attribute. -/
def Attribute.isSortable (a : Attribute) : Bool := !a.isIdentity && !a.storageKind.isCollection

theorem orderKeys_attributeAnnotations (name : String) (kind : StorageKind) (type : String) :
    (attributeAnnotations name kind type).filterMap (·.orderKey?)
      = if kind.isCollection then [] else [sortKey name] := by
  unfold attributeAnnotations
  cases (nonEmpty type).or kind.graphqlOverride <;> cases kind.isCollection <;> rfl

theorem orderKeys_of_classify {entity : String} {f : FieldDescriptor} {a : Attribute}
    (h : classify o entity f = .ok a) :
    a.orderKeys = if a.isSortable then [sortKey a.name] else [] := by
  unfold classify at h
  split at h
  next hid =>
    cases h
    rfl
  next hid =>
    split at h
    next kind hkind =>
      cases h
      -- such an attribute is no identity, so only its kind decides
      refine (orderKeys_attributeAnnotations _ kind _).trans ?_
      show _ = if (!kind.isCollection) = true then _ else _
      cases kind.isCollection <;> rfl
    next => cases h

/-! ## §2. Edges. -/

/-- Edges of an entity that lead to many objects of one name. -/
def Entity.listsOf (E : Entity) (target : String) : List Edge :=
  E.edges.filter fun d => !d.unique && d.target = target

/-- Name whose count sorts the results of an edge to many objects. -/
def Entity.countName (E : Entity) (d : Edge) : String :=
  if 1 < (E.listsOf d.target).length then d.declaredName else d.target

/-- Annotations of an edge from `E` to `T`. -/
def Edge.derivedAnnotations (E T : Entity) (d : Edge) : List Annotation :=
  if d.unique then
    T.mutableAttributes.map fun a => .orderField (sortKey d.name ++ "_" ++ sortKey a.name)
  else [.relayConnection, .orderField (sortKey (E.countName d) ++ "_COUNT")]

/-- A field leads to one object iff it is not repeated, whatever its
counterpart is. -/
theorem Cardinality.isUnique_between (declaring counterpart : Bool) :
    (between declaring counterpart).isUnique = !declaring := by
  cases declaring <;> cases counterpart <;> rfl

namespace Catalog

variable {c : Catalog} {e : CatalogEntry}

theorem unique_of_resolve {f : FieldDescriptor} {d : Edge} (h : c.resolve e .declared f = .ok d) :
    d.unique = !f.repeated := by
  obtain ⟨t, g, -, rfl⟩ := resolve_eq_ok_iff.1 h
  exact Cardinality.isUnique_between f.repeated g.repeated

theorem target_of_resolve (hl : c.Lists o s) {f : FieldDescriptor} (hf : f.target?.isSome = true)
    {d : Edge} (h : c.resolve e .declared f = .ok d) : f.target? = some d.target := by
  obtain ⟨t, g, hpair, rfl⟩ := resolve_eq_ok_iff.1 h
  obtain ⟨n, hn⟩ := Option.isSome_iff_exists.1 hf
  have hget := (pair_eq_ok.1 hpair).1
  rw [hn, Option.getD_some] at hget
  rw [hn, ← (hl.get?_eq_some_iff.1 hget).2]
  rfl

/-- Repeated references to an entity are the lists of its objects. -/
theorem length_listsOf (hl : c.Lists o s) {m : MessageDescriptor} (he : e.Describes o m)
    {E : Entity} (hE : c.entity e = .ok E) (n : String) :
    ((e.referencesTo n).filter (·.repeated)).length = (E.listsOf n).length := by
  obtain ⟨ds, hds, rfl⟩ := entity_eq_ok_iff.1 hE
  have htyped := (List.forall₂_and_left (p := (·.target?.isSome = true)) _ _).2
    ⟨fun f hf => he.typed f (he.references ▸ hf), hds⟩
  have hlists : Relator.LiftFun
      (fun f d => f.target?.isSome = true ∧ c.resolve e .declared f = .ok d) (· ↔ ·)
      (fun f => (f.repeated && decide (f.target? = some n)) = true)
      (fun d => (!d.unique && decide (d.target = n)) = true) := by
    intro f d hfd
    obtain ⟨hf, hd⟩ := hfd
    simp only [unique_of_resolve hd, target_of_resolve hl hf hd, Bool.not_not, Option.some_inj]
  rw [CatalogEntry.referencesTo, List.filter_filter]
  exact (List.rel_filter hlists htyped).length_eq

/-- Attributes by which an entry may be sorted are the mutable ones of its
entity. -/
theorem mutableAttributes_of_entity {E : Entity} (hE : c.entity e = .ok E) :
    E.mutableAttributes = e.orderable := by
  rw [Entity.mutableAttributes, (declaredNames_of_entity hE).1]
  rfl

/-- Annotations of an edge, from the entities at both ends. -/
theorem annotations_of_entity (hl : c.Lists o s) {m : MessageDescriptor} (he : e.Describes o m)
    {E : Entity} (hE : c.entity e = .ok E) {d : Edge} (hd : d ∈ E.edges) :
    ∃ t ∈ c.entries, t.name = d.target
      ∧ ∀ T, c.entity t = .ok T → d.annotations = d.derivedAnnotations E T := by
  obtain ⟨f, hf, hd⟩ : ∃ f ∈ e.references, c.resolve e .declared f = .ok d := by
    obtain ⟨ds, hds, rfl⟩ := entity_eq_ok_iff.1 hE
    exact exists_left_of_mem hds d hd
  have hunique := unique_of_resolve hd
  obtain ⟨t, g, hpair, rfl⟩ := resolve_eq_ok_iff.1 hd
  refine ⟨t, (hl.get?_eq_some_iff.1 (pair_eq_ok.1 hpair).1).1, rfl, fun T hT => ?_⟩
  unfold Edge.derivedAnnotations
  show edgeAnnotations e t f (Edge.ofPair e t f g).unique = _
  -- a unique edge has keys of the target, any other one a count
  unfold edgeAnnotations
  split
  · rw [mutableAttributes_of_entity hT]
    rfl
  · rw [countBase, length_listsOf hl he hE]
    rfl

end Catalog

/-! ## §3. Compilations. -/

/-- **WHAT A RESULT CAN BE SORTED BY**: the annotations of an edge are those
that the entities at its ends ask for. -/
theorem annotations_of_compile {es : List Entity} (h : compile o s = .ok es) {E : Entity}
    (hE : E ∈ es) {d : Edge} (hd : d ∈ E.edges) :
    ∃ T ∈ es, T.name = d.target ∧ d.annotations = d.derivedAnnotations E T := by
  obtain ⟨c, hc, hes⟩ := compile_eq_ok_iff.1 h
  have hl := Catalog.lists_of_build hc
  obtain ⟨e, he, hE⟩ := exists_left_of_mem hes E hE
  obtain ⟨m, -, hem⟩ := hl.exists_message he
  obtain ⟨t, ht, hname, hannotations⟩ := Catalog.annotations_of_entity hl hem hE hd
  obtain ⟨T, hT, htT⟩ := exists_right_of_mem hes t ht
  refine ⟨T, hT, ?_, hannotations T htT⟩
  obtain ⟨ds, -, rfl⟩ := Catalog.entity_eq_ok_iff.1 htT
  exact hname

theorem orderKeys_of_compile {es : List Entity} (h : compile o s = .ok es) {E : Entity}
    (hE : E ∈ es) {a : Attribute} (ha : a ∈ E.attributes) :
    a.orderKeys = if a.isSortable then [sortKey a.name] else [] := by
  obtain ⟨c, -, hes⟩ := entities_of_compile h
  obtain ⟨m, -, e, he, hE⟩ := exists_left_of_mem hes E hE
  rw [(Catalog.declaredNames_of_entity hE).1] at ha
  obtain ⟨f, -, hf⟩ := exists_left_of_mem (attributes_of_ofMessage he) a ha
  exact orderKeys_of_classify hf

end EntitySchema
