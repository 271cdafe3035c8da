/-
  EntitySchema.Proofs.Compilation.MemberNames
  ────────────────────────────────
  **WHEN MEMBERS SHARE A NAME.**

  Declared names are checked for repetitions, but a member is emitted, and
  found, under the snake-case form of its declared name.  Two spellings of
  one name pass the check and meet afterwards:

      declared   viewCount    view_count    distinct
      emitted    view_count   view_count    the second one is out of reach

  So the members of an entity have distinct names iff no two of the fields
  that are kept have one snake-case form.

  Main result: `member_names_distinct_iff`.
-/
import EntitySchema.Proofs.Compilation.Members

namespace EntitySchema

open Identifier

variable {o : CompileOptions} {s : DescriptorSet}

/-! ## §1. Snake-case names. -/

/-- No two fields of different names have the same snake-case name. -/
def SnakeApart (fs : List FieldDescriptor) : Prop :=
  ∀ f ∈ fs, ∀ g ∈ fs, snake f.name = snake g.name → f.name = g.name

instance (fs : List FieldDescriptor) : Decidable (SnakeApart fs) :=
  inferInstanceAs (Decidable (∀ f ∈ fs, ∀ g ∈ fs, snake f.name = snake g.name → f.name = g.name))

/-- Fields of distinct names are apart iff their snake-case names are
distinct. -/
theorem nodup_map_snake_iff {fs : List FieldDescriptor} (hd : (fs.map (·.name)).Nodup) :
    (fs.map fun f => snake f.name).Nodup ↔ SnakeApart fs := by
  rw [List.nodup_map_iff_inj_on (hd.of_map _)]
  constructor
  · intro h f hf g hg hsnake
    rw [h f hf g hg hsnake]
  · intro h f hf g hg hsnake
    exact List.inj_on_of_nodup_map hd hf hg (h f hf g hg hsnake)

/-- Members made from fields of distinct names, one each: the declared names
are those of the fields, the emitted ones their snake-case forms. -/
structure SpeltFrom {α : Type} (fs : List FieldDescriptor) (declared emitted : α → String)
    (l : List α) : Prop where
  distinct : (fs.map (·.name)).Nodup
  declared_eq : l.map declared = fs.map (·.name)
  emitted_eq : ∀ a ∈ l, emitted a = snake (declared a)

namespace SpeltFrom

variable {α : Type} {fs : List FieldDescriptor} {declared emitted : α → String} {l : List α}

theorem map_emitted_eq (h : SpeltFrom fs declared emitted l) :
    l.map emitted = fs.map fun f => snake f.name := by
  calc l.map emitted = (l.map declared).map snake := by
        rw [List.map_congr_left h.emitted_eq, List.map_map, Function.comp_def]
    _ = fs.map fun f => snake f.name := by
        rw [h.declared_eq, List.map_map, Function.comp_def]

theorem nodup (h : SpeltFrom fs declared emitted l) : l.Nodup :=
  List.Nodup.of_map declared (h.declared_eq ▸ h.distinct)

/-- Every member is found by its emitted name iff the fields are apart. -/
theorem forall_find?_iff (h : SpeltFrom fs declared emitted l) :
    (∀ a ∈ l, l.find? (fun x => emitted x = emitted a) = some a) ↔ SnakeApart fs := by
  rw [forall_find?_key_iff h.nodup, h.map_emitted_eq]
  exact nodup_map_snake_iff h.distinct

end SpeltFrom

/-! ## §2. Names of members. -/

/-- The name of the identity is in snake case, so it is emitted like any
other. -/
theorem snake_identityName : snake identityName = identityName := by
  decide +kernel

theorem name_of_classify {entity : String} {f : FieldDescriptor} {a : Attribute}
    (h : classify o entity f = .ok a) : a.name = snake a.declaredName := by
  unfold classify at h
  split at h
  next hid =>
    cases h
    exact snake_identityName.symm
  next hid =>
    split at h
    · cases h
      rfl
    · cases h

/-- Names under which the members of an entity are emitted. -/
def Entity.memberNames (E : Entity) : List String :=
  E.attributes.map (·.name) ++ E.edges.map (·.name)

/-- The members of an entity are made from the kept fields of a message. -/
structure Entity.Named (o : CompileOptions) (m : MessageDescriptor) (E : Entity) : Prop where
  distinct : (m.fields.map (·.name)).Nodup
  attributes : SpeltFrom (m.storedFields o) (·.declaredName) (·.name) E.attributes
  edges : SpeltFrom (m.openReferences o) (·.declaredName) (·.name) E.edges

/-- Stored fields and open references together are the fields that are
kept. -/
theorem Entity.Named.memberNames_perm {m : MessageDescriptor} {E : Entity} (h : E.Named o m) :
    E.memberNames.Perm (m.keptFields.map fun f => snake f.name) := by
  rw [Entity.memberNames, h.attributes.map_emitted_eq, h.edges.map_emitted_eq,
    MessageDescriptor.storedFields_eq, MessageDescriptor.openReferences_eq, ← List.map_append]
  exact (List.filter_append_perm _ m.keptFields).map _

theorem Catalog.named_of_entity {c : Catalog} {m : MessageDescriptor} {e : CatalogEntry}
    {E : Entity} (he : CatalogEntry.ofMessage o m = .ok e) (hE : c.entity e = .ok E) :
    E.Named o m := by
  have hdescribes := describes_of_ofMessage he
  have hattributes := attributes_of_ofMessage he
  have hfiltered : ∀ p : FieldDescriptor → Bool, ((m.fields.filter p).map (·.name)).Nodup :=
    fun p => hdescribes.distinct.sublist (List.filter_sublist.map _)
  obtain ⟨ds, hds, rfl⟩ := entity_eq_ok_iff.1 hE
  refine ⟨hdescribes.distinct, ⟨hfiltered _, ?_, ?_⟩, ⟨hfiltered _, ?_, ?_⟩⟩
  · exact map_declaredName_of_classify hattributes
  · intro a ha
    obtain ⟨f, -, hf⟩ := exists_left_of_mem hattributes a ha
    exact name_of_classify hf
  · rw [← (declaredNames_of_entity hE).2, hdescribes.references]
  · intro d hd
    obtain ⟨f, -, hf⟩ := exists_left_of_mem hds d hd
    obtain ⟨t, g, -, rfl⟩ := resolve_eq_ok_iff.1 hf
    rfl

/-! ## §3. Compilations. -/

/-- Compiled entities are named after the fields of their messages. -/
theorem named_of_compile {es : List Entity} (h : compile o s = .ok es) :
    List.Forall₂ (fun m E => E.Named o m) s.selected es := by
  obtain ⟨c, -, hes⟩ := entities_of_compile h
  refine hes.imp fun m E hE => ?_
  obtain ⟨e, he, hE⟩ := hE
  exact Catalog.named_of_entity he hE

/-- Emitted names are the snake-case forms of declared ones. -/
structure Entity.Spelt (E : Entity) : Prop where
  attributes : ∀ a ∈ E.attributes, a.name = snake a.declaredName
  edges : ∀ d ∈ E.edges, d.name = snake d.declaredName

theorem spelt_of_compile {es : List Entity} (h : compile o s = .ok es) {E : Entity}
    (hE : E ∈ es) : E.Spelt := by
  obtain ⟨m, -, hm⟩ := exists_left_of_mem (named_of_compile h) E hE
  exact ⟨hm.attributes.emitted_eq, hm.edges.emitted_eq⟩

/-- **WHEN MEMBERS SHARE A NAME**: the members of a compiled entity have the
snake-case names of the fields that are kept.  They are distinct iff those
fields are apart, and every attribute, or every edge, is found by its own
name iff the fields behind them are. -/
theorem member_names_distinct_iff {es : List Entity} (h : compile o s = .ok es) :
    List.Forall₂ (fun m E =>
        E.memberNames.Perm (m.keptFields.map fun f => snake f.name)
        ∧ (E.memberNames.Nodup ↔ SnakeApart m.keptFields)
        ∧ ((∀ a ∈ E.attributes, E.attribute? a.name = some a) ↔ SnakeApart (m.storedFields o))
        ∧ ((∀ d ∈ E.edges, E.edge? d.name = some d) ↔ SnakeApart (m.openReferences o)))
      s.selected es := by
  refine (named_of_compile h).imp fun m E hE => ?_
  refine ⟨hE.memberNames_perm, ?_, hE.attributes.forall_find?_iff, hE.edges.forall_find?_iff⟩
  rw [hE.memberNames_perm.nodup_iff]
  exact nodup_map_snake_iff (MessageDescriptor.keptFields_distinct hE.distinct)

/-- Posts that count their views under two spellings of one name. -/
def twiceCountedPost : MessageDescriptor where
  name := "Post"
  generate := true
  fields := [{ name := "viewCount", kind := .int32 }, { name := "view_count", kind := .int32 }]

theorem twiceCountedPost_clash :
    ∃ E, compile {} ⟨[twiceCountedPost]⟩ = .ok [E] ∧ ¬ E.memberNames.Nodup
      ∧ ∃ a ∈ E.attributes, E.attribute? a.name ≠ some a := by
  obtain ⟨E, h⟩ : ∃ E, compile {} ⟨[twiceCountedPost]⟩ = .ok [E] := ⟨_, rfl⟩
  obtain ⟨⟨-, hnames, hfound, -⟩, -⟩ := List.forall₂_cons.1 (member_names_distinct_iff h)
  have hkept : ¬ SnakeApart twiceCountedPost.keptFields := by decide +kernel
  have hstored : ¬ SnakeApart (twiceCountedPost.storedFields {}) := by decide +kernel
  refine ⟨E, h, mt hnames.1 hkept, ?_⟩
  simpa only [not_forall, exists_prop] using mt hfound.1 hstored

end EntitySchema
