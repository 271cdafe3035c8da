/-
  EntitySchema.Proofs.Catalog.Contents
  ────────────────────────────────
  **WHAT A CATALOG HOLDS.**

  A catalog is built iff names are distinct and every field can be placed.
  Then it holds the selected messages in declaration order, each with its
  open references, and finds every one of them by its name:

      build o s = ok c  →  c lists the selected messages of s

  The positions by name are a detail from here on: `Indexed` ties them to
  the entries, every entry that is pushed keeps it, and a lookup is then
  the same as a search through the entries.
-/
import EntitySchema.Catalog
import EntitySchema.Proofs.Sequence

namespace EntitySchema

/-! ## §1. Open references and stored fields. -/

/-- Whether a field waits for a counterpart. -/
def FieldDescriptor.isOpen (o : CompileOptions) (f : FieldDescriptor) : Bool :=
  !f.isIgnored && f.name ≠ identityName && f.isReference o

/-- Fields of a message that wait for a counterpart, in declaration order. -/
def MessageDescriptor.openReferences (o : CompileOptions) (m : MessageDescriptor) :
    List FieldDescriptor :=
  m.fields.filter (·.isOpen o)

/-- Whether a field is stored with its entity: the identity, whatever its
kind, and all that is no reference. -/
def FieldDescriptor.isStored (o : CompileOptions) (f : FieldDescriptor) : Bool :=
  !f.isIgnored && (f.name = identityName || !f.isReference o)

/-- Fields of a message that are stored with it, in declaration order. -/
def MessageDescriptor.storedFields (o : CompileOptions) (m : MessageDescriptor) :
    List FieldDescriptor :=
  m.fields.filter (·.isStored o)

/-- A field that is neither ignored nor stored is open. -/
theorem FieldDescriptor.isOpen_eq (o : CompileOptions) (f : FieldDescriptor) :
    f.isOpen o = (!f.isIgnored && !f.isStored o) := by
  unfold isOpen isStored
  cases f.isIgnored <;> by_cases h : f.name = identityName <;> simp [h]

/-- A field that is neither ignored nor open is stored. -/
theorem FieldDescriptor.isStored_eq (o : CompileOptions) (f : FieldDescriptor) :
    f.isStored o = (!f.isIgnored && !f.isOpen o) := by
  rw [isOpen_eq, isStored]
  cases f.isIgnored <;> simp

/-! ## §2. Placing fields. -/

section Placing

variable {o : CompileOptions} {entity : String} {seen : List String}

/-- A field is placed iff its name is new, and what it becomes does not
depend on the names before it. -/
theorem place_eq_ok_iff {f : FieldDescriptor} {p : Placement} :
    place o entity seen f = .ok p ↔ f.name ∉ seen ∧ place o entity [] f = .ok p := by
  by_cases h : f.name ∈ seen
  · simp [place, h]
  · simp [place, h]

theorem place_seen_cons {f g : FieldDescriptor} {p : Placement} :
    place o entity (g.name :: seen) f = .ok p
      ↔ f.name ≠ g.name ∧ place o entity seen f = .ok p := by
  rw [place_eq_ok_iff, @place_eq_ok_iff o entity seen, List.mem_cons, not_or, and_assoc]

/-- Fields are placed iff their names are distinct and each one is placed
for itself. -/
theorem placeAll_eq_ok_iff :
    ∀ {fs : List FieldDescriptor} {seen : List String} {ps : List Placement},
      placeAll o entity seen fs = .ok ps
        ↔ (fs.map (·.name)).Nodup
          ∧ List.Forall₂ (fun f p => place o entity seen f = .ok p) fs ps
  | [], seen, ps => by
      rw [placeAll, List.forall₂_nil_left_iff]
      simp [eq_comm]
  | f :: fs, seen, ps => by
      -- the name of `f` joins the names seen, and that only keeps it from the rest
      have hrest : ∀ qs, List.Forall₂ (fun g p => place o entity (f.name :: seen) g = .ok p) fs qs
          ↔ (∀ g ∈ fs, g.name ≠ f.name)
            ∧ List.Forall₂ (fun g p => place o entity seen g = .ok p) fs qs := by
        intro qs
        rw [← List.forall₂_and_left]
        simp only [place_seen_cons]
      have hfresh : (∀ g ∈ fs, g.name ≠ f.name) ↔ f.name ∉ fs.map (·.name) := by
        simp
      rw [placeAll, bind_eq_ok_iff, List.map_cons, List.nodup_cons, List.forall₂_cons_left_iff]
      constructor
      · intro h
        obtain ⟨p, hp, h⟩ := h
        obtain ⟨qs, hqs, h⟩ := bind_eq_ok_iff.1 h
        obtain ⟨hd, hall⟩ := placeAll_eq_ok_iff.1 hqs
        obtain ⟨hne, hall⟩ := (hrest qs).1 hall
        exact ⟨⟨hfresh.1 hne, hd⟩, p, qs, hp, hall, (pure_eq_ok_iff.1 h).symm⟩
      · intro h
        obtain ⟨⟨hne, hd⟩, p, qs, hp, hall, rfl⟩ := h
        refine ⟨p, hp, bind_eq_ok_iff.2 ⟨qs, placeAll_eq_ok_iff.2 ⟨hd, ?_⟩, rfl⟩⟩
        exact (hrest qs).2 ⟨hfresh.2 hne, hall⟩

/-- What can become of a field: it is left out, it waits, or it is stored as
an attribute. -/
theorem place_cases {f : FieldDescriptor} {p : Placement} (h : place o entity seen f = .ok p) :
    f.isIgnored = true ∧ p = .ignored
      ∨ f.isOpen o = true ∧ p = .reference f
      ∨ f.isStored o = true ∧ ∃ a, classify o entity f = .ok a ∧ p = .attribute a := by
  unfold place at h
  split at h
  -- a repeated name has no placement
  · cases h
  split at h
  next hi =>
    cases h
    exact .inl ⟨hi, rfl⟩
  next hi =>
    split at h
    -- a reference, which has to name its type
    next hr =>
      split at h
      · cases h
      · cases h
        rw [Bool.and_eq_true] at hr
        exact .inr (.inl ⟨by simp [FieldDescriptor.isOpen, hi, hr.1, hr.2], rfl⟩)
    -- anything else is an attribute, if it can be classified
    next hr =>
      obtain ⟨a, ha, rfl⟩ := map_eq_ok_iff.1 h
      have hstored : f.isStored o = true := by
        rw [Bool.and_eq_true, not_and_or, decide_eq_true_eq, not_not, Bool.not_eq_true] at hr
        rcases hr with hr | hr <;> simp [FieldDescriptor.isStored, hi, hr]
      exact .inr (.inr ⟨hstored, a, mapError_eq_ok_iff.1 ha, rfl⟩)

/-- A field becomes a reference iff it is open. -/
theorem reference?_of_place {f : FieldDescriptor} {p : Placement}
    (h : place o entity seen f = .ok p) :
    p.reference? = if f.isOpen o then some f else none := by
  rcases place_cases h with ⟨hi, rfl⟩ | ⟨hopen, rfl⟩ | ⟨hstored, a, -, rfl⟩
  · simp [Placement.reference?, FieldDescriptor.isOpen, hi]
  · simp [Placement.reference?, hopen]
  · simp [Placement.reference?, FieldDescriptor.isOpen_eq, hstored]

/-- A field becomes its attribute iff it is stored. -/
theorem attribute?_of_place {f : FieldDescriptor} {p : Placement}
    (h : place o entity seen f = .ok p) :
    f.isStored o = true ∧ (∃ a, classify o entity f = .ok a ∧ p.attribute? = some a)
      ∨ f.isStored o = false ∧ p.attribute? = none := by
  rcases place_cases h with ⟨hi, rfl⟩ | ⟨hopen, rfl⟩ | ⟨hstored, a, ha, rfl⟩
  · exact .inr ⟨by simp [FieldDescriptor.isStored, hi], rfl⟩
  · rw [FieldDescriptor.isOpen_eq, Bool.and_eq_true, Bool.not_eq_true', Bool.not_eq_true'] at hopen
    exact .inr ⟨hopen.2, rfl⟩
  · exact .inl ⟨hstored, a, ha, rfl⟩

/-- An open field that is placed names its type. -/
theorem typeName_of_place {f : FieldDescriptor} {p : Placement}
    (h : place o entity seen f = .ok p) (hf : f.isOpen o = true) :
    ∃ t, f.typeName = some t ∧ t ≠ "" := by
  simp only [FieldDescriptor.isOpen, Bool.and_eq_true, Bool.not_eq_true'] at hf
  obtain ⟨⟨hi, hn⟩, hr⟩ := hf
  have hs := (place_eq_ok_iff.1 h).1
  cases ht : f.typeName with
  | none => simp [place, hs, hi, hr, ht, decide_eq_true_iff.1 hn] at h
  | some t =>
      refine ⟨t, rfl, ?_⟩
      rintro rfl
      simp [place, hs, hi, hr, ht, decide_eq_true_iff.1 hn] at h

theorem declaredName_of_classify {f : FieldDescriptor} {a : Attribute}
    (h : classify o entity f = .ok a) : a.declaredName = f.name := by
  unfold classify at h
  split at h
  next hid =>
    cases h
    exact hid.symm
  next hid =>
    split at h
    · cases h
      rfl
    · cases h

/-- Attributes are declared by the fields they are made from. -/
theorem map_declaredName_of_classify {fs : List FieldDescriptor} {as : List Attribute}
    (h : List.Forall₂ (fun f a => classify o entity f = .ok a) fs as) :
    as.map (·.declaredName) = fs.map (·.name) :=
  (map_eq_map_of_forall₂ h fun _ _ ha => (declaredName_of_classify ha).symm).symm

end Placing

/-! ## §3. Entries. -/

/-- What an entry says about a message. -/
structure CatalogEntry.Describes (o : CompileOptions) (m : MessageDescriptor)
    (e : CatalogEntry) : Prop where
  message : e.message = m
  references : e.references = m.openReferences o
  distinct : (m.fields.map (·.name)).Nodup
  typed : ∀ f ∈ m.openReferences o, f.target?.isSome = true

theorem CatalogEntry.Describes.name_eq {o : CompileOptions} {m : MessageDescriptor}
    {e : CatalogEntry} (h : e.Describes o m) : e.name = m.name :=
  congrArg (·.name) h.message

theorem filterMap_reference? {o : CompileOptions} {entity : String} {seen : List String}
    {fs : List FieldDescriptor} {ps : List Placement}
    (h : List.Forall₂ (fun f p => place o entity seen f = .ok p) fs ps) :
    ps.filterMap (·.reference?) = fs.filter (·.isOpen o) := by
  induction h with
  | nil => rfl
  | @cons f p fs ps hp _ ih =>
      rw [List.filterMap_cons, List.filter_cons, reference?_of_place hp, ih]
      cases f.isOpen o <;> rfl

theorem filterMap_attribute? {o : CompileOptions} {entity : String} {seen : List String}
    {fs : List FieldDescriptor} {ps : List Placement}
    (h : List.Forall₂ (fun f p => place o entity seen f = .ok p) fs ps) :
    List.Forall₂ (fun f a => classify o entity f = .ok a) (fs.filter (·.isStored o))
      (ps.filterMap (·.attribute?)) := by
  induction h with
  | nil => exact .nil
  | @cons f p fs ps hp _ ih =>
      rw [List.filterMap_cons, List.filter_cons]
      rcases attribute?_of_place hp with ⟨hstored, a, ha, hattribute⟩ | ⟨hstored, hattribute⟩
      · simpa [hstored, hattribute] using ⟨ha, ih⟩
      · simpa [hstored, hattribute] using ih

/-- An open field of a message that has an entry names its type. -/
theorem typeName_of_ofMessage {o : CompileOptions} {m : MessageDescriptor} {e : CatalogEntry}
    (h : CatalogEntry.ofMessage o m = .ok e) {f : FieldDescriptor}
    (hf : f ∈ m.openReferences o) : ∃ t, f.typeName = some t ∧ t ≠ "" := by
  obtain ⟨ps, hps, -⟩ := bind_eq_ok_iff.1 h
  obtain ⟨hf, hopen⟩ := List.mem_filter.1 hf
  obtain ⟨p, -, hp⟩ := exists_right_of_mem (placeAll_eq_ok_iff.1 hps).2 f hf
  exact typeName_of_place hp hopen

theorem describes_of_ofMessage {o : CompileOptions} {m : MessageDescriptor} {e : CatalogEntry}
    (h : CatalogEntry.ofMessage o m = .ok e) : e.Describes o m := by
  have htyped : ∀ f ∈ m.openReferences o, f.target?.isSome = true := by
    intro f hf
    obtain ⟨t, ht, -⟩ := typeName_of_ofMessage h hf
    rw [FieldDescriptor.target?, ht]
    rfl
  obtain ⟨ps, hps, h⟩ := bind_eq_ok_iff.1 h
  obtain ⟨hd, hall⟩ := placeAll_eq_ok_iff.1 hps
  cases pure_eq_ok_iff.1 h
  exact ⟨rfl, filterMap_reference? hall, hd, htyped⟩

/-- The attributes of an entry are those of the stored fields. -/
theorem attributes_of_ofMessage {o : CompileOptions} {m : MessageDescriptor} {e : CatalogEntry}
    (h : CatalogEntry.ofMessage o m = .ok e) :
    List.Forall₂ (fun f a => classify o m.name f = .ok a) (m.storedFields o) e.attributes := by
  obtain ⟨ps, hps, h⟩ := bind_eq_ok_iff.1 h
  cases pure_eq_ok_iff.1 h
  exact filterMap_attribute? (placeAll_eq_ok_iff.1 hps).2

/-! ## §4. Positions. -/

namespace Catalog

/-- The position of a name is the place of its entry. -/
def Indexed (c : Catalog) : Prop :=
  ∀ n, c.positions.lookup n = c.entries.findIdx? (·.name = n)

theorem indexed_empty : empty.Indexed := fun _ => rfl

/-- **A lookup is a search through the entries.** -/
theorem Indexed.get?_eq {c : Catalog} (hc : c.Indexed) (n : String) :
    c.get? n = c.entries.find? (·.name = n) := by
  rw [get?, hc n, List.find?_eq_bind_findIdx?_getElem?]

theorem Indexed.isSome_lookup {c : Catalog} (hc : c.Indexed) (n : String) :
    (c.positions.lookup n).isSome = true ↔ n ∈ c.entries.map (·.name) := by
  rw [hc n, List.findIdx?_isSome, List.any_eq_true]
  simp [eq_comm]

/-- Pushing an entry of a new name keeps the positions right. -/
theorem Indexed.push {c : Catalog} (hc : c.Indexed) {e : CatalogEntry}
    (he : e.name ∉ c.entries.map (·.name)) : (c.push e).Indexed := by
  intro n
  show ((e.name, c.size) :: c.positions).lookup n
    = (c.entries ++ [e]).findIdx? (·.name = n)
  rw [List.lookup_cons, List.findIdx?_append]
  by_cases hn : n = e.name
  -- no entry before the last has that name, so its position is the size
  · subst hn
    have hnone : c.entries.findIdx? (·.name = e.name) = none := by
      rw [List.findIdx?_eq_none_iff]
      intro x hx
      have hne : x.name ≠ e.name := fun h => he (h ▸ List.mem_map_of_mem hx)
      simpa using hne
    simp [hnone, size]
  · have hne : (n == e.name) = false := by simpa using hn
    rw [hne, hc n]
    simp [Ne.symm hn]

theorem enter_eq_ok_iff {o : CompileOptions} {c c' : Catalog} {m : MessageDescriptor}
    (hc : c.Indexed) :
    enter o c m = .ok c' ↔ m.name ∉ c.entries.map (·.name)
      ∧ ∃ e, CatalogEntry.ofMessage o m = .ok e ∧ c' = c.push e := by
  unfold enter
  split
  next h => simp [(hc.isSome_lookup m.name).1 h]
  next h =>
    rw [map_eq_ok_iff]
    simp only [eq_comm (a := c'), mt (hc.isSome_lookup m.name).2 h, not_false_eq_true, true_and]

/-! ## §5. Building. -/

/-- The catalog with several more entries. -/
def pushAll (c : Catalog) (es : List CatalogEntry) : Catalog := es.foldl push c

theorem entries_pushAll (c : Catalog) (es : List CatalogEntry) :
    (c.pushAll es).entries = c.entries ++ es := by
  induction es generalizing c with
  | nil => exact (List.append_nil _).symm
  | cons e es ih =>
      show ((c.push e).pushAll es).entries = c.entries ++ e :: es
      rw [ih (c.push e)]
      exact List.append_assoc c.entries [e] es

/-- Messages enter iff their names are new and distinct and each one has an
entry. -/
theorem foldlM_enter_eq_ok_iff {o : CompileOptions} :
    ∀ {ms : List MessageDescriptor} {c c' : Catalog}, c.Indexed →
      (ms.foldlM (enter o) c = .ok c'
        ↔ (∀ m ∈ ms, m.name ∉ c.entries.map (·.name)) ∧ (ms.map (·.name)).Nodup
          ∧ ∃ es, List.Forall₂ (fun m e => CatalogEntry.ofMessage o m = .ok e) ms es
            ∧ c' = c.pushAll es)
  | [], c, c', _ => by
      rw [List.foldlM_nil, pure_eq_ok_iff]
      simp [List.forall₂_nil_left_iff, pushAll, eq_comm]
  | m :: ms, c, c', hc => by
      -- the entry of `m` bears its name, so the names to avoid grow by that one
      have hnames : ∀ {e}, CatalogEntry.ofMessage o m = .ok e → ∀ n : String,
          n ∉ (c.push e).entries.map (·.name) ↔ n ∉ c.entries.map (·.name) ∧ n ≠ m.name := by
        intro e he n
        simp [push, (describes_of_ofMessage he).name_eq]
      rw [List.foldlM_cons, bind_eq_ok_iff]
      constructor
      · intro h
        obtain ⟨c₁, h₁, h⟩ := h
        obtain ⟨hm, e, he, rfl⟩ := (enter_eq_ok_iff hc).1 h₁
        have hc₁ : (c.push e).Indexed := hc.push ((describes_of_ofMessage he).name_eq ▸ hm)
        obtain ⟨hnew, hd, es, hes, rfl⟩ := (foldlM_enter_eq_ok_iff hc₁).1 h
        have hnew' := fun x hx => (hnames he x.name).1 (hnew x hx)
        refine ⟨?_, ?_, e :: es, .cons he hes, rfl⟩
        · exact List.forall_mem_cons.2 ⟨hm, fun x hx => (hnew' x hx).1⟩
        · refine List.nodup_cons.2 ⟨fun hmem => ?_, hd⟩
          obtain ⟨x, hx, hxm⟩ := List.mem_map.1 hmem
          exact (hnew' x hx).2 hxm
      · intro h
        obtain ⟨hnew, hd, es, hes, rfl⟩ := h
        obtain ⟨hm, hnew⟩ := List.forall_mem_cons.1 hnew
        obtain ⟨hmem, hd⟩ := List.nodup_cons.1 hd
        obtain ⟨e, rest, he, hrest, rfl⟩ := List.forall₂_cons_left_iff.1 hes
        have hc₁ : (c.push e).Indexed := hc.push ((describes_of_ofMessage he).name_eq ▸ hm)
        refine ⟨c.push e, (enter_eq_ok_iff hc).2 ⟨hm, e, he, rfl⟩, ?_⟩
        refine (foldlM_enter_eq_ok_iff hc₁).2 ⟨fun x hx => ?_, hd, rest, hrest, rfl⟩
        exact (hnames he x.name).2
          ⟨hnew x hx, fun hxm => hmem (List.mem_map.2 ⟨x, hx, hxm⟩)⟩

/-- **A catalog is built iff the selected names are distinct and every
selected message has an entry.** -/
theorem build_eq_ok_iff {o : CompileOptions} {s : DescriptorSet} {c : Catalog} :
    build o s = .ok c ↔ (s.selected.map (·.name)).Nodup
      ∧ ∃ es, List.Forall₂ (fun m e => CatalogEntry.ofMessage o m = .ok e) s.selected es
        ∧ c = empty.pushAll es := by
  rw [build, foldlM_enter_eq_ok_iff indexed_empty]
  simp [empty]

theorem Indexed.foldlM {o : CompileOptions} :
    ∀ {ms : List MessageDescriptor} {c c' : Catalog}, c.Indexed →
      ms.foldlM (enter o) c = .ok c' → c'.Indexed
  | [], c, c', hc, h => by
      cases pure_eq_ok_iff.1 h
      exact hc
  | m :: ms, c, c', hc, h => by
      rw [List.foldlM_cons] at h
      obtain ⟨c₁, h₁, h⟩ := bind_eq_ok_iff.1 h
      obtain ⟨hm, e, he, rfl⟩ := (enter_eq_ok_iff hc).1 h₁
      exact (hc.push ((describes_of_ofMessage he).name_eq ▸ hm)).foldlM h

/-! ## §6. Contents. -/

/-- What a catalog says about a set. -/
structure Lists (o : CompileOptions) (s : DescriptorSet) (c : Catalog) : Prop where
  indexed : c.Indexed
  distinct : (s.selected.map (·.name)).Nodup
  entries : List.Forall₂ (fun m e => e.Describes o m) s.selected c.entries

/-- Each selected message has its own entry, at its place. -/
theorem entries_of_build {o : CompileOptions} {s : DescriptorSet} {c : Catalog}
    (h : build o s = .ok c) :
    List.Forall₂ (fun m e => CatalogEntry.ofMessage o m = .ok e) s.selected c.entries := by
  obtain ⟨-, es, hes, hc⟩ := build_eq_ok_iff.1 h
  rw [hc, entries_pushAll]
  exact hes

/-- An entry of a catalog is that of the message it describes. -/
theorem ofMessage_of_mem {o : CompileOptions} {s : DescriptorSet} {c : Catalog}
    (h : build o s = .ok c) {e : CatalogEntry} (he : e ∈ c.entries) {m : MessageDescriptor}
    (hd : e.Describes o m) : CatalogEntry.ofMessage o m = .ok e := by
  obtain ⟨m', -, he'⟩ := exists_left_of_mem (entries_of_build h) e he
  obtain rfl : m' = m := (describes_of_ofMessage he').message.symm.trans hd.message
  exact he'

/-- The entry of a selected message is in the catalog. -/
theorem mem_entries_of_ofMessage {o : CompileOptions} {s : DescriptorSet} {c : Catalog}
    (h : build o s = .ok c) {m : MessageDescriptor} (hm : m ∈ s.selected) {e : CatalogEntry}
    (he : CatalogEntry.ofMessage o m = .ok e) : e ∈ c.entries := by
  obtain ⟨e', hmem, he'⟩ := exists_right_of_mem (entries_of_build h) m hm
  obtain rfl : e' = e := Except.ok.inj (he'.symm.trans he)
  exact hmem

/-- **A catalog lists the selected messages of its set.** -/
theorem lists_of_build {o : CompileOptions} {s : DescriptorSet} {c : Catalog}
    (h : build o s = .ok c) : c.Lists o s where
  indexed := indexed_empty.foldlM h
  distinct := (build_eq_ok_iff.1 h).1
  entries := (entries_of_build h).imp fun _ _ => describes_of_ofMessage

namespace Lists

variable {o : CompileOptions} {s : DescriptorSet} {c : Catalog}

theorem names_eq (h : c.Lists o s) : c.entries.map (·.name) = s.selected.map (·.name) :=
  (map_eq_map_of_forall₂ h.entries fun _ _ he => he.name_eq.symm).symm

theorem exists_entry (h : c.Lists o s) {m : MessageDescriptor} (hm : m ∈ s.selected) :
    ∃ e ∈ c.entries, e.Describes o m :=
  exists_right_of_mem h.entries m hm

theorem exists_message (h : c.Lists o s) {e : CatalogEntry} (he : e ∈ c.entries) :
    ∃ m ∈ s.selected, e.Describes o m :=
  exists_left_of_mem h.entries e he

/-- A lookup finds the entry of the name. -/
theorem get?_eq_some_iff (h : c.Lists o s) {n : String} {e : CatalogEntry} :
    c.get? n = some e ↔ e ∈ c.entries ∧ e.name = n := by
  rw [h.indexed.get?_eq]
  exact find?_key_eq_some_iff (h.names_eq ▸ h.distinct)

end Lists
end Catalog
end EntitySchema
