/-
  EntitySchema.Proofs.Catalog.Offences
  ────────────────────────────────
  **WHAT A CATALOG REJECTS.**

  A selected message offends if an earlier one has its name, or else by one
  of its fields:

      repeated     an earlier field has its name, ignored or not
      untyped      it refers to an entity and names no type
      unstorable   it is to be stored, and nothing stores such values

  Ignored fields and the identity are free of the last two.  The catalog of
  a set cannot be built iff there is an offence, and then the fault is the
  first one in declaration order, whatever else is wrong with the set.

  Main result: `build_eq_error_iff`.
-/
import EntitySchema.Proofs.Catalog.Contents
import EntitySchema.Proofs.FirstFault

namespace EntitySchema

/-! ## §1. Offences. -/

/-- Nothing stores the values of a field: groups, or many points in time,
truth values, literals or byte strings. -/
def FieldDescriptor.Unstorable (o : CompileOptions) (f : FieldDescriptor) : Prop :=
  f.kind = .group ∨ f.repeated = true
    ∧ (f.isTimestamp o = true ∨ f.kind = .bool ∨ f.kind = .enum ∨ f.kind = .bytes)

/-- What a field of an entity does wrong, standing after the fields
`before`. -/
inductive FieldDescriptor.Offends (o : CompileOptions) (entity : String)
    (before : List FieldDescriptor) (f : FieldDescriptor) : CompileFault → Prop where
  | repeated (taken : f.name ∈ before.map (·.name)) :
      f.Offends o entity before (.descriptor (.duplicateField entity f.name))
  | untyped (fresh : f.name ∉ before.map (·.name)) (kept : f.isIgnored = false)
      (other : f.name ≠ identityName) (refers : f.isReference o = true)
      (typeless : f.typeName = none ∨ f.typeName = some "") :
      f.Offends o entity before (.descriptor (.untypedReference entity f.name))
  | unstorable (fresh : f.name ∉ before.map (·.name)) (kept : f.isIgnored = false)
      (other : f.name ≠ identityName) (valued : f.isReference o = false)
      (unstorable : f.Unstorable o) :
      f.Offends o entity before (.classification ⟨entity, f.name, f.kind, f.repeated⟩)

/-- What a message does wrong, standing after the messages `before`. -/
inductive MessageDescriptor.Offends (o : CompileOptions) (before : List MessageDescriptor)
    (m : MessageDescriptor) : CompileFault → Prop where
  | repeated (taken : m.name ∈ before.map (·.name)) :
      m.Offends o before (.descriptor (.duplicateEntity m.name))
  | field {x : CompileFault} (fresh : m.name ∉ before.map (·.name))
      (first : FirstFault (fun before f => f.Offends o m.name before) m.fields x) :
      m.Offends o before x

/-! ## §2. Fields. -/

section Fields

variable {o : CompileOptions} {entity : String}

/-- Of the fields other than references, those without storage. -/
theorem storageKind?_eq_none_iff {f : FieldDescriptor} (h : f.isReference o = false) :
    f.storageKind? o = none ↔ f.Unstorable o := by
  unfold FieldDescriptor.storageKind? FieldDescriptor.Unstorable
  cases ht : f.isTimestamp o with
  | true =>
      -- a point in time is no group
      have hk : f.kind = .message := by
        have hm := (Bool.and_eq_true_iff.1 ht).1
        exact of_decide_eq_true hm
      cases f.repeated <;> simp [hk]
  | false =>
      -- messages are references here
      have hk : f.kind ≠ .message := by
        intro hk
        simp [FieldDescriptor.isReference, FieldDescriptor.isMessage, hk, ht] at h
      cases f.repeated <;> cases hf : f.kind <;>
        simp_all [FieldKind.storageKind?, FieldKind.collectionKind?]

theorem classify_eq_error_iff {f : FieldDescriptor} {e : ClassificationFault} :
    classify o entity f = .error e ↔ f.name ≠ identityName ∧ f.storageKind? o = none
      ∧ e = ⟨entity, f.name, f.kind, f.repeated⟩ := by
  unfold classify
  split
  next hid => simp [hid]
  next hid => cases f.storageKind? o <;> simp [hid, eq_comm]

/-- A field that is rejected does wrong. -/
theorem offends_of_place {before : List FieldDescriptor} {f : FieldDescriptor} {x : CompileFault}
    (h : place o entity (before.map (·.name)) f = .error x) : f.Offends o entity before x := by
  unfold place at h
  split at h
  next hs =>
    cases h
    exact .repeated hs
  next hs =>
    split at h
    next => cases h
    next hi =>
      have hkept : f.isIgnored = false := Bool.eq_false_iff.2 hi
      split at h
      -- a reference is rejected if it has no type
      next hr =>
        rw [Bool.and_eq_true, decide_eq_true_eq] at hr
        split at h
        next ht =>
          cases h
          refine .untyped hs hkept hr.1 hr.2 ?_
          cases htype : f.typeName with
          | none => exact .inl rfl
          | some t =>
              rw [htype] at ht
              exact .inr (congrArg some (String.isEmpty_iff.1 ht))
        next => cases h
      -- anything else if it has no storage
      next hr =>
        obtain ⟨e, he, rfl⟩ := mapError_eq_error_iff.1 (map_eq_error_iff.1 h)
        obtain ⟨hid, hnone, rfl⟩ := classify_eq_error_iff.1 he
        have hvalue : f.isReference o = false := by
          simpa [hid] using hr
        exact .unstorable hs hkept hid hvalue ((storageKind?_eq_none_iff hvalue).1 hnone)

theorem place_of_offends {before : List FieldDescriptor} {f : FieldDescriptor} {x : CompileFault}
    (h : f.Offends o entity before x) : place o entity (before.map (·.name)) f = .error x := by
  cases h with
  | repeated taken => simp [place, taken]
  | untyped fresh kept other refers typeless =>
      have ht : f.typeName.all String.isEmpty = true := by
        rcases typeless with ht | ht <;> simp [ht]
      simp [place, fresh, kept, other, refers, ht]
  | unstorable fresh kept other valued unstorable =>
      have hc : classify o entity f = .error ⟨entity, f.name, f.kind, f.repeated⟩ :=
        classify_eq_error_iff.2 ⟨other, (storageKind?_eq_none_iff valued).2 unstorable, rfl⟩
      simp [place, fresh, kept, valued, hc, Except.mapError, Except.map]

/-- A field is rejected for what it does wrong. -/
theorem place_eq_error_iff {before : List FieldDescriptor} {f : FieldDescriptor}
    {x : CompileFault} :
    place o entity (before.map (·.name)) f = .error x ↔ f.Offends o entity before x :=
  ⟨offends_of_place, place_of_offends⟩

/-- Which names were seen matters, their order does not. -/
theorem place_congr {seen seen' : List String} {f : FieldDescriptor}
    (h : f.name ∈ seen ↔ f.name ∈ seen') : place o entity seen f = place o entity seen' f := by
  simp only [place, h]

theorem placeAll_eq_error_iff {fs : List FieldDescriptor} {seen : List String}
    {x : CompileFault} :
    placeAll o entity seen fs = .error x
      ↔ FirstFault (fun before f x => place o entity (seen ++ before.map (·.name)) f = .error x)
        fs x := by
  induction fs generalizing seen with
  | nil =>
      rw [placeAll]
      exact iff_of_false (by simp) (not_firstFault_nil _ x)
  | cons f fs ih =>
      -- the name of `f` is seen first here, and after `seen` there
      have hseen : ∀ (before : List FieldDescriptor) (g : FieldDescriptor),
          place o entity (f.name :: seen ++ before.map (·.name)) g
            = place o entity (seen ++ (f :: before).map (·.name)) g := by
        intro before g
        refine place_congr ?_
        simp only [List.map_cons, List.mem_append, List.mem_cons]
        tauto
      rw [placeAll, firstFault_cons_iff, List.map_nil, List.append_nil, ← exists_eq_ok_iff]
      simp only [bind_eq_error_iff, pure_ne_error, and_false, exists_false, or_false, ih, hseen,
        exists_and_right]

/-- **A message has no entry iff one of its fields offends.** -/
theorem ofMessage_eq_error_iff {m : MessageDescriptor} {x : CompileFault} :
    CatalogEntry.ofMessage o m = .error x
      ↔ FirstFault (fun before f => f.Offends o m.name before) m.fields x := by
  simp only [CatalogEntry.ofMessage, bind_eq_error_iff, pure_ne_error, and_false, exists_false,
    or_false, placeAll_eq_error_iff, List.nil_append, place_eq_error_iff]

end Fields

/-! ## §3. Messages. -/

namespace Catalog

variable {o : CompileOptions} {s : DescriptorSet}

theorem enter_eq_error_iff {c : Catalog} {m : MessageDescriptor} {x : CompileFault}
    (hc : c.Indexed) :
    enter o c m = .error x
      ↔ m.name ∈ c.entries.map (·.name) ∧ .descriptor (.duplicateEntity m.name) = x
        ∨ m.name ∉ c.entries.map (·.name) ∧ CatalogEntry.ofMessage o m = .error x := by
  unfold enter
  split
  next h => simp [(hc.isSome_lookup m.name).1 h]
  next h =>
    have hm := mt (hc.isSome_lookup m.name).2 h
    rw [map_eq_error_iff]
    simp only [hm, false_and, false_or, not_false_eq_true, true_and]

/-- What keeps a message out of a catalog that has some entries already and
then gets those of the messages `before`. -/
def Refuses (o : CompileOptions) (c : Catalog) (before : List MessageDescriptor)
    (m : MessageDescriptor) (x : CompileFault) : Prop :=
  m.name ∈ c.entries.map (·.name) ++ before.map (·.name)
      ∧ .descriptor (.duplicateEntity m.name) = x
    ∨ m.name ∉ c.entries.map (·.name) ++ before.map (·.name)
      ∧ CatalogEntry.ofMessage o m = .error x

theorem foldlM_enter_eq_error_iff {ms : List MessageDescriptor} {c : Catalog} {x : CompileFault}
    (hc : c.Indexed) :
    ms.foldlM (enter o) c = .error x ↔ FirstFault (c.Refuses o) ms x := by
  induction ms generalizing c with
  | nil =>
      rw [List.foldlM_nil]
      exact iff_of_false pure_ne_error (not_firstFault_nil _ x)
  | cons m ms ih =>
      have hfirst : ∀ x, enter o c m = .error x ↔ c.Refuses o [] m x := by
        intro x
        rw [enter_eq_error_iff hc, Refuses, List.map_nil, List.append_nil]
      -- once `m` is in, its entry stands for it
      have hrest : ∀ c', enter o c m = .ok c' →
          (ms.foldlM (enter o) c' = .error x
            ↔ FirstFault (fun before => c.Refuses o (m :: before)) ms x) := by
        intro c' h
        obtain ⟨hm, e, he, rfl⟩ := (enter_eq_ok_iff hc).1 h
        have hname := (describes_of_ofMessage he).name_eq
        rw [ih (hc.push (hname ▸ hm))]
        have hrefuses : (c.push e).Refuses o = fun before => c.Refuses o (m :: before) := by
          funext before g y
          simp only [Refuses, push, List.map_append, List.map_cons, List.map_nil,
            List.append_assoc, List.cons_append, List.nil_append, hname]
        rw [hrefuses]
      simp only [List.foldlM_cons, bind_eq_error_iff, firstFault_cons_iff, ← hfirst]
      refine or_congr_right ?_
      rw [← exists_eq_ok_iff]
      constructor
      · intro h
        obtain ⟨c', hc', h⟩ := h
        exact ⟨⟨c', hc'⟩, (hrest c' hc').1 h⟩
      · intro h
        obtain ⟨⟨c', hc'⟩, h⟩ := h
        exact ⟨c', hc', (hrest c' hc').2 h⟩

/-- **A CATALOG CANNOT BE BUILT IFF A SELECTED MESSAGE OFFENDS**, and the
fault is the first offence. -/
theorem build_eq_error_iff {x : CompileFault} :
    build o s = .error x
      ↔ FirstFault (fun before m => m.Offends o before) s.selected x := by
  -- an empty catalog refuses a name only for an earlier message
  have hrefuses : (empty : Catalog).Refuses o = fun before m => m.Offends o before := by
    funext before m y
    simp only [Refuses, empty, List.map_nil, List.nil_append, ofMessage_eq_error_iff, eq_iff_iff]
    constructor
    · intro h
      rcases h with ⟨hm, rfl⟩ | ⟨hm, h⟩
      · exact .repeated hm
      · exact .field hm h
    · intro h
      cases h with
      | repeated hm => exact .inl ⟨hm, rfl⟩
      | field hm h => exact .inr ⟨hm, h⟩
  rw [build, foldlM_enter_eq_error_iff indexed_empty, hrefuses]

end Catalog
end EntitySchema
