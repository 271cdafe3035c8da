/-
  EntitySchema.Proofs.Pairing.Hints
  ────────────────────────────────
  **ONE MORE HINT.**

  Two references without hints are each other's partners only if neither
  faces any other one: a couple.  One of them may then name the other, and
  every reference of the set keeps its partner:

      r         q         r alone with q, q alone with r
      r ─hint─▶ q         r names q, q is called by r

  No other reference relied on `r` being without a hint, since no other one
  faces it.  An empty name is no hint, so writing that down changes nothing
  at all.

  Main results: `Couple.partner_hinted`, `withHint_eq_of_empty`.
-/
import EntitySchema.Proofs.Catalog.Likeness
import EntitySchema.Proofs.Pairing.Partner

namespace EntitySchema

variable {o : CompileOptions} {s : DescriptorSet}

/-! ## §1. Sets with one more hint. -/

/-- A hint for a field of an entity. -/
structure Hint where
  entity : String
  field : String
  ref : String
  deriving DecidableEq, Repr

namespace Hint

/-- Whether a field of a message is the one that the hint is for. -/
def isFor (k : Hint) (m : MessageDescriptor) (f : FieldDescriptor) : Bool :=
  m.generate && m.name = k.entity && f.name = k.field

/-- A field of a message, with the hint if that is for it. -/
def onField (k : Hint) (m : MessageDescriptor) (f : FieldDescriptor) : FieldDescriptor :=
  if k.isFor m f then f.withRef k.ref else f

/-- The message with the hint on its field. -/
def onMessage (k : Hint) (m : MessageDescriptor) : MessageDescriptor :=
  { m with fields := m.fields.map (k.onField m) }

end Hint

/-- The set with a hint on a field of a selected message. -/
def DescriptorSet.withHint (s : DescriptorSet) (k : Hint) : DescriptorSet :=
  ⟨s.entities.map k.onMessage⟩

namespace Hint

theorem storedAlike_onField (k : Hint) (m : MessageDescriptor) (f : FieldDescriptor) :
    f.StoredAlike (k.onField m f) := by
  unfold onField
  split <;> rfl

theorem fieldwise_onMessage (k : Hint) (m : MessageDescriptor) :
    m.Fieldwise FieldDescriptor.StoredAlike (k.onMessage m) where
  name := rfl
  generate := rfl
  fields := List.forall₂_map_right_iff.2 (List.forall₂_same.2 fun f _ => k.storedAlike_onField m f)

theorem openReferences_onMessage (o : CompileOptions) (k : Hint) (m : MessageDescriptor) :
    (k.onMessage m).openReferences o = (m.openReferences o).map (k.onField m) := by
  have hopen : (fun f => f.isOpen o) ∘ k.onField m = fun f => f.isOpen o :=
    funext fun f => (k.storedAlike_onField m f).isOpen_eq o
  show (m.fields.map (k.onField m)).filter (fun f => f.isOpen o) = _
  rw [List.filter_map, hopen]
  rfl

theorem selected_withHint (k : Hint) (s : DescriptorSet) :
    (s.withHint k).selected = s.selected.map k.onMessage := by
  show (s.entities.map k.onMessage).filter (fun m => m.generate) = _
  rw [List.filter_map]
  rfl

end Hint

/-! ## §2. References with one more hint. -/

namespace Reference

variable {r q x y : Reference o s}

/-- The reference in the set with the hint. -/
def hinted (k : Hint) (x : Reference o s) : Reference o (s.withHint k) where
  owner := k.onMessage x.owner
  field := k.onField x.owner x.field
  owner_mem := by
    rw [Hint.selected_withHint]
    exact List.mem_map_of_mem x.owner_mem
  field_mem := by
    rw [Hint.openReferences_onMessage]
    exact List.mem_map_of_mem x.field_mem

/-- There are no other references in that set. -/
theorem exists_hinted (k : Hint) (z : Reference o (s.withHint k)) :
    ∃ x : Reference o s, z = x.hinted k := by
  obtain ⟨M, g, hM, hg⟩ := z
  have hM' := hM
  rw [Hint.selected_withHint] at hM'
  obtain ⟨m, hm, rfl⟩ := List.mem_map.1 hM'
  have hg' := hg
  rw [Hint.openReferences_onMessage] at hg'
  obtain ⟨f, hf, rfl⟩ := List.mem_map.1 hg'
  exact ⟨⟨m, f, hm, hf⟩, rfl⟩

theorem hinted_field_name (k : Hint) (x : Reference o s) :
    (x.hinted k).field.name = x.field.name :=
  (k.storedAlike_onField x.owner x.field).name_eq

/-- A hint does not change what faces what. -/
theorem faces_hinted_iff (k : Hint) : (x.hinted k).Faces (y.hinted k) ↔ x.Faces y := by
  have htarget : ∀ z : Reference o s, (z.hinted k).field.target? = z.field.target? :=
    fun z => (k.storedAlike_onField z.owner z.field).target?_eq
  rw [Faces, Faces, htarget, htarget]
  rfl

/-- The hint of one reference at another one. -/
def hintTo (r q : Reference o s) : Hint := ⟨r.owner.name, r.field.name, q.field.name⟩

/-- The hint is for that reference alone. -/
theorem isFor_hintTo_iff (hs : s.Admissible o) :
    (r.hintTo q).isFor x.owner x.field = true ↔ x = r := by
  have hselected : x.owner.generate = true := (List.mem_filter.1 x.owner_mem).2
  rw [Hint.isFor, hselected, Bool.true_and, Bool.and_eq_true, decide_eq_true_eq, decide_eq_true_eq]
  constructor
  · intro h
    exact hs.reference_eq h.1 h.2
  · rintro rfl
    exact ⟨rfl, rfl⟩

theorem hinted_self_field (hs : s.Admissible o) :
    (r.hinted (r.hintTo q)).field = r.field.withRef q.field.name :=
  if_pos ((isFor_hintTo_iff hs).2 rfl)

theorem hinted_other_field (hs : s.Admissible o) (hx : x ≠ r) :
    (x.hinted (r.hintTo q)).field = x.field :=
  if_neg (mt (isFor_hintTo_iff hs).1 hx)

/-- With the hint, the one reference names the other. -/
theorem names_hinted (hs : s.Admissible o) (hname : q.field.name ≠ "") :
    (r.hinted (r.hintTo q)).Names (q.hinted (r.hintTo q)) := by
  have hhint : (r.field.withRef q.field.name).refHint = some q.field.name := by
    show (if q.field.name.isEmpty then none else some q.field.name) = some q.field.name
    rw [if_neg (by simpa using hname)]
  rw [Names, hinted_self_field hs, hhint, hinted_field_name]

theorem silent_hinted_iff (hs : s.Admissible o) (hx : x ≠ r) :
    (x.hinted (r.hintTo q)).Silent ↔ x.Silent := by
  rw [Silent, Silent, hinted_other_field hs hx]

/-- All other references name what they named before. -/
theorem names_hinted_iff (hs : s.Admissible o) (hx : x ≠ r) :
    (x.hinted (r.hintTo q)).Names (y.hinted (r.hintTo q)) ↔ x.Names y := by
  rw [Names, Names, hinted_other_field hs hx, hinted_field_name]

/-! ## §3. Couples. -/

/-- Two different references without hints that face each other and nothing
else. -/
structure Couple (r q : Reference o s) : Prop where
  ne : r ≠ q
  faces : r.Faces q
  silent : r.Silent
  silent' : q.Silent
  only : ∀ x, r.Faces x → x = q
  only' : ∀ x, q.Faces x → x = r

/-- Two silent references that are each other's partners are a couple. -/
theorem Partner.couple (hr : r.Partner q) (hq : q.Partner r) (hne : r ≠ q) (hrs : r.Silent)
    (hqs : q.Silent) : r.Couple q :=
  ⟨hne, hr.faces, hrs, hqs, hr.only_of_silent hrs hqs, hq.only_of_silent hqs hrs⟩

namespace Couple

/-- Of one entity, each would face itself. -/
theorem owner_ne (hc : r.Couple q) : r.owner.name ≠ q.owner.name := by
  intro ho
  have hself : r.field.target? = some r.owner.name := by rw [ho]; exact hc.faces.1
  exact hc.ne (hc.only r ⟨hself, hself⟩)

/-- **NO PARTNER CHANGES**: with the hint, the one of the couple names the
other and is the only one to do so, and nobody else faces either. -/
theorem partner_hinted (hc : r.Couple q) (hs : s.Admissible o) (hname : q.field.name ≠ "")
    (h : x.Partner y) : (x.hinted (r.hintTo q)).Partner (y.hinted (r.hintTo q)) := by
  have hf := (faces_hinted_iff (r.hintTo q)).2 h.faces
  have hqs : (q.hinted (r.hintTo q)).Silent := (silent_hinted_iff hs hc.ne.symm).2 hc.silent'
  by_cases hxr : x = r
  · -- the one with the hint
    subst hxr
    obtain rfl : y = q := hc.only y h.faces
    exact .named hf (names_hinted hs hname) hqs
  by_cases hxq : x = q
  · -- the one that is called
    subst hxq
    obtain rfl : y = r := hc.only' y h.faces
    refine .called hf hqs (names_hinted hs hname) fun z hz _ => ?_
    obtain ⟨w, rfl⟩ := exists_hinted _ z
    rw [hc.only' w ((faces_hinted_iff _).1 hz)]
  -- any other one does not face the one with the hint
  have hapart : ∀ w, x.Faces w → w ≠ r := by
    rintro w hw rfl
    exact hxq (hc.only x hw.symm)
  have hyr : y ≠ r := hapart y h.faces
  cases h with
  | itself _ hnames => exact .itself hf ((names_hinted_iff hs hxr).2 hnames)
  | named _ hnames hsilent =>
      exact .named hf ((names_hinted_iff hs hxr).2 hnames) ((silent_hinted_iff hs hyr).2 hsilent)
  | called _ hsilent hnames honly =>
      refine .called hf ((silent_hinted_iff hs hxr).2 hsilent)
        ((names_hinted_iff hs hyr).2 hnames) fun z hz hzn => ?_
      obtain ⟨w, rfl⟩ := exists_hinted _ z
      have hw := (faces_hinted_iff _).1 hz
      rw [honly w hw ((names_hinted_iff hs (hapart w hw)).1 hzn)]
  | alone _ hsilent hsilent' honly =>
      refine .alone hf ((silent_hinted_iff hs hxr).2 hsilent)
        ((silent_hinted_iff hs hyr).2 hsilent') fun z hz => ?_
      obtain ⟨w, rfl⟩ := exists_hinted _ z
      rw [honly w ((faces_hinted_iff _).1 hz)]

end Couple
end Reference

/-! ## §4. Empty hints. -/

/-- An empty name is no hint. -/
theorem FieldDescriptor.withRef_empty {f : FieldDescriptor} (h : f.refHint = none) :
    f.withRef "" = f := by
  have href : f.options.edge.refName = "" := by simpa [refHint] using h
  rw [withRef, ← href]

theorem withHint_eq_of_empty {r q : Reference o s} (hs : s.Admissible o) (hr : r.Silent)
    (hname : q.field.name = "") : s.withHint (r.hintTo q) = s := by
  have hfield : ∀ m ∈ s.entities, ∀ f ∈ m.fields, (r.hintTo q).onField m f = f := by
    intro m hm f hf
    unfold Hint.onField
    split
    next hfor =>
      -- names lead to the field of the reference, which has no hint
      simp only [Hint.isFor, Bool.and_eq_true, decide_eq_true_eq] at hfor
      obtain ⟨⟨hgenerate, howner⟩, hdeclared⟩ := hfor
      obtain rfl : m = r.owner :=
        hs.owner_eq (List.mem_filter.2 ⟨hm, hgenerate⟩) r.owner_mem howner
      obtain rfl : f = r.field := List.inj_on_of_nodup_map (hs.fields_distinct _ r.owner_mem) hf
        (List.mem_of_mem_filter r.field_mem) hdeclared
      show r.field.withRef q.field.name = r.field
      rw [hname, FieldDescriptor.withRef_empty hr]
    next => rfl
  have hmessage : ∀ m ∈ s.entities, (r.hintTo q).onMessage m = m := by
    intro m hm
    rw [Hint.onMessage, List.map_congr_left (hfield m hm), List.map_id']
  rw [DescriptorSet.withHint, List.map_congr_left hmessage, List.map_id']

end EntitySchema
