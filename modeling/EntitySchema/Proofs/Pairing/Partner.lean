/-
  EntitySchema.Proofs.Pairing.Partner
  ────────────────────────────────
  **WHO IS PAIRED WITH WHOM.**

  Pairing said without a search.  Two references of a set face each other
  if each one's type is the owner of the other.  Of the references that
  face it, one is the partner of a reference in four cases:

      itself   it names itself
      named    it names its partner, and that one names nobody
      called   it names nobody, and its partner alone names it
      alone    neither names anybody, and nothing else faces it

  Main result (`pair_eq_ok_iff`): the search through a catalog succeeds
  with a counterpart iff that counterpart is the partner.
-/
import EntitySchema.Pairing
import EntitySchema.Proofs.Catalog.Contents

namespace EntitySchema

/-! ## §1. References of a set. -/

/-- A field of a selected message that waits for a counterpart. -/
structure Reference (o : CompileOptions) (s : DescriptorSet) where
  owner : MessageDescriptor
  field : FieldDescriptor
  owner_mem : owner ∈ s.selected
  field_mem : field ∈ owner.openReferences o

namespace Reference

variable {o : CompileOptions} {s : DescriptorSet}

/-- Each of two references has the owner of the other as its type. -/
def Faces (r q : Reference o s) : Prop :=
  r.field.target? = some q.owner.name ∧ q.field.target? = some r.owner.name

/-- The hint of a reference is the name of another one. -/
def Names (r q : Reference o s) : Prop := r.field.refHint = some q.field.name

/-- A reference has no hint. -/
def Silent (r : Reference o s) : Prop := r.field.refHint = none

theorem Faces.symm {r q : Reference o s} (h : r.Faces q) : q.Faces r := ⟨h.2, h.1⟩

/-- All that a reference faces is owned by its target. -/
theorem Faces.owner_name_eq {r q x : Reference o s} (hq : r.Faces q) (hx : r.Faces x) :
    x.owner.name = q.owner.name :=
  Option.some.inj (hx.1.symm.trans hq.1)

theorem Silent.not_names {r q : Reference o s} (h : r.Silent) : ¬ r.Names q := by
  intro hn
  rw [Names, h] at hn
  cases hn

/-- The partner of a reference among those that face it. -/
inductive Partner : Reference o s → Reference o s → Prop where
  | itself {r} (faces : r.Faces r) (names : r.Names r) : Partner r r
  | named {r q} (faces : r.Faces q) (names : r.Names q) (silent : q.Silent) : Partner r q
  | called {r q} (faces : r.Faces q) (silent : r.Silent) (names : q.Names r)
      (only : ∀ x, r.Faces x → x.Names r → x = q) : Partner r q
  | alone {r q} (faces : r.Faces q) (silent : r.Silent) (silent' : q.Silent)
      (only : ∀ x, r.Faces x → x = q) : Partner r q

theorem Partner.faces {r q : Reference o s} (h : r.Partner q) : r.Faces q := by
  cases h <;> assumption

/-- A reference with a hint names its partner. -/
theorem Partner.names {r q : Reference o s} (h : r.Partner q) (hr : ¬ r.Silent) : r.Names q := by
  cases h with
  | itself _ hnames => exact hnames
  | named _ hnames _ => exact hnames
  | called _ hsilent _ _ => exact absurd hsilent hr
  | alone _ hsilent _ _ => exact absurd hsilent hr

/-- Without a hint on either side, a partner is all that a reference
faces. -/
theorem Partner.only_of_silent {r q : Reference o s} (h : r.Partner q) (hr : r.Silent)
    (hq : q.Silent) : ∀ x, r.Faces x → x = q := by
  cases h with
  | itself _ hnames => exact absurd hnames hr.not_names
  | named _ hnames _ => exact absurd hnames hr.not_names
  | called _ _ hnames _ => exact absurd hnames hq.not_names
  | alone _ _ _ honly => exact honly

end Reference

/-! ## §2. Names identify references. -/

/-- What every set has whose catalog can be built: names that identify, and
references that name a type. -/
structure DescriptorSet.Admissible (o : CompileOptions) (s : DescriptorSet) : Prop where
  distinct : (s.selected.map (·.name)).Nodup
  fields_distinct : ∀ m ∈ s.selected, (m.fields.map (·.name)).Nodup
  typed : ∀ r : Reference o s, r.field.target?.isSome = true

theorem Catalog.Lists.admissible {o : CompileOptions} {s : DescriptorSet} {c : Catalog}
    (h : c.Lists o s) : s.Admissible o where
  distinct := h.distinct
  fields_distinct m hm := by
    obtain ⟨e, -, he⟩ := h.exists_entry hm
    exact he.distinct
  typed r := by
    obtain ⟨e, -, he⟩ := h.exists_entry r.owner_mem
    exact he.typed r.field r.field_mem

namespace DescriptorSet.Admissible

variable {o : CompileOptions} {s : DescriptorSet}

theorem owner_eq (hs : s.Admissible o) {m m' : MessageDescriptor} (hm : m ∈ s.selected)
    (hm' : m' ∈ s.selected) (h : m.name = m'.name) : m = m' :=
  List.inj_on_of_nodup_map hs.distinct hm hm' h

theorem openReferences_distinct (hs : s.Admissible o) {m : MessageDescriptor}
    (hm : m ∈ s.selected) : ((m.openReferences o).map (·.name)).Nodup :=
  (hs.fields_distinct m hm).sublist (List.filter_sublist.map _)

/-- References with the same owner's name and the same name are one. -/
theorem reference_eq (hs : s.Admissible o) {r q : Reference o s}
    (ho : r.owner.name = q.owner.name) (hf : r.field.name = q.field.name) : r = q := by
  obtain ⟨m, f, hm, hfm⟩ := r
  obtain ⟨m', g, hm', hgm⟩ := q
  obtain rfl : m = m' := hs.owner_eq hm hm' ho
  obtain rfl : f = g := List.inj_on_of_nodup_map (hs.openReferences_distinct hm) hfm hgm hf
  rfl

/-- Of the references that face one reference, a name picks at most one. -/
theorem eq_of_names (hs : s.Admissible o) {r q x : Reference o s} (hq : r.Faces q)
    (hx : r.Faces x) (hnq : r.Names q) (hnx : r.Names x) : x = q :=
  hs.reference_eq (hq.owner_name_eq hx) (Option.some.inj (hnx.symm.trans hnq))

end DescriptorSet.Admissible

/-! ## §3. The search for a counterpart. -/

variable {f g x y : FieldDescriptor} {cs : List FieldDescriptor}

/-- A hint picks the candidate of that name. -/
theorem findCounterpart_of_hint {n : String} (hf : f.refHint = some n) :
    findCounterpart f cs = .ok g ↔ cs.find? (·.name = n) = some g := by
  cases cs with
  | nil => simp [findCounterpart]
  | cons x cs =>
      simp only [findCounterpart, hf]
      cases (x :: cs).find? (·.name = n) <;> simp

/-- Without a hint, the only candidate is the counterpart. -/
theorem findCounterpart_singleton (hf : f.refHint = none) : findCounterpart f [x] = .ok x := by
  simp [findCounterpart, hf]

/-- Without a hint, it is the one of several candidates that names the
field. -/
theorem findCounterpart_cons_cons (hf : f.refHint = none) :
    findCounterpart f (x :: y :: cs) = .ok g
      ↔ (x :: y :: cs).filter (·.refHint = some f.name) = [g] := by
  simp only [findCounterpart, hf]
  split
  next h => rw [h]; simp
  next h =>
    constructor
    · intro hg
      cases hg
    · intro hg
      exact absurd hg (h g)

/-- Among candidates with distinct names, the counterpart is the one that
the field names, or else the only one, or else the only one that names the
field. -/
theorem findCounterpart_eq_ok_iff (hd : (cs.map (·.name)).Nodup) :
    findCounterpart f cs = .ok g ↔ g ∈ cs ∧
      (f.refHint = some g.name ∨ f.refHint = none ∧
        ((∀ x ∈ cs, x = g)
          ∨ g.refHint = some f.name ∧ ∀ x ∈ cs, x.refHint = some f.name → x = g)) := by
  cases hf : f.refHint with
  | some n =>
      rw [findCounterpart_of_hint hf, find?_key_eq_some_iff hd]
      simp [eq_comm]
  | none =>
      match cs, hd with
      | [], _ => simp [findCounterpart]
      | [x], _ =>
          constructor
          · intro h
            cases (findCounterpart_singleton hf).symm.trans h
            exact ⟨List.mem_singleton_self _, .inr ⟨rfl, .inl fun z hz => List.mem_singleton.1 hz⟩⟩
          · intro h
            rw [List.mem_singleton.1 h.1]
            exact findCounterpart_singleton hf
      | x :: y :: cs, hd =>
          -- two candidates at least, so none of them is the only one
          have hnot : ¬ ∀ z ∈ x :: y :: cs, z = g := by
            intro h
            obtain rfl := h x (by simp)
            obtain rfl := h y (by simp)
            simp at hd
          rw [findCounterpart_cons_cons hf, filter_eq_singleton_iff (hd.of_map _)]
          simp only [decide_eq_true_eq, hnot, false_or, true_and, reduceCtorEq]

theorem checkPairing_eq_ok_iff {same : Bool} :
    checkPairing same f g = .ok () ↔ same = true ∨ g.refHint = none
      ∨ f.refHint = none ∧ g.refHint = some f.name := by
  unfold checkPairing
  cases same with
  | true => simp
  | false =>
      cases g.refHint with
      | none => simp
      | some r =>
          by_cases hf : f.refHint = none
          · by_cases hr : r = f.name <;> simp [hf, hr]
          · simp [hf, Option.ne_none_iff_isSome.1 hf]

/-- **The choice with its check**: four cases, `same` standing for a field
that is its own counterpart. -/
theorem choice_eq_ok_iff {same : Bool}
    (hd : (cs.map (·.name)).Nodup) (hsame : same = true → f = g) :
    findCounterpart f cs = .ok g ∧ checkPairing same f g = .ok () ↔ g ∈ cs ∧
      (same = true ∧ f.refHint = some g.name
        ∨ f.refHint = some g.name ∧ g.refHint = none
        ∨ f.refHint = none ∧ g.refHint = some f.name
            ∧ (∀ x ∈ cs, x.refHint = some f.name → x = g)
        ∨ f.refHint = none ∧ g.refHint = none ∧ ∀ x ∈ cs, x = g) := by
  rw [findCounterpart_eq_ok_iff hd, checkPairing_eq_ok_iff]
  constructor
  · intro h
    obtain ⟨⟨hg, hfind⟩, hcheck⟩ := h
    -- how the counterpart was found, and then why the check let it pass
    rcases hfind with hnames | ⟨hf, honce⟩
    · rcases hcheck with hs | hgs | ⟨hf, -⟩
      · exact ⟨hg, .inl ⟨hs, hnames⟩⟩
      · exact ⟨hg, .inr (.inl ⟨hnames, hgs⟩)⟩
      · rw [hf] at hnames
        cases hnames
    · rcases honce with honly | ⟨hnames, honly⟩
      · rcases hcheck with hs | hgs | ⟨-, hnames⟩
        · exact ⟨hg, .inr (.inr (.inr ⟨hf, hsame hs ▸ hf, honly⟩))⟩
        · exact ⟨hg, .inr (.inr (.inr ⟨hf, hgs, honly⟩))⟩
        · exact ⟨hg, .inr (.inr (.inl ⟨hf, hnames, fun x hx _ => honly x hx⟩))⟩
      · exact ⟨hg, .inr (.inr (.inl ⟨hf, hnames, honly⟩))⟩
  · intro h
    obtain ⟨hg, h⟩ := h
    rcases h with ⟨hs, hnames⟩ | ⟨hnames, hgs⟩ | ⟨hf, hnames, honly⟩ | ⟨hf, hgs, honly⟩
    · exact ⟨⟨hg, .inl hnames⟩, .inl hs⟩
    · exact ⟨⟨hg, .inl hnames⟩, .inr (.inl hgs)⟩
    · exact ⟨⟨hg, .inr ⟨hf, .inr ⟨hnames, honly⟩⟩⟩, .inr (.inr ⟨hf, hnames⟩)⟩
    · exact ⟨⟨hg, .inr ⟨hf, .inl honly⟩⟩, .inr (.inl hgs)⟩

/-! ## §4. Pairing finds the partner. -/

namespace Catalog

/-- The entry that a field is paired in is the one of its target. -/
theorem get?_of_pair {c : Catalog} {e t : CatalogEntry} {standing : Standing}
    {f g : FieldDescriptor} (h : c.pair e standing f = .ok (t, g)) :
    c.get? (f.target?.getD "") = some t := by
  unfold pair at h
  split at h
  next => cases h
  next t' hget =>
    -- whatever counterpart is found and checked, the entry is handed on as it is
    obtain ⟨g', -, h⟩ := bind_eq_ok_iff.1 h
    obtain ⟨-, -, h⟩ := bind_eq_ok_iff.1 h
    obtain ⟨rfl, -⟩ := Prod.mk.inj (pure_eq_ok_iff.1 h)
    exact hget

theorem pair_eq_ok {c : Catalog} {e t : CatalogEntry} {f g : FieldDescriptor} :
    c.pair e .declared f = .ok (t, g) ↔ c.get? (f.target?.getD "") = some t
      ∧ findCounterpart f (t.referencesTo e.name) = .ok g
      ∧ checkPairing (e.name = t.name && f.name = g.name) f g = .ok () := by
  unfold pair
  cases c.get? (f.target?.getD "") with
  | none => simp
  | some t' =>
      simp only [bind_eq_ok_iff, pure_eq_ok_iff, Option.some.injEq, Prod.mk.injEq,
        decide_true, Bool.true_and]
      constructor
      · intro h
        obtain ⟨g', hg, _, hc, rfl, rfl⟩ := h
        exact ⟨rfl, hg, hc⟩
      · intro h
        obtain ⟨rfl, hg, hc⟩ := h
        exact ⟨g, hg, (), hc, rfl, rfl⟩

variable {o : CompileOptions} {s : DescriptorSet}

theorem referencesTo_distinct (hs : s.Admissible o) {m : MessageDescriptor} (hm : m ∈ s.selected)
    {t : CatalogEntry} (ht : t.Describes o m) (n : String) :
    ((t.referencesTo n).map (·.name)).Nodup := by
  rw [CatalogEntry.referencesTo, ht.references]
  exact (hs.openReferences_distinct hm).sublist (List.filter_sublist.map _)

/-- The candidates on a reference's target are the references that face
it. -/
theorem mem_referencesTo_iff {r q : Reference o s} {e t : CatalogEntry}
    (he : e.Describes o r.owner) (ht : t.Describes o q.owner)
    (hr : r.field.target? = some q.owner.name) :
    q.field ∈ t.referencesTo e.name ↔ r.Faces q := by
  rw [CatalogEntry.referencesTo, ht.references, List.mem_filter, decide_eq_true_eq, he.name_eq]
  constructor
  · intro hq
    exact ⟨hr, hq.2⟩
  · intro hq
    exact ⟨q.field_mem, hq.2⟩

theorem forall_mem_referencesTo_iff (hs : s.Admissible o) {r q : Reference o s}
    {e t : CatalogEntry} (he : e.Describes o r.owner) (ht : t.Describes o q.owner)
    (hr : r.Faces q) {P : FieldDescriptor → Prop} :
    (∀ f ∈ t.referencesTo e.name, P f → f = q.field)
      ↔ ∀ x : Reference o s, r.Faces x → P x.field → x = q := by
  constructor
  · intro h x hx hP
    have ho : x.owner = q.owner :=
      hs.owner_eq x.owner_mem q.owner_mem (hr.owner_name_eq hx)
    have hf : x.field = q.field := h _ ((mem_referencesTo_iff he (ho ▸ ht) hx.1).2 hx) hP
    exact hs.reference_eq (congrArg (·.name) ho) (congrArg (·.name) hf)
  · intro h f hf hP
    have hfm : f ∈ q.owner.openReferences o := by
      rw [← ht.references]
      exact (List.mem_filter.1 hf).1
    let x : Reference o s := ⟨q.owner, f, q.owner_mem, hfm⟩
    have hx : r.Faces x := (mem_referencesTo_iff he (q := x) ht hr.1).1 hf
    exact congrArg (·.field) (h x hx hP)

/-- The reference itself is the candidate of its own name on its own
owner. -/
theorem isItself_iff (hs : s.Admissible o) {r q : Reference o s} {e t : CatalogEntry}
    (he : e.Describes o r.owner) (ht : t.Describes o q.owner) :
    (decide (e.name = t.name) && decide (r.field.name = q.field.name)) = true ↔ r = q := by
  rw [Bool.and_eq_true, decide_eq_true_eq, decide_eq_true_eq, he.name_eq, ht.name_eq]
  constructor
  · intro hrq
    exact hs.reference_eq hrq.1 hrq.2
  · intro hrq
    rw [hrq]
    exact ⟨rfl, rfl⟩

/-- Of the candidates on its target, a reference is given its partner. -/
theorem choice_eq_ok_iff_partner (hs : s.Admissible o) {r q : Reference o s}
    {e t : CatalogEntry} (he : e.Describes o r.owner) (ht : t.Describes o q.owner)
    (hr : r.field.target? = some q.owner.name) :
    findCounterpart r.field (t.referencesTo e.name) = .ok q.field
      ∧ checkPairing (e.name = t.name && r.field.name = q.field.name) r.field q.field = .ok ()
      ↔ r.Partner q := by
  have hsame := isItself_iff hs he ht
  rw [choice_eq_ok_iff (referencesTo_distinct hs q.owner_mem ht e.name)
    fun hb => congrArg (·.field) (hsame.1 hb), mem_referencesTo_iff he ht hr, hsame]
  -- the four ways to be chosen are the four ways to be the partner
  constructor
  · intro hp
    obtain ⟨hf, hp⟩ := hp
    rcases hp with ⟨rfl, hnames⟩ | ⟨hnames, hq⟩ | ⟨hr, hnames, honly⟩ | ⟨hr, hq, honly⟩
    · exact .itself hf hnames
    · exact .named hf hnames hq
    · exact .called hf hr hnames ((forall_mem_referencesTo_iff hs he ht hf).1 honly)
    · refine .alone hf hr hq fun x hx => ?_
      exact (forall_mem_referencesTo_iff hs he ht hf (P := fun _ => True)).1
        (fun f hf _ => honly f hf) x hx trivial
  · intro hp
    refine ⟨hp.faces, ?_⟩
    cases hp with
    | itself _ hnames => exact .inl ⟨rfl, hnames⟩
    | named _ hnames hq => exact .inr (.inl ⟨hnames, hq⟩)
    | called hf hr hnames honly =>
        exact .inr (.inr (.inl ⟨hr, hnames, (forall_mem_referencesTo_iff hs he ht hf).2 honly⟩))
    | alone hf hr hq honly =>
        refine .inr (.inr (.inr ⟨hr, hq, fun f hfc => ?_⟩))
        exact (forall_mem_referencesTo_iff hs he ht hf (P := fun _ => True)).2
          (fun x hx _ => honly x hx) f hfc trivial

/-- **THE SEARCH FINDS EXACTLY THE PARTNER.** -/
theorem pair_eq_ok_iff {c : Catalog} (h : c.Lists o s) {r : Reference o s} {e t : CatalogEntry}
    {g : FieldDescriptor} (he : e.Describes o r.owner) :
    c.pair e .declared r.field = .ok (t, g)
      ↔ t ∈ c.entries ∧ ∃ q, t.Describes o q.owner ∧ q.field = g ∧ r.Partner q := by
  have hs := h.admissible
  obtain ⟨n, hn⟩ := Option.isSome_iff_exists.1 (hs.typed r)
  rw [pair_eq_ok, hn, Option.getD_some, h.get?_eq_some_iff]
  -- on both sides the counterpart is a reference `q` on the entry `t` of the target
  constructor
  · intro hg
    obtain ⟨⟨ht, hname⟩, hfind⟩ := hg
    obtain ⟨m, hm, htm⟩ := h.exists_message ht
    have hg : g ∈ t.references := by
      have hd := referencesTo_distinct hs hm htm e.name
      exact (List.mem_filter.1 ((findCounterpart_eq_ok_iff hd).1 hfind.1).1).1
    let q : Reference o s := ⟨m, g, hm, htm.references ▸ hg⟩
    have hr : r.field.target? = some q.owner.name := by rw [hn, ← hname, htm.name_eq]
    exact ⟨ht, q, htm, rfl, (choice_eq_ok_iff_partner hs he htm hr).1 hfind⟩
  · intro hg
    obtain ⟨ht, q, htq, rfl, hp⟩ := hg
    have hname : t.name = n := by
      rw [htq.name_eq]
      exact Option.some.inj (hp.faces.1.symm.trans hn)
    exact ⟨⟨ht, hname⟩, (choice_eq_ok_iff_partner hs he htq hp.faces.1).2 hp⟩

end Catalog
end EntitySchema
