/-
  EntitySchema.Proofs.Compilation.Verdict
  ────────────────────────────────
  **THE VERDICT ON A REFERENCE.**

  What becomes of a reference, said on the declared messages alone.  Its
  candidates are the fields of its target that lead back to its owner.

      no target           unknown target
      no candidate        no counterpart
      a hint              the candidate of that name, unless that is another
                          field with a hint of its own
      one candidate       that one, unless it is another field whose hint
                          leads elsewhere
      several             the only one whose hint names the reference

  The cases exclude each other and leave nothing out, so the verdict is a
  relation with one constructor for each, and resolution answers exactly
  with it.

  Main result: `resolve_iff_verdict`.
-/
import EntitySchema.Proofs.Compilation.Edges

namespace EntitySchema

variable {o : CompileOptions} {s : DescriptorSet}

/-! ## §1. Candidates and verdicts. -/

namespace Reference

/-- Fields of a message that may be the counterpart of a reference: kept
message fields but the identity, no points in time, whose type is the owner
of the reference. -/
def candidates (r : Reference o s) (T : MessageDescriptor) : List FieldDescriptor :=
  T.fields.filter fun g =>
    !g.isIgnored && g.name ≠ identityName && g.kind = .message && !g.isTimestamp o
      && g.target? = some r.owner.name

/-- A field of a message has the entity and the name of a reference. -/
def IsField (r : Reference o s) (T : MessageDescriptor) (G : FieldDescriptor) : Prop :=
  r.owner.name = T.name ∧ r.field.name = G.name

/-- What the choice among the candidates in a message comes to. -/
inductive Chooses (r : Reference o s) (T : MessageDescriptor) :
    Except PairingCause FieldDescriptor → Prop where
  | noCounterpart (empty : r.candidates T = []) : r.Chooses T (.error .noCounterpart)
  | refNotFound {n : String} (nonempty : r.candidates T ≠ []) (hint : r.field.refHint = some n)
      (missing : ∀ G ∈ r.candidates T, G.name ≠ n) : r.Chooses T (.error (.refNotFound n))
  | hintConflicts {G : FieldDescriptor} (mem : G ∈ r.candidates T)
      (hint : r.field.refHint = some G.name) (other : ¬ r.IsField T G)
      (hinted : G.refHint ≠ none) : r.Chooses T (.error (.conflictingRefs G.name))
  | hinted {G : FieldDescriptor} (mem : G ∈ r.candidates T)
      (hint : r.field.refHint = some G.name) (free : r.IsField T G ∨ G.refHint = none) :
      r.Chooses T (.ok G)
  | onlyConflicts {G : FieldDescriptor} {n : String} (silent : r.Silent)
      (only : r.candidates T = [G]) (other : ¬ r.IsField T G) (hint : G.refHint = some n)
      (elsewhere : n ≠ r.field.name) : r.Chooses T (.error (.conflictingRefs G.name))
  | only {G : FieldDescriptor} (silent : r.Silent) (only : r.candidates T = [G])
      (free : r.IsField T G ∨ ∀ n, G.refHint = some n → n = r.field.name) : r.Chooses T (.ok G)
  | called {G : FieldDescriptor} (silent : r.Silent) (several : 1 < (r.candidates T).length)
      (mem : G ∈ r.candidates T) (names : G.refHint = some r.field.name)
      (once : ∀ x ∈ r.candidates T, x.refHint = some r.field.name → x = G) : r.Chooses T (.ok G)
  | ambiguous (silent : r.Silent) (several : 1 < (r.candidates T).length)
      (notOnce : ∀ G ∈ r.candidates T, G.refHint = some r.field.name →
        ∃ x ∈ r.candidates T, x.refHint = some r.field.name ∧ x ≠ G) :
      r.Chooses T (.error (.ambiguous ((r.candidates T).map (·.name))))

/-- What becomes of a reference: a cause, or the reference that is its
counterpart. -/
inductive Verdict (r : Reference o s) : Except PairingCause (Reference o s) → Prop where
  | unknownTarget (unknown : ∀ T ∈ s.selected, r.field.target? ≠ some T.name) :
      r.Verdict (.error .unknownTarget)
  | refused {T : MessageDescriptor} {cause : PairingCause} (mem : T ∈ s.selected)
      (target : r.field.target? = some T.name) (choice : r.Chooses T (.error cause)) :
      r.Verdict (.error cause)
  | paired {q : Reference o s} (target : r.field.target? = some q.owner.name)
      (choice : r.Chooses q.owner (.ok q.field)) : r.Verdict (.ok q)

end Reference

/-! ## §2. When the search fails. -/

theorem findCounterpart_of_missing {f : FieldDescriptor} {cs : List FieldDescriptor} {n : String}
    (hne : cs ≠ []) (hf : f.refHint = some n) (hmissing : ∀ g ∈ cs, g.name ≠ n) :
    findCounterpart f cs = .error (.refNotFound n) := by
  have hfind : cs.find? (·.name = n) = none := by
    rw [List.find?_eq_none]
    intro g hg
    rw [decide_eq_true_eq]
    exact hmissing g hg
  cases cs with
  | nil => exact absurd rfl hne
  | cons g cs => simp only [findCounterpart, hf, hfind]

theorem findCounterpart_of_several {f : FieldDescriptor} {cs : List FieldDescriptor}
    (hf : f.refHint = none) (hseveral : 1 < cs.length)
    (hnone : ∀ g, cs.filter (·.refHint = some f.name) ≠ [g]) :
    findCounterpart f cs = .error (.ambiguous (cs.map (·.name))) := by
  match cs, hseveral with
  | x :: y :: cs, _ =>
      simp only [findCounterpart, hf]

theorem checkPairing_of_conflict {f g : FieldDescriptor} {n : String} (hg : g.refHint = some n)
    (h : f.refHint ≠ none ∨ n ≠ f.name) :
    checkPairing false f g = .error (.conflictingRefs g.name) := by
  have hor : (f.refHint.isSome || decide (n ≠ f.name)) = true := by
    rw [Bool.or_eq_true, decide_eq_true_eq, ← Option.ne_none_iff_isSome]
    exact h
  simp only [checkPairing, hg, Bool.false_eq_true, if_false, hor, if_true]

/-! ## §3. The choice is made. -/

namespace Reference

variable {r : Reference o s} {T : MessageDescriptor}

theorem candidates_eq (r : Reference o s) (T : MessageDescriptor) :
    r.candidates T = (T.openReferences o).filter (·.target? = some r.owner.name) := by
  rw [candidates, MessageDescriptor.openReferences, List.filter_filter]
  refine List.filter_congr fun g _ => ?_
  simp only [FieldDescriptor.isOpen, FieldDescriptor.isReference, FieldDescriptor.isMessage]
  ac_rfl

theorem candidates_distinct (hs : s.Admissible o) (hT : T ∈ s.selected) :
    ((r.candidates T).map (·.name)).Nodup :=
  (hs.fields_distinct T hT).sublist (List.filter_sublist.map _)

/-- Search among the candidates in a message, and the check of what is
found. -/
def choose (r : Reference o s) (T : MessageDescriptor) : Except PairingCause FieldDescriptor := do
  let g ← findCounterpart r.field (r.candidates T)
  checkPairing (r.owner.name = T.name && r.field.name = g.name) r.field g
  return g

theorem isField_iff {G : FieldDescriptor} :
    (decide (r.owner.name = T.name) && decide (r.field.name = G.name)) = true ↔ r.IsField T G := by
  rw [Bool.and_eq_true, decide_eq_true_eq, decide_eq_true_eq, IsField]

theorem choose_eq_ok {G : FieldDescriptor}
    (hfind : findCounterpart r.field (r.candidates T) = .ok G)
    (hfree : r.IsField T G ∨ G.refHint = none
      ∨ r.field.refHint = none ∧ G.refHint = some r.field.name) : r.choose T = .ok G := by
  have hcheck := checkPairing_eq_ok_iff.2 (hfree.imp_left isField_iff.2)
  simp only [choose, hfind, bind_eq_ok_iff, Except.ok.injEq, exists_eq_left', pure_eq_ok_iff]
  exact ⟨(), hcheck, trivial⟩

theorem choose_eq_conflict {G : FieldDescriptor} {n : String}
    (hfind : findCounterpart r.field (r.candidates T) = .ok G) (hother : ¬ r.IsField T G)
    (hG : G.refHint = some n) (h : r.field.refHint ≠ none ∨ n ≠ r.field.name) :
    r.choose T = .error (.conflictingRefs G.name) := by
  have hcheck := checkPairing_of_conflict hG h
  rw [← Bool.eq_false_iff.2 (mt isField_iff.1 hother)] at hcheck
  simp only [choose, hfind, bind_eq_error_iff, Except.ok.injEq, exists_eq_left', reduceCtorEq,
    false_or, hcheck, true_or]

theorem choose_eq_error {cause : PairingCause}
    (hfind : findCounterpart r.field (r.candidates T) = .error cause) :
    r.choose T = .error cause := by
  rw [choose, hfind]
  rfl

/-- The choice is what is made. -/
theorem Chooses.choose_eq (hs : s.Admissible o) (hT : T ∈ s.selected)
    {x : Except PairingCause FieldDescriptor} (h : r.Chooses T x) : r.choose T = x := by
  have hd := candidates_distinct (r := r) hs hT
  -- each case is one way through the search and the check behind it
  cases h with
  | noCounterpart hempty => exact choose_eq_error (by rw [hempty]; rfl)
  | refNotFound hne hhint hmissing =>
      exact choose_eq_error (findCounterpart_of_missing hne hhint hmissing)
  | @hintConflicts G hmem hhint hother hhinted =>
      obtain ⟨n, hn⟩ := Option.ne_none_iff_exists'.1 hhinted
      refine choose_eq_conflict ?_ hother hn (.inl ?_)
      · exact (findCounterpart_eq_ok_iff hd).2 ⟨hmem, .inl hhint⟩
      · rw [hhint]
        exact Option.some_ne_none G.name
  | hinted hmem hhint hfree =>
      exact choose_eq_ok ((findCounterpart_eq_ok_iff hd).2 ⟨hmem, .inl hhint⟩)
        (hfree.imp_right .inl)
  | onlyConflicts hsilent honly hother hhint helsewhere =>
      refine choose_eq_conflict ?_ hother hhint (.inr helsewhere)
      refine (findCounterpart_eq_ok_iff hd).2 ⟨by simp [honly], .inr ⟨hsilent, .inl ?_⟩⟩
      simp [honly]
  | @only G hsilent honly hfree =>
      refine choose_eq_ok ?_ (hfree.imp_right fun h => ?_)
      · exact (findCounterpart_eq_ok_iff hd).2
          ⟨by simp [honly], .inr ⟨hsilent, .inl (by simp [honly])⟩⟩
      · cases hG : G.refHint with
        | none => exact .inl rfl
        | some n => exact .inr ⟨hsilent, by rw [h n hG]⟩
  | called hsilent _ hmem hnames honce =>
      exact choose_eq_ok
        ((findCounterpart_eq_ok_iff hd).2 ⟨hmem, .inr ⟨hsilent, .inr ⟨hnames, honce⟩⟩⟩)
        (.inr (.inr ⟨hsilent, hnames⟩))
  | ambiguous hsilent hseveral hnotOnce =>
      refine choose_eq_error (findCounterpart_of_several hsilent hseveral fun G hG => ?_)
      obtain ⟨hmem, hnames, honce⟩ := (filter_eq_singleton_iff (hd.of_map _)).1 hG
      obtain ⟨x, hx, hxn, hne⟩ := hnotOnce G hmem (of_decide_eq_true hnames)
      exact hne (honce x hx (decide_eq_true hxn))

/-- No case is left out. -/
theorem exists_chooses (r : Reference o s) (T : MessageDescriptor) : ∃ x, r.Chooses T x := by
  by_cases hempty : r.candidates T = []
  · exact ⟨_, .noCounterpart hempty⟩
  cases hhint : r.field.refHint with
  | some n =>
      by_cases hmissing : ∀ G ∈ r.candidates T, G.name ≠ n
      · exact ⟨_, .refNotFound hempty hhint hmissing⟩
      · push Not at hmissing
        obtain ⟨G, hmem, rfl⟩ := hmissing
        by_cases hfree : r.IsField T G ∨ G.refHint = none
        · exact ⟨_, .hinted hmem hhint hfree⟩
        · rw [not_or] at hfree
          exact ⟨_, .hintConflicts hmem hhint hfree.1 hfree.2⟩
  | none =>
      -- without a hint, one of several candidates has to call the reference
      by_cases hseveral : 1 < (r.candidates T).length
      · by_cases honce : ∃ G ∈ r.candidates T, G.refHint = some r.field.name
            ∧ ∀ x ∈ r.candidates T, x.refHint = some r.field.name → x = G
        · obtain ⟨G, hmem, hnames, honce⟩ := honce
          exact ⟨_, .called hhint hseveral hmem hnames honce⟩
        · push Not at honce
          exact ⟨_, .ambiguous hhint hseveral honce⟩
      · have hlength := List.length_pos_iff.2 hempty
        obtain ⟨G, honly⟩ := List.length_eq_one_iff.1 (by omega : (r.candidates T).length = 1)
        by_cases hfree : r.IsField T G ∨ ∀ n, G.refHint = some n → n = r.field.name
        · exact ⟨_, .only hhint honly hfree⟩
        · push Not at hfree
          obtain ⟨hother, n, hn, helsewhere⟩ := hfree
          exact ⟨_, .onlyConflicts hhint honly hother hn helsewhere⟩

theorem choose_eq_iff (hs : s.Admissible o) (hT : T ∈ s.selected)
    {x : Except PairingCause FieldDescriptor} : r.choose T = x ↔ r.Chooses T x := by
  constructor
  · intro h
    obtain ⟨y, hy⟩ := r.exists_chooses T
    obtain rfl : y = x := (hy.choose_eq hs hT).symm.trans h
    exact hy
  · intro h
    exact h.choose_eq hs hT

end Reference

/-! ## §4. Resolution answers with the verdict. -/

namespace Catalog

variable {c : Catalog} {r : Reference o s} {e t : CatalogEntry} {T : MessageDescriptor}

theorem pair_eq_choose (he : e.Describes o r.owner) (ht : t.Describes o T)
    (hget : c.get? (r.field.target?.getD "") = some t) :
    c.pair e .declared r.field = (r.choose T).map fun G => (t, G) := by
  have hcandidates : t.referencesTo r.owner.name = r.candidates T := by
    rw [CatalogEntry.referencesTo, ht.references, Reference.candidates_eq]
  simp only [pair, hget, he.name_eq, ht.name_eq, hcandidates, decide_true, Bool.true_and,
    Reference.choose]
  cases findCounterpart r.field (r.candidates T) with
  | error cause => rfl
  | ok G =>
      show (checkPairing _ r.field G >>= fun _ => pure (t, G))
        = (checkPairing _ r.field G >>= fun _ => pure G).map fun G => (t, G)
      cases checkPairing _ r.field G <;> rfl

/-- Without a target, a reference is not paired. -/
theorem pair_of_unknown (h : c.Lists o s)
    (hunknown : ∀ T ∈ s.selected, r.field.target? ≠ some T.name) :
    c.pair e .declared r.field = .error .unknownTarget := by
  obtain ⟨n, hn⟩ := Option.isSome_iff_exists.1 (h.admissible.typed r)
  have hget : c.get? n = none := by
    by_contra hfound
    obtain ⟨t, ht⟩ := Option.ne_none_iff_exists'.1 hfound
    obtain ⟨htc, hname⟩ := h.get?_eq_some_iff.1 ht
    obtain ⟨T, hT, hd⟩ := h.exists_message htc
    exact hunknown T hT (by rw [hn, ← hname, hd.name_eq])
  simp only [pair, hn, Option.getD_some, hget]

/-- With a target, pairing comes to what is chosen there. -/
theorem exists_pair_of_target (h : c.Lists o s) (he : e.Describes o r.owner)
    (hT : T ∈ s.selected) (htarget : r.field.target? = some T.name) :
    ∃ t, t.Describes o T
      ∧ c.pair e .declared r.field = (r.choose T).map fun G => (t, G) := by
  obtain ⟨t, htc, ht⟩ := h.exists_entry hT
  refine ⟨t, ht, pair_eq_choose he ht ?_⟩
  rw [htarget, Option.getD_some, h.get?_eq_some_iff]
  exact ⟨htc, ht.name_eq⟩

theorem pair_eq_error_iff_verdict (h : c.Lists o s) (he : e.Describes o r.owner)
    {cause : PairingCause} :
    c.pair e .declared r.field = .error cause ↔ r.Verdict (.error cause) := by
  have hs := h.admissible
  -- an unknown target is refused before there is anything to choose from
  by_cases hknown : ∃ T ∈ s.selected, r.field.target? = some T.name
  · obtain ⟨T, hT, htarget⟩ := hknown
    obtain ⟨t, -, hpair⟩ := exists_pair_of_target h he hT htarget
    rw [hpair, map_eq_error_iff, Reference.choose_eq_iff hs hT]
    constructor
    · exact .refused hT htarget
    · intro hv
      cases hv with
      | unknownTarget hunknown => exact absurd htarget (hunknown T hT)
      | @refused T' _ hT' htarget' hchoice =>
          obtain rfl : T' = T :=
            hs.owner_eq hT' hT (Option.some.inj (htarget'.symm.trans htarget))
          exact hchoice
  · have hunknown : ∀ T ∈ s.selected, r.field.target? ≠ some T.name :=
      fun T hT htarget => hknown ⟨T, hT, htarget⟩
    rw [pair_of_unknown h hunknown, Except.error.injEq]
    constructor
    · rintro rfl
      exact .unknownTarget hunknown
    · intro hv
      cases hv with
      | unknownTarget _ => rfl
      | refused hT htarget _ => exact absurd htarget (hunknown _ hT)

theorem exists_pair_iff_verdict (h : c.Lists o s) (he : e.Describes o r.owner)
    {q : Reference o s} :
    (∃ t, t.Describes o q.owner ∧ c.pair e .declared r.field = .ok (t, q.field))
      ↔ r.Verdict (.ok q) := by
  have hs := h.admissible
  constructor
  · intro hp
    obtain ⟨t, ht, hp⟩ := hp
    by_cases hknown : ∃ T ∈ s.selected, r.field.target? = some T.name
    · obtain ⟨T, hT, htarget⟩ := hknown
      obtain ⟨t', ht', hpair⟩ := exists_pair_of_target h he hT htarget
      rw [hpair, map_eq_ok_iff] at hp
      obtain ⟨G, hG, hp⟩ := hp
      cases hp
      -- an entry describes one message
      obtain rfl : T = q.owner := ht'.message.symm.trans ht.message
      exact .paired htarget ((Reference.choose_eq_iff hs hT).1 hG)
    · rw [pair_of_unknown h fun T hT htarget => hknown ⟨T, hT, htarget⟩] at hp
      cases hp
  · intro hv
    cases hv with
    | paired htarget hchoice =>
        obtain ⟨t, ht, hpair⟩ := exists_pair_of_target h he q.owner_mem htarget
        refine ⟨t, ht, ?_⟩
        rw [hpair, hchoice.choose_eq hs q.owner_mem]
        rfl

/-- **THERE IS ONE VERDICT** on every reference: the cases exclude each other
and leave nothing out. -/
theorem existsUnique_verdict (h : c.Lists o s) (he : e.Describes o r.owner) :
    ∃! x, r.Verdict x := by
  have hcause : ∀ cause, c.pair e .declared r.field = .error cause ↔ r.Verdict (.error cause) :=
    fun _ => pair_eq_error_iff_verdict h he
  have hmate := fun q => exists_pair_iff_verdict h he (q := q)
  -- pairing has one outcome, and every verdict is that
  cases hp : c.pair e .declared r.field with
  | error cause =>
      refine ⟨.error cause, (hcause cause).1 hp, fun y hy => ?_⟩
      cases y with
      | error cause' =>
          have heq := hp.symm.trans ((hcause cause').2 hy)
          exact congrArg _ (Except.error.inj heq).symm
      | ok q =>
          obtain ⟨t, -, hq⟩ := (hmate q).2 hy
          rw [hp] at hq
          cases hq
  | ok p =>
      obtain ⟨t, g⟩ := p
      obtain ⟨-, q, ht, rfl, -⟩ := (pair_eq_ok_iff h he).1 hp
      refine ⟨.ok q, (hmate q).1 ⟨t, ht, hp⟩, fun y hy => ?_⟩
      cases y with
      | error cause =>
          rw [(hcause cause).2 hy] at hp
          cases hp
      | ok q' =>
          obtain ⟨t', ht', hq'⟩ := (hmate q').2 hy
          rw [hp, Except.ok.injEq, Prod.mk.injEq] at hq'
          obtain ⟨rfl, hfield⟩ := hq'
          refine congrArg _ (h.admissible.reference_eq ?_ (congrArg _ hfield).symm)
          rw [← ht'.name_eq, ht.name_eq]

theorem resolve_eq_error_iff {f : FieldDescriptor} {p : PairingFault} :
    c.resolve e .declared f = .error p
      ↔ ∃ cause, c.pair e .declared f = .error cause
        ∧ p = ⟨e.name, f.name, f.target?.getD "", cause⟩ := by
  unfold resolve
  cases c.pair e .declared f with
  | error cause => simp [eq_comm]
  | ok _ => simp

end Catalog

/-! ## §5. Edges of the verdict. -/

/-- The edge of a reference and its counterpart, which points back iff the
reference has a hint and is not tied to itself by it. -/
structure Edge.Answers (d : Edge) (r q : Reference o s) : Prop extends d.Joins r q where
  referencing : ∀ n, d.direction = .referencing n
    ↔ r.field.refHint = some n ∧ ¬ (r.owner.name = q.owner.name ∧ n = r.field.name)

theorem Edge.Joins.answers {d : Edge} {r q : Reference o s} (h : d.Joins r q) : d.Answers r q where
  toJoins := h
  referencing n := by
    rw [h.direction, edgeDirection]
    -- without a hint the edge owns; with one it refers back, unless the name comes back as well
    cases hhint : r.field.refHint with
    | none => simp
    | some k =>
        have hb := h.bidirectional
        rw [Reference.Names, hhint, Option.some.injEq] at hb
        dsimp only
        by_cases hself : d.bidirectional = true
        · rw [if_pos hself, Option.some.injEq]
          refine iff_of_false (by simp) ?_
          rintro ⟨rfl, hother⟩
          exact hother (hb.1 hself)
        · rw [if_neg hself, Direction.referencing.injEq, Option.some.injEq]
          refine ⟨fun hn => ⟨hn, ?_⟩, And.left⟩
          subst hn
          exact mt hb.2 hself

/-- **THE VERDICT ON A REFERENCE**: if the catalog can be built, there is one
verdict on each reference.  The reference is refused with a cause iff that is
the verdict, and resolved with a counterpart iff the verdict is that one. -/
theorem resolve_iff_verdict {c : Catalog} (hb : Catalog.build o s = .ok c) (r : Reference o s) :
    (∃! x, r.Verdict x)
      ∧ ∃ e t, c.get? r.owner.name = some e ∧ r.field.target? = some t
        ∧ (∀ p, c.resolve e .declared r.field = .error p
          ↔ ∃ cause, r.Verdict (.error cause) ∧ p = ⟨r.owner.name, r.field.name, t, cause⟩)
        ∧ ∀ q, (∃ d, c.resolve e .declared r.field = .ok d ∧ d.Answers r q)
          ↔ r.Verdict (.ok q) := by
  have h := Catalog.lists_of_build hb
  obtain ⟨e, hec, he⟩ := h.exists_entry r.owner_mem
  obtain ⟨t, ht⟩ := Option.isSome_iff_exists.1 (h.admissible.typed r)
  refine ⟨Catalog.existsUnique_verdict h he, e, t, h.get?_eq_some_iff.2 ⟨hec, he.name_eq⟩, ht,
    fun p => ?_, fun q => ?_⟩
  · simp only [Catalog.resolve_eq_error_iff, Catalog.pair_eq_error_iff_verdict h he, he.name_eq, ht,
      Option.getD_some]
  · rw [← Catalog.exists_pair_iff_verdict h he]
    constructor
    · intro hd
      obtain ⟨d, hd, ha⟩ := hd
      obtain ⟨t', G, hpair, rfl⟩ := Catalog.resolve_eq_ok_iff.1 hd
      obtain ⟨-, q', ht', rfl, -⟩ := (Catalog.pair_eq_ok_iff h he).1 hpair
      -- target and counterpart of the edge name one reference
      obtain rfl : q' = q :=
        h.admissible.reference_eq (ht'.name_eq.symm.trans ha.target) ha.counterpart
      exact ⟨t', ht', hpair⟩
    · intro hp
      obtain ⟨t', ht', hpair⟩ := hp
      have hok := Catalog.resolve_eq_ok_iff.2 ⟨t', q.field, hpair, rfl⟩
      exact ⟨_, hok, (joins_ofPair he ht').answers⟩

/-- An author is written down by one list of a user, an editor by none, and
readers are no entities. -/
def disputedPosts : DescriptorSet :=
  ⟨[{ name := "User", generate := true,
      fields := [(FieldDescriptor.ofMessage "written" "Post").asRepeated,
        .ofMessage "owned" "Post"] },
    { name := "Post", generate := true,
      fields := [(FieldDescriptor.ofMessage "author" "blog.User").withRef "written",
        .ofMessage "editor" "User", .ofMessage "reader" "Reader"] }]⟩

namespace DisputedPosts

/-- The owned post of a user. -/
def owned : Reference {} disputedPosts :=
  ⟨disputedPosts.entities[0], disputedPosts.entities[0].fields[1], by decide, by decide⟩

/-- The reader of a post. -/
def reader : Reference {} disputedPosts :=
  ⟨disputedPosts.entities[1], disputedPosts.entities[1].fields[2], by decide, by decide⟩

/-- The author of a post. -/
def author : Reference {} disputedPosts :=
  ⟨disputedPosts.entities[1], disputedPosts.entities[1].fields[0], by decide, by decide⟩

/-- The written posts of a user. -/
def written : Reference {} disputedPosts :=
  ⟨disputedPosts.entities[0], disputedPosts.entities[0].fields[0], by decide, by decide⟩

theorem resolutions :
    ∃ c, Catalog.build {} disputedPosts = .ok c
      ∧ (∃ e, c.get? "User" = some e
        ∧ c.resolve e .declared owned.field
          = .error ⟨"User", "owned", "Post", .ambiguous ["author", "editor"]⟩)
      ∧ (∃ e, c.get? "Post" = some e
        ∧ c.resolve e .declared reader.field = .error ⟨"Post", "reader", "Reader", .unknownTarget⟩)
      ∧ ∃ e d, c.get? "User" = some e ∧ c.resolve e .declared written.field = .ok d
        ∧ d.Answers written author := by
  obtain ⟨c, hb⟩ : ∃ c, Catalog.build {} disputedPosts = .ok c := ⟨_, rfl⟩
  refine ⟨c, hb, ?_, ?_, ?_⟩
  · obtain ⟨-, e, t, he, ht, herror, -⟩ := resolve_iff_verdict hb owned
    cases Option.some.inj ht
    refine ⟨e, he, (herror _).2 ⟨_, .refused (T := author.owner) author.owner_mem rfl ?_, rfl⟩⟩
    exact .ambiguous rfl (by decide) (by decide)
  · obtain ⟨-, e, t, he, ht, herror, -⟩ := resolve_iff_verdict hb reader
    cases Option.some.inj ht
    exact ⟨e, he, (herror _).2 ⟨_, .unknownTarget (by decide), rfl⟩⟩
  · obtain ⟨-, e, t, he, -, -, hok⟩ := resolve_iff_verdict hb written
    obtain ⟨d, hd, ha⟩ := (hok author).2
      (.paired rfl (.called rfl (by decide) (by decide) (by decide) (by decide)))
    exact ⟨e, d, he, hd, ha⟩

end DisputedPosts
end EntitySchema
