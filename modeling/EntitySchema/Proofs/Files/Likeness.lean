/-
  EntitySchema.Proofs.Files.Likeness
  ────────────────────────────────
  **TREES OF ONE SHAPE.**

  No operation but a read looks at what a file holds.  So two systems whose
  files differ in contents alone answer every other request alike, and stay
  of one shape:

      answers       the same              every request but a read
      trees         of one shape          whatever is written
      contents      the same              where the same is written

  Main results: `Alike.read_eq`, `Script.agree_replaceFile`,
  `Script.replaceFile_alike`.
-/
import EntitySchema.Proofs.Files.Rewriting
import EntitySchema.Proofs.SameOutcome

namespace EntitySchema

open EntitySchema.FileTree (Keeps names step)

variable {α β γ δ ε φ : Type} {h h' : Host} {t t' t'' u : FileTree} {p q : Path} {k l m : Location}
  {E E' : Location → Prop}

/-! ## §1. Likeness. -/

namespace FileTree

/-- Trees of one shape, with the same contents but for some locations. -/
structure Alike (E : Location → Prop) (t t' : FileTree) : Prop where
  current : t'.current = t.current
  kind : ∀ l, (t'.get? l).map Host.kindOf = (t.get? l).map Host.kindOf
  same : ∀ l, ¬ E l → t'.get? l = t.get? l

/-- Trees of one shape. -/
abbrev SameShape : FileTree → FileTree → Prop := Alike fun _ => True

namespace Alike

theorem refl (t : FileTree) : Alike E t t := ⟨rfl, fun _ => rfl, fun _ _ => rfl⟩

theorem symm (h : Alike E t t') : Alike E t' t :=
  ⟨h.current.symm, fun l => (h.kind l).symm, fun l hl => (h.same l hl).symm⟩

theorem trans (h : Alike E t t') (h' : Alike E t' t'') : Alike E t t'' :=
  ⟨h'.current.trans h.current, fun l => (h'.kind l).trans (h.kind l),
    fun l hl => (h'.same l hl).trans (h.same l hl)⟩

theorem sameShape (h : Alike E t t') : SameShape t t' :=
  ⟨h.current, h.kind, fun _ hl => absurd trivial hl⟩

theorem none_iff (h : Alike E t t') : t'.get? l = none ↔ t.get? l = none := by
  rw [← Option.map_eq_none_iff (f := Host.kindOf), h.kind, Option.map_eq_none_iff]

theorem map_kindOf_eq_directory_iff {x : Option FileNode} :
    x.map Host.kindOf = some .directory ↔ x = some .directory := by
  rcases x with _ | (_ | c) <;> simp [Host.kindOf]

theorem directory_iff (h : Alike E t t') :
    t'.get? l = some .directory ↔ t.get? l = some .directory := by
  rw [← map_kindOf_eq_directory_iff, h.kind, map_kindOf_eq_directory_iff]

theorem exists_file {c : ByteArray} (h : Alike E t t') (hc : t.get? l = some (.file c)) :
    ∃ c', t'.get? l = some (.file c') := by
  have hkind := h.kind l
  rw [hc] at hkind
  cases hc' : t'.get? l with
  | none =>
      rw [hc'] at hkind
      cases hkind
  | some n =>
      cases n with
      | directory =>
          rw [hc'] at hkind
          cases hkind
      | file c' => exact ⟨c', rfl⟩

/-- At a location both trees have nothing, or both a directory, or both a
file. -/
theorem get?_cases (h : Alike E t t') (l : Location) :
    (t.get? l = none ∧ t'.get? l = none)
      ∨ (t.get? l = some .directory ∧ t'.get? l = some .directory)
      ∨ ∃ c c', t.get? l = some (.file c) ∧ t'.get? l = some (.file c') := by
  cases hl : t.get? l with
  | none => exact .inl ⟨rfl, h.none_iff.2 hl⟩
  | some n =>
      cases n with
      | directory => exact .inr (.inl ⟨rfl, h.directory_iff.2 hl⟩)
      | file c =>
          obtain ⟨c', hc'⟩ := h.exists_file hl
          exact .inr (.inr ⟨c, c', rfl, hc'⟩)

theorem keeps (h : Alike E t t') : Keeps (fun _ => True) t t' :=
  ⟨h.current, fun _ hl => h.directory_iff.2 hl, fun _ _ hl => absurd trivial hl⟩

theorem leads (h : Alike E t t') (hl : t.Leads p l) : t'.Leads p l := hl.keep h.keeps

/-! ## §2. Looking. -/

theorem descend_eq (h : Alike E t t') (l : Location) (ns : List String) :
    t'.descend l ns = t.descend l ns := by
  -- a walk asks of each name whether a directory stands there, and nothing else
  induction ns generalizing l with
  | nil => rfl
  | cons name ns ih =>
      rw [FileTree.descend, FileTree.descend]
      cases step l name with
      | error e => rfl
      | ok next =>
          simp only [bind, Except.bind]
          rcases h.get?_cases next with ⟨hnext, hnext'⟩ | ⟨hnext, hnext'⟩ | ⟨c, c', hnext, hnext'⟩
          · rw [hnext, hnext']
          · rw [hnext, hnext']
            exact ih next
          · rw [hnext, hnext']

theorem origin_eq (h : Alike E t t') (p : Path) : t'.origin p = t.origin p := by
  rw [FileTree.origin, FileTree.origin, h.current]

theorem place_eq (h : Alike E t t') (p : Path) : t'.place p = t.place p := by
  simp only [FileTree.place, h.origin_eq, h.descend_eq]

/-- What is found is of the same kind. -/
theorem find (h : Alike E t t') (p : Path) : SameOutcome
    (fun x y => y.1 = x.1 ∧ t.get? x.1 = some x.2 ∧ t'.get? x.1 = some y.2) (t.find p) (t'.find p) := by
  have hroot : ∀ u : FileTree, u.get? [] = some .directory := fun _ => rfl
  unfold FileTree.find
  refine (SameOutcome.of_eq rfl).bind fun _ _ _ => ?_
  cases (names p).getLast? with
  | none => exact .ok ⟨rfl, hroot t, hroot t'⟩
  | some name =>
      simp only [h.origin_eq, h.descend_eq]
      refine (SameOutcome.of_eq rfl).bind fun d _ hd => hd ▸ ?_
      refine (SameOutcome.of_eq rfl).bind fun l _ hl => hl ▸ ?_
      rcases h.get?_cases l with ⟨hget, hget'⟩ | ⟨hget, hget'⟩ | ⟨c, c', hget, hget'⟩
      · rw [hget, hget']
        exact .error _
      · rw [hget, hget']
        exact .ok ⟨rfl, hget, hget'⟩
      · rw [hget, hget']
        simp only
        split
        · exact .error _
        · exact .ok ⟨rfl, hget, hget'⟩

/-- The same is found unless it is a file at one of the locations where
contents differ. -/
theorem find_eq (h : Alike E t t') (hp : ∀ l c, t.find p = .ok (l, .file c) → ¬ E l) :
    t'.find p = t.find p := by
  have hfound := h.find p
  generalize t'.find p = found' at hfound ⊢
  rcases hfind : t.find p with e | ⟨l, n⟩ <;> rw [hfind] at hfound
  · cases hfound
    rfl
  · obtain _ | @⟨_, ⟨l', n'⟩, rfl, hn, hn'⟩ := hfound
    -- a directory is one in both trees, and a file that is found is none of those that differ
    have hsame : t'.get? l' = t.get? l' := by
      cases n with
      | directory => rw [hn, h.directory_iff.2 hn]
      | file c => exact h.same l' (hp l' c hfind)
    rw [hsame, hn] at hn'
    cases hn'
    rfl

/-- So is a text. -/
theorem read_eq (h : Alike E t t') (hp : ∀ l c, t.find p = .ok (l, .file c) → ¬ E l) :
    t'.read p = t.read p := by
  rw [read, read, contents, contents, h.find_eq hp]

/-! ## §3. Operations. -/

theorem set (h : Alike E t t') (l : Location) {n n' : FileNode}
    (hkind : Host.kindOf n' = Host.kindOf n) (hsame : ¬ E l → n' = n) :
    Alike E (t.set l n) (t'.set l n') where
  current := h.current
  kind m := by
    rw [get?_set, get?_set]
    split
    · rw [Option.map_some, Option.map_some, hkind]
    · exact h.kind m
  same m hm := by
    rw [get?_set, get?_set]
    split
    next heq => rw [hsame (heq.1 ▸ hm)]
    · exact h.same m hm

theorem erase (h : Alike E t t') (l : Location) : Alike E (t.erase l) (t'.erase l) where
  current := h.current
  kind m := by
    rw [get?_erase, get?_erase]
    split
    · rfl
    · exact h.kind m
  same m hm := by
    rw [get?_erase, get?_erase]
    split
    · rfl
    · exact h.same m hm

theorem any_isDirectory_eq (h : Alike E t t') (l : Location) :
    (t'.get? l).any (·.isDirectory) = (t.get? l).any (·.isDirectory) := by
  rw [Bool.eq_iff_iff, any_isDirectory_iff, any_isDirectory_iff, h.directory_iff]

theorem isSome_eq (h : Alike E t t') (l : Location) : (t'.get? l).isSome = (t.get? l).isSome := by
  rw [← Option.isSome_map (f := Host.kindOf), h.kind, Option.isSome_map]

theorem openForWriting_eq (h : Alike E t t') (p : Path) :
    t'.openForWriting p = t.openForWriting p := by
  simp only [openForWriting, h.place_eq, h.any_isDirectory_eq]

theorem makeDirectory (h : Alike E t t') (p : Path) :
    SameOutcome (Alike E) (t.makeDirectory p) (t'.makeDirectory p) := by
  unfold FileTree.makeDirectory
  rw [h.place_eq]
  refine (SameOutcome.of_eq rfl).bind fun x _ hx => hx ▸ ?_
  obtain ⟨d, _ | name⟩ := x
  · exact .error _
  · refine (SameOutcome.of_eq rfl).bind fun l _ hl => hl ▸ ?_
    rw [h.isSome_eq]
    split
    · exact .error _
    · exact .ok (h.set l rfl fun _ => rfl)

theorem create (h : Alike E t t') (p : Path) :
    SameOutcome (Alike E) (t.create p) (t'.create p) := by
  unfold FileTree.create
  rw [h.openForWriting_eq]
  exact (SameOutcome.of_eq rfl).bind fun l _ hl => hl ▸ .ok (h.set l rfl fun _ => rfl)

theorem touch (h : Alike E t t') (p : Path) : SameOutcome (Alike E) (t.touch p) (t'.touch p) := by
  unfold FileTree.touch
  rw [h.openForWriting_eq]
  refine (SameOutcome.of_eq rfl).bind fun l _ hl => hl ▸ ?_
  rw [h.isSome_eq]
  split
  · exact .ok h
  · exact .ok (h.set l rfl fun _ => rfl)

/-- The same is appended, but where contents differ anyway. -/
theorem append {data data' : ByteArray} (h : Alike E t t') (p : Path)
    (hdata : ∀ l, ¬ E l → data' = data) :
    SameOutcome (Alike E) (t.append p data) (t'.append p data') := by
  unfold FileTree.append
  refine (h.find p).bind fun x y hxy => ?_
  obtain ⟨l, n⟩ := x
  obtain ⟨_, n'⟩ := y
  obtain ⟨rfl, hn, hn'⟩ := hxy
  cases n with
  | directory =>
      rw [h.directory_iff.2 hn] at hn'
      cases hn'
      exact .error _
  | file c =>
      obtain ⟨c', hc'⟩ := h.exists_file hn
      rw [hc'] at hn'
      cases hn'
      refine .ok (h.set _ rfl fun hE => ?_)
      have hsame := h.same _ hE
      rw [hc', hn] at hsame
      cases hsame
      rw [hdata _ hE]

/-- **A FILE IS MOVED ALIKE** in trees of one shape. -/
theorem move (h : SameShape t t') (source target : Path) :
    SameOutcome SameShape (t.move source target) (t'.move source target) := by
  unfold FileTree.move
  rw [h.place_eq, h.place_eq]
  refine (SameOutcome.of_eq rfl).bind fun x _ hx => hx ▸ ?_
  refine (SameOutcome.of_eq rfl).bind fun y _ hy => hy ▸ ?_
  obtain ⟨d, _ | name⟩ := x
  · exact .error _
  · obtain ⟨e, _ | other⟩ := y
    · exact .error _
    · refine (SameOutcome.of_eq rfl).bind fun l _ hl => hl ▸ ?_
      rcases h.get?_cases l with ⟨hget, hget'⟩ | ⟨hget, hget'⟩ | ⟨c, c', hget, hget'⟩
      · rw [hget, hget']
        exact .error _
      · rw [hget, hget']
        exact .error _
      · rw [hget, hget']
        refine (SameOutcome.of_eq rfl).bind fun m _ hm => hm ▸ ?_
        rw [h.any_isDirectory_eq]
        split
        · exact .error _
        · split
          · exact .error _
          · exact .ok ((h.erase l).set m rfl fun hE => absurd trivial hE)

end Alike

/-- What is appended changes no shape. -/
theorem sameShape_of_append {data : ByteArray} (h : t.append p data = .ok t') : SameShape t t' := by
  obtain ⟨l, c, hfind, rfl⟩ := append_eq_ok_iff.1 h
  refine ⟨rfl, fun m => ?_, fun m hm => absurd trivial hm⟩
  rw [get?_set]
  split
  next heq =>
    rw [heq.1, file_of_find hfind]
    rfl
  · rfl

/-- Trees with different data at one place are alike but there. -/
theorem alike_refill (hl : t.get? l ≠ some .directory) (hm : t.get? m ≠ some .directory)
    (data data' : ByteArray) : Alike (· = l) (t.refill l m data) (t.refill l m data') where
  current := rfl
  kind k := by
    rw [get?_refill hl hm, get?_refill hl hm]
    split
    · rfl
    · rfl
  same k hk := by rw [get?_refill hl hm, get?_refill hl hm, if_neg hk, if_neg hk]

end FileTree

open FileTree (Alike SameShape)

/-! ## §4. Scripts. -/

namespace Script

/-- Two scripts agree if on systems of one shape they end with related
values, and leave systems of one shape. -/
def Agree (R : α → β → Prop) (s : Script α) (s' : Script β) : Prop :=
  ∀ h h' : Host, SameShape h.files h'.files →
    R (s.run h).1 (s'.run h').1 ∧ SameShape (s.run h).2.files (s'.run h').2.files

/-- Updates that are alike. -/
theorem update_alike (h h' : Host) {x x' : Except FileFault FileTree} (hx : SameOutcome (Alike E) x x')
    (h₀ : Alike E h.files h'.files) : (h.update x).1 = (h'.update x').1
      ∧ Alike E (h.update x).2.files (h'.update x').2.files := by
  cases hx with
  | error e => exact ⟨rfl, h₀⟩
  | ok htree => exact ⟨rfl, htree⟩

namespace Agree

variable {R : α → β → Prop} {Q : γ → δ → Prop} {s : Script α} {s' : Script β}

theorem pure {a : α} {b : β} (hab : R a b) : Agree R (Pure.pure a) (Pure.pure b) :=
  fun _ _ h => ⟨hab, h⟩

theorem mono {R' : α → β → Prop} (hs : Agree R s s') (himp : ∀ a b, R a b → R' a b) :
    Agree R' s s' :=
  fun h h' hshape => (hs h h' hshape).imp_left (himp _ _)

theorem bind {f : α → Script γ} {f' : β → Script δ} (hs : Agree R s s')
    (hf : ∀ a b, R a b → Agree Q (f a) (f' b)) : Agree Q (s >>= f) (s' >>= f') := by
  intro h h' hshape
  obtain ⟨hab, hshape⟩ := hs h h' hshape
  rw [Script.run_bind, Script.run_bind]
  exact hf _ _ hab _ _ hshape

theorem makeDirectory (p : Path) : Agree (· = ·) (Script.makeDirectory p) (Script.makeDirectory p) :=
  fun g g' h => update_alike g g' (h.makeDirectory p) h

theorem create (p : Path) : Agree (· = ·) (Script.create p) (Script.create p) :=
  fun g g' h => update_alike g g' (h.create p) h

theorem touch (p : Path) : Agree (· = ·) (Script.touch p) (Script.touch p) :=
  fun g g' h => update_alike g g' (h.touch p) h

theorem appendBytes (p : Path) (data data' : ByteArray) :
    Agree (· = ·) (Script.appendBytes p data) (Script.appendBytes p data') :=
  fun g g' h => update_alike g g' (h.append p fun _ hE => absurd trivial hE) h

theorem move (source target : Path) :
    Agree (· = ·) (Script.move source target) (Script.move source target) :=
  fun g g' h => update_alike g g' (h.move source target) h

theorem sync (p : Path) : Agree (· = ·) (Script.sync p) (Script.sync p) := fun _ _ h => ⟨rfl, h⟩

theorem now : Agree (fun _ _ => True) Script.now Script.now := fun _ _ h => ⟨trivial, h⟩

theorem find (p : Path) : Agree (· = ·) (Script.find p) (Script.find p) := by
  intro h h' hshape
  refine ⟨?_, hshape⟩
  have hanswer : ∀ g : Host, ((Script.find p).run g).1
      = (g.files.find p).toOption.map fun found => Host.kindOf found.2 := fun _ => rfl
  rw [hanswer, hanswer]
  have hfound := hshape.find p
  generalize h.files.find p = x at hfound ⊢
  generalize h'.files.find p = y at hfound ⊢
  cases hfound with
  | error e => rfl
  | @ok x y hxy =>
      obtain ⟨-, hn, hn'⟩ := hxy
      have hkind := hshape.kind x.1
      rw [hn, hn', Option.map_some, Option.map_some, Option.some.injEq] at hkind
      simp [Except.toOption, hkind]

theorem isDirectory (p : Path) : Agree (· = ·) (Script.isDirectory p) (Script.isDirectory p) :=
  (find p).bind fun _ _ hfound => hfound ▸ .pure rfl

/-! ## §5. Scripts that may fail. -/

theorem run_bind {x : ExceptT ε Script α} {x' : ExceptT ε Script β} {f : α → ExceptT ε Script γ}
    {f' : β → ExceptT ε Script δ} (hx : Agree (SameOutcome R) x.run x'.run)
    (hf : ∀ a b, R a b → Agree (SameOutcome Q) (f a).run (f' b).run) :
    Agree (SameOutcome Q) (x >>= f).run (x' >>= f').run := by
  rw [ExceptT.run_bind, ExceptT.run_bind]
  refine hx.bind fun result result' hresult => ?_
  cases hresult with
  | error e => exact .pure (.error e)
  | ok hab => exact hf _ _ hab

theorem orFail {s s' : Script (Except ε α)} (hs : Agree (· = ·) s s') (cause : ε → φ) :
    Agree (SameOutcome (· = ·)) (s.orFail cause).run (s'.orFail cause).run :=
  hs.bind fun _ _ hab => hab ▸ .pure (.of_eq rfl)

theorem lift (hs : Agree R s s') :
    Agree (SameOutcome R) (liftM s : ExceptT ε Script α).run (liftM s' : ExceptT ε Script β).run :=
  hs.bind fun _ _ hab => .pure (.ok hab)

end Agree

theorem agree_ensureDirectories (ps : List Path) :
    Agree (· = ·) (ensureDirectories ps) (ensureDirectories ps) := by
  have hthere : ∀ (p : Path) (e : FileFault),
      Agree (· = ·) (isDirectory p >>= fun there => if there then pure (.ok ()) else pure (.error e))
        (isDirectory p >>= fun there =>
          if there then pure (.ok ()) else (pure (.error e) : Script (Except FileFault Unit))) := by
    intro p e
    refine (Agree.isDirectory p).bind fun there _ hsame => hsame ▸ ?_
    cases there <;> exact .pure rfl
  -- on the list, innermost directory first: the outer ones are made when one is missing
  induction ps with
  | nil => exact .pure rfl
  | cons p outer ih =>
      rw [ensureDirectories]
      split
      · exact .pure rfl
      · refine (Agree.makeDirectory p).bind fun answer _ hsame => hsame ▸ ?_
        split
        · exact .pure rfl
        · refine ih.bind fun result _ hsame => hsame ▸ ?_
          cases result with
          | error e => exact .pure rfl
          | ok _ =>
              refine (Agree.makeDirectory p).bind fun answer _ hsame => hsame ▸ ?_
              cases answer with
              | ok _ => exact .pure rfl
              | error e => exact hthere p e
        next e _ => exact hthere p e

theorem agree_ensureEnclosing (p : Path) :
    Agree (SameOutcome (· = ·)) (ensureEnclosing p).run (ensureEnclosing p).run := by
  unfold ensureEnclosing
  split
  · exact .pure (.ok rfl)
  · exact (agree_ensureDirectories _).orFail _

/-- **WHETHER A FILE CAN BE REPLACED** does not depend on what it is to hold. -/
theorem agree_replaceFile (p : Path) (text text' : String) :
    Agree (SameOutcome (· = ·)) (replaceFile p text).run (replaceFile p text').run := by
  refine (agree_ensureEnclosing p).run_bind fun _ _ _ => ?_
  unfold putBytes
  split
  · exact .pure (.error _)
  next q _ =>
    refine ((Agree.create q).orFail _).run_bind fun _ _ _ => ?_
    refine ((Agree.appendBytes q text.toUTF8 text'.toUTF8).orFail _).run_bind fun _ _ _ => ?_
    refine ((Agree.sync q).orFail _).run_bind fun _ _ _ => ?_
    refine ((Agree.move q p).orFail _).run_bind fun _ _ _ => ?_
    unfold syncEnclosing
    split
    · exact .pure (.ok rfl)
    next d _ => exact (Agree.sync d).orFail _

/-- **TWO TEXTS PUT TO ONE PLACE** leave systems that are alike but there. -/
theorem replaceFile_alike {h₁ h₂ : Host} {text text' : String} (hp : FileTree.Lasting p)
    (hrun : (replaceFile p text).run.run h = (.ok (), h₁))
    (hrun' : (replaceFile p text').run.run h = (.ok (), h₂)) :
    ∃ l, h₁.files.Leads p l ∧ Alike (· = l) h₁.files h₂.files
      ∧ h₂.clock = h₁.clock ∧ h₂.looks = h₁.looks := by
  obtain ⟨h₀, l, m, hmade, hready, hm, rfl⟩ := replaceFile_eq_ok hp hrun
  obtain ⟨h₀', l', m', hmade', hready', -, rfl⟩ := replaceFile_eq_ok hp hrun'
  cases hmade.symm.trans hmade'
  obtain ⟨rfl, rfl⟩ := hready.eq hready'
  refine ⟨l, ?_, FileTree.alike_refill hready.free hm _ _, rfl, rfl⟩
  exact (FileTree.later_refill hready.free hm hready.endsIn_temporary).leads hready.leads

end Script
end EntitySchema
