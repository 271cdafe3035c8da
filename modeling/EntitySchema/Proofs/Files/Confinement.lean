/-
  EntitySchema.Proofs.Files.Confinement
  ────────────────────────────────
  **A SCRIPT STAYS WITHIN ITS SCOPE.**

  A scope names the files that a script may write and the directories that
  it may make.  What stands anywhere else is the same afterwards:

      file of the scope         whatever was written
      directory of the scope    made, if nothing stood there
      anything else             what stood there before

  And a file stays a file, unless it is a temporary one.

  Main results: `Script.Asks.within`, `Script.asks_replaceFile`.
-/
import EntitySchema.Proofs.Files.Replacement

namespace EntitySchema

open EntitySchema.FileTree (Keeps EndsIn names)
open EntitySchema.Path (Ending)

variable {α β ε φ : Type} {h h' : Host} {t t' t'' : FileTree} {p q : Path} {l : Location}
  {P Q : Request → Prop}

namespace FileTree

/-! ## §1. Later trees. -/

/-- A later tree: directories are there, and so are files, whatever they
hold, but for temporary ones. -/
structure Later (t t' : FileTree) : Prop where
  current : t'.current = t.current
  directory : ∀ l, t.get? l = some .directory → t'.get? l = some .directory
  file : ∀ l c, ¬ EndsIn ".tmp" l → t.get? l = some (.file c) → ∃ c', t'.get? l = some (.file c')

namespace Later

theorem refl (t : FileTree) : Later t t := ⟨rfl, fun _ h => h, fun _ c _ h => ⟨c, h⟩⟩

theorem trans (h : Later t t') (h' : Later t' t'') : Later t t'' where
  current := h'.current.trans h.current
  directory l hl := h'.directory l (h.directory l hl)
  file l c htemporary hc := by
    obtain ⟨c', hc'⟩ := h.file l c htemporary hc
    exact h'.file l c' htemporary hc'

theorem keeps (h : Later t t') : Keeps (fun _ => True) t t' :=
  ⟨h.current, h.directory, fun _ _ hl => absurd trivial hl⟩

theorem of_keeps (h : Keeps (fun _ => False) t t') : Later t t' :=
  ⟨h.current, h.directory, fun l c _ hc => ⟨c, h.file l c not_false hc⟩⟩

/-- A path leads where it led. -/
theorem leads (h : Later t t') (hl : t.Leads p l) : t'.Leads p l := hl.keep h.keeps

/-- A text is read again if the file that it is read from is still there. -/
theorem read {text : String} (h : Later t t') (hfile : ∀ l c, t.find p = .ok (l, .file c) →
      t.get? l = some (.file c) → t'.get? l = some (.file c))
    (hread : t.read p = .ok text) : t'.read p = .ok text := by
  obtain ⟨l, c, hfind, htext⟩ := read_eq_ok_iff.1 hread
  have hc := hfile l c hfind (file_of_find hfind)
  exact read_eq_ok_iff.2 ⟨l, c, h.keeps.find hfind hc fun _ => nofun, htext⟩

end Later

theorem later_set (h : t.get? l ≠ some .directory) (c : ByteArray) : Later t (t.set l (.file c)) where
  current := rfl
  directory := (keeps_set h _).directory
  file m c' _ hm := by
    rcases Decidable.em (m = l) with rfl | hne
    · exact ⟨c, get?_set_self h _⟩
    · exact ⟨c', by rw [get?_set_of_ne hne, hm]⟩

theorem later_erase (h : t.get? l ≠ some .directory) (htemporary : EndsIn ".tmp" l) :
    Later t (t.erase l) where
  current := rfl
  directory := (keeps_erase h).directory
  file m c hm hc := by
    have hne : m ≠ l := by
      rintro rfl
      exact hm htemporary
    exact ⟨c, by rw [get?_erase_of_ne hne, hc]⟩

/-! ## §2. Scopes. -/

/-- Files and directories that a script may touch. -/
structure Scope where
  files : Path → Prop
  directories : Path → Prop

variable {S S' : Scope}

/-- A later tree that differs in the scope alone. -/
structure Within (S : Scope) (t t' : FileTree) : Prop extends Later t t' where
  changed : ∀ l, t'.get? l = t.get? l ∨ (∃ p, S.files p ∧ t'.Leads p l)
    ∨ t.get? l = none ∧ t'.get? l = some .directory ∧ ∃ p, S.directories p ∧ t'.Leads p l

/-- What one change after another makes of a location is a change of the
scope. -/
theorem changed_trans (hlater : Later t' t'')
    (h : t'.get? l = t.get? l ∨ (∃ p, S.files p ∧ t'.Leads p l)
      ∨ t.get? l = none ∧ t'.get? l = some .directory ∧ ∃ p, S.directories p ∧ t'.Leads p l)
    (h' : t''.get? l = t'.get? l ∨ (∃ p, S.files p ∧ t''.Leads p l)
      ∨ t'.get? l = none ∧ t''.get? l = some .directory ∧ ∃ p, S.directories p ∧ t''.Leads p l) :
    t''.get? l = t.get? l ∨ (∃ p, S.files p ∧ t''.Leads p l)
      ∨ t.get? l = none ∧ t''.get? l = some .directory ∧ ∃ p, S.directories p ∧ t''.Leads p l := by
  -- by the later change; if there is none, the earlier one counts
  rcases h' with hsame' | hfile' | ⟨hnone', hmade', hdirectory'⟩
  · rw [hsame']
    rcases h with hsame | ⟨p, hp, hl⟩ | ⟨hnone, hmade, p, hp, hl⟩
    · exact .inl hsame
    · exact .inr (.inl ⟨p, hp, hlater.leads hl⟩)
    · exact .inr (.inr ⟨hnone, hmade, p, hp, hlater.leads hl⟩)
  · exact .inr (.inl hfile')
  · rcases h with hsame | ⟨p, hp, hl⟩ | ⟨-, hmade, -⟩
    · exact .inr (.inr ⟨hsame.symm.trans hnone', hmade', hdirectory'⟩)
    · exact .inr (.inl ⟨p, hp, hlater.leads hl⟩)
    · -- a directory that was made is there, so none is made in its place
      rw [hmade] at hnone'
      cases hnone'

namespace Within

theorem refl (t : FileTree) : Within S t t := ⟨.refl t, fun _ => .inl rfl⟩

theorem trans (h : Within S t t') (h' : Within S t' t'') : Within S t t'' where
  toLater := h.toLater.trans h'.toLater
  changed l := changed_trans h'.toLater (h.changed l) (h'.changed l)

theorem mono (h : Within S t t') (hfiles : ∀ p, S.files p → S'.files p)
    (hdirectories : ∀ p, S.directories p → S'.directories p) : Within S' t t' where
  toLater := h.toLater
  changed l := (h.changed l).imp_right <| Or.imp
    (fun ⟨p, hp, hl⟩ => ⟨p, hfiles p hp, hl⟩)
    (fun ⟨hnone, hmade, p, hp, hl⟩ => ⟨hnone, hmade, p, hdirectories p hp, hl⟩)

/-- A file that no path of the scope leads to is what it was. -/
theorem file_iff (h : Within S t t') (hl : ∀ p, S.files p → ¬ t'.Leads p l) {c : ByteArray} :
    t'.get? l = some (.file c) ↔ t.get? l = some (.file c) := by
  rcases h.changed l with hsame | ⟨p, hp, hleads⟩ | ⟨hnone, hmade, -⟩
  · rw [hsame]
  · exact absurd hleads (hl p hp)
  · simp [hnone, hmade]

end Within

/-! ## §3. Operations. -/

theorem within_makeDirectory (hp : S.directories p) (h : t.makeDirectory p = .ok t') :
    Within S t t' := by
  have hlater : Later t t' := .of_keeps (keeps_of_makeDirectory h)
  obtain ⟨l, hl, hnone, rfl⟩ := makeDirectory_eq_ok_iff.1 h
  refine ⟨hlater, fun m => ?_⟩
  rcases Decidable.em (m = l) with rfl | hne
  · exact .inr (.inr ⟨hnone, get?_set_self (by simp [hnone]) _, p, hp, hlater.leads hl⟩)
  · exact .inl (get?_set_of_ne hne _)

theorem within_set (hp : S.files p) (hl : t.Leads p l) (hfree : t.get? l ≠ some .directory)
    (c : ByteArray) : Within S t (t.set l (.file c)) where
  toLater := later_set hfree c
  changed m := by
    rcases Decidable.em (m = l) with rfl | hne
    · exact .inr (.inl ⟨p, hp, (later_set hfree c).leads hl⟩)
    · exact .inl (get?_set_of_ne hne _)

theorem within_erase (hp : S.files p) (hl : t.Leads p l) (hfree : t.get? l ≠ some .directory)
    (htemporary : EndsIn ".tmp" l) : Within S t (t.erase l) where
  toLater := later_erase hfree htemporary
  changed m := by
    rcases Decidable.em (m = l) with rfl | hne
    · exact .inr (.inl ⟨p, hp, (later_erase hfree htemporary).leads hl⟩)
    · exact .inl (get?_erase_of_ne hne)

theorem within_create (hp : S.files p) (h : t.create p = .ok t') : Within S t t' := by
  obtain ⟨l, hl, -, hfree, rfl⟩ := create_eq_ok_iff.1 h
  exact within_set hp hl hfree _

theorem within_touch (hp : S.files p) (h : t.touch p = .ok t') : Within S t t' := by
  obtain ⟨l, hl, -, hfree, rfl⟩ := touch_eq_ok_iff.1 h
  split
  · exact .refl t
  · exact within_set hp hl hfree _

/-- A path that ends in a name, not in dots. -/
def EndsInName (p : Path) : Prop := ∃ name, (names p).getLast? = some name ∧ name ≠ "." ∧ name ≠ ".."

theorem endsInName_append {ending : String} (h : Ending ending) (q : Path) :
    EndsInName (q ++ ending) := by
  obtain ⟨last, -, hlast⟩ := exists_names_append h q
  exact ⟨_, hlast, ne_dots_append h _⟩

theorem within_append (hp : S.files p) (hname : EndsInName p) {data : ByteArray}
    (h : t.append p data = .ok t') : Within S t t' := by
  obtain ⟨name, hlast, hdots⟩ := hname
  obtain ⟨l, c, hfind, rfl⟩ := append_eq_ok_iff.1 h
  obtain ⟨hl, hc⟩ := leads_of_find hfind hlast hdots
  exact within_set hp hl (by simp [hc]) _

theorem within_move {source target : Path} (hsource : S.files source) (htarget : S.files target)
    (htemporary : ∃ q, source = q ++ ".tmp") (h : t.move source target = .ok t') :
    Within S t t' := by
  obtain ⟨q, rfl⟩ := htemporary
  obtain ⟨l, m, c, hl, hc, -, hm, -, hfree, rfl⟩ := move_eq_ok_iff.1 h
  have herased : Within S t (t.erase l) :=
    within_erase hsource hl (by simp [hc]) (hl.endsIn {})
  -- the target is as free as it was before the source was taken away
  refine herased.trans (within_set htarget (herased.leads hm) ?_ c)
  rw [get?_erase]
  split
  · exact nofun
  · exact hfree

end FileTree

open FileTree (Within Scope EndsInName endsInName_append)

variable {S : Scope}

/-! ## §4. Scripts. -/

/-- Requests that touch nothing outside a scope.  What a foreign program touches
is in no scope. -/
def FileTree.Scope.Admits (S : Scope) : Request → Prop
  | .read _ | .find _ | .sync _ | .now => True
  | .makeDirectory p => S.directories p
  | .create p | .touch p => S.files p
  | .append p _ => S.files p ∧ EndsInName p
  | .move source target => S.files source ∧ S.files target ∧ ∃ q, source = q ++ ".tmp"
  | .git _ => False

namespace Script

theorem within_update {x : Except FileFault FileTree} (hx : ∀ t', x = .ok t' → Within S h.files t') :
    Within S h.files (h.update x).2.files := by
  cases x with
  | error e => exact .refl h.files
  | ok t' => exact hx t' rfl

theorem within_answer {r : Request} (hr : S.Admits r) (h : Host) :
    Within S h.files (h.answer r).2.files := by
  cases r with
  | read p => exact .refl h.files
  | find p => exact .refl h.files
  | sync p => exact .refl h.files
  | now => exact .refl h.files
  | makeDirectory p => exact within_update fun _ ht => FileTree.within_makeDirectory hr ht
  | create p => exact within_update fun _ ht => FileTree.within_create hr ht
  | touch p => exact within_update fun _ ht => FileTree.within_touch hr ht
  | append p data => exact within_update fun _ ht => FileTree.within_append hr.1 hr.2 ht
  | move source target =>
      exact within_update fun _ ht => FileTree.within_move hr.1 hr.2.1 hr.2.2 ht
  | git words => exact hr.elim

namespace Asks

theorem mono {s : Script α} (hs : s.Asks P) (himp : ∀ r, P r → Q r) : s.Asks Q := by
  induction hs with
  | done a => exact .done a
  | ask hr _ ih => exact .ask (himp _ hr) ih

/-- **A SCRIPT STAYS WITHIN ITS SCOPE.** -/
theorem within {s : Script α} (hs : s.Asks S.Admits) (h : Host) :
    Within S h.files (s.run h).2.files := by
  induction hs generalizing h with
  | done a => exact .refl h.files
  | ask hr _ ih => exact (within_answer hr h).trans (ih _ _)

/-- The same for a script whose end is known. -/
theorem within_of_run {s : Script α} (hs : s.Asks S.Admits) {a : α}
    (hrun : s.run h = (a, h')) : Within S h.files h'.files := by
  have hwithin := hs.within h
  rwa [hrun] at hwithin

theorem run_bind {x : ExceptT ε Script α} {f : α → ExceptT ε Script β} (hx : x.run.Asks P)
    (hf : ∀ a, (f a).run.Asks P) : (x >>= f).run.Asks P := by
  rw [ExceptT.run_bind]
  refine hx.bind fun result => ?_
  cases result with
  | error e => exact .done _
  | ok a => exact hf a

theorem orFail {s : Script (Except ε α)} (hs : s.Asks P) (cause : ε → φ) :
    (s.orFail cause).run.Asks P :=
  hs.bind fun _ => .done _

theorem lift {s : Script α} (hs : s.Asks P) : (liftM s : ExceptT ε Script α).run.Asks P :=
  hs.bind fun _ => .done _

/-- A script that only looks leaves the system as it is. -/
theorem run_eq_of_looking {s : Script α} (hs : s.Asks fun r => (∃ p, r = .read p) ∨ ∃ p, r = .find p)
    (h : Host) : (s.run h).2 = h := by
  induction hs generalizing h with
  | done a => rfl
  | ask hr _ ih => rcases hr with ⟨p, rfl⟩ | ⟨p, rfl⟩ <;> exact ih _ h

end Asks

/-! ## §5. Replacement. -/

/-- Directories are made along the list alone. -/
theorem asks_ensureDirectories_in {ps : List Path} (hps : ∀ p ∈ ps, S.directories p) :
    (ensureDirectories ps).Asks S.Admits := by
  have hthere : ∀ p, (isDirectory p).Asks S.Admits :=
    fun p => .bind (.request trivial) fun _ => .done _
  induction ps with
  | nil => exact .done _
  | cons p outer ih =>
      obtain ⟨hp, houter⟩ := List.forall_mem_cons.1 hps
      have hmake : (makeDirectory p).Asks S.Admits := .request hp
      rw [ensureDirectories]
      split
      · exact .done _
      · refine hmake.bind fun answer => ?_
        split
        · exact .done _
        · refine (ih houter).bind fun result => ?_
          cases result with
          | error e => exact .done _
          | ok _ =>
              refine hmake.bind fun answer => ?_
              cases answer with
              | ok _ => exact .done _
              | error e =>
                  refine (hthere p).bind fun there => ?_
                  cases there <;> exact .done _
        · refine (hthere p).bind fun there => ?_
          cases there <;> exact .done _

theorem asks_ensureEnclosing_in
    (hp : ∀ d, enclosing? p = some d → ∀ a ∈ d.ancestors, S.directories a) :
    (ensureEnclosing p).run.Asks S.Admits := by
  unfold ensureEnclosing
  split
  · exact .done _
  next directory hdirectory =>
    exact (asks_ensureDirectories_in (hp directory hdirectory)).orFail _

theorem admits_append_temporary (hq : temporaryPath? p = some q) (hfile : S.files q)
    (data : ByteArray) : S.Admits (.append q data) := by
  obtain ⟨q, rfl⟩ := temporaryPath?_eq_some hq
  exact ⟨hfile, endsInName_append {} q⟩

theorem asks_syncEnclosing (p : Path) : (syncEnclosing p).run.Asks S.Admits := by
  unfold syncEnclosing
  split
  · exact .done _
  · exact (Asks.request trivial).orFail _

theorem asks_putBytes (hp : S.files p) (htemporary : ∀ q, temporaryPath? p = some q → S.files q)
    (data : ByteArray) : (putBytes p data).run.Asks S.Admits := by
  unfold putBytes
  split
  · exact .done _
  next q hq =>
    have hfile := htemporary q hq
    have happend := admits_append_temporary hq hfile data
    have hsync : S.Admits (.sync q) := trivial
    have hmove : S.Admits (.move q p) := ⟨hfile, hp, temporaryPath?_eq_some hq⟩
    exact ((Asks.request hfile).orFail _).run_bind fun _ =>
      ((Asks.request happend).orFail _).run_bind fun _ =>
        ((Asks.request hsync).orFail _).run_bind fun _ =>
          ((Asks.request hmove).orFail _).run_bind fun _ => asks_syncEnclosing p

theorem asks_putFile (hp : S.files p) (htemporary : ∀ q, temporaryPath? p = some q → S.files q)
    (text : String) : (putFile p text).run.Asks S.Admits := asks_putBytes hp htemporary _

/-- A file that could not be put to its path is what it was. -/
theorem putFile_error {text : String} {e : WriteFault}
    (htemporary : ∀ q, temporaryPath? p = some q → S.files q)
    (hrun : (putFile p text).run.run h = (.error e, h')) : Within S h.files h'.files := by
  unfold putFile at hrun
  cases hq : temporaryPath? p with
  | none =>
      rw [run_putBytes_none hq] at hrun
      cases hrun
      exact .refl _
  | some q =>
      rw [run_putBytes hq] at hrun
      have hfile := htemporary q hq
      have hcreate : ((create q).orFail WriteFault.file).run.Asks S.Admits :=
        (Asks.request hfile).orFail _
      have happend : ((appendBytes q text.toUTF8).orFail WriteFault.file).run.Asks S.Admits :=
        (Asks.request (admits_append_temporary hq hfile text.toUTF8)).orFail _
      rcases run_bind_eq_error_iff.1 hrun with hrun | ⟨_, h₁, hcreated, hrun⟩
      · exact hcreate.within_of_run hrun
      · refine (hcreate.within_of_run hcreated).trans ?_
        rcases run_bind_eq_error_iff.1 hrun with hrun | ⟨_, h₂, happended, hrun⟩
        · exact happend.within_of_run hrun
        · -- the last step changes nothing if it fails
          obtain ⟨_, hmove, -⟩ := run_orFail_eq_error_iff.1 hrun
          rw [update_eq_error hmove]
          exact happend.within_of_run happended

/-- Nor is a file touched that could not be replaced. -/
theorem replaceFile_error {text : String} {e : WriteFault}
    (htemporary : ∀ q, temporaryPath? p = some q → S.files q)
    (hdirectories : ∀ d, enclosing? p = some d → ∀ a ∈ d.ancestors, S.directories a)
    (hrun : (replaceFile p text).run.run h = (.error e, h')) : Within S h.files h'.files := by
  have hmade := asks_ensureEnclosing_in hdirectories
  rcases run_bind_eq_error_iff.1 hrun with hrun | ⟨_, h₁, hrun, hput⟩
  · exact hmade.within_of_run hrun
  · exact (hmade.within_of_run hrun).trans (putFile_error htemporary hput)

/-- A scope has room for the replacement of a file. -/
structure Covers (S : Scope) (p : Path) : Prop where
  file : S.files p
  temporary : ∀ q, temporaryPath? p = some q → S.files q
  directories : ∀ d, enclosing? p = some d → ∀ a ∈ d.ancestors, S.directories a

/-- **A REPLACEMENT STAYS WITHIN ITS SCOPE.** -/
theorem asks_replaceFile (hp : Covers S p) (text : String) :
    (replaceFile p text).run.Asks S.Admits :=
  (asks_ensureEnclosing_in hp.directories).run_bind fun _ =>
    asks_putFile hp.file hp.temporary text

end Script
end EntitySchema
