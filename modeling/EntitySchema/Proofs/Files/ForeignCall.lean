/-
  EntitySchema.Proofs.Files.ForeignCall
  ────────────────────────────────
  **WHAT VERSION CONTROL LEAVES ALONE.**

  The version control program is foreign: of what it does to the files there
  is nothing to prove, only to assume.  Asked for the state of the sources it
  tends files of its own, such as its index, and these may be any:

      files of its own     files still, whatever they hold, and new ones
      other files          what they were
      directories          those that were there

  A run before and after such a call stays within its scope, but for the
  files of version control.

  Main results: `Script.git_run`, `tended_of_revision`, `Script.Asks.withinOr`,
  `Revision.ofOutputs_printed`.
-/
import EntitySchema.Run.Revision
import EntitySchema.Proofs.Files.Confinement
import EntitySchema.Proofs.Text.Decoding

namespace EntitySchema

open EntitySchema.FileTree (Keeps Later Scope Within)

variable {α : Type} {h h' : Host} {t t' t'' : FileTree} {l : Location} {own : Location → Prop}
  {S : Scope}

/-! ## §1. Trees with some files tended. -/

namespace FileTree

/-- A tree after some files were tended: they are files still, whatever they
hold, and others of them may have come.  Directories are what they were. -/
structure Tended (own : Location → Prop) (t t' : FileTree) : Prop where
  current : t'.current = t.current
  directory_iff : ∀ l, t'.get? l = some .directory ↔ t.get? l = some .directory
  file : ∀ l c, t.get? l = some (.file c) → ∃ c', t'.get? l = some (.file c')
  same : ∀ l, ¬ own l → t'.get? l = t.get? l

namespace Tended

theorem refl (t : FileTree) : Tended own t t :=
  ⟨rfl, fun _ => .rfl, fun _ c hc => ⟨c, hc⟩, fun _ _ => rfl⟩

theorem trans (h : Tended own t t') (h' : Tended own t' t'') : Tended own t t'' where
  current := h'.current.trans h.current
  directory_iff l := (h'.directory_iff l).trans (h.directory_iff l)
  file l c hc := by
    obtain ⟨c', hc'⟩ := h.file l c hc
    exact h'.file l c' hc'
  same l hl := (h'.same l hl).trans (h.same l hl)

theorem toLater (h : Tended own t t') : Later t t' :=
  ⟨h.current, fun l => (h.directory_iff l).2, fun l c _ => h.file l c⟩

end Tended

/-! ## §2. Scopes beside which files are tended. -/

/-- A later tree that differs in a scope, or in files of version control. -/
structure WithinOr (own : Location → Prop) (S : Scope) (t t' : FileTree) : Prop
    extends Later t t' where
  changed : ∀ l, ¬ own l → t'.get? l = t.get? l ∨ (∃ p, S.files p ∧ t'.Leads p l)
    ∨ t.get? l = none ∧ t'.get? l = some .directory ∧ ∃ p, S.directories p ∧ t'.Leads p l

namespace WithinOr

theorem of_within (h : Within S t t') : WithinOr own S t t' := ⟨h.toLater, fun l _ => h.changed l⟩

theorem of_tended (h : Tended own t t') : WithinOr own S t t' :=
  ⟨h.toLater, fun l hl => .inl (h.same l hl)⟩

theorem trans (h : WithinOr own S t t') (h' : WithinOr own S t' t'') : WithinOr own S t t'' where
  toLater := h.toLater.trans h'.toLater
  changed l hl := changed_trans h'.toLater (h.changed l hl) (h'.changed l hl)

/-- A file that no path of the scope leads to is what it was. -/
theorem file_iff (h : WithinOr own S t t') (hl : ∀ p, S.files p → ¬ t'.Leads p l) (hown : ¬ own l)
    {c : ByteArray} : t'.get? l = some (.file c) ↔ t.get? l = some (.file c) := by
  rcases h.changed l hown with hsame | ⟨p, hp, hleads⟩ | ⟨hnone, hmade, -⟩
  · rw [hsame]
  · exact absurd hleads (hl p hp)
  · simp [hnone, hmade]

end WithinOr
end FileTree

open FileTree (Tended WithinOr)

/-! ## §3. Calls. -/

/-- Version control touches files of its own alone when it is asked for the
state of the sources, whatever it finds. -/
def Host.GitTouchesOnly (own : Location → Prop) (h : Host) : Prop :=
  ∀ n, ∀ words ∈ [Revision.commitCall, Revision.statusCall], ∀ t : FileTree,
    Tended own t { t with nodes := (h.git n words t).2 }

namespace Script

theorem git_update (x : Except FileFault FileTree) : (h.update x).2.git = h.git := by
  cases x <;> rfl

theorem git_answer (r : Request) (h : Host) : (h.answer r).2.git = h.git := by
  cases r with
  | makeDirectory p => exact git_update _
  | create p => exact git_update _
  | touch p => exact git_update _
  | append p data => exact git_update _
  | move source target => exact git_update _
  | read p => rfl
  | find p => rfl
  | sync p => rfl
  | now => rfl
  | git words => rfl

/-- **NO SCRIPT CHANGES WHAT VERSION CONTROL DOES.** -/
theorem git_run (s : Script α) (h : Host) : (s.run h).2.git = h.git := by
  induction s generalizing h with
  | done a => rfl
  | ask r next ih => exact (ih _ _).trans (git_answer r h)

end Script

theorem Host.GitTouchesOnly.of_run {s : Script α} {a : α} (hgit : h.GitTouchesOnly own)
    (hrun : s.run h = (a, h')) : h'.GitTouchesOnly own := by
  have hsame := Script.git_run s h
  rw [hrun] at hsame
  rwa [Host.GitTouchesOnly, hsame]

/-- **ASKED FOR THE STATE OF THE SOURCES**, version control has tended files of
its own. -/
theorem tended_of_revision {v : Revision} (hgit : h.GitTouchesOnly own)
    (hrun : Script.revision.run h = (v, h')) : Tended own h.files h'.files := by
  cases hrun
  -- two calls, and each finds what the other has left
  exact (hgit _ _ (by simp) _).trans (hgit _ _ (by simp) _)

/-- Requests that touch nothing outside a scope, or ask version control for the
state of the sources. -/
def FileTree.Scope.AdmitsCalls (S : Scope) (r : Request) : Prop :=
  S.Admits r ∨ ∃ words ∈ [Revision.commitCall, Revision.statusCall], r = .git words

namespace Script

theorem Asks.calls {s : Script α} (hs : s.Asks S.Admits) : s.Asks S.AdmitsCalls :=
  hs.mono fun _ => .inl

theorem asks_revision : Script.revision.Asks S.AdmitsCalls := by
  have hcommit : S.AdmitsCalls (.git Revision.commitCall) := .inr ⟨_, by simp, rfl⟩
  have hstatus : S.AdmitsCalls (.git Revision.statusCall) := .inr ⟨_, by simp, rfl⟩
  exact (Asks.request hcommit).bind fun _ => (Asks.request hstatus).bind fun _ => .done _

theorem withinOr_answer {r : Request} (hr : S.AdmitsCalls r) (hgit : h.GitTouchesOnly own) :
    WithinOr own S h.files (h.answer r).2.files := by
  rcases hr with hr | ⟨words, hwords, rfl⟩
  · exact .of_within (within_answer hr h)
  · exact .of_tended (hgit _ words hwords h.files)

/-- **A SCRIPT THAT ASKS VERSION CONTROL** stays within its scope, but for the
files of version control. -/
theorem Asks.withinOr {s : Script α} (hs : s.Asks S.AdmitsCalls) (hgit : h.GitTouchesOnly own) :
    WithinOr own S h.files (s.run h).2.files := by
  induction hs generalizing h with
  | done a => exact .of_within (.refl h.files)
  | @ask r _ hr _ ih =>
      have hgit' : (h.answer r).2.GitTouchesOnly own := by
        rwa [Host.GitTouchesOnly, git_answer]
      exact (withinOr_answer hr hgit).trans (ih _ hgit')

end Script

/-! ## §4. What is printed. -/

/-- **WHAT VERSION CONTROL PRINTS IS WHAT IS KNOWN.**  The name of the commit
stands on a line; anything that is listed is a change. -/
theorem Revision.ofOutputs_printed {name listed : String} (hname : name ≠ "")
    (hplain : ∀ c ∈ name.toList, Text.isWhiteSpace c = false) :
    ofOutputs (some ⟨true, (name ++ "\n").toUTF8⟩) (some ⟨true, listed.toUTF8⟩)
      = ⟨some name, some !listed.isEmpty⟩ := by
  have hcommit : commitOf ⟨true, (name ++ "\n").toUTF8⟩ = some name := by
    have hbreak : ∀ c ∈ "\n".toList, Text.isWhiteSpace c = true :=
      List.forall_mem_singleton.2 rfl
    rw [commitOf, if_pos rfl, Text.decodeLossy_toUTF8, Text.trim_append hplain hbreak]
  have hdirty : dirtyOf ⟨true, listed.toUTF8⟩ = some !listed.isEmpty := rfl
  have hnamed : name.isEmpty = false := by
    simpa using hname
  rw [ofOutputs, Option.bind_some, Option.bind_some, hcommit, hdirty]
  simp [hnamed]

/-! ## §5. A version control that refreshes its index. -/

/-- Where the index of a repository in the root directory lies. -/
def gitIndex : Location := [".git", "index"]

/-- The index after the words of a call: asked what has changed, version control
has looked at every file and notes that it has. -/
def refreshedIndex (words : List String) (t : FileTree) : FileTree :=
  match t.get? gitIndex with
  | some (.file _) =>
      if words = Revision.statusCall then t.set gitIndex (.file "fresh".toUTF8) else t
  | _ => t

/-- Version control in a repository with a commit, where one file has
changed. -/
def refreshingGit (words : List String) (t : FileTree) :
    Option CommandOutput × List (Location × FileNode) :=
  let text := if words = Revision.commitCall then "89ab\n" else " M a\n"
  (some ⟨true, text.toUTF8⟩, (refreshedIndex words t).nodes)

theorem tended_refreshedIndex (words : List String) (t : FileTree) :
    Tended (· = gitIndex) t (refreshedIndex words t) := by
  unfold refreshedIndex
  split
  next c hc =>
    split
    · have hfree : t.get? gitIndex ≠ some .directory := by simp [hc]
      refine ⟨rfl, fun l => ?_, fun l c' hl => ?_, fun l hl => FileTree.get?_set_of_ne hl _⟩
      · rcases Decidable.em (l = gitIndex) with rfl | hne
        · simp [FileTree.get?_set_self hfree, hc]
        · rw [FileTree.get?_set_of_ne hne]
      · rcases Decidable.em (l = gitIndex) with rfl | hne
        · exact ⟨_, FileTree.get?_set_self hfree _⟩
        · exact ⟨c', by rw [FileTree.get?_set_of_ne hne, hl]⟩
    · exact .refl t
  · exact .refl t

/-- It touches its index alone. -/
theorem gitTouchesOnly_index (hgit : h.git = fun _ => refreshingGit) :
    h.GitTouchesOnly (· = gitIndex) := by
  intro n words _ t
  have htended := tended_refreshedIndex words t
  have htree : ({ t with nodes := (h.git n words t).2 } : FileTree) = refreshedIndex words t := by
    rw [hgit, ← htended.current]
    rfl
  rwa [htree]

end EntitySchema
