/-
  EntitySchema.Proofs.Files.Replacement
  ────────────────────────────────
  **A REPLACED FILE HOLDS THE NEW TEXT, AND LITTLE ELSE CHANGES.**

  A replacement makes directories, and touches two locations: that of the
  temporary file, whose name tells what it is, and that of the target.

      directories     nothing stood there before
      .user.go.tmp    created, filled, moved away
      user.go         the new text

  Main result: `replaceFile_ok`.
-/
import EntitySchema.Files.Replacement
import EntitySchema.Proofs.Files.Script

namespace EntitySchema

open EntitySchema.FileTree (Keeps EndsIn endsInSlash)
open EntitySchema.Path (join_append)

variable {h h' : Host} {p : Path}

/-! ## §1. The steps of a replacement. -/

/-- A tree after the file at a path has been replaced by a text: other files
are kept, but for temporary ones. -/
structure FileTree.Replaced (p : Path) (text : String) (l : Location) (t t' : FileTree) : Prop where
  leads : t'.Leads p l
  noSlash : endsInSlash p = false
  text : t'.get? l = some (.file text.toUTF8)
  keeps : Keeps (fun m => m = l ∨ EndsIn ".tmp" m) t t'

/-- A file that is created and filled holds the data, wherever the path leads. -/
theorem FileTree.exists_filled {t t₁ t₂ : FileTree} {temporary : Path} {data : ByteArray}
    (hcreate : t.create temporary = .ok t₁) (happend : t₁.append temporary data = .ok t₂) :
    ∃ m, t.Leads temporary m ∧ t₂.get? m = some (.file data) ∧ Keeps (· = m) t t₂ := by
  obtain ⟨m, hm, hslash, hempty, hcreated⟩ := exists_created hcreate
  -- the new file is there, so it is the one appended to
  obtain ⟨hfilled, happended⟩ := appended happend (hm.keep hcreated) hempty hslash
  rw [ByteArray.empty_append] at hfilled
  exact ⟨m, hm, hfilled, hcreated.trans happended⟩

/-- A file that is created, filled and moved is at the target, and only these
two locations are touched. -/
theorem FileTree.exists_replaced {t t₁ t₂ t₃ : FileTree} {temporary : Path} {data : ByteArray}
    (hcreate : t.create temporary = .ok t₁) (happend : t₁.append temporary data = .ok t₂)
    (hmove : t₂.move temporary p = .ok t₃) :
    ∃ l m, t.Leads temporary m ∧ t₃.Leads p l ∧ endsInSlash p = false
      ∧ t₃.get? l = some (.file data) ∧ Keeps (fun k => k = l ∨ k = m) t t₃ := by
  obtain ⟨m, hm, hfilled, hwritten⟩ := exists_filled hcreate happend
  obtain ⟨m', l, c, hm', hc, hl, hslash, hmoved, hkeeps⟩ := exists_moved hmove
  -- the new file is there, so it is the one moved
  cases hm'.eq (hm.keep hwritten)
  cases hfilled.symm.trans hc
  exact ⟨l, m, hm, hl, hslash, hmoved,
    (hwritten.mono fun _ => .inr).trans (hkeeps.mono fun _ => Or.symm)⟩

/-! ## §2. Directories. -/

namespace Script

theorem asks_isDirectory (p : Path) : (isDirectory p).Asks Harmless :=
  .bind (.request trivial) fun _ => .done _

theorem asks_ensureDirectory (p : Path) : (ensureDirectory p).Asks Harmless := by
  refine .bind (.request trivial) fun answer => ?_
  cases answer with
  | ok _ => exact .done _
  | error e =>
      refine .bind (asks_isDirectory p) fun there => ?_
      cases there <;> exact .done _

theorem asks_ensureDirectories (ps : List Path) : (ensureDirectories ps).Asks Harmless := by
  induction ps with
  | nil => exact .done _
  | cons p outer ih =>
      rw [ensureDirectories]
      split
      · exact .done _
      · refine .bind (.request trivial) fun answer => ?_
        split
        · exact .done _
        · refine .bind ih fun result => ?_
          cases result with
          | error e => exact .done _
          | ok _ => exact asks_ensureDirectory p
        · refine .bind (asks_isDirectory p) fun there => ?_
          cases there <;> exact .done _

/-! ## §3. Replacement. -/

/-- The path of a temporary file shows what it is. -/
theorem temporaryPath?_eq_some {temporary : Path} (htemporary : temporaryPath? p = some temporary) :
    ∃ q, temporary = q ++ ".tmp" := by
  obtain ⟨name, -, rfl⟩ := Option.map_eq_some_iff.1 htemporary
  unfold Path.withFileName
  split
  · exact ⟨_, join_append {} _ _⟩
  · exact ⟨_, join_append {} _ _⟩

/-- Flushes change nothing that a run sees: without them it ends alike. -/
theorem run_putBytes {temporary : Path} {data : ByteArray}
    (htemporary : temporaryPath? p = some temporary) (h : Host) :
    (putBytes p data).run.run h
      = (do
          (create temporary).orFail WriteFault.file
          (appendBytes temporary data).orFail .file
          (move temporary p).orFail .file : ExceptT WriteFault Script Unit).run.run h := by
  -- a flush succeeds and changes nothing, so only the other three steps count
  have hsync : ∀ q h, ((sync q).orFail WriteFault.file).run.run h = (.ok (), h) := fun _ _ => rfl
  have henclosing : ∀ h, (syncEnclosing p).run.run h = (.ok (), h) := by
    intro h
    unfold syncEnclosing
    split
    · rfl
    · exact hsync _ h
  unfold putBytes
  rw [htemporary]
  refine run_bind_congr (fun _ h => run_bind_congr (fun _ h => ?_) h) h
  rw [run_idle_bind (hsync temporary), run_bind_idle henclosing]

theorem run_putBytes_none {data : ByteArray} (htemporary : temporaryPath? p = none) (h : Host) :
    (putBytes p data).run.run h = (.error (.invalidPath p), h) := by
  unfold putBytes
  rw [htemporary]
  rfl

/-- A file that is put to a path holds the text. -/
theorem putFile_ok {text : String} (hrun : (putFile p text).run.run h = (.ok (), h')) :
    ∃ l, FileTree.Replaced p text l h.files h'.files := by
  unfold putFile at hrun
  cases htemporary : temporaryPath? p with
  | none =>
      rw [run_putBytes_none htemporary] at hrun
      cases hrun
  | some temporary =>
      rw [run_putBytes htemporary] at hrun
      obtain ⟨q, rfl⟩ := temporaryPath?_eq_some htemporary
      obtain ⟨_, h₁, hcreate, hrun⟩ := run_bind_eq_ok_iff.1 hrun
      obtain ⟨_, h₂, happend, hmove⟩ := run_bind_eq_ok_iff.1 hrun
      obtain ⟨l, m, hm, hl, hslash, htext, hkeeps⟩ :=
        FileTree.exists_replaced (update_eq_ok (run_orFail_eq_ok_iff.1 hcreate))
          (update_eq_ok (run_orFail_eq_ok_iff.1 happend))
          (update_eq_ok (run_orFail_eq_ok_iff.1 hmove))
      -- besides the target only the temporary file was touched
      refine ⟨l, hl, hslash, htext, hkeeps.mono fun k hk => hk.imp_right ?_⟩
      rintro rfl
      exact hm.endsIn {}

theorem asks_ensureEnclosing (p : Path) : (ensureEnclosing p).run.Asks Harmless := by
  unfold ensureEnclosing
  split
  · exact .done _
  next directory _ => exact (asks_ensureDirectories directory.ancestors).bind fun _ => .done _

/-- **A REPLACED FILE HOLDS THE NEW TEXT.** -/
theorem replaceFile_ok {text : String} (hrun : (replaceFile p text).run.run h = (.ok (), h')) :
    ∃ l, FileTree.Replaced p text l h.files h'.files := by
  obtain ⟨_, h₀, hdirectory, hput⟩ := run_bind_eq_ok_iff.1 hrun
  obtain ⟨l, hl, hslash, htext, hkeeps⟩ := putFile_ok hput
  have hmade : Keeps (fun m => m = l ∨ EndsIn ".tmp" m) h.files _ :=
    (asks_ensureEnclosing p).harmless h
  rw [hdirectory] at hmade
  exact ⟨l, hl, hslash, htext, hmade.trans hkeeps⟩

end Script
end EntitySchema
