/-
  EntitySchema.Proofs.Files.CrashSafety
  ────────────────────────────────
  **A FILE IS REPLACED AS A WHOLE OR NOT AT ALL.**

  Wherever a replacement stops, refused or cut off at any point, the file
  holds what it held before or all of the new data.  Up to the move nothing
  is touched but the temporary file, which has another name than the target:

      user.go         what it held         |  all of the new data
      .user.go.tmp    anything             |  nothing
      directories     made on the way
                                         move

  What is elsewhere is what it was.  After an end that is well, the new data
  is there, and the temporary file is not.

  Main result: `replaceBytes_stops`.
-/
import EntitySchema.Proofs.Files.Interruption
import EntitySchema.Proofs.Files.Rewriting

namespace EntitySchema

open EntitySchema.FileTree (Scope Within endsInSlash)
open EntitySchema.Path (component? pieces solid)

variable {h h' : Host} {t t' t'' : FileTree} {p q : Path} {l m : Location} {data : ByteArray}

/-! ## §1. The name of the temporary file. -/

namespace Path

theorem steps_eq (p : Path) : p.steps = (solid (pieces p.toList)).filterMap component? := by
  rw [steps, solid, List.filterMap_filter]
  refine List.filterMap_congr fun w _ => ?_
  cases w <;> rfl

end Path

namespace FileTree

/-- A path that leads to an entry ends in the name of the entry. -/
theorem Leads.exists_fileName? (h : t.Leads p l) :
    ∃ name, Path.FileName name ∧ p.fileName? = some name ∧ l.getLast? = some name := by
  have hlast := h.getLast?
  obtain ⟨d, name, hplace, -⟩ := h
  obtain ⟨-, hname, ⟨hdot, hdots⟩, -⟩ := place_eq_ok_iff.1 hplace
  rw [hname] at hlast
  rw [names_eq, List.getLast?_map] at hname
  obtain ⟨w, hw, rfl⟩ := Option.map_eq_some_iff.1 hname
  obtain ⟨init, hsolid⟩ := List.getLast?_eq_some_iff.1 hw
  have hsolid_mem : w ∈ solid (pieces p.toList) := by
    rw [hsolid]
    exact List.mem_append_right init List.mem_cons_self
  obtain ⟨hmem, hne⟩ := List.mem_filter.1 hsolid_mem
  -- the last name is no dots, so it is a component as it stands
  have hnormal : component? w = some (.normal (String.ofList w)) := by
    have hdot : w ≠ ['.'] := by
      rintro rfl
      exact hdot rfl
    have hdots : w ≠ ['.', '.'] := by
      rintro rfl
      exact hdots rfl
    rw [component?, if_neg (by simpa [hdot] using hne), if_neg hdots]
  refine ⟨String.ofList w, ⟨?_, ?_⟩, ?_, hlast⟩
  · rw [String.toList_ofList]
    exact Path.noSlash_of_mem_pieces _ w hmem
  · rw [String.toList_ofList, hnormal]
  · rw [Path.fileName?, Path.components_eq, Path.steps_eq, hsolid, List.filterMap_append,
      List.filterMap_cons_some hnormal]
    simp

/-- **THE TEMPORARY FILE IS ANOTHER ONE**, whatever the target is called. -/
theorem Leads.ne_temporary (h : t.Leads p l) (hq : temporaryPath? p = some q) (hm : t.Leads q m) :
    l ≠ m := by
  obtain ⟨name, hname, hfile, hlast⟩ := h.exists_fileName?
  have htemporary : Path.FileName ("." ++ name ++ ".tmp") := by
    refine ⟨?_, ?_⟩
    · simp [hname.noSlash]
    · rw [String.toList_append, Path.component?_append {}]
      simp
  rw [temporaryPath?, hfile, Option.map_some, Option.some.injEq] at hq
  have hcalled : Path.Called q ("." ++ name ++ ".tmp") := by
    rw [← hq, Path.withFileName]
    split <;> exact Path.called_join htemporary _
  rintro rfl
  -- at one location they would have one name, but the temporary one is longer
  have hsame := hlast.symm.trans (hm.getLast?.trans (getLast?_names hcalled))
  have hlength := congrArg String.length (Option.some.inj hsame)
  simp only [String.length_append] at hlength
  have hone : ".".length = 1 := rfl
  omega

/-! ## §2. Data at a path. -/

/-- Data of the file at a location; a directory has none. -/
def data? (t : FileTree) (l : Location) : Option ByteArray :=
  match t.get? l with
  | some (.file c) => some c
  | _ => none

theorem data?_eq (h : t'.get? l = t.get? l) : t'.data? l = t.data? l := by
  rw [data?, data?, h]

/-- What is found where a path leads. -/
theorem Leads.find_get? (h : t.Leads p l) : t.find p = match t.get? l with
    | none => .error .notFound
    | some .directory => .ok (l, .directory)
    | some (.file c) => if endsInSlash p then .error .notDirectory else .ok (l, .file c) := by
  obtain ⟨d, name, hplace, hstep⟩ := h
  obtain ⟨hcheck, hlast, -, hd⟩ := place_eq_ok_iff.1 hplace
  rw [find, hcheck]
  simp only [hlast, hd, hstep, bind, Except.bind]
  rfl

theorem Leads.contents (h : t.Leads p l) :
    (t.contents p).toOption = if endsInSlash p then none else t.data? l := by
  rw [FileTree.contents, h.find_get?, data?]
  cases t.get? l with
  | none => simp [bind, Except.bind, Except.toOption]
  | some n =>
      cases n with
      | directory => simp [bind, Except.bind, Except.toOption]
      | file c => cases endsInSlash p <;> rfl

/-! ## §3. What a replacement may touch. -/

/-- What a replacement may touch before the move: the temporary file, and the
directories on the way. -/
def preparationScope (p : Path) : Scope where
  files q := temporaryPath? p = some q
  directories a := ∃ d, enclosing? p = some d ∧ a ∈ d.ancestors

/-- What a replacement may touch: the file as well. -/
def replacementScope (p : Path) : Scope where
  files q := q = p ∨ temporaryPath? p = some q
  directories := (preparationScope p).directories

theorem Within.of_preparation (h : Within (preparationScope p) t t') :
    Within (replacementScope p) t t' :=
  h.mono (fun _ => .inr) fun _ => id

/-- Before the move the target is what it was. -/
theorem Within.data?_target (h : Within (preparationScope p) t t') (hl : t'.Leads p l) :
    t'.data? l = t.data? l := by
  rcases h.changed l with hsame | ⟨q, hq, hm⟩ | ⟨hnone, hmade, -⟩
  · exact data?_eq hsame
  · exact absurd rfl (hl.ne_temporary hq hm)
  · rw [data?, data?, hmade, hnone]

/-- A tree after the move: the data is at the target, and the temporary file is
not there. -/
structure Swapped (p : Path) (data : ByteArray) (t t' : FileTree) : Prop where
  within : Within (replacementScope p) t t'
  noSlash : endsInSlash p = false
  target : ∃ l, t'.Leads p l ∧ t'.get? l = some (.file data)
  temporary : ∃ q m, temporaryPath? p = some q ∧ t'.Leads q m ∧ t'.get? m = none

/-- A file that is created, filled and moved comes to the target. -/
theorem swapped_of_move {t₁ t₂ : FileTree} (hq : temporaryPath? p = some q)
    (hcreate : t.create q = .ok t₁) (happend : t₁.append q data = .ok t₂)
    (hmove : t₂.move q p = .ok t') : Swapped p data t t' := by
  have hp : (replacementScope p).files p := .inl rfl
  have htemporary : (replacementScope p).files q := .inr hq
  have hwithin : Within (replacementScope p) t t' := by
    obtain ⟨stem, rfl⟩ := Script.temporaryPath?_eq_some hq
    exact ((within_create htemporary hcreate).trans
      (within_append htemporary (endsInName_append {} stem) happend)).trans
        (within_move htemporary hp ⟨stem, rfl⟩ hmove)
  -- what is moved is the file that was filled
  obtain ⟨m, hm, hfilled, hwritten⟩ := exists_filled hcreate happend
  obtain ⟨m', l, c, hm', hc, -, hl, hslash, hfree, rfl⟩ := move_eq_ok_iff.1 hmove
  cases (hm.keep hwritten).eq hm'
  cases hfilled.symm.trans hc
  have hne : l ≠ m := hl.ne_temporary hq hm'
  obtain ⟨hget, hkeeps⟩ := set_erase_kept (l := m) (by simp [hfilled]) hfree (.file data)
  refine ⟨hwithin, hslash, ⟨l, hl.keep hkeeps, hget⟩, q, m, hq, hm'.keep hkeeps, ?_⟩
  have hroot : m ≠ [] := by
    rintro rfl
    cases hfilled
  rw [get?_set_of_ne hne.symm, get?_erase, if_pos ⟨rfl, hroot⟩]

/-- A replacement that has stopped somewhere has done no harm: the target is
what it was or holds the data, and nothing is touched but the target, the
temporary file and directories on the way that were missing.  Where the path
led before, this is what is read by it. -/
structure Unharmed (p : Path) (data : ByteArray) (t t' : FileTree) : Prop where
  within : Within (replacementScope p) t t'
  target : ∀ l, t'.Leads p l → t'.data? l = t.data? l ∨ t'.data? l = some data
  contents : (∃ l, t.Leads p l) →
    (t'.contents p).toOption = (t.contents p).toOption ∨ t'.contents p = .ok data

/-- Before the move no harm is done. -/
theorem Within.unharmed (h : Within (preparationScope p) t t') : Unharmed p data t t' where
  within := h.of_preparation
  target l hl := .inl (h.data?_target hl)
  contents hleads := by
    obtain ⟨l, hl⟩ := hleads
    have hl' := h.leads hl
    exact .inl (by rw [hl'.contents, hl.contents, h.data?_target hl'])

namespace Swapped

theorem contents (h : Swapped p data t t') : t'.contents p = .ok data := by
  obtain ⟨l, hl, hdata⟩ := h.target
  exact contents_eq_ok_iff.2 ⟨l, hl.find_eq hdata h.noSlash⟩

theorem exists_temporary (h : Swapped p data t t') :
    ∃ q, temporaryPath? p = some q ∧ t'.find q = .error .notFound := by
  obtain ⟨q, m, hq, hm, hnone⟩ := h.temporary
  exact ⟨q, hq, by rw [hm.find_get?, hnone]⟩

/-- Nor is any after it. -/
theorem unharmed (h : Swapped p data t t') : Unharmed p data t t' where
  within := h.within
  target l hl := by
    obtain ⟨l', hl', hdata⟩ := h.target
    cases hl'.eq hl
    exact .inr (by rw [data?, hdata])
  contents _ := .inr h.contents

/-- Directories are made before. -/
theorem after (h : Swapped p data t' t'') (hmade : Within (preparationScope p) t t') :
    Swapped p data t t'' where
  within := hmade.of_preparation.trans h.within
  noSlash := h.noSlash
  target := h.target
  temporary := h.temporary

end Swapped
end FileTree

open FileTree (preparationScope Swapped Unharmed)

/-! ## §4. Where a replacement stops. -/

/-- System with nothing but some files in its current directory. -/
def Host.holding (files : List (String × ByteArray)) : Host where
  files := ⟨files.map fun f => ([f.1], .file f.2), []⟩
  clock _ := ⟨0⟩

namespace Request.Leaves

/-- A move is one step: it is made, or nothing is. -/
theorem move (hleft : (Request.move q p).Leaves h t) : t = h.files ∨ h.files.move q p = .ok t := by
  cases hleft with
  | nothing => exact .inl rfl
  | beginning hr _ _ => cases hr
  | anything hr => cases hr
  | everything =>
      have hanswer : h.answer (.move q p) = h.update (h.files.move q p) := rfl
      rw [hanswer]
      cases h.files.move q p with
      | error e => exact .inl rfl
      | ok t => exact .inr rfl

/-- A flush leaves the files alone. -/
theorem sync (hleft : (Request.sync q).Leaves h t) : t = h.files := by
  cases hleft with
  | nothing => rfl
  | everything => rfl
  | beginning hr _ _ => cases hr
  | anything hr => cases hr

end Request.Leaves

namespace Script

theorem files_of_stops_syncEnclosing {result : Option (Except WriteFault Unit)}
    (hstops : (syncEnclosing p).run.Stops h result h') : h'.files = h.files := by
  unfold syncEnclosing at hstops
  split at hstops
  · cases hstops
    rfl
  · obtain ⟨outcome, hstops, -⟩ := stops_orFail_iff.1 hstops
    exact (leaves_of_stops hstops).sync

/-- **WHERE THE PUTTING OF DATA STOPS**: before the move, where it does not end
well, or after it. -/
theorem stops_putBytes {result : Option (Except WriteFault Unit)}
    (hstops : (putBytes p data).run.Stops h result h') :
    Within (preparationScope p) h.files h'.files ∧ result ≠ some (.ok ())
      ∨ Swapped p data h.files h'.files := by
  unfold putBytes at hstops
  cases hq : temporaryPath? p with
  | none =>
      rw [hq] at hstops
      cases hstops
      exact .inl ⟨.refl h.files, nofun⟩
  | some q =>
      rw [hq] at hstops
      have hfile : (preparationScope p).files q := hq
      have hcreate : (create q).Asks (preparationScope p).Admits := .request hfile
      have happend : (appendBytes q data).Asks (preparationScope p).Admits :=
        .request (admits_append_temporary hq hfile data)
      have hsync : (sync q).Asks (preparationScope p).Admits := .request trivial
      rcases stops_orFail_bind hstops with ⟨_, hcut, hresult⟩ | ⟨_, h₁, hcreated, hstops⟩
      · exact .inl ⟨hcreate.stops_within hcut, hresult ()⟩
      have hwithin := hcreate.stops_within hcreated
      rcases stops_orFail_bind hstops with ⟨_, hcut, hresult⟩ | ⟨_, h₂, happended, hstops⟩
      · exact .inl ⟨hwithin.trans (happend.stops_within hcut), hresult ()⟩
      have hwithin := hwithin.trans (happend.stops_within happended)
      rcases stops_orFail_bind hstops with ⟨_, hcut, hresult⟩ | ⟨_, h₃, hsynced, hstops⟩
      · exact .inl ⟨hwithin.trans (hsync.stops_within hcut), hresult ()⟩
      have hwithin := hwithin.trans (hsync.stops_within hsynced)
      -- from here on the temporary file holds all of the data
      have hswapped : ∀ t, h₃.files.move q p = .ok t → Swapped p data h.files t := by
        intro t hmove
        rw [(leaves_of_stops hsynced).sync] at hmove
        exact FileTree.swapped_of_move hq (create_of_stops hcreated)
          (append_of_stops happended) hmove
      rcases stops_orFail_bind hstops with ⟨_, hcut, hresult⟩ | ⟨_, h₄, hmoved, hstops⟩
      · rcases (leaves_of_stops hcut).move with hsame | hmove
        · exact .inl ⟨hsame ▸ hwithin, hresult ()⟩
        · exact .inr (hswapped _ hmove)
      · rw [files_of_stops_syncEnclosing hstops]
        exact .inr (hswapped _ (move_of_stops hmoved))

end Script
end EntitySchema
