/-
  EntitySchema.Proofs.Files.Rewriting
  ────────────────────────────────
  **A FILE THAT WAS PUT TO ITS PLACE CAN BE PUT THERE AGAIN.**

  Where a path leads to an entry of a directory, that directory need not be
  made.  So nothing but a directory can be in the way of a replacement, one
  at the target or one at the place of the temporary file:

      at the temporary place    a directory        refused, nothing changes
                                anything else      the text at the target,
                                                   nothing here

  Main results: `Script.putFile_eq_ok_iff`, `Script.run_replaceFile`,
  `Script.replaceFile_eq_ok`.
-/
import EntitySchema.Proofs.Files.Confinement
import EntitySchema.Proofs.Path.Parent

namespace EntitySchema

open EntitySchema.FileTree (EndsIn Keeps Later Scope Within checkPath endsInSlash names pathLimit step)
open EntitySchema.Path (Called Idle solid)

variable {h h' : Host} {t t' : FileTree} {p q d : Path} {l m k : Location} {name text : String}

namespace FileTree

/-! ## §1. The directory of a file. -/

theorem names_eq (p : Path) : names p = (solid (Path.pieces p.toList)).map String.ofList := rfl

theorem names_eq_of_called {ps : List (List Char)} (hname : Path.FileName name)
    (hlast : Path.pieces p.toList = ps ++ [name.toList]) :
    names p = (solid ps).map String.ofList ++ [name] := by
  have hkept : solid [name.toList] = [name.toList] :=
    List.filter_cons_of_pos (by simpa using hname.ne_empty)
  rw [names_eq, hlast, Path.solid_append, hkept, List.map_append, List.map_singleton,
    String.ofList_toList]

theorem getLast?_names (h : Called p name) : (names p).getLast? = some name := by
  obtain ⟨hname, ps, hlast⟩ := h
  rw [names_eq_of_called hname hlast, List.getLast?_concat]

/-- A path that ends in a name does not end in a slash. -/
theorem endsInSlash_eq_false (h : Called p name) : endsInSlash p = false := by
  obtain ⟨hname, ps, hlast⟩ := h
  rw [endsInSlash, decide_eq_false_iff_not]
  intro hslash
  obtain ⟨u, hu⟩ := List.getLast?_eq_some_iff.1 hslash
  -- behind a slash at the end there is an empty piece
  rw [hu, Path.pieces_append_slash] at hlast
  have hnil : [] = name.toList := List.singleton_inj.1 (List.append_inj' hlast rfl).2
  exact hname.ne_empty (String.toList_eq_nil_iff.1 hnil.symm)

theorem checkPath_eq_ok_iff :
    checkPath p = .ok () ↔ '\x00' ∉ p.toList ∧ p ≠ "" ∧ p.utf8ByteSize ≤ pathLimit := by
  unfold checkPath
  split_ifs with hzero hempty hlong
  · simp_all
  · simp_all
  · simp [hlong]
  · simp_all

theorem checkPath_of_append {rest : String} (h : checkPath (q ++ rest) = .ok ()) (hq : q ≠ "") :
    checkPath q = .ok () := by
  obtain ⟨hzero, -, hlength⟩ := checkPath_eq_ok_iff.1 h
  rw [String.toList_append, List.mem_append, not_or] at hzero
  rw [String.utf8ByteSize_append] at hlength
  exact checkPath_eq_ok_iff.2 ⟨hzero.1, hq, by omega⟩

theorem isAbsolute_of_append {rest : String} (hq : q ≠ "") :
    Path.isAbsolute (q ++ rest) = Path.isAbsolute q := by
  obtain ⟨c, u, hc⟩ := List.exists_cons_of_ne_nil (by simpa using hq : q.toList ≠ [])
  rw [Path.isAbsolute, Path.isAbsolute, String.toList_append, hc]
  rfl

/-- A walk that has gone all the way has found a directory. -/
theorem find_of_descend (hcheck : checkPath q = .ok ())
    (h : t.descend (t.origin q) (names q) = .ok l) : ∃ k, t.find q = .ok (k, .directory) := by
  rcases List.eq_nil_or_concat (names q) with hnil | ⟨init, last, hnames⟩
  · exact ⟨[], find_eq_ok_iff.2 ⟨hcheck, .inl ⟨hnil, rfl, rfl⟩⟩⟩
  · rw [hnames, List.concat_eq_append, descend_append] at h
    obtain ⟨e, he, h⟩ := bind_eq_ok_iff.1 h
    obtain ⟨next, hstep, h⟩ := bind_eq_ok_iff.1 h
    refine ⟨next, find_eq_ok_iff.2 ⟨hcheck, .inr ⟨last, e, ?_, ?_, hstep, ?_, nofun⟩⟩⟩
    · rw [hnames, List.concat_eq_append, List.getLast?_concat]
    · rw [hnames, List.concat_eq_append, List.dropLast_concat, he]
    · split at h
      · cases h
      · cases h
      next hnext => exact hnext

/-- **THE DIRECTORY THAT A FILE LIES IN IS THERE** where a path leads to the
file. -/
theorem Leads.find_enclosing (h : t.Leads p l) (hp : Called p name) (hd : enclosing? p = some d) :
    ∃ k, t.find d = .ok (k, .directory) := by
  obtain ⟨hname, ps, hlast⟩ := hp
  obtain ⟨hparent, hne⟩ := Option.filter_eq_some_iff.1 hd
  have hne : d ≠ "" := by simpa using hne
  obtain ⟨⟨rest, rfl⟩, idle, hidle, hsolid⟩ :=
    Path.precedes_of_parent? hlast hname.normal hparent
  obtain ⟨e, last, hplace, -⟩ := h
  obtain ⟨hcheck, -, -, he⟩ := place_eq_ok_iff.1 hplace
  rw [names_eq_of_called hname hlast, List.dropLast_concat, hsolid, List.map_append, ← names_eq,
    descend_append] at he
  obtain ⟨e', he', -⟩ := bind_eq_ok_iff.1 he
  refine find_of_descend (l := e') (checkPath_of_append hcheck hne) ?_
  rw [← he', origin, origin, isAbsolute_of_append hne]

/-- A path can be walked to its end: it names a directory, or is empty. -/
def Walkable (t : FileTree) (d : Path) : Prop := ∃ k, t.descend (t.origin d) (names d) = .ok k

theorem walkable_of_find (h : t.find d = .ok (k, .directory)) : t.Walkable d := by
  obtain ⟨-, ⟨hnil, -, -⟩ | ⟨last, e, hlast, he, hstep, hk, -⟩⟩ := find_eq_ok_iff.1 h
  · exact ⟨t.origin d, by rw [hnil]; rfl⟩
  · obtain ⟨init, hnames⟩ := List.getLast?_eq_some_iff.1 hlast
    rw [hnames, List.dropLast_concat] at he
    refine ⟨k, ?_⟩
    rw [hnames, descend_append]
    refine bind_eq_ok_iff.2 ⟨e, he, bind_eq_ok_iff.2 ⟨k, hstep, ?_⟩⟩
    rw [hk]
    rfl

theorem walkable_empty (t : FileTree) : t.Walkable "" := ⟨t.origin "", rfl⟩

theorem Later.walkable (h : Later t t') (hd : t.Walkable d) : t'.Walkable d := by
  obtain ⟨k, hk⟩ := hd
  refine ⟨k, ?_⟩
  rw [h.keeps.origin]
  exact h.keeps.descend hk

theorem names_join (hname : Path.FileName name) (d : Path) :
    names (Path.join d name) = names d ++ [name] := by
  obtain ⟨ps, hlast, hsolid⟩ := hname.exists_pieces_join d
  rw [names_eq_of_called hname hlast, hsolid, names_eq]

/-- The directory that is named before a file in a directory can be walked
to. -/
theorem walkable_enclosing {q : Path} (hname : Path.FileName name) (hd : t.Walkable d)
    (hq : enclosing? (Path.join d name) = some q) : t.Walkable q := by
  obtain ⟨hparent, hne⟩ := Option.filter_eq_some_iff.1 hq
  have hne : q ≠ "" := by simpa using hne
  obtain ⟨ps, hlast, hnames⟩ := hname.exists_pieces_join d
  obtain ⟨⟨rest, hrest⟩, idle, -, hsolid⟩ := Path.precedes_of_parent? hlast hname.normal hparent
  obtain ⟨k, hk⟩ := hd
  rw [names_eq, ← hnames, hsolid, List.map_append, ← names_eq, descend_append] at hk
  obtain ⟨e, he, -⟩ := bind_eq_ok_iff.1 hk
  refine ⟨e, ?_⟩
  have habsolute : Path.isAbsolute q = Path.isAbsolute d := by
    rw [← Path.isAbsolute_join (d := d) hname.isAbsolute_eq, hrest, isAbsolute_of_append hne]
  rw [← he, origin, origin, habsolute]

/-- A path leads beside another one if its name is not longer. -/
theorem Leads.exists_beside {name' : String} (h : t.Leads (Path.join d name) l)
    (hname : Path.FileName name) (hname' : Path.FileName name') (hzero : '\x00' ∉ name'.toList)
    (hlength : name'.utf8ByteSize ≤ name.utf8ByteSize) : ∃ k, t.Leads (Path.join d name') k := by
  obtain ⟨e, last, hplace, hstep⟩ := h
  obtain ⟨hcheck, hlast, hdots, he⟩ := place_eq_ok_iff.1 hplace
  rw [names_join hname, List.getLast?_concat] at hlast
  cases hlast
  rw [names_join hname, List.dropLast_concat] at he
  obtain ⟨stem, hstem⟩ := Path.exists_join_eq d
  -- the paths differ in their names alone, and a name that is no longer fits where the other does
  have hcheck' : checkPath (Path.join d name') = .ok () := by
    rw [hstem _ hname.isAbsolute_eq] at hcheck
    rw [hstem _ hname'.isAbsolute_eq]
    obtain ⟨hstemZero, -, hlimit⟩ := checkPath_eq_ok_iff.1 hcheck
    rw [String.toList_append, List.mem_append, not_or] at hstemZero
    rw [String.utf8ByteSize_append] at hlimit
    refine checkPath_eq_ok_iff.2 ⟨?_, ?_, ?_⟩
    · rw [String.toList_append, List.mem_append, not_or]
      exact ⟨hstemZero.1, hzero⟩
    · exact fun hnil => hname'.ne_empty (String.append_eq_empty_iff.1 hnil).2
    · rw [String.utf8ByteSize_append]
      omega
  have hstep' : step e name' = .ok (e ++ [name']) := by
    rw [step, if_neg hdots.1, if_neg hdots.2] at hstep
    rw [step, if_neg hname'.ne_dots.1, if_neg hname'.ne_dots.2]
    split_ifs at hstep with hlimit
    rw [if_neg (by omega)]
  refine ⟨_, e, name', place_eq_ok_iff.2 ⟨hcheck', ?_, hname'.ne_dots, ?_⟩, hstep'⟩
  · rw [names_join hname', List.getLast?_concat]
  · rw [names_join hname', List.dropLast_concat, ← he, origin, origin,
      Path.isAbsolute_join hname.isAbsolute_eq, Path.isAbsolute_join hname'.isAbsolute_eq]

/-- A directory that is there is not made. -/
theorem makeDirectory_of_find (h : t.find p = .ok (l, .directory)) :
    t.makeDirectory p = .error .alreadyExists := by
  obtain ⟨hcheck, ⟨hnil, -, -⟩ | ⟨last, e, hlast, he, hstep, hl, -⟩⟩ := find_eq_ok_iff.1 h
  · rw [makeDirectory, place, hcheck, hnil]
    rfl
  · rw [makeDirectory, place, hcheck, hlast]
    simp only [bind, Except.bind, he]
    split_ifs with hdots
    · rfl
    · simp [pure, Except.pure, hstep, hl]

/-- A directory stands at the end of a path. -/
def DirectoryAt (t : FileTree) (p : Path) : Prop := ∃ k, t.find p = .ok (k, .directory)

theorem directoryAt_iff (hl : t.Leads p l) : t.DirectoryAt p ↔ t.get? l = some .directory := by
  constructor
  · intro h
    obtain ⟨d, name, hplace, hstep⟩ := hl
    obtain ⟨hcheck, hlast, hdots, hd⟩ := place_eq_ok_iff.1 hplace
    obtain ⟨k, hk⟩ := h
    obtain ⟨hk, hget⟩ := leads_of_find hk hlast hdots
    rwa [hk.eq ⟨d, name, hplace, hstep⟩] at hget
  · intro h
    exact ⟨l, hl.find_directory h⟩

theorem directoryAt_of_kind
    (h : ((t.find p).toOption.map fun found => Host.kindOf found.2) = some .directory) :
    t.DirectoryAt p := by
  obtain ⟨⟨k, n⟩, hfound, hn⟩ := Option.map_eq_some_iff.1 h
  cases n with
  | directory => exact ⟨k, toOption_eq_some_iff.1 hfound⟩
  | file _ => cases hn

/-! ## §2. Room for a file. -/

/-- A file can be put to a path: the path leads to an entry that is no
directory, and so does that of the temporary file, if a directory is not in
the way there. -/
structure Ready (t : FileTree) (p : Path) (l m : Location) : Prop where
  leads : t.Leads p l
  noSlash : endsInSlash p = false
  free : t.get? l ≠ some .directory
  temporary : ∃ q, temporaryPath? p = some q ∧ t.Leads q m ∧ endsInSlash q = false

namespace Ready

theorem endsIn_temporary (h : t.Ready p l m) : EndsIn ".tmp" m := by
  obtain ⟨q, hq, hm, -⟩ := h.temporary
  obtain ⟨q, rfl⟩ := Script.temporaryPath?_eq_some hq
  exact hm.endsIn {}

theorem eq {l' m' : Location} (h : t.Ready p l m) (h' : t.Ready p l' m') : l = l' ∧ m = m' := by
  obtain ⟨q, hq, hm, -⟩ := h.temporary
  obtain ⟨q', hq', hm', -⟩ := h'.temporary
  cases hq.symm.trans hq'
  exact ⟨h.leads.eq h'.leads, hm.eq hm'⟩

theorem later (h : t.Ready p l m) (hlater : Later t t') (hfree : t'.get? l ≠ some .directory) :
    t'.Ready p l m := by
  obtain ⟨q, hq, hm, hslash⟩ := h.temporary
  exact ⟨hlater.leads h.leads, h.noSlash, hfree, q, hq, hlater.leads hm, hslash⟩

end Ready

/-- A path whose file is to stay: it ends in a name that is not the name of
a temporary file. -/
def Lasting (p : Path) : Prop := ∃ name, Called p name ∧ ∀ u : String, name ≠ u ++ ".tmp"

theorem Lasting.not_endsIn (hp : Lasting p) (h : t.Leads p l) : ¬ EndsIn ".tmp" l := by
  obtain ⟨name, hcalled, hname⟩ := hp
  rintro ⟨u, hu⟩
  rw [h.getLast?, getLast?_names hcalled] at hu
  exact hname u (Option.some.inj hu)

theorem Lasting.ne (hp : Lasting p) (h : t.Ready p l m) : l ≠ m := by
  rintro rfl
  exact hp.not_endsIn h.leads h.endsIn_temporary

/-- The tree with data at one place that went by way of another place. -/
def refill (t : FileTree) (l m : Location) (data : ByteArray) : FileTree :=
  (((t.set m (.file .empty)).set m (.file data)).erase m).set l (.file data)

theorem get?_refill {data : ByteArray} (hl : t.get? l ≠ some .directory)
    (hm : t.get? m ≠ some .directory) (k : Location) :
    (t.refill l m data).get? k
      = if k = l then some (.file data) else if k = m then none else t.get? k := by
  have hroot : ∀ {n}, t.get? n ≠ some .directory → n ≠ [] := by
    rintro n hn rfl
    exact hn rfl
  rw [refill, get?_set, get?_erase, get?_set, get?_set]
  by_cases hkl : k = l
  · rw [if_pos ⟨hkl, by rw [hkl]; exact hroot hl⟩, if_pos hkl]
  · by_cases hkm : k = m
    · rw [if_neg fun h => hkl h.1, if_pos ⟨hkm, by rw [hkm]; exact hroot hm⟩, if_neg hkl, if_pos hkm]
    · simp [hkl, hkm]

theorem later_refill {data : ByteArray} (hl : t.get? l ≠ some .directory)
    (hm : t.get? m ≠ some .directory) (htemporary : EndsIn ".tmp" m) :
    Later t (t.refill l m data) where
  current := rfl
  directory k hk := by
    have hkl : k ≠ l := fun heq => hl (heq ▸ hk)
    have hkm : k ≠ m := fun heq => hm (heq ▸ hk)
    rw [get?_refill hl hm, if_neg hkl, if_neg hkm, hk]
  file k c hk hc := by
    rw [get?_refill hl hm]
    split_ifs with hkl hkm
    · exact ⟨data, rfl⟩
    · exact absurd (hkm ▸ htemporary) hk
    · exact ⟨c, hc⟩

end FileTree

open FileTree (Ready Lasting)

/-! ## §3. Directories. -/

/-- A path is the first of its ancestors. -/
theorem exists_ancestors (d : Path) : ∃ outer, d.ancestors = d :: outer := by
  unfold Path.ancestors
  cases d.components.length with
  | zero => exact ⟨[], rfl⟩
  | succ n =>
      rw [Path.ancestorsUpTo]
      split
      · exact ⟨[], rfl⟩
      · exact ⟨_, rfl⟩

namespace Script

theorem exists_run_isDirectory (p : Path) (h : Host) : ∃ there, (isDirectory p).run h = (there, h)
    ∧ (there = true ↔ ∃ k, h.files.find p = .ok (k, .directory)) := by
  refine ⟨decide ((h.files.find p).toOption.map (fun found => Host.kindOf found.2)
    = some .directory), rfl, decide_eq_true_iff.trans ?_⟩
  rcases h.files.find p with e | ⟨k, n⟩
  · simp [Except.toOption]
  · cases n <;> simp [Except.toOption, Host.kindOf]

/-- A directory that is there is not made. -/
theorem run_ensureDirectories_of_find (hd : h.files.find d = .ok (k, .directory))
    (outer : List Path) : (ensureDirectories (d :: outer)).run h = (.ok (), h) := by
  have hmake : (makeDirectory d).run h = (.error .alreadyExists, h) := by
    have hanswer : (makeDirectory d).run h = h.update (h.files.makeDirectory d) := rfl
    rw [hanswer, FileTree.makeDirectory_of_find hd]
    rfl
  obtain ⟨there, hthere, hiff⟩ := exists_run_isDirectory d h
  rw [ensureDirectories]
  split
  · rfl
  · rw [run_bind, hmake]
    simp only [run_bind, hthere, hiff.2 ⟨k, hd⟩, if_true]
    rfl

/-- Nor is anything made along a path that can be walked to its end. -/
theorem run_ensureDirectories_of_walkable (hd : h.files.Walkable d) (outer : List Path) :
    ((ensureDirectories (d :: outer)).run h).2 = h := by
  cases hcheck : checkPath d with
  | ok _ =>
      obtain ⟨k, hk⟩ := hd
      obtain ⟨k, hfind⟩ := FileTree.find_of_descend hcheck hk
      rw [run_ensureDirectories_of_find hfind]
  | error e =>
      have hmake : (makeDirectory d).run h = (.error e, h) := by
        have hanswer : (makeDirectory d).run h = h.update (h.files.makeDirectory d) := rfl
        rw [hanswer, FileTree.makeDirectory, FileTree.place, hcheck]
        rfl
      obtain ⟨there, hthere, -⟩ := exists_run_isDirectory d h
      rw [ensureDirectories]
      split_ifs with hempty
      · rfl
      · rw [run_bind, hmake]
        split
        next heq => cases heq
        next heq =>
          -- a path is not found for its text alone if it is empty
          cases heq
          unfold checkPath at hcheck
          split_ifs at hcheck <;> cases hcheck
        · rw [run_bind, hthere]
          cases there <;> rfl

/-- A directory that was made is found. -/
theorem exists_find_of_makeDirectory (hrun : (makeDirectory d).run h = (.ok (), h')) :
    ∃ k, h'.files.find d = .ok (k, .directory) := by
  have hmade : h.files.makeDirectory d = .ok h'.files := update_eq_ok hrun
  obtain ⟨l, hl, hnone, htree⟩ := FileTree.makeDirectory_eq_ok_iff.1 hmade
  have hkeeps : FileTree.Keeps (fun _ => True) h.files h'.files :=
    FileTree.keeps_of_makeDirectory hmade
  refine ⟨l, (hl.keep hkeeps).find_directory ?_⟩
  rw [htree, FileTree.get?_set_self (by simp [hnone])]

/-- A directory that is there, or was made, is found. -/
theorem exists_find_of_isDirectory {e : FileFault} (hrun : (do
      if ← isDirectory d then return .ok () else return .error e
      : Script (Except FileFault Unit)).run h = (.ok (), h')) :
    ∃ k, h'.files.find d = .ok (k, .directory) := by
  obtain ⟨there, hthere, hiff⟩ := exists_run_isDirectory d h
  rw [run_bind, hthere] at hrun
  cases there with
  | false => cases hrun
  | true =>
      cases hrun
      exact hiff.1 rfl

theorem ensureDirectory_ok (hrun : (ensureDirectory d).run h = (.ok (), h')) :
    ∃ k, h'.files.find d = .ok (k, .directory) := by
  rw [ensureDirectory, run_bind] at hrun
  rcases hmake : (makeDirectory d).run h with ⟨result, h₁⟩
  rw [hmake] at hrun
  cases result with
  | ok _ =>
      cases hrun
      exact exists_find_of_makeDirectory hmake
  | error e => exact exists_find_of_isDirectory hrun

/-- **DIRECTORIES THAT WERE ENSURED ARE THERE.** -/
theorem ensureDirectories_ok {outer : List Path} (hd : d ≠ "")
    (hrun : (ensureDirectories (d :: outer)).run h = (.ok (), h')) :
    ∃ k, h'.files.find d = .ok (k, .directory) := by
  rw [ensureDirectories, if_neg (by simpa using hd), run_bind] at hrun
  rcases hmake : (makeDirectory d).run h with ⟨result, h₁⟩
  rw [hmake] at hrun
  simp only at hrun
  -- it was made at once, or after the outer ones, or it was there
  split at hrun
  · cases hrun
    exact exists_find_of_makeDirectory hmake
  · rw [run_bind] at hrun
    rcases houter : (ensureDirectories outer).run h₁ with ⟨result, h₂⟩
    rw [houter] at hrun
    cases result with
    | error e => cases hrun
    | ok _ => exact ensureDirectory_ok hrun
  · exact exists_find_of_isDirectory hrun

/-- Directories that were ensured need not be made again. -/
theorem run_ensureDirectories_again {h₁ : Host}
    (hrun : (ensureDirectories d.ancestors).run h = (.ok (), h'))
    (hlater : Later h'.files h₁.files) : (ensureDirectories d.ancestors).run h₁ = (.ok (), h₁) := by
  obtain ⟨outer, houter⟩ := exists_ancestors d
  rw [houter] at hrun ⊢
  by_cases hd : d = ""
  · rw [hd, ensureDirectories]
    rfl
  · obtain ⟨k, hk⟩ := ensureDirectories_ok hd hrun
    obtain ⟨-, ⟨-, rfl, -⟩ | ⟨_, _, -, -, -, hdirectory, -⟩⟩ := FileTree.find_eq_ok_iff.1 hk
    · exact run_ensureDirectories_of_find (hlater.keeps.find hk rfl (absurd rfl)) outer
    · exact run_ensureDirectories_of_find
        (hlater.keeps.find hk (hlater.directory k hdirectory) (absurd rfl)) outer

end Script

/-! ## §4. Files. -/

namespace FileTree

/-- Where a file stands no directory has come or gone. -/
theorem keeps_of_set_file (h : t.get? l ≠ some .directory) (c : ByteArray) :
    Keeps (fun _ => True) (t.set l (.file c)) t where
  current := rfl
  directory m hm := by
    have hne : m ≠ l := by
      rintro rfl
      rw [get?_set_self h] at hm
      cases hm
    rwa [get?_set_of_ne hne] at hm
  file _ _ hm := absurd trivial hm

/-- **WHEN A FILE IS CREATED, FILLED AND MOVED**, and what the tree is then. -/
theorem refilled_iff (hp : Lasting p) (hq : temporaryPath? p = some q) {data : ByteArray} :
    (∃ t₁ t₂, t.create q = .ok t₁ ∧ t₁.append q data = .ok t₂ ∧ t₂.move q p = .ok t')
      ↔ ∃ l m, t.Ready p l m ∧ t.get? m ≠ some .directory ∧ t' = t.refill l m data := by
  constructor
  · intro h
    obtain ⟨t₁, t₂, hcreate, happend, hmove⟩ := h
    -- each step works on the location that the step before it has left
    obtain ⟨m, hm, hslash, hfree, rfl⟩ := create_eq_ok_iff.1 hcreate
    have hempty : (t.set m (.file .empty)).get? m = some (.file .empty) := get?_set_self hfree _
    have hm₁ := (later_set hfree .empty).leads hm
    obtain ⟨_, _, hfind, rfl⟩ := append_eq_ok_iff.1 happend
    cases (hm₁.find_eq hempty hslash).symm.trans hfind
    have hfree₁ : (t.set m (.file .empty)).get? m ≠ some .directory := by simp [hempty]
    rw [ByteArray.empty_append] at hmove
    obtain ⟨_, l, c, hm₂, hc, -, hl, hslash', hfree₂, rfl⟩ := move_eq_ok_iff.1 hmove
    cases hm₂.eq ((later_set hfree₁ data).leads hm₁)
    cases hc.symm.trans (get?_set_self hfree₁ _)
    refine ⟨l, m, ⟨?_, hslash', ?_, q, hq, hm, hslash⟩, hfree, rfl⟩
    · exact (hl.keep (keeps_of_set_file hfree₁ data)).keep (keeps_of_set_file hfree .empty)
    · exact fun hl => hfree₂ ((later_set hfree₁ data).directory l ((later_set hfree .empty).directory l hl))
  · intro h
    obtain ⟨l, m, hready, hfree, rfl⟩ := h
    have hne := hp.ne hready
    obtain ⟨q', hq', hm, hslash⟩ := hready.temporary
    cases hq.symm.trans hq'
    have hempty : (t.set m (.file .empty)).get? m = some (.file .empty) := get?_set_self hfree _
    have hfree₁ : (t.set m (.file .empty)).get? m ≠ some .directory := by simp [hempty]
    have hlater := (later_set hfree .empty).trans (later_set hfree₁ data)
    have hm₁ := (later_set hfree .empty).leads hm
    refine ⟨_, _, create_eq_ok_iff.2 ⟨m, hm, hslash, hfree, rfl⟩,
      append_eq_ok_iff.2 ⟨m, .empty, hm₁.find_eq hempty hslash, rfl⟩,
      move_eq_ok_iff.2 ⟨m, l, data, ?_, ?_, hslash, ?_, hready.noSlash, ?_, ?_⟩⟩
    · rw [ByteArray.empty_append]
      exact hlater.leads hm
    · rw [ByteArray.empty_append, get?_set_self hfree₁]
    · rw [ByteArray.empty_append]
      exact hlater.leads hready.leads
    · rw [get?_set_of_ne hne, get?_set_of_ne hne]
      exact hready.free
    · rw [ByteArray.empty_append]
      rfl

end FileTree

namespace Script

/-- **WHEN A FILE IS PUT TO A PATH**, and what the system is then. -/
theorem putFile_eq_ok_iff (hp : Lasting p) : (putFile p text).run.run h = (.ok (), h')
    ↔ ∃ l m, h.files.Ready p l m ∧ h.files.get? m ≠ some .directory
      ∧ h' = { h with files := h.files.refill l m text.toUTF8 } := by
  unfold putFile
  cases hq : temporaryPath? p with
  | none =>
      rw [run_putBytes_none hq]
      refine iff_of_false nofun ?_
      rintro ⟨l, m, hready, -⟩
      obtain ⟨q, hq', -⟩ := hready.temporary
      rw [hq] at hq'
      cases hq'
  | some q =>
      rw [run_putBytes hq]
      constructor
      · intro hrun
        obtain ⟨_, h₁, hcreate, hrun⟩ := run_bind_eq_ok_iff.1 hrun
        obtain ⟨_, h₂, happend, hmove⟩ := run_bind_eq_ok_iff.1 hrun
        obtain ⟨t₁, ht₁, rfl⟩ := update_eq_ok_iff.1 (run_orFail_eq_ok_iff.1 hcreate)
        obtain ⟨t₂, ht₂, rfl⟩ := update_eq_ok_iff.1 (run_orFail_eq_ok_iff.1 happend)
        obtain ⟨t₃, ht₃, rfl⟩ := update_eq_ok_iff.1 (run_orFail_eq_ok_iff.1 hmove)
        obtain ⟨l, m, hready, hfree, rfl⟩ :=
          (FileTree.refilled_iff hp hq).1 ⟨t₁, t₂, ht₁, ht₂, ht₃⟩
        exact ⟨l, m, hready, hfree, rfl⟩
      · intro hready
        obtain ⟨l, m, hready, hfree, rfl⟩ := hready
        obtain ⟨t₁, t₂, hcreate, happend, hmove⟩ :=
          (FileTree.refilled_iff hp hq).2 ⟨l, m, hready, hfree, rfl⟩
        refine run_bind_eq_ok_iff.2 ⟨(), { h with files := t₁ }, ?_, ?_⟩
        · exact run_orFail_eq_ok_iff.2 (update_eq_ok_iff.2 ⟨t₁, hcreate, rfl⟩)
        · refine run_bind_eq_ok_iff.2 ⟨(), { h with files := t₂ }, ?_, ?_⟩
          · exact run_orFail_eq_ok_iff.2 (update_eq_ok_iff.2 ⟨t₂, happend, rfl⟩)
          · exact run_orFail_eq_ok_iff.2 (update_eq_ok_iff.2 ⟨_, hmove, rfl⟩)

/-- A file is not opened where a directory stands. -/
theorem run_touch_of_directory (hl : h.files.Leads p l) (hdirectory : h.files.get? l = some .directory) :
    (touch p).run h = (.error .isDirectory, h) := by
  have hanswer : (touch p).run h = h.update (h.files.touch p) := rfl
  rw [hanswer, FileTree.touch, FileTree.openForWriting_eq_isDirectory hl hdirectory]
  rfl

/-- Anywhere else it is. -/
theorem exists_run_touch (hl : h.files.Leads p l) (hslash : endsInSlash p = false)
    (hfree : h.files.get? l ≠ some .directory) : ∃ h', (touch p).run h = (.ok (), h') := by
  have htouch := FileTree.touch_eq_ok_iff.2 ⟨l, hl, hslash, hfree, rfl⟩
  exact ⟨_, update_eq_ok_iff.2 ⟨_, htouch, rfl⟩⟩

/-- A file that was opened is there. -/
theorem touch_ok (hrun : (touch p).run h = (.ok (), h')) :
    ∃ l c, h'.files.Leads p l ∧ h'.files.get? l = some (.file c) := by
  obtain ⟨l, hl, -, hfree, htree⟩ := FileTree.touch_eq_ok_iff.1 (update_eq_ok hrun)
  rw [htree]
  cases hget : h.files.get? l with
  | none => exact ⟨l, .empty, (FileTree.later_set hfree _).leads hl, FileTree.get?_set_self hfree _⟩
  | some n =>
      cases n with
      | directory => exact absurd hget hfree
      | file c => exact ⟨l, c, hl, hget⟩

/-- A directory in the place of the temporary file keeps a file from being
put, and nothing changes. -/
theorem run_putFile_of_directory (hready : h.files.Ready p l m)
    (hm : h.files.get? m = some .directory) :
    (putFile p text).run.run h = (.error (.file .isDirectory), h) := by
  obtain ⟨q, hq, hleads, -⟩ := hready.temporary
  have hcreate : ((create q).orFail WriteFault.file).run.run h
      = (.error (.file .isDirectory), h) := by
    have hanswer : (create q).run h = h.update (h.files.create q) := rfl
    rw [run_orFail, hanswer, FileTree.create, FileTree.openForWriting_eq_isDirectory hleads hm]
    rfl
  rw [putFile, run_putBytes hq, ExceptT.run_bind, run_bind, hcreate]
  rfl

/-- The directory of a file that a path leads to need not be made. -/
theorem run_ensureEnclosing (hp : Lasting p) (hl : h.files.Leads p l) :
    (ensureEnclosing p).run.run h = (.ok (), h) := by
  obtain ⟨name, hcalled, -⟩ := hp
  unfold ensureEnclosing
  split
  · rfl
  next d hd =>
    obtain ⟨k, hk⟩ := hl.find_enclosing hcalled hd
    refine run_orFail_eq_ok_iff.2 ?_
    obtain ⟨outer, houter⟩ := exists_ancestors d
    rw [houter, run_ensureDirectories_of_find hk]

/-- **A FILE IS REPLACED WHERE THERE IS ROOM FOR IT**, but for a directory in
the place of the temporary file. -/
theorem run_replaceFile (hp : Lasting p) (hready : h.files.Ready p l m)
    (hm : h.files.get? m ≠ some .directory) : (replaceFile p text).run.run h
      = (.ok (), { h with files := h.files.refill l m text.toUTF8 }) :=
  run_bind_eq_ok_iff.2 ⟨(), h, run_ensureEnclosing hp hready.leads,
    (putFile_eq_ok_iff hp).2 ⟨l, m, hready, hm, rfl⟩⟩

theorem run_replaceFile_of_directory (hp : Lasting p) (hready : h.files.Ready p l m)
    (hm : h.files.get? m = some .directory) :
    (replaceFile p text).run.run h = (.error (.file .isDirectory), h) :=
  run_bind_eq_error_iff.2 (.inr ⟨(), h, run_ensureEnclosing hp hready.leads,
    run_putFile_of_directory hready hm⟩)

theorem run_ensureDirectories_ancestors (hd : h.files.Walkable d) :
    ((ensureDirectories d.ancestors).run h).2 = h := by
  obtain ⟨outer, houter⟩ := exists_ancestors d
  rw [houter]
  exact run_ensureDirectories_of_walkable hd outer

/-- Replacing a file in a directory that is there makes no directory. -/
theorem within_replaceFile {S : Scope} (hname : Path.FileName name) (hd : h.files.Walkable d)
    (hp : S.files (Path.join d name))
    (htemporary : ∀ q, temporaryPath? (Path.join d name) = some q → S.files q) :
    Within S h.files ((replaceFile (Path.join d name) text).run.run h).2.files := by
  have hmade : ((ensureEnclosing (Path.join d name)).run.run h).2 = h := by
    unfold ensureEnclosing
    split
    · rfl
    next q hq =>
      rw [run_orFail]
      exact run_ensureDirectories_ancestors (FileTree.walkable_enclosing hname hd hq)
  rw [replaceFile, replaceBytes, ExceptT.run_bind, run_bind, hmade]
  split
  · exact (asks_putFile hp htemporary text).within h
  · exact .refl h.files

/-- A file that was replaced was put where there was room for it, once its
directory had been made. -/
theorem replaceFile_eq_ok (hp : Lasting p)
    (hrun : (replaceFile p text).run.run h = (.ok (), h')) :
    ∃ h₀ l m, (ensureEnclosing p).run.run h = (.ok (), h₀) ∧ h₀.files.Ready p l m
      ∧ h₀.files.get? m ≠ some .directory
      ∧ h' = { h₀ with files := h₀.files.refill l m text.toUTF8 } := by
  obtain ⟨_, h₀, hmade, hput⟩ := run_bind_eq_ok_iff.1 hrun
  obtain ⟨l, m, hready, hm, rfl⟩ := (putFile_eq_ok_iff hp).1 hput
  exact ⟨h₀, l, m, hmade, hready, hm, rfl⟩

/-- A file that was replaced can be replaced again, and nothing is left of the
temporary one. -/
theorem replaceFile_ready (hp : Lasting p)
    (hrun : (replaceFile p text).run.run h = (.ok (), h')) :
    ∃ l m, h'.files.Ready p l m ∧ h'.files.get? l = some (.file text.toUTF8)
      ∧ h'.files.get? m = none := by
  obtain ⟨h₀, l, m, -, hready, hm, rfl⟩ := replaceFile_eq_ok hp hrun
  have htext : (h₀.files.refill l m text.toUTF8).get? l = some (.file text.toUTF8) := by
    rw [FileTree.get?_refill hready.free hm, if_pos rfl]
  refine ⟨l, m, hready.later ?_ (by rw [htext]; exact nofun), htext, ?_⟩
  · exact FileTree.later_refill hready.free hm hready.endsIn_temporary
  · rw [FileTree.get?_refill hready.free hm, if_neg (hp.ne hready).symm, if_pos rfl]

end Script
end EntitySchema
