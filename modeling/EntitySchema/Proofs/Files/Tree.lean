/-
  EntitySchema.Proofs.Files.Tree
  ────────────────────────────────
  **WHERE PATHS LEAD, AND WHAT OPERATIONS KEEP.**

  A walk meets directories only.  Directories never go away, so a path that
  leads to an entry of a directory leads there ever after, whatever files
  come and go:

      walk      directories stay        entry
      ent / schema / user.go      ⇒     the same location in every later tree

  Files stay as well, but for the locations that an operation touches.

  Main results: `Leads.keep`, and one `…_eq_ok_iff` for each operation.
-/
import EntitySchema.Files.Tree
import EntitySchema.Proofs.Path.Components
import EntitySchema.Proofs.Sequence

namespace EntitySchema.FileTree

open EntitySchema.Path (Ending exists_pieces_append)

variable {t t' t'' : FileTree} {p q : Path} {l m d : Location} {touched : Location → Prop}

/-! ## §1. What is kept. -/

/-- A later tree: the directories are there, and so are the files of all
locations but those touched. -/
structure Keeps (touched : Location → Prop) (t t' : FileTree) : Prop where
  current : t'.current = t.current
  directory : ∀ l, t.get? l = some .directory → t'.get? l = some .directory
  file : ∀ l c, ¬ touched l → t.get? l = some (.file c) → t'.get? l = some (.file c)

namespace Keeps

theorem refl (t : FileTree) : Keeps touched t t := ⟨rfl, fun _ h => h, fun _ _ _ h => h⟩

theorem trans (h : Keeps touched t t') (h' : Keeps touched t' t'') : Keeps touched t t'' where
  current := h'.current.trans h.current
  directory l hl := h'.directory l (h.directory l hl)
  file l c hl hc := h'.file l c hl (h.file l c hl hc)

theorem mono {touched' : Location → Prop} (h : Keeps touched t t')
    (himp : ∀ l, touched l → touched' l) : Keeps touched' t t' :=
  ⟨h.current, h.directory, fun l c hl => h.file l c fun htouched => hl (himp l htouched)⟩

end Keeps

theorem get?_set_self (h : t.get? l ≠ some .directory) (n : FileNode) :
    (t.set l n).get? l = some n := by
  have hl : l ≠ [] := by
    rintro rfl
    exact h rfl
  rw [get?_set, if_pos ⟨rfl, hl⟩]

theorem get?_set_of_ne (h : m ≠ l) (n : FileNode) : (t.set l n).get? m = t.get? m := by
  rw [get?_set, if_neg fun hm => h hm.1]

theorem get?_erase_of_ne (h : m ≠ l) : (t.erase l).get? m = t.get? m := by
  rw [get?_erase, if_neg fun hm => h hm.1]

/-- What is put in place of a file, or of nothing. -/
theorem keeps_set (h : t.get? l ≠ some .directory) (n : FileNode) : Keeps (· = l) t (t.set l n) where
  current := rfl
  directory m hm := by
    have hne : m ≠ l := by
      rintro rfl
      exact h hm
    rw [get?_set_of_ne hne, hm]
  file m c hne hm := by rw [get?_set_of_ne hne, hm]

/-- What is put where nothing stands. -/
theorem keeps_set_of_none (h : t.get? l = none) (n : FileNode) : Keeps touched t (t.set l n) where
  current := rfl
  directory := (keeps_set (by simp [h]) n).directory
  file m c _ hm := by
    have hne : m ≠ l := by
      rintro rfl
      rw [h] at hm
      cases hm
    rw [get?_set_of_ne hne, hm]

theorem keeps_erase (h : t.get? l ≠ some .directory) : Keeps (· = l) t (t.erase l) where
  current := rfl
  directory m hm := by
    have hne : m ≠ l := by
      rintro rfl
      exact h hm
    rw [get?_erase_of_ne hne, hm]
  file m c hne hm := by rw [get?_erase_of_ne hne, hm]

/-- What is taken away from one location and put at another. -/
theorem set_erase_kept (hl : t.get? l ≠ some .directory) (hm : t.get? m ≠ some .directory)
    (n : FileNode) : ((t.erase l).set m n).get? m = some n
      ∧ Keeps (fun k => k = l ∨ k = m) t ((t.erase l).set m n) := by
  have hfree : (t.erase l).get? m ≠ some .directory := by
    rw [get?_erase]
    split
    · exact nofun
    · exact hm
  exact ⟨get?_set_self hfree n, ((keeps_erase hl).mono fun _ => .inl).trans
    ((keeps_set hfree n).mono fun _ => .inr)⟩

/-! ## §2. Walking. -/

/-- A walk goes the same way in a later tree. -/
theorem Keeps.descend (h : Keeps touched t t') {ns : List String} (hd : t.descend l ns = .ok d) :
    t'.descend l ns = .ok d := by
  -- on the names still to walk: only a directory lets the walk go on, and that is still one
  induction ns generalizing l with
  | nil => exact hd
  | cons name ns ih =>
      rw [FileTree.descend] at hd ⊢
      obtain ⟨next, hstep, hd⟩ := bind_eq_ok_iff.1 hd
      refine bind_eq_ok_iff.2 ⟨next, hstep, ?_⟩
      cases hnext : t.get? next with
      | none =>
          rw [hnext] at hd
          cases hd
      | some n =>
          cases n with
          | file c =>
              rw [hnext] at hd
              cases hd
          | directory =>
              rw [hnext] at hd
              rw [h.directory next hnext]
              exact ih hd

theorem Keeps.origin (h : Keeps touched t t') (p : Path) : t'.origin p = t.origin p := by
  rw [FileTree.origin, FileTree.origin, h.current]

/-- A name that is no dots leads to the entry of that name. -/
theorem step_eq_ok {name : String} (hname : name ≠ "." ∧ name ≠ "..") (h : step d name = .ok l) :
    l = d ++ [name] := by
  rw [step, if_neg hname.1, if_neg hname.2] at h
  split at h
  · cases h
  · exact (Except.ok.inj h).symm

theorem place_eq_ok_iff {name : String} :
    t.place p = .ok (d, some name) ↔ checkPath p = .ok () ∧ (names p).getLast? = some name
      ∧ (name ≠ "." ∧ name ≠ "..") ∧ t.descend (t.origin p) (names p).dropLast = .ok d := by
  unfold place
  rw [bind_eq_ok_iff]
  -- without a last name the path is the root, and the root has no name
  cases hlast : (names p).getLast? with
  | none => simp [pure, Except.pure]
  | some last =>
      simp only [bind_eq_ok_iff]
      constructor
      · intro h
        obtain ⟨_, hcheck, d', hd, hname⟩ := h
        split at hname
        · cases hname
        next hdots =>
          cases hname
          exact ⟨hcheck, rfl, by simpa using hdots, hd⟩
      · intro h
        obtain ⟨hcheck, hname, hdots, hd⟩ := h
        cases hname
        exact ⟨(), hcheck, d, hd, by rw [if_neg (by simpa using hdots)]; rfl⟩

/-- What is found at a path: the root, or the entry that the last name leads
to. -/
theorem find_eq_ok_iff {n : FileNode} : t.find p = .ok (l, n)
    ↔ checkPath p = .ok () ∧ (names p = [] ∧ l = [] ∧ n = .directory
      ∨ ∃ name d, (names p).getLast? = some name
        ∧ t.descend (t.origin p) (names p).dropLast = .ok d ∧ step d name = .ok l
        ∧ t.get? l = some n ∧ (n ≠ .directory → endsInSlash p = false)) := by
  unfold find
  rw [bind_eq_ok_iff]
  -- without a last name it is the root; a file is found only without a slash behind its name
  cases hlast : (names p).getLast? with
  | none =>
      have hnil : names p = [] := List.getLast?_eq_none_iff.1 hlast
      constructor
      · intro h
        obtain ⟨_, hcheck, h⟩ := h
        cases h
        exact ⟨hcheck, .inl ⟨hnil, rfl, rfl⟩⟩
      · intro h
        obtain ⟨hcheck, ⟨-, rfl, rfl⟩ | ⟨name, d, hname, -⟩⟩ := h
        · exact ⟨(), hcheck, rfl⟩
        · cases hname
  | some name =>
      constructor
      · intro h
        obtain ⟨_, hcheck, h⟩ := h
        obtain ⟨d, hd, h⟩ := bind_eq_ok_iff.1 h
        obtain ⟨l', hstep, h⟩ := bind_eq_ok_iff.1 h
        refine ⟨hcheck, .inr ⟨name, d, rfl, hd, ?_⟩⟩
        split at h
        · cases h
        next hn =>
          cases h
          exact ⟨hstep, hn, fun hne => absurd rfl hne⟩
        next c hc =>
          split at h
          · cases h
          next hslash =>
            cases h
            exact ⟨hstep, hc, fun _ => by simpa using hslash⟩
      · intro h
        obtain ⟨hcheck, ⟨hnil, -⟩ | ⟨name', d, hname, hd, hstep, hn, hslash⟩⟩ := h
        · rw [hnil] at hlast
          cases hlast
        · cases hname
          refine ⟨(), hcheck, bind_eq_ok_iff.2 ⟨d, hd, bind_eq_ok_iff.2 ⟨l, hstep, ?_⟩⟩⟩
          rw [hn]
          cases n with
          | directory => rfl
          | file c =>
              simp only [hslash nofun]
              rfl

/-- A file that is found stands where it is found. -/
theorem file_of_find {c : ByteArray} (h : t.find p = .ok (l, .file c)) :
    t.get? l = some (.file c) := by
  obtain ⟨-, ⟨-, -, hnone⟩ | ⟨_, _, -, -, -, hc, -⟩⟩ := find_eq_ok_iff.1 h
  · cases hnone
  · exact hc

/-- What is found at a path is found there again while its kind is the
same. -/
theorem Keeps.find {n n' : FileNode} (h : Keeps touched t t') (hn : t.find p = .ok (l, n))
    (hn' : t'.get? l = some n') (hkind : n' ≠ .directory → n ≠ .directory) :
    t'.find p = .ok (l, n') := by
  obtain ⟨hcheck, ⟨hnil, rfl, rfl⟩ | ⟨name, d, hlast, hd, hstep, -, hslash⟩⟩ := find_eq_ok_iff.1 hn
  · cases hn'
    exact find_eq_ok_iff.2 ⟨hcheck, .inl ⟨hnil, rfl, rfl⟩⟩
  · refine find_eq_ok_iff.2 ⟨hcheck, .inr ⟨name, d, hlast, ?_, hstep, hn', hslash ∘ hkind⟩⟩
    rw [h.origin]
    exact h.descend hd

theorem descend_append (t : FileTree) (l : Location) (ns ms : List String) :
    t.descend l (ns ++ ms) = t.descend l ns >>= fun d => t.descend d ms := by
  -- where the walk along the first names stops, the whole walk stops for the same fault
  induction ns generalizing l with
  | nil => rfl
  | cons name ns ih =>
      rw [List.cons_append, descend, descend]
      cases hstep : step l name with
      | error e => rfl
      | ok next =>
          simp only [bind, Except.bind]
          cases hnext : t.get? next with
          | none => rfl
          | some n =>
              cases n with
              | file c => rfl
              | directory => exact ih next

/-- The last name of a path with an ending has the ending. -/
theorem exists_names_append {ending : String} (h : Ending ending) (q : Path) :
    ∃ last, (Path.pieces q.toList).getLast? = some last
      ∧ (names (q ++ ending)).getLast? = some (String.ofList last ++ ending) := by
  obtain ⟨last, hlast, happend⟩ := exists_pieces_append q.toList
  obtain ⟨c, hc, -⟩ := h.exists_undotted
  have hkept : [last ++ ending.toList].filter (fun x => !x.isEmpty) = [last ++ ending.toList] :=
    List.filter_cons_of_pos (by simp [List.ne_nil_of_mem hc])
  refine ⟨last, by rw [hlast, List.getLast?_concat], ?_⟩
  rw [names, String.toList_append, happend _ h.noSlash, List.filter_append, hkept, List.map_append,
    List.map_singleton, List.getLast?_concat, String.ofList_append, String.ofList_toList]

/-- A name with an ending is no dots. -/
theorem ne_dots_append {ending : String} (h : Ending ending) (u : String) :
    u ++ ending ≠ "." ∧ u ++ ending ≠ ".." := by
  obtain ⟨c, hc, hdot⟩ := h.exists_undotted
  have hmem : c ∈ (u ++ ending).toList := by
    rw [String.toList_append]
    exact List.mem_append_right _ hc
  constructor <;> intro heq <;> rw [heq] at hmem <;> simp [hdot] at hmem

/-- The name at the end of a location has an ending. -/
def EndsIn (ending : String) (l : Location) : Prop := ∃ u, l.getLast? = some (u ++ ending)

theorem EndsIn.not_endsIn {e e' : String} (h : EndsIn e l) (hne : ∀ u u' : String, u ++ e ≠ u' ++ e') :
    ¬ EndsIn e' l := by
  intro h'
  obtain ⟨u, hu⟩ := h
  obtain ⟨u', hu'⟩ := h'
  exact hne u u' (Option.some.inj (hu.symm.trans hu'))

/-! ## §3. Where paths lead. -/

/-- Contents are those of the file that is found. -/
theorem contents_eq_ok_iff {c : ByteArray} :
    t.contents p = .ok c ↔ ∃ l, t.find p = .ok (l, .file c) := by
  rw [contents, bind_eq_ok_iff]
  constructor
  · intro h
    obtain ⟨⟨l, n⟩, hfind, h⟩ := h
    cases n with
    | directory => cases h
    | file c' =>
        cases h
        exact ⟨l, hfind⟩
  · intro h
    obtain ⟨l, hfind⟩ := h
    exact ⟨_, hfind, rfl⟩

/-- A text is read from the file that is found. -/
theorem read_eq_ok_iff {s : String} : t.read p = .ok s
    ↔ ∃ l c, t.find p = .ok (l, .file c) ∧ String.fromUTF8? c = some s := by
  rw [read, bind_eq_ok_iff]
  constructor
  · intro h
    obtain ⟨c, hc, hs⟩ := h
    obtain ⟨l, hfind⟩ := contents_eq_ok_iff.1 hc
    split at hs
    next s' htext =>
      cases hs
      exact ⟨l, c, hfind, htext⟩
    · cases hs
  · intro h
    obtain ⟨l, c, hfind, htext⟩ := h
    refine ⟨c, contents_eq_ok_iff.2 ⟨l, hfind⟩, ?_⟩
    rw [htext]
    rfl

/-- A text that was written is read as it is. -/
theorem read_of_find {s : String} (h : t.find p = .ok (l, .file s.toUTF8)) : t.read p = .ok s :=
  read_eq_ok_iff.2 ⟨l, _, h, dif_pos s.isValidUTF8⟩

/-- A path leads to a location: to an entry of a directory, be there a file
or not. -/
def Leads (t : FileTree) (p : Path) (l : Location) : Prop :=
  ∃ d name, t.place p = .ok (d, some name) ∧ step d name = .ok l

namespace Leads

theorem eq (h : t.Leads p l) (h' : t.Leads p m) : l = m := by
  obtain ⟨d, name, hplace, hl⟩ := h
  obtain ⟨d', name', hplace', hm⟩ := h'
  cases hplace.symm.trans hplace'
  exact Except.ok.inj (hl.symm.trans hm)

/-- **A PATH LEADS WHERE IT LED**, whatever files have come and gone. -/
theorem keep (h : t.Leads p l) (hkeeps : Keeps touched t t') : t'.Leads p l := by
  obtain ⟨d, name, hplace, hl⟩ := h
  obtain ⟨hcheck, hlast, hname, hd⟩ := place_eq_ok_iff.1 hplace
  refine ⟨d, name, place_eq_ok_iff.2 ⟨hcheck, hlast, hname, ?_⟩, hl⟩
  rw [hkeeps.origin]
  exact hkeeps.descend hd

/-- The location ends in the name at the end of the path. -/
theorem getLast? (h : t.Leads p l) : l.getLast? = (names p).getLast? := by
  obtain ⟨d, name, hplace, hl⟩ := h
  obtain ⟨-, hlast, hname, -⟩ := place_eq_ok_iff.1 hplace
  rw [step_eq_ok hname hl, List.getLast?_concat, hlast]

theorem endsIn {ending : String} (h : t.Leads (q ++ ending) l) (hending : Ending ending) :
    EndsIn ending l := by
  obtain ⟨last, -, hlast⟩ := exists_names_append hending q
  exact ⟨_, h.getLast?.trans hlast⟩

/-- Paths that lead to one location name one place. -/
theorem place_eq_iff (h : t.Leads p l) (h' : t.Leads q m) : t.place p = t.place q ↔ l = m := by
  obtain ⟨d, name, hplace, hl⟩ := h
  obtain ⟨d', name', hplace', hm⟩ := h'
  obtain ⟨-, -, hname, -⟩ := place_eq_ok_iff.1 hplace
  obtain ⟨-, -, hname', -⟩ := place_eq_ok_iff.1 hplace'
  rw [hplace, hplace', step_eq_ok hname hl, step_eq_ok hname' hm]
  constructor
  · intro heq
    cases heq
    rfl
  · intro heq
    obtain ⟨rfl, hnames⟩ := List.append_inj' heq rfl
    rw [List.singleton_inj.1 hnames]

theorem find_eq {c : ByteArray} (h : t.Leads p l) (hl : t.get? l = some (.file c))
    (hslash : endsInSlash p = false) : t.find p = .ok (l, .file c) := by
  obtain ⟨d, name, hplace, hstep⟩ := h
  obtain ⟨hcheck, hlast, -, hd⟩ := place_eq_ok_iff.1 hplace
  exact find_eq_ok_iff.2 ⟨hcheck, .inr ⟨name, d, hlast, hd, hstep, hl, fun _ => hslash⟩⟩

theorem find_directory (h : t.Leads p l) (hl : t.get? l = some .directory) :
    t.find p = .ok (l, .directory) := by
  obtain ⟨d, name, hplace, hstep⟩ := h
  obtain ⟨hcheck, hlast, -, hd⟩ := place_eq_ok_iff.1 hplace
  exact find_eq_ok_iff.2 ⟨hcheck, .inr ⟨name, d, hlast, hd, hstep, hl, nofun⟩⟩

/-- A file that holds a text is read as the text. -/
theorem read_eq {s : String} (h : t.Leads p l) (hl : t.get? l = some (.file s.toUTF8))
    (hslash : endsInSlash p = false) : t.read p = .ok s := read_of_find (h.find_eq hl hslash)

end Leads

/-! ## §4. Operations. -/

theorem any_isDirectory_iff {n : Option FileNode} :
    n.any (·.isDirectory) = true ↔ n = some .directory := by
  cases n with
  | none => simp
  | some n => cases n <;> simp [FileNode.isDirectory]

/-- A directory is made where nothing stands. -/
theorem makeDirectory_eq_ok_iff : t.makeDirectory p = .ok t'
    ↔ ∃ l, t.Leads p l ∧ t.get? l = none ∧ t' = t.set l .directory := by
  unfold makeDirectory
  rw [bind_eq_ok_iff]
  constructor
  · intro h
    obtain ⟨⟨d, name⟩, hplace, h⟩ := h
    cases name with
    | none => cases h
    | some name =>
        obtain ⟨l, hstep, h⟩ := bind_eq_ok_iff.1 h
        split at h
        · cases h
        next hnone =>
          cases h
          exact ⟨l, ⟨d, name, hplace, hstep⟩, by simpa using hnone, rfl⟩
  · intro h
    obtain ⟨l, ⟨d, name, hplace, hstep⟩, hnone, rfl⟩ := h
    refine ⟨_, hplace, bind_eq_ok_iff.2 ⟨l, hstep, ?_⟩⟩
    rw [if_neg (by simp [hnone])]
    rfl

theorem keeps_of_makeDirectory (h : t.makeDirectory p = .ok t') : Keeps touched t t' := by
  obtain ⟨l, -, hnone, rfl⟩ := makeDirectory_eq_ok_iff.1 h
  exact keeps_set_of_none hnone _

theorem openForWriting_eq_ok_iff : t.openForWriting p = .ok l
    ↔ t.Leads p l ∧ endsInSlash p = false ∧ t.get? l ≠ some .directory := by
  unfold openForWriting
  rw [bind_eq_ok_iff]
  constructor
  · intro h
    obtain ⟨⟨d, name⟩, hplace, h⟩ := h
    cases name with
    | none => cases h
    | some name =>
        simp only at h
        split at h
        · cases h
        next hslash =>
          obtain ⟨l', hstep, h⟩ := bind_eq_ok_iff.1 h
          split at h
          · cases h
          next hfree =>
            cases h
            exact ⟨⟨d, name, hplace, hstep⟩, by simpa using hslash, fun heq => hfree (any_isDirectory_iff.2 heq)⟩
  · intro h
    obtain ⟨⟨d, name, hplace, hstep⟩, hslash, hfree⟩ := h
    refine ⟨_, hplace, ?_⟩
    simp only [hslash, Bool.false_eq_true, if_false]
    refine bind_eq_ok_iff.2 ⟨l, hstep, ?_⟩
    rw [if_neg fun heq => hfree (any_isDirectory_iff.1 heq)]
    rfl

/-- A file is not opened where a directory stands. -/
theorem openForWriting_eq_isDirectory (h : t.Leads p l) (hl : t.get? l = some .directory) :
    t.openForWriting p = .error .isDirectory := by
  obtain ⟨d, name, hplace, hstep⟩ := h
  rw [openForWriting, hplace]
  simp only [bind, Except.bind, hstep, any_isDirectory_iff.2 hl, if_true, ite_self]

theorem create_eq_ok_iff : t.create p = .ok t' ↔ ∃ l, t.Leads p l ∧ endsInSlash p = false
    ∧ t.get? l ≠ some .directory ∧ t' = t.set l (.file .empty) := by
  rw [create, bind_eq_ok_iff]
  simp only [openForWriting_eq_ok_iff, pure_eq_ok_iff, and_assoc, eq_comm (b := t')]

theorem touch_eq_ok_iff : t.touch p = .ok t' ↔ ∃ l, t.Leads p l ∧ endsInSlash p = false
    ∧ t.get? l ≠ some .directory
    ∧ t' = if (t.get? l).isSome then t else t.set l (.file .empty) := by
  rw [touch, bind_eq_ok_iff]
  simp only [openForWriting_eq_ok_iff, and_assoc]
  refine exists_congr fun l => and_congr_right' (and_congr_right' (and_congr_right' ?_))
  split <;> rw [pure_eq_ok_iff, eq_comm]

theorem append_eq_ok_iff {data : ByteArray} : t.append p data = .ok t'
    ↔ ∃ l c, t.find p = .ok (l, .file c) ∧ t' = t.set l (.file (c ++ data)) := by
  rw [append, bind_eq_ok_iff]
  constructor
  · intro h
    obtain ⟨⟨l, n⟩, hfind, h⟩ := h
    cases n with
    | directory => cases h
    | file c =>
        cases h
        exact ⟨l, c, hfind, rfl⟩
  · intro h
    obtain ⟨l, c, hfind, rfl⟩ := h
    exact ⟨_, hfind, rfl⟩

/-- A file is moved to where no directory stands. -/
theorem move_eq_ok_iff {source target : Path} : t.move source target = .ok t'
    ↔ ∃ l m c, t.Leads source l ∧ t.get? l = some (.file c) ∧ endsInSlash source = false
      ∧ t.Leads target m ∧ endsInSlash target = false ∧ t.get? m ≠ some .directory
      ∧ t' = (t.erase l).set m (.file c) := by
  unfold move
  rw [bind_eq_ok_iff]
  constructor
  · intro h
    obtain ⟨⟨d, name⟩, hsource, h⟩ := h
    obtain ⟨⟨e, other⟩, htarget, h⟩ := bind_eq_ok_iff.1 h
    -- faults in their order: names, what stands at the source, slashes, what stands at the target
    cases name with
    | none => cases h
    | some name =>
        cases other with
        | none => cases h
        | some other =>
            obtain ⟨l, hl, h⟩ := bind_eq_ok_iff.1 h
            split at h
            · cases h
            · cases h
            next c hc =>
              obtain ⟨m, hm, h⟩ := bind_eq_ok_iff.1 h
              split at h
              · cases h
              next hslash =>
                split at h
                · cases h
                next hfree =>
                  cases h
                  simp only [Bool.or_eq_true, not_or, Bool.not_eq_true] at hslash
                  exact ⟨l, m, c, ⟨d, name, hsource, hl⟩, hc, hslash.1, ⟨e, other, htarget, hm⟩,
                    hslash.2, fun heq => hfree (any_isDirectory_iff.2 heq), rfl⟩
  · intro h
    obtain ⟨l, m, c, ⟨d, name, hsource, hl⟩, hc, hslash, ⟨e, other, htarget, hm⟩, hslash', hfree,
      rfl⟩ := h
    refine ⟨_, hsource, bind_eq_ok_iff.2 ⟨_, htarget, bind_eq_ok_iff.2 ⟨l, hl, ?_⟩⟩⟩
    rw [hc]
    refine bind_eq_ok_iff.2 ⟨m, hm, ?_⟩
    rw [if_neg (by simp [hslash, hslash']), if_neg fun heq => hfree (any_isDirectory_iff.1 heq)]
    rfl

/-- A created file is empty. -/
theorem exists_created (h : t.create p = .ok t') :
    ∃ l, t.Leads p l ∧ endsInSlash p = false ∧ t'.get? l = some (.file .empty)
      ∧ Keeps (· = l) t t' := by
  obtain ⟨l, hleads, hslash, hfree, rfl⟩ := create_eq_ok_iff.1 h
  exact ⟨l, hleads, hslash, get?_set_self hfree _, keeps_set hfree _⟩

/-- A file holds what it held, and what is appended behind it. -/
theorem appended {c data : ByteArray} (h : t.append p data = .ok t') (hp : t.Leads p l)
    (hl : t.get? l = some (.file c)) (hslash : endsInSlash p = false) :
    t'.get? l = some (.file (c ++ data)) ∧ Keeps (· = l) t t' := by
  have hfree : t.get? l ≠ some .directory := by simp [hl]
  obtain ⟨l', c', hfind, rfl⟩ := append_eq_ok_iff.1 h
  cases (hp.find_eq hl hslash).symm.trans hfind
  exact ⟨get?_set_self hfree _, keeps_set hfree _⟩

/-- What is found at a path that does not end in dots lies where it leads. -/
theorem leads_of_find {name : String} {n : FileNode} (h : t.find p = .ok (l, n))
    (hlast : (names p).getLast? = some name) (hname : name ≠ "." ∧ name ≠ "..") :
    t.Leads p l ∧ t.get? l = some n := by
  obtain ⟨hcheck, ⟨hnil, -⟩ | ⟨name', d, hlast', hd, hstep, hn, -⟩⟩ := find_eq_ok_iff.1 h
  · rw [hnil] at hlast
    cases hlast
  · cases hlast.symm.trans hlast'
    exact ⟨⟨d, name, place_eq_ok_iff.2 ⟨hcheck, hlast, hname, hd⟩, hstep⟩, hn⟩

theorem getLast?_of_find {name : String} {n : FileNode} (h : t.find p = .ok (l, n))
    (hlast : (names p).getLast? = some name) (hname : name ≠ "." ∧ name ≠ "..") :
    l.getLast? = some name := by
  rw [(leads_of_find h hlast hname).1.getLast?, hlast]

/-- An append touches the location that the path ends at. -/
theorem keeps_of_append {name : String} {data : ByteArray} (h : t.append p data = .ok t')
    (hlast : (names p).getLast? = some name) (hname : name ≠ "." ∧ name ≠ "..") :
    Keeps (fun l => l.getLast? = some name) t t' := by
  obtain ⟨l, c, hfind, rfl⟩ := append_eq_ok_iff.1 h
  obtain ⟨hleads, hc⟩ := leads_of_find hfind hlast hname
  refine (keeps_set (by simp [hc]) _).mono fun m hm => ?_
  rw [hm, hleads.getLast?, hlast]

/-- A moved file is at the target with what it held. -/
theorem exists_moved {source target : Path} (h : t.move source target = .ok t') :
    ∃ l m c, t.Leads source l ∧ t.get? l = some (.file c)
      ∧ t'.Leads target m ∧ endsInSlash target = false ∧ t'.get? m = some (.file c)
      ∧ Keeps (fun k => k = l ∨ k = m) t t' := by
  obtain ⟨l, m, c, hsource, hc, -, htarget, hslash, hfree, rfl⟩ := move_eq_ok_iff.1 h
  obtain ⟨hget, hkeeps⟩ := set_erase_kept (l := l) (by simp [hc]) hfree (.file c)
  exact ⟨l, m, c, hsource, hc, htarget.keep hkeeps, hslash, hget, hkeeps⟩

end EntitySchema.FileTree
