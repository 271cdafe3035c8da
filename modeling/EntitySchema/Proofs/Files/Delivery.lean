/-
  EntitySchema.Proofs.Files.Delivery
  ────────────────────────────────
  **FILES DELIVERED TWICE ARE FILES DELIVERED ONCE.**

  A file that is replaced goes to its target by way of a temporary place.
  What a list of files makes of a location does not depend on what was
  there, or it is nothing at all:

      target of a file      the text that came last
      temporary place       nothing
      anywhere else         what was there before

  Of the files that version control tends nothing is said.  So the second
  delivery of a list changes nothing.  It goes through iff no directory has
  come to a temporary place: what else is in the way of a file would have been
  in the way of the first.

  Main results: `outcome_outcome`, `Delivered.append`,
  `Script.replaceFile_delivered`, `Script.exists_run_replaceFile`.
-/
import EntitySchema.Proofs.Files.ForeignCall
import EntitySchema.Proofs.Files.Rewriting

namespace EntitySchema

open EntitySchema.FileTree (EndsIn Lasting Later Ready Scope Tended Within)

variable {α : Type} {h h' : Host} {t t' t'' : FileTree} {p log : Path} {k : Location}
  {own : Location → Prop} {text : String} {ws ws' : List (Path × String)}

/-! ## §1. What deliveries make of a location. -/

/-- Where a file is put, by way of which place, and what it holds. -/
structure Delivery where
  target : Location
  temporary : Location
  data : ByteArray

namespace Delivery

variable {ds ds' : List Delivery} {x : Option FileNode}

/-- What a delivery makes of a location. -/
def outcome (d : Delivery) (k : Location) (x : Option FileNode) : Option FileNode :=
  if k = d.target then some (.file d.data) else if k = d.temporary then none else x

/-- What deliveries make of a location, one after the other. -/
def outcomes (ds : List Delivery) (k : Location) (x : Option FileNode) : Option FileNode :=
  ds.foldl (fun x d => d.outcome k x) x

theorem outcomes_cons (d : Delivery) (ds : List Delivery) (k : Location) (x : Option FileNode) :
    outcomes (d :: ds) k x = outcomes ds k (d.outcome k x) := rfl

theorem outcomes_append (ds ds' : List Delivery) (k : Location) (x : Option FileNode) :
    outcomes (ds ++ ds') k x = outcomes ds' k (outcomes ds k x) :=
  List.foldl_append

/-- Nothing, or something that does not depend on what was there, and is no
directory. -/
theorem outcomes_fixed (ds : List Delivery) (k : Location) :
    (∀ x, outcomes ds k x = x) ∨ ∃ y ≠ some .directory, ∀ x, outcomes ds k x = y := by
  -- the last delivery that touches the location decides; the first counts if no later one does
  induction ds with
  | nil => exact .inl fun _ => rfl
  | cons d ds ih =>
      rcases ih with hsame | ⟨y, hne, hy⟩
      · simp only [outcomes_cons, hsame, outcome]
        split_ifs
        · exact .inr ⟨some (.file d.data), nofun, fun _ => rfl⟩
        · exact .inr ⟨none, nofun, fun _ => rfl⟩
        · exact .inl fun _ => rfl
      · exact .inr ⟨y, hne, fun x => (outcomes_cons d ds k x).trans (hy _)⟩

/-- **WHAT WAS DELIVERED TWICE** was delivered once. -/
theorem outcomes_outcomes (ds : List Delivery) (k : Location) (x : Option FileNode) :
    outcomes ds k (outcomes ds k x) = outcomes ds k x := by
  rcases outcomes_fixed ds k with hsame | ⟨y, -, hy⟩
  · rw [hsame]
  · rw [hy, hy]

/-- What is nothing where a directory stands, or the directory itself, is
nothing where nothing stands. -/
theorem outcomes_none (h : outcomes ds k (some .directory) = none
    ∨ outcomes ds k (some .directory) = some .directory) : outcomes ds k none = none := by
  rcases outcomes_fixed ds k with hsame | ⟨y, hne, hy⟩
  · exact hsame none
  · rw [hy] at h ⊢
    exact h.resolve_right hne

theorem outcomes_of_untouched (hds : ∀ d ∈ ds, k ≠ d.target ∧ k ≠ d.temporary) :
    outcomes ds k x = x := by
  induction ds generalizing x with
  | nil => rfl
  | cons d ds ih =>
      obtain ⟨⟨htarget, htemporary⟩, hds⟩ := List.forall_mem_cons.1 hds
      have hd : d.outcome k x = x := by rw [outcome, if_neg htarget, if_neg htemporary]
      rw [outcomes_cons, hd, ih hds]

/-- Deliveries to the same places make the same of a location, unless they
put different data there. -/
theorem outcomes_congr (h : List.Forall₂ (fun d d' => d'.target = d.target
      ∧ d'.temporary = d.temporary ∧ (k = d.target → d'.data = d.data)) ds ds') :
    outcomes ds' k x = outcomes ds k x := by
  induction h generalizing x with
  | nil => rfl
  | @cons d d' ds ds' hd _ ih =>
      obtain ⟨htarget, htemporary, hdata⟩ := hd
      have hsame : d'.outcome k x = d.outcome k x := by
        rw [outcome, outcome, htarget, htemporary]
        by_cases hk : k = d.target
        · rw [if_pos hk, if_pos hk, hdata hk]
        · rw [if_neg hk, if_neg hk]
      rw [outcomes_cons, outcomes_cons, hsame, ih]

end Delivery

open Delivery (outcomes)

/-! ## §2. Files that were delivered. -/

namespace FileTree

/-- A file was delivered to a path: it is in its place, and can be replaced. -/
structure Placed (t : FileTree) (w : Path × String) (d : Delivery) : Prop where
  ready : t.Ready w.1 d.target d.temporary
  filled : ∃ data, t.get? d.target = some (.file data)
  lasting : ¬ EndsIn ".tmp" d.target
  data : d.data = w.2.toUTF8

namespace Placed

variable {w : Path × String} {d d' : Delivery}

theorem later (h : t.Placed w d) (hlater : Later t t') : t'.Placed w d := by
  obtain ⟨data, hdata⟩ := h.filled
  obtain ⟨data', hdata'⟩ := hlater.file d.target data h.lasting hdata
  exact ⟨h.ready.later hlater (by rw [hdata']; exact nofun), ⟨data', hdata'⟩, h.lasting, h.data⟩

/-- What goes to one path goes to one place. -/
theorem places_eq {w' : Path × String} (h : t.Placed w d) (h' : t.Placed w' d') (hw : w'.1 = w.1) :
    d'.target = d.target ∧ d'.temporary = d.temporary := by
  obtain ⟨htarget, htemporary⟩ := (hw ▸ h'.ready).eq h.ready
  exact ⟨htarget, htemporary⟩

end Placed

/-- A tree after files have been delivered, and nothing else has happened, but
for a log that has grown, for files of version control, and for directories
that were made where nothing would stand. -/
structure Delivered (own : Location → Prop) (log : Path) (ws : List (Path × String))
    (t t' : FileTree) : Prop extends Later t t' where
  deliveries : ∃ ds, List.Forall₂ t'.Placed ws ds
    ∧ (∀ d ∈ ds, t.get? d.temporary ≠ some .directory)
    ∧ ∀ k, ¬ own k → ¬ t'.Leads log k → t'.get? k = outcomes ds k (t.get? k)
      ∨ t'.get? k = some .directory ∧ outcomes ds k (t.get? k) = none

namespace Delivered

/-- The log grows, and directories are made. -/
theorem aside {S : Scope} (hS : ∀ p, S.files p → p = log) (h : Within S t t') :
    Delivered own log [] t t' where
  toLater := h.toLater
  deliveries := by
    refine ⟨[], .nil, nofun, fun k _ hlog => ?_⟩
    rcases h.changed k with hsame | ⟨p, hp, hleads⟩ | ⟨hnone, hmade, -⟩
    · exact .inl hsame
    · exact absurd (hS p hp ▸ hleads) hlog
    · exact .inr ⟨hmade, hnone⟩

/-- Version control tends its files. -/
theorem of_tended (h : Tended own t t') : Delivered own log [] t t' where
  toLater := h.toLater
  deliveries := ⟨[], .nil, nofun, fun k hown _ => .inl (h.same k hown)⟩

/-- **FILES AFTER OTHER FILES.** -/
theorem append (h : Delivered own log ws t t') (h' : Delivered own log ws' t' t'') :
    Delivered own log (ws ++ ws') t t'' where
  toLater := h.toLater.trans h'.toLater
  deliveries := by
    obtain ⟨ds, hplaced, hfree, hget⟩ := h.deliveries
    obtain ⟨ds', hplaced', hfree', hget'⟩ := h'.deliveries
    refine ⟨ds ++ ds', ?_, ?_, fun k hown hlog => ?_⟩
    · exact List.rel_append (hplaced.imp fun _ _ hd => hd.later h'.toLater) hplaced'
    · intro d hd hdirectory
      rcases List.mem_append.1 hd with hd | hd
      · exact hfree d hd hdirectory
      · exact hfree' d hd (h.directory _ hdirectory)
    · have hlog' : ¬ t'.Leads log k := fun hleads => hlog (h'.toLater.leads hleads)
      rw [Delivery.outcomes_append]
      rcases hget k hown hlog' with hsame | ⟨hmade, hnone⟩
      · rw [← hsame]
        exact hget' k hown hlog
      · -- a directory was made early, and stays
        have hstays := h'.directory k hmade
        refine .inr ⟨hstays, ?_⟩
        rw [hnone]
        refine Delivery.outcomes_none ?_
        have hget' := hget' k hown hlog
        rw [hmade, hstays] at hget'
        exact (hget'.imp Eq.symm And.right).symm

/-- What no file of the list goes to, nor a temporary one, stays what it is,
but for a directory that was made. -/
theorem get?_eq_or (h : Delivered own log ws t t') (hown : ¬ own k)
    (hlog : ¬ t'.Leads log k)
    (hws : ∀ w ∈ ws, ¬ t'.Leads w.1 k ∧ ∀ q, temporaryPath? w.1 = some q → ¬ t'.Leads q k) :
    t'.get? k = t.get? k ∨ t'.get? k = some .directory ∧ t.get? k = none := by
  obtain ⟨ds, hplaced, -, hget⟩ := h.deliveries
  have huntouched : outcomes ds k (t.get? k) = t.get? k := by
    refine Delivery.outcomes_of_untouched fun d hd => ?_
    obtain ⟨w, hw, hd⟩ := exists_left_of_mem hplaced d hd
    obtain ⟨hleads, htemporary⟩ := hws w hw
    obtain ⟨q, hq, hm, -⟩ := hd.ready.temporary
    constructor
    · rintro rfl
      exact hleads hd.ready.leads
    · rintro rfl
      exact htemporary q hq hm
  have hget := hget k hown hlog
  rwa [huntouched] at hget

end Delivered

/-- A path that leads to one place never leads to another. -/
theorem Leads.not_later {l : Location} (h : t.Leads p l) (hk : ¬ t.Leads p k)
    (hlater : Later t t') : ¬ t'.Leads p k := by
  intro hleads
  rw [← (hlater.leads h).eq hleads] at hk
  exact hk h

/-- Files that were delivered again go to the same places. -/
theorem Placed.forall₂_again {ds ds' : List Delivery} {W : Path × String → Path × String → Prop}
    (hws : List.Forall₂ W ws ws') (hpath : ∀ w w', W w w' → w'.1 = w.1)
    (htext : ∀ w w', W w w' → t'.Leads w.1 k → w'.2 = w.2) (hlater : Later t' t'')
    (hds : List.Forall₂ t'.Placed ws ds) (hds' : List.Forall₂ t''.Placed ws' ds') :
    List.Forall₂ (fun d d' => d'.target = d.target ∧ d'.temporary = d.temporary
      ∧ (k = d.target → d'.data = d.data)) ds ds' := by
  -- pair by pair: what goes to one path goes to one place, in the later tree as well
  induction hws generalizing ds ds' with
  | nil =>
      cases hds
      cases hds'
      exact .nil
  | @cons w w' ws ws' hw _ ih =>
      obtain _ | ⟨hd, hds⟩ := hds
      obtain _ | ⟨hd', hds'⟩ := hds'
      obtain ⟨htarget, htemporary⟩ := (hd.later hlater).places_eq hd' (hpath w w' hw)
      refine .cons ⟨htarget, htemporary, fun hk => ?_⟩ (ih hds hds')
      rw [hd.data, hd'.data, htext w w' hw (hk ▸ hd.ready.leads)]

/-- **FILES DELIVERED AGAIN** change nothing where the texts are the same. -/
theorem Delivered.again {W : Path × String → Path × String → Prop}
    (h : Delivered own log ws t t') (h' : Delivered own log ws' t' t'')
    (hws : List.Forall₂ W ws ws') (hpath : ∀ w w', W w w' → w'.1 = w.1)
    (htext : ∀ w w', W w w' → t'.Leads w.1 k → w'.2 = w.2) (hown : ¬ own k)
    (hlog : ¬ t''.Leads log k) (hk : t''.get? k = some .directory → t'.get? k = some .directory) :
    t''.get? k = t'.get? k := by
  by_cases hdirectory : t'.get? k = some .directory
  · rw [hdirectory, h'.directory k hdirectory]
  · obtain ⟨ds, hds, -, hget⟩ := h.deliveries
    obtain ⟨ds', hds', -, hget'⟩ := h'.deliveries
    have hlog' : ¬ t'.Leads log k := fun hleads => hlog (h'.toLater.leads hleads)
    have hplaces := Placed.forall₂_again hws hpath htext h'.toLater hds hds'
    have hfirst := (hget k hown hlog').resolve_right fun hmade => hdirectory hmade.1
    have hsecond := (hget' k hown hlog).resolve_right fun hmade => hdirectory (hk hmade.1)
    rw [hsecond, Delivery.outcomes_congr hplaces, hfirst, Delivery.outcomes_outcomes]

/-! ## §3. Trees where no directory comes. -/

/-- A later tree with no more directories. -/
structure Steady (t t' : FileTree) : Prop extends Later t t' where
  settled : ∀ l, t'.get? l = some .directory → t.get? l = some .directory

namespace Steady

theorem refl (t : FileTree) : Steady t t := ⟨.refl t, fun _ h => h⟩

theorem trans (h : Steady t t') (h' : Steady t' t'') : Steady t t'' :=
  ⟨h.toLater.trans h'.toLater, fun l hl => h.settled l (h'.settled l hl)⟩

end Steady

/-- Where files are tended no directory comes. -/
theorem Tended.steady (h : Tended own t t') : Steady t t' :=
  ⟨h.toLater, fun l => (h.directory_iff l).1⟩

/-- A path is open: a file can be put there, and no directory is in the place
of the temporary one. -/
def Open (t : FileTree) (p : Path) : Prop :=
  ∃ l m, t.Ready p l m ∧ t.get? m ≠ some .directory

/-- It stays open as long as no directory comes. -/
theorem Open.steady (h : t.Open p) (hsteady : Steady t t') : t'.Open p := by
  obtain ⟨l, m, hready, hm⟩ := h
  exact ⟨l, m, hready.later hsteady.toLater fun hl => hready.free (hsteady.settled l hl),
    fun hdirectory => hm (hsteady.settled m hdirectory)⟩

theorem steady_refill {l m : Location} {data : ByteArray} (hready : t.Ready p l m)
    (hm : t.get? m ≠ some .directory) : Steady t (t.refill l m data) where
  toLater := later_refill hready.free hm hready.endsIn_temporary
  settled k hk := by
    rw [get?_refill hready.free hm] at hk
    split_ifs at hk
    · cases hk
    · exact hk

theorem settled_set {l : Location} {c : ByteArray}
    (hk : (t.set l (.file c)).get? k = some .directory) : t.get? k = some .directory := by
  rw [get?_set] at hk
  split_ifs at hk
  · cases hk
  · exact hk

theorem settled_erase {l : Location} (hk : (t.erase l).get? k = some .directory) :
    t.get? k = some .directory := by
  rw [get?_erase] at hk
  split_ifs at hk
  exact hk

end FileTree

open FileTree (Delivered Open Steady)

namespace Script

/-- A request that makes no directory. -/
def Filing : Request → Prop
  | .makeDirectory _ | .git _ => False
  | _ => True

theorem settled_update {x : Except FileFault FileTree}
    (hx : ∀ t', x = .ok t' → t'.get? k = some .directory → h.files.get? k = some .directory)
    (hk : (h.update x).2.files.get? k = some .directory) : h.files.get? k = some .directory := by
  cases x with
  | error e => exact hk
  | ok t' => exact hx t' rfl hk

theorem settled_answer {r : Request} (hr : Filing r)
    (hk : (h.answer r).2.files.get? k = some .directory) : h.files.get? k = some .directory := by
  -- whatever is put somewhere is a file, and whatever is taken away leaves nothing
  cases r with
  | makeDirectory p => exact hr.elim
  | git words => exact hr.elim
  | read p => exact hk
  | find p => exact hk
  | sync p => exact hk
  | now => exact hk
  | create p =>
      refine settled_update (fun t' ht hk => ?_) hk
      obtain ⟨l, -, -, -, rfl⟩ := FileTree.create_eq_ok_iff.1 ht
      exact FileTree.settled_set hk
  | touch p =>
      refine settled_update (fun t' ht hk => ?_) hk
      obtain ⟨l, -, -, -, rfl⟩ := FileTree.touch_eq_ok_iff.1 ht
      split at hk
      · exact hk
      · exact FileTree.settled_set hk
  | append p data =>
      refine settled_update (fun t' ht hk => ?_) hk
      obtain ⟨l, c, -, rfl⟩ := FileTree.append_eq_ok_iff.1 ht
      exact FileTree.settled_set hk
  | move source target =>
      refine settled_update (fun t' ht hk => ?_) hk
      obtain ⟨l, m, c, -, -, -, -, -, -, rfl⟩ := FileTree.move_eq_ok_iff.1 ht
      exact FileTree.settled_erase (FileTree.settled_set hk)

/-- **A SCRIPT THAT MAKES NO DIRECTORY** is followed by none. -/
theorem Asks.steady {s : Script α} (hs : s.Asks Filing) (hlater : Later h.files (s.run h).2.files) :
    Steady h.files (s.run h).2.files := by
  refine ⟨hlater, fun l hl => ?_⟩
  clear hlater
  induction hs generalizing h with
  | done a => exact hl
  | ask hr _ ih => exact settled_answer hr (ih _ hl)

/-! ## §4. Replacement. -/

/-- **A FILE THAT WAS REPLACED** was delivered. -/
theorem replaceFile_delivered (hp : Lasting p)
    (hrun : (replaceFile p text).run.run h = (.ok (), h')) :
    Delivered own log [(p, text)] h.files h'.files := by
  obtain ⟨h₀, l, m, hmade, hready, hm, rfl⟩ := replaceFile_eq_ok hp hrun
  have hdirectories : Within ⟨fun _ => False, fun _ => True⟩ h.files h₀.files :=
    (asks_ensureEnclosing_in fun _ _ _ _ => trivial).within_of_run hmade
  have hget : ∀ k, (h₀.files.refill l m text.toUTF8).get? k = _ :=
    FileTree.get?_refill hready.free hm
  have htext := hget l
  rw [if_pos rfl] at htext
  have hlater : Later h₀.files (h₀.files.refill l m text.toUTF8) :=
    FileTree.later_refill hready.free hm hready.endsIn_temporary
  -- first directories are made, then the file is put to its place
  have hput : Delivered own log [(p, text)] h₀.files (h₀.files.refill l m text.toUTF8) := by
    refine ⟨hlater, [⟨l, m, text.toUTF8⟩], ?_, ?_, fun k _ _ => .inl (hget k)⟩
    · refine .cons ⟨hready.later hlater ?_, ⟨_, htext⟩, hp.not_endsIn hready.leads, rfl⟩ .nil
      rw [htext]
      exact nofun
    · intro d hd
      rw [List.mem_singleton.1 hd]
      exact hm
  exact (Delivered.aside (fun _ => False.elim) hdirectories).append hput

/-- **A FILE GOES TO A PATH THAT IS OPEN**, and no directory is made. -/
theorem exists_run_replaceFile (hp : Lasting p) (hopen : h.files.Open p) (text : String) :
    ∃ h', (replaceFile p text).run.run h = (.ok (), h') ∧ Steady h.files h'.files := by
  obtain ⟨l, m, hready, hm⟩ := hopen
  exact ⟨_, run_replaceFile hp hready hm, FileTree.steady_refill hready hm⟩

end Script
end EntitySchema
