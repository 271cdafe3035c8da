/-
  EntitySchema.Proofs.Run.Rerun
  ────────────────────────────────
  **A RUN AFTER A COMPLETED RUN.**

  When a run is completed, every path that it writes is open, unless it has
  made a directory in the place of a temporary file itself.  Settings and
  input are what they were if no path that was written leads to them, and
  version control does not keep them for its own.  So the run can be done
  again, with the same product, and what it delivers is there already:

      settings, input     the same           nothing of the run leads there
      product             the same
      files               delivered again    the same texts, the same places

  Main results: `CompletedRun.product_again`, `CompletedRun.exists_again`,
  `CompletedRun.get?_again`.
-/
import EntitySchema.Proofs.Run.Outputs

namespace EntitySchema

open EntitySchema.FileTree (Delivered DirectoryAt EndsIn Later Open Placed Steady)

variable {h h' h₁ h₂ : Host} {t t' : FileTree} {p q : Path} {k l : Location} {wording : Wording}
  {runId runId' : String} {a : CompileArguments} {r : ActiveRun} {s : Settings}
  {own : Location → Prop}

/-! ## §1. Settings. -/

/-- Settings are those of the text that is read. -/
theorem run_readSettings (p : Path) (h : Host) : (readSettings p).run.run h
    = (((h.files.read p).mapError RunFault.io).bind
        fun text => (Settings.parse? text).elim (.error (.config text)) .ok, h) := by
  have hread : ((Script.read p).orFail RunFault.io).run.run h
      = ((h.files.read p).mapError RunFault.io, h) := Script.run_orFail _ _ _
  rw [readSettings, ExceptT.run_bind, Script.run_bind, hread]
  rcases h.files.read p with e | text
  · rfl
  · simp only [Except.mapError, Except.bind]
    rcases Settings.parse? text with _ | s <;> rfl

theorem run_loadSettings_some (p : Path) (h : Host) :
    (loadSettings (some p)).run.run h = (readSettings p).run.run h := rfl

/-- Without a file of its own a run reads the default one if there is one. -/
theorem run_loadSettings_none (h : Host) : (loadSettings none).run.run h
    = match h.files.find Settings.defaultPath with
      | .error _ => (.ok {}, h)
      | .ok _ => (readSettings Settings.defaultPath).run.run h := by
  rw [loadSettings, Script.run_lift_bind]
  have hpath : (settingsPath none).run h
      = ((h.files.find Settings.defaultPath).toOption.map fun _ => Settings.defaultPath, h) := by
    rw [settingsPath, Script.run_bind]
    have hfind : (Script.find Settings.defaultPath).run h
        = ((h.files.find Settings.defaultPath).toOption.map fun found => Host.kindOf found.2, h) :=
      rfl
    rw [hfind, Script.run_pure, Option.map_map]
    rfl
  rw [hpath]
  rcases h.files.find Settings.defaultPath with e | found <;> rfl

theorem names_default : FileTree.names Settings.defaultPath = [Settings.defaultPath] := by
  decide +kernel

/-- Default settings are found under their name. -/
theorem getLast?_of_default {n : FileNode} (hfind : t.find Settings.defaultPath = .ok (k, n)) :
    k.getLast? = some Settings.defaultPath :=
  FileTree.getLast?_of_find hfind (by rw [names_default]; rfl) (by decide)

/-- Their path leads to where they are found. -/
theorem leads_default {n : FileNode} (hfind : t.find Settings.defaultPath = .ok (k, n)) :
    t.Leads Settings.defaultPath k := by
  have hlast : (FileTree.names Settings.defaultPath).getLast? = some Settings.defaultPath := by
    rw [names_default]
    rfl
  exact (FileTree.leads_of_find hfind hlast (by decide)).1

/-- They lie in the current directory, so nothing else is on the way to them. -/
theorem find_default_of_file {c : ByteArray} (hcurrent : t.current = t'.current)
    (hfind : t'.find Settings.defaultPath = .ok (k, .file c))
    (hc : t.get? k = some (.file c)) : t.find Settings.defaultPath = .ok (k, .file c) := by
  obtain ⟨hcheck, ⟨-, -, hnone⟩ | ⟨name, d, hlast, hd, hstep, -, hslash⟩⟩ :=
    FileTree.find_eq_ok_iff.1 hfind
  · cases hnone
  · refine FileTree.find_eq_ok_iff.2 ⟨hcheck, .inr ⟨name, d, hlast, ?_, hstep, hc, hslash⟩⟩
    rw [names_default] at hd ⊢
    rw [FileTree.origin, hcurrent]
    exact hd

/-- No settings are read from a directory. -/
theorem read_of_directory {l : Location} (h : t.find p = .ok (l, .directory)) :
    t.read p = .error .isDirectory := by
  rw [FileTree.read, FileTree.contents, h]
  rfl

/-! ## §2. Paths of a completed run. -/

namespace CompletedRun

variable (S : CompletedRun wording runId a h h₁)

/-- Files that a completed run replaces: its manifest, the model, and what is
generated. -/
def Replaces (p : Path) : Prop :=
  p = Path.join a.out "manifest.json" ∨ p = Path.join a.out "ir.json"
    ∨ ∃ f ∈ S.product.files, p = Path.join a.out f.path

/-- Files that it writes: these, temporary ones, and the log. -/
def Writes (p : Path) : Prop :=
  p = Path.join a.out "logs.ndjson" ∨ ∃ q, S.Replaces q ∧ (p = q ∨ temporaryPath? q = some p)

/-- It leads no path that it writes to where another one is found, and version
control does not keep that place for its own. -/
def Spares (own : Location → Prop) (t : FileTree) (p : Path) : Prop :=
  ∀ l n, t.find p = .ok (l, n) → ¬ own l ∧ ∀ q, S.Writes q → ¬ h₁.files.Leads q l

/-- It has made no directory in the place of a temporary file. -/
def Clear : Prop :=
  ∀ p q, S.Replaces p → temporaryPath? p = some q → ¬ h₁.files.DirectoryAt q

/-- Nothing of it leads to a location, nor is the location one of version
control. -/
def Unwritten (own : Location → Prop) (k : Location) : Prop :=
  ¬ own k ∧ ∀ p, S.Writes p → ¬ h₁.files.Leads p k

variable {S}

theorem replaces_iff (last : String) : S.Replaces p
    ↔ ∃ w ∈ S.active.context.outputs S.product ++ [(S.active.context.manifestPath, last)],
      w.1 = p := by
  rw [Replaces, ← S.outDir_eq]
  simp only [RunContext.outputs, RunContext.generated, List.cons_append, List.mem_cons,
    List.mem_append, List.mem_map, List.not_mem_nil, or_false, exists_eq_or_imp]
  constructor
  · rintro (rfl | rfl | ⟨f, hf, rfl⟩)
    · exact .inr ⟨_, .inr rfl, rfl⟩
    · exact .inl rfl
    · exact .inr ⟨_, .inl ⟨f, hf, rfl⟩, rfl⟩
  · rintro (rfl | ⟨w, ⟨f, hf, rfl⟩ | rfl, rfl⟩)
    · exact .inr (.inl rfl)
    · exact .inr (.inr ⟨f, hf, rfl⟩)
    · exact .inl rfl

theorem replaces_of_output {w : Path × String} (hw : w ∈ S.active.context.outputs S.product) :
    S.Replaces w.1 :=
  (replaces_iff "").2 ⟨w, List.mem_append_left _ hw, rfl⟩

theorem replaces_of_delivery {first last : String} {w : Path × String}
    (hw : w ∈ S.active.context.deliveries S.product first last) : S.Replaces w.1 := by
  rcases List.mem_cons.1 hw with rfl | hw
  · exact (replaces_iff first).2 ⟨_, List.mem_append_right _ List.mem_cons_self, rfl⟩
  · exact (replaces_iff last).2 ⟨w, hw, rfl⟩

/-- What it replaces is in its place. -/
theorem exists_placed (hp : S.Replaces p) : ∃ w d, w.1 = p ∧ h₁.files.Placed w d := by
  obtain ⟨last, hdelivered⟩ := S.delivered_since fun _ => False
  obtain ⟨ds, hplaced, -⟩ := hdelivered.deliveries
  obtain ⟨w, hw, hwp⟩ := (replaces_iff _).1 hp
  obtain ⟨d, -, hd⟩ := exists_right_of_mem hplaced w hw
  exact ⟨w, d, hwp, hd⟩

theorem later_begun : Later S.begun.files h₁.files := by
  obtain ⟨last, hdelivered⟩ := S.delivered_since fun _ => False
  exact hdelivered.toLater

theorem logged : Logged S.active.context h₁.files := (beginRun_marked S.begins).2.later S.later_begun

/-- What it writes leads somewhere. -/
theorem exists_leads (hp : S.Writes p) : ∃ l, h₁.files.Leads p l := by
  rcases hp with rfl | ⟨q, hq, hp⟩
  · obtain ⟨k, data, hk, -⟩ := S.logged
    rw [← S.outDir_eq]
    exact ⟨k, hk⟩
  · obtain ⟨w, d, rfl, hd⟩ := exists_placed hq
    rcases hp with rfl | hp
    · exact ⟨_, hd.ready.leads⟩
    · obtain ⟨q, hq, hm, -⟩ := hd.ready.temporary
      cases hp.symm.trans hq
      exact ⟨_, hm⟩

namespace Unwritten

/-- Nothing of it will lead there. -/
theorem later (hk : S.Unwritten own k) (hlater : Later h₁.files t) (hp : S.Writes p) :
    ¬ t.Leads p k := by
  obtain ⟨l, hl⟩ := exists_leads hp
  exact hl.not_later (hk.2 p hp) hlater

/-- What is delivered to its paths does not come there. -/
theorem get?_eq_or {ws : List (Path × String)} (hk : S.Unwritten own k)
    (hdelivered : Delivered own (Path.join a.out "logs.ndjson") ws t t')
    (hws : ∀ w ∈ ws, S.Replaces w.1) (hlater : Later h₁.files t') :
    t'.get? k = t.get? k ∨ t'.get? k = some .directory ∧ t.get? k = none := by
  refine hdelivered.get?_eq_or hk.1 (hk.later hlater (.inl rfl)) fun w hw => ⟨?_, fun q hq => ?_⟩
  · exact hk.later hlater (.inr ⟨w.1, hws w hw, .inl rfl⟩)
  · exact hk.later hlater (.inr ⟨w.1, hws w hw, .inr hq⟩)

theorem file {ws : List (Path × String)} {c : ByteArray} (hk : S.Unwritten own k)
    (hdelivered : Delivered own (Path.join a.out "logs.ndjson") ws t t')
    (hws : ∀ w ∈ ws, S.Replaces w.1) (hlater : Later h₁.files t')
    (hc : t.get? k = some (.file c)) : t'.get? k = some (.file c) := by
  rcases hk.get?_eq_or hdelivered hws hlater with hsame | ⟨-, hnone⟩
  · rw [hsame, hc]
  · rw [hc] at hnone
    cases hnone

end Unwritten

theorem log_eq : S.active.context.logPath = Path.join a.out "logs.ndjson" := by
  rw [← S.outDir_eq]
  rfl

/-- What is not written stays what it was before the run, but for a directory
that was made. -/
theorem get?_eq_or_of_unwritten (hgit : h.GitTouchesOnly own) (hk : S.Unwritten own k) :
    h₁.files.get? k = h.files.get? k
      ∨ h₁.files.get? k = some .directory ∧ h.files.get? k = none := by
  obtain ⟨last, hdelivered⟩ := S.delivered hgit
  rw [log_eq] at hdelivered
  exact hk.get?_eq_or hdelivered (fun _ => replaces_of_delivery) (.refl h₁.files)

/-- A file that is not written stays what it was before the run. -/
theorem file_of_unwritten {c : ByteArray} (hgit : h.GitTouchesOnly own) (hk : S.Unwritten own k)
    (hc : h.files.get? k = some (.file c)) : h₁.files.get? k = some (.file c) := by
  obtain ⟨last, hdelivered⟩ := S.delivered hgit
  rw [log_eq] at hdelivered
  exact hk.file hdelivered (fun _ => replaces_of_delivery) (.refl h₁.files) hc

/-- Or when its work began. -/
theorem file_since_of_unwritten {c : ByteArray} (hk : S.Unwritten own k)
    (hc : S.begun.files.get? k = some (.file c)) : h₁.files.get? k = some (.file c) := by
  obtain ⟨last, hdelivered⟩ := S.delivered_since own
  rw [log_eq] at hdelivered
  exact hk.file hdelivered (fun w hw => (replaces_iff last).2 ⟨w, hw, rfl⟩) (.refl h₁.files) hc

/-! ## §3. Settings and input of the next run. -/

theorem later (S : CompletedRun wording runId a h h₁) (hgit : h.GitTouchesOnly own) :
    Later h.files h₁.files := by
  obtain ⟨last, hdelivered⟩ := S.delivered hgit
  exact hdelivered.toLater

/-- After it version control touches what it touched before. -/
theorem gitTouchesOnly (S : CompletedRun wording runId a h h₁) (hgit : h.GitTouchesOnly own) :
    h₁.GitTouchesOnly own := ((hgit.of_run S.begins).of_run S.works).of_run S.ends

/-- **THE INPUT IS READ AGAIN** when the next run has begun. -/
theorem reads_again (hgit : h.GitTouchesOnly own) (hinput : S.Spares own S.begun.files a.input)
    (hbegin : (beginRun runId' a).run.run h₁ = (.ok r, h')) : h'.files.read a.input = .ok S.text := by
  have hcontext := (beginRun_ok hbegin).2.1
  have hdelivered := beginRun_delivered (S.gitTouchesOnly hgit) hbegin
  have hlog : r.context.logPath = Path.join a.out "logs.ndjson" := by rw [hcontext]; rfl
  have hmanifest : r.context.manifestPath = Path.join a.out "manifest.json" := by
    rw [hcontext]; rfl
  rw [hlog, hmanifest] at hdelivered
  refine (S.later_begun.trans hdelivered.toLater).read (fun k c hfind hc => ?_) S.reads
  have hk : S.Unwritten own k := hinput k _ hfind
  refine hk.file hdelivered (fun w hw => ?_) hdelivered.toLater (file_since_of_unwritten hk hc)
  rw [List.mem_singleton.1 hw]
  exact .inl rfl

/-- Nothing that a run writes leads to a name that none of its files has. -/
theorem unwritten_of_name {name : String} (hown : ¬ own k) (hk : k.getLast? = some name)
    (hnamed : name ∉ ["logs.ndjson", "manifest.json", "ir.json"])
    (htemporary : ∀ u : String, u ++ ".tmp" ≠ name)
    (hgenerated : ∀ ending, LastingEnding ending → ∀ u : String, u ++ ending ≠ name) :
    S.Unwritten own k := by
  have hdiffer : ∀ {p called}, called ∈ ["logs.ndjson", "manifest.json", "ir.json"] →
      Path.Called p called → ¬ h₁.files.Leads p k := by
    intro p called hcalled hp hleads
    rw [hleads.getLast?, FileTree.getLast?_names hp] at hk
    exact hnamed (Option.some.inj hk ▸ hcalled)
  have hending : ∀ {q ending}, Path.Ending ending → (∀ u : String, u ++ ending ≠ name) →
      ¬ h₁.files.Leads (q ++ ending) k := by
    intro q ending hending hne hleads
    obtain ⟨u, hu⟩ := hleads.endsIn hending
    exact hne u (Option.some.inj (hu.symm.trans hk))
  -- the log, files under names of their own, generated files and temporary ones by their endings
  refine ⟨hown, ?_⟩
  rintro p (rfl | ⟨q, hq, rfl | hp⟩)
  · exact hdiffer (by simp) (Path.called_join {} _)
  · rcases hq with rfl | rfl | ⟨f, hf, rfl⟩
    · exact hdiffer (by simp) (Path.called_join RunContext.manifest_fileName _)
    · exact hdiffer (by simp) (Path.called_join {} _)
    · obtain ⟨q, ending, hlasting, hpath⟩ := S.lasts f hf
      rw [hpath, Path.join_append hlasting.toEnding]
      exact hending hlasting.toEnding (hgenerated ending hlasting)
  · obtain ⟨q, rfl⟩ := Script.temporaryPath?_eq_some hp
    exact hending {} htemporary

/-- Nothing of a run is called like the default settings. -/
theorem unwritten_of_settings (hown : ¬ own k) (hk : k.getLast? = some Settings.defaultPath) :
    S.Unwritten own k :=
  unwritten_of_name hown hk (by decide) (Path.append_ne (by decide))
    fun _ hlasting => hlasting.notSettings

theorem settings_read : (loadSettings a.config).run.run h = (.ok S.active.settings, h) :=
  (beginRun_ok S.begins).1

/-- Settings that were read are read again from a file that is not
written. -/
theorem readSettings_again (hgit : h.GitTouchesOnly own)
    (hp : ∀ k c, h.files.find p = .ok (k, .file c) → S.Unwritten own k)
    (hsettings : (readSettings p).run.run h = (.ok s, h)) :
    (readSettings p).run.run h₁ = (.ok s, h₁) := by
  rw [run_readSettings, Prod.mk.injEq] at hsettings
  obtain ⟨text, htext, hparse⟩ := bind_eq_ok_iff.1 hsettings.1
  have htext := (S.later hgit).read
    (fun k c hfind hc => file_of_unwritten hgit (hp k c hfind) hc)
    (mapError_eq_ok_iff.1 htext)
  rw [run_readSettings, htext]
  exact Prod.ext hparse rfl

/-- Default settings that were not there have not come, unless a directory
has. -/
theorem default_missing_again (S : CompletedRun wording runId a h h₁) {e : FileFault}
    (hgit : h.GitTouchesOnly own)
    (hown : ∀ l, h₁.files.Leads Settings.defaultPath l → ¬ own l)
    (hfind : h.files.find Settings.defaultPath = .error e)
    (hdefault : ¬ h₁.files.DirectoryAt Settings.defaultPath) :
    ∃ e', h₁.files.find Settings.defaultPath = .error e' := by
  cases hagain : h₁.files.find Settings.defaultPath with
  | error e' => exact ⟨e', rfl⟩
  | ok found =>
      obtain ⟨k, n⟩ := found
      cases n with
      | directory => exact absurd ⟨k, hagain⟩ hdefault
      | file c =>
          -- the run has put no file there, so it was found before
          have hc := FileTree.file_of_find hagain
          have hsame := get?_eq_or_of_unwritten hgit
            (unwritten_of_settings (S := S) (hown k (leads_default hagain))
              (getLast?_of_default hagain))
          rw [hc] at hsame
          have hfound := find_default_of_file (S.later hgit).current.symm hagain
            (hsame.resolve_right fun hmade => by cases hmade.1).symm
          cases hfind.symm.trans hfound

/-- **SETTINGS ARE READ AGAIN** unless a directory has come in the place of
the default ones. -/
theorem settings_again (hgit : h.GitTouchesOnly own)
    (hconfig : ∀ p, a.config = some p → S.Spares own h.files p)
    (hown : a.config = none → ∀ l, h₁.files.Leads Settings.defaultPath l → ¬ own l)
    (hdefault : a.config = none → ¬ h₁.files.DirectoryAt Settings.defaultPath) :
    (loadSettings a.config).run.run h₁ = (.ok S.active.settings, h₁) := by
  have hsettings := S.settings_read
  cases hc : a.config with
  | some p =>
      rw [hc, run_loadSettings_some] at hsettings
      exact readSettings_again hgit (fun k c hfind => hconfig p hc k _ hfind) hsettings
  | none =>
      rw [hc, run_loadSettings_none] at hsettings
      rw [run_loadSettings_none]
      cases hfind : h.files.find Settings.defaultPath with
      | ok found =>
          rw [hfind] at hsettings
          have hagain := readSettings_again (S := S) hgit
            (fun k c hfound => unwritten_of_settings
              (hown hc k ((S.later hgit).leads (leads_default hfound)))
              (getLast?_of_default hfound)) hsettings
          rw [hagain]
          -- what was read was found
          rw [run_readSettings, Prod.mk.injEq] at hagain
          obtain ⟨text, htext, -⟩ := bind_eq_ok_iff.1 hagain.1
          obtain ⟨k, c, hfound, -⟩ := FileTree.read_eq_ok_iff.1 (mapError_eq_ok_iff.1 htext)
          rw [hfound]
      | error e =>
          rw [hfind] at hsettings
          obtain ⟨e', hmissing⟩ := S.default_missing_again hgit (hown hc) hfind (hdefault hc)
          rw [hmissing]
          exact Prod.ext (Prod.mk.inj hsettings).1 rfl

/-! ## §4. The next run. -/

/-- What a completed run replaces is open to the next one, if no directory was
made in the place of a temporary file. -/
theorem open_of_clear (hclear : S.Clear) (hp : S.Replaces p) : h₁.files.Open p := by
  obtain ⟨w, d, rfl, hd⟩ := exists_placed hp
  obtain ⟨q, hq, hm, -⟩ := hd.ready.temporary
  refine ⟨d.target, d.temporary, hd.ready, fun hdirectory => ?_⟩
  exact hclear w.1 q hp hq ((FileTree.directoryAt_iff hm).2 hdirectory)

/-- The next run works on the same text, under the same settings, so it has
the same product. -/
theorem product_again (hgit : h.GitTouchesOnly own)
    (hinput : S.Spares own S.begun.files a.input)
    (hsettings : (loadSettings a.config).run.run h₁ = (.ok S.active.settings, h₁))
    (S' : CompletedRun wording runId' a h₁ h₂) : S'.product = S.product := by
  have htext : S'.text = S.text :=
    Except.ok.inj (S'.reads.symm.trans (reads_again hgit hinput S'.begins))
  have hsame : S'.active.settings = S.active.settings :=
    Except.ok.inj (Prod.mk.inj (S'.settings_read.symm.trans hsettings)).1
  have hproduct := S'.produces
  rw [htext, hsame, S.produces] at hproduct
  exact (Except.ok.inj hproduct).symm

/-- **THE NEXT RUN GOES THROUGH** where no directory was made in the way. -/
theorem exists_again (hgit : h.GitTouchesOnly own)
    (hinput : S.Spares own S.begun.files a.input)
    (hsettings : (loadSettings a.config).run.run h₁ = (.ok S.active.settings, h₁))
    (hclear : S.Clear) (runId' : String) :
    ∃ h₂, (compileRun wording runId' a).run.run h₁ = (.ok (), h₂) ∧ Steady h₁.files h₂.files := by
  have hmanifest : S.Replaces (Path.join a.out "manifest.json") := .inl rfl
  obtain ⟨g, g', hmade, hlater⟩ := beginRun_directory hgit S.begins
  rw [S.outDir_eq] at hmade
  have hdirectory : ∀ looks, (Script.ensureDirectories a.out.ancestors).run { h₁ with looks }
      = (.ok (), { h₁ with looks }) := fun looks =>
    Script.run_ensureDirectories_again hmade (hlater.trans S.later_begun)
  have hlogged := S.logged
  rw [Logged, log_eq] at hlogged
  -- the beginning
  obtain ⟨r, hb, hbegin, hbegun⟩ := exists_run_beginRun_of_open runId' (S.gitTouchesOnly hgit)
    hsettings hdirectory (open_of_clear hclear hmanifest) hlogged
  obtain ⟨hsettings', hcontext, -⟩ := beginRun_ok hbegin
  have hsame : r.settings = S.active.settings :=
    Except.ok.inj (Prod.mk.inj (hsettings'.symm.trans hsettings)).1
  have houtDir := outDir_of_begin hbegin
  -- the work
  have hread : hb.files.read r.context.input = .ok S.text := by
    rw [hcontext]
    exact reads_again hgit hinput hbegin
  have hproduct : (Product.ofInput r.settings r.context.modelOnly S.text).result
      = .ok S.product := by
    rw [hsame, hcontext]
    exact S.produces
  have hopen : ∀ w ∈ r.context.outputs S.product, hb.files.Open w.1 := by
    intro w hw
    rw [outputs_congr (houtDir.trans S.outDir_eq.symm)] at hw
    exact (open_of_clear hclear (replaces_of_output hw)).steady hbegun
  obtain ⟨outcome, hw, hwork, hworked⟩ := exists_run_execute hread hproduct hopen
  -- the end
  have hlast : hw.files.Open r.context.manifestPath := by
    rw [RunContext.manifestPath, houtDir]
    exact (open_of_clear hclear hmanifest).steady (hbegun.trans hworked)
  obtain ⟨h₂, hend, hended⟩ := exists_run_conclude wording hlast outcome
  refine ⟨h₂, ?_, hbegun.trans (hworked.trans hended)⟩
  rw [run_compileRun hbegin hwork, hend]
  rfl

/-- A run that goes through has found no directory in the way. -/
theorem clear_of_again (hgit : h.GitTouchesOnly own) (S' : CompletedRun wording runId' a h₁ h₂)
    (hproduct : S'.product = S.product) :
    S.Clear := by
  rintro p q hp hq hdirectory
  obtain ⟨w, d, hwp, hd⟩ := exists_placed hp
  obtain ⟨last, hdelivered⟩ := S'.delivered (S.gitTouchesOnly hgit)
  obtain ⟨ds, hplaced, hfree, -⟩ := hdelivered.deliveries
  -- with the same product the next run has replaced this file as well, by way of the same place
  have hp' : S'.Replaces p := by
    rw [Replaces, hproduct]
    exact hp
  obtain ⟨w', hw', hwp'⟩ := (replaces_iff last).1 hp'
  obtain ⟨d', hmem, hd'⟩ := exists_right_of_mem hplaced w' (List.mem_cons_of_mem _ hw')
  obtain ⟨-, htemporary⟩ := (hd.later hdelivered.toLater).places_eq hd' (hwp'.trans hwp.symm)
  obtain ⟨q', hq', hm, -⟩ := hd.ready.temporary
  rw [hwp, hq] at hq'
  cases hq'
  refine hfree d' hmem ?_
  rw [htemporary]
  exact (FileTree.directoryAt_iff hm).1 hdirectory

theorem default_of_again (S' : CompletedRun wording runId' a h₁ h₂) (hc : a.config = none) :
    ¬ h₁.files.DirectoryAt Settings.defaultPath := by
  rintro ⟨k, hk⟩
  have hsettings := S'.settings_read
  rw [hc, run_loadSettings_none, hk] at hsettings
  simp only at hsettings
  rw [run_readSettings, read_of_directory hk] at hsettings
  cases hsettings

/-- **THE NEXT RUN CHANGES NOTHING** but its manifest and the log. -/
theorem get?_again (hgit : h.GitTouchesOnly own) (S' : CompletedRun wording runId' a h₁ h₂)
    (hproduct : S'.product = S.product)
    (hsteady : Steady h₁.files h₂.files) (hown : ¬ own k)
    (hmanifest : ¬ h₁.files.Leads (Path.join a.out "manifest.json") k)
    (hlog : ¬ h₁.files.Leads (Path.join a.out "logs.ndjson") k) :
    h₂.files.get? k = h₁.files.get? k := by
  obtain ⟨last, hdelivered⟩ := S.delivered hgit
  obtain ⟨last', hdelivered'⟩ := S'.delivered (S.gitTouchesOnly hgit)
  have hpath : S'.active.context.manifestPath = S.active.context.manifestPath := by
    rw [RunContext.manifestPath, RunContext.manifestPath, S.outDir_eq, S'.outDir_eq]
  rw [RunContext.deliveries, hproduct, outputs_congr (S'.outDir_eq.trans S.outDir_eq.symm), hpath,
    S'.log_eq] at hdelivered'
  rw [RunContext.deliveries, log_eq] at hdelivered
  obtain ⟨l, hl⟩ := exists_leads (S := S) (.inl rfl)
  have hmanifestPath : S.active.context.manifestPath = Path.join a.out "manifest.json" := by
    rw [← S.outDir_eq]
    rfl
  rw [hmanifestPath] at hdelivered hdelivered'
  -- file by file the deliveries of both runs are the same, but for the manifests
  refine hdelivered.again hdelivered'
    (W := fun w w' => w' = w ∨ w.1 = w'.1 ∧ w.1 = Path.join a.out "manifest.json") ?_ ?_ ?_ hown
    (hl.not_later hlog hsteady.toLater) (hsteady.settled k)
  · refine .cons (.inr ⟨rfl, rfl⟩) (List.rel_append ?_ (.cons (.inr ⟨rfl, rfl⟩) .nil))
    exact List.forall₂_same.2 fun w _ => .inl rfl
  · rintro w w' (rfl | ⟨hsame, -⟩)
    · rfl
    · exact hsame.symm
  · rintro w w' (rfl | ⟨-, hw⟩) hleads
    · rfl
    · rw [hw] at hleads
      exact absurd hleads hmanifest

end CompletedRun

end EntitySchema
