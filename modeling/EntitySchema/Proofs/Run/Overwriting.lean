/-
  EntitySchema.Proofs.Run.Overwriting
  ────────────────────────────────
  **WHICH FILES A RUN OVERWRITES.**

  Every file of a run that succeeds holds its own contents, unless another
  one was put to its place.  What is at the end of a path is the end of the
  place as well, so files that are called differently stand apart:

      name in the descriptor     Post         post         blog/Post
      file of the schema         post.go      post.go      blog/post.go

  For names without slashes it is the small spelling alone that counts.

  Main result: `emitted_files_distinct_iff`.
-/
import EntitySchema.Proofs.Run.Writing
import EntitySchema.Proofs.Source.Collision

namespace EntitySchema

open Identifier (snake)
open EntitySchema.FileTree (names)
open EntitySchema.Path (Ending append_ne append_ne_append exists_components_append getLast?_pieces_join join
  join_append)
open EntitySchema.Source (GeneratedFile files schemaFile mutationFile configFile mem_files_iff)

variable {o : CompileOptions} {s : DescriptorSet} {es : List Entity} {l : OutputLayout}

/-! ## §1. Names of generated files. -/

theorem fileName?_eq_of_getLast? {p : Path} {name : String}
    (h : p.components.getLast? = some (.normal name)) : p.fileName? = some name := by
  rw [Path.fileName?, h]

/-- A path ends in the same name wherever it is put. -/
theorem fileName?_eq_getLast?_names {ending : String} (h : Ending ending) (d q : Path) :
    (q ++ ending).fileName? = (names (join d (q ++ ending))).getLast? := by
  obtain ⟨last, hlast, hcomponents⟩ := exists_components_append h q
  obtain ⟨last', hlast', hnames⟩ := FileTree.exists_names_append h (join d q)
  rw [getLast?_pieces_join, hlast] at hlast'
  cases hlast'
  rw [fileName?_eq_of_getLast? hcomponents, join_append h, hnames]

namespace Source

theorem lasts_of_mem_files (hes : ∀ E ∈ es, E.Filed) : ∀ f ∈ files l es, f.Lasts := by
  intro f hf
  rcases mem_files_iff.1 hf with ⟨E, hE, rfl⟩ | ⟨E, hE, -, rfl⟩ | rfl
  · refine ⟨join l.schemaDir (snake E.name), ".go", {}, ?_⟩
    rw [(hes E hE).schemaFile_path, join_append {}]
  · refine ⟨join l.graphqlDir (snake E.name), ".graphql", {}, ?_⟩
    rw [(hes E hE).mutationFile_path, join_append {}]
  · have hending : Ending ".yml" := {}
    exact ⟨join l.configDir "gqlgen", ".yml", {}, join_append hending l.configDir "gqlgen"⟩

/-- Files of names without slashes are called differently if the names have
different small spellings. -/
theorem nodup_fileNames (hd : (es.map (·.name)).Nodup) (hes : ∀ E ∈ es, E.Filed)
    (hslash : ∀ E ∈ es, '/' ∉ E.name.toList)
    (hsnake : ∀ E ∈ es, ∀ E' ∈ es, snake E.name = snake E'.name → E.name = E'.name) :
    ((files l es).map (·.path.fileName?)).Nodup := by
  have hname : ∀ {ending : String}, Ending ending → ∀ E ∈ es, ∀ d : Path,
      (join d (snake E.name ++ ending)).fileName? = some (snake E.name ++ ending) :=
    fun h E hE d => fileName?_eq_of_getLast?
      (getLast?_components_join h (Identifier.slash_notMem_snake (hslash E hE)) d)
  have hinjective : ∀ ending : String, ∀ E ∈ es, ∀ E' ∈ es,
      some (snake E.name ++ ending) = some (snake E'.name ++ ending) → E = E' :=
    fun ending E hE E' hE' heq => List.inj_on_of_nodup_map hd hE hE'
      (hsnake E hE E' hE' ((String.append_left_inj ending).1 (Option.some.inj heq)))
  have hschemas : es.map (fun E => (schemaFile l E).path.fileName?)
      = es.map fun E => some (snake E.name ++ ".go") :=
    List.map_congr_left fun E hE => by rw [(hes E hE).schemaFile_path, hname {} E hE]
  have hmutations : (es.filter (·.hasMutations)).map (fun E => (mutationFile l E).path.fileName?)
      = (es.filter (·.hasMutations)).map fun E => some (snake E.name ++ ".graphql") :=
    List.map_congr_left fun E hE => by
      have hE := List.mem_of_mem_filter hE
      rw [(hes E hE).mutationFile_path, hname {} E hE]
  have hconfig : (configFile l es).path.fileName? = some ("gqlgen" ++ ".yml") := by
    have hpath : (configFile l es).path = join l.configDir ("gqlgen" ++ ".yml") := rfl
    have hslash : '/' ∉ ("gqlgen" : String).toList := by decide
    rw [hpath]
    exact fileName?_eq_of_getLast? (getLast?_components_join {} hslash l.configDir)
  simp only [files, List.map_append, List.map_map, List.map_singleton, Function.comp_def]
  rw [hschemas, hmutations, hconfig, nodup_append_append_singleton]
  · constructor
    · exact (List.nodup_map_iff_inj_on (hd.of_map _)).2 (hinjective ".go")
    · refine (List.nodup_map_iff_inj_on ((hd.of_map _).filter _)).2 fun E hE E' hE' => ?_
      exact hinjective ".graphql" E (List.mem_of_mem_filter hE) E' (List.mem_of_mem_filter hE')
  -- names of different kinds end differently
  · simp only [List.forall_mem_map, ne_eq, Option.some_inj]
    exact fun E _ E' _ => append_ne_append (by decide) _ _
  · simp only [List.forall_mem_map, ne_eq, Option.some_inj]
    exact fun E _ => append_ne_append (by decide) _ _
  · simp only [List.forall_mem_map, ne_eq, Option.some_inj]
    exact fun E _ => append_ne_append (by decide) _ _

end Source

/-! ## §2. Places of generated files. -/

/-- Files at one place are called alike. -/
theorem fileName?_eq_of_place {t : FileTree} {c : RunContext} {f f' : GeneratedFile}
    {k k' : Location} (hf : f.Lasts) (hf' : f'.Lasts) (hk : t.Leads (c.pathOf f) k)
    (hk' : t.Leads (c.pathOf f') k') (hplace : t.place (c.pathOf f) = t.place (c.pathOf f')) :
    f.path.fileName? = f'.path.fileName? := by
  obtain ⟨q, ending, hending, hpath⟩ := hf
  obtain ⟨q', ending', hending', hpath'⟩ := hf'
  have hlast : (names (c.pathOf f)).getLast? = (names (c.pathOf f')).getLast? := by
    rw [← hk.getLast?, ← hk'.getLast?, (hk.place_eq_iff hk').1 hplace]
  rw [RunContext.pathOf, RunContext.pathOf, hpath, hpath'] at hlast
  rw [hpath, hpath', fileName?_eq_getLast?_names hending.toEnding c.outDir,
    fileName?_eq_getLast?_names hending'.toEnding c.outDir, hlast]

/-- Files that are called differently hold their own contents. -/
theorem Written.read_of_nodup {t t' : FileTree} {c : RunContext} {fs : List GeneratedFile}
    (hw : Written c fs t t') (hfs : ∀ f ∈ fs, f.Lasts)
    (hd : (fs.map (·.path.fileName?)).Nodup) :
    ∀ f ∈ fs, t'.read (c.pathOf f) = .ok f.contents := by
  refine hw.read_iff.2 fun f hf f' hf' hplace => ?_
  obtain ⟨-, k, hk, -⟩ := hw.each f hf
  obtain ⟨-, k', hk', -⟩ := hw.each f' hf'
  have hname := fileName?_eq_of_place (hfs f hf) (hfs f' hf') hk hk' hplace
  exact congrArg _ (List.inj_on_of_nodup_map hd hf hf' hname)

/-- A run that succeeds has put the files of its product to their places. -/
theorem exists_written {c : RunContext} {st : Settings} {h h' : Host} {outcome : RunOutcome}
    {text : String} {p : Product} (hread : h.files.read c.input = .ok text)
    (hp : (Product.ofInput st c.modelOnly text).result = .ok p) (hlasts : ∀ f ∈ p.files, f.Lasts)
    (hrun : (executeRun c (.file c.logPath) st).run.run h = (.ok outcome, h')) :
    ∃ t, Written c p.files t h'.files := by
  obtain ⟨text', p', h₀, hread', hp', hwrite⟩ := executeRun_ok hrun
  cases hread.symm.trans hread'
  cases hp.symm.trans hp'
  exact writeProduct_ok hlasts hwrite

/-- **WHICH FILES OVERWRITE EACH OTHER.**  The paths are distinct iff no two
names share a file; for names without slashes that is, iff the selected
messages have different small spellings.  After a run that succeeds, every
file holds its own contents iff no two files of different contents have one
place; and for names without slashes every file does if the paths are
distinct. -/
theorem emitted_files_distinct_iff (h : compile o s = .ok es) (l : OutputLayout) :
    ∃ files, Source.bundle l es = .ok files
      ∧ ((files.map (·.path.components)).Nodup
        ↔ (∀ E ∈ es, ∀ E' ∈ es,
            Source.SharesFile l.schemaDir ".go" E.name E'.name → E.name = E'.name)
          ∧ ∀ E ∈ es, ∀ E' ∈ es, E.hasMutations = true → E'.hasMutations = true →
            Source.SharesFile l.graphqlDir ".graphql" E.name E'.name → E.name = E'.name)
      ∧ ((∀ m ∈ s.selected, '/' ∉ m.name.toList) →
        ((files.map (·.path.components)).Nodup
          ↔ ∀ m ∈ s.selected, ∀ m' ∈ s.selected, snake m.name = snake m'.name → m.name = m'.name))
      ∧ ∀ (c : RunContext) (text : String) (h₀ h₁ : Host) (outcome : RunOutcome),
        h₀.files.read c.input = .ok text →
        (Product.ofInput ⟨o, l⟩ c.modelOnly text).result = .ok ⟨es, files⟩ →
        (executeRun c (.file c.logPath) ⟨o, l⟩).run.run h₀ = (.ok outcome, h₁) →
          ((∀ f ∈ files, h₁.files.read (join c.outDir f.path) = .ok f.contents)
            ↔ ∀ f ∈ files, ∀ f' ∈ files,
              h₁.files.place (join c.outDir f.path) = h₁.files.place (join c.outDir f'.path) →
                f.contents = f'.contents)
          ∧ ((∀ m ∈ s.selected, '/' ∉ m.name.toList) → (files.map (·.path.components)).Nodup →
            ∀ f ∈ files, h₁.files.read (join c.outDir f.path) = .ok f.contents) := by
  have hc := compiled_of_compile h
  have hes := filed_of_compile h
  refine ⟨_, Source.bundle_of_compile h l, Source.nodup_files_iff h l,
    Source.nodup_files_iff_of_noSlash h l, fun c text h₀ h₁ outcome hread hp hrun => ?_⟩
  have hlasts := Source.lasts_of_mem_files (l := l) hes
  obtain ⟨t, hw⟩ := exists_written hread hp hlasts hrun
  refine ⟨hw.read_iff, fun hslash hd => hw.read_of_nodup hlasts ?_⟩
  have hsnake := (Source.nodup_files_iff_of_noSlash h l hslash).1 hd
  exact Source.nodup_fileNames hc.names_distinct hes
    ((hc.forall_name_iff (P := fun n => '/' ∉ n.toList)).2 hslash)
    ((hc.forall_name_iff₂ (P := fun n n' => snake n = snake n' → n = n')).2 hsnake)

/-- Document of two messages whose names differ in the case of a letter. -/
def recasedInput : String :=
  "\x7b\"entities\":[\x7b\"name\":\"Post\",\"options\":\x7b\"generate\":true\x7d\x7d,"
    ++ "\x7b\"name\":\"post\",\"options\":\x7b\"generate\":true\x7d\x7d]\x7d"

/-- A system with the document as its only file. -/
def recasedHost : Host where
  files := ⟨[(["posts.json"], .file recasedInput.toUTF8)], []⟩
  clock _ := ⟨0⟩

/-- A run that reads the document and writes to the current directory. -/
def recasedRun : RunContext where
  runId := "run"
  startedAt := ⟨0⟩
  input := "posts.json"
  outDir := ""
  modelOnly := false

theorem recasedHost_read : recasedHost.files.read recasedRun.input = .ok recasedInput :=
  FileTree.Leads.read_eq ⟨[], "posts.json", rfl, rfl⟩ rfl rfl

/-- Both messages are given one file, so the run loses the first of the two
contents. -/
theorem recasedPosts_collide :
    ∃ p outcome h₁, (Product.ofInput {} false recasedInput).result = .ok p
      ∧ p.files.map (·.path) = ["ent/schema/post.go", "ent/schema/post.go", "config/gqlgen.yml"]
      ∧ ¬ (p.files.map (·.path.components)).Nodup
      ∧ (executeRun recasedRun (.file recasedRun.logPath) {}).run.run recasedHost = (.ok outcome, h₁)
      ∧ ¬ ∀ f ∈ p.files, h₁.files.read (join recasedRun.outDir f.path) = .ok f.contents := by
  have hproduct : ∃ p ∈ (Product.ofInput {} false recasedInput).result.toOption,
      p.files.map (·.path) = ["ent/schema/post.go", "ent/schema/post.go", "config/gqlgen.yml"]
        ∧ ∃ f ∈ p.files, ∃ f' ∈ p.files, f.path = f'.path ∧ f.contents ≠ f'.contents := by
    decide +kernel
  have hends : ∃ outcome, ((executeRun recasedRun (.file recasedRun.logPath) {}).run.run
      recasedHost).1.toOption = some outcome := by
    rw [← Option.isSome_iff_exists]
    decide +kernel
  obtain ⟨p, hp, hpaths, f, hf, f', hf', hpath, hcontents⟩ := hproduct
  obtain ⟨outcome, houtcome⟩ := hends
  have hp := toOption_eq_some_iff.1 hp
  have hrun : (executeRun recasedRun (.file recasedRun.logPath) {}).run.run recasedHost
      = (.ok outcome, _) := Prod.ext (toOption_eq_some_iff.1 houtcome) rfl
  have hcomponents : p.files.map (·.path.components)
      = ["ent/schema/post.go", "ent/schema/post.go", "config/gqlgen.yml"].map Path.components := by
    rw [← hpaths, List.map_map, Function.comp_def]
  refine ⟨p, outcome, _, hp, hpaths, ?_, hrun, fun hall => hcontents ?_⟩
  · rw [hcomponents]
    decide
  · obtain ⟨_, _, -, -, -, hcompile, hfiles⟩ := Product.ofInput_eq_ok_iff.1 hp
    obtain ⟨files, hfiles', -, -, hread⟩ := emitted_files_distinct_iff hcompile {}
    cases hfiles.symm.trans hfiles'
    exact (hread recasedRun recasedInput _ _ outcome recasedHost_read hp hrun).1.1 hall f hf f' hf'
      (by rw [hpath])

end EntitySchema
