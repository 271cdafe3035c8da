/-
  EntitySchema.Proofs.Run.Product
  ────────────────────────────────
  **WHICH INPUTS HAVE A PRODUCT.**

  An input has a product iff every stage succeeds on what the stage before
  has given, and then the product is what the last two stages gave:

      text  ──→  document  ──→  set  ──→  entities  ──→  files

  Main result: `Product.ofInput_eq_ok_iff`.
-/
import EntitySchema.Run.Product
import EntitySchema.Proofs.Sequence

namespace EntitySchema

/-! ## §1. Stages. -/

theorem Reported.andThen_eq_ok_iff {α β : Type} {r : Reported α} {f : α → Reported β} {b : β} :
    (r.andThen f).result = .ok b ↔ ∃ a, r.result = .ok a ∧ (f a).result = .ok b := by
  obtain ⟨events, result⟩ := r
  cases result with
  | error e => simp [andThen]
  | ok a => simp [andThen]

theorem Reported.andThen_eq_error_iff {α β : Type} {r : Reported α} {f : α → Reported β}
    {e : RunFault} :
    (r.andThen f).result = .error e
      ↔ r.result = .error e ∨ ∃ a, r.result = .ok a ∧ (f a).result = .error e := by
  obtain ⟨events, result⟩ := r
  cases result with
  | error e' => simp [andThen]
  | ok a => simp [andThen]

theorem readDocument_eq_ok_iff {text : String} {d : Json} :
    (readDocument text).result = .ok d ↔ Json.read? text = some d := by
  unfold readDocument Reported.silent
  cases Json.read? text <;> simp

theorem checkDocument_eq_ok_iff {d d' : Json} :
    (checkDocument d).result = .ok d' ↔ descriptorViolations d = [] ∧ d = d' := by
  unfold checkDocument
  cases descriptorViolations d <;> simp

theorem decodeDocument_eq_ok_iff {d : Json} {set : DescriptorSet} :
    (decodeDocument d).result = .ok set ↔ DescriptorSet.record.codec.decode d = .ok set :=
  mapError_eq_ok_iff

theorem compileReported_eq_ok_iff {o : CompileOptions} {set : DescriptorSet} {es : List Entity} :
    (compileReported o set).result = .ok es ↔ compile o set = .ok es :=
  mapError_eq_ok_iff

theorem bundleReported_eq_ok_iff {l : OutputLayout} {es : List Entity}
    {files : List Source.GeneratedFile} :
    (bundleReported l es).result = .ok files ↔ Source.bundle l es = .ok files := by
  unfold bundleReported
  cases Source.bundle l es <;> simp

/-! ## §2. Products. -/

/-- **WHICH INPUTS HAVE A PRODUCT**, and which one. -/
theorem Product.ofInput_eq_ok_iff {s : Settings} {modelOnly : Bool} {text : String} {p : Product} :
    (Product.ofInput s modelOnly text).result = .ok p
      ↔ ∃ d set, Json.read? text = some d ∧ descriptorViolations d = []
        ∧ DescriptorSet.record.codec.decode d = .ok set
        ∧ compile s.compile set = .ok p.entities
        ∧ (if modelOnly then p.files = [] else Source.bundle s.emit p.entities = .ok p.files) := by
  simp only [ofInput, Reported.andThen_eq_ok_iff, readDocument_eq_ok_iff, checkDocument_eq_ok_iff,
    decodeDocument_eq_ok_iff, compileReported_eq_ok_iff]
  -- the stages in their order; the mode decides whether there are files
  constructor
  · intro h
    obtain ⟨d, hread, _, ⟨hcheck, hd⟩, set, hdecode, es, hcompile, files, hfiles, hp⟩ := h
    cases hd
    cases hp
    refine ⟨d, set, hread, hcheck, hdecode, hcompile, ?_⟩
    cases modelOnly with
    | true => exact (Except.ok.inj hfiles).symm
    | false => exact bundleReported_eq_ok_iff.1 hfiles
  · intro h
    obtain ⟨d, set, hread, hcheck, hdecode, hcompile, hfiles⟩ := h
    refine ⟨d, hread, d, ⟨hcheck, rfl⟩, set, hdecode, p.entities, hcompile, p.files, ?_, rfl⟩
    cases modelOnly with
    | true => exact congrArg Except.ok (show p.files = [] from hfiles).symm
    | false => exact bundleReported_eq_ok_iff.2 hfiles

end EntitySchema
