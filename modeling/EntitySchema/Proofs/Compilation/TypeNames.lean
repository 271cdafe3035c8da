/-
  EntitySchema.Proofs.Compilation.TypeNames
  ────────────────────────────────
  **WHAT A TYPE NAME SAYS.**

  A message field names its type in full, and a compilation reads one of
  three things from that:

      google.protobuf.Timestamp   a point in time
      (nothing, or "")            no type at all
      .blog.v1.User               the entity of the last segment, `User`

  Type names that read alike are exchanged without a trace, in the entities
  as in the faults.  A dot in front changes no reading, whether of a type
  or of a point in time in the options.

  Main result: `compile_eq_of_retyped`.
-/
import EntitySchema.Proofs.Compilation.Likeness
import Mathlib.Data.List.TakeWhile

namespace EntitySchema

/-! ## §1. Segments. -/

namespace Identifier

/-- Last segment of a name that is cut at its dots. -/
def lastSegment (typeName : String) : String :=
  String.ofList ((typeName.toList.splitOn '.').getLast (List.splitOn_ne_nil _ _))

/-- The last piece of a list cut at `x` is what stands behind the last
`x`. -/
theorem getLast_splitOn (x : Char) (l : List Char) :
    (l.splitOn x).getLast (List.splitOn_ne_nil x l) = (l.reverse.takeWhile (· != x)).reverse := by
  have hother : ∀ {k : List Char}, x ∉ k → ∀ c ∈ k, (c != x) = true := by
    intro k hk c hc
    rw [bne_iff_ne]
    rintro rfl
    exact hk hc
  by_cases hx : x ∈ l
  · -- the last `x` is the first one from behind
    obtain ⟨after, before, hl, hafter⟩ :=
      List.eq_append_cons_of_mem (List.mem_reverse.2 hx)
    have hlast : l = before.reverse ++ x :: after.reverse := by
      rw [← List.reverse_reverse l, hl]
      simp
    have hpieces : l.splitOn x = before.reverse.splitOn x ++ [after.reverse] := by
      rw [hlast, List.splitOn_append_cons_self,
        List.splitOn_eq_singleton (mt List.mem_reverse.1 hafter)]
    have hkept : l.reverse.takeWhile (· != x) = after := by
      rw [hl, List.takeWhile_append_of_pos (hother hafter), List.takeWhile_cons_of_neg (by simp),
        List.append_nil]
    simp only [hpieces, List.getLast_append_singleton, hkept]
  · have hkept : l.reverse.takeWhile (· != x) = l.reverse :=
      List.takeWhile_eq_self_iff.2 (hother (mt List.mem_reverse.1 hx))
    simp only [List.splitOn_eq_singleton hx, List.getLast_singleton, hkept, List.reverse_reverse]

theorem shortTypeName_eq_lastSegment (typeName : String) :
    shortTypeName typeName = lastSegment typeName := by
  rw [shortTypeName, lastSegment, getLast_splitOn]

/-- A dot in front opens an empty segment and leaves the last one as it
was. -/
theorem lastSegment_dot (typeName : String) :
    lastSegment ("." ++ typeName) = lastSegment typeName := by
  have hpieces : ("." ++ typeName).toList.splitOn '.' = [] :: typeName.toList.splitOn '.' := by
    rw [String.toList_append]
    exact List.splitOn_append_cons_self [] typeName.toList
  simp only [lastSegment, hpieces, List.getLast_cons (List.splitOn_ne_nil '.' typeName.toList)]

end Identifier

/-! ## §2. Readings. -/

/-- What the type of a message field stands for. -/
inductive TypeReading where
  | pointInTime
  | nameless
  | entity (name : String)
  deriving DecidableEq, Repr

/-- What a type name is read as. -/
def CompileOptions.reading (o : CompileOptions) : Option String → TypeReading
  | none => .nameless
  | some t =>
      if o.isTimestamp t then .pointInTime
      else if t = "" then .nameless
      else .entity (Identifier.lastSegment t)

section Reading

variable {o o' : CompileOptions} {typeName typeName' : Option String}

theorem reading_eq_pointInTime_iff :
    o.reading typeName = .pointInTime ↔ typeName.any o.isTimestamp = true := by
  cases typeName with
  | none => simp [CompileOptions.reading]
  | some t =>
      rw [CompileOptions.reading, Option.any_some]
      by_cases htime : o.isTimestamp t = true
      · simp [htime]
      · rw [if_neg htime]
        refine iff_of_false ?_ htime
        split <;> exact TypeReading.noConfusion

/-- Of the types that are no points in time, the missing and the empty one
are nameless. -/
theorem reading_eq_nameless_iff (htime : typeName.any o.isTimestamp = false) :
    o.reading typeName = .nameless ↔ typeName.all String.isEmpty = true := by
  cases typeName with
  | none => simp [CompileOptions.reading]
  | some t =>
      rw [Option.any_some] at htime
      rw [CompileOptions.reading, htime, if_neg Bool.false_ne_true, Option.all_some,
        String.isEmpty_iff]
      split <;> simp [*]

/-- Any other type is read as the entity of its short name. -/
theorem reading_of_named (htime : typeName.any o.isTimestamp = false)
    (hnamed : typeName.all String.isEmpty = false) :
    (typeName.map Identifier.shortTypeName).map .entity = some (o.reading typeName) := by
  cases typeName with
  | none => cases hnamed
  | some t =>
      rw [Option.any_some] at htime
      have ht : t ≠ "" := by simpa using hnamed
      simp [CompileOptions.reading, htime, ht, Identifier.shortTypeName_eq_lastSegment]

end Reading

/-! ## §3. Fields whose types read alike. -/

/-- The same field, its type name apart; of a message both names read
alike, each under its own options. -/
structure FieldDescriptor.ReadAlike (o o' : CompileOptions) (f f' : FieldDescriptor) : Prop where
  same : f' = { f with typeName := f'.typeName }
  type : f.kind = .message → o'.reading f'.typeName = o.reading f.typeName

/-- The type of a reference is no point in time. -/
theorem FieldDescriptor.type_of_isReference {o : CompileOptions} {f : FieldDescriptor}
    (hf : f.isReference o = true) : f.kind = .message ∧ f.typeName.any o.isTimestamp = false := by
  simp only [isReference, isTimestamp, isMessage, Bool.and_eq_true, Bool.not_eq_true',
    decide_eq_true_eq] at hf
  obtain ⟨hkind, htime⟩ := hf
  simpa [hkind] using htime

namespace FieldDescriptor.ReadAlike

variable {o o' : CompileOptions} {f f' : FieldDescriptor}

theorem any_isTimestamp_eq (h : f.ReadAlike o o' f') (hf : f.kind = .message) :
    f'.typeName.any o'.isTimestamp = f.typeName.any o.isTimestamp := by
  rw [Bool.eq_iff_iff, ← reading_eq_pointInTime_iff, ← reading_eq_pointInTime_iff, h.type hf]

theorem kind_eq (h : f.ReadAlike o o' f') : f'.kind = f.kind := by
  rw [h.same]

theorem isTimestamp_eq (h : f.ReadAlike o o' f') : f'.isTimestamp o' = f.isTimestamp o := by
  unfold isTimestamp isMessage
  rw [h.kind_eq]
  by_cases hf : f.kind = .message
  · rw [h.any_isTimestamp_eq hf]
  · simp [hf]

theorem isReference_eq (h : f.ReadAlike o o' f') : f'.isReference o' = f.isReference o := by
  rw [isReference, isReference, isMessage, isMessage, h.isTimestamp_eq, h.kind_eq]

/-- References whose types read alike both name a type, or neither does. -/
theorem untyped_eq (h : f.ReadAlike o o' f') (hf : f.isReference o = true) :
    f'.typeName.all String.isEmpty = f.typeName.all String.isEmpty := by
  obtain ⟨hkind, htime⟩ := type_of_isReference hf
  have htime' := (h.any_isTimestamp_eq hkind).trans htime
  rw [Bool.eq_iff_iff, ← reading_eq_nameless_iff htime, ← reading_eq_nameless_iff htime',
    h.type hkind]

/-- References whose types read alike lead to one entity. -/
theorem target?_eq (h : f.ReadAlike o o' f') (hf : f.isReference o = true)
    (hnamed : f.typeName.all String.isEmpty = false) : f'.target? = f.target? := by
  obtain ⟨hkind, htime⟩ := type_of_isReference hf
  have htime' := (h.any_isTimestamp_eq hkind).trans htime
  have hnamed' := (h.untyped_eq hf).trans hnamed
  -- entities are told apart by their names, so it is enough to compare readings
  have hinjective : Function.Injective (Option.map TypeReading.entity) :=
    Option.map_injective fun _ _ => TypeReading.entity.inj
  apply hinjective
  rw [target?, target?, reading_of_named htime' hnamed', reading_of_named htime hnamed,
    h.type hkind]

theorem interchangeable (h : f.ReadAlike o o' f') (hf : f.isReference o = true)
    (hnamed : f.typeName.all String.isEmpty = false) : f.Interchangeable f' where
  name := by rw [h.same]
  target := h.target?_eq hf hnamed
  repeated := by rw [h.same]
  edge := by rw [h.same]

/-- An attribute shows of its type whether it is a point in time. -/
theorem classify_eq (h : f.ReadAlike o o' f')
    (hsuffix : o'.unspecifiedEnumSuffix = o.unspecifiedEnumSuffix) (entity : String) :
    classify o' entity f' = classify o entity f := by
  have htime := h.isTimestamp_eq
  obtain ⟨u, rfl⟩ : ∃ u, f' = { f with typeName := u } := ⟨_, h.same⟩
  simp only [classify, storageKind?, htime, Attribute.ofField, storedLiterals, hsuffix]

theorem placedLike (h : f.ReadAlike o o' f')
    (hsuffix : o'.unspecifiedEnumSuffix = o.unspecifiedEnumSuffix) :
    f.PlacedLike o o' FieldDescriptor.Interchangeable f' where
  name := by rw [h.same]
  ignored := by rw [h.same]; rfl
  reference := h.isReference_eq
  untyped := h.untyped_eq
  related := h.interchangeable
  classified := h.classify_eq hsuffix

end FieldDescriptor.ReadAlike

/-- Sets whose type names read alike, each under its own options. -/
theorem compile_eq_of_readings {o o' : CompileOptions} {s t : DescriptorSet}
    (hsuffix : o'.unspecifiedEnumSuffix = o.unspecifiedEnumSuffix)
    (h : s.Fieldwise (FieldDescriptor.ReadAlike o o') t) : compile o' t = compile o s := by
  have hplaces : KeepsPlaces o o' (FieldDescriptor.ReadAlike o o') FieldDescriptor.Interchangeable :=
    .of_placedLike fun _ _ hf => hf.placedLike hsuffix
  exact compile_eq_of_like (hplaces.build_like h.selected)

/-! ## §4. Dots in front. -/

/-- The same name, or the name with a dot in front. -/
def DottedName (t t' : String) : Prop := t' = t ∨ t' = "." ++ t

/-- The same options, some points in time with a dot in front. -/
structure CompileOptions.Dotted (o o' : CompileOptions) : Prop where
  suffix : o'.unspecifiedEnumSuffix = o.unspecifiedEnumSuffix
  names : List.Forall₂ DottedName o.timestampTypeNames o'.timestampTypeNames

/-- The same field, possibly with a dot in front of its type name if that is
not empty. -/
structure FieldDescriptor.Dotted (f f' : FieldDescriptor) : Prop where
  same : f' = { f with typeName := f'.typeName }
  type : f'.typeName = f.typeName
    ∨ ∃ t, t ≠ "" ∧ f.typeName = some t ∧ f'.typeName = some ("." ++ t)

theorem DottedName.withoutLeadingDots_eq {t t' : String} (h : DottedName t t') :
    withoutLeadingDots t' = withoutLeadingDots t := by
  rcases h with rfl | rfl
  · rfl
  · rw [withoutLeadingDots, String.toList_append]
    rfl

theorem CompileOptions.Dotted.isTimestamp_eq {o o' : CompileOptions} (h : o.Dotted o')
    {t t' : String} (ht : DottedName t t') : o'.isTimestamp t' = o.isTimestamp t := by
  have hnames : o'.timestampTypeNames.map withoutLeadingDots
      = o.timestampTypeNames.map withoutLeadingDots :=
    (map_eq_map_of_forall₂ h.names fun _ _ hn => hn.withoutLeadingDots_eq.symm).symm
  -- points in time are compared without their dots, so these may be dropped first
  have hany : ∀ (p : CompileOptions) (n : String), p.isTimestamp n
      = (p.timestampTypeNames.map withoutLeadingDots).any (· == withoutLeadingDots n) := by
    intro p n
    rw [List.any_map]
    rfl
  rw [hany, hany, hnames, ht.withoutLeadingDots_eq]

theorem FieldDescriptor.Dotted.readAlike {o o' : CompileOptions} (ho : o.Dotted o')
    {f f' : FieldDescriptor} (h : f.Dotted f') : f.ReadAlike o o' f' where
  same := h.same
  type := by
    intro _
    rcases h.type with htype | ⟨t, ht, htype, htype'⟩
    · -- the same name is compared with the same points in time
      rw [htype]
      cases f.typeName with
      | none => rfl
      | some t =>
          rw [CompileOptions.reading, CompileOptions.reading, ho.isTimestamp_eq (.inl rfl)]
    · -- with the dot the name is not empty either, and ends in the same segment
      have hdot : "." ++ t ≠ "" := by simp
      rw [htype, htype', CompileOptions.reading, CompileOptions.reading,
        ho.isTimestamp_eq (.inr rfl), if_neg ht, if_neg hdot, Identifier.lastSegment_dot]

/-! ## §5. Compilations. -/

/-- **A TYPE NAME IS ITS READING**: sets that differ in type names only, those
of messages read alike, compile to the same entities or fail with the same
fault.  In particular, dots in front of type names or of points in time
change nothing. -/
theorem compile_eq_of_retyped (o : CompileOptions) (s : DescriptorSet) :
    (∀ t, s.Fieldwise (FieldDescriptor.ReadAlike o o) t → compile o t = compile o s)
      ∧ ∀ o' t, o.Dotted o' → s.Fieldwise FieldDescriptor.Dotted t →
        compile o' t = compile o s := by
  constructor
  · intro t h
    exact compile_eq_of_readings rfl h
  · intro o' t ho h
    exact compile_eq_of_readings ho.suffix (h.imp fun _ _ hf => hf.readAlike ho)

/-- Posts with a time and an author, and users with posts, their types named
as given. -/
def datedBlog (time user post : String) : DescriptorSet :=
  ⟨[{ name := "Post", generate := true,
      fields := [.ofMessage "at" time, .ofMessage "author" user] },
    { name := "User", generate := true,
      fields := [(FieldDescriptor.ofMessage "posts" post).asRepeated] }]⟩

/-- The entities of a blog do not show how its types are qualified, and nor
does the fault of an unknown one. -/
theorem datedBlog_retyped :
    (∃ es, compile {} (datedBlog "google.protobuf.Timestamp" "blog.User" "Post") = .ok es
      ∧ compile {} (datedBlog "..google.protobuf.Timestamp" ".User" "a.b.Post") = .ok es
      ∧ compile { timestampTypeNames := [".google.protobuf.Timestamp"] }
          (datedBlog "google.protobuf.Timestamp" ".blog.User" ".Post") = .ok es)
      ∧ ∃ x, compile {} (datedBlog "google.protobuf.Timestamp" "blog.Writer" "Post") = .error x
        ∧ compile {} (datedBlog "google.protobuf.Timestamp" "Writer" "Post") = .error x := by
  have hread : ∀ {time time' user user' post post' : String},
      ({} : CompileOptions).reading (some time') = ({} : CompileOptions).reading (some time) →
      ({} : CompileOptions).reading (some user') = ({} : CompileOptions).reading (some user) →
      ({} : CompileOptions).reading (some post') = ({} : CompileOptions).reading (some post) →
      (datedBlog time user post).Fieldwise (FieldDescriptor.ReadAlike {} {})
        (datedBlog time' user' post') := by
    intro time time' user user' post post' htime huser hpost
    refine .cons ⟨rfl, rfl, ?_⟩ (.cons ⟨rfl, rfl, ?_⟩ .nil)
    · exact .cons ⟨rfl, fun _ => htime⟩ (.cons ⟨rfl, fun _ => huser⟩ .nil)
    · exact .cons ⟨rfl, fun _ => hpost⟩ .nil
  have hdotted : (datedBlog "google.protobuf.Timestamp" "blog.User" "Post").Fieldwise
      FieldDescriptor.Dotted (datedBlog "google.protobuf.Timestamp" ".blog.User" ".Post") := by
    refine .cons ⟨rfl, rfl, ?_⟩ (.cons ⟨rfl, rfl, ?_⟩ .nil)
    · exact .cons ⟨rfl, .inl rfl⟩ (.cons ⟨rfl, .inr ⟨_, by decide, rfl, rfl⟩⟩ .nil)
    · exact .cons ⟨rfl, .inr ⟨_, by decide, rfl, rfl⟩⟩ .nil
  have hoptions : ({} : CompileOptions).Dotted
      { timestampTypeNames := [".google.protobuf.Timestamp"] } :=
    ⟨rfl, .cons (.inr rfl) .nil⟩
  obtain ⟨es, h⟩ : ∃ es,
      compile {} (datedBlog "google.protobuf.Timestamp" "blog.User" "Post") = .ok es := ⟨_, rfl⟩
  obtain ⟨x, hx⟩ : ∃ x,
      compile {} (datedBlog "google.protobuf.Timestamp" "blog.Writer" "Post") = .error x :=
    ⟨_, rfl⟩
  refine ⟨⟨es, h, ?_, ?_⟩, x, hx, ?_⟩
  · refine ((compile_eq_of_retyped {} _).1 _ (hread ?_ ?_ ?_)).trans h
    all_goals decide
  · exact ((compile_eq_of_retyped {} _).2 _ _ hoptions hdotted).trans h
  · refine ((compile_eq_of_retyped {} _).1 _ (hread ?_ ?_ ?_)).trans hx
    all_goals decide

end EntitySchema
