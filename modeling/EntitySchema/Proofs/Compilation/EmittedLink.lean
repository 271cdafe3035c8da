/-
  EntitySchema.Proofs.Compilation.EmittedLink
  ────────────────────────────────
  **WHAT AN EMITTED BACK REFERENCE LINKS TO.**

  In the schema sources an edge that points back calls its counterpart by
  the declared name, and an edge that carries a relation goes by the snake
  case of its own:

      edge.From("author", User.Type).Ref("writtenPosts")
      edge.To("written_posts", Post.Type)

  So the link is made iff the declared name is in snake case already, or
  else is the snake case of another edge to the same entity.

  Main result: `emitted_link_iff`.
-/
import EntitySchema.Proofs.Compilation.BackReference
import EntitySchema.Proofs.Source.Literal
import EntitySchema.Source.OrmSchema

namespace EntitySchema

open EntitySchema.Source

/-! ## §1. First calls of an edge. -/

namespace Source

/-- Call that starts an edge which carries a relation. -/
def forwardCall (name target : String) : String :=
  "edge.To(" ++ quote name ++ ", " ++ target ++ ".Type)"

/-- Call that starts an edge which points back. -/
def backCall (name target : String) : String :=
  "edge.From(" ++ quote name ++ ", " ++ target ++ ".Type)"

/-- Call that names the edge pointed at. -/
def refCall (name : String) : String := "Ref(" ++ quote name ++ ")"

variable {d : Edge} {n t r : String}

/-- A call with a name and a type tells both. -/
theorem call_inj {callee n n' t t' : String} :
    callee ++ quote n ++ ", " ++ t ++ ".Type)" = callee ++ quote n' ++ ", " ++ t' ++ ".Type)"
      ↔ n = n' ∧ t = t' := by
  rw [String.append_left_inj]
  simp only [String.append_assoc, String.append_right_inj, quote_append_inj]

theorem refCall_inj {n n' : String} : refCall n = refCall n' ↔ n = n' := by
  unfold refCall
  rw [String.append_assoc, String.append_assoc, String.append_right_inj, quote_append_inj,
    and_iff_left rfl]

/-- The first call tells which edges carry a relation, their names and their
targets. -/
theorem edgeConstructor_eq_forward_iff :
    edgeConstructor d = [forwardCall n t] ↔ d.direction = .owning ∧ d.name = n ∧ d.target = t := by
  unfold edgeConstructor
  cases d.direction with
  | owning =>
      simp only [forwardCall, List.cons.injEq, and_true, call_inj, true_and]
  | referencing r =>
      simp only [List.cons.injEq, reduceCtorEq, and_false, false_and]

theorem edgeConstructor_eq_back_iff :
    edgeConstructor d = [backCall n t, refCall r]
      ↔ d.direction = .referencing r ∧ d.name = n ∧ d.target = t := by
  unfold edgeConstructor
  cases d.direction with
  | owning =>
      simp only [List.cons.injEq, reduceCtorEq, and_false, false_and]
  | referencing k =>
      -- the second call is written out here, so it is folded first
      have href : "Ref(" ++ quote k ++ ")" = refCall r ↔ k = r := refCall_inj
      simp only [backCall, List.cons.injEq, and_true, call_inj, href, Direction.referencing.injEq]
      exact and_comm

end Source

/-! ## §2. Compilations. -/

variable {o : CompileOptions} {s : DescriptorSet} {es : List Entity}

/-- An edge has its declared name in snake case. -/
theorem edge_name_eq (h : compile o s = .ok es) {E : Entity} (hE : E ∈ es) {d : Edge}
    (hd : d ∈ E.edges) : d.name = Identifier.snake d.declaredName := by
  obtain ⟨c, -, hes⟩ := compile_eq_ok_iff.1 h
  obtain ⟨e, -, he⟩ := exists_left_of_mem hes E hE
  obtain ⟨ds, hds, rfl⟩ := Catalog.entity_eq_ok_iff.1 he
  obtain ⟨f, -, hf⟩ := exists_left_of_mem hds d hd
  obtain ⟨t, g, -, rfl⟩ := Catalog.resolve_eq_ok_iff.1 hf
  rfl

/-- What an entity emits under a name: an edge that carries a relation and
has that name in snake case. -/
theorem exists_forwardCall_iff (h : compile o s = .ok es) {T : Entity} (hT : T ∈ es)
    {n t : String} :
    (∃ x ∈ T.edges, edgeConstructor x = [forwardCall n t])
      ↔ ∃ x ∈ T.edges, x.direction = .owning ∧ x.target = t
        ∧ Identifier.snake x.declaredName = n := by
  refine exists_congr fun x => and_congr_right fun hx => ?_
  rw [edgeConstructor_eq_forward_iff, edge_name_eq h hT hx, and_comm (a := _ = n)]

/-- The edge that another one points at carries the relation and leads
back. -/
theorem Compiled.exists_pointed_at (h : Compiled o s es) {E : Entity} (hE : E ∈ es) {d : Edge}
    (hd : d ∈ E.edges) {r : String} (hr : d.direction = .referencing r) :
    ∃ T b, es.filter (·.name = d.target) = [T] ∧ T.edges.filter (·.declaredName = r) = [b]
      ∧ b.counterpart = d.declaredName ∧ b.direction = .owning ∧ b.target = E.name := by
  have hs := h.admissible
  obtain ⟨x, q, y, -, hx, hj, hq, T, b, hT, hb, hjb, ht⟩ := h.exists_counterpart hE hd
  obtain ⟨hint, hne⟩ := (hj.direction_eq_referencing_iff hs hx).1 hr
  have hxn : ¬ x.Silent := by simp [Reference.Silent, hint]
  -- the one pointed at has no hint, so its partner is the one that calls it
  have hsilent : q.Silent := hx.silent_of_ne hxn hne
  obtain rfl : y = x := hq.eq_of_called hsilent hx.faces.symm (hx.names hxn)
  have hname : d.counterpart = r := by
    rw [hj.counterpart]
    exact Option.some.inj ((hx.names hxn).symm.trans hint)
  refine ⟨T, b, hT, hname ▸ hb, ?_, ?_, ht⟩
  · rw [hjb.counterpart, hj.declaredName]
  · exact (hjb.direction_eq_owning_iff hs hq).2 (.inl hsilent)

/-- **WHAT AN EMITTED BACK REFERENCE LINKS TO**: the edge that it points at
carries the relation and leads back, and is emitted in snake case.  The
target emits an edge to the entity under the very name that is called iff
that name is in snake case, or is the snake case of another edge. -/
theorem emitted_link_iff (h : compile o s = .ok es) {E : Entity} (hE : E ∈ es) {d : Edge}
    (hd : d ∈ E.edges) {n t r : String} (hr : edgeConstructor d = [backCall n t, refCall r]) :
    ∃ T b, es.filter (·.name = t) = [T] ∧ T.edges.filter (·.declaredName = r) = [b]
      ∧ b.counterpart = d.declaredName
      ∧ edgeConstructor b = [forwardCall (Identifier.snake r) E.name]
      ∧ ((∃ x ∈ T.edges, edgeConstructor x = [forwardCall r E.name])
        ↔ Identifier.snake r = r
          ∨ ∃ x ∈ T.edges, x.declaredName ≠ r ∧ x.direction = .owning ∧ x.target = E.name
            ∧ Identifier.snake x.declaredName = r) := by
  obtain ⟨hdirection, rfl, rfl⟩ := edgeConstructor_eq_back_iff.1 hr
  obtain ⟨T, b, hT, hb, hcounterpart, howning, htarget⟩ :=
    (compiled_of_compile h).exists_pointed_at hE hd hdirection
  obtain ⟨hTmem, -⟩ := List.mem_filter.1 (hT ▸ List.mem_singleton_self T)
  obtain ⟨hbmem, hbname⟩ := List.mem_filter.1 (hb ▸ List.mem_singleton_self b)
  have hbname : b.declaredName = r := of_decide_eq_true hbname
  have hsnake : b.name = Identifier.snake r := by
    rw [edge_name_eq h hTmem hbmem, hbname]
  refine ⟨T, b, hT, hb, hcounterpart, ?_, ?_⟩
  · exact edgeConstructor_eq_forward_iff.2 ⟨howning, hsnake, htarget⟩
  · rw [exists_forwardCall_iff h hTmem]
    constructor
    · intro hlink
      obtain ⟨x, hx, hxowning, hxtarget, hxsnake⟩ := hlink
      -- the edge called is the one pointed at, or another one in its place
      by_cases hxr : x.declaredName = r
      · exact .inl (hxr ▸ hxsnake)
      · exact .inr ⟨x, hx, hxr, hxowning, hxtarget, hxsnake⟩
    · intro hlink
      rcases hlink with hr | ⟨x, hx, -, hx'⟩
      · exact ⟨b, hbmem, howning, htarget, hbname ▸ hr⟩
      · exact ⟨x, hx, hx'⟩

/-- Users and the posts they wrote, declared with a capital in the name. -/
def writtenPosts : DescriptorSet :=
  ⟨[{ name := "Post", generate := true,
      fields := [(FieldDescriptor.ofMessage "author" "User").withRef "writtenPosts"] },
    { name := "User", generate := true,
      fields := [(FieldDescriptor.ofMessage "writtenPosts" "Post").asRepeated] }]⟩

/-- Declared names of the edges of an entity and their first calls. -/
def edgeCalls (E : Entity) : List (String × List String) :=
  E.edges.map fun d => (d.declaredName, edgeConstructor d)

theorem edgeCalls_of_writtenPosts (h : compile {} writtenPosts = .ok es) :
    es.map (fun E => (E.name, edgeCalls E))
      = [("Post", [("author", ["edge.From(\"author\", User.Type)", "Ref(\"writtenPosts\")"])]),
        ("User", [("writtenPosts", ["edge.To(\"written_posts\", Post.Type)"])])] := by
  have hcalls : (compile {} writtenPosts).toOption.map
        (fun es => es.map fun E => (E.name, edgeCalls E))
      = some [("Post",
            [("author", ["edge.From(\"author\", User.Type)", "Ref(\"writtenPosts\")"])]),
          ("User", [("writtenPosts", ["edge.To(\"written_posts\", Post.Type)"])])] := by
    decide +kernel
  rw [h] at hcalls
  exact Option.some.inj hcalls

/-- The author of a post is emitted with a link to an edge that users do not
have. -/
theorem writtenPosts_unlinked :
    ∃ es, compile {} writtenPosts = .ok es
      ∧ ∃ E ∈ es, E.name = "Post" ∧ ∃ d ∈ E.edges,
        edgeConstructor d = [backCall "author" "User", refCall "writtenPosts"]
        ∧ ∃ T b, es.filter (·.name = "User") = [T]
          ∧ T.edges.filter (·.declaredName = "writtenPosts") = [b]
          ∧ edgeConstructor b = [forwardCall "written_posts" "Post"]
          ∧ ¬ ∃ x ∈ T.edges, edgeConstructor x = [forwardCall "writtenPosts" "Post"] := by
  obtain ⟨es, h⟩ : ∃ es, compile {} writtenPosts = .ok es := ⟨_, rfl⟩
  have hcalls := edgeCalls_of_writtenPosts h
  obtain ⟨E, hE, hpost⟩ := List.mem_map.1 (hcalls ▸ List.mem_cons_self)
  obtain ⟨hname, hedges⟩ := Prod.mk.inj hpost
  obtain ⟨d, hd, hauthor⟩ := List.mem_map.1 (hedges ▸ List.mem_cons_self)
  have hback : edgeConstructor d = [backCall "author" "User", refCall "writtenPosts"] :=
    (Prod.mk.inj hauthor).2
  obtain ⟨T, b, hT, hb, -, hforward, hlink⟩ := emitted_link_iff h hE hd hback
  rw [hname] at hforward hlink
  have hsnake : Identifier.snake "writtenPosts" = "written_posts" := by decide +kernel
  rw [hsnake] at hforward hlink
  refine ⟨es, h, E, hE, hname, d, hd, hback, T, b, hT, hb, hforward, fun hx => ?_⟩
  rcases hlink.1 hx with hsame | ⟨x, hx, hne, -⟩
  · exact absurd hsame (by decide)
  · -- users have no other edge
    obtain ⟨hTmem, hTname⟩ := List.mem_filter.1 (hT ▸ List.mem_singleton_self T)
    have huser : ("User", edgeCalls T) ∈ es.map fun E => (E.name, edgeCalls E) :=
      List.mem_map.2 ⟨T, hTmem, by rw [of_decide_eq_true hTname]⟩
    have hx : (x.declaredName, edgeConstructor x) ∈ edgeCalls T := List.mem_map_of_mem hx
    rw [hcalls] at huser
    have hT : edgeCalls T = [("writtenPosts", ["edge.To(\"written_posts\", Post.Type)"])] := by
      simpa using huser
    rw [hT, List.mem_singleton] at hx
    exact hne (Prod.mk.inj hx).1

end EntitySchema
