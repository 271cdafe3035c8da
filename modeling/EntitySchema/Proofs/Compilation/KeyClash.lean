/-
  EntitySchema.Proofs.Compilation.KeyClash
  ────────────────────────────────
  **WHEN SORT KEYS CLASH.**

  Three sources write the sort keys of an entity into one space of names:

      own       an attribute                   NAME
      reached   an attribute of one object     EDGE_NAME
      counted   the number of many objects     TARGET_COUNT or EDGE_COUNT

  Within a source distinct members have distinct keys, and lists of the
  same objects are counted under their own names so that theirs differ.
  Nothing compares keys across sources, or a target's name with the name of
  another list:

      Reader   comment, liked : Post   →  COMMENT_COUNT, LIKED_COUNT
               notes : Comment         →  COMMENT_COUNT

  Main result: `order_keys_distinct_iff`.
-/
import EntitySchema.Proofs.Compilation.MemberNames
import EntitySchema.Proofs.Compilation.SortKeys
import EntitySchema.Proofs.Identifier.Absorption
import Mathlib.Data.List.Perm.Subperm

namespace EntitySchema

open Identifier Text

variable {o : CompileOptions} {s : DescriptorSet}

/-! ## §1. Sources of sort keys. -/

/-- Where a sort key of an entity comes from. -/
inductive KeySource where
  /-- An attribute of the entity. -/
  | own (a : Attribute)
  /-- An attribute of the one object that an edge leads to. -/
  | reached (d : Edge) (a : Attribute)
  /-- The number of objects that an edge leads to. -/
  | counted (d : Edge)
  deriving DecidableEq, Repr

/-- Sources of the sort keys of an edge. -/
def Edge.keySources (es : List Entity) (d : Edge) : List KeySource :=
  if d.unique then
    ((es.filter (·.name = d.target)).flatMap (·.mutableAttributes)).map (.reached d)
  else [.counted d]

namespace Entity

/-- Sort keys that an entity offers. -/
def orderKeys (E : Entity) : List String :=
  E.attributes.flatMap (·.orderKeys) ++ E.edges.flatMap (·.orderKeys)

/-- Sources of the sort keys of an entity. -/
def keySources (es : List Entity) (E : Entity) : List KeySource :=
  (E.attributes.filter (·.isSortable)).map .own ++ E.edges.flatMap (·.keySources es)

/-- Sort key of a source. -/
def keyOf (E : Entity) : KeySource → String
  | .own a => sortKey a.name
  | .reached d a => sortKey d.name ++ "_" ++ sortKey a.name
  | .counted d => sortKey (E.countName d) ++ "_COUNT"

end Entity

theorem orderKeys_of_edge {es : List Entity} (h : compile o s = .ok es) {E : Entity}
    (hE : E ∈ es) {d : Edge} (hd : d ∈ E.edges) :
    d.orderKeys = (d.keySources es).map E.keyOf := by
  obtain ⟨T, hT, hname, hannotations⟩ := annotations_of_compile h hE hd
  rw [Edge.orderKeys, hannotations, Edge.derivedAnnotations, Edge.keySources,
    (compiled_of_compile h).filter_name hT hname]
  split
  · rw [List.flatMap_singleton, List.filterMap_map, List.map_map]
    show T.mutableAttributes.filterMap (some ∘ (E.keyOf ∘ KeySource.reached d)) = _
    rw [List.filterMap_eq_map]
  · rfl

theorem orderKeys_of_attributes {l : List Attribute} {E : Entity}
    (h : ∀ a ∈ l, a.orderKeys = if a.isSortable then [sortKey a.name] else []) :
    l.flatMap (·.orderKeys) = ((l.filter (·.isSortable)).map KeySource.own).map E.keyOf := by
  induction l with
  | nil => rfl
  | cons a l ih =>
      obtain ⟨ha, hl⟩ := List.forall_mem_cons.1 h
      rw [List.flatMap_cons, ha, ih hl, List.filter_cons]
      split <;> rfl

/-- **Every sort key has a source**, and every source a key, in the same
order. -/
theorem orderKeys_of_entity {es : List Entity} (h : compile o s = .ok es) {E : Entity}
    (hE : E ∈ es) : E.orderKeys = (E.keySources es).map E.keyOf := by
  rw [Entity.orderKeys, Entity.keySources, List.map_append, List.map_flatMap,
    orderKeys_of_attributes fun a ha => orderKeys_of_compile h hE ha,
    List.flatMap_congr fun d hd => orderKeys_of_edge h hE hd]

/-! ## §2. Sources that nothing keeps apart. -/

namespace KeySource

/-- Declared name that the key of a source ends in. -/
def declaredName : KeySource → String
  | .own a => a.declaredName
  | .reached _ a => a.declaredName
  | .counted d => d.declaredName

/-- Two sources of an entity whose keys may be the same. -/
inductive Rivals (E : Entity) : KeySource → KeySource → Prop where
  /-- `author_name`, and the `name` of an `author`. -/
  | ownReached (a d b) : Rivals E (.own a) (.reached d b)
  /-- `post_count`, and the number of posts. -/
  | ownCounted (a d) : Rivals E (.own a) (.counted d)
  /-- The `count` of a `post`, and the number of posts. -/
  | reachedCounted (d b d') : Rivals E (.reached d b) (.counted d')
  /-- The `b_c` of an `a`, and the `c` of an `a_b`. -/
  | reached {d d'} (b b') (h : d ≠ d') : Rivals E (.reached d b) (.reached d' b')
  /-- Two attributes with one name, of the same object. -/
  | namesakes {b b'} (d) (h : b ≠ b') (hname : b.name = b'.name) :
      Rivals E (.reached d b) (.reached d b')
  /-- The number of objects under the name of their entity, and the number
  of other objects. -/
  | counted {d d'} (h : d.target ≠ d'.target) (hname : E.countName d = d.target) :
      Rivals E (.counted d) (.counted d')
  /-- Beyond ASCII: the capitals of `ß` are those of `ss`. -/
  | foreign {x y} (h : x ≠ y) (hx : ¬ Ascii x.declaredName.toList) : Rivals E x y

theorem Rivals.ne {E : Entity} {x y : KeySource} (h : Rivals E x y) : x ≠ y := by
  cases h with
  | ownReached | ownCounted | reachedCounted => exact KeySource.noConfusion
  | reached _ _ h => exact fun heq => h (KeySource.reached.inj heq).1
  | namesakes _ h _ => exact fun heq => h (KeySource.reached.inj heq).2
  | counted h _ => exact fun heq => h (congrArg Edge.target (KeySource.counted.inj heq))
  | foreign h _ => exact h

/-- Edge whose annotations carry the key of a source. -/
def edge? : KeySource → Option Edge
  | .own _ => none
  | .reached d _ => some d
  | .counted d => some d

end KeySource

section Sources

variable {es : List Entity} {E : Entity} {d : Edge}

theorem edge?_of_mem_keySources {x : KeySource} (hx : x ∈ d.keySources es) :
    x.edge? = some d := by
  unfold Edge.keySources at hx
  split at hx
  · obtain ⟨a, -, rfl⟩ := List.mem_map.1 hx
    rfl
  · rw [List.mem_singleton.1 hx]
    rfl

theorem own_mem_keySources {a : Attribute} (h : .own a ∈ E.keySources es) : a ∈ E.attributes := by
  rcases List.mem_append.1 h with h | h
  · obtain ⟨b, hb, heq⟩ := List.mem_map.1 h
    rw [← KeySource.own.inj heq]
    exact (List.mem_filter.1 hb).1
  · obtain ⟨d, -, hd⟩ := List.mem_flatMap.1 h
    cases edge?_of_mem_keySources hd

/-- A source with an edge is one of that edge. -/
theorem mem_keySources_of_edge? {x : KeySource} (h : x ∈ E.keySources es) (hx : x.edge? = some d) :
    d ∈ E.edges ∧ x ∈ d.keySources es := by
  rcases List.mem_append.1 h with h | h
  · obtain ⟨a, -, rfl⟩ := List.mem_map.1 h
    cases hx
  · obtain ⟨b, hb, hxb⟩ := List.mem_flatMap.1 h
    obtain rfl : b = d := Option.some.inj ((edge?_of_mem_keySources hxb).symm.trans hx)
    exact ⟨hb, hxb⟩

theorem reached_mem_keySources {a : Attribute} (h : .reached d a ∈ E.keySources es) :
    ∃ T ∈ es, a ∈ T.attributes := by
  have hd := (mem_keySources_of_edge? h rfl).2
  unfold Edge.keySources at hd
  split at hd
  · obtain ⟨b, hb, heq⟩ := List.mem_map.1 hd
    obtain ⟨T, hT, hbT⟩ := List.mem_flatMap.1 hb
    obtain ⟨-, rfl⟩ := KeySource.reached.inj heq
    exact ⟨T, (List.mem_filter.1 hT).1, (List.mem_filter.1 hbT).1⟩
  · cases List.mem_singleton.1 hd

theorem counted_mem_keySources (h : .counted d ∈ E.keySources es) : d ∈ E.listsOf d.target := by
  obtain ⟨hE, hd⟩ := mem_keySources_of_edge? h rfl
  unfold Edge.keySources at hd
  split at hd
  · obtain ⟨b, -, heq⟩ := List.mem_map.1 hd
    cases heq
  next hmany => exact List.mem_filter.2 ⟨hE, by simpa using hmany⟩

/-- No two keys of an entity have one source. -/
theorem keySources_nodup (h : compile o s = .ok es) (hE : E ∈ es) : (E.keySources es).Nodup := by
  have hattributes : ∀ T ∈ es, T.attributes.Nodup := by
    intro T hT
    obtain ⟨m, -, hm⟩ := exists_left_of_mem (named_of_compile h) T hT
    exact hm.attributes.nodup
  have hc := compiled_of_compile h
  have hedges : E.edges.Nodup := (hc.edges_distinct hE).of_map _
  refine List.nodup_append'.2 ⟨?_, List.nodup_flatMap.2 ⟨fun d hd => ?_, ?_⟩, ?_⟩
  · exact ((hattributes E hE).filter _).map fun _ _ => KeySource.own.inj
  · obtain ⟨T, hT, hname, -⟩ := annotations_of_compile h hE hd
    rw [Edge.keySources, hc.filter_name hT hname, List.flatMap_singleton]
    split
    · exact ((hattributes T hT).filter _).map fun _ _ heq => (KeySource.reached.inj heq).2
    · exact List.nodup_singleton _
  · -- the sources of two edges differ in the edge
    refine hedges.imp ?_
    intro d d' hne x hx hx'
    exact hne (Option.some.inj ((edge?_of_mem_keySources hx).symm.trans
      (edge?_of_mem_keySources hx')))
  · intro x hown hedge
    obtain ⟨a, -, rfl⟩ := List.mem_map.1 hown
    obtain ⟨d, -, hd⟩ := List.mem_flatMap.1 hedge
    cases edge?_of_mem_keySources hd

end Sources

/-! ## §3. Keys of one kind. -/

section Kinds

variable {es : List Entity} {E : Entity}

/-- Attributes of ASCII names have one name if they have one sort key. -/
theorem attribute_name_eq {T T' : Entity} (hT : T.Spelt) (hT' : T'.Spelt) {a b : Attribute}
    (ha : a ∈ T.attributes) (hb : b ∈ T'.attributes) (haa : Ascii a.declaredName.toList)
    (hba : Ascii b.declaredName.toList) (h : sortKey a.name = sortKey b.name) :
    a.name = b.name := by
  rw [hT.attributes a ha, hT'.attributes b hb] at h ⊢
  rw [sortKey_snake haa, sortKey_snake hba] at h
  exact (sortKey_eq_iff haa hba).1 h

/-- Edges of ASCII names are one if their declared names have one sort
key. -/
theorem edge_eq_of_sortKey_eq (hE : E.Spelt) (hnames : E.memberNames.Nodup) {d d' : Edge}
    (hd : d ∈ E.edges) (hd' : d' ∈ E.edges) (hda : Ascii d.declaredName.toList)
    (hda' : Ascii d'.declaredName.toList) (h : sortKey d.declaredName = sortKey d'.declaredName) :
    d = d' := by
  have hsnake := (sortKey_eq_iff hda hda').1 h
  rw [← hE.edges d hd, ← hE.edges d' hd'] at hsnake
  exact List.inj_on_of_nodup_map hnames.of_append_right hd hd' hsnake

theorem countName_cases (E : Entity) (d : Edge) :
    E.countName d = d.declaredName ∨ E.countName d = d.target := by
  unfold Entity.countName
  split
  · exact .inl rfl
  · exact .inr rfl

/-- Several lists of the same objects are counted under their own names. -/
theorem countName_eq_declaredName {d d' : Edge} (hne : d ≠ d') (hd : d ∈ E.listsOf d.target)
    (hd' : d' ∈ E.listsOf d.target) : E.countName d = d.declaredName := by
  have hpair : [d, d'].Subperm (E.listsOf d.target) :=
    List.subperm_of_subset (by simpa using hne) (by simp [hd, hd'])
  exact if_pos hpair.length_le

/-- **The fallback keeps the counts of the same objects apart**; the counts
of different objects only clash where one is named after its target. -/
theorem counted_rivals (hE : E.Spelt) (hnames : E.memberNames.Nodup) {d d' : Edge} (hne : d ≠ d')
    (hd : d ∈ E.listsOf d.target) (hd' : d' ∈ E.listsOf d'.target)
    (hda : Ascii d.declaredName.toList) (hda' : Ascii d'.declaredName.toList)
    (hkey : sortKey (E.countName d) = sortKey (E.countName d')) :
    d.target ≠ d'.target ∧ (E.countName d = d.target ∨ E.countName d' = d'.target) := by
  -- under names of their own they would be one edge
  have hdeclared : ¬ (E.countName d = d.declaredName ∧ E.countName d' = d'.declaredName) := by
    intro hown
    rw [hown.1, hown.2] at hkey
    exact hne (edge_eq_of_sortKey_eq hE hnames (List.mem_filter.1 hd).1 (List.mem_filter.1 hd').1
      hda hda' hkey)
  constructor
  · intro htarget
    have hd'' : d' ∈ E.listsOf d.target := htarget ▸ hd'
    exact hdeclared ⟨countName_eq_declaredName hne hd hd'',
      countName_eq_declaredName hne.symm hd' (htarget ▸ hd)⟩
  · rcases countName_cases E d with hown | htarget
    · rcases countName_cases E d' with hown' | htarget'
      · exact absurd ⟨hown, hown'⟩ hdeclared
      · exact .inr htarget'
    · exact .inl htarget

/-- **Nothing but rivals clash**: two sources with one key are rivals, if the
entity has no two members of one name. -/
theorem rivals_of_keyOf_eq (hspelt : ∀ T ∈ es, T.Spelt) (hE : E ∈ es)
    (hnames : E.memberNames.Nodup) {x y : KeySource} (hx : x ∈ E.keySources es)
    (hy : y ∈ E.keySources es) (hne : x ≠ y) (hkey : E.keyOf x = E.keyOf y) :
    x.Rivals E y ∨ y.Rivals E x := by
  -- names beyond ASCII are rivals of everything
  by_cases hxa : Ascii x.declaredName.toList
  case neg => exact .inl (.foreign hne hxa)
  by_cases hya : Ascii y.declaredName.toList
  case neg => exact .inr (.foreign hne.symm hya)
  cases x with
  | own a =>
      cases y with
      | own b =>
          -- two attributes of the entity are told apart by their names
          have ha := own_mem_keySources hx
          have hb := own_mem_keySources hy
          have hname := attribute_name_eq (hspelt E hE) (hspelt E hE) ha hb hxa hya hkey
          have hab := List.inj_on_of_nodup_map hnames.of_append_left ha hb hname
          exact absurd (congrArg KeySource.own hab) hne
      | reached d b => exact .inl (.ownReached a d b)
      | counted d => exact .inl (.ownCounted a d)
  | reached d a =>
      cases y with
      | own b => exact .inr (.ownReached b d a)
      | reached d' b =>
          by_cases hd : d = d'
          · subst hd
            -- the keys agree behind the name of the edge, so the attributes do
            obtain ⟨T, hT, ha⟩ := reached_mem_keySources hx
            obtain ⟨T', hT', hb⟩ := reached_mem_keySources hy
            have hname := attribute_name_eq (hspelt T hT) (hspelt T' hT') ha hb hxa hya
              ((String.append_right_inj _).1 hkey)
            exact .inl (.namesakes d (fun hab => hne (hab ▸ rfl)) hname)
          · exact .inl (.reached a b hd)
      | counted d' => exact .inl (.reachedCounted d a d')
  | counted d =>
      cases y with
      | own b => exact .inr (.ownCounted b d)
      | reached d' b => exact .inr (.reachedCounted d' b d)
      | counted d' =>
          obtain ⟨htarget, hname | hname⟩ := counted_rivals (hspelt E hE) hnames
            (fun hdd => hne (congrArg KeySource.counted hdd)) (counted_mem_keySources hx)
            (counted_mem_keySources hy) hxa hya ((String.append_left_inj _).1 hkey)
          · exact .inl (.counted htarget hname)
          · exact .inr (.counted htarget.symm hname)

end Kinds

/-! ## §4. Compilations. -/

/-- **WHEN SORT KEYS CLASH**: each sort key of a compiled entity has a source
of its own.  If no two members of the entity have one name, its keys are
distinct iff no rivals among the sources have the same key. -/
theorem order_keys_distinct_iff {es : List Entity} (h : compile o s = .ok es) {E : Entity}
    (hE : E ∈ es) (hnames : E.memberNames.Nodup) :
    E.orderKeys = (E.keySources es).map E.keyOf
      ∧ (E.orderKeys.Nodup ↔ ∀ x ∈ E.keySources es, ∀ y ∈ E.keySources es,
          x.Rivals E y → E.keyOf x ≠ E.keyOf y) := by
  refine ⟨orderKeys_of_entity h hE, ?_⟩
  rw [orderKeys_of_entity h hE, List.nodup_map_iff_inj_on (keySources_nodup h hE)]
  constructor
  · intro hinj x hx y hy hrivals hkey
    exact hrivals.ne (hinj x hx y hy hkey)
  · intro hapart x hx y hy hkey
    by_contra hne
    have hspelt := fun T hT => spelt_of_compile h (E := T) hT
    rcases rivals_of_keyOf_eq hspelt hE hnames hx hy hne hkey with hxy | hyx
    · exact hapart x hx y hy hxy hkey
    · exact hapart y hy x hx hyx hkey.symm

/-- Readers with two lists of posts, one of them named like the entity of a
third list. -/
def notedPosts : DescriptorSet :=
  ⟨[{ name := "Reader", generate := true,
      fields := [(FieldDescriptor.ofMessage "comment" "Post").asRepeated,
        (FieldDescriptor.ofMessage "liked" "Post").asRepeated,
        (FieldDescriptor.ofMessage "notes" "Comment").asRepeated] },
    { name := "Post", generate := true,
      fields := [(FieldDescriptor.ofMessage "commenter" "Reader").withRef "comment",
        (FieldDescriptor.ofMessage "liker" "Reader").withRef "liked"] },
    { name := "Comment", generate := true,
      fields := [FieldDescriptor.ofMessage "author" "Reader"] }]⟩

theorem notedPosts_clash :
    ∃ es, compile {} notedPosts = .ok es ∧ ∃ E ∈ es, E.memberNames.Nodup ∧ ¬ E.orderKeys.Nodup := by
  let es : List Entity := (compile {} notedPosts).toOption.getD []
  have h : compile {} notedPosts = .ok es := rfl
  let E : Entity := es[0]
  have hE : E ∈ es := List.getElem_mem _
  have hnames : E.memberNames.Nodup := by decide +kernel
  refine ⟨es, h, E, hE, hnames, fun hkeys => ?_⟩
  have hapart := (order_keys_distinct_iff h hE hnames).2.1 hkeys
  -- the notes are counted by the name of a comment, and so are the comments
  refine hapart (.counted E.edges[2]) ?_ (.counted E.edges[0]) ?_ (.counted ?_ ?_) ?_ <;>
    decide +kernel

end EntitySchema
