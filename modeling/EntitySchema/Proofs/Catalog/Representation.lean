/-
  EntitySchema.Proofs.Catalog.Representation
  ────────────────────────────────
  **WHAT A CATALOG REPRESENTS.**

  A catalog keeps its entries in a list, their positions in a map from
  names, and within an entry the fields of its message in two lists.  Once
  it is built, all of these tell the same set:

      entries      the selected messages, in declaration order
      positions    name n at i  iff  the entry at i is named n
      lookup       the entry of the name, if such a message is selected
      members      no declared name twice, in one list or across
      references   each among those to one entity, which its type names

  The first three grow together, one entry at a time: that is `Indexed`.
  The two lists of an entry are told apart field by field, so nothing is in
  both.

  Main result: `Catalog.represents_of_build`.
-/
import EntitySchema.Proofs.Catalog.Contents

namespace EntitySchema

open Identifier

variable {o : CompileOptions} {s : DescriptorSet}

/-! ## §1. Members of an entry. -/

/-- No field is both open and stored, so with distinct names no name is. -/
theorem MessageDescriptor.names_nodup {m : MessageDescriptor} (hd : (m.fields.map (·.name)).Nodup)
    (o : CompileOptions) :
    ((m.openReferences o).map (·.name) ++ (m.storedFields o).map (·.name)).Nodup := by
  have hpart : ∀ p : FieldDescriptor → Bool, ((m.fields.filter p).map (·.name)).Nodup :=
    fun p => hd.sublist (List.filter_sublist.map _)
  refine List.nodup_append'.2 ⟨hpart _, hpart _, fun name hreference hattribute => ?_⟩
  obtain ⟨f, hf, rfl⟩ := List.mem_map.1 hreference
  obtain ⟨g, hg, hname⟩ := List.mem_map.1 hattribute
  obtain ⟨hf, hopen⟩ := List.mem_filter.1 hf
  obtain ⟨hg, hstored⟩ := List.mem_filter.1 hg
  -- the two fields of one name are one field
  obtain rfl : g = f := List.inj_on_of_nodup_map hd hg hf hname
  rw [FieldDescriptor.isOpen_eq, hstored, Bool.not_true, Bool.and_false] at hopen
  cases hopen

/-! ## §2. References by their targets. -/

namespace CatalogEntry

variable {e : CatalogEntry}

theorem mem_referencesTo {f : FieldDescriptor} {n : String} :
    f ∈ e.referencesTo n ↔ f ∈ e.references ∧ f.target? = some n := by
  rw [referencesTo, List.mem_filter, decide_eq_true_eq]

theorem referencesTo_sublist (e : CatalogEntry) (n : String) :
    (e.referencesTo n).Sublist e.references :=
  List.filter_sublist

/-- A reference is among those to the entity that its type names, and to no
other. -/
theorem mem_referencesTo_iff_eq {f : FieldDescriptor} (hf : f ∈ e.references) {t : String}
    (ht : f.typeName = some t) (n : String) : f ∈ e.referencesTo n ↔ n = shortTypeName t := by
  rw [mem_referencesTo, FieldDescriptor.target?, ht, Option.map_some, Option.some_inj, eq_comm]
  exact and_iff_right hf

/-- **References are divided by their targets**: those to any distinct names
are all of them, if every target is among the names. -/
theorem flatMap_referencesTo_perm (hd : e.references.Nodup) {ns : List String} (hns : ns.Nodup)
    (hall : ∀ f ∈ e.references, ∃ n ∈ ns, f.target? = some n) :
    (ns.flatMap e.referencesTo).Perm e.references := by
  have hparts : (ns.flatMap e.referencesTo).Nodup := by
    refine List.nodup_flatMap.2 ⟨fun n _ => hd.sublist (e.referencesTo_sublist n), ?_⟩
    -- a field in two parts would have two targets
    refine hns.imp fun hne f hm hn => ?_
    exact hne (Option.some.inj ((mem_referencesTo.1 hm).2.symm.trans (mem_referencesTo.1 hn).2))
  refine (List.perm_ext_iff_of_nodup hparts hd).2 fun f => ?_
  rw [List.mem_flatMap]
  constructor
  · intro h
    obtain ⟨n, -, hf⟩ := h
    exact (mem_referencesTo.1 hf).1
  · intro hf
    obtain ⟨n, hn, htarget⟩ := hall f hf
    exact ⟨n, hn, mem_referencesTo.2 ⟨hf, htarget⟩⟩

/-- What an entry keeps of its message: two lists of members, and the
references divided by their targets. -/
structure Divides (o : CompileOptions) (e : CatalogEntry) : Prop where
  references : e.references = e.message.openReferences o
  attributes : List.Forall₂ (fun f a => classify o e.name f = .ok a) (e.message.storedFields o)
    e.attributes
  /-- No name is declared twice, by references, by attributes or across. -/
  distinct : (e.references.map (·.name) ++ e.attributes.map (·.declaredName)).Nodup
  /-- A reference has a type, and is one of those to the entity that the type
  names, and to no other. -/
  target : ∀ f ∈ e.references, ∃ t, f.typeName = some t ∧ t ≠ ""
    ∧ ∀ n, f ∈ e.referencesTo n ↔ n = shortTypeName t
  ordered : ∀ n, (e.referencesTo n).Sublist e.references
  /-- The references to distinct entities, every target among them, are all
  references, each of them once. -/
  parts : ∀ ns : List String, ns.Nodup → (∀ f ∈ e.references, ∃ n ∈ ns, f.target? = some n) →
    (ns.flatMap e.referencesTo).Perm e.references

theorem divides_of_ofMessage {m : MessageDescriptor} (h : ofMessage o m = .ok e) :
    e.Divides o := by
  have hd := describes_of_ofMessage h
  have hattributes := attributes_of_ofMessage h
  have hnames : (e.references.map (·.name) ++ e.attributes.map (·.declaredName)).Nodup := by
    rw [hd.references, map_declaredName_of_classify hattributes]
    exact MessageDescriptor.names_nodup hd.distinct o
  obtain rfl := hd.message
  refine ⟨hd.references, hattributes, hnames, fun f hf => ?_, e.referencesTo_sublist,
    fun ns hns hall => ?_⟩
  · obtain ⟨t, ht, hne⟩ := typeName_of_ofMessage h (hd.references ▸ hf)
    exact ⟨t, ht, hne, mem_referencesTo_iff_eq hf ht⟩
  · exact flatMap_referencesTo_perm hnames.of_append_left.of_map hns hall

end CatalogEntry

/-! ## §3. The catalog. -/

namespace Catalog

variable {c : Catalog}

/-- With distinct names, a name has the position `i` iff the entry there
bears it. -/
theorem Indexed.lookup_eq_some_iff (hc : c.Indexed) (hd : (c.entries.map (·.name)).Nodup)
    {n : String} {i : Nat} :
    c.positions.lookup n = some i ↔ ∃ e, c.entries[i]? = some e ∧ e.name = n := by
  rw [hc n, List.findIdx?_eq_some_iff_getElem]
  constructor
  · intro h
    obtain ⟨hi, hname, -⟩ := h
    exact ⟨c.entries[i], List.getElem?_eq_getElem hi, of_decide_eq_true hname⟩
  · intro h
    obtain ⟨e, he, rfl⟩ := h
    obtain ⟨hi, rfl⟩ := List.getElem?_eq_some_iff.1 he
    refine ⟨hi, decide_eq_true rfl, fun j hj hname => ?_⟩
    -- an earlier entry of the name would be the same one
    have hi' : i < (c.entries.map (·.name)).length := by rwa [List.length_map]
    have hj' : j < (c.entries.map (·.name)).length := Nat.lt_trans hj hi'
    have hnames : (c.entries.map (·.name))[j] = (c.entries.map (·.name))[i] := by
      rw [List.getElem_map, List.getElem_map]
      exact of_decide_eq_true hname
    exact Nat.ne_of_lt hj (hd.getElem_inj_iff.1 hnames)

/-- What a catalog tells about the set that it was built from. -/
structure Represents (o : CompileOptions) (s : DescriptorSet) (c : Catalog) : Prop where
  messages : c.entries.map (·.message) = s.selected
  distinct : (c.entries.map (·.name)).Nodup
  positions : ∀ n i, c.positions.lookup n = some i ↔ ∃ e, c.entries[i]? = some e ∧ e.name = n
  lookup : ∀ n e, c.get? n = some e ↔ e ∈ c.entries ∧ e.name = n
  found : ∀ m ∈ s.selected, ∃ e, c.get? m.name = some e ∧ e.message = m
  missing : ∀ n, n ∉ s.selected.map (·.name) → c.get? n = none
  entries : ∀ e ∈ c.entries, e.Divides o

/-- **WHAT A CATALOG REPRESENTS**: once it is built, it tells the selected
messages, their members and their references, whatever name is asked for. -/
theorem represents_of_build (h : build o s = .ok c) : c.Represents o s := by
  have hl := lists_of_build h
  have hmessages : c.entries.map (·.message) = s.selected := by
    rw [← List.map_id s.selected]
    exact (map_eq_map_of_forall₂ hl.entries fun m e he => he.message.symm).symm
  have hd : (c.entries.map (·.name)).Nodup := hl.names_eq ▸ hl.distinct
  refine ⟨hmessages, hd, fun n i => hl.indexed.lookup_eq_some_iff hd,
    fun n e => hl.get?_eq_some_iff, fun m hm => ?_, fun n hn => ?_, fun e he => ?_⟩
  · obtain ⟨e, he, hm⟩ := hl.exists_entry hm
    exact ⟨e, hl.get?_eq_some_iff.2 ⟨he, hm.name_eq⟩, hm.message⟩
  · -- an entry that is found is named like a selected message
    rw [Option.eq_none_iff_forall_ne_some]
    intro e he
    obtain ⟨hmem, hname⟩ := hl.get?_eq_some_iff.1 he
    exact hn (hname ▸ hl.names_eq ▸ List.mem_map_of_mem hmem)
  · obtain ⟨m, -, hm⟩ := exists_left_of_mem (entries_of_build h) e he
    exact CatalogEntry.divides_of_ofMessage hm

/-- A message whose name has a dot and one without a name, and references to
types whose last segments are other names. -/
def oddlyNamed : DescriptorSet :=
  ⟨[{ name := "a.b", generate := true,
      fields := [{ name := "id", kind := .string }, .ofMessage "owner" "pkg.User",
        .ofMessage "blank" "pkg.", .ofMessage "twin" "a.b",
        .ofMessage "at" "google.protobuf.Timestamp", .ofMessage "author" "User"] },
    { name := "User" },
    { name := "", generate := true }]⟩

/-- The entry of each selected message is found by the whole name; its references
are those to `User`, to no name and to `b`. -/
theorem oddlyNamed_represented :
    ∃ c, build {} oddlyNamed = .ok c ∧ c.Represents {} oddlyNamed
      ∧ (∃ e, c.get? "a.b" = some e
        ∧ e.references.map (·.name) ++ e.attributes.map (·.declaredName)
          = ["owner", "blank", "twin", "author", "id", "at"]
        ∧ (e.referencesTo "User").map (·.name) = ["owner", "author"]
        ∧ (["b", "User", ""].flatMap e.referencesTo).Perm e.references)
      ∧ (∃ e, c.get? "" = some e ∧ e.message = { name := "", generate := true })
      ∧ c.get? "User" = none ∧ c.get? "b" = none := by
  let c : Catalog := (build {} oddlyNamed).toOption.getD empty
  have h : build {} oddlyNamed = .ok c := rfl
  have hc := represents_of_build h
  have hentry : c.entries[0].Divides {} := hc.entries _ (List.getElem_mem _)
  refine ⟨c, h, hc, ⟨c.entries[0], rfl, by decide +kernel, by decide +kernel, ?_⟩, ?_, ?_, ?_⟩
  · exact hentry.parts ["b", "User", ""] (by decide) (by decide +kernel)
  · exact hc.found { name := "", generate := true } (by decide)
  · exact hc.missing "User" (by decide)
  · exact hc.missing "b" (by decide)

end Catalog
end EntitySchema
