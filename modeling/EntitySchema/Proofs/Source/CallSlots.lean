/-
  EntitySchema.Proofs.Source.CallSlots
  ────────────────────────────────
  **A CALL FOR EVERY PROPERTY.**

  A property that a definition may have is one call, made or not: on nothing
  for a flag, on literals for texts, on other calls for annotations and for
  the options of a storage key.  What is written is the calls that are made,
  in order:

      ("Unique", some [])         Unique()
      ("Ref", some ["posts"])     Ref("posts")
      ("Comment", none)

  Every property is told from its arguments, and the arguments from the
  written chain.

  Main result: `slots_inj`.
-/
import EntitySchema.Proofs.Source.Call

namespace EntitySchema.Source

/-! ## §1. Calls by what they show. -/

variable {n : String}

/-- Arguments of a call that is made or not. -/
def flagArgument (shown : Bool) : Option (List Item) := if shown then some [] else none

/-- Arguments of a call on texts that is made if there are any. -/
def listArgument (ss : List String) : Option (List String) := if ss.isEmpty then none else some ss

/-- Arguments of a call on a text that is made if the text is not empty. -/
def textArgument (s : String) : Option (List String) := if s.isEmpty then none else some [s]

/-- Arguments of a call on literals. -/
def literals (ss : List String) : List Item := ss.map .literal

/-- Calls of one name. -/
def calls (n : String) (arguments : Option (List Item)) : List Call :=
  (arguments.map (n, ·)).toList

theorem source_literals (ss : List String) :
    ", ".intercalate ((literals ss).map Item.source) = quoteAll ss := by
  rw [literals, List.map_map]
  rfl

theorem flagCall_eq (n : String) (shown : Bool) :
    flagCall n shown = (calls n (flagArgument shown)).map Call.source := by
  cases shown with
  | false => rfl
  | true => simp [flagCall, calls, flagArgument, Call.source, String.append_assoc]

theorem listCall_eq (n : String) (ss : List String) :
    listCall n ss = (calls n ((listArgument ss).map literals)).map Call.source := by
  unfold listCall listArgument
  split
  · rfl
  · simp [calls, Call.source, source_literals]

/-- A call with an argument shows it by its items. -/
theorem argumentCall_eq {α : Type} (write : String → String) (text : α → String)
    (items : α → List Item)
    (h : ∀ a, write (text a) = ", ".intercalate ((items a).map Item.source)) (o : Option α) :
    argumentCall n write (o.map text) = (calls n (o.map items)).map Call.source := by
  cases o with
  | none => rfl
  | some a => simp [argumentCall, calls, Call.source, h]

theorem literalCall_eq (n : String) (o : Option String) :
    argumentCall n quote o = (calls n (o.map fun s => [.literal s])).map Call.source := by
  have h := argumentCall_eq (n := n) quote id (fun s => [.literal s])
    (fun s => by simp [Item.source]) o
  rwa [Option.map_id] at h

theorem tagCall_eq (n : String) (o : Option String) :
    argumentCall n raw o = (calls n (o.map fun s => [.tag s])).map Call.source := by
  have h := argumentCall_eq (n := n) raw id (fun s => [.tag s]) (fun s => by simp [Item.source]) o
  rwa [Option.map_id] at h

/-! ## §2. Annotations and storage keys. -/

/-- Call of an annotation. -/
def annotationCall : Annotation → String × List String
  | .orderField key => ("entgql.OrderField", [key])
  | .graphqlType type => ("entgql.Type", [type])
  | .relayConnection => ("entgql.RelayConnection", [])

theorem annotationCall_inj {a b : Annotation} (h : annotationCall a = annotationCall b) : a = b := by
  cases a <;> cases b <;> simp [annotationCall] at h ⊢ <;> exact h

/-- Arguments of the call that attaches annotations. -/
def annotationsArgument (annotations : List Annotation) : Option (List Item) :=
  if annotations.isEmpty then none else some (annotations.map (.option ∘ annotationCall))

theorem quoteAll_singleton (s : String) : quoteAll [s] = quote s := by
  rw [quoteAll, List.map_singleton, String.intercalate_singleton]

theorem option_source_singleton (n s : String) :
    (Item.option (n, [s])).source = n ++ "(" ++ quote s ++ ")" := by
  rw [Item.source, quoteAll_singleton]

theorem annotationValue_eq (a : Annotation) :
    annotationValue a = (Item.option (annotationCall a)).source := by
  cases a with
  | orderField key => exact (option_source_singleton "entgql.OrderField" key).symm
  | graphqlType type => exact (option_source_singleton "entgql.Type" type).symm
  | relayConnection => rfl

theorem annotationsCall_eq (annotations : List Annotation) : annotationsCall annotations
    = (calls "Annotations" (annotationsArgument annotations)).map Call.source := by
  unfold annotationsCall annotationsArgument
  split
  · rfl
  · simp only [calls, Call.source, Option.map_some, Option.toList_some, List.map_cons,
      List.map_nil, List.map_map, Function.comp_def, ← annotationValue_eq, String.reduceAppend]

/-- What a storage key says. -/
def keySlots (k : StorageKey) : List (String × Option (List String)) :=
  [("edge.Symbols", listArgument k.symbols), ("edge.Columns", listArgument k.columns),
   ("edge.Column", textArgument k.column), ("edge.Table", textArgument k.table),
   ("edge.Symbol", textArgument k.symbol)]

/-- Items of a storage key. -/
def keyItems (k : StorageKey) : List Item := (present (keySlots k)).map .option

theorem present_cons {β : Type} (n : String) (o : Option β) (slots : List (String × Option β)) :
    present ((n, o) :: slots) = (o.map (n, ·)).toList ++ present slots := by
  cases o <;> rfl

theorem storageKeyOptions_eq (k : StorageKey) :
    storageKeyOptions k = ", ".intercalate ((keyItems k).map Item.source) := by
  -- what is empty is no option, neither as a list nor as a text
  have hlist : ∀ n ss, listCall n ss
      = ((listArgument ss).map (n, ·)).toList.map (Item.source ∘ .option) := by
    intro n ss
    unfold listCall listArgument
    split <;> simp [Item.source]
  have htext : ∀ n s, (if s.isEmpty then [] else [n ++ "(" ++ quote s ++ ")"])
      = ((textArgument s).map (n, ·)).toList.map (Item.source ∘ .option) := by
    intro n s
    unfold textArgument
    split <;> simp [Item.source, quoteAll_singleton]
  have hcolumn := htext "edge.Column" k.column
  have htable := htext "edge.Table" k.table
  have hsymbol := htext "edge.Symbol" k.symbol
  simp only [String.reduceAppend] at hcolumn htable hsymbol
  have hnil : present ([] : List (String × Option (List String))) = [] := rfl
  rw [storageKeyOptions, hlist, hlist, hcolumn, htable, hsymbol, keyItems, keySlots]
  simp only [present_cons, hnil, List.map_append, List.map_map, List.append_assoc,
    List.append_nil]

/-! ## §3. Told from the calls. -/

theorem flagArgument_inj {shown shown' : Bool} (h : flagArgument shown = flagArgument shown') :
    shown = shown' := by
  cases shown <;> cases shown' <;> simp [flagArgument] at h ⊢

theorem listArgument_inj {ss ts : List String} (h : listArgument ss = listArgument ts) :
    ss = ts := by
  cases ss <;> cases ts <;> simp [listArgument] at h ⊢
  exact h

theorem textArgument_inj {s t : String} (h : textArgument s = textArgument t) : s = t := by
  unfold textArgument at h
  split at h <;> split at h
  · next hs ht => rw [String.isEmpty_iff.1 hs, String.isEmpty_iff.1 ht]
  · cases h
  · cases h
  · exact (List.cons.inj (Option.some.inj h)).1

theorem literals_inj {ss ts : List String} (h : literals ss = literals ts) : ss = ts :=
  List.map_injective_iff.2 (fun _ _ => Item.literal.inj) h

theorem literalArgument_inj {o o' : Option String}
    (h : (o.map fun s => [Item.literal s]) = o'.map fun s => [Item.literal s]) : o = o' :=
  Option.map_injective (fun s t hst => by simpa using hst) h

theorem tagArgument_inj {o o' : Option String}
    (h : (o.map fun s => [Item.tag s]) = o'.map fun s => [Item.tag s]) : o = o' :=
  Option.map_injective (fun s t hst => by simpa using hst) h

theorem annotationsArgument_inj {as bs : List Annotation}
    (h : annotationsArgument as = annotationsArgument bs) : as = bs := by
  have hitem : Function.Injective (Item.option ∘ annotationCall) := fun _ _ hab =>
    annotationCall_inj (Item.option.inj hab)
  cases as with
  | nil =>
      cases bs with
      | nil => rfl
      | cons b bs => cases h
  | cons a as =>
      cases bs with
      | nil => cases h
      | cons b bs => exact List.map_injective_iff.2 hitem (Option.some.inj h)

theorem keyItems_inj {k k' : StorageKey} (h : keyItems k = keyItems k') : k = k' := by
  have hpresent : present (keySlots k) = present (keySlots k') :=
    List.map_injective_iff.2 (fun _ _ => Item.option.inj) h
  have hslots : keySlots k = keySlots k' :=
    present_inj (show ["edge.Symbols", "edge.Columns", "edge.Column", "edge.Table",
      "edge.Symbol"].Nodup by decide) rfl rfl hpresent
  simp only [keySlots, List.cons.injEq, Prod.mk.injEq, true_and, and_true] at hslots
  obtain ⟨hsymbols, hcolumns, hcolumn, htable, hsymbol⟩ := hslots
  cases k
  cases k'
  simp only [StorageKey.mk.injEq]
  exact ⟨textArgument_inj htable, listArgument_inj hcolumns, textArgument_inj hcolumn,
    listArgument_inj hsymbols, textArgument_inj hsymbol⟩

/-! ## §4. Chains of calls that may be missing. -/

/-- Arguments that can be told, if there are any. -/
def PlainArgument (o : Option (List Item)) : Prop := ∀ is, o = some is → ∀ i ∈ is, i.Plain

theorem plainArgument_flag (shown : Bool) : PlainArgument (flagArgument shown) := by
  intro is h
  cases shown with
  | false => cases h
  | true => cases h; simp

theorem plainArgument_literal (o : Option String) :
    PlainArgument (o.map fun s => [.literal s]) := by
  intro is h
  obtain ⟨s, -, rfl⟩ := Option.map_eq_some_iff.1 h
  simp [Item.Plain]

theorem plainArgument_literals (o : Option (List String)) : PlainArgument (o.map literals) := by
  intro is h
  obtain ⟨ss, -, rfl⟩ := Option.map_eq_some_iff.1 h
  simp [literals, Item.Plain]

theorem plainArgument_tag {o : Option String} (ho : ∀ t, o = some t → backquote ∉ t.toList) :
    PlainArgument (o.map fun s => [.tag s]) := by
  intro is h
  obtain ⟨t, ht, rfl⟩ := Option.map_eq_some_iff.1 h
  simpa [Item.Plain] using ho t ht

theorem annotationCall_mem (a : Annotation) : (annotationCall a).1 ∈ Item.optionNames := by
  cases a <;> simp [annotationCall, Item.optionNames]

theorem plainArgument_annotations (annotations : List Annotation) :
    PlainArgument (annotationsArgument annotations) := by
  intro is h
  unfold annotationsArgument at h
  split at h
  · cases h
  · cases h
    simp [Item.Plain, annotationCall_mem]

theorem keySlots_names (k : StorageKey) : (keySlots k).map Prod.fst ⊆ Item.optionNames :=
  show ["edge.Symbols", "edge.Columns", "edge.Column", "edge.Table", "edge.Symbol"]
    ⊆ Item.optionNames by decide

theorem plainArgument_key (o : Option StorageKey) : PlainArgument (o.map keyItems) := by
  intro is h i hi
  obtain ⟨k, -, rfl⟩ := Option.map_eq_some_iff.1 h
  obtain ⟨call, hcall, rfl⟩ := List.mem_map.1 hi
  exact keySlots_names k (mem_names_of_mem_present hcall)

/-- **A CHAIN TELLS WHICH CALLS IT HAS**, and their arguments. -/
theorem slots_inj {names : List String} (hnodup : names.Nodup)
    (hbracket : ∀ n ∈ names, '(' ∉ n.toList) {slots slots' : List (String × Option (List Item))}
    (hslots : slots.map Prod.fst = names) (hslots' : slots'.map Prod.fst = names)
    (hplain : ∀ s ∈ slots, PlainArgument s.2) (hplain' : ∀ s ∈ slots', PlainArgument s.2)
    (h : tail (present slots) = tail (present slots')) : slots = slots' := by
  have hcalls : ∀ {slots : List (String × Option (List Item))}, slots.map Prod.fst = names →
      (∀ s ∈ slots, PlainArgument s.2) → ∀ c ∈ present slots, Call.Plain c := by
    intro slots hslots hplain c hc
    refine ⟨hbracket _ (hslots ▸ mem_names_of_mem_present hc), ?_⟩
    obtain ⟨s, hs, hslot⟩ := List.mem_filterMap.1 hc
    obtain ⟨is, his, rfl⟩ := Option.map_eq_some_iff.1 hslot
    exact hplain s hs is his
  exact present_inj hnodup hslots hslots' (tail_inj (hcalls hslots hplain) (hcalls hslots' hplain') h)

end EntitySchema.Source
