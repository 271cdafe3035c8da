/-
  EntitySchema.Proofs.Json.WrittenText
  ────────────────────────────────
  **THE TEXT OF A DOCUMENT SPELLS THE DOCUMENT.**

  Reading the text of a plain document gives the document, the members of
  every object in the order of their names.  The reader is followed through
  the text of a value: it starts in a state in which a value has to come and
  ends with that value completed, whatever is written behind it.

      value outer  ──  text of v  ──→  after v outer

  Main results: `read?_fileText`, `Plain.same_inOrder`.
-/
import EntitySchema.Json.Reader
import EntitySchema.Json.Writer
import EntitySchema.Proofs.Json.RoundTrip

namespace EntitySchema.Json

open EntitySchema.Text (hexNumber? charOfCode?)

/-! ## §1. Members in order. -/

theorem inOrderItems_eq (vs : List Json) : inOrderItems vs = vs.map inOrder := by
  induction vs with
  | nil => rfl
  | cons v vs ih => rw [inOrderItems, ih, List.map_cons]

theorem inOrderMembers_eq (ms : List (String × Json)) :
    inOrderMembers ms = ms.map fun m => (m.1, m.2.inOrder) := by
  induction ms with
  | nil => rfl
  | cons m ms ih => rw [inOrderMembers, ih, List.map_cons]

theorem lookup_enter (name k : String) (v : Json) (ms : List (String × Json)) :
    (enter name v ms).lookup k = if k = name then some v else ms.lookup k := by
  induction ms with
  | nil => rw [enter, lookup_cons_eq]
  | cons m ms ih =>
      rw [enter]
      -- the member is replaced, or goes before the first greater name, or further down
      split
      next hj =>
        rw [lookup_cons_eq, lookup_cons_eq, hj]
        split <;> rfl
      next hj =>
        split
        · rw [lookup_cons_eq]
        · rw [lookup_cons_eq, lookup_cons_eq, ih]
          split
          next hk => rw [hk, if_neg (Ne.symm hj)]
          next hk => rfl

/-- Members with names of their own are found among the entered ones. -/
theorem lookup_foldl_enter {ms : List (String × Json)} (hd : (ms.map (·.1)).Nodup)
    (acc : List (String × Json)) (k : String) :
    (ms.foldl (fun acc m => enter m.1 m.2 acc) acc).lookup k
      = (ms.lookup k).or (acc.lookup k) := by
  induction ms generalizing acc with
  | nil => rfl
  | cons m ms ih =>
      obtain ⟨hm, hd⟩ := List.nodup_cons.1 hd
      rw [List.foldl_cons, ih hd, lookup_enter, lookup_cons_eq]
      split
      next hk =>
        -- the name does not come again
        have hnone : ms.lookup k = none := by
          refine Option.eq_none_iff_forall_ne_some.2 fun v hv => hm ?_
          exact List.mem_map.2 ⟨(k, v), (lookup_eq_some_iff_mem hd).1 hv, hk⟩
        rw [hnone]
        rfl
      next hk => rfl

/-- **A plain document with its members in order is the same document.** -/
theorem Plain.same_inOrder {room : Nat} {v : Json} (h : v.Plain room) : v.Same v.inOrder := by
  -- arrays go item by item; members keep their values whatever their order
  induction h with
  | null => exact .null
  | bool b => exact .bool b
  | text s => exact .text s
  | array items ih =>
      rw [inOrder, inOrderItems_eq]
      refine .array ?_
      rw [List.forall₂_map_right_iff, List.forall₂_same]
      exact ih
  | @object room ms distinct members ih =>
      rw [inOrder, ofMembers, inOrderMembers_eq]
      refine .object fun k => ?_
      rw [lookup_foldl_enter (by rwa [List.map_map]), lookup_map_snd, List.lookup_nil,
        Option.or_none]
      cases hv : ms.lookup k with
      | none => exact .none
      | some v => exact .some (ih _ ((lookup_eq_some_iff_mem distinct).1 hv))

/-! ## §2. Texts. -/

theorem hexNumber?_controlCode : ∀ n < 32,
    (hexNumber? ('0' :: '0' :: controlCode n)).bind charOfCode? = some (Char.ofNat n) := by
  decide +kernel

/-- The escape of a code reads as its character, whatever follows. -/
theorem readText_code {a b c d ch : Char} (h : (hexNumber? [a, b, c, d]).bind charOfCode? = some ch)
    (rest : List Char) :
    readText ('\\' :: 'u' :: a :: b :: c :: d :: rest)
      = (readText rest).map fun r => (ch :: r.1, r.2) := by
  obtain ⟨n, hn, hch⟩ := Option.bind_eq_some_iff.1 h
  rw [readText.eq_def]
  split <;> grind

/-- A character is written as an escape that stands for it, as its code, or
as itself if it needs neither. -/
theorem escapeChar_cases (c : Char) :
    (∃ e, escapeChar c = ['\\', e] ∧ escapedChar? e = some c ∧ e ≠ 'u')
      ∨ (c.toNat < 32 ∧ escapeChar c = '\\' :: 'u' :: '0' :: '0' :: controlCode c.toNat)
      ∨ (¬ c.toNat < 32 ∧ escapeChar c = [c] ∧ c ≠ '"' ∧ c ≠ '\\') := by
  unfold escapeChar
  by_cases hquote : c = '"'
  · exact .inl ⟨_, if_pos hquote, by rw [hquote]; rfl, by decide⟩
  by_cases hbackslash : c = '\\'
  · rw [if_neg hquote]
    exact .inl ⟨_, if_pos hbackslash, by rw [hbackslash]; rfl, by decide⟩
  rw [if_neg hquote, if_neg hbackslash]
  by_cases hcontrol : c.toNat < 32
  · -- five control characters have an escape of their own
    split_ifs with h1 h2 h3 h4 h5
    · exact .inl ⟨_, rfl, by rw [h1]; rfl, by decide⟩
    · exact .inl ⟨_, rfl, by rw [h2]; rfl, by decide⟩
    · exact .inl ⟨_, rfl, by rw [h3]; rfl, by decide⟩
    · exact .inl ⟨_, rfl, by rw [h4]; rfl, by decide⟩
    · exact .inl ⟨_, rfl, by rw [h5]; rfl, by decide⟩
    · exact .inr (.inl ⟨hcontrol, rfl⟩)
  · have hne : ∀ d : Char, d.toNat < 32 → c ≠ d := by
      rintro d hd rfl
      exact hcontrol hd
    rw [if_neg (hne _ (by decide)), if_neg (hne _ (by decide)), if_neg (hne _ (by decide)),
      if_neg (hne _ (by decide)), if_neg (hne _ (by decide)), if_neg hcontrol]
    exact .inr (.inr ⟨hcontrol, rfl, hquote, hbackslash⟩)

/-- A written character reads back, whatever follows. -/
theorem readText_escapeChar_append (c : Char) (rest : List Char) :
    readText (escapeChar c ++ rest) = (readText rest).map fun r => (c :: r.1, r.2) := by
  rcases escapeChar_cases c with ⟨e, he, hc, hu⟩ | ⟨hc, he⟩ | ⟨hc, he, hquote, hbackslash⟩
  · rw [he, List.cons_append, List.singleton_append, readText.eq_def]
    split <;> grind
  · rw [he]
    refine readText_code ?_ rest
    rw [← controlCode, hexNumber?_controlCode c.toNat hc, Char.ofNat_toNat]
  · rw [he, List.singleton_append, readText.eq_def]
    split <;> grind

theorem readText_append (cs rest : List Char) :
    readText (cs.flatMap escapeChar ++ '"' :: rest) = some (cs, rest) := by
  induction cs with
  | nil => rw [List.flatMap_nil, List.nil_append, readText]
  | cons c cs ih =>
      rw [List.flatMap_cons, List.append_assoc, readText_escapeChar_append, ih, Option.map_some]

/-! ## §3. Runs of the reader. -/

/-- State after the tokens of a text; none if there is a fault. -/
def run (s : ReaderState) (cs : List Char) : Option ReaderState :=
  (tokens cs).bind fun ts => ts.foldlM ReaderState.next s

theorem run_nil (s : ReaderState) : run s [] = some s := by
  rw [run, tokens]
  rfl

theorem tokens_cons {c : Char} {cs rest : List Char} {t : Option Token}
    (h : nextToken c cs = some (t, rest)) :
    tokens (c :: cs) = (tokens rest).map (t.toList ++ ·) := by
  rw [tokens, h]

/-- The reader goes on behind a token. -/
theorem run_token (t : Token) (rest : List Char) {c : Char} {cs : List Char}
    (h : nextToken c cs = some (some t, rest)) (s : ReaderState) :
    run s (c :: cs) = (s.next t).bind fun s' => run s' rest := by
  unfold run
  rw [tokens_cons h]
  cases tokens rest with
  | none =>
      cases s.next t with
      | none => rfl
      | some s' => rfl
  | some ts => rfl

theorem run_blank {c : Char} (h : isBlank c = true) (s : ReaderState) (cs : List Char) :
    run s (c :: cs) = run s cs := by
  unfold run
  rw [tokens_cons (if_pos h)]
  cases tokens cs with
  | none => rfl
  | some ts => rfl

theorem run_blanks {bs : List Char} (h : ∀ c ∈ bs, isBlank c = true) (s : ReaderState)
    (cs : List Char) : run s (bs ++ cs) = run s cs := by
  induction bs with
  | nil => rfl
  | cons c bs ih =>
      obtain ⟨hc, h⟩ := List.forall_mem_cons.1 h
      rw [List.cons_append, run_blank hc, ih h]

theorem run_lineBreak (level : Nat) (s : ReaderState) (cs : List Char) :
    run s ((lineBreak level).toList ++ cs) = run s cs := by
  refine run_blanks ?_ s cs
  intro c hc
  simp only [lineBreak, String.toList_append, String.toList_ofList, List.mem_append,
    List.mem_replicate] at hc
  rcases hc with hc | ⟨-, rfl⟩
  · rw [List.mem_singleton.1 hc]
    rfl
  · rfl

theorem run_quoted (k : String) (s : ReaderState) (cs : List Char) :
    run s ((quoted k).toList ++ cs) = (s.next (.value (.text k))).bind fun s' => run s' cs := by
  have htoken : nextToken '"' (k.toList.flatMap escapeChar ++ '"' :: cs)
      = some (some (.value (.text k)), cs) := by
    show ((readScalar '"' _).map fun r => (some (Token.value r.1), r.2)) = _
    rw [readScalar, if_pos rfl, readText_append, Option.map_some, Option.map_some,
      String.ofList_toList]
  rw [← run_token _ _ htoken]
  simp [quoted]

/-! ## §4. Containers. -/

/-- A state in which a value may come that belongs into the given
containers. -/
def Starts (s : ReaderState) (outer : List Frame) : Prop :=
  ∀ t, t ≠ .closeArray → s.next t = beginValue outer t

theorem starts_value (outer : List Frame) : Starts (.value outer) outer := fun _ _ => rfl

theorem starts_firstItem (outer : List Frame) : Starts (.firstItem outer) (.items [] :: outer) := by
  intro t ht
  cases t with
  | closeArray => exact absurd rfl ht
  | _ => rfl

/-- A state in which the name of a member may come. -/
def StartsName (s : ReaderState) (done : List (String × Json)) (outer : List Frame) : Prop :=
  ∀ k, s.next (.value (.text k)) = some (.colon done k outer)

theorem startsName_firstName (outer : List Frame) : StartsName (.firstName outer) [] outer :=
  fun _ => rfl

theorem startsName_name (done : List (String × Json)) (outer : List Frame) :
    StartsName (.name done outer) done outer := fun _ => rfl

/-- The reader takes a value from its text at any level, in any state that a
value may come in, if there is room for it. -/
def Reads (room : Nat) (v : Json) : Prop :=
  ∀ (s : ReaderState) (outer : List Frame) (level : Nat) (rest : List Char), Starts s outer →
    outer.length + room ≤ nestingLimit →
      run s ((v.prettyAt level).toList ++ rest) = run (.after v.inOrder outer) rest

/-- Characters of the parts of a container, separated by commas and line
breaks. -/
def partsText (level : Nat) (parts : List String) : List Char :=
  (',' :: (lineBreak level).toList).intercalate (parts.map String.toList)

theorem partsText_singleton (level : Nat) (part : String) :
    partsText level [part] = part.toList := by
  simp [partsText]

theorem partsText_cons_cons (level : Nat) (part next : String) (parts : List String) :
    partsText level (part :: next :: parts)
      = part.toList ++ ',' :: ((lineBreak level).toList ++ partsText level (next :: parts)) := by
  simp [partsText, List.intercalate_cons_cons]

theorem toList_block_nil (opening closing : String) (level : Nat) :
    (block opening closing level []).toList = opening.toList ++ closing.toList := by
  rw [block, String.toList_append]

theorem toList_block_cons (opening closing : String) (level : Nat) (part : String)
    (parts : List String) :
    (block opening closing level (part :: parts)).toList
      = opening.toList ++ ((lineBreak (level + 1)).toList
        ++ (partsText (level + 1) (part :: parts)
          ++ ((lineBreak level).toList ++ closing.toList))) := by
  simp [block, partsText, String.toList_intercalate]

/-- Items are read one after the other up to the closing bracket. -/
theorem run_items {room level closing : Nat} {vs : List Json} (hvs : ∀ v ∈ vs, Reads room v)
    (hne : vs ≠ []) {s : ReaderState} {done : List Json} {outer : List Frame}
    (hs : Starts s (.items done :: outer)) (hroom : outer.length + 1 + room ≤ nestingLimit)
    (rest : List Char) :
    run s (partsText level (prettyItems level vs) ++ ((lineBreak closing).toList ++ ']' :: rest))
      = run (.after (.array (done.reverse ++ vs.map inOrder)) outer) rest := by
  induction vs generalizing s done with
  | nil => exact absurd rfl hne
  | cons v vs ih =>
      obtain ⟨hv, hvs⟩ := List.forall_mem_cons.1 hvs
      have hdone : (v.inOrder :: done).reverse ++ vs.map inOrder
          = done.reverse ++ (v :: vs).map inOrder := by
        rw [List.reverse_cons, List.append_assoc, List.singleton_append, List.map_cons]
      -- behind the last item comes the bracket, behind any other a comma
      cases vs with
      | nil =>
          rw [prettyItems, prettyItems, partsText_singleton, hv s _ level _ hs hroom,
            run_lineBreak, run_token .closeArray rest rfl, ← hdone,
            List.map_nil, List.append_nil]
          rfl
      | cons w vs =>
          rw [prettyItems, prettyItems, partsText_cons_cons, ← prettyItems, List.append_assoc,
            hv s _ level _ hs hroom, List.cons_append,
            run_token .comma (_ ++ _) rfl, List.append_assoc]
          exact (run_lineBreak ..).trans ((ih hvs (List.cons_ne_nil w vs)
            (starts_value (.items (v.inOrder :: done) :: outer))).trans (by rw [hdone]))

/-- A member is read up to the end of its value. -/
theorem run_member {room level : Nat} {k : String} {v : Json} (hv : Reads room v)
    {s : ReaderState} {done : List (String × Json)} {outer : List Frame}
    (hs : StartsName s done outer) (hroom : outer.length + 1 + room ≤ nestingLimit)
    (rest : List Char) :
    run s ((quoted k ++ ": " ++ v.prettyAt level).toList ++ rest)
      = run (.after v.inOrder (.members done k :: outer)) rest := by
  have hcolon : (": " : String).toList = [':', ' '] := rfl
  rw [String.toList_append, String.toList_append, List.append_assoc, List.append_assoc,
    run_quoted, hs k, Option.bind_some, hcolon, List.cons_append, List.singleton_append,
    run_token .colon (' ' :: _) rfl]
  exact (run_blank rfl ..).trans (hv _ _ level _ (starts_value (.members done k :: outer)) hroom)

/-- Members are read one after the other up to the closing brace. -/
theorem run_members {room level closing : Nat} {ms : List (String × Json)}
    (hms : ∀ m ∈ ms, Reads room m.2) (hne : ms ≠ []) {s : ReaderState}
    {done : List (String × Json)} {outer : List Frame} (hs : StartsName s done outer)
    (hroom : outer.length + 1 + room ≤ nestingLimit) (rest : List Char) :
    run s (partsText level (prettyMembers level ms)
        ++ ((lineBreak closing).toList ++ '\x7d' :: rest))
      = run (.after (ofMembers (done.reverse ++ ms.map fun m => (m.1, m.2.inOrder))) outer)
        rest := by
  induction ms generalizing s done with
  | nil => exact absurd rfl hne
  | cons m ms ih =>
      obtain ⟨k, v⟩ := m
      obtain ⟨hv, hms⟩ := List.forall_mem_cons.1 hms
      have hdone : ((k, v.inOrder) :: done).reverse ++ ms.map (fun m => (m.1, m.2.inOrder))
          = done.reverse ++ ((k, v) :: ms).map (fun m => (m.1, m.2.inOrder)) := by
        rw [List.reverse_cons, List.append_assoc, List.singleton_append, List.map_cons]
      -- behind the last member comes the brace, behind any other a comma
      cases ms with
      | nil =>
          rw [prettyMembers, prettyMembers, partsText_singleton, run_member hv hs hroom,
            run_lineBreak, run_token .closeObject rest rfl, ← hdone,
            List.map_nil, List.append_nil]
          rfl
      | cons n ms =>
          rw [prettyMembers, prettyMembers, partsText_cons_cons, ← prettyMembers,
            List.append_assoc, run_member hv hs hroom, List.cons_append,
            run_token .comma (_ ++ _) rfl, List.append_assoc]
          exact (run_lineBreak ..).trans ((ih hms (List.cons_ne_nil n ms)
            (startsName_name ((k, v.inOrder) :: done) outer)).trans (by rw [hdone]))

/-! ## §5. Documents. -/

theorem reads_of_token {room : Nat} {v : Json} (c : Char) (cs : List Char)
    (htext : ∀ level, (v.prettyAt level).toList = c :: cs) (horder : v.inOrder = v)
    (htoken : ∀ rest, nextToken c (cs ++ rest) = some (some (.value v), rest)) : Reads room v := by
  intro s outer level rest hs hroom
  rw [htext, List.cons_append, run_token _ _ (htoken rest), hs _ (by simp), horder]
  rfl

/-- Brackets take one level of the room. -/
theorem reads_array {room : Nat} {vs : List Json} (hvs : ∀ v ∈ vs, Reads room v) :
    Reads (room + 1) (.array vs) := by
  intro s outer level rest hs hroom
  have hbrackets : ("[" : String).toList = ['['] ∧ ("]" : String).toList = [']'] := ⟨rfl, rfl⟩
  have hopen : s.next .openArray = some (.firstItem outer) := by
    rw [hs _ (by simp), beginValue, if_pos (by omega)]
  rw [prettyAt, inOrder, inOrderItems_eq]
  -- nothing stands between the brackets of an empty array, not even a line break
  cases vs with
  | nil =>
      rw [prettyItems, toList_block_nil, hbrackets.1, hbrackets.2, List.singleton_append,
        List.cons_append, List.singleton_append, run_token .openArray (']' :: rest) rfl, hopen,
        Option.bind_some, run_token .closeArray rest rfl]
      rfl
  | cons v vs =>
      rw [prettyItems, toList_block_cons, ← prettyItems, hbrackets.1, hbrackets.2,
        List.singleton_append, List.cons_append, run_token .openArray (_ ++ _) rfl, hopen,
        Option.bind_some, List.append_assoc, List.append_assoc, List.append_assoc,
        List.singleton_append, run_lineBreak,
        run_items hvs (List.cons_ne_nil v vs) (starts_firstItem outer) (by omega)]
      rfl

/-- So do braces. -/
theorem reads_object {room : Nat} {ms : List (String × Json)} (hms : ∀ m ∈ ms, Reads room m.2) :
    Reads (room + 1) (.object ms) := by
  intro s outer level rest hs hroom
  have hbraces : ("\x7b" : String).toList = ['\x7b'] ∧ ("\x7d" : String).toList = ['\x7d'] :=
    ⟨rfl, rfl⟩
  have hopen : s.next .openObject = some (.firstName outer) := by
    rw [hs _ (by simp), beginValue, if_pos (by omega)]
  rw [prettyAt, inOrder, inOrderMembers_eq]
  cases ms with
  | nil =>
      rw [prettyMembers, toList_block_nil, hbraces.1, hbraces.2, List.singleton_append,
        List.cons_append, List.singleton_append, run_token .openObject ('\x7d' :: rest) rfl, hopen,
        Option.bind_some, run_token .closeObject rest rfl]
      rfl
  | cons m ms =>
      rw [prettyMembers, toList_block_cons, ← prettyMembers, hbraces.1, hbraces.2,
        List.singleton_append, List.cons_append, run_token .openObject (_ ++ _) rfl, hopen,
        Option.bind_some, List.append_assoc, List.append_assoc, List.append_assoc,
        List.singleton_append, run_lineBreak,
        run_members hms (List.cons_ne_nil m ms) (startsName_firstName outer) (by omega)]
      rfl

/-- **The text of a plain value is read as the value.** -/
theorem Plain.reads {room : Nat} {v : Json} (h : v.Plain room) : Reads room v := by
  induction h with
  | null =>
      exact reads_of_token 'n' ['u', 'l', 'l'] (fun _ => by rw [prettyAt]; rfl) rfl fun _ => rfl
  | bool b =>
      cases b with
      | false =>
          exact reads_of_token 'f' ['a', 'l', 's', 'e'] (fun _ => by rw [prettyAt]; rfl) rfl
            fun _ => rfl
      | true =>
          exact reads_of_token 't' ['r', 'u', 'e'] (fun _ => by rw [prettyAt]; rfl) rfl fun _ => rfl
  | text t =>
      intro s outer level rest hs hroom
      rw [prettyAt, run_quoted, hs _ (by simp)]
      rfl
  | array items ih => exact reads_array ih
  | object distinct members ih => exact reads_object ih

/-- **THE TEXT OF A DOCUMENT SPELLS THE DOCUMENT**, its members in order. -/
theorem read?_fileText {v : Json} (h : v.Plain nestingLimit) :
    read? v.fileText = some v.inOrder := by
  have hrun : run (.value []) v.fileText.toList = some (.after v.inOrder []) := by
    have hend : ("\n" : String).toList = ['\n'] := rfl
    rw [fileText, pretty, String.toList_append, h.reads _ [] 0 _ (starts_value []) (by simp), hend,
      run_blank rfl, run_nil]
  rw [run, Option.bind_eq_some_iff] at hrun
  obtain ⟨ts, hts, hrun⟩ := hrun
  rw [read?, hts, Option.bind_some, ofTokens?, hrun]

end EntitySchema.Json
