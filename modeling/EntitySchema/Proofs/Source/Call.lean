/-
  EntitySchema.Proofs.Source.Call
  ────────────────────────────────
  **A CHAIN OF CALLS TELLS ITS CALLS.**

  What stands between the brackets of a call tells where it ends: a literal
  at its closing quote, a raw literal at its backquote, a call at its
  bracket.  So a list of such items can be told from the text that it starts,
  whatever quotes, brackets or dots the values hold:

      Comment("a).Unique(")        one call
      Comment("a").Unique()        two of them

  A call that may be missing is told by its name, if each name is used once.

  Main results: `items_append_inj`, `tail_inj`, `present_inj`.
-/
import EntitySchema.Proofs.Source.StructTag
import EntitySchema.Proofs.Text.Lines
import EntitySchema.Source.OrmSchema

namespace EntitySchema.Source

open EntitySchema.Text (upTo_append)

variable {α : Type} {P : α → Prop} {f : α → String} {x y : String}

/-! ## §1. Texts that tell where they end. -/

/-- A written value, whatever follows it, tells itself and what follows. -/
def Delimits (P : α → Prop) (f : α → String) : Prop :=
  ∀ a b x y, P a → P b → f a ++ x = f b ++ y → a = b ∧ x = y

/-- What comes before the first mark is told by it. -/
theorem append_mark_inj (c : Char) {s t : String} (hs : c ∉ s.toList) (ht : c ∉ t.toList)
    (hx : x.toList.head? = some c) (hy : y.toList.head? = some c) (h : s ++ x = t ++ y) :
    s = t ∧ x = y := by
  have hst : s = t := by rw [← upTo_append hs hx, h, upTo_append ht hy]
  subst hst
  exact ⟨rfl, (String.append_right_inj s).1 h⟩

/-- Here a list ends: no separator follows, and no value. -/
structure Stops (P : α → Prop) (f : α → String) (separator x : String) : Prop where
  noSeparator : ∀ z, x ≠ separator ++ z
  noValue : ∀ a, P a → ∀ z, x ≠ f a ++ z

theorem exists_intercalate_cons (separator : String) (a : α) (as : List α) :
    ∃ z, separator.intercalate ((a :: as).map f) ++ x = f a ++ z := by
  cases as with
  | nil => exact ⟨x, by rw [List.map_singleton, String.intercalate_singleton]⟩
  | cons a' as =>
      refine ⟨separator ++ (separator.intercalate ((a' :: as).map f) ++ x), ?_⟩
      rw [List.map_cons, List.map_cons, String.intercalate_cons_cons, String.append_assoc,
        String.append_assoc]

/-- **A LIST TELLS ITS VALUES** if each of them tells itself and its end shows. -/
theorem Delimits.intercalate (h : Delimits P f) {separator : String} {as bs : List α}
    (has : ∀ a ∈ as, P a) (hbs : ∀ b ∈ bs, P b) (hx : Stops P f separator x)
    (hy : Stops P f separator y)
    (heq : separator.intercalate (as.map f) ++ x = separator.intercalate (bs.map f) ++ y) :
    as = bs ∧ x = y := by
  have hempty : separator.intercalate [] = "" := String.intercalate_nil
  -- on the first list: the second one goes on as long, since no end is a value or a separator
  induction as generalizing bs with
  | nil =>
      cases bs with
      | nil => exact ⟨rfl, by simpa [hempty] using heq⟩
      | cons b bs =>
          obtain ⟨z, hz⟩ := exists_intercalate_cons (f := f) (x := y) separator b bs
          rw [hz, List.map_nil, hempty, String.empty_append] at heq
          exact absurd heq (hx.noValue b (hbs b List.mem_cons_self) z)
  | cons a as ih =>
      obtain ⟨ha, has⟩ := List.forall_mem_cons.1 has
      cases bs with
      | nil =>
          obtain ⟨z, hz⟩ := exists_intercalate_cons (f := f) (x := x) separator a as
          rw [hz, List.map_nil, hempty, String.empty_append] at heq
          exact absurd heq.symm (hy.noValue a ha z)
      | cons b bs =>
          obtain ⟨hb, hbs⟩ := List.forall_mem_cons.1 hbs
          match as, bs with
          | [], [] =>
              simp only [List.map_cons, List.map_nil, String.intercalate_singleton] at heq
              obtain ⟨rfl, hxy⟩ := h a b x y ha hb heq
              exact ⟨rfl, hxy⟩
          | [], b' :: bs =>
              simp only [List.map_cons, List.map_nil, String.intercalate_singleton,
                String.intercalate_cons_cons, String.append_assoc] at heq
              exact absurd (h a b _ _ ha hb heq).2 (hx.noSeparator _)
          | a' :: as, [] =>
              simp only [List.map_cons, List.map_nil, String.intercalate_singleton,
                String.intercalate_cons_cons, String.append_assoc] at heq
              exact absurd (h a b _ _ ha hb heq).2.symm (hy.noSeparator _)
          | a' :: as, b' :: bs =>
              simp only [List.map_cons, String.intercalate_cons_cons, String.append_assoc] at heq
              obtain ⟨rfl, hrest⟩ := h a b _ _ ha hb heq
              rw [String.append_right_inj, ← List.map_cons, ← List.map_cons] at hrest
              obtain ⟨hsame, hxy⟩ := ih has hbs hrest
              exact ⟨by rw [hsame], hxy⟩

/-! ## §2. Items. -/

/-- What may stand between the brackets of a call. -/
inductive Item where
  | literal (s : String)
  | tag (s : String)
  /-- A function that is called on literals. -/
  | option (call : String × List String)

namespace Item

/-- Functions that are called among the arguments. -/
def optionNames : List String :=
  ["edge.Symbols", "edge.Columns", "edge.Column", "edge.Table", "edge.Symbol",
   "entgql.OrderField", "entgql.Type", "entgql.RelayConnection"]

/-- Source of an item. -/
def source : Item → String
  | .literal s => quote s
  | .tag s => raw s
  | .option call => call.1 ++ "(" ++ quoteAll call.2 ++ ")"

/-- An item that can be told: a tag without backquotes, a known function. -/
def Plain : Item → Prop
  | .literal _ => True
  | .tag s => backquote ∉ s.toList
  | .option call => call.1 ∈ optionNames

end Item

theorem delimits_quote : Delimits (fun _ => True) quote := fun _ _ _ _ _ _ h => quote_append_inj.1 h

theorem raw_of_notMem {s : String} (h : backquote ∉ s.toList) :
    raw s = String.singleton backquote ++ (s ++ String.singleton backquote) := by
  rcases raw_cases s with ⟨hquoted, -, -⟩ | ⟨-, -, hraw⟩
  · simp [isQuotedTag, h] at hquoted
  · have htext : tagText s = s := by
      rw [tagText, if_neg]
      intro hliteral
      obtain ⟨t, -, heq⟩ := isRawLiteral_iff.1 hliteral
      exact h (by rw [heq]; exact List.mem_cons_self)
    rw [← String.toList_inj, hraw, htext]
    simp [enclosed]

theorem delimits_raw : Delimits (fun s => backquote ∉ s.toList) raw := by
  intro s t x y hs ht h
  simp only [raw_of_notMem hs, raw_of_notMem ht, String.append_assoc,
    String.append_right_inj] at h
  obtain ⟨rfl, hxy⟩ := append_mark_inj backquote hs ht (by simp) (by simp) h
  exact ⟨rfl, (String.append_right_inj _).1 hxy⟩

/-- A list between brackets ends at the closing one, unless a value starts with
it. -/
theorem stops_bracket (h : ∀ a, P a → ∃ c rest, (f a).toList = c :: rest ∧ c ≠ ')') (x : String) :
    Stops P f ", " (")" ++ x) where
  noSeparator z heq := by simpa using congrArg String.toList heq
  noValue a ha z heq := by
    obtain ⟨c, rest, hc, hne⟩ := h a ha
    have hlist := congrArg String.toList heq
    rw [String.toList_append, String.toList_append, hc] at hlist
    exact hne (List.cons.inj hlist).1.symm

/-- Literals up to the closing bracket. -/
theorem quoteAll_append_inj {ss ts : List String}
    (h : quoteAll ss ++ (")" ++ x) = quoteAll ts ++ (")" ++ y)) : ss = ts ∧ x = y := by
  have hstop := stops_bracket (P := fun _ => True) (f := quote)
    fun s _ => ⟨'"', _, toList_quote s, by decide⟩
  obtain ⟨hst, hxy⟩ := delimits_quote.intercalate (fun _ _ => trivial) (fun _ _ => trivial)
    (hstop x) (hstop y) h
  exact ⟨hst, (String.append_right_inj _).1 hxy⟩

namespace Item

/-- Character that an item starts with. -/
def mark : Item → Char
  | .literal _ => '"'
  | .tag _ => backquote
  | .option _ => 'e'

theorem exists_toList_source {i : Item} (hi : i.Plain) :
    ∃ rest, i.source.toList = i.mark :: rest := by
  cases i with
  | literal s => exact ⟨_, toList_quote s⟩
  | tag s =>
      rw [source, raw_of_notMem hi]
      exact ⟨s.toList ++ [backquote], by simp [mark]⟩
  | option call =>
      have hhead : ∀ n ∈ optionNames, n.toList.head? = some 'e' := by decide
      obtain ⟨rest, hrest⟩ := List.head?_eq_some_iff.1 (hhead _ hi)
      exact ⟨rest ++ ("(" ++ quoteAll call.2 ++ ")").toList, by simp [source, hrest, mark]⟩

theorem mark_eq {i j : Item} (hi : i.Plain) (hj : j.Plain) (h : i.source ++ x = j.source ++ y) :
    i.mark = j.mark := by
  obtain ⟨rest, hrest⟩ := exists_toList_source hi
  obtain ⟨rest', hrest'⟩ := exists_toList_source hj
  have hlist := congrArg String.toList h
  rw [String.toList_append, String.toList_append, hrest, hrest'] at hlist
  exact (List.cons.inj hlist).1

theorem delimits_source : Delimits Plain source := by
  intro i j x y hi hj h
  -- the kinds of arguments begin with different characters
  have hmark := mark_eq hi hj h
  match i, j with
  | .literal s, .literal t =>
      obtain ⟨rfl, hxy⟩ := quote_append_inj.1 h
      exact ⟨rfl, hxy⟩
  | .tag s, .tag t =>
      obtain ⟨rfl, hxy⟩ := delimits_raw s t x y hi hj h
      exact ⟨rfl, hxy⟩
  | .option call, .option call' =>
      have hname : ∀ n ∈ optionNames, '(' ∉ n.toList := by decide
      simp only [source, String.append_assoc] at h
      obtain ⟨hn, hrest⟩ := append_mark_inj '(' (hname _ hi) (hname _ hj) (by simp) (by simp) h
      obtain ⟨hs, hxy⟩ := quoteAll_append_inj ((String.append_right_inj _).1 hrest)
      exact ⟨congrArg _ (Prod.ext hn hs), hxy⟩
  | .literal _, .tag _ | .literal _, .option _ | .tag _, .literal _ | .tag _, .option _
  | .option _, .literal _ | .option _, .tag _ => simp [mark, backquote] at hmark

end Item

/-- Items up to the closing bracket. -/
theorem items_append_inj {is js : List Item} (his : ∀ i ∈ is, i.Plain) (hjs : ∀ j ∈ js, j.Plain)
    (h : ", ".intercalate (is.map Item.source) ++ (")" ++ x)
      = ", ".intercalate (js.map Item.source) ++ (")" ++ y)) : is = js ∧ x = y := by
  have hstop := stops_bracket (P := Item.Plain) (f := Item.source) fun i hi => by
    obtain ⟨rest, hrest⟩ := Item.exists_toList_source hi
    exact ⟨_, rest, hrest, by cases i <;> simp [Item.mark, backquote]⟩
  obtain ⟨his, hxy⟩ := Item.delimits_source.intercalate his hjs (hstop x) (hstop y) h
  exact ⟨his, (String.append_right_inj _).1 hxy⟩

/-! ## §3. Calls. -/

/-- A call of a method: its name, and what stands between its brackets. -/
abbrev Call := String × List Item

namespace Call

/-- Source of a call. -/
def source (c : Call) : String := c.1 ++ "(" ++ ", ".intercalate (c.2.map Item.source) ++ ")"

/-- A call that can be told. -/
def Plain (c : Call) : Prop := '(' ∉ c.1.toList ∧ ∀ i ∈ c.2, i.Plain

theorem delimits_source : Delimits Plain source := by
  intro c d x y hc hd h
  simp only [source, String.append_assoc] at h
  obtain ⟨hname, hrest⟩ := append_mark_inj '(' hc.1 hd.1 (by simp) (by simp) h
  obtain ⟨hitems, hxy⟩ := items_append_inj hc.2 hd.2 ((String.append_right_inj _).1 hrest)
  exact ⟨Prod.ext hname hitems, hxy⟩

end Call

/-- Calls behind the first one of a chain. -/
def tail (cs : List Call) : String := String.join (cs.map fun c => "." ++ c.source)

theorem tail_cons (c : Call) (cs : List Call) : tail (c :: cs) = "." ++ (c.source ++ tail cs) := by
  rw [tail, List.map_cons, String.join_cons, String.append_assoc, tail]

theorem chain_cons (first : String) (cs : List Call) :
    chain (first :: cs.map Call.source) = first ++ tail cs := by
  unfold chain
  induction cs generalizing first with
  | nil => rw [List.map_nil, String.intercalate_singleton, tail, List.map_nil, String.join_nil,
      String.append_empty]
  | cons c cs ih =>
      rw [List.map_cons, String.intercalate_cons_cons, ih, tail_cons, String.append_assoc]

/-- **A CHAIN TELLS ITS CALLS.** -/
theorem tail_inj {cs ds : List Call} (hcs : ∀ c ∈ cs, c.Plain) (hds : ∀ d ∈ ds, d.Plain)
    (h : tail cs = tail ds) : cs = ds := by
  have hne : ∀ (c : Call) cs, tail [] ≠ tail (c :: cs) := by
    intro c cs heq
    rw [tail_cons] at heq
    simpa [tail] using congrArg String.toList heq
  -- call by call: each one is told from what follows it
  induction cs generalizing ds with
  | nil =>
      cases ds with
      | nil => rfl
      | cons d ds => exact absurd h (hne d ds)
  | cons c cs ih =>
      cases ds with
      | nil => exact absurd h.symm (hne c cs)
      | cons d ds =>
          obtain ⟨hc, hcs⟩ := List.forall_mem_cons.1 hcs
          obtain ⟨hd, hrest⟩ := List.forall_mem_cons.1 hds
          rw [tail_cons, tail_cons, String.append_right_inj] at h
          obtain ⟨hcd, htail⟩ := Call.delimits_source c d _ _ hc hd h
          rw [hcd, ih hcs hrest htail]

/-! ## §4. Calls that may be missing. -/

/-- What is there of named things that may be missing. -/
def present {β : Type} (slots : List (String × Option β)) : List (String × β) :=
  slots.filterMap fun s => s.2.map (s.1, ·)

theorem mem_names_of_mem_present {β : Type} {slots : List (String × Option β)} {n : String} {b : β}
    (h : (n, b) ∈ present slots) : n ∈ slots.map Prod.fst := by
  obtain ⟨⟨m, o⟩, hmem, hslot⟩ := List.mem_filterMap.1 h
  obtain ⟨b', -, heq⟩ := Option.map_eq_some_iff.1 hslot
  cases heq
  exact List.mem_map_of_mem hmem

/-- **WHAT IS THERE TELLS WHAT IS MISSING**, if every name is used once. -/
theorem present_inj {β : Type} {names : List String} (hnames : names.Nodup)
    {slots slots' : List (String × Option β)} (hslots : slots.map Prod.fst = names)
    (hslots' : slots'.map Prod.fst = names) (h : present slots = present slots') :
    slots = slots' := by
  induction names generalizing slots slots' with
  | nil => rw [List.map_eq_nil_iff.1 hslots, List.map_eq_nil_iff.1 hslots']
  | cons n names ih =>
      obtain ⟨hn, hnodup⟩ := List.nodup_cons.1 hnames
      obtain ⟨⟨m, o⟩, rest, rfl, hm, hrest⟩ := List.map_eq_cons_iff.1 hslots
      obtain ⟨⟨m', o'⟩, rest', rfl, hm', hrest'⟩ := List.map_eq_cons_iff.1 hslots'
      obtain rfl : m = n := hm
      obtain rfl : m' = m := hm'
      -- a name that is there on one side alone would be used again on the other
      have honly : ∀ b, (m', b) ∉ present rest ∧ (m', b) ∉ present rest' := fun b =>
        ⟨fun hb => hn (hrest ▸ mem_names_of_mem_present hb),
          fun hb => hn (hrest' ▸ mem_names_of_mem_present hb)⟩
      cases o with
      | none =>
          cases o' with
          | none => rw [ih hnodup hrest hrest' h]
          | some b' =>
              have hmem : (m', b') ∈ present rest := h ▸ List.mem_cons_self
              exact absurd hmem (honly b').1
      | some b =>
          cases o' with
          | none =>
              have hmem : (m', b) ∈ present rest' := h ▸ List.mem_cons_self
              exact absurd hmem (honly b).2
          | some b' =>
              obtain ⟨hb, hpresent⟩ := List.cons.inj h
              cases hb
              rw [ih hnodup hrest hrest' hpresent]

end EntitySchema.Source
