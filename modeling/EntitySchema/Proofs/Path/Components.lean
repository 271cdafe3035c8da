/-
  EntitySchema.Proofs.Path.Components
  ────────────────────────────────
  **COMPONENTS OF JOINED PATHS.**

  A path that stays where it belongs neither starts at the root nor goes up.
  Both can be told from its text: by its first character, and by its pieces
  between slashes.  Joining puts the pieces of a relative path behind those
  of the directory:

      ent/schema + a/b.go   ent  schema  a  b.go
      ent/schema + /b.go    the directory is gone

  Main results: `below_join_iff`, `components_join`.
-/
import EntitySchema.Path
import Mathlib.Data.List.Basic

namespace EntitySchema.Path

/-! ## §1. Pieces. -/

variable {t u : List Char}

theorem pieces_slash (t : List Char) : pieces ('/' :: t) = [] :: pieces t := rfl

theorem pieces_ne_nil (t : List Char) : pieces t ≠ [] := by
  cases t with
  | nil => exact List.cons_ne_nil _ _
  | cons c t =>
      rw [pieces]
      split
      · exact List.cons_ne_nil _ _
      · split <;> exact List.cons_ne_nil _ _

/-- Any character but a slash belongs to the first piece. -/
theorem pieces_cons {c : Char} (hc : c ≠ '/') {p : List Char} {ps : List (List Char)}
    (h : pieces t = p :: ps) : pieces (c :: t) = (c :: p) :: ps := by
  rw [pieces, if_neg hc, h]

/-- A text without slashes is a single piece. -/
theorem pieces_of_notMem (h : '/' ∉ t) : pieces t = [t] := by
  induction t with
  | nil => rfl
  | cons c t ih =>
      rw [List.mem_cons, not_or] at h
      exact pieces_cons (Ne.symm h.1) (ih h.2)

/-- A slash ends a piece. -/
theorem pieces_append_slash (t u : List Char) : pieces (t ++ '/' :: u) = pieces t ++ pieces u := by
  induction t with
  | nil => rfl
  | cons c t ih =>
      by_cases hc : c = '/'
      · rw [hc, List.cons_append, pieces_slash, pieces_slash, ih, List.cons_append]
      · obtain ⟨p, ps, h⟩ := List.exists_cons_of_ne_nil (pieces_ne_nil t)
        rw [h, List.cons_append] at ih
        rw [List.cons_append, pieces_cons hc h, pieces_cons hc ih, List.cons_append]

/-- The last piece of a text is all of it, or what follows the last slash. -/
theorem last_piece_cases (t : List Char) : '/' ∉ t ∨ ∃ u v, t = u ++ '/' :: v ∧ '/' ∉ v := by
  induction t with
  | nil => exact .inl List.not_mem_nil
  | cons c t ih =>
      rcases ih with h | ⟨u, v, rfl, hv⟩
      · by_cases hc : c = '/'
        · exact .inr ⟨[], t, by rw [hc, List.nil_append], h⟩
        · exact .inl (by simp [Ne.symm hc, h])
      · exact .inr ⟨c :: u, v, rfl, hv⟩

/-- What is written behind a text without a slash belongs to its last
piece. -/
theorem exists_pieces_append (t : List Char) :
    ∃ last, pieces t = (pieces t).dropLast ++ [last]
      ∧ ∀ u, '/' ∉ u → pieces (t ++ u) = (pieces t).dropLast ++ [last ++ u] := by
  rcases last_piece_cases t with h | ⟨v, w, rfl, hw⟩
  · refine ⟨t, by rw [pieces_of_notMem h]; rfl, fun u hu => ?_⟩
    rw [pieces_of_notMem h, pieces_of_notMem (by simp [h, hu])]
    rfl
  · have hpieces : pieces (v ++ '/' :: w) = pieces v ++ [w] := by
      rw [pieces_append_slash, pieces_of_notMem hw]
    rw [hpieces, List.dropLast_concat]
    refine ⟨w, rfl, fun u hu => ?_⟩
    have hword : '/' ∉ w ++ u := by simp only [List.mem_append, hw, hu, or_self, not_false_eq_true]
    rw [List.append_assoc, List.cons_append, pieces_append_slash, pieces_of_notMem hword]

/-- A text without slashes goes into the first piece. -/
theorem pieces_append_of_notMem (h : '/' ∉ t) {p : List Char} {ps : List (List Char)}
    (hu : pieces u = p :: ps) : pieces (t ++ u) = (t ++ p) :: ps := by
  induction t with
  | nil => exact hu
  | cons c t ih =>
      rw [List.mem_cons, not_or] at h
      exact pieces_cons (Ne.symm h.1) (ih h.2)

/-- The first slash of a text, if there is one. -/
theorem first_piece_cases (t : List Char) : '/' ∉ t ∨ ∃ u v, t = u ++ '/' :: v ∧ '/' ∉ u := by
  rcases last_piece_cases t.reverse with h | ⟨u, v, ht, hv⟩
  · exact .inl (by simpa using h)
  · refine .inr ⟨v.reverse, u.reverse, ?_, by simpa using hv⟩
    rw [← t.reverse_reverse, ht]
    simp

/-- A beginning that a piece may follow. -/
def EndsOpen (t : List Char) : Prop := t = [] ∨ ∃ u, t = u ++ ['/']

/-- What stands between such a beginning and a slash is a piece before the
last one. -/
theorem mem_dropLast_pieces {p : List Char} (hp : '/' ∉ p) (ht : EndsOpen t) (u : List Char) :
    p ∈ (pieces (t ++ p ++ '/' :: u)).dropLast := by
  rw [pieces_append_slash, List.dropLast_append_of_ne_nil (pieces_ne_nil u)]
  refine List.mem_append_left _ ?_
  rcases ht with rfl | ⟨v, rfl⟩
  · rw [List.nil_append, pieces_of_notMem hp]
    exact List.mem_singleton_self p
  · rw [List.append_assoc, List.singleton_append, pieces_append_slash, pieces_of_notMem hp]
    exact List.mem_append_right _ (List.mem_singleton_self p)

theorem exists_of_mem_dropLast_pieces (t : List Char) {p : List Char}
    (h : p ∈ (pieces t).dropLast) : ∃ u v, t = u ++ p ++ '/' :: v ∧ EndsOpen u := by
  -- the first piece is followed by a slash, and the others are pieces of what is behind it
  rcases first_piece_cases t with hslash | ⟨q, t', ht, hq⟩
  · rw [pieces_of_notMem hslash] at h
    exact absurd h List.not_mem_nil
  · have hlength : t'.length < t.length := by
      rw [ht, List.length_append, List.length_cons]
      omega
    rw [ht, pieces_append_slash, pieces_of_notMem hq, List.singleton_append,
      List.dropLast_cons_of_ne_nil (pieces_ne_nil t'), List.mem_cons] at h
    rcases h with rfl | h
    · exact ⟨[], t', ht, .inl rfl⟩
    · obtain ⟨u, v, rfl, hu⟩ := exists_of_mem_dropLast_pieces t' h
      refine ⟨q ++ '/' :: u, v, by simp [ht], .inr ?_⟩
      rcases hu with rfl | ⟨w, rfl⟩
      · exact ⟨q, rfl⟩
      · exact ⟨q ++ '/' :: w, by simp⟩
termination_by t.length

/-! ## §2. Going up. -/

/-- The piece that goes up. -/
def dots : List Char := ['.', '.']

/-- A path goes up somewhere. -/
def GoesUp (p : Path) : Prop := Component.parent ∈ p.components

instance (p : Path) : Decidable p.GoesUp := inferInstanceAs (Decidable (_ ∈ _))

theorem component?_eq_parent_iff {p : List Char} : component? p = some .parent ↔ p = dots := by
  unfold component? dots
  split_ifs with h1 h2
  · grind
  · simp [h2]
  · simp [h2]

theorem parent_mem_filterMap_iff {ps : List (List Char)} :
    Component.parent ∈ ps.filterMap component? ↔ dots ∈ ps := by
  simp [List.mem_filterMap, component?_eq_parent_iff]

/-- The leading component is no piece that goes up, and costs none. -/
theorem dots_mem_pieces_leading (t : List Char) : dots ∈ pieces (leading t).2 ↔ dots ∈ pieces t := by
  unfold leading
  split
  next rest => simp [pieces_slash, dots]
  next => decide
  next rest =>
    rw [pieces_cons (by decide) (pieces_slash rest), pieces_slash]
    simp [dots]
  next => rfl

theorem leading_ne_parent (t : List Char) : (leading t).1 ≠ some .parent := by
  unfold leading
  split <;> simp

theorem goesUp_iff {p : Path} : p.GoesUp ↔ dots ∈ pieces p.toList := by
  rw [GoesUp, components, List.mem_append, Option.mem_toList, parent_mem_filterMap_iff,
    dots_mem_pieces_leading]
  exact or_iff_right (leading_ne_parent _)

/-! ## §3. Paths below a directory. -/

/-- A path that leads from a directory to a place below it. -/
def Below (p : Path) : Prop := p.isAbsolute = false ∧ ¬ p.GoesUp

instance (p : Path) : Decidable p.Below := inferInstanceAs (Decidable (_ ∧ _))

theorem isAbsolute_iff {p : Path} : p.isAbsolute = true ↔ p.toList.head? = some '/' :=
  decide_eq_true_iff

theorem join_of_isAbsolute {d p : Path} (h : p.isAbsolute = true) : join d p = p := if_pos h

/-- The pieces of a relative path stand behind those of the directory. -/
theorem pieces_join {d p : Path} (h : p.isAbsolute = false) :
    (d = "" ∧ join d p = p)
      ∨ ∃ ps, (pieces d.toList = ps ∨ pieces d.toList = ps ++ [[]])
        ∧ pieces (join d p).toList = ps ++ pieces p.toList := by
  unfold join
  rw [if_neg (by simp [h])]
  split_ifs with hd
  · by_cases hempty : d = ""
    · exact .inl ⟨hempty, by rw [hempty, String.empty_append]⟩
    · -- the directory brings the slash itself
      have hlast : d.toList.getLast? = some '/' := by simpa [hempty] using hd
      obtain ⟨t, ht⟩ := List.getLast?_eq_some_iff.1 hlast
      refine .inr ⟨pieces t, .inr ?_, ?_⟩
      · rw [ht, pieces_append_slash]
        rfl
      · rw [String.toList_append, ht, List.append_assoc, List.singleton_append,
          pieces_append_slash]
  · refine .inr ⟨pieces d.toList, .inl rfl, ?_⟩
    have hslash : ("/" : String).toList = ['/'] := rfl
    rw [String.toList_append, String.toList_append, hslash, List.append_assoc,
      List.singleton_append, pieces_append_slash]

theorem goesUp_join_iff {d p : Path} (h : p.isAbsolute = false) :
    (join d p).GoesUp ↔ d.GoesUp ∨ p.GoesUp := by
  simp only [goesUp_iff]
  rcases pieces_join (d := d) h with ⟨hd, hjoin⟩ | ⟨ps, hd, hjoin⟩
  · have hempty : pieces ("" : String).toList = [[]] := rfl
    rw [hjoin, hd, hempty]
    simp [dots]
  · rw [hjoin, List.mem_append]
    rcases hd with hd | hd
    · rw [hd]
    · rw [hd]
      simp [dots]

theorem isAbsolute_join {d p : Path} (h : p.isAbsolute = false) :
    (join d p).isAbsolute = d.isAbsolute := by
  unfold join
  rw [if_neg (by simp [h])]
  by_cases hempty : d = ""
  · rw [hempty]
    simpa [isAbsolute] using h
  · have hne : d.toList ≠ [] := by simpa using hempty
    obtain ⟨c, t, hd⟩ := List.exists_cons_of_ne_nil hne
    split_ifs <;> simp [isAbsolute, hd]

/-- **A file lies below its directory iff its path leads there**, the
directory being below as well. -/
theorem below_join_iff {d p : Path} (hd : d.Below) : (join d p).Below ↔ p.Below := by
  by_cases h : p.isAbsolute = true
  · rw [join_of_isAbsolute h]
  · rw [Bool.not_eq_true] at h
    unfold Below
    rw [isAbsolute_join h, goesUp_join_iff h, hd.1, h]
    simp [hd.2]

/-! ## §4. Names with an ending. -/

/-- A text that leads away, whatever is written behind it: what follows its
last slash may be two dots, since more will follow them. -/
def LeadsAway (t : List Char) : Prop := t.head? = some '/' ∨ dots ∈ (pieces t).dropLast

instance (t : List Char) : Decidable (LeadsAway t) := inferInstanceAs (Decidable (_ ∨ _))

/-- An ending has no slash, and is more than dots. -/
structure Ending (ending : String) : Prop where
  noSlash : '/' ∉ ending.toList := by decide
  undotted : ending.toList.any (· != '.') = true := by decide

theorem Ending.exists_undotted {ending : String} (h : Ending ending) :
    ∃ c ∈ ending.toList, c ≠ '.' := by
  simpa using h.undotted

theorem dots_mem_pieces_append_iff {s ending : String} (h : Ending ending) :
    dots ∈ pieces (s ++ ending).toList ↔ dots ∈ (pieces s.toList).dropLast := by
  obtain ⟨last, -, happend⟩ := exists_pieces_append s.toList
  obtain ⟨c, hc, hdot⟩ := h.exists_undotted
  -- the last piece is not two dots with the ending behind it
  have hlast : dots ≠ last ++ ending.toList := by
    intro heq
    have hmem : c ∈ dots := by
      rw [heq]
      exact List.mem_append_right _ hc
    simp [dots, hdot] at hmem
  rw [String.toList_append, happend _ h.noSlash, List.mem_append, List.mem_singleton]
  exact or_iff_left hlast

theorem isAbsolute_append {s ending : String} (h : Ending ending) :
    isAbsolute (s ++ ending) = isAbsolute s := by
  by_cases hs : s = ""
  · have hhead : ending.toList.head? ≠ some '/' :=
      fun heq => h.noSlash (List.mem_of_mem_head? heq)
    rw [hs, String.empty_append]
    simpa [isAbsolute] using hhead
  · have hne : s.toList ≠ [] := by simpa using hs
    obtain ⟨c, t, hc⟩ := List.exists_cons_of_ne_nil hne
    simp [isAbsolute, hc]

theorem below_append_iff {s ending : String} (h : Ending ending) :
    Below (s ++ ending) ↔ ¬ LeadsAway s.toList := by
  rw [Below, LeadsAway, not_or, isAbsolute_append h, goesUp_iff, dots_mem_pieces_append_iff h,
    ← isAbsolute_iff, Bool.not_eq_true]

/-! ## §5. Components of joined paths. -/

/-- Components that the pieces of a path give. -/
def steps (p : Path) : List Component := (pieces p.toList).filterMap component?

/-- The leading component comes on top of the steps. -/
theorem components_eq (p : Path) : p.components = (leading p.toList).1.toList ++ p.steps := by
  have hrest : ∀ t : List Char, (pieces (leading t).2).filterMap component?
      = (pieces t).filterMap component? := by
    intro t
    unfold leading
    split
    next rest => rfl
    next => rfl
    next rest =>
      rw [pieces_cons (by decide) (pieces_slash rest), pieces_slash]
      rfl
    next => rfl
  rw [components, steps, ← hrest]

theorem leading_cons_cons (c d : Char) (t : List Char) :
    (leading (c :: d :: t)).1 = if c = '/' then some .root
      else if c = '.' ∧ d = '/' then some .current else none := by
  unfold leading
  split <;> simp_all

/-- The leading component of a directory is that of what lies in it. -/
theorem leading_append_slash {t : List Char} (h : t ≠ []) (u : List Char) :
    (leading (t ++ '/' :: u)).1 = (leading t).1 := by
  match t with
  | [] => exact absurd rfl h
  | [c] =>
      have hc : (leading [c]).1 = if c = '/' then some .root
          else if c = '.' then some .current else none := by
        unfold leading
        split <;> simp_all
      rw [List.singleton_append, leading_cons_cons, hc]
      simp
  | c :: d :: t => rw [List.cons_append, List.cons_append, leading_cons_cons, leading_cons_cons]

/-- **COMPONENTS OF JOINED PATHS**: those of the directory, then those of the
relative path but for a leading dot. -/
theorem components_join {d p : Path} (hd : d ≠ "") (h : p.isAbsolute = false) :
    (join d p).components = d.components ++ p.steps := by
  have hslash : ("/" : String).toList = ['/'] := rfl
  have hne : d.toList ≠ [] := by simpa using hd
  unfold join
  rw [if_neg (by simp [h])]
  split_ifs with hlast
  · have hlast : d.toList.getLast? = some '/' := by simpa [hd] using hlast
    obtain ⟨t, ht⟩ := List.getLast?_eq_some_iff.1 hlast
    have hlead : (leading (t ++ '/' :: p.toList)).1 = (leading (t ++ ['/'])).1 := by
      cases t with
      | nil => rfl
      | cons c t =>
          rw [leading_append_slash (List.cons_ne_nil c t),
            leading_append_slash (List.cons_ne_nil c t)]
    simp only [components_eq, steps, String.toList_append]
    rw [ht, List.append_assoc, List.singleton_append, hlead, pieces_append_slash,
      pieces_append_slash, List.filterMap_append, List.filterMap_append, List.append_assoc,
      List.append_assoc]
    rfl
  · simp only [components_eq, steps, String.toList_append]
    rw [hslash, List.append_assoc, List.singleton_append, leading_append_slash hne,
      pieces_append_slash, List.filterMap_append, List.append_assoc]

/-- A component that leads on from where one is. -/
def Component.Onward (c : Component) : Prop := c ≠ .root ∧ c ≠ .parent

theorem leading_ne_root {t : List Char} (h : t.head? ≠ some '/') :
    (leading t).1 ≠ some .root := by
  unfold leading
  split <;> simp_all

theorem component?_ne_root (p : List Char) : component? p ≠ some .root := by
  unfold component?
  split_ifs <;> simp

theorem Below.steps_onward {p : Path} (h : p.Below) : ∀ c ∈ p.steps, c.Onward := by
  intro c hc
  constructor
  · rintro rfl
    obtain ⟨p, -, hp⟩ := List.mem_filterMap.1 hc
    exact component?_ne_root p hp
  · rintro rfl
    exact h.2 (goesUp_iff.2 (parent_mem_filterMap_iff.1 hc))

/-- **A path below a directory never leaves it.** -/
theorem Below.join_onward {p : Path} (h : p.Below) (d : Path) :
    ∃ rest, (join d p).components = d.components ++ rest ∧ ∀ c ∈ rest, c.Onward := by
  -- joined to the empty path it is the path itself, of which only the beginning could go back
  by_cases hd : d = ""
  · have hjoin : join d p = p := by
      rw [hd, join, if_neg (by simp [h.1])]
      exact String.empty_append
    refine ⟨p.components, by rw [hjoin, hd]; rfl, fun c hc => ?_⟩
    rw [components_eq, List.mem_append, Option.mem_toList] at hc
    rcases hc with hc | hc
    · constructor
      · rintro rfl
        exact leading_ne_root (by simpa [isAbsolute] using h.1) hc
      · rintro rfl
        exact leading_ne_parent _ hc
    · exact h.steps_onward c hc
  · exact ⟨_, components_join hd h.1, h.steps_onward⟩

/-! ## §6. Names of files. -/

/-- An ending goes behind what a path is joined with. -/
theorem join_append {ending : String} (h : Ending ending) (d s : Path) :
    join d (s ++ ending) = join d s ++ ending := by
  unfold join
  rw [isAbsolute_append h]
  split_ifs <;> simp only [String.append_assoc]

/-- Texts that end in different characters, two of them, are different. -/
theorem append_ne_append {e e' : String} (h : 2 ≤ e.toList.length ∧ 2 ≤ e'.toList.length
    ∧ e.toList.reverse.take 2 ≠ e'.toList.reverse.take 2) (t t' : String) : t ++ e ≠ t' ++ e' := by
  obtain ⟨he, he', hne⟩ := h
  intro heq
  have hends := congrArg (fun u : String => u.toList.reverse.take 2) heq
  simp only [String.toList_append, List.reverse_append] at hends
  rw [List.take_append_of_le_length (by simpa using he),
    List.take_append_of_le_length (by simpa using he')] at hends
  exact hne hends

/-- A text does not end in what is not a suffix of it. -/
theorem append_ne {e w : String} (h : ¬ e.toList <:+ w.toList) (t : String) : t ++ e ≠ w := by
  rintro rfl
  exact h ⟨t.toList, String.toList_append.symm⟩

theorem component?_append {ending : String} (h : Ending ending) (t : List Char) :
    component? (t ++ ending.toList) = some (.normal (String.ofList t ++ ending)) := by
  obtain ⟨c, hc, hdot⟩ := h.exists_undotted
  have hne : ∀ u : List Char, c ∉ u → t ++ ending.toList ≠ u := by
    rintro u hu rfl
    exact hu (List.mem_append_right t hc)
  rw [component?, if_neg, if_neg (hne _ (by simp [hdot])), String.ofList_append,
    String.ofList_toList]
  simp [hne [] (by simp), hne ['.'] (by simp [hdot])]

/-- The last component of a path with an ending has the ending. -/
theorem exists_components_append {ending : String} (h : Ending ending) (p : Path) :
    ∃ last, (pieces p.toList).getLast? = some last
      ∧ (p ++ ending).components.getLast? = some (.normal (String.ofList last ++ ending)) := by
  obtain ⟨last, hlast, happend⟩ := exists_pieces_append p.toList
  refine ⟨last, by rw [hlast, List.getLast?_concat], ?_⟩
  rw [components_eq, steps, String.toList_append, happend _ h.noSlash, List.filterMap_append,
    List.filterMap_cons_some (component?_append h last)]
  simp

/-- A joined path ends in the last piece of the path. -/
theorem getLast?_pieces_join (d p : Path) :
    (pieces (join d p).toList).getLast? = (pieces p.toList).getLast? := by
  by_cases h : p.isAbsolute = true
  · rw [join_of_isAbsolute h]
  · rw [Bool.not_eq_true] at h
    rcases pieces_join (d := d) h with ⟨-, hjoin⟩ | ⟨ps, -, hjoin⟩
    · rw [hjoin]
    · rw [hjoin, List.getLast?_append_of_ne_nil _ (pieces_ne_nil _)]

end EntitySchema.Path
