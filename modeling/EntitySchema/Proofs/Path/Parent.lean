/-
  EntitySchema.Proofs.Path.Parent
  ────────────────────────────────
  **THE DIRECTORY THAT A PATH LIES IN.**

  Taking a text to pieces and joining the pieces undo each other.  So the
  parent of a path that ends in a name is what is written before the name,
  but for slashes and dots at its end:

      path      ent//schema/./user.go
      pieces    ent    schema .  user.go
      parent    ent//schema

  A file that is put into a directory under its name is listed by that name.

  Main results: `precedes_of_parent?`, `relativeTo_join`.
-/
import EntitySchema.Proofs.Path.Components
import Mathlib.Data.List.TakeWhile

namespace EntitySchema.Path

variable {t w : List Char} {ps : List (List Char)} {p q d : Path} {name : String}

/-! ## §1. Pieces and the text. -/

/-- Text of pieces with slashes between them. -/
def joined (ps : List (List Char)) : List Char := ['/'].intercalate ps

theorem joined_cons (p : List Char) (h : ps ≠ []) : joined (p :: ps) = p ++ '/' :: joined ps := by
  obtain ⟨q, qs, rfl⟩ := List.exists_cons_of_ne_nil h
  simp [joined, List.intercalate_cons_cons]

theorem joined_singleton (p : List Char) : joined [p] = p := by simp [joined]

theorem joined_pieces (t : List Char) : joined (pieces t) = t := by
  induction t with
  | nil => rfl
  | cons c t ih =>
      -- a slash opens another piece, any other character goes to the first one
      by_cases hc : c = '/'
      · rw [hc, pieces_slash, joined_cons [] (pieces_ne_nil t), ih, List.nil_append]
      · obtain ⟨p, ps, h⟩ := List.exists_cons_of_ne_nil (pieces_ne_nil t)
        rw [h] at ih
        rw [pieces_cons hc h]
        cases ps with
        | nil =>
            rw [joined_singleton] at ih ⊢
            rw [ih]
        | cons q qs =>
            rw [joined_cons p (List.cons_ne_nil q qs)] at ih
            rw [joined_cons _ (List.cons_ne_nil q qs), List.cons_append, ih]

theorem noSlash_of_mem_pieces (t : List Char) : ∀ p ∈ pieces t, '/' ∉ p := by
  induction t with
  | nil => simp [pieces]
  | cons c t ih =>
      by_cases hc : c = '/'
      · rw [hc, pieces_slash]
        exact List.forall_mem_cons.2 ⟨List.not_mem_nil, ih⟩
      · obtain ⟨p, ps, h⟩ := List.exists_cons_of_ne_nil (pieces_ne_nil t)
        rw [h] at ih
        obtain ⟨hp, hps⟩ := List.forall_mem_cons.1 ih
        rw [pieces_cons hc h]
        exact List.forall_mem_cons.2 ⟨by simp [Ne.symm hc, hp], hps⟩

theorem pieces_joined (hne : ps ≠ []) (h : ∀ p ∈ ps, '/' ∉ p) : pieces (joined ps) = ps := by
  induction ps with
  | nil => exact absurd rfl hne
  | cons p ps ih =>
      obtain ⟨hp, hps⟩ := List.forall_mem_cons.1 h
      by_cases hnil : ps = []
      · rw [hnil, joined_singleton, pieces_of_notMem hp]
      · rw [joined_cons p hnil, pieces_append_slash, pieces_of_notMem hp, ih hnil hps,
          List.singleton_append]

/-- The first pieces come first in the text. -/
theorem exists_joined_append (ps qs : List (List Char)) :
    ∃ rest, joined (ps ++ qs) = joined ps ++ rest := by
  induction ps with
  | nil => exact ⟨joined qs, rfl⟩
  | cons p ps ih =>
      obtain ⟨rest, hrest⟩ := ih
      by_cases hps : ps = []
      · by_cases hqs : qs = []
        · exact ⟨[], by rw [hps, hqs]; simp⟩
        · exact ⟨'/' :: joined qs, by rw [hps, List.singleton_append, joined_cons p hqs, joined_singleton]⟩
      · refine ⟨rest, ?_⟩
        rw [List.cons_append, joined_cons p (by simp [hps]), joined_cons p hps, hrest,
          List.append_assoc, List.cons_append]

/-! ## §2. The end of a text. -/

theorem component?_eq_none_iff : component? w = none ↔ w = [] ∨ w = ['.'] := by
  unfold component?
  split_ifs <;> simp_all

/-- Pieces that are no components. -/
def Idle (ps : List (List Char)) : Prop := ∀ p ∈ ps, component? p = none

theorem dropWhile_idle (h : component? w ≠ none) {qs : List (List Char)} (hps : Idle ps) :
    (ps ++ w :: qs).dropWhile (fun p => (component? p).isNone) = w :: qs := by
  have hnil : ps.dropWhile (fun p => (component? p).isNone) = [] :=
    List.dropWhile_eq_nil_iff.2 fun p hp => by simp [hps p hp]
  rw [List.dropWhile_append, hnil]
  simp [h]

theorem trimEnd_eq (hlast : pieces t = ps ++ [w]) (hw : component? w ≠ none) : trimEnd t = t := by
  have hreverse : (pieces t).reverse = [] ++ w :: ps.reverse := by simp [hlast]
  rw [trimEnd, hreverse, dropWhile_idle hw (by simp [Idle]), ← List.nil_append (w :: _), ← hreverse,
    List.reverse_reverse]
  exact joined_pieces t

theorem dropLastPiece_eq (hlast : pieces t = ps ++ [w]) : dropLastPiece t = joined ps := by
  rw [dropLastPiece, hlast, List.dropLast_concat]
  rfl

/-- What is trimmed from the end of a text is no component. -/
theorem exists_trimEnd_joined (h : ∀ p ∈ ps, '/' ∉ p) :
    ∃ kept idle, ps = kept ++ idle ∧ Idle idle ∧ trimEnd (joined ps) = joined kept := by
  by_cases hps : ps = []
  · exact ⟨[], [], hps, by simp [Idle], by rw [hps]; rfl⟩
  · let isIdle := fun p : List Char => (component? p).isNone
    refine ⟨(ps.reverse.dropWhile isIdle).reverse, (ps.reverse.takeWhile isIdle).reverse, ?_, ?_, ?_⟩
    · rw [← List.reverse_append, List.takeWhile_append_dropWhile, List.reverse_reverse]
    · intro p hp
      simpa [isIdle] using List.mem_takeWhile_imp (List.mem_reverse.1 hp)
    · rw [trimEnd, pieces_joined hps h]
      rfl

/-! ## §3. The parent of a path. -/

/-- Pieces that are not empty. -/
def solid (ps : List (List Char)) : List (List Char) := ps.filter (!·.isEmpty)

theorem solid_append (ps qs : List (List Char)) : solid (ps ++ qs) = solid ps ++ solid qs :=
  List.filter_append ..

theorem solid_cons_nil (ps : List (List Char)) : solid ([] :: ps) = solid ps := rfl

theorem getLast?_components (hlast : pieces p.toList = ps ++ [w])
    (hw : component? w = some (.normal name)) : p.components.getLast? = some (.normal name) := by
  rw [components_eq, steps, hlast, List.filterMap_append, List.filterMap_cons_some hw]
  simp

/-- A directory before a name: the path goes on behind it, and between the
names of the directory and the last name there are dots at most. -/
structure Precedes (q p : Path) (ps : List (List Char)) : Prop where
  text : ∃ rest, p = q ++ rest
  pieces : ∃ idle, Idle idle ∧ solid ps = solid (Path.pieces q.toList) ++ solid idle

theorem precedes_of_toList (first : List Char) {kept idle : List (List Char)}
    (hp : p.toList = first ++ joined (kept ++ idle ++ [w])) (hidle : Idle idle)
    (hq : q.toList = first ++ joined kept)
    (hsolid : solid ps = solid (Path.pieces q.toList) ++ solid idle) : Precedes q p ps := by
  obtain ⟨rest, hrest⟩ := exists_joined_append kept (idle ++ [w])
  refine ⟨⟨String.ofList rest, ?_⟩, idle, hidle, hsolid⟩
  rw [← String.toList_inj, hp, String.toList_append, hq, String.toList_ofList, List.append_assoc,
    hrest, List.append_assoc]

theorem solid_pieces_joined (h : ∀ p ∈ ps, '/' ∉ p) : solid (pieces (joined ps)) = solid ps := by
  by_cases hps : ps = []
  · rw [hps]
    rfl
  · rw [pieces_joined hps h]

theorem solid_pieces_dot (h : ∀ p ∈ ps, '/' ∉ p) :
    solid (pieces ('.' :: joined ([] :: ps))) = ['.'] :: solid ps := by
  by_cases hps : ps = []
  · rw [hps]
    rfl
  · rw [joined_cons [] hps, List.nil_append, pieces_cons (by decide) (pieces_slash _),
      pieces_joined hps h]
    rfl

/-- The beginnings that matter: a root slash, a dot alone, a dot before a
slash, and none of these. -/
theorem leading_cases (t : List Char) :
    (∃ r, t = '/' :: r ∧ leading t = (some .root, r)) ∨ t = ['.']
      ∨ (∃ r, t = '.' :: '/' :: r ∧ leading t = (some .current, '/' :: r))
      ∨ leading t = (none, t) := by
  unfold leading
  split
  next r => exact .inl ⟨r, rfl, rfl⟩
  next => exact .inr (.inl rfl)
  next r => exact .inr (.inr (.inl ⟨r, rfl, rfl⟩))
  next => exact .inr (.inr (.inr rfl))

/-- A first piece that is no component stands before the last one. -/
theorem exists_init {p : List Char} {qs : List (List Char)} (hqs : qs ≠ [])
    (h : p :: qs = ps ++ [w]) : ∃ init, ps = p :: init ∧ qs = init ++ [w] := by
  cases ps with
  | nil => exact absurd (List.cons.inj h).2 hqs
  | cons p' init =>
      obtain ⟨rfl, hqs⟩ := List.cons.inj h
      exact ⟨init, rfl, hqs⟩

/-- A path that ends in a name begins with a root slash, with a dot before a
slash, or with neither, and the name is at the end of what is behind. -/
theorem beginning_cases (hlast : pieces t = ps ++ [w])
    (hw : component? w = some (.normal name)) :
    (∃ r init, t = '/' :: r ∧ leading t = (some .root, r)
        ∧ ps = [] :: init ∧ pieces r = init ++ [w])
      ∨ (∃ r init, t = '.' :: '/' :: r ∧ leading t = (some .current, '/' :: r)
        ∧ ps = ['.'] :: init ∧ pieces ('/' :: r) = ([] :: init) ++ [w])
      ∨ leading t = (none, t) := by
  rcases leading_cases t with ⟨r, rfl, hlead⟩ | rfl | ⟨r, rfl, hlead⟩ | hlead
  · rw [pieces_slash] at hlast
    obtain ⟨init, hps, hr⟩ := exists_init (pieces_ne_nil r) hlast
    exact .inl ⟨r, init, rfl, hlead, hps, hr⟩
  · -- a dot alone ends in no name
    have hdot : pieces ['.'] = [] ++ [['.']] := rfl
    rw [hdot] at hlast
    rw [← List.singleton_inj.1 (List.append_inj_right' hlast rfl)] at hw
    cases hw
  · rw [pieces_cons (by decide) (pieces_slash r)] at hlast
    obtain ⟨init, hps, hr⟩ := exists_init (pieces_ne_nil r) hlast
    refine .inr (.inl ⟨r, init, rfl, hlead, hps, ?_⟩)
    rw [pieces_slash, hr]
    rfl
  · exact .inr (.inr hlead)

/-- **THE PARENT OF A PATH THAT ENDS IN A NAME** is written before the name. -/
theorem precedes_of_parent? (hlast : pieces p.toList = ps ++ [w])
    (hw : component? w = some (.normal name)) (hparent : p.parent? = some q) :
    Precedes q p ps := by
  have hnormal : component? w ≠ none := by simp [hw]
  have hnoSlash : ∀ x ∈ ps, '/' ∉ x := fun x hx =>
    noSlash_of_mem_pieces p.toList x (by rw [hlast]; exact List.mem_append_left _ hx)
  rw [parent?, getLast?_components hlast hw, split] at hparent
  rcases beginning_cases hlast hw with ⟨r, init, hp, hlead, rfl, hr⟩ | ⟨r, init, hp, hlead, rfl, hr⟩
    | hlead
  · -- below the root
    obtain ⟨-, hinit⟩ := List.forall_mem_cons.1 hnoSlash
    obtain ⟨kept, idle, rfl, hidle, htrim⟩ := exists_trimEnd_joined hinit
    simp only [hlead, trimEnd_eq hr hnormal, dropLastPiece_eq hr, htrim] at hparent
    have hq : q.toList = '/' :: joined kept := by
      rw [← Option.some.inj hparent, String.toList_ofList]
      rfl
    refine precedes_of_toList (w := w) ['/'] ?_ hidle hq ?_
    · rw [hp, ← hr, joined_pieces]
      rfl
    · rw [hq, pieces_slash, solid_cons_nil, solid_cons_nil, solid_append,
        solid_pieces_joined fun x hx => hinit x (List.mem_append_left _ hx)]
  · -- behind a dot, which is left alone when nothing else is kept
    obtain ⟨-, hinit⟩ := List.forall_mem_cons.1 hnoSlash
    have hblank : ∀ x ∈ [] :: init, '/' ∉ x := List.forall_mem_cons.2 ⟨List.not_mem_nil, hinit⟩
    obtain ⟨kept, idle, heq, hidle, htrim⟩ := exists_trimEnd_joined hblank
    simp only [hlead, trimEnd_eq hr hnormal, dropLastPiece_eq hr, htrim] at hparent
    have hq : q.toList = '.' :: joined kept := by
      rw [← Option.some.inj hparent, String.toList_ofList]
      split <;> simp_all
    refine precedes_of_toList (w := w) ['.'] ?_ hidle hq ?_
    · rw [hp, ← heq, ← hr, joined_pieces]
      rfl
    · have hkept : solid (pieces ('.' :: joined kept)) = ['.'] :: solid kept := by
        cases kept with
        | nil => rfl
        | cons x kept =>
            obtain ⟨rfl, rfl⟩ := List.cons.inj heq
            exact solid_pieces_dot fun x hx => hinit x (List.mem_append_left _ hx)
      rw [hq, hkept, List.cons_append, ← solid_append, ← heq, solid_cons_nil]
      rfl
  · -- anywhere else
    obtain ⟨kept, idle, rfl, hidle, htrim⟩ := exists_trimEnd_joined hnoSlash
    simp only [hlead, trimEnd_eq hlast hnormal, dropLastPiece_eq hlast, htrim] at hparent
    have hq : q.toList = joined kept := by
      rw [← Option.some.inj hparent, String.toList_ofList]
      rfl
    refine precedes_of_toList (w := w) [] ?_ hidle hq ?_
    · rw [← hlast, joined_pieces]
      rfl
    · rw [hq, solid_append,
        solid_pieces_joined fun x hx => hnoSlash x (List.mem_append_left _ hx)]

/-! ## §4. Files by their names. -/

/-- Behind the components of the first pieces there are the other pieces, and
perhaps some that are no components. -/
theorem exists_dropComponents (ps qs : List (List Char)) :
    ∃ idle, (∀ p ∈ idle, p ∈ ps) ∧ Idle idle
      ∧ dropComponents (ps.filterMap component?).length (ps ++ qs) = idle ++ qs := by
  induction ps with
  | nil => exact ⟨[], nofun, nofun, by cases qs <;> rfl⟩
  | cons p ps ih =>
      obtain ⟨idle, hmem, hidle, hdrop⟩ := ih
      have hmem : ∀ x ∈ idle, x ∈ p :: ps := fun x hx => List.mem_cons_of_mem p (hmem x hx)
      cases hp : component? p with
      | some c =>
          refine ⟨idle, hmem, hidle, ?_⟩
          rw [List.filterMap_cons_some hp, List.length_cons, List.cons_append, dropComponents,
            if_pos (by simp [hp]), hdrop]
      | none =>
          rw [List.filterMap_cons_none hp]
          cases hlength : (ps.filterMap component?).length with
          | zero =>
              -- no component is left to be dropped
              refine ⟨p :: ps, fun x hx => hx, ?_, rfl⟩
              exact List.forall_mem_cons.2 ⟨hp, List.filterMap_eq_nil_iff.1 (List.eq_nil_of_length_eq_zero hlength)⟩
          | succ n =>
              refine ⟨idle, hmem, hidle, ?_⟩
              rw [hlength] at hdrop
              rw [List.cons_append, dropComponents, if_neg (by simp [hp]), hdrop]

theorem trimStart_dropComponents (hps : ∀ p ∈ ps, '/' ∉ p) (hslash : '/' ∉ w)
    (hw : component? w ≠ none) :
    trimStart (joined (dropComponents (ps.filterMap component?).length (ps ++ [w]))) = w := by
  obtain ⟨idle, hmem, hidle, hdrop⟩ := exists_dropComponents ps [w]
  have hnoSlash : ∀ p ∈ idle ++ [w], '/' ∉ p := by
    intro p hp
    rcases List.mem_append.1 hp with hp | hp
    · exact hps p (hmem p hp)
    · rwa [List.mem_singleton.1 hp]
  rw [hdrop, trimStart, pieces_joined (by simp) hnoSlash, dropWhile_idle hw hidle]
  exact joined_singleton w

/-- Behind all components but the last there is the last. -/
theorem textBehind_eq {n : Nat} (hlast : pieces p.toList = ps ++ [w])
    (hw : component? w = some (.normal name)) (hn : p.components.length = n + 1) (hpos : n ≠ 0) :
    p.textBehind n = String.ofList w := by
  have hnormal : component? w ≠ none := by simp [hw]
  have hall : ∀ x ∈ ps ++ [w], '/' ∉ x := fun x hx =>
    noSlash_of_mem_pieces p.toList x (by rwa [hlast])
  have hps : ∀ x ∈ ps, '/' ∉ x := fun x hx => hall x (List.mem_append_left _ hx)
  have hslash : '/' ∉ w := hall w (by simp)
  rw [components_eq, steps, hlast, List.filterMap_append, List.filterMap_cons_some hw] at hn
  rw [textBehind, split]
  -- the root or the dot in front is one component, which is not among those to be dropped
  rcases beginning_cases hlast hw with ⟨r, init, -, hlead, rfl, hr⟩ | ⟨r, init, -, hlead, rfl, hr⟩
    | hlead
  · have hcount : n - 1 = (init.filterMap component?).length := by
      simp [hlead, component?] at hn
      omega
    simp only [hlead, trimEnd_eq hr hnormal, if_neg hpos, List.isEmpty_cons, Bool.false_eq_true,
      if_false, hr, hcount]
    exact congrArg _ (trimStart_dropComponents (List.forall_mem_cons.1 hps).2 hslash hnormal)
  · have hcount : n - 1 = (([] :: init).filterMap component?).length := by
      simp [hlead, component?] at hn
      simp [component?]
      omega
    simp only [hlead, trimEnd_eq hr hnormal, if_neg hpos, List.isEmpty_cons, Bool.false_eq_true,
      if_false, hr, hcount]
    refine congrArg _ (trimStart_dropComponents ?_ hslash hnormal)
    exact List.forall_mem_cons.2 ⟨List.not_mem_nil, (List.forall_mem_cons.1 hps).2⟩
  · have hcount : n = (ps.filterMap component?).length := by
      simp [hlead] at hn
      omega
    simp only [hlead, trimEnd_eq hlast hnormal, if_neg hpos, List.isEmpty_nil, if_true, hlast]
    rw [hcount]
    exact congrArg _ (trimStart_dropComponents hps hslash hnormal)

/-- A name that a file may have. -/
structure FileName (name : String) : Prop where
  noSlash : '/' ∉ name.toList := by decide
  normal : component? name.toList = some (.normal name) := by decide

namespace FileName

theorem pieces_eq (h : FileName name) : pieces name.toList = [name.toList] :=
  pieces_of_notMem h.noSlash

theorem ne_empty (h : FileName name) : name ≠ "" := by
  rintro rfl
  exact absurd h.normal (by decide)

theorem isAbsolute_eq (h : FileName name) : isAbsolute name = false := by
  refine decide_eq_false fun hhead => h.noSlash ?_
  exact List.mem_of_mem_head? hhead

theorem ne_dots (h : FileName name) : name ≠ "." ∧ name ≠ ".." := by
  constructor <;> rintro rfl <;> exact absurd h.normal (by decide)

theorem leading_eq (h : FileName name) : leading name.toList = (none, name.toList) := by
  rcases leading_cases name.toList with ⟨r, hr, -⟩ | hdot | ⟨r, hr, -⟩ | hlead
  · exact absurd (by simp [hr]) h.noSlash
  · exact absurd h.normal (by rw [hdot]; simp [component?])
  · exact absurd (by simp [hr]) h.noSlash
  · exact hlead

theorem trimEnd_eq (h : FileName name) : trimEnd name.toList = name.toList := by
  have hlast : pieces name.toList = [] ++ [name.toList] := h.pieces_eq
  exact Path.trimEnd_eq hlast (by simp [h.normal])

/-- A file in a directory lies behind the pieces of the directory. -/
theorem exists_pieces_join (h : FileName name) (d : Path) :
    ∃ ps, pieces (join d name).toList = ps ++ [name.toList] ∧ solid ps = solid (pieces d.toList) := by
  rcases pieces_join (d := d) h.isAbsolute_eq with ⟨hd, hjoin⟩ | ⟨ps, hd, hjoin⟩
  · exact ⟨[], by rw [hjoin, h.pieces_eq]; rfl, by rw [hd]; rfl⟩
  · refine ⟨ps, by rw [hjoin, h.pieces_eq], ?_⟩
    rcases hd with hd | hd
    · rw [hd]
    · rw [hd, solid_append]
      exact (List.append_nil _).symm

end FileName

/-- A relative path is joined to a directory by writing it behind something. -/
theorem exists_join_eq (d : Path) :
    ∃ stem : String, ∀ p : Path, p.isAbsolute = false → join d p = stem ++ p := by
  by_cases hd : d.isEmpty || d.toList.getLast? = some '/'
  · exact ⟨d, fun p hp => by rw [join, if_neg (by simp [hp]), if_pos hd]⟩
  · exact ⟨d ++ "/", fun p hp => by rw [join, if_neg (by simp [hp]), if_neg hd]⟩

/-- A path ends in a name, which stands behind some other pieces. -/
def Called (p : Path) (name : String) : Prop :=
  FileName name ∧ ∃ ps, pieces p.toList = ps ++ [name.toList]

theorem called_join (h : FileName name) (d : Path) : Called (join d name) name := by
  obtain ⟨ps, hps, -⟩ := h.exists_pieces_join d
  exact ⟨h, ps, hps⟩

theorem exists_called_append {ending : String} (h : Ending ending) (q : Path) :
    ∃ u : String, Called (q ++ ending) (u ++ ending) := by
  obtain ⟨last, hlast, happend⟩ := exists_pieces_append q.toList
  have hslash : '/' ∉ last := noSlash_of_mem_pieces q.toList last (by rw [hlast]; simp)
  have htext : (String.ofList last ++ ending).toList = last ++ ending.toList := by
    rw [String.toList_append, String.toList_ofList]
  refine ⟨String.ofList last, ⟨?_, ?_⟩, (pieces q.toList).dropLast, ?_⟩
  · rw [htext, List.mem_append, not_or]
    exact ⟨hslash, h.noSlash⟩
  · rw [htext, component?_append h]
  · rw [htext, String.toList_append, happend _ h.noSlash]

/-- A path that is no component has none. -/
theorem components_ne_nil (hd : d ≠ "") : d.components ≠ [] := by
  intro hnil
  rw [components_eq, List.append_eq_nil_iff] at hnil
  obtain ⟨hlead, hsteps⟩ := hnil
  have hidle : Idle (pieces d.toList) := List.filterMap_eq_nil_iff.1 hsteps
  have hnone : leading d.toList = (none, d.toList) := by
    rcases leading_cases d.toList with ⟨r, -, h⟩ | h | ⟨r, -, h⟩ | h
    · simp [h] at hlead
    · rw [h] at hlead
      cases hlead
    · simp [h] at hlead
    · exact h
  obtain ⟨c, t, ht⟩ := List.exists_cons_of_ne_nil (by simpa using hd : d.toList ≠ [])
  have hc : c ≠ '/' := by
    rintro rfl
    rw [ht] at hnone
    cases hnone
  obtain ⟨x, xs, hx⟩ := List.exists_cons_of_ne_nil (pieces_ne_nil t)
  rw [ht, pieces_cons hc hx] at hidle
  have hfirst := hidle (c :: x) List.mem_cons_self
  -- the first piece is a dot, and that would be a leading one
  obtain ⟨rfl, rfl⟩ : c = '.' ∧ x = [] := by simpa using component?_eq_none_iff.1 hfirst
  rcases first_piece_cases t with hslash | ⟨u, v, rfl, hu⟩
  · rw [pieces_of_notMem hslash] at hx
    rw [ht, (List.cons.inj hx).1] at hnone
    cases hnone
  · rw [pieces_append_slash, pieces_of_notMem hu] at hx
    rw [ht, (List.cons.inj hx).1] at hnone
    cases hnone

/-- **A FILE IN A DIRECTORY IS LISTED BY ITS NAME.** -/
theorem relativeTo_join (h : FileName name) (d : Path) : relativeTo d (join d name) = name := by
  -- the empty directory has no components, so the path is taken as it is written
  by_cases hd : d = ""
  · have hjoin : join "" name = name := by
      rw [join, if_neg (by simp [h.isAbsolute_eq])]
      exact String.empty_append
    have hsplit : split name = ([], name.toList) := by
      rw [split, h.leading_eq]
      exact congrArg _ h.trimEnd_eq
    have hnone : components ("" : Path) = [] := rfl
    rw [hd, hjoin, relativeTo, if_pos (by rw [hnone]; rfl), hnone, textBehind, hsplit]
    exact String.ofList_toList
  · obtain ⟨ps, hlast, -⟩ := h.exists_pieces_join d
    have hcomponents : (join d name).components = d.components ++ [.normal name] := by
      rw [components_join hd h.isAbsolute_eq, steps, h.pieces_eq,
        List.filterMap_cons_some h.normal]
      rfl
    have hprefix : d.components.isPrefixOf (join d name).components = true := by
      rw [hcomponents, List.isPrefixOf_iff_prefix]
      exact List.prefix_append _ _
    rw [relativeTo, if_pos hprefix, textBehind_eq hlast h.normal (by rw [hcomponents]; simp)
      (by simpa using components_ne_nil hd), String.ofList_toList]

end EntitySchema.Path
