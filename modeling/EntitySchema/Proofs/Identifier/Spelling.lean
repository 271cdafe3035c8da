/-
  EntitySchema.Proofs.Identifier.Spelling
  ────────────────────────────────
  **SMALL SPELLINGS KEEP DOTS AND SLASHES.**

  A name in small letters differs from the name in three ways: letters
  change case, separators become underscores, and underscores are put in
  where a word ends.  None of them makes or loses a dot or a slash, and none
  parts two dots from each other or from the slashes around them:

      ../myPost   →   ../my_post
      /Post       →   /post
      .-./Post    →   ._./post

  Between characters of ASCII a cluster ends, so a dot there is a cluster of
  its own, and no word ends beside it.  What may join a dot elsewhere does
  not matter.

  Main result: `leadsAway_snake_iff`.
-/
import EntitySchema.Identifier.Style
import EntitySchema.Proofs.Identifier.Words
import EntitySchema.Proofs.Path.Components
import EntitySchema.Proofs.Sequence

namespace EntitySchema.Identifier

open EntitySchema.Text
open EntitySchema.Path (pieces dots pieces_slash pieces_cons pieces_ne_nil pieces_append_slash
  pieces_append_of_notMem pieces_of_notMem LeadsAway EndsOpen mem_dropLast_pieces
  exists_of_mem_dropLast_pieces)

/-! ## §1. Spellings by characters. -/

/-- Dots and slashes, which make up the structure of a path. -/
def isMark (c : Char) : Bool := c = '.' || c = '/'

/-- How a character is spelt: a mark as itself, and nothing else as a mark. -/
structure Spells (c : Char) (u : List Char) : Prop where
  ne_nil : u ≠ []
  kept : isMark c = true → u = [c]
  only : ∀ x ∈ u, isMark x = true → x = c

theorem spells_self (c : Char) : Spells c [c] :=
  ⟨List.cons_ne_nil c [], fun _ => rfl, fun _ hx _ => List.mem_singleton.1 hx⟩

theorem spells_of_unmarked {c : Char} {u : List Char} (hne : u ≠ []) (hc : isMark c = false)
    (hu : ∀ x ∈ u, isMark x = false) : Spells c u :=
  ⟨hne, fun h => absurd h (by simp [hc]), fun x hx h => absurd h (by simp [hu x hx])⟩

theorem spells_singleton {c x : Char} (hc : isMark c = false) (hx : isMark x = false) :
    Spells c [x] :=
  spells_of_unmarked (List.cons_ne_nil x []) hc (List.forall_mem_singleton.2 hx)

/-- A text spelt character by character, with underscores put in if that is
allowed. -/
inductive Respelt (spaced : Prop) : List Char → List Char → Prop
  | nil : Respelt spaced [] []
  | letter {c : Char} {u t v : List Char} (spells : Spells c u) (rest : Respelt spaced t v) :
      Respelt spaced (c :: t) (u ++ v)
  | space {t v : List Char} (allowed : spaced) (rest : Respelt spaced t v) :
      Respelt spaced t ('_' :: v)

namespace Respelt

variable {spaced : Prop} {t t' v v' : List Char}

theorem append (h : Respelt spaced t v) (h' : Respelt spaced t' v') :
    Respelt spaced (t ++ t') (v ++ v') := by
  induction h with
  | nil => exact h'
  | letter spells _ ih =>
      rw [List.cons_append, List.append_assoc]
      exact .letter spells ih
  | space allowed _ ih => exact .space allowed ih

theorem refl (t : List Char) : Respelt spaced t t := by
  induction t with
  | nil => exact .nil
  | cons c t ih => exact .letter (spells_self c) ih

/-- A mark in the spelling was one before. -/
theorem exists_of_mark {x : Char} (hx : isMark x = true) (h : Respelt spaced t (x :: v)) :
    ∃ t', t = x :: t' ∧ Respelt spaced t' v := by
  generalize hw : x :: v = w at h
  cases h with
  | nil => cases hw
  | space _ _ =>
      cases hw
      exact absurd hx (by decide)
  | @letter c u t v' spells rest =>
      obtain ⟨y, u, rfl⟩ := List.exists_cons_of_ne_nil spells.ne_nil
      cases hw
      cases spells.only x List.mem_cons_self hx
      cases spells.kept hx
      exact ⟨t, rfl, rest⟩

theorem mem_of_mark {x : Char} (hx : isMark x = true) (h : Respelt spaced t v) (hv : x ∈ v) :
    x ∈ t := by
  induction h with
  | nil => exact hv
  | letter spells _ ih =>
      rcases List.mem_append.1 hv with hv | hv
      · rw [spells.only x hv hx]
        exact List.mem_cons_self
      · exact List.mem_cons_of_mem _ (ih hv)
  | space _ _ ih =>
      rcases List.mem_cons.1 hv with rfl | hv
      · exact absurd hx (by decide)
      · exact ih hv

/-- Where nothing is put in, a mark stays where it is. -/
theorem mark {x : Char} (hx : isMark x = true) (h : Respelt False (x :: t) v) :
    ∃ v', v = x :: v' ∧ Respelt False t v' := by
  cases h with
  | letter spells rest =>
      rw [spells.kept hx]
      exact ⟨_, rfl, rest⟩
  | space allowed _ => exact allowed.elim

/-- Spellings go piece by piece. -/
theorem pieces (h : Respelt spaced t v) :
    List.Forall₂ (Respelt spaced) (Path.pieces t) (Path.pieces v) := by
  induction h with
  | nil => exact .cons .nil .nil
  | @letter c u t v spells rest ih =>
      by_cases hc : c = '/'
      · rw [spells.kept (by rw [hc]; rfl), hc]
        exact .cons .nil ih
      · have hslash : '/' ∉ u := fun hmem => hc (spells.only '/' hmem rfl).symm
        obtain ⟨p, ps, hp⟩ := List.exists_cons_of_ne_nil (pieces_ne_nil t)
        obtain ⟨q, qs, hq⟩ := List.exists_cons_of_ne_nil (pieces_ne_nil v)
        rw [hp, hq] at ih
        rw [pieces_cons hc hp, pieces_append_of_notMem hslash hq]
        cases ih with
        | cons hhead htail => exact .cons (.letter spells hhead) htail
  | @space t v allowed rest ih =>
      obtain ⟨p, ps, hp⟩ := List.exists_cons_of_ne_nil (pieces_ne_nil t)
      obtain ⟨q, qs, hq⟩ := List.exists_cons_of_ne_nil (pieces_ne_nil v)
      rw [hp, hq] at ih
      rw [hp, pieces_cons (by decide) hq]
      cases ih with
      | cons hhead htail => exact .cons (.space allowed hhead) htail

theorem eq_nil (h : Respelt spaced t []) : t = [] := by
  generalize hw : ([] : List Char) = w at h
  cases h with
  | nil => rfl
  | letter spells _ => exact absurd (List.append_eq_nil_iff.1 hw.symm).1 spells.ne_nil
  | space _ _ => cases hw

theorem eq_dots (h : Respelt spaced t dots) : t = dots := by
  obtain ⟨t₁, ht, h⟩ := h.exists_of_mark rfl
  obtain ⟨t₂, ht₁, h⟩ := h.exists_of_mark rfl
  rw [ht, ht₁, h.eq_nil]
  rfl

theorem dots_eq (h : Respelt False dots v) : v = dots := by
  obtain ⟨v₁, hv, h⟩ := h.mark rfl
  obtain ⟨v₂, hv₁, h⟩ := h.mark rfl
  cases h with
  | nil => rw [hv, hv₁, dots]
  | space allowed _ => exact allowed.elim

/-- A spelling leads away only if the text does. -/
theorem leadsAway_of_spelling (h : Respelt spaced t v) (hv : LeadsAway v) : LeadsAway t := by
  rcases hv with hv | hv
  · obtain ⟨v, rfl⟩ := List.head?_eq_some_iff.1 hv
    obtain ⟨t, rfl, -⟩ := h.exists_of_mark rfl
    exact .inl rfl
  · obtain ⟨p, hp, hdots⟩ := exists_left_of_mem (forall₂_dropLast h.pieces) _ hv
    rw [hdots.eq_dots] at hp
    exact .inr hp

/-- Where nothing is put in, it leads away if the text does. -/
theorem leadsAway_iff (h : Respelt False t v) : LeadsAway v ↔ LeadsAway t := by
  refine ⟨h.leadsAway_of_spelling, fun ht => ?_⟩
  rcases ht with ht | ht
  · obtain ⟨t, rfl⟩ := List.head?_eq_some_iff.1 ht
    obtain ⟨v, rfl, -⟩ := h.mark rfl
    exact .inl rfl
  · obtain ⟨p, hp, hdots⟩ := exists_right_of_mem (forall₂_dropLast h.pieces) _ ht
    rw [hdots.dots_eq] at hp
    exact .inr hp

end Respelt

/-! ## §2. Small letters. -/

theorem lt_of_isMark_ofNat {n : Nat} (h : isMark (Char.ofNat n) = true) : n < 48 := by
  by_contra hn
  have hcode : (Char.ofNat n).toNat = n ∨ (Char.ofNat n).toNat = 0 := by
    by_cases hvalid : n.isValidChar
    · exact .inl (by rw [Char.ofNat, dif_pos hvalid]; rfl)
    · exact .inr (by rw [Char.ofNat, dif_neg hvalid]; rfl)
  simp only [isMark, Bool.or_eq_true, decide_eq_true_eq] at h
  rcases h with h | h <;> rw [h] at hcode <;> simp at hcode <;> omega

/-- The tables for the rest of Unicode lead to no mark. -/
theorem spells_mapByTable {expansions : List (Nat × List Nat)} {runs : List CaseRun}
    (hexpansions : ∀ e ∈ expansions, e.2 ≠ [] ∧ ∀ n ∈ e.2, 48 ≤ n)
    (hruns : ∀ r ∈ runs, 48 ≤ r.first + r.shift) {c : Char} (hc : isMark c = false) :
    Spells c (mapByTable expansions runs c) := by
  -- by the table of expansions, else by the runs, else the character is kept
  unfold mapByTable
  split
  next codes hcodes =>
    obtain ⟨l, l', rfl, -⟩ := List.lookup_eq_some_iff.1 hcodes
    obtain ⟨hne, hbound⟩ := hexpansions (c.toNat, codes) (by simp)
    refine spells_of_unmarked (by simpa using hne) hc fun x hx => ?_
    obtain ⟨n, hn, rfl⟩ := List.mem_map.1 hx
    have hn := hbound n hn
    by_contra hmark
    have := lt_of_isMark_ofNat (Bool.not_eq_false _ ▸ hmark)
    omega
  next =>
    split
    next r hr =>
      refine spells_of_unmarked (List.cons_ne_nil _ _) hc fun x hx => ?_
      rw [List.mem_singleton.1 hx]
      have hbound := hruns r (List.mem_of_find?_eq_some hr)
      have hcovers := List.find?_some hr
      simp only [CaseRun.covers, Bool.and_eq_true, decide_eq_true_eq] at hcovers
      by_contra hmark
      have := lt_of_isMark_ofNat (Bool.not_eq_false _ ▸ hmark)
      omega
    next => exact spells_self c

theorem spells_lowerChar (c : Char) : Spells c (lowerChar c) := by
  unfold lowerChar
  split
  next hc =>
    have hlower : isMark c.toLower = isMark c ∧ (isMark c = true → c.toLower = c) :=
      forall_isAscii (P := fun c => isMark c.toLower = isMark c ∧ (isMark c = true → c.toLower = c))
        (by decide +kernel) hc
    refine ⟨List.cons_ne_nil _ _, fun hmark => by rw [hlower.2 hmark], fun x hx hmark => ?_⟩
    rw [List.mem_singleton.1 hx] at hmark ⊢
    exact hlower.2 (hlower.1 ▸ hmark)
  next hc =>
    refine spells_mapByTable (by decide +kernel) (by decide +kernel) ?_
    -- marks belong to ASCII
    by_contra hmark
    simp only [isMark, Bool.not_eq_false, Bool.or_eq_true, decide_eq_true_eq] at hmark
    rcases hmark with rfl | rfl <;> exact hc rfl

/-- A text in small letters. -/
theorem respelt_lowerAfter (before t : List Char) : Respelt False t (lowerAfter before t) := by
  induction t generalizing before with
  | nil => exact .nil
  | cons c t ih =>
      rw [lowerAfter]
      refine .letter ?_ (ih _)
      split
      next hsigma =>
        rw [hsigma]
        split <;> exact spells_singleton rfl rfl
      next => exact spells_lowerChar c

/-- Joined words in small letters. -/
theorem respelt_intercalate (ws : List (List Char)) :
    Respelt False (['_'].intercalate ws) (['_'].intercalate (ws.map lower)) := by
  induction ws with
  | nil => exact .nil
  | cons w ws ih =>
      cases ws with
      | nil =>
          rw [List.map_singleton, List.intercalate_singleton, List.intercalate_singleton]
          exact respelt_lowerAfter [] w
      | cons w' ws =>
          rw [List.map_cons, List.map_cons, List.intercalate_cons_cons,
            List.intercalate_cons_cons, ← List.map_cons]
          exact ((respelt_lowerAfter [] w).append (.refl ['_'])).append ih

/-! ## §3. Words. -/

/-- Letters with the underscores that joined words have between them. -/
def spaced : List (List Char) → List Char
  | [] => []
  | g :: rest =>
      if shape g = .separator then '_' :: spaced rest
      else if cutsBefore g rest then g ++ '_' :: spaced rest
      else g ++ spaced rest

theorem intercalate_wordsFrom (w : List Char) (gs : List (List Char)) :
    ['_'].intercalate (wordsFrom w gs) = w ++ spaced gs := by
  induction gs generalizing w with
  | nil => rw [wordsFrom, List.intercalate_singleton, spaced, List.append_nil]
  | cons g gs ih =>
      have hcons : ∀ v : List Char, ['_'].intercalate (v :: wordsFrom [] gs)
          = v ++ '_' :: spaced gs := by
        intro v
        obtain ⟨v', vs, hvs⟩ := List.exists_cons_of_ne_nil (wordsFrom_ne_nil [] gs)
        have hrest := ih []
        rw [hvs] at hrest ⊢
        rw [List.intercalate_cons_cons, hrest, List.append_assoc, List.nil_append,
          List.singleton_append]
      -- a separator is cut out, a word may end behind a cluster, or it goes on
      rw [wordsFrom, spaced]
      split_ifs
      · exact hcons w
      · rw [hcons, List.append_assoc]
      · rw [ih, List.append_assoc]

theorem intercalate_words (t : List Char) :
    ['_'].intercalate (words t) = spaced (clusters t) := by
  unfold words
  cases clusters t with
  | nil => rfl
  | cons g gs => exact intercalate_wordsFrom [] (g :: gs)

/-- Separators are single characters, and none of them is a mark. -/
theorem shape_eq_separator {g : List Char} (h : shape g = .separator) :
    ∃ c, g = [c] ∧ isMark c = false := by
  by_cases hsep : (g = ['_'] || g = ['-'] || g = [' ']) = true
  · simp only [Bool.or_eq_true, decide_eq_true_eq] at hsep
    rcases hsep with (rfl | rfl) | rfl
    · exact ⟨_, rfl, rfl⟩
    · exact ⟨_, rfl, rfl⟩
    · exact ⟨_, rfl, rfl⟩
  · rw [shape, if_neg hsep] at h
    dsimp only at h
    split_ifs at h

/-- Words are spelt as the text, but for separators and underscores. -/
theorem respelt_spaced (gs : List (List Char)) : Respelt True gs.flatten (spaced gs) := by
  induction gs with
  | nil => exact .nil
  | cons g gs ih =>
      rw [List.flatten_cons, spaced]
      split_ifs with hsep
      · obtain ⟨c, rfl, hc⟩ := shape_eq_separator hsep
        exact .letter (spells_singleton hc rfl) ih
      · exact (Respelt.refl g).append (.space trivial ih)
      · exact (Respelt.refl g).append ih

/-! ## §4. Letters beside marks. -/

/-- Between two ASCII characters a cluster ends, but in a line break. -/
theorem clustersFrom_append {before t u : List Char} {a b : Char}
    (hlast : (t.reverse ++ before).head? = some a) (ha : isAscii a) (hb : isAscii b)
    (hbreak : ¬ (a = '\r' ∧ b = '\n')) :
    clustersFrom before (t ++ b :: u) = clustersFrom before t ++ clusters (b :: u) := by
  induction t generalizing before with
  | nil =>
      obtain ⟨before, rfl⟩ := List.head?_eq_some_iff.1 hlast
      exact if_neg (mt (joins_cons_iff ha hb).1 hbreak)
  | cons c t ih =>
      rw [List.cons_append, clustersFrom, clustersFrom]
      split_ifs
      · exact ih (by simpa using hlast)
      · rw [ih (by simpa using hlast), List.cons_append]

theorem clusters_append {t u : List Char} {a b : Char} (hlast : t.getLast? = some a)
    (ha : isAscii a) (hb : isAscii b) (hbreak : ¬ (a = '\r' ∧ b = '\n')) :
    clusters (t ++ b :: u) = clusters t ++ clusters (b :: u) := by
  cases t with
  | nil => cases hlast
  | cons c t =>
      refine clustersFrom_append ?_ ha hb hbreak
      rw [← hlast, ← List.head?_reverse, List.reverse_cons]

/-- The first cluster starts with the first character. -/
theorem exists_clusters_cons (c : Char) (t : List Char) :
    ∃ g gs, clusters (c :: t) = (c :: g) :: gs := by
  have hfrom : ∀ (t before : List Char), ∃ g gs, clustersFrom before t = (before.reverse ++ g) :: gs := by
    intro t
    induction t with
    | nil => exact fun before => ⟨[], [], by rw [clustersFrom, List.append_nil]⟩
    | cons d t ih =>
        intro before
        rw [clustersFrom]
        split_ifs
        · obtain ⟨g, gs, h⟩ := ih (d :: before)
          exact ⟨d :: g, gs, by simpa using h⟩
        · exact ⟨[], _, by rw [List.append_nil]⟩
  obtain ⟨g, gs, h⟩ := hfrom t [c]
  exact ⟨g, gs, h⟩

theorem ne_nil_of_mem_clusters {t g : List Char} (hg : g ∈ clusters t) : g ≠ [] := by
  -- the cluster in the making has a character from the start
  have hfrom : ∀ (t before : List Char), before ≠ [] → ∀ g ∈ clustersFrom before t, g ≠ [] := by
    intro t
    induction t with
    | nil =>
        intro before hbefore g hg
        rw [List.mem_singleton.1 hg]
        simpa using hbefore
    | cons c t ih =>
        intro before hbefore g hg
        rw [clustersFrom] at hg
        split_ifs at hg
        · exact ih _ (List.cons_ne_nil _ _) g hg
        · rcases List.mem_cons.1 hg with rfl | hg
          · simpa using hbefore
          · exact ih _ (List.cons_ne_nil _ _) g hg
  cases t with
  | nil => exact absurd hg List.not_mem_nil
  | cons c t => exact hfrom t [c] (List.cons_ne_nil _ _) g hg

theorem shape_dot : shape ['.'] = .other := by decide +kernel

/-- A letter without case behind other ones changes nothing about where they
are cut. -/
theorem cutsBefore_append {g k : List Char} (rest : List (List Char)) {hs : List (List Char)}
    (hk : hs.head? = some k) (hshape : shape k = .other) :
    cutsBefore g (rest ++ hs) = cutsBefore g rest := by
  obtain ⟨hs, rfl⟩ := List.head?_eq_some_iff.1 hk
  match rest with
  | [] =>
      show cutsBetween (shape g) (shape k) _ = false
      rw [hshape, cutsBetween_other_right]
  | [r] =>
      show cutsBetween (shape g) (shape r) (some (shape k)) = cutsBetween (shape g) (shape r) none
      rw [hshape]
      cases shape g <;> cases shape r <;> rfl
  | r :: r' :: rest => rfl

theorem spaced_append (gs : List (List Char)) {hs : List (List Char)} {k : List Char}
    (hk : hs.head? = some k) (hshape : shape k = .other) :
    spaced (gs ++ hs) = spaced gs ++ spaced hs := by
  induction gs with
  | nil => rfl
  | cons g gs ih =>
      rw [List.cons_append, spaced, spaced, cutsBefore_append gs hk hshape, ih]
      split_ifs
      · rfl
      · rw [List.append_assoc, List.cons_append]
      · rw [List.append_assoc]

theorem spaced_dot (gs : List (List Char)) : spaced (['.'] :: gs) = '.' :: spaced gs := by
  rw [spaced, shape_dot, cutsBefore_of_shape_other shape_dot]
  rfl

/-- A letter with a slash in it is no separator. -/
theorem shape_ne_separator {g : List Char} (h : '/' ∈ g) : shape g ≠ .separator := by
  intro hsep
  obtain ⟨c, rfl, hc⟩ := shape_eq_separator hsep
  rw [← List.mem_singleton.1 h] at hc
  exact absurd hc (by decide)

theorem exists_spaced_slash (t : List Char) : ∃ v, spaced (clusters ('/' :: t)) = '/' :: v := by
  obtain ⟨g, gs, h⟩ := exists_clusters_cons '/' t
  rw [h, spaced, if_neg (shape_ne_separator List.mem_cons_self)]
  split_ifs
  · exact ⟨_, rfl⟩
  · exact ⟨_, rfl⟩

/-- What ends in a slash is spelt with a slash at its end. -/
theorem getLast?_spaced {gs : List (List Char)} (hne : ∀ g ∈ gs, g ≠ [])
    (h : gs.flatten.getLast? = some '/') : (spaced gs).getLast? = some '/' := by
  induction gs with
  | nil => cases h
  | cons g gs ih =>
      obtain ⟨hg, hne⟩ := List.forall_mem_cons.1 hne
      -- the slash is at the end of the last cluster, and spacing puts nothing behind that
      cases gs with
      | nil =>
          rw [List.flatten_singleton] at h
          rw [spaced, if_neg (shape_ne_separator (List.mem_of_getLast? h))]
          simpa [cutsBefore, spaced] using h
      | cons g' gs =>
          have hlast : (spaced (g' :: gs)).getLast? = some '/' := by
            refine ih hne ?_
            have hflat : (g' :: gs).flatten ≠ [] := by simp [hne g' List.mem_cons_self]
            rwa [List.flatten_cons, List.getLast?_append_of_ne_nil _ hflat] at h
          rw [spaced]
          split_ifs <;> simp [List.getLast?_append, List.getLast?_cons, hlast]

theorem endsOpen_spaced {t : List Char} (h : EndsOpen t) : EndsOpen (spaced (clusters t)) := by
  rcases h with rfl | ⟨u, rfl⟩
  · exact .inl rfl
  · refine .inr (List.getLast?_eq_some_iff.1 (getLast?_spaced (fun g => ne_nil_of_mem_clusters) ?_))
    rw [flatten_clusters, List.getLast?_concat]

/-- Between slashes, two dots are two letters. -/
theorem clusters_dots {t : List Char} (h : EndsOpen t) (u : List Char) :
    clusters (t ++ dots ++ '/' :: u) = clusters t ++ ['.'] :: ['.'] :: clusters ('/' :: u) := by
  have hdots : clusters ('.' :: '.' :: '/' :: u) = ['.'] :: ['.'] :: clusters ('/' :: u) := by
    rw [clusters_cons_cons rfl rfl (by decide), clusters_cons_cons rfl rfl (by decide)]
  rw [← hdots, List.append_assoc]
  rcases h with rfl | ⟨v, rfl⟩
  · rfl
  · exact clusters_append (List.getLast?_concat ..) rfl rfl (by decide)

/-- Words lead away if the text does: no word ends beside the dots. -/
theorem leadsAway_spaced {t : List Char} (h : LeadsAway t) : LeadsAway (spaced (clusters t)) := by
  rcases h with h | h
  · obtain ⟨t, rfl⟩ := List.head?_eq_some_iff.1 h
    obtain ⟨v, hv⟩ := exists_spaced_slash t
    rw [hv]
    exact .inl rfl
  · obtain ⟨u, v, rfl, hu⟩ := exists_of_mem_dropLast_pieces t h
    obtain ⟨w, hw⟩ := exists_spaced_slash v
    have hspaced : spaced (clusters (u ++ dots ++ '/' :: v))
        = spaced (clusters u) ++ dots ++ '/' :: w := by
      rw [clusters_dots hu, spaced_append _ rfl shape_dot, spaced_dot, spaced_dot, hw,
        List.append_assoc]
      rfl
    rw [hspaced]
    exact .inr (mem_dropLast_pieces (by decide) (endsOpen_spaced hu) w)

/-- A name is spelt word by word, and the words letter by letter. -/
theorem respelt_snake (name : String) :
    Respelt True name.toList (spaced (clusters name.toList))
      ∧ Respelt False (spaced (clusters name.toList)) (snake name).toList := by
  constructor
  · have hspaced := respelt_spaced (clusters name.toList)
    rwa [flatten_clusters] at hspaced
  · have hsmall := respelt_intercalate (words name.toList)
    rwa [intercalate_words, ← String.toList_ofList (l := ['_'].intercalate _)] at hsmall

/-- **SMALL SPELLINGS LEAD AWAY IFF THE NAME DOES.** -/
theorem leadsAway_snake_iff (name : String) :
    LeadsAway (snake name).toList ↔ LeadsAway name.toList := by
  obtain ⟨hspaced, hsmall⟩ := respelt_snake name
  rw [hsmall.leadsAway_iff]
  exact ⟨hspaced.leadsAway_of_spelling, leadsAway_spaced⟩

/-- Small spellings have no slash but those of the name. -/
theorem slash_notMem_snake {name : String} (h : '/' ∉ name.toList) :
    '/' ∉ (snake name).toList := by
  obtain ⟨hspaced, hsmall⟩ := respelt_snake name
  exact fun hmem => h (hspaced.mem_of_mark rfl (hsmall.mem_of_mark rfl hmem))

end EntitySchema.Identifier
