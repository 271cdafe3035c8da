/-
  EntitySchema.Proofs.Sequence
  ────────────────────────────────
  **WORK THROUGH A LIST.**

  What every stage of a compilation does: work through a list up to the
  first fault, and find an item by a key that no other item has.

      mapM_eq_ok_iff          the work succeeds iff it does so on each item
      find?_key_eq_some_iff   a distinct key finds its item
      filter_eq_singleton_iff exactly one item passes a test
-/
import Mathlib.Data.List.Forall2
import Mathlib.Data.List.Nodup

namespace EntitySchema

/-! ## §1. Outcomes. -/

section Outcome

variable {ε ε' α β : Type}

theorem bind_eq_ok_iff {x : Except ε α} {k : α → Except ε β} {b : β} :
    (x >>= k) = .ok b ↔ ∃ a, x = .ok a ∧ k a = .ok b := by
  cases x with
  | error e => simp [bind, Except.bind]
  | ok a => simp [bind, Except.bind]

theorem pure_eq_ok_iff {a b : α} : (pure a : Except ε α) = .ok b ↔ a = b := by
  simp [pure, Except.pure]

theorem map_eq_ok_iff {x : Except ε α} {f : α → β} {b : β} :
    x.map f = .ok b ↔ ∃ a, x = .ok a ∧ f a = b := by
  cases x with
  | error e => simp [Except.map]
  | ok a => simp [Except.map]

theorem toOption_eq_some_iff {x : Except ε α} {a : α} : x.toOption = some a ↔ x = .ok a := by
  cases x <;> simp [Except.toOption]

theorem mapError_eq_ok_iff {x : Except ε α} {g : ε → ε'} {a : α} :
    x.mapError g = .ok a ↔ x = .ok a := by
  cases x with
  | error e => simp [Except.mapError]
  | ok a => simp [Except.mapError]

theorem bind_eq_error_iff {x : Except ε α} {k : α → Except ε β} {e : ε} :
    (x >>= k) = .error e ↔ x = .error e ∨ ∃ a, x = .ok a ∧ k a = .error e := by
  cases x with
  | error e' => simp [bind, Except.bind]
  | ok a => simp [bind, Except.bind]

theorem pure_ne_error {a : α} {e : ε} : (pure a : Except ε α) ≠ .error e := by
  simp [pure, Except.pure]

theorem map_eq_error_iff {x : Except ε α} {f : α → β} {e : ε} :
    x.map f = .error e ↔ x = .error e := by
  cases x with
  | error e' => simp [Except.map]
  | ok a => simp [Except.map]

theorem mapError_eq_error_iff {x : Except ε α} {g : ε → ε'} {e : ε'} :
    x.mapError g = .error e ↔ ∃ e', x = .error e' ∧ g e' = e := by
  cases x with
  | error e' => simp [Except.mapError]
  | ok a => simp [Except.mapError]

/-- There is a result iff there is no fault. -/
theorem exists_eq_ok_iff {x : Except ε α} : (∃ a, x = .ok a) ↔ ∀ e, x ≠ .error e := by
  cases x with
  | error e => simp
  | ok a => simp

/-- Work on a list succeeds with the outcomes of its items. -/
theorem mapM_eq_ok_iff {f : α → Except ε β} :
    ∀ {l : List α} {r : List β},
      l.mapM f = .ok r ↔ List.Forall₂ (fun a b => f a = .ok b) l r
  | [], r => by
      rw [List.mapM_nil, pure_eq_ok_iff, List.forall₂_nil_left_iff]
      exact eq_comm
  | a :: l, r => by
      rw [List.mapM_cons, bind_eq_ok_iff, List.forall₂_cons_left_iff]
      constructor
      · intro h
        obtain ⟨b, hb, h⟩ := h
        obtain ⟨bs, hbs, h⟩ := bind_eq_ok_iff.1 h
        exact ⟨b, bs, hb, mapM_eq_ok_iff.1 hbs, (pure_eq_ok_iff.1 h).symm⟩
      · intro h
        obtain ⟨b, bs, hb, hbs, hr⟩ := h
        exact ⟨b, hb, bind_eq_ok_iff.2 ⟨bs, mapM_eq_ok_iff.2 hbs, pure_eq_ok_iff.2 hr.symm⟩⟩

end Outcome

/-! ## §2. Items of related lists. -/

section Related

variable {α β γ : Type} {R : α → β → Prop}

theorem exists_right_of_mem {l : List α} {r : List β} (h : List.Forall₂ R l r) :
    ∀ a ∈ l, ∃ b ∈ r, R a b := by
  induction h with
  | nil => simp
  | cons hab _ ih =>
      intro x hx
      rcases List.mem_cons.1 hx with rfl | hx
      · exact ⟨_, List.mem_cons_self, hab⟩
      · obtain ⟨b, hb, hxb⟩ := ih x hx
        exact ⟨b, List.mem_cons_of_mem _ hb, hxb⟩

theorem exists_left_of_mem {l : List α} {r : List β} (h : List.Forall₂ R l r) :
    ∀ b ∈ r, ∃ a ∈ l, R a b :=
  exists_right_of_mem h.flip

/-- Related lists have related items in the same places. -/
theorem forall₂_getElem? {l : List α} {r : List β} (h : List.Forall₂ R l r) (i : Nat) :
    Option.Rel R l[i]? r[i]? := by
  induction h generalizing i with
  | nil => exact .none
  | cons hab _ ih =>
      cases i with
      | zero => exact .some hab
      | succ i =>
          rw [List.getElem?_cons_succ, List.getElem?_cons_succ]
          exact ih i

/-- A test that does not tell related items apart finds related ones. -/
theorem forall₂_find? {l : List α} {r : List β} (h : List.Forall₂ R l r) {p : α → Bool}
    {q : β → Bool} (hpq : ∀ a b, R a b → q b = p a) : Option.Rel R (l.find? p) (r.find? q) := by
  induction h with
  | nil => exact .none
  | @cons a b _ _ hab _ ih =>
      rw [List.find?_cons, List.find?_cons, hpq a b hab]
      cases p a with
      | false => exact ih
      | true => exact .some hab

theorem forall₂_dropLast {l : List α} {r : List β} (h : List.Forall₂ R l r) :
    List.Forall₂ R l.dropLast r.dropLast := by
  rw [List.dropLast_eq_take, List.dropLast_eq_take, h.length_eq]
  exact List.forall₂_take _ h

/-- What relates items of a list may be told from where they stand. -/
theorem forall₂_imp_of_mem {S : α → β → Prop} {l : List α} {r : List β} (h : List.Forall₂ R l r)
    (himp : ∀ a ∈ l, ∀ b, R a b → S a b) : List.Forall₂ S l r := by
  induction h with
  | nil => exact .nil
  | cons hab _ ih =>
      exact .cons (himp _ List.mem_cons_self _ hab)
        (ih fun a ha => himp a (List.mem_cons_of_mem _ ha))

/-- Every item of a list has a related one: so there is a related list. -/
theorem exists_forall₂ {l : List α} (h : ∀ a ∈ l, ∃ b, R a b) :
    ∃ r, List.Forall₂ R l r := by
  induction l with
  | nil => exact ⟨[], .nil⟩
  | cons a l ih =>
      obtain ⟨b, hb⟩ := h a List.mem_cons_self
      obtain ⟨r, hr⟩ := ih fun x hx => h x (List.mem_cons_of_mem a hx)
      exact ⟨b :: r, .cons hb hr⟩

/-- Lists whose items agree in a trait have the same traits in the same
order. -/
theorem map_eq_map_of_forall₂ {f : α → γ} {g : β → γ} {l : List α} {r : List β}
    (h : List.Forall₂ R l r) (hfg : ∀ a b, R a b → f a = g b) : l.map f = r.map g := by
  rw [← List.forall₂_eq_eq_eq, List.forall₂_map_left_iff, List.forall₂_map_right_iff]
  exact h.imp hfg

/-- Where an item has one related item at most, a function maps lists to
their related lists. -/
theorem exists_map_of_rightUnique [Nonempty β] (h : Relator.RightUnique R) :
    ∃ g : α → β, ∀ l r, List.Forall₂ R l r → r = l.map g := by
  refine ⟨fun a => Classical.epsilon (R a), fun l r hlr => ?_⟩
  rw [← r.map_id]
  exact (map_eq_map_of_forall₂ hlr fun a b hab => h (Classical.epsilon_spec ⟨b, hab⟩) hab).symm

/-- What is related to two lists, one after the other, is two lists as
well. -/
theorem forall₂_append_left_iff {l l' : List α} {u : List β} :
    List.Forall₂ R (l ++ l') u
      ↔ ∃ r r', List.Forall₂ R l r ∧ List.Forall₂ R l' r' ∧ u = r ++ r' := by
  constructor
  · intro h
    exact ⟨u.take l.length, u.drop l.length, (List.forall₂_take_append u l l' h.flip).flip,
      (List.forall₂_drop_append u l l' h.flip).flip, (List.take_append_drop _ _).symm⟩
  · intro h
    obtain ⟨r, r', hr, hr', rfl⟩ := h
    exact List.rel_append hr hr'

/-- Items related over two steps. -/
theorem forall₂_trans {S : β → γ → Prop} {T : α → γ → Prop} {l : List α} {r : List β}
    {u : List γ} (hR : List.Forall₂ R l r) (hS : List.Forall₂ S r u)
    (h : ∀ a ∈ l, ∀ b ∈ r, ∀ c, R a b → S b c → T a c) : List.Forall₂ T l u := by
  induction hR generalizing u with
  | nil =>
      cases hS
      exact .nil
  | cons hab _ ih =>
      cases hS with
      | cons hbc hS =>
          refine .cons (h _ List.mem_cons_self _ List.mem_cons_self _ hab hbc) (ih hS ?_)
          exact fun a ha b hb => h a (List.mem_cons_of_mem _ ha) b (List.mem_cons_of_mem _ hb)

/-- Where related items have related results, related lists have related
lists of results. -/
theorem exists_forall₂_of_related {δ : Type} {S : α → γ → Prop} {R' : γ → δ → Prop}
    {T : β → δ → Prop} {l : List α} {r : List β} {u : List γ} (hR : List.Forall₂ R l r)
    (hS : List.Forall₂ S l u) (h : ∀ a b c, R a b → S a c → ∃ d, R' c d ∧ T b d) :
    ∃ v, List.Forall₂ R' u v ∧ List.Forall₂ T r v := by
  induction hR generalizing u with
  | nil =>
      cases hS
      exact ⟨[], .nil, .nil⟩
  | cons hab _ ih =>
      cases hS with
      | cons hac hS =>
          obtain ⟨d, hcd, hbd⟩ := h _ _ _ hab hac
          obtain ⟨v, hv, hrv⟩ := ih hS
          exact ⟨d :: v, .cons hcd hv, .cons hbd hrv⟩

end Related

/-! ## §3. Distinct keys. -/

section Keys

variable {α κ : Type} {l : List α} {key : α → κ}

/-- A list without repetitions has one item that passes a test iff the item
passes it and no other does. -/
theorem filter_eq_singleton_iff (hd : l.Nodup) {p : α → Bool} {a : α} :
    l.filter p = [a] ↔ a ∈ l ∧ p a = true ∧ ∀ x ∈ l, p x = true → x = a := by
  -- without repetitions, lists of one item are told apart by membership
  rw [← List.perm_singleton, List.perm_ext_iff_of_nodup (hd.filter p) (List.nodup_singleton a)]
  simp only [List.mem_filter, List.mem_singleton]
  constructor
  · intro h
    obtain ⟨ha, hp⟩ := (h a).2 rfl
    exact ⟨ha, hp, fun x hx hpx => (h x).1 ⟨hx, hpx⟩⟩
  · intro h x
    obtain ⟨ha, hp, hu⟩ := h
    constructor
    · intro hx
      exact hu x hx.1 hx.2
    · intro hx
      rw [hx]
      exact ⟨ha, hp⟩

theorem filter_key_eq_singleton [DecidableEq κ] (hd : (l.map key).Nodup) {a : α} (ha : a ∈ l) :
    l.filter (fun x => key x = key a) = [a] := by
  refine (filter_eq_singleton_iff (hd.of_map key)).2 ⟨ha, by simp, fun x hx hk => ?_⟩
  exact List.inj_on_of_nodup_map hd hx ha (by simpa using hk)

/-- Searching for a key finds the item that has it. -/
theorem find?_key_eq_some_iff [DecidableEq κ] (hd : (l.map key).Nodup) {k : κ} {a : α} :
    l.find? (fun x => key x = k) = some a ↔ a ∈ l ∧ key a = k := by
  rw [← List.head?_filter]
  constructor
  · intro h
    obtain ⟨ha, hk⟩ := List.mem_filter.1 (List.mem_of_mem_head? h)
    exact ⟨ha, of_decide_eq_true hk⟩
  · intro h
    obtain ⟨ha, rfl⟩ := h
    rw [filter_key_eq_singleton hd ha]
    rfl

/-- Every item is found by its key iff keys are distinct. -/
theorem forall_find?_key_iff [DecidableEq κ] (hd : l.Nodup) :
    (∀ a ∈ l, l.find? (fun x => key x = key a) = some a) ↔ (l.map key).Nodup := by
  constructor
  · intro h
    refine (List.nodup_map_iff_inj_on hd).2 fun a ha b hb hkey => ?_
    -- both are what the search for their common key finds
    have hab := h a ha
    rw [hkey, h b hb] at hab
    exact (Option.some_inj.1 hab).symm
  · intro h a ha
    exact (find?_key_eq_some_iff h).2 ⟨ha, rfl⟩

theorem lookup_cons_eq [DecidableEq κ] (p : κ × α) (l : List (κ × α)) (k : κ) :
    (p :: l).lookup k = if k = p.1 then some p.2 else l.lookup k := by
  rw [List.lookup_cons]
  split
  next h => rw [if_pos (eq_of_beq h)]
  next h => rw [if_neg (ne_of_beq_false h)]

theorem lookup_map_snd [DecidableEq κ] {β : Type} (f : α → β) (l : List (κ × α)) (k : κ) :
    (l.map fun p => (p.1, f p.2)).lookup k = (l.lookup k).map f := by
  induction l with
  | nil => rfl
  | cons p l ih =>
      rw [List.map_cons, lookup_cons_eq, lookup_cons_eq, ih]
      split <;> rfl

theorem exists_lookup_eq_some_iff [DecidableEq κ] {l : List (κ × α)} {k : κ} :
    (∃ a, l.lookup k = some a) ↔ k ∈ l.map (·.1) := by
  induction l with
  | nil => simp
  | cons p l ih =>
      rw [lookup_cons_eq, List.map_cons, List.mem_cons, ← ih]
      split
      next h => exact iff_of_true ⟨p.2, rfl⟩ (.inl h)
      next h => simp [h]

/-- With distinct keys, looking up a key finds the value listed with it. -/
theorem lookup_eq_some_iff_mem [DecidableEq κ] {l : List (κ × α)} (hd : (l.map (·.1)).Nodup)
    {k : κ} {a : α} : l.lookup k = some a ↔ (k, a) ∈ l := by
  rw [List.lookup_eq_some_iff]
  constructor
  · intro h
    obtain ⟨l₁, l₂, rfl, -⟩ := h
    simp
  · intro h
    obtain ⟨l₁, l₂, rfl⟩ := List.append_of_mem h
    refine ⟨l₁, l₂, rfl, fun p hp => bne_iff_ne.2 ?_⟩
    -- what stands before has other keys
    rintro rfl
    rw [List.map_append, List.nodup_append] at hd
    exact hd.2.2 p.1 (List.mem_map_of_mem hp) p.1 (by simp) rfl

end Keys
end EntitySchema
