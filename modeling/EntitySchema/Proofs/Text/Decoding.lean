/-
  EntitySchema.Proofs.Text.Decoding
  ────────────────────────────────
  **THE BYTES OF A TEXT ARE READ AS THAT TEXT.**

  The octets of a character hold its code in digits to base 64, and the first
  octet tells how many follow.  What was begun holds the digits so far:

      octet       E2      89            A0
      digit       2       9             32
      begun       2       2 · 64 + 9    (2 · 64 + 9) · 64 + 32

  Nothing is given up on the way: the bounds of an octet leave out only codes
  that have a shorter form, or that are no characters.

  Main results: `decodeLossy_toUTF8`, `trim_append`.
-/
import EntitySchema.Text.Decoding
import Mathlib.Algebra.Group.Nat.Defs
import Mathlib.Data.List.TakeWhile

namespace EntitySchema.Text

variable {v k : Nat} {p : Begun}

/-! ## §1. Octets behind the first one. -/

/-- Octet that holds a digit of a code, by the number of digits behind it. -/
def digitOctet (v k : Nat) : Nat := v / 64 ^ k % 64 + 0x80

/-- Octets that hold the last digits of a code. -/
def digitOctets (v : Nat) : Nat → List UInt8
  | 0 => [UInt8.ofNat (digitOctet v 0)]
  | k + 1 => UInt8.ofNat (digitOctet v (k + 1)) :: digitOctets v k

/-- A code was begun, `k` digits of it are to come behind the next one. -/
structure Begun.Of (p : Begun) (v k : Nat) : Prop where
  code : p.code = v / 64 ^ (k + 1)
  more : p.more = k
  low : p.low ≤ digitOctet v k
  high : digitOctet v k ≤ p.high

theorem le_digitOctet (v k : Nat) : 0x80 ≤ digitOctet v k := Nat.le_add_left _ _

theorem digitOctet_le (v k : Nat) : digitOctet v k ≤ 0xBF := by
  unfold digitOctet
  omega

theorem toNat_ofNat_of_lt {b : Nat} (h : b < 256) : (UInt8.ofNat b).toNat = b := by
  rw [UInt8.toNat_ofNat', Nat.mod_eq_of_lt h]

theorem toNat_digitOctet (v k : Nat) : (UInt8.ofNat (digitOctet v k)).toNat = digitOctet v k :=
  toNat_ofNat_of_lt (Nat.lt_of_le_of_lt (digitOctet_le v k) (by decide))

/-- The next digit behind those so far. -/
theorem Begun.Of.next_code (h : p.Of v k) :
    p.code * 64 + (digitOctet v k - 0x80) = v / 64 ^ k := by
  rw [h.code, digitOctet, Nat.add_sub_cancel, Nat.pow_succ, ← Nat.div_div_eq_div_mul]
  omega

theorem Begun.Of.readOctet_eq (h : p.Of v k) :
    readOctet (some p) (digitOctet v k) = p.extend (digitOctet v k) := by
  simp [readOctet, h.low, h.high]

/-- An octet between others. -/
theorem Begun.Of.next (h : p.Of v (k + 1)) :
    ∃ p', readOctet (some p) (digitOctet v (k + 1)) = ([], some p') ∧ p'.Of v k := by
  refine ⟨{ code := v / 64 ^ (k + 1), more := k }, ?_, rfl, rfl, le_digitOctet v k,
    digitOctet_le v k⟩
  rw [h.readOctet_eq, Begun.extend, h.next_code, h.more]

/-- The last octet. -/
theorem Begun.Of.last (h : p.Of v 0) :
    readOctet (some p) (digitOctet v 0) = ([Char.ofNat v], none) := by
  rw [h.readOctet_eq, Begun.extend, h.next_code, h.more, Nat.pow_zero, Nat.div_one]

/-- What was begun is completed. -/
theorem readOctets_digitOctets (h : p.Of v k) (rest : List UInt8) :
    readOctets (some p) (digitOctets v k ++ rest) = Char.ofNat v :: readOctets none rest := by
  -- on the digits to come, whatever was begun before them
  induction k generalizing p with
  | zero =>
      simp only [digitOctets, List.singleton_append, readOctets, toNat_digitOctet, h.last]
  | succ k ih =>
      obtain ⟨p', hread, hnext⟩ := h.next
      simp only [digitOctets, List.cons_append, readOctets, toNat_digitOctet, hread,
        List.nil_append, ih hnext]

/-! ## §2. First octets. -/

theorem and_eq_true_of_between {low b high : Nat} (h : low ≤ b ∧ b ≤ high) :
    (low ≤ b && b ≤ high) = true := by
  simpa using h

theorem and_ne_true_of_lt {low b high : Nat} (h : high < b) : ¬(low ≤ b && b ≤ high) = true := by
  simpa using fun _ => h

theorem readFirst_one (h : v ≤ 0x7F) : readFirst v = ([Char.ofNat v], none) := if_pos h

theorem readFirst_two (hlow : 0x80 ≤ v) (hhigh : v ≤ 0x7FF) :
    ∃ p, readFirst (v / 64 + 0xC0) = ([], some p) ∧ p.Of v 0 := by
  refine ⟨{ code := v / 64, more := 0 }, ?_, by simp, rfl, le_digitOctet v 0, digitOctet_le v 0⟩
  rw [readFirst, if_neg (by omega), if_pos (and_eq_true_of_between (by omega)), Nat.add_sub_cancel]

/-- Of three octets the second one has bounds that leave out the shorter codes
and the surrogates. -/
theorem readFirst_three (hlow : 0x800 ≤ v) (hhigh : v ≤ 0xFFFF)
    (hchar : v < 0xD800 ∨ 0xDFFF < v) :
    ∃ p, readFirst (v / 64 ^ 2 + 0xE0) = ([], some p) ∧ p.Of v 1 := by
  rcases Nat.eq_zero_or_pos (v / 64 ^ 2) with hzero | hpos
  · refine ⟨{ code := 0, low := 0xA0, more := 1 }, by rw [hzero]; rfl, hzero.symm, rfl, ?_,
      digitOctet_le v 1⟩
    show 0xA0 ≤ digitOctet v 1
    unfold digitOctet
    omega
  rcases Decidable.em (v / 64 ^ 2 = 0xD) with hsurrogate | hne
  · refine ⟨{ code := 0xD, high := 0x9F, more := 1 }, by rw [hsurrogate]; rfl, hsurrogate.symm,
      rfl, le_digitOctet v 1, ?_⟩
    show digitOctet v 1 ≤ 0x9F
    unfold digitOctet
    omega
  · refine ⟨{ code := v / 64 ^ 2, more := 1 }, ?_, rfl, rfl, le_digitOctet v 1,
      digitOctet_le v 1⟩
    rw [readFirst, if_neg (by omega), if_neg (and_ne_true_of_lt (by omega)), if_neg (by omega),
      if_neg (by omega), if_pos (and_eq_true_of_between (by omega)), Nat.add_sub_cancel]

/-- Of four octets the second one has bounds that leave out the shorter codes
and those past the last one. -/
theorem readFirst_four (hlow : 0x10000 ≤ v) (hhigh : v < 0x110000) :
    ∃ p, readFirst (v / 64 ^ 3 + 0xF0) = ([], some p) ∧ p.Of v 2 := by
  rcases Nat.eq_zero_or_pos (v / 64 ^ 3) with hzero | hpos
  · refine ⟨{ code := 0, low := 0x90, more := 2 }, by rw [hzero]; rfl, hzero.symm, rfl, ?_,
      digitOctet_le v 2⟩
    show 0x90 ≤ digitOctet v 2
    unfold digitOctet
    omega
  rcases Decidable.em (v / 64 ^ 3 = 4) with hlast | hne
  · refine ⟨{ code := 4, high := 0x8F, more := 2 }, by rw [hlast]; rfl, hlast.symm, rfl,
      le_digitOctet v 2, ?_⟩
    show digitOctet v 2 ≤ 0x8F
    unfold digitOctet
    omega
  · refine ⟨{ code := v / 64 ^ 3, more := 2 }, ?_, rfl, rfl, le_digitOctet v 2,
      digitOctet_le v 2⟩
    rw [readFirst, if_neg (by omega), if_neg (and_ne_true_of_lt (by omega)), if_neg (by omega),
      if_neg (by omega), if_neg (and_ne_true_of_lt (by omega)), if_neg (by omega),
      if_pos (and_eq_true_of_between (by omega)), Nat.add_sub_cancel]

/-! ## §3. Texts. -/

/-- The octets of a character: one that is its code, or one that begins it and
the digits behind. -/
theorem utf8EncodeChar_cases (c : Char) :
    c.toNat ≤ 0x7F ∧ String.utf8EncodeChar c = [UInt8.ofNat c.toNat]
      ∨ ∃ b k, b < 256 ∧ (∃ p, readFirst b = ([], some p) ∧ p.Of c.toNat k)
        ∧ String.utf8EncodeChar c = UInt8.ofNat b :: digitOctets c.toNat k := by
  have hvalid : c.toNat < 0xD800 ∨ 0xDFFF < c.toNat ∧ c.toNat < 0x110000 := c.valid
  unfold String.utf8EncodeChar
  simp only [show c.val.toNat = c.toNat from rfl]
  generalize c.toNat = v at hvalid
  -- one case for each number of octets
  split
  next hone => exact .inl ⟨hone, rfl⟩
  next hone =>
    refine .inr ?_
    split
    next htwo =>
      refine ⟨_, 0, by omega, readFirst_two (by omega) htwo, ?_⟩
      rw [Nat.mod_eq_of_lt (by omega)]
      simp [digitOctets, digitOctet]
    next htwo =>
      split
      next hthree =>
        refine ⟨_, 1, by omega, readFirst_three (by omega) hthree (by omega), ?_⟩
        rw [Nat.mod_eq_of_lt (by omega)]
        simp [digitOctets, digitOctet]
      next hthree =>
        refine ⟨_, 2, by omega, readFirst_four (by omega) (by omega), ?_⟩
        rw [Nat.mod_eq_of_lt (by omega)]
        simp [digitOctets, digitOctet]

/-- **The octets of a character are read as that character.** -/
theorem readOctets_utf8EncodeChar (c : Char) (rest : List UInt8) :
    readOctets none (String.utf8EncodeChar c ++ rest) = c :: readOctets none rest := by
  rcases utf8EncodeChar_cases c with ⟨hone, hc⟩ | ⟨b, k, hb, ⟨p, hfirst, hof⟩, hc⟩
  · have hoctet : (UInt8.ofNat c.toNat).toNat = c.toNat := toNat_ofNat_of_lt (by omega)
    simp only [hc, List.singleton_append, readOctets, readOctet, hoctet, readFirst_one hone,
      Char.ofNat_toNat]
  · simp only [hc, List.cons_append, readOctets, readOctet, toNat_ofNat_of_lt hb, hfirst,
      List.nil_append, readOctets_digitOctets hof rest, Char.ofNat_toNat]

theorem readOctets_flatMap (cs : List Char) :
    readOctets none (cs.flatMap String.utf8EncodeChar) = cs := by
  induction cs with
  | nil => rfl
  | cons c cs ih => rw [List.flatMap_cons, readOctets_utf8EncodeChar, ih]

/-- **THE BYTES OF A TEXT ARE READ AS THAT TEXT.** -/
theorem decodeLossy_toUTF8 (s : String) : decodeLossy s.toUTF8 = s := by
  have hbytes : s.toUTF8.data.toList = s.toList.flatMap String.utf8EncodeChar := by
    rw [String.toUTF8_eq_toByteArray, ← String.utf8Encode_toList]
    exact List.toList_data_toByteArray
  rw [decodeLossy, hbytes, readOctets_flatMap, String.ofList_toList]

example : decodeLossy ⟨#[0x41, 0xE2, 0x89, 0x42]⟩ = "A\ufffdB" := by decide

/-! ## §4. White space. -/

theorem dropWhile_isWhiteSpace {cs : List Char} (h : ∀ c ∈ cs, isWhiteSpace c = false) :
    cs.dropWhile isWhiteSpace = cs := by
  cases cs with
  | nil => rfl
  | cons c cs => simp [h c]

/-- White space behind a text that has none is cut off. -/
theorem trim_append {s t : String} (hs : ∀ c ∈ s.toList, isWhiteSpace c = false)
    (ht : ∀ c ∈ t.toList, isWhiteSpace c = true) : trim (s ++ t) = s := by
  have hfront : ((s ++ t).toList.dropWhile isWhiteSpace).reverse.dropWhile isWhiteSpace
      = s.toList.reverse := by
    rw [String.toList_append]
    rcases hempty : s.toList with _ | ⟨c, cs⟩
    · -- nothing but white space
      have hnone : t.toList.dropWhile isWhiteSpace = [] := List.dropWhile_eq_nil_iff.2 ht
      rw [List.nil_append, hnone]
      rfl
    · rw [hempty] at hs
      rw [List.cons_append, List.dropWhile_cons_of_neg (by simp [hs c]), ← List.cons_append,
        List.reverse_append, List.dropWhile_append_of_pos (by simpa using ht),
        dropWhile_isWhiteSpace fun d hd => hs d (List.mem_reverse.1 hd)]
  rw [trim, hfront, List.reverse_reverse, String.ofList_toList]

end EntitySchema.Text
