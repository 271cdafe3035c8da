/-
  EntitySchema.Proofs.Text.Bytes
  ────────────────────────────────
  **BYTES OF A TEXT.**

  A text is kept as the bytes of its characters, and parts of it are told by
  offsets in bytes.  Not every two offsets have a part between them: they
  must not be past the end, not be out of order, and not be inside of a
  character.

      text      a  é     b
      offset    0  1  2  3  4       2 is inside of the é

  Main result: `slice?_append`.
-/
import Mathlib.Data.List.Basic

namespace EntitySchema.Text

/-! ## §1. Bytes. -/

/-- Bytes of a text. -/
def utf8 (t : String) : List UInt8 := t.toUTF8.data.toList

/-! ## §2. Parts. -/

/-- Whether an offset stands at either end of a text or between two of its
characters. -/
def isBoundary (t : String) (i : Nat) : Bool := (String.Pos.Raw.mk i).isValid t

/-- Part of a text between two offsets, if there is one. -/
def slice? (t : String) (i j : Nat) : Option String :=
  if i ≤ j ∧ isBoundary t i ∧ isBoundary t j then String.fromUTF8? (t.toUTF8.extract i j) else none

/-- Boundaries are where a text can be cut in two. -/
theorem isBoundary_iff {t : String} {i : Nat} :
    isBoundary t i = true ↔ ∃ a b : String, t = a ++ b ∧ i = a.utf8ByteSize := by
  rw [isBoundary, String.Pos.Raw.isValid_eq_true_iff, String.Pos.Raw.isValid_iff_exists_append]
  simp only [String.Pos.Raw.ext_iff, String.byteIdx_rawEndPos]

theorem fromUTF8?_toUTF8 (t : String) : String.fromUTF8? t.toUTF8 = some t := by
  unfold String.fromUTF8?
  rw [String.toUTF8_eq_toByteArray, dif_pos t.isValidUTF8]
  rfl

/-- **A part is found where it stands.** -/
theorem slice?_append (a t b : String) :
    slice? (a ++ t ++ b) a.utf8ByteSize (a.utf8ByteSize + t.utf8ByteSize) = some t := by
  have hstart : isBoundary (a ++ t ++ b) a.utf8ByteSize = true :=
    isBoundary_iff.2 ⟨a, t ++ b, String.append_assoc, rfl⟩
  have hend : isBoundary (a ++ t ++ b) (a.utf8ByteSize + t.utf8ByteSize) = true :=
    isBoundary_iff.2 ⟨a ++ t, b, rfl, String.utf8ByteSize_append.symm⟩
  have hbytes : (a ++ t ++ b).toUTF8.extract a.utf8ByteSize (a.utf8ByteSize + t.utf8ByteSize)
      = t.toUTF8 := by
    have hextract := ByteArray.extract_append_size_add (a := a.toByteArray)
      (b := t.toByteArray ++ b.toByteArray) (i := 0) (j := t.toByteArray.size)
    rw [Nat.add_zero, ByteArray.extract_append_eq_left rfl, ← ByteArray.append_assoc,
      ← String.toByteArray_append, ← String.toByteArray_append] at hextract
    exact hextract
  rw [slice?, if_pos ⟨Nat.le_add_right _ _, hstart, hend⟩, hbytes, fromUTF8?_toUTF8]

example : slice? "aéb" 1 3 = some "é" := by decide

example : slice? "aéb" 1 2 = none := by decide

end EntitySchema.Text
