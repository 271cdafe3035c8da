/-
  EntitySchema.Text.Decoding
  ────────────────────────────────
  **TEXT OF BYTES THAT NEED NOT BE TEXT.**

  What another program prints may hold anything.  The octets are read one
  after the other; where one cannot follow, what was begun is given up for
  the replacement character, and the octet is read afresh:

      41 E2 89 A0     A ≠
      41 E2 89 42     A � B
      41 FF 80 42     A � � B
-/
import EntitySchema.Text.Case

namespace EntitySchema.Text

/-! ## §1. Octets. -/

/-- Character that stands for octets that are none. -/
def replacement : Char := '\ufffd'

/-- A character that was begun: its code so far, the bounds of the next octet,
and how many are to come behind that one. -/
structure Begun where
  code : Nat
  low : Nat := 0x80
  high : Nat := 0xBF
  more : Nat
  deriving DecidableEq, Repr

/-- Characters that an octet completes, and what is begun after it. -/
abbrev Step := List Char × Option Begun

/-- The first octet of a character. -/
def readFirst (b : Nat) : Step :=
  if b ≤ 0x7F then ([Char.ofNat b], none)
  else if 0xC2 ≤ b && b ≤ 0xDF then ([], some { code := b - 0xC0, more := 0 })
  else if b = 0xE0 then ([], some { code := 0, low := 0xA0, more := 1 })
  else if b = 0xED then ([], some { code := 0xD, high := 0x9F, more := 1 })
  else if 0xE1 ≤ b && b ≤ 0xEF then ([], some { code := b - 0xE0, more := 1 })
  else if b = 0xF0 then ([], some { code := 0, low := 0x90, more := 2 })
  else if 0xF1 ≤ b && b ≤ 0xF3 then ([], some { code := b - 0xF0, more := 2 })
  else if b = 0xF4 then ([], some { code := 4, high := 0x8F, more := 2 })
  else ([replacement], none)

/-- An octet behind others. -/
def Begun.extend (p : Begun) (b : Nat) : Step :=
  let code := p.code * 64 + (b - 0x80)
  match p.more with
  | 0 => ([Char.ofNat code], none)
  | more + 1 => ([], some { code, more })

/-- The next octet. -/
def readOctet : Option Begun → Nat → Step
  | none, b => readFirst b
  | some p, b =>
      if p.low ≤ b && b ≤ p.high then p.extend b
      else (replacement :: (readFirst b).1, (readFirst b).2)

/-! ## §2. Texts. -/

/-- Characters of octets. -/
def readOctets : Option Begun → List UInt8 → List Char
  | none, [] => []
  | some _, [] => [replacement]
  | p, b :: rest => (readOctet p b.toNat).1 ++ readOctets (readOctet p b.toNat).2 rest

/-- Text of bytes. -/
def decodeLossy (bytes : ByteArray) : String := String.ofList (readOctets none bytes.data.toList)

/-! ## §3. White space. -/

/-- Code points of white space. -/
def whiteSpaceRanges : List (Nat × Nat) :=
  [(0x9, 0xD), (0x20, 0x20), (0x85, 0x85), (0xA0, 0xA0), (0x1680, 0x1680), (0x2000, 0x200A),
    (0x2028, 0x2029), (0x202F, 0x202F), (0x205F, 0x205F), (0x3000, 0x3000)]

/-- Whether a character is white space. -/
def isWhiteSpace (c : Char) : Bool := inRanges whiteSpaceRanges c.toNat

/-- A text without the white space at its ends. -/
def trim (s : String) : String :=
  String.ofList ((s.toList.dropWhile isWhiteSpace).reverse.dropWhile isWhiteSpace).reverse

end EntitySchema.Text
