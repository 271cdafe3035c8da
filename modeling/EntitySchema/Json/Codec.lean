/-
  EntitySchema.Json.Codec
  ────────────────────────────────
  **ENCODING AND DECODING BY MEMBERS.**

  A codec is an encoder with its decoder.  A record is described once, as
  the list of its members with what to do when one is absent; encoding,
  decoding from an object and decoding from an array all follow that list.

      object — members by name, unknown ones ignored; of several faulty
               members the one with the least name is reported, then the
               first absent required member in declaration order
      array  — members by position; the first faulty one is reported,
               then an array that ends too early, then one too long

  Faults are causes; their wording is `DecodeError.message`.
-/
import EntitySchema.Json.Value
import EntitySchema.Decimal.Shortest
import EntitySchema.Text.Escaped

namespace EntitySchema

/-! ## §1. Faults. -/

/-- Why a document is not what it should be. -/
inductive DecodeError where
  /-- A value of one kind stands where `expected` should. -/
  | unexpected (seen : Json) (expected : String)
  /-- An object names no single variant. -/
  | notSingleKey
  /-- An array of this length cannot be `expected`. -/
  | wrongLength (length : Nat) (expected : String)
  /-- No variant has this name. -/
  | unknownVariant (name : String) (known : List String)
  /-- A required member is absent. -/
  | missing (name : String)
  deriving Repr

/-- A value as a fault shows it. -/
def Json.describe : Json → String
  | .null => "null"
  | .bool b => "boolean `" ++ (if b then "true" else "false") ++ "`"
  | .int n => "integer `" ++ toString n ++ "`"
  | .float x => "floating point `" ++ x.render ++ "`"
  | .text s => "string " ++ Text.display s
  | .array _ => "sequence"
  | .object _ => "map"

/-- Name between backquotes. -/
def backquoted (s : String) : String := "`" ++ s ++ "`"

/-- Names to choose from. -/
def choices : List String → String
  | [a, b] => backquoted a ++ " or " ++ backquoted b
  | names => "one of " ++ ", ".intercalate (names.map backquoted)

/-- Wording of a fault. -/
def DecodeError.message : DecodeError → String
  | .unexpected seen expected => "invalid type: " ++ seen.describe ++ ", expected " ++ expected
  | .notSingleKey => "invalid value: map, expected map with a single key"
  | .wrongLength n expected => "invalid length " ++ toString n ++ ", expected " ++ expected
  | .unknownVariant name known =>
      "unknown variant " ++ backquoted name ++ ", expected " ++ choices known
  | .missing name => "missing field " ++ backquoted name

/-- Outcome of decoding. -/
abbrev Decoded (α : Type) := Except DecodeError α

/-! ## §2. Codecs of plain values. -/

/-- An encoder with its decoder. -/
structure Codec (α : Type) where
  encode : α → Json
  decode : Json → Decoded α

namespace Codec

/-- Texts; `expected` is what a fault asks for. -/
def textNamed (expected : String) : Codec String where
  encode := .text
  decode
    | .text s => .ok s
    | v => .error (.unexpected v expected)

/-- Texts. -/
def text : Codec String := textNamed "a string"

/-- Paths, written as texts. -/
def path : Codec String := textNamed "path string"

/-- Truth values. -/
def bool : Codec Bool where
  encode := .bool
  decode
    | .bool b => .ok b
    | v => .error (.unexpected v "a boolean")

/-- Values or null. -/
def option {α : Type} (c : Codec α) : Codec (Option α) where
  encode
    | none => .null
    | some a => c.encode a
  decode
    | .null => .ok none
    | v => (c.decode v).map some

/-- Decodes items in order, up to the first faulty one. -/
def decodeAll {α : Type} (c : Codec α) : List Json → Decoded (List α)
  | [] => .ok []
  | v :: vs => do
      let a ← c.decode v
      let as ← decodeAll c vs
      return a :: as

/-- Lists, written as arrays. -/
def list {α : Type} (c : Codec α) : Codec (List α) where
  encode as := .array (as.map c.encode)
  decode
    | .array vs => decodeAll c vs
    | v => .error (.unexpected v "a sequence")

/-- Codec of a type with the same content. -/
def map {α β : Type} (c : Codec α) (wrap : α → β) (unwrap : β → α) : Codec β where
  encode b := c.encode (unwrap b)
  decode v := (c.decode v).map wrap

end Codec

/-! ## §3. Named variants. -/

/-- Value of a name among the known ones. -/
def decodeName {α : Type} (known : List (String × α)) (name : String) : Decoded α :=
  match known.lookup name with
  | some a => .ok a
  | none => .error (.unknownVariant name (known.map (·.1)))

/-- Payload of a variant that has none. -/
def decodeUnit : Json → Decoded Unit
  | .null => .ok ()
  | v => .error (.unexpected v "unit")

/-- Variants without payload, written as their names.  An object with one
member, the name with null, reads as the name. -/
def Codec.variant {α : Type} (known : List (String × α)) (name : α → String) : Codec α where
  encode a := .text (name a)
  decode
    | .text s => decodeName known s
    | .object [(s, payload)] => do
        let a ← decodeName known s
        decodeUnit payload
        return a
    | .object _ => .error .notSingleKey
    | v => .error (.unexpected v "string or map")

/-- Name that tells apart the variants of a tagged value. -/
def decodeTag {α : Type} (known : List (String × α)) : Json → Decoded α
  | .text s => decodeName known s
  | v => .error (.unexpected v "variant identifier")

/-! ## §4. Records. -/

/-- What an absent member means. -/
inductive Absent where
  /-- It keeps the value it has in the blank record. -/
  | default
  /-- It is null in an object, and a fault in an array. -/
  | null
  /-- It is a fault. -/
  | required
  deriving DecidableEq, Repr

/-- One member of a record. -/
structure Member (σ : Type) where
  name : String
  absent : Absent
  encode : σ → Json
  decode : Json → Decoded (σ → σ)

/-- Member with the given codec, read by `get` and written by `put`. -/
def Member.of {σ α : Type} (name : String) (absent : Absent) (c : Codec α) (get : σ → α)
    (put : α → σ → σ) : Member σ where
  name
  absent
  encode s := c.encode (get s)
  decode v := (c.decode v).map put

/-- What happens to the items of an array behind the last member. -/
inductive Surplus where
  /-- They are a fault; fewer items were expected. -/
  | refused
  /-- They are a fault; exactly as many items as members were expected. -/
  | miscounted
  /-- They are passed over. -/
  | ignored
  deriving DecidableEq, Repr

/-- Count of things in words. -/
def counted (n : Nat) (noun : String) : String :=
  toString n ++ " " ++ noun ++ (if n = 1 then "" else "s")

/-- Fault of an array with more items than members. -/
def Surplus.check (s : Surplus) (members items : Nat) : Decoded Unit :=
  if items ≤ members then .ok ()
  else match s with
    | .refused => .error (.wrongLength items "fewer elements in array")
    | .miscounted => .error (.wrongLength items (counted members "element" ++ " in sequence"))
    | .ignored => .ok ()

/-- A record type: how faults call it, its members in declaration order, and
the record whose members are all absent. -/
structure Record (σ : Type) where
  title : String
  members : List (Member σ)
  blank : σ

namespace Record

variable {σ : Type}

/-- Object of all members, in declaration order. -/
def encode (r : Record σ) (s : σ) : Json := .object (r.members.map fun m => (m.name, m.encode s))

/-- Effect of a member of an object on the record read so far. -/
def slot (ms : List (String × Json)) (m : Member σ) : Decoded (σ → σ) :=
  match ms.lookup m.name with
  | some v => m.decode v
  | none => .ok id

/-- Fault with the least name among the faulty members. -/
def leastFault (ms : List (String × Json)) : List (Member σ) → Option (String × DecodeError)
  | [] => none
  | m :: rest =>
      match slot ms m, leastFault ms rest with
      | .ok _, found => found
      | .error e, none => some (m.name, e)
      | .error e, some (k, f) => if m.name < k then some (m.name, e) else some (k, f)

/-- First required member that an object lacks. -/
def firstMissing (ms : List (String × Json)) (members : List (Member σ)) : Option String :=
  (members.find? fun m => m.absent = .required && (ms.lookup m.name).isNone).map (·.name)

/-- Record of the members of an object that has no fault. -/
def fill (ms : List (String × Json)) (members : List (Member σ)) (s : σ) : σ :=
  members.foldl (fun s m => match slot ms m with
    | .ok f => f s
    | .error _ => s) s

/-- Record of an object. -/
def decodeObject (r : Record σ) (ms : List (String × Json)) : Decoded σ :=
  match leastFault ms r.members with
  | some (_, e) => .error e
  | none =>
      match firstMissing ms r.members with
      | some name => .error (.missing name)
      | none => .ok (fill ms r.members r.blank)

/-- Record of the items of an array that meets all of `members`. -/
def decodeItems (shortage : DecodeError) :
    List (Member σ) → List Json → σ → Decoded σ
  | [], _, s => .ok s
  | m :: members, v :: vs, s => do
      let f ← m.decode v
      decodeItems shortage members vs (f s)
  | members, [], s =>
      if members.all (·.absent = .default) then .ok s else .error shortage

/-- Record of an array. -/
def decodeArray (r : Record σ) (surplus : Surplus) (vs : List Json) : Decoded σ := do
  let shortage := DecodeError.wrongLength vs.length
    (r.title ++ " with " ++ counted r.members.length "element")
  let s ← decodeItems shortage r.members vs r.blank
  surplus.check r.members.length vs.length
  return s

/-- Record of a document. -/
def decode (r : Record σ) (surplus : Surplus) : Json → Decoded σ
  | .object ms => r.decodeObject ms
  | .array vs => r.decodeArray surplus vs
  | v => .error (.unexpected v r.title)

/-- Codec of a record. -/
def codec (r : Record σ) : Codec σ where
  encode := r.encode
  decode := r.decode .refused

end Record
end EntitySchema
