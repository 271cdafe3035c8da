/-
  EntitySchema.Text.Cluster
  ────────────────────────────────
  **EXTENDED GRAPHEME CLUSTERS.**

  A text is cut into the characters that a reader perceives: a letter
  with its accents, a syllable with its parts, a flag, a joined emoji.
  Whether a character joins the cluster before it depends on that cluster
  alone, so one pass from the left finds every cut.

      (clusters t).flatten = t, and no cluster is empty
-/
import EntitySchema.Text.Case
import EntitySchema.Text.ClusterTable

namespace EntitySchema.Text

/-! ## §1. Classes of characters. -/

/-- The class that decides how a character joins its neighbours. -/
inductive ClusterClass where
  | carriageReturn
  | lineFeed
  | control
  | extend
  | joiner
  | regional
  | prepended
  | spacingMark
  | hangulLead
  | hangulVowel
  | hangulTrail
  | hangulOpen
  | hangulClosed
  | other
  deriving DecidableEq, Repr

/-- First and last code point of the Hangul syllables. -/
def hangulSyllables : Nat × Nat := (0xAC00, 0xD7A3)

/-- Class of a character. -/
def clusterClass (c : Char) : ClusterClass :=
  let n := c.toNat
  if c = '\r' then .carriageReturn
  else if c = '\n' then .lineFeed
  else if n < 32 || n = 127 then .control
  else if n < 127 then .other
  else if inRanges controlRanges n then .control
  else if n = 0x200D then .joiner
  else if inRanges extendRanges n then .extend
  else if 0x1F1E6 ≤ n && n ≤ 0x1F1FF then .regional
  else if inRanges prependRanges n then .prepended
  else if inRanges spacingMarkRanges n then .spacingMark
  else if inRanges hangulLeadRanges n then .hangulLead
  else if inRanges hangulVowelRanges n then .hangulVowel
  else if inRanges hangulTrailRanges n then .hangulTrail
  else if hangulSyllables.1 ≤ n && n ≤ hangulSyllables.2 then
    if (n - hangulSyllables.1) % 28 = 0 then .hangulOpen else .hangulClosed
  else .other

/-- Whether a character is pictographic. -/
def isPictographic (c : Char) : Bool := inRanges pictographicRanges c.toNat

/-- Whether a character links Indic consonants. -/
def isConjunctLinker (c : Char) : Bool := inRanges conjunctLinkerRanges c.toNat

/-- Whether a character is a consonant that takes part in conjuncts. -/
def isConjunctConsonant (c : Char) : Bool := inRanges conjunctConsonantRanges c.toNat

/-- Whether a character may stand between the consonants of a conjunct
without linking them. -/
def isConjunctExtend (c : Char) : Bool :=
  (clusterClass c == .extend || clusterClass c == .joiner)
    && !isConjunctLinker c && c.toNat != 0x200C

/-! ## §2. Joining a character to the cluster before it. -/

/-- Whether two neighbouring classes join without regard to what stands
further left; `none` leaves the question to the context. -/
def joinsByClass : ClusterClass → ClusterClass → Option Bool
  | .carriageReturn, .lineFeed => some true
  | .carriageReturn, _ | .lineFeed, _ | .control, _ => some false
  | _, .carriageReturn | _, .lineFeed | _, .control => some false
  | .hangulLead, .hangulLead | .hangulLead, .hangulVowel
  | .hangulLead, .hangulOpen | .hangulLead, .hangulClosed => some true
  | .hangulOpen, .hangulVowel | .hangulOpen, .hangulTrail
  | .hangulVowel, .hangulVowel | .hangulVowel, .hangulTrail
  | .hangulClosed, .hangulTrail | .hangulTrail, .hangulTrail => some true
  | _, .extend | _, .joiner | _, .spacingMark => some true
  | .prepended, _ => some true
  | _, _ => none

/-- Whether the reversed cluster `before` ends in a consonant followed by
extenders of which at least one is a linker. -/
def endsInLinkedConsonant (linked : Bool) : List Char → Bool
  | [] => false
  | c :: rest =>
      if isConjunctLinker c then endsInLinkedConsonant true rest
      else if isConjunctExtend c then endsInLinkedConsonant linked rest
      else linked && isConjunctConsonant c

/-- Whether the reversed cluster `before` ends in a pictograph, extenders
and a joiner. -/
def endsInJoinedPictograph : List Char → Bool
  | c :: rest =>
      clusterClass c == .joiner &&
        match rest.dropWhile (clusterClass · == .extend) with
        | [] => false
        | p :: _ => isPictographic p
  | [] => false

/-- Whether the reversed cluster `before` ends in an odd number of regional
indicators. -/
def endsInOpenFlag (before : List Char) : Bool :=
  (before.takeWhile (clusterClass · == .regional)).length % 2 == 1

/-- Whether `c` joins the cluster whose characters, last first, are
`before`. -/
def joins (before : List Char) (c : Char) : Bool :=
  match before with
  | [] => true
  | b :: _ =>
      match joinsByClass (clusterClass b) (clusterClass c) with
      | some decision => decision
      | none =>
          (isConjunctConsonant c && endsInLinkedConsonant false before)
            || (isPictographic c && endsInJoinedPictograph before)
            || (clusterClass c == .regional && endsInOpenFlag before)

/-! ## §3. Cutting a text. -/

/-- Clusters of a text that continues the cluster `before`, given last
character first. -/
def clustersFrom (before : List Char) : List Char → List (List Char)
  | [] => [before.reverse]
  | c :: rest =>
      if joins before c then clustersFrom (c :: before) rest
      else before.reverse :: clustersFrom [c] rest

/-- Extended grapheme clusters of a text. -/
def clusters : List Char → List (List Char)
  | [] => []
  | c :: rest => clustersFrom [c] rest

theorem flatten_clustersFrom (before t : List Char) :
    (clustersFrom before t).flatten = before.reverse ++ t := by
  induction t generalizing before with
  | nil => simp [clustersFrom]
  | cons c rest ih => by_cases h : joins before c <;> simp [clustersFrom, h, ih]

/-- Cutting loses nothing. -/
theorem flatten_clusters (t : List Char) : (clusters t).flatten = t := by
  cases t with
  | nil => rfl
  | cons c rest => simp [clusters, flatten_clustersFrom]

end EntitySchema.Text
