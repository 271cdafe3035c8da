/-
  EntitySchema.Identifier.Words
  ────────────────────────────────
  **THE WORDS OF AN IDENTIFIER.**

  An identifier is cut into words at separators, which vanish, and at
  changes of shape, where nothing is lost:

      separator   `_`, `-` or a blank
      change      lower|upper, lower|digit, upper|digit, digit|lower,
                  digit|upper
      acronym     before the last capital of a run that a small letter
                  follows (`HTTPServer` gives `HTTP` and `Server`)

  Letters are clusters, so an accent never leaves its letter.  Neighbouring
  separators leave an empty word between them; the empty identifier has no
  words at all.
-/
import EntitySchema.Text.Cluster

namespace EntitySchema.Identifier

open EntitySchema.Text

/-! ## §1. Shapes of letters. -/

/-- What a cluster is for the purpose of cutting. -/
inductive Shape where
  | separator
  | upper
  | lower
  | digit
  | other
  deriving DecidableEq, Repr

/-- Shape of a cluster: a letter is upper case if its two cases differ and it
equals the upper one. -/
def shape (g : List Char) : Shape :=
  if g = ['_'] || g = ['-'] || g = [' '] then .separator
  else if g.all Char.isDigit then .digit
  else
    let u := Text.upper g
    let l := Text.lower g
    if u = l then .other else if g = u then .upper else if g = l then .lower else .other

/-- Whether a word ends between two letters, `after` being the letter behind
both of them. -/
def cutsBetween (left right : Shape) (after : Option Shape) : Bool :=
  match left, right with
  | .lower, .upper | .lower, .digit | .upper, .digit => true
  | .digit, .lower | .digit, .upper => true
  | .upper, .upper => after == some .lower
  | _, _ => false

/-- Whether the word ends behind a letter that `rest` follows. -/
def cutsBefore (g : List Char) (rest : List (List Char)) : Bool :=
  match rest with
  | [] => false
  | next :: later => cutsBetween (shape g) (shape next) (later.head?.map shape)

/-! ## §2. Words. -/

/-- Words of a sequence of letters that continues the word `word`. -/
def wordsFrom (word : List Char) : List (List Char) → List (List Char)
  | [] => [word]
  | g :: rest =>
      if shape g = .separator then word :: wordsFrom [] rest
      else if cutsBefore g rest then (word ++ g) :: wordsFrom [] rest
      else wordsFrom (word ++ g) rest

/-- Words of an identifier. -/
def words (t : List Char) : List (List Char) :=
  match clusters t with
  | [] => []
  | gs => wordsFrom [] gs

end EntitySchema.Identifier
