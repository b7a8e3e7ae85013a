import HashReplay.Binary64.Basic

/-!
# Similarity of texts

How much two texts have in common, as a number from zero to one.  A character of the first text is
matched with the first equal character of the second one that is still free and not far away.  The
similarity is the mean of three shares: of the first text, of the second text, and of the matches that
are in the same order in both.  It is computed in binary floating point.

## Main definitions

* `pairs` — the matches, as places of both texts.
* `similarity` — the similarity.
* `mostSimilar?` — the most similar one of several texts, if any is similar enough.
-/

namespace HashReplay.Text

/-- How far apart matching characters may stand. -/
def matchRange (m n : Nat) : Nat := max m n / 2 - 1

/-- The first place of `c` in `b` from `lo` up to before `hi` that is not taken. -/
def freePlace? (b : List Char) (taken : List Nat) (lo hi : Nat) (c : Char) : Option Nat :=
  (List.range b.length).find? fun j => lo ≤ j && j < hi && b[j]? == some c && !taken.contains j

/-- The matches of the characters from place `i` on with those of `b`: each with its place in `b`. -/
def pairs (range : Nat) (b : List Char) : Nat → List Nat → List Char → List (Char × Nat)
  | _, _, [] => []
  | i, taken, c :: a =>
    match freePlace? b taken (i - range) (i + range + 1) c with
    | none => pairs range b (i + 1) taken a
    | some j => (c, j) :: pairs range b (i + 1) (j :: taken) a

/-- The characters of `b` at the places of matches, in the order of `b`. -/
def matchedIn (b : List Char) (ps : List (Char × Nat)) : List Char :=
  ((List.range b.length).filter fun j => ps.any fun p => p.2 == j).filterMap fun j => b[j]?

/-- How many of the matches are out of order, where two that change places count as one. -/
def transpositions (b : List Char) (ps : List (Char × Nat)) : Nat :=
  (((ps.map (·.1)).zip (matchedIn b ps)).countP fun p => p.1 != p.2) / 2

/-- A quotient of whole numbers in binary floating point. -/
def share (m n : Nat) : Rat := Binary64.round ((m : Rat) / (n : Rat))

/-- The similarity of two texts. -/
def similarity (a b : List Char) : Rat :=
  let ps := pairs (matchRange a.length b.length) b 0 [] a
  let m := ps.length
  if a.isEmpty && b.isEmpty then 1
  else if m = 0 then 0
  else
    let ofTexts := Binary64.round (share m a.length + share m b.length)
    let all := Binary64.round (ofTexts + share (m - transpositions b ps) m)
    Binary64.round (all / 3)

/-- What the similarity must exceed for a text to be suggested in place of another. -/
def suggestionLimit : Rat := share 7 10

/-- The candidate that is most similar to a text, if it is similar enough; of several, the last. -/
def mostSimilar? (a : List Char) (candidates : List (List Char)) : Option (List Char) :=
  let better (best : Option (List Char × Rat)) (b : List Char) : Option (List Char × Rat) :=
    let r := similarity a b
    if r ≤ suggestionLimit then best
    else
      match best with
      | none => some (b, r)
      | some (_, q) => if q ≤ r then some (b, r) else best
  (candidates.foldl better none).map (·.1)

end HashReplay.Text
