import GrammarArena.Text.Basic

/-!
How alike two words are, by the characters they share at nearly the same places. Of words with
`first` and `second` characters, `shared` of them matched and `swapped` matched pairs out of
order, the similarity is the mean of `shared / first`, `shared / second` and
`(shared - swapped) / shared`. The mean is taken in double precision, term after term, so that
its last bit may decide which of two words is more alike.
-/

namespace GrammarArena.Text.Similarity

def reach (first second : Text) : Nat :=
  max first.length second.length / 2 - 1

def take (char : Char) (low high : Nat) : Nat → List (Option Char) → Option (List (Option Char))
  | _, [] => none
  | position, place :: places =>
      if high < position then none
      else if low ≤ position && place = some char then some (none :: places)
      else (take char low high (position + 1) places).map (place :: ·)

def matched (distance : Nat) : Nat → Text → List (Option Char) → Text × List (Option Char)
  | _, [], places => ([], places)
  | position, char :: rest, places =>
      match take char (position - distance) (position + distance) 0 places with
      | none => matched distance (position + 1) rest places
      | some remaining =>
          let (chars, free) := matched distance (position + 1) rest remaining
          (char :: chars, free)

def takenFrom (second : Text) (free : List (Option Char)) : Text :=
  ((second.zip free).filter (fun place => place.2.isNone)).map Prod.fst

def ofWords (first second : Text) : Float :=
  let (chars, free) := matched (reach first second) 0 first (second.map some)
  let shared := chars.length
  let misplaced := ((chars.zip (takenFrom second free)).filter (fun pair => pair.1 ≠ pair.2)).length
  let swapped := misplaced / 2
  if shared = 0 then 0
  else
    (shared.toFloat / first.length.toFloat + shared.toFloat / second.length.toFloat
      + (shared - swapped).toFloat / shared.toFloat) / 3

/-- The word most like the given one among those more alike than the bound; of equals the last. -/
def closest? {α : Type} (bound : Float) (word : Text) (candidates : List (Text × α)) :
    Option α :=
  let better (best : Option (Float × α)) (candidate : Text × α) : Option (Float × α) :=
    let similarity := ofWords word candidate.1
    if bound < similarity then
      match best with
      | none => some (similarity, candidate.2)
      | some found => if similarity < found.1 then best else some (similarity, candidate.2)
    else best
  (candidates.foldl better none).map Prod.snd

end GrammarArena.Text.Similarity
