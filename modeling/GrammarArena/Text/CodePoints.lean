import GrammarArena.Text.Basic

/-!
Sets of characters, as lists of closed ranges of code points in rising order. In such a list a
code point is looked for only as long as the ranges begin at or below it.
-/

namespace GrammarArena.Text

def covers (codePoint : Nat) : List (Nat × Nat) → Bool
  | [] => false
  | (low, high) :: ranges =>
      if codePoint < low then false
      else codePoint ≤ high || covers codePoint ranges

end GrammarArena.Text
