import GrammarArena.Text.CodePoints

/-!
The twenty-five characters that leave a space: the white space of Unicode.
-/

namespace GrammarArena.Text

def blankRanges : List (Nat × Nat) :=
  [
    (0x9, 0xd), (0x20, 0x20), (0x85, 0x85), (0xa0, 0xa0), (0x1680, 0x1680), (0x2000, 0x200a),
    (0x2028, 0x2029), (0x202f, 0x202f), (0x205f, 0x205f), (0x3000, 0x3000)
  ]

def isBlank (char : Char) : Bool :=
  covers char.toNat blankRanges

def trim (text : Text) : Text :=
  trimEnd isBlank (text.dropWhile isBlank)

end GrammarArena.Text
