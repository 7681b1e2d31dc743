/-!
Text is a list of characters, so that a cursor into it is simply a suffix. Lengths that
grammars compare are counted in UTF-8 bytes; everything else counts characters.
-/

namespace GrammarArena

abbrev Text := List Char

instance : Coe String Text := ⟨String.toList⟩

namespace Text

def byteLength : Text → Nat
  | [] => 0
  | char :: rest => char.utf8Size + byteLength rest

def join (separator : Text) : List Text → Text
  | [] => []
  | [piece] => piece
  | piece :: next :: pieces => piece ++ separator ++ join separator (next :: pieces)

def splitOn (separator : Char) : Text → List Text
  | [] => [[]]
  | char :: rest =>
      if char = separator then [] :: splitOn separator rest
      else match splitOn separator rest with
        | [] => [[char]]
        | piece :: pieces => (char :: piece) :: pieces

def trimEnd (dropped : Char → Bool) (text : Text) : Text :=
  (text.reverse.dropWhile dropped).reverse

def breakAt (stop : Char → Bool) (text : Text) : Text × Text :=
  (text.takeWhile fun char => !stop char, text.dropWhile fun char => !stop char)

/-- The characters that begin from byte `start` on and before byte `stop` of the UTF-8 form. -/
def between (start stop : Nat) : Text → Text
  | [] => []
  | char :: rest =>
      let others := between (start - char.utf8Size) (stop - char.utf8Size) rest
      if start = 0 ∧ stop ≠ 0 then char :: others else others

def lowered (text : Text) : Text :=
  text.map Char.toLower

def decimal (number : Nat) : Text :=
  Nat.toDigits 10 number

def signedDecimal (number : Int) : Text :=
  if number < 0 then '-' :: decimal number.natAbs else decimal number.natAbs

@[simp] theorem byteLength_append (first second : Text) :
    byteLength (first ++ second) = byteLength first + byteLength second := by
  induction first with
  | nil => simp [byteLength]
  | cons char rest ih => simp [byteLength, ih, Nat.add_assoc]

theorem byteLength_eq_zero_iff {text : Text} : byteLength text = 0 ↔ text = [] := by
  cases text with
  | nil => simp [byteLength]
  | cons char rest =>
      have positive := char.utf8Size_pos
      simp only [byteLength, reduceCtorEq, iff_false]
      omega

theorem join_eq_intercalate (separator : Text) (pieces : List Text) :
    join separator pieces = separator.intercalate pieces := by
  induction pieces with
  | nil => rfl
  | cons piece pieces ih => cases pieces <;> simp_all [join, List.intercalate]

theorem breakAt_append (stop : Char → Bool) (text : Text) :
    (breakAt stop text).1 ++ (breakAt stop text).2 = text :=
  List.takeWhile_append_dropWhile

theorem ofDigitChars_decimal (number : Nat) : Nat.ofDigitChars 10 (decimal number) 0 = number :=
  Nat.ofDigitChars_ten_toDigits

end Text

end GrammarArena
