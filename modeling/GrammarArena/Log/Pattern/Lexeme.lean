import GrammarArena.Log.Pattern.Basic
import GrammarArena.Text.Alphanumeric
import GrammarArena.Text.Blank

/-!
The small pieces that patterns are written with: blanks and comments, escapes, the options of a
group, and its name. Each reader gives what it has read and the rest of the text.
-/

namespace GrammarArena.Log.Lexeme

def passOver (inComment : Bool) : Text → Text
  | [] => []
  | char :: rest =>
      if inComment then passOver (char ≠ '\n') rest
      else if char = '#' then passOver true rest
      else if Text.isBlank char then passOver false rest
      else char :: rest

def skip (verbose : Bool) (text : Text) : Text :=
  if verbose then passOver false text else text

def hexDigit? (char : Char) : Option Nat :=
  if char.isDigit then some (char.toNat - '0'.toNat)
  else if 'a' ≤ char.toLower ∧ char.toLower ≤ 'f' then some (char.toLower.toNat - 'a'.toNat + 10)
  else none

def readHex (verbose : Bool) : Nat → Nat → Text → Option (Nat × Text)
  | 0, value, text => some (value, text)
  | digits + 1, value, text =>
      match skip verbose text with
      | [] => none
      | char :: rest =>
          match hexDigit? char with
          | none => none
          | some digit => readHex verbose digits (16 * value + digit) rest

def readCodePoint (verbose : Bool) (digits : Nat) (text : Text) : Option (Char × Text) :=
  match readHex verbose digits 0 text with
  | some (value, rest) => if value.isValidChar then some (Char.ofNat value, rest) else none
  | none => none

def standsForItself (char : Char) : Bool :=
  char.toNat < 0x80 && !char.isAlphanum && char ≠ '<' && char ≠ '>'

def escape? (char : Char) : Option Atom :=
  match char with
  | 'd' | 's' | 'w' => some (.shorthand false)
  | 'D' | 'S' | 'W' => some (.shorthand true)
  | 'A' | 'z' => some .anchor
  | 'b' | 'B' | '<' | '>' => some .boundary
  | 'a' => some (.literal ⟨'\x07', false⟩)
  | 'f' => some (.literal ⟨'\x0c', false⟩)
  | 't' => some (.literal ⟨'\t', false⟩)
  | 'n' => some (.literal ⟨'\n', false⟩)
  | 'r' => some (.literal ⟨'\r', false⟩)
  | 'v' => some (.literal ⟨'\x0b', false⟩)
  | _ => if standsForItself char then some (.literal ⟨char, false⟩) else none

def readEscape (verbose : Bool) : Text → Option (Atom × Text)
  | [] => none
  | 'x' :: rest =>
      (readCodePoint verbose 2 rest).map fun (char, rest) => (.literal ⟨char, true⟩, rest)
  | 'u' :: rest =>
      (readCodePoint verbose 4 rest).map fun (char, rest) => (.literal ⟨char, false⟩, rest)
  | 'U' :: rest =>
      (readCodePoint verbose 8 rest).map fun (char, rest) => (.literal ⟨char, false⟩, rest)
  | char :: rest => (escape? char).map fun atom => (atom, rest)

def readAtom (verbose : Bool) : Text → Option (Atom × Text)
  | [] => none
  | '\\' :: rest => readEscape verbose rest
  | char :: rest => some (.literal ⟨char, false⟩, rest)

def withOption (options : Options) (letter : Char) (on : Bool) : Options :=
  match letter with
  | 'i' => { options with caseless := some on }
  | 'u' => { options with unicode := some on }
  | 'x' => { options with verbose := some on }
  | _ => options

/-- Option letters up to a colon or a closing parenthesis, which is left in the rest. No letter is
repeated, nor the minus sign, and a letter follows that. -/
def readOptions (seen : List Char) (options : Options) : Text → Option (Options × Text)
  | [] => none
  | char :: rest =>
      if char = ':' || char = ')' then
        if seen.head? = some '-' then none else some (options, char :: rest)
      else if ("imsUuRx-" : Text).contains char && !seen.contains char then
        readOptions (char :: seen) (withOption options char (!seen.contains '-')) rest
      else none

def canBeginName (char : Char) : Bool :=
  char = '_' || Text.isAlphabetic char

def canContinueName (char : Char) : Bool :=
  ("_.[]" : Text).contains char || Text.isAlphanumeric char

def readName (text : Text) : Option (Text × Text) :=
  match text.breakAt (· = '>') with
  | (first :: others, _ :: rest) =>
      if canBeginName first && others.all canContinueName then some (first :: others, rest)
      else none
  | _ => none

theorem passOver_length_le (inComment : Bool) (text : Text) :
    (passOver inComment text).length ≤ text.length := by
  fun_induction passOver inComment text <;> grind

theorem skip_length_le (verbose : Bool) (text : Text) :
    (skip verbose text).length ≤ text.length := by
  have bound := passOver_length_le false text
  grind [skip]

theorem readHex_length_le {verbose : Bool} {digits value found : Nat} {text rest : Text}
    (read : readHex verbose digits value text = some (found, rest)) :
    rest.length ≤ text.length := by
  induction digits generalizing value text with
  | zero => grind [readHex]
  | succ digits ih =>
      have bound := skip_length_le verbose text
      grind [readHex]

theorem readEscape_length_lt {verbose : Bool} {atom : Atom} {text rest : Text}
    (read : readEscape verbose text = some (atom, rest)) : rest.length < text.length := by
  have bound := @readHex_length_le verbose
  unfold readEscape at read
  split at read <;> grind [readCodePoint, Option.map_eq_some_iff]

theorem readAtom_length_lt {verbose : Bool} {atom : Atom} {text rest : Text}
    (read : readAtom verbose text = some (atom, rest)) : rest.length < text.length := by
  have bound := @readEscape_length_lt verbose
  unfold readAtom at read
  split at read <;> grind

theorem readOptions_length_le {seen : List Char} {options found : Options} {text rest : Text}
    (read : readOptions seen options text = some (found, rest)) : rest.length ≤ text.length := by
  fun_induction readOptions seen options text <;> grind

theorem readName_length_lt {name text rest : Text} (read : readName text = some (name, rest)) :
    rest.length < text.length := by
  have whole := Text.breakAt_append (· = '>') text
  grind [readName]

end GrammarArena.Log.Lexeme
