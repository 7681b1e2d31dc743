import GrammarArena.Log.Pattern.SetReader

/-!
The tokens of a pattern. An item is a whole one, down to the members of a set in brackets; groups,
branches and repetitions are marked by tokens of their own.
-/

namespace GrammarArena.Log

inductive Token where
  | item (item : Pattern)
  | opening (options : Options) (name : Option Text)
  | closing
  | bar
  | repetition

namespace Token

def readNamedGroup (text : Text) : Option (Token × Text) :=
  (Lexeme.readName text).map fun (name, rest) => (.opening {} (some name), rest)

def readOptions (text : Text) : Option (Token × Text) :=
  match Lexeme.readOptions [] {} text with
  | some (options, ':' :: rest) => some (.opening options none, rest)
  | some (options, _ :: rest) =>
      if text.head? = some ')' then none else some (.item (.change options), rest)
  | _ => none

def readOpening (verbose : Bool) (text : Text) : Option (Token × Text) :=
  match Lexeme.skip verbose text with
  | '?' :: 'P' :: '<' :: rest => readNamedGroup rest
  | '?' :: '<' :: rest => readNamedGroup rest
  | '?' :: rest => readOptions rest
  | rest => some (.opening {} none, rest)

def skipLazyMark (text : Text) : Text :=
  if text.head? = some '?' then text.tail else text

/-- A brace has no counterpart in the value of a field, so that none can be opened. -/
def read (verbose : Bool) : Text → Option (Token × Text)
  | '(' :: rest => readOpening verbose rest
  | ')' :: rest => some (.closing, rest)
  | '|' :: rest => some (.bar, rest)
  | '?' :: rest | '*' :: rest | '+' :: rest => some (.repetition, skipLazyMark rest)
  | '\x7b' :: _ => none
  | '[' :: rest => (CharSet.read verbose rest).map fun (set, rest) => (.item (.oneOf set), rest)
  | '.' :: rest => some (.item .any, rest)
  | '^' :: rest | '$' :: rest => some (.item (.single .anchor), rest)
  | text => (Lexeme.readAtom verbose text).map fun (atom, rest) => (.item (.single atom), rest)

theorem readNamedGroup_length_lt {token : Token} {text rest : Text}
    (found : readNamedGroup text = some (token, rest)) : rest.length < text.length := by
  unfold readNamedGroup at found
  grind [→ Lexeme.readName_length_lt, Option.map_eq_some_iff]

theorem readOptions_length_le {token : Token} {text rest : Text}
    (found : readOptions text = some (token, rest)) : rest.length ≤ text.length := by
  unfold readOptions at found
  grind [→ Lexeme.readOptions_length_le]

theorem readOpening_length_le {verbose : Bool} {token : Token} {text rest : Text}
    (found : readOpening verbose text = some (token, rest)) : rest.length ≤ text.length := by
  have skipped := Lexeme.skip_length_le verbose text
  unfold readOpening at found
  split at found <;> grind [→ readNamedGroup_length_lt, → readOptions_length_le]

theorem skipLazyMark_length_le (text : Text) : (skipLazyMark text).length ≤ text.length := by
  grind [skipLazyMark]

theorem read_length_lt {verbose : Bool} {token : Token} {text rest : Text}
    (found : read verbose text = some (token, rest)) : rest.length < text.length := by
  unfold read at found
  split at found <;>
    grind [→ readOpening_length_le, skipLazyMark_length_le, → CharSet.read_length_lt,
      → Lexeme.readAtom_length_lt, Option.map_eq_some_iff]

end Token

end GrammarArena.Log
