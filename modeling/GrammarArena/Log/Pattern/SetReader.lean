import GrammarArena.Log.Pattern.Lexeme

/-!
Sets of characters in brackets. After an opening bracket, and a circumflex that negates the set,
hyphens stand for themselves, and so does a closing bracket. Sets lie within each other, so that
the brackets still open form a stack.
-/

namespace GrammarArena.Log

/-- An open bracket: what its last operation combines, and the members after that, last first.
It is fresh as long as hyphens stand for themselves. -/
structure Bracket where
  negated : Bool
  fresh : Bool := true
  operand : Option CharSet := none
  members : List CharSet := []

namespace Bracket

def add (bracket : Bracket) (member : CharSet) : Bracket :=
  { bracket with members := member :: bracket.members, fresh := false }

def addLeading (bracket : Bracket) (char : Char) : Bracket :=
  { bracket.add (.literal ⟨char, false⟩) with fresh := char = '-' }

def leads (bracket : Bracket) (char : Char) : Bool :=
  bracket.fresh && (char = '-' || char = ']' && bracket.members.isEmpty)

def inner (bracket : Bracket) : CharSet :=
  match bracket.operand with
  | none => .union bracket.members.reverse
  | some first => .combined first (.union bracket.members.reverse)

def combine (bracket : Bracket) : Bracket :=
  { bracket with operand := some bracket.inner, members := [], fresh := false }

def close (bracket : Bracket) : CharSet :=
  .bracketed bracket.negated bracket.inner

def read (verbose : Bool) (text : Text) : Bracket × Text :=
  match Lexeme.skip verbose text with
  | '^' :: rest => ({ negated := true }, rest)
  | rest => ({ negated := false }, rest)

theorem read_length_le (verbose : Bool) (text : Text) :
    (read verbose text).2.length ≤ text.length := by
  have bound := Lexeme.skip_length_le verbose text
  unfold read
  split <;> grind

end Bracket

namespace CharSet

def classNames : List Text :=
  [
    "alnum", "alpha", "ascii", "blank", "cntrl", "digit", "graph", "lower", "print", "punct",
    "space", "upper", "word", "xdigit"
  ]

def readClassName (negated : Bool) (text : Text) : Option (CharSet × Text) :=
  match text.breakAt (· = ':') with
  | (name, ':' :: ']' :: rest) =>
      if classNames.contains name then some (.named negated, rest) else none
  | _ => none

def readNamed : Text → Option (CharSet × Text)
  | ':' :: '^' :: rest => readClassName true rest
  | ':' :: rest => readClassName false rest
  | _ => none

/-- The character after a hyphen. Of a comment only the sign that begins it is passed over. -/
def afterHyphen? (verbose : Bool) (text : Text) : Option Char :=
  if verbose then
    match text.dropWhile Text.isBlank with
    | '#' :: rest => (rest.dropWhile Text.isBlank).head?
    | rest => rest.head?
  else text.head?

def ofAtom? : Atom → Option CharSet
  | .literal char => some (.literal char)
  | .shorthand negated => some (.shorthand negated)
  | .anchor | .boundary => none

def range? : Atom → Atom → Option CharSet
  | .literal low, .literal high => if low.char ≤ high.char then some (.range low high) else none
  | _, _ => none

/-- A single member, or a range. A hyphen before a closing bracket or before another hyphen makes
no range. -/
def readMember (verbose : Bool) (text : Text) : Option (CharSet × Text) :=
  match Lexeme.readAtom verbose text with
  | none => none
  | some (first, rest) =>
      match Lexeme.skip verbose rest with
      | '-' :: following =>
          if [some ']', some '-'].contains (afterHyphen? verbose following) then
            (ofAtom? first).map fun set => (set, rest)
          else
            match Lexeme.readAtom verbose (Lexeme.skip verbose following) with
            | none => none
            | some (last, rest) => (range? first last).map fun set => (set, rest)
      | _ => (ofAtom? first).map fun set => (set, rest)

def isOperation : Text → Bool
  | '&' :: '&' :: _ | '-' :: '-' :: _ | '~' :: '~' :: _ => true
  | _ => false

theorem readClassName_length_le {negated : Bool} {set : CharSet} {text rest : Text}
    (read : readClassName negated text = some (set, rest)) : rest.length ≤ text.length := by
  have whole := Text.breakAt_append (· = ':') text
  unfold readClassName at read
  grind

theorem readNamed_length_lt {set : CharSet} {text rest : Text}
    (read : readNamed text = some (set, rest)) : rest.length < text.length := by
  unfold readNamed at read
  split at read <;> grind [→ readClassName_length_le]

theorem readMember_length_lt {verbose : Bool} {set : CharSet} {text rest : Text}
    (read : readMember verbose text = some (set, rest)) : rest.length < text.length := by
  have skipped := Lexeme.skip_length_le verbose
  have shorter := @Lexeme.readAtom_length_lt verbose
  unfold readMember at read
  grind [Option.map_eq_some_iff]

def readMembers (verbose : Bool) (bracket : Bracket) (outer : List Bracket) (text : Text) :
    Option (CharSet × Text) :=
  match _skipped : Lexeme.skip verbose text with
  | [] => none
  | char :: rest =>
      if bracket.leads char then readMembers verbose (bracket.addLeading char) outer rest
      else if char = ']' then
        match outer with
        | [] => some (bracket.close, rest)
        | enclosing :: outer => readMembers verbose (enclosing.add bracket.close) outer rest
      else if char = '[' then
        match _named : readNamed rest with
        | some (set, after) => readMembers verbose (bracket.add set) outer after
        | none =>
            readMembers verbose (Bracket.read verbose rest).1 (bracket :: outer)
              (Bracket.read verbose rest).2
      else if isOperation (char :: rest) then readMembers verbose bracket.combine outer rest.tail
      else
        match _member : readMember verbose (char :: rest) with
        | none => none
        | some (member, after) => readMembers verbose (bracket.add member) outer after
termination_by text.length
decreasing_by
  all_goals
    have bound := Lexeme.skip_length_le verbose text
    grind [→ readNamed_length_lt, → readMember_length_lt, Bracket.read_length_le]

def read (verbose : Bool) (text : Text) : Option (CharSet × Text) :=
  readMembers verbose (Bracket.read verbose text).1 [] (Bracket.read verbose text).2

theorem readMembers_length_lt {verbose : Bool} {bracket : Bracket} {outer : List Bracket}
    {set : CharSet} {text rest : Text}
    (read : readMembers verbose bracket outer text = some (set, rest)) :
    rest.length < text.length := by
  fun_induction readMembers verbose bracket outer text <;>
    grind [Lexeme.skip_length_le, → readNamed_length_lt, → readMember_length_lt,
      Bracket.read_length_le]

theorem read_length_lt {verbose : Bool} {set : CharSet} {text rest : Text}
    (found : read verbose text = some (set, rest)) : rest.length < text.length := by
  have bound := Bracket.read_length_le verbose text
  have shorter := readMembers_length_lt found
  omega

end CharSet

end GrammarArena.Log
