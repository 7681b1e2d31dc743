import GrammarArena.Log.Pattern.Reader

/-!
Which patterns the value of a field can be matched with. Of the characters of Unicode neither the
classes nor the other cases are known. Where bytes are matched, they must be ASCII; a character
that stands for itself may still be any. The edges of words of Unicode characters are refused for
a reason of their own, if nothing else is wrong.
-/

namespace GrammarArena.Log

inductive PatternFault where
  | malformed
  | unicodeBoundary
  deriving DecidableEq

def PatternFault.message : PatternFault → Text
  | .malformed => "error building NFA"
  | .unicodeBoundary =>
      "unsupported regex feature for DFAs: cannot build DFAs for regexes with Unicode word "
        ++ "boundaries; switch to ASCII word boundaries, or heuristically enable Unicode word "
        ++ "boundaries or use a different regex engine"

def Literal.isAscii (literal : Literal) : Bool :=
  literal.char.toNat < 0x80

structure Mode where
  caseless : Bool := false
  unicode : Bool := true
  deriving DecidableEq

namespace Mode

def change (mode : Mode) (options : Options) : Mode :=
  { caseless := options.caseless.getD mode.caseless
    unicode := options.unicode.getD mode.unicode }

def allowsLiteral (mode : Mode) (literal : Literal) : Bool :=
  if mode.unicode then !mode.caseless else !literal.hexByte || literal.isAscii

def allowsShorthand (mode : Mode) (negated : Bool) : Bool :=
  !mode.unicode && !negated

def allowsMember (mode : Mode) (ascii : Bool) : Bool :=
  if mode.unicode then !mode.caseless else ascii

end Mode

mutual

def CharSet.allowed (mode : Mode) : CharSet → Bool
  | .literal char => mode.allowsMember char.isAscii
  | .range low high => mode.allowsMember (low.isAscii && high.isAscii)
  | .named negated => mode.allowsMember (!negated)
  | .shorthand negated => mode.allowsShorthand negated
  | .bracketed negated inner => (mode.unicode || !negated) && inner.allowed mode
  | .union members => CharSet.allAllowed mode members
  | .combined first second => first.allowed mode && second.allowed mode

def CharSet.allAllowed (mode : Mode) : List CharSet → Bool
  | [] => true
  | member :: members => member.allowed mode && CharSet.allAllowed mode members

end

/-- The mode at a place of a pattern, and whether the edge of a word of Unicode characters was
asked for before. -/
structure Survey where
  mode : Mode := {}
  unicodeBoundary : Bool := false
  deriving DecidableEq

namespace Survey

def when (survey : Survey) (allowed : Bool) : Option Survey :=
  if allowed then some survey else none

def single? (survey : Survey) : Atom → Option Survey
  | .literal char => survey.when (survey.mode.allowsLiteral char)
  | .shorthand negated => survey.when (survey.mode.allowsShorthand negated)
  | .anchor => some survey
  | .boundary =>
      some { survey with unicodeBoundary := survey.unicodeBoundary || survey.mode.unicode }

end Survey

mutual

/-- The survey after a pattern, if all of its items are allowed. Options change the mode up to the
end of the group that they stand in, through all of its branches. -/
def Pattern.survey? (survey : Survey) : Pattern → Option Survey
  | .single atom => survey.single? atom
  | .any => survey.when survey.mode.unicode
  | .oneOf set => survey.when (set.allowed survey.mode)
  | .change options => some { survey with mode := survey.mode.change options }
  | .repeated inner => inner.survey? survey
  | .group options inner =>
      (inner.survey? { survey with mode := survey.mode.change options }).map fun after =>
        { after with mode := survey.mode }
  | .sequence parts | .choice parts => Pattern.surveyAll? survey parts

def Pattern.surveyAll? (survey : Survey) : List Pattern → Option Survey
  | [] => some survey
  | part :: parts =>
      match part.survey? survey with
      | none => none
      | some next => Pattern.surveyAll? next parts

end

namespace Pattern

def heightLimit : Nat := 250

def fault? (text : Text) : Option PatternFault :=
  match read? text with
  | none => some .malformed
  | some pattern =>
      if heightLimit < pattern.height then some .malformed
      else
        match pattern.survey? {} with
        | none => some .malformed
        | some survey => if survey.unicodeBoundary then some .unicodeBoundary else none

end Pattern

end GrammarArena.Log
