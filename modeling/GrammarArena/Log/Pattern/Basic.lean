import GrammarArena.Text.Basic

/-!
Patterns for the value of a field: regular expressions with sets of characters in brackets,
groups, and options in parentheses. No value is ever matched, so that a pattern keeps of its
text only what decides whether it can be used.
-/

namespace GrammarArena.Log

structure Options where
  caseless : Option Bool := none
  unicode : Option Bool := none
  verbose : Option Bool := none
  deriving DecidableEq

structure Literal where
  char : Char
  hexByte : Bool := false
  deriving DecidableEq

inductive Atom where
  | literal (literal : Literal)
  | shorthand (negated : Bool)
  | anchor
  | boundary
  deriving DecidableEq

/-- A set of characters. An intersection or a difference combines all that is written before it
with what follows it. -/
inductive CharSet where
  | literal (literal : Literal)
  | range (low high : Literal)
  | shorthand (negated : Bool)
  | named (negated : Bool)
  | bracketed (negated : Bool) (inner : CharSet)
  | union (members : List CharSet)
  | combined (first second : CharSet)

/-- An options item changes what follows it in its group. -/
inductive Pattern where
  | single (atom : Atom)
  | any
  | oneOf (set : CharSet)
  | change (options : Options)
  | repeated (inner : Pattern)
  | group (options : Options) (inner : Pattern)
  | sequence (items : List Pattern)
  | choice (branches : List Pattern)

mutual

def CharSet.height : CharSet → Nat
  | .literal _ | .range _ _ | .shorthand _ | .named _ => 0
  | .bracketed _ inner => inner.height + 1
  | .union members =>
      if members.length < 2 then CharSet.maxHeight members else CharSet.maxHeight members + 1
  | .combined first second => max first.height second.height + 1

def CharSet.maxHeight : List CharSet → Nat
  | [] => 0
  | member :: members => max member.height (CharSet.maxHeight members)

end

mutual

def Pattern.height : Pattern → Nat
  | .single _ | .any | .change _ => 0
  | .oneOf set => set.height
  | .repeated inner | .group _ inner => inner.height + 1
  | .sequence parts | .choice parts =>
      if parts.length < 2 then Pattern.maxHeight parts else Pattern.maxHeight parts + 1

def Pattern.maxHeight : List Pattern → Nat
  | [] => 0
  | part :: parts => max part.height (Pattern.maxHeight parts)

end

end GrammarArena.Log
