import GrammarArena.Value

/-!
What comes of trying a parser at a cursor: a value together with the text left over, or a
failure that names the character it could not accept.
-/

namespace GrammarArena

inductive Failure where
  | endOfInput
  | unexpected (found : Char)
  deriving DecidableEq

namespace Failure

def atCursor : Text → Failure
  | [] => .endOfInput
  | found :: _ => .unexpected found

def found? : Failure → Option Char
  | .endOfInput => none
  | .unexpected found => some found

variable [Text.Unprintables]

def message : Failure → Text
  | .endOfInput => "unexpected end of input"
  | .unexpected found => "unexpected character " ++ Text.quotedChar found

def outline : Failure → Outline
  | .endOfInput => .word "EndOfInput"
  | .unexpected found => .tuple "Unexpected" [.word (Text.quotedChar found)]

end Failure

structure Success (α : Type) where
  value : Value α
  rest : Text

abbrev Reply (α : Type) := Except Failure (Success α)

namespace Success

variable {α : Type}

def withValue (success : Success α) (value : Value α) : Success α :=
  { success with value := value }

def same (first second : Success α) : Bool :=
  first.value.same second.value && first.rest = second.rest

instance : BEq (Success α) := ⟨same⟩

def outline [Text.Unprintables] (success : Success α) : Outline :=
  .record "Success"
    [.field "value" success.value.outline, .field "rest" (.word (Text.quoted success.rest))]

end Success

namespace Reply

variable {α : Type}

def same : Reply α → Reply α → Bool
  | .ok first, .ok second => first.same second
  | .error first, .error second => first = second
  | _, _ => false

def failure? : Reply α → Option Failure
  | .ok _ => none
  | .error failure => some failure

def outline [Text.Unprintables] : Reply α → Outline
  | .ok success => .tuple "Ok" [success.outline]
  | .error failure => .tuple "Err" [failure.outline]

end Reply

end GrammarArena
