import GrammarArena.Text.Outline

/-!
Brainfuck programs as trees of instructions, their source text and their listing.
-/

namespace GrammarArena

inductive Op where
  | plus
  | minus
  | left
  | right
  | put
  | get
  | loop (body : List Op)

namespace Op

mutual

def source : Op → Text
  | .plus => ['+']
  | .minus => ['-']
  | .left => ['<']
  | .right => ['>']
  | .put => ['.']
  | .get => [',']
  | .loop body => '[' :: sourceAll body ++ [']']

def sourceAll : List Op → Text
  | [] => []
  | op :: ops => source op ++ sourceAll ops

end

mutual

def outline : Op → Outline
  | .plus => .word "Plus"
  | .minus => .word "Minus"
  | .left => .word "Left"
  | .right => .word "Right"
  | .put => .word "Put"
  | .get => .word "Get"
  | .loop body => .tuple "Loop" [.list (outlineAll body)]

def outlineAll : List Op → List Outline
  | [] => []
  | op :: ops => outline op :: outlineAll ops

end

def listingLine (level : Nat) (name : Text) : Text :=
  (List.replicate level ['|', ' ']).flatten ++ name

mutual

def lines (level : Nat) : Op → List Text
  | .plus => [listingLine level "plus"]
  | .minus => [listingLine level "minus"]
  | .left => [listingLine level "left"]
  | .right => [listingLine level "right"]
  | .put => [listingLine level "put"]
  | .get => [listingLine level "get"]
  | .loop body => listingLine level "loop" :: linesAll (level + 1) body

def linesAll (level : Nat) : List Op → List Text
  | [] => []
  | op :: ops => lines level op ++ linesAll level ops

end

def listing (ops : List Op) : Text :=
  Text.join ['\n'] (linesAll 0 ops)

end Op

end GrammarArena
