import GrammarArena.Proofs.InstructionGrammar

/-!
The listing of a program is a scan of its source text that counts how many brackets are open: a
tree is read and written out, and yet each line comes from one character. The listing determines
the program, since a body goes on for as long as the lines have more marks than that of its loop.
-/

namespace GrammarArena

namespace Op

def instructionName : Char → Text
  | '+' => "plus"
  | '-' => "minus"
  | '<' => "left"
  | '>' => "right"
  | '.' => "put"
  | ',' => "get"
  | '[' => "loop"
  | _ => []

/-- A line for every character but closing brackets: a mark for each bracket that is open before
it, and its name. -/
def scannedLines (depth : Nat) : Text → List Text
  | [] => []
  | found :: rest =>
      if found = ']' then scannedLines (depth - 1) rest
      else ((List.replicate depth ['|', ' ']).flatten ++ instructionName found) ::
        scannedLines (if found = '[' then depth + 1 else depth) rest

@[simp] theorem scannedLines_opening (depth : Nat) (rest : Text) :
    scannedLines depth ('[' :: rest) =
      listingLine depth "loop" :: scannedLines (depth + 1) rest := rfl

@[simp] theorem scannedLines_closing (depth : Nat) (rest : Text) :
    scannedLines depth (']' :: rest) = scannedLines (depth - 1) rest := rfl

mutual

theorem scannedLines_source (depth : Nat) (rest : Text) : ∀ op : Op,
    scannedLines depth (source op ++ rest) = lines depth op ++ scannedLines depth rest
  | .plus | .minus | .left | .right | .put | .get => rfl
  | .loop body => by
      have inside := scannedLines_sourceAll (depth + 1) (']' :: rest) body
      simp [source, lines, inside]

theorem scannedLines_sourceAll (depth : Nat) (rest : Text) : ∀ ops : List Op,
    scannedLines depth (sourceAll ops ++ rest) = linesAll depth ops ++ scannedLines depth rest
  | [] => rfl
  | op :: ops => by
      rw [sourceAll, List.append_assoc, scannedLines_source depth _ op,
        scannedLines_sourceAll depth rest ops, linesAll, List.append_assoc]

end

theorem linesAll_eq_scannedLines (ops : List Op) :
    linesAll 0 ops = scannedLines 0 (sourceAll ops) := by
  have scanned := scannedLines_sourceAll 0 [] ops
  simpa [scannedLines] using scanned.symm

theorem linesAll_ne_nil {ops : List Op} (some : ops ≠ []) (level : Nat) :
    linesAll level ops ≠ [] := by
  cases ops with
  | nil => contradiction
  | cons op ops => cases op <;> simp [linesAll, lines]

theorem length_scannedLines (depth : Nat) (text : Text) :
    (scannedLines depth text).length = (text.filter (· ≠ ']')).length := by
  induction text generalizing depth with
  | nil => rfl
  | cons found rest ih =>
      by_cases closing : found = ']'
      · simp [scannedLines, closing, ih]
      · simp [scannedLines, closing, ih]

theorem not_mem_of_mem_scannedLines {depth : Nat} {text line : Text}
    (member : line ∈ scannedLines depth text) : '\n' ∉ line := by
  induction text generalizing depth with
  | nil => simp [scannedLines] at member
  | cons found rest ih =>
      simp only [scannedLines] at member
      split at member
      · exact ih member
      · rcases List.mem_cons.mp member with rfl | later
        · have name : '\n' ∉ instructionName found := by
            unfold instructionName
            split <;> decide
          simp [name]
        · exact ih later

theorem splitOn_listing {ops : List Op} (some : ops ≠ []) :
    List.splitOn '\n' (listing ops) = linesAll 0 ops := by
  have noBreaks : ∀ line ∈ linesAll 0 ops, '\n' ∉ line := by
    intro line member
    rw [linesAll_eq_scannedLines] at member
    exact not_mem_of_mem_scannedLines member
  rw [listing, Text.join_eq_intercalate]
  exact List.splitOn_intercalate '\n' noBreaks (linesAll_ne_nil some 0)

def name : Op → Text
  | .plus => "plus"
  | .minus => "minus"
  | .left => "left"
  | .right => "right"
  | .put => "put"
  | .get => "get"
  | .loop _ => "loop"

def body : Op → List Op
  | .loop body => body
  | _ => []

theorem name_ne_nil (op : Op) : op.name ≠ [] := by
  cases op <;> exact List.cons_ne_nil _ _

theorem lines_eq_cons (level : Nat) (op : Op) :
    lines level op = listingLine level op.name :: linesAll (level + 1) op.body := by
  cases op <;> rfl

def named (name : Text) (body : List Op) : Op :=
  let names : List (Text × Op) :=
    [("plus", .plus), ("minus", .minus), ("left", .left), ("right", .right), ("put", .put),
      ("get", .get)]
  (names.lookup name).getD (.loop body)

theorem named_name (op : Op) : named op.name op.body = op := by
  cases op <;> rfl

theorem eq_of_name_of_body {op other : Op} (sameName : op.name = other.name)
    (sameBody : op.body = other.body) : op = other := by
  rw [← named_name op, sameName, sameBody, named_name]

theorem sizeOf_body_le (op : Op) : sizeOf op.body ≤ sizeOf op := by
  cases op <;> simp [body]

def marks : Text → Nat
  | '|' :: ' ' :: rest => marks rest + 1
  | _ => 0

theorem listingLine_succ (level : Nat) (name : Text) :
    listingLine (level + 1) name = '|' :: ' ' :: listingLine level name := by
  simp [listingLine, List.replicate_succ]

@[simp] theorem marks_listingLine (level : Nat) (op : Op) :
    marks (listingLine level op.name) = level := by
  induction level with
  | zero => cases op <;> rfl
  | succ level ih => rw [listingLine_succ, marks, ih]

theorem name_eq_of_listingLine {level : Nat} {op other : Op}
    (same : listingLine level op.name = listingLine level other.name) : op.name = other.name :=
  List.append_cancel_left same

/-- What follows a body of that level: nothing, or a line with fewer marks. -/
def EndsBody (level : Nat) (after : List Text) : Prop :=
  ∀ line ∈ after.head?, marks line < level

theorem endsBody_linesAll {level : Nat} {after : List Text} (ends : EndsBody level after)
    (ops : List Op) : EndsBody (level + 1) (linesAll level ops ++ after) := by
  intro line first
  cases ops with
  | nil =>
      have fewer := ends line first
      omega
  | cons op ops =>
      simp only [linesAll, lines_eq_cons, List.cons_append, List.head?_cons,
        Option.mem_some_iff] at first
      simp [← first]

theorem not_endsBody_cons (level : Nat) (op : Op) (ops : List Op) (after : List Text) :
    ¬ EndsBody level (linesAll level (op :: ops) ++ after) := by
  intro ends
  have fewer := ends (listingLine level op.name) (by simp [linesAll, lines_eq_cons])
  simp at fewer

theorem linesAll_cancel : ∀ (ops others : List Op) {level : Nat} {rest after : List Text},
    EndsBody level rest → EndsBody level after →
    linesAll level ops ++ rest = linesAll level others ++ after → ops = others ∧ rest = after
  | [], [], _, _, _, _, _, same => ⟨rfl, same⟩
  | [], other :: others, level, _, after, ends, _, same => by
      rw [linesAll, List.nil_append] at same
      rw [same] at ends
      exact absurd ends (not_endsBody_cons level other others after)
  | op :: ops, [], level, rest, _, _, ends, same => by
      rw [linesAll.eq_1, List.nil_append] at same
      rw [← same] at ends
      exact absurd ends (not_endsBody_cons level op ops rest)
  | op :: ops, other :: others, level, rest, after, ends, endsOther, same => by
      simp only [linesAll, lines_eq_cons, List.cons_append, List.append_assoc,
        List.cons.injEq] at same
      obtain ⟨sameLine, sameLines⟩ := same
      -- The body ends where the lines of the loop's own level go on, or where these end as well.
      obtain ⟨sameBody, sameOthers⟩ := linesAll_cancel op.body other.body
        (endsBody_linesAll ends ops) (endsBody_linesAll endsOther others) sameLines
      obtain ⟨sameOps, sameRest⟩ := linesAll_cancel ops others ends endsOther sameOthers
      have sameOp := eq_of_name_of_body (name_eq_of_listingLine sameLine) sameBody
      exact ⟨congrArg₂ List.cons sameOp sameOps, sameRest⟩
termination_by ops => sizeOf ops
decreasing_by
  · have smaller := sizeOf_body_le op
    simp only [List.cons.sizeOf_spec]
    omega
  · simp only [List.cons.sizeOf_spec]
    omega

theorem linesAll_injective {ops others : List Op} (same : linesAll 0 ops = linesAll 0 others) :
    ops = others := by
  have ends : EndsBody 0 [] := by simp [EndsBody]
  have sameLines : linesAll 0 ops ++ [] = linesAll 0 others ++ [] := by rw [same]
  exact (linesAll_cancel ops others ends ends sameLines).1

theorem listing_eq_nil_iff {ops : List Op} : listing ops = [] ↔ ops = [] := by
  constructor
  · intro nothing
    by_contra notEmpty
    have split := splitOn_listing notEmpty
    cases ops with
    | nil => contradiction
    | cons op ops =>
        rw [nothing, List.splitOn_nil, linesAll, lines_eq_cons] at split
        exact name_ne_nil op (List.cons.inj split).1.symm
  · rintro rfl
    rfl

/-- The listing of a program determines the program, loops without a body and the program without
instructions included. -/
theorem listing_eq_iff (ops others : List Op) : listing ops = listing others ↔ ops = others := by
  constructor
  · intro same
    by_cases empty : ops = []
    · rw [empty, listing_eq_nil_iff.mpr rfl] at same
      rw [empty, listing_eq_nil_iff.mp same.symm]
    · have notEmpty : others ≠ [] := by
        intro nothing
        rw [nothing, listing_eq_nil_iff.mpr rfl, listing_eq_nil_iff] at same
        exact empty same
      apply linesAll_injective
      rw [← splitOn_listing empty, ← splitOn_listing notEmpty, same]
  · exact congrArg listing

end Op

namespace Brainfuck

open Op

variable {α : Type} [Carries α Op]

/-- The listing of a program that was read from the whole input is the scan of the input: it has
a line for every character that is not a closing bracket, and they are the lines of the scan. -/
theorem listing_is_scan (initial : Grammar α) :
    ∃ instructions built, grammar initial = .ok (.ok instructions, built) ∧
      ∀ input trail success later,
        built.run instructions input trail = .ok (.ok success, later) →
        listing (program success.value) = List.intercalate ['\n'] (scannedLines 0 input) ∧
        (scannedLines 0 input).length = (input.filter (· ≠ ']')).length ∧
        (input ≠ [] →
          List.splitOn '\n' (listing (program success.value)) = scannedLines 0 input) := by
  refine ⟨_, _, grammar_eq_extend initial, ?_⟩
  intro input trail success later ran
  have written := (laid_extend initial).sourceAll_of_run ran
  have joined : listing (program success.value) =
      List.intercalate ['\n'] (scannedLines 0 input) := by
    rw [listing, Text.join_eq_intercalate, linesAll_eq_scannedLines, written]
  refine ⟨joined, length_scannedLines 0 input, ?_⟩
  intro notEmpty
  have someOps : program success.value ≠ [] := by
    intro nothing
    rw [nothing] at written
    exact notEmpty written.symm
  rw [splitOn_listing someOps, linesAll_eq_scannedLines, written]

end Brainfuck

end GrammarArena
