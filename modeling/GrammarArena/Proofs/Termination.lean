import GrammarArena.Proofs.Nullability
import Mathlib.Data.Finset.Card
import Mathlib.Data.Finset.Filter
import Mathlib.Data.Finset.Range

/-!
Grammars without left recursion end on every input. Between two attempts of one parser, each
inside the other, the cursor has moved on; so attempts nest at most as deep as there are pairs of
a parser and a cursor.
-/

namespace GrammarArena

variable {α : Type} {grammar : Grammar α} {within : Parser → Prop} {rank : Parser → Nat}

namespace Grammar

/-- Some parser that is reached may be tried again inside itself at the same cursor. -/
def LeftRecursive (grammar : Grammar α) (parser : Parser) : Prop :=
  ∃ reached, grammar.Reaches parser reached ∧ Relation.TransGen grammar.LeftChild reached reached

/-- In the set, a parser has a greater rank than those it may try at its own cursor. -/
structure Ranked (grammar : Grammar α) (within : Parser → Prop) (rank : Parser → Nat) : Prop where
  bounded : ∀ {parser}, within parser → rank parser ≤ grammar.size
  falls : ∀ {parser child}, within parser → grammar.LeftChild parser child →
    rank child < rank parser

open Classical in
noncomputable def leftDescendants (grammar : Grammar α) (parser : Parser) : Finset Nat :=
  (Finset.range grammar.size).filter
    fun index => Relation.ReflTransGen grammar.LeftChild parser ⟨index⟩

theorem mem_leftDescendants {parser : Parser} {index : Nat} :
    index ∈ grammar.leftDescendants parser ↔
      index < grammar.size ∧ Relation.ReflTransGen grammar.LeftChild parser ⟨index⟩ := by
  simp [leftDescendants]

noncomputable def leftRank (grammar : Grammar α) (parser : Parser) : Nat :=
  (grammar.leftDescendants parser).card

theorem leftRank_le_size (grammar : Grammar α) (parser : Parser) :
    grammar.leftRank parser ≤ grammar.size := by
  have bound : grammar.leftDescendants parser ⊆ Finset.range grammar.size :=
    fun index listed => Finset.mem_range.mpr (mem_leftDescendants.mp listed).1
  have fewer := Finset.card_le_card bound
  rwa [Finset.card_range] at fewer

theorem leftRank_lt {parser child : Parser} (left : grammar.LeftChild parser child)
    (straight : ¬ Relation.TransGen grammar.LeftChild parser parser) :
    grammar.leftRank child < grammar.leftRank parser := by
  obtain ⟨node, found⟩ := left.exists_node
  have inBounds := index_lt_size_of_lookup found
  have fewer : grammar.leftDescendants child ⊆ grammar.leftDescendants parser := by
    intro index listed
    obtain ⟨bound, below⟩ := mem_leftDescendants.mp listed
    exact mem_leftDescendants.mpr ⟨bound, .head left below⟩
  apply Finset.card_lt_card
  rw [Finset.ssubset_iff_of_subset fewer]
  refine ⟨parser.index, mem_leftDescendants.mpr ⟨inBounds, .refl⟩, ?_⟩
  intro listed
  exact straight (Relation.TransGen.head' left (mem_leftDescendants.mp listed).2)

theorem Ranked.of_not_leftRecursive {parser : Parser} (straight : ¬ grammar.LeftRecursive parser) :
    grammar.Ranked (grammar.Reaches parser) grammar.leftRank where
  bounded := fun _ => grammar.leftRank_le_size _
  falls := fun reached left =>
    leftRank_lt left fun cycle => straight ⟨_, reached, cycle⟩

theorem Ranked.not_leftRecursive (ranked : grammar.Ranked within rank)
    (closed : ∀ {parser next}, within parser → grammar.Leads parser next → within next)
    {parser : Parser} (inside : within parser) : ¬ grammar.LeftRecursive parser := by
  have stays : ∀ {reached}, grammar.Reaches parser reached → within reached := by
    intro reached path
    induction path with
    | refl => exact inside
    | tail _ leads ih => exact closed ih leads
  have falls : ∀ {upper lower}, Relation.TransGen grammar.LeftChild upper lower → within upper →
      within lower ∧ rank lower < rank upper := by
    intro upper lower path insideUpper
    induction path with
    | single left => exact ⟨closed insideUpper left.leads, ranked.falls insideUpper left⟩
    | tail _ left ih =>
        exact ⟨closed ih.1 left.leads, (ranked.falls ih.1 left).trans ih.2⟩
  rintro ⟨reached, path, cycle⟩
  exact Nat.lt_irrefl _ (falls cycle (stays path)).2

def depthBound (grammar : Grammar α) (rank : Nat) (cursor : Text) : Nat :=
  (grammar.size + 1) * cursor.length + rank

theorem depthBound_lt_of_shorter {cursor rest : Text} (shorter : rest.length < cursor.length)
    {lower : Nat} (bounded : lower ≤ grammar.size) (upper : Nat) :
    grammar.depthBound lower rest < grammar.depthBound upper cursor := by
  have product := Nat.mul_le_mul_left (grammar.size + 1) (Nat.succ_le_of_lt shorter)
  rw [Nat.mul_succ] at product
  simp only [depthBound]
  omega

theorem depthBound_le_of_suffix {cursor rest : Text} (suffix : rest <:+ cursor) (rank : Nat) :
    grammar.depthBound rank rest ≤ grammar.depthBound rank cursor := by
  have product := Nat.mul_le_mul_left (grammar.size + 1) suffix.length_le
  simp only [depthBound]
  omega

theorem length_le_depthBound (grammar : Grammar α) (rank : Nat) (cursor : Text) :
    cursor.length ≤ grammar.depthBound rank cursor := by
  have product := Nat.le_mul_of_pos_left cursor.length (Nat.zero_lt_succ grammar.size)
  rw [Nat.succ_eq_add_one] at product
  simp only [depthBound]
  omega

/-- Steps suffice for the children of a sequence from the cursor on: for each at any cursor it
can be tried at, given that those before it are nullable if they took nothing. -/
def Affords (grammar : Grammar α) (rank : Parser → Nat) (steps : Nat) (cursor : Text)
    (children : List Parser) : Prop :=
  ∀ before child after rest, children = before ++ child :: after → rest <:+ cursor →
    (rest = cursor → ∀ skipped ∈ before, grammar.Nullable skipped) →
    grammar.depthBound (rank child) rest < steps

theorem Affords.first {steps : Nat} {cursor : Text} {child : Parser} {children : List Parser}
    (affords : grammar.Affords rank steps cursor (child :: children)) :
    grammar.depthBound (rank child) cursor < steps := by
  apply affords [] child children cursor rfl (List.suffix_refl _)
  intro _ skipped member
  exact absurd member List.not_mem_nil

theorem Affords.next {steps : Nat} {cursor rest : Text} {child : Parser} {children : List Parser}
    (affords : grammar.Affords rank steps cursor (child :: children)) (suffix : rest <:+ cursor)
    (nullable : rest = cursor → grammar.Nullable child) :
    grammar.Affords rank steps rest children := by
  intro before later after lower listed lowerSuffix skippable
  apply affords (child :: before) later after lower (by rw [listed, List.cons_append])
    (lowerSuffix.trans suffix)
  intro still skipped member
  have same := Text.eq_of_suffixes lowerSuffix suffix still
  rcases List.mem_cons.mp member with rfl | earlier
  · exact nullable same
  · exact skippable (still.trans same.symm) skipped earlier

theorem Ranked.affords (ranked : grammar.Ranked within rank)
    (closed : ∀ {parser next}, within parser → grammar.Leads parser next → within next)
    {parser : Parser} {children : List Parser} (inside : within parser)
    (found : grammar.lookup parser = .ok (.sequence children)) {cursor : Text} {steps : Nat}
    (enough : grammar.depthBound (rank parser) cursor < steps + 1) :
    grammar.Affords rank steps cursor children := by
  rintro before child after rest rfl suffix skippable
  have insideChild : within child := closed inside (.sequence found (by simp))
  by_cases still : rest = cursor
  · have lower := ranked.falls inside (.sequence found (skippable still))
    subst still
    simp only [depthBound] at enough ⊢
    omega
  · have unequal : rest.length ≠ cursor.length := fun same => still (suffix.eq_of_length same)
    have shorter := suffix.length_le
    have less : grammar.depthBound (rank child) rest < grammar.depthBound (rank parser) cursor :=
      depthBound_lt_of_shorter (by omega) (ranked.bounded insideChild) _
    omega

end Grammar

theorem Evaluation.bind_ne_outOfSteps {β γ : Type} {evaluation : Evaluation β}
    {next : β → Evaluation γ} {trail : Trail} (ended : evaluation trail ≠ .error .outOfSteps)
    (endsNext : ∀ result middle, evaluation trail = .ok (result, middle) →
      next result middle ≠ .error .outOfSteps) :
    (evaluation >>= next) trail ≠ .error .outOfSteps := by
  rw [Evaluation.bind_apply]
  cases outcome : evaluation trail with
  | error reason =>
      rw [outcome] at ended
      simpa using ended
  | ok made => exact endsNext made.1 made.2 outcome

section Loops

variable (closed : grammar.Closed within Transform.KeepsSuffix) {steps : Nat}
  (completes : ∀ parser cursor trail, within parser →
    grammar.depthBound (rank parser) cursor < steps →
    grammar.evaluate .noProgress steps parser cursor trail ≠ .error .outOfSteps)

include closed completes

theorem sequenceFrom_ne_outOfSteps (children : List Parser)
    (inside : ∀ child ∈ children, within child) (cursor : Text)
    (affords : grammar.Affords rank steps cursor children) (values : List (Value α))
    (trail : Trail) :
    Grammar.sequenceFrom (grammar.evaluate .noProgress steps) values cursor children trail ≠
      .error .outOfSteps := by
  induction children generalizing cursor values trail with
  | nil => simp [Grammar.sequenceFrom, Evaluation.pure_apply]
  | cons child children ih =>
      have insideFirst := inside child List.mem_cons_self
      apply Evaluation.bind_ne_outOfSteps (completes child cursor trail insideFirst affords.first)
      intro reply middle ended
      cases reply with
      | error failure => simp [Evaluation.pure_apply]
      | ok success =>
          have run := Replies.of_evaluate ended
          have suffix := run.rest_suffix closed insideFirst rfl
          apply ih (fun later member => inside later (List.mem_cons_of_mem _ member))
          exact affords.next suffix (run.nullable closed insideFirst rfl)

omit closed in
theorem branchFrom_ne_outOfSteps (children : List Parser) (cursor : Text)
    (inside : ∀ child ∈ children, within child)
    (affords : ∀ child ∈ children, grammar.depthBound (rank child) cursor < steps)
    (last : Failure) (trail : Trail) :
    Grammar.branchFrom (grammar.evaluate .noProgress steps) last cursor children trail ≠
      .error .outOfSteps := by
  induction children generalizing last trail with
  | nil => simp [Grammar.branchFrom, Evaluation.pure_apply]
  | cons child children ih =>
      apply Evaluation.bind_ne_outOfSteps (completes child cursor trail
        (inside child List.mem_cons_self) (affords child List.mem_cons_self))
      intro reply middle _
      cases reply with
      | ok success => simp [Evaluation.pure_apply]
      | error failure =>
          exact ih (fun later member => inside later (List.mem_cons_of_mem _ member))
            (fun later member => affords later (List.mem_cons_of_mem _ member)) failure middle

theorem repeatFrom_ne_outOfSteps {inner : Parser} (inside : within inner) (rounds : Nat)
    (cursor : Text) (enough : cursor.length < rounds)
    (affords : grammar.depthBound (rank inner) cursor < steps) (values : List (Value α))
    (trail : Trail) :
    Grammar.repeatFrom .noProgress (grammar.evaluate .noProgress steps) inner rounds values cursor
      trail ≠ .error .outOfSteps := by
  induction rounds generalizing cursor values trail with
  | zero => omega
  | succ rounds ih =>
      apply Evaluation.bind_ne_outOfSteps (completes inner cursor trail inside affords)
      intro reply middle ended
      cases reply with
      | error failure => simp [Evaluation.pure_apply]
      | ok success =>
          have suffix := (Replies.of_evaluate ended).rest_suffix closed inside rfl
          rw [Task.cursor] at suffix
          cases stops : Guard.noProgress cursor success.rest with
          | true =>
              simp only [stops, ↓reduceIte]
              simp [Evaluation.stall, Evaluation.bind_apply, Evaluation.pure_apply]
          | false =>
              simp only [stops, Bool.false_eq_true, ↓reduceIte]
              have shorter := Guard.length_lt_of_progress suffix stops
              have less := grammar.depthBound_le_of_suffix suffix (rank inner)
              exact ih success.rest (by omega) (by omega) _ middle

end Loops

theorem evaluate_ne_outOfSteps (closed : grammar.Closed within Transform.KeepsSuffix)
    (ranked : grammar.Ranked within rank) (steps : Nat) (parser : Parser) (cursor : Text)
    (trail : Trail) (inside : within parser)
    (enough : grammar.depthBound (rank parser) cursor < steps) :
    grammar.evaluate .noProgress steps parser cursor trail ≠ .error .outOfSteps := by
  induction steps generalizing parser cursor trail with
  | zero => omega
  | succ steps ih =>
      have affordsLeft : ∀ {child}, grammar.LeftChild parser child →
          grammar.depthBound (rank child) cursor < steps := by
        intro child left
        have lower := ranked.falls inside left
        simp only [Grammar.depthBound] at enough ⊢
        omega
      cases found : grammar.lookup parser with
      | error fault =>
          rw [Grammar.evaluate, found]
          simp [Evaluation.bind_apply, Evaluation.ofFault]
      | ok node =>
          rw [Grammar.evaluate_of_lookup found]
          cases node with
          | char | string | filter | satisfy =>
              simp [Grammar.evaluateNode, Evaluation.pure_apply]
          | sequence children =>
              exact sequenceFrom_ne_outOfSteps closed ih children
                (fun child member => closed.leads inside (.sequence found member)) cursor
                (ranked.affords closed.leads inside found enough) [] trail
          | branch children =>
              exact branchFrom_ne_outOfSteps ih children cursor
                (fun child member => closed.leads inside (.branch found member))
                (fun child member => affordsLeft (.branch found member)) _ trail
          | repetition inner =>
              have rounds := grammar.length_le_depthBound (rank parser) cursor
              exact repeatFrom_ne_outOfSteps closed ih (closed.leads inside (.repetition found))
                (steps + 1) cursor (by omega) (affordsLeft (.repetition found)) [] trail
          | map inner transform =>
              apply Evaluation.bind_ne_outOfSteps (ih inner cursor trail
                (closed.leads inside (.map found)) (affordsLeft (.map found)))
              intro reply middle _
              cases reply with
              | error failure => simp [Evaluation.pure_apply]
              | ok success => simp [Evaluation.ofSupply]
          | reference slot =>
              cases resolved : grammar.resolve slot with
              | error fault =>
                  simp [Grammar.evaluateNode, resolved, Evaluation.bind_apply, Evaluation.ofFault]
              | ok bound =>
                  cases bound with
                  | none =>
                      simp [Grammar.evaluateNode, resolved, Evaluation.bind_apply,
                        Evaluation.ofFault, Evaluation.halt]
                  | some target =>
                      rw [Grammar.evaluateNode, resolved]
                      exact ih target cursor trail
                        (closed.leads inside (.reference found resolved))
                        (affordsLeft (.reference found resolved))

theorem Grammar.Ranked.enough (ranked : grammar.Ranked within rank) {parser : Parser}
    (inside : within parser) {input : Text} {steps : Nat}
    (enough : (grammar.size + 1) * (input.length + 1) ≤ steps) :
    grammar.depthBound (rank parser) input < steps := by
  have bounded := ranked.bounded inside
  rw [Nat.mul_succ] at enough
  simp only [Grammar.depthBound]
  omega

theorem Grammar.Ranked.parse_ne_outOfSteps
    (closed : grammar.Closed within Transform.KeepsSuffix) (ranked : grammar.Ranked within rank)
    {parser : Parser} (inside : within parser) (input : Text) (trail : Trail) :
    grammar.parse parser input trail ≠ .error .outOfSteps := by
  apply evaluate_ne_outOfSteps closed ranked _ parser input trail inside
  apply ranked.enough inside
  simp only [Grammar.stepLimit]
  omega

theorem Grammar.LeftRecursive.exists_child {parser : Parser}
    (recursive : grammar.LeftRecursive parser) :
    ∃ child, grammar.Leads parser child ∧ grammar.LeftRecursive child := by
  obtain ⟨reached, path, cycle⟩ := recursive
  rcases Relation.ReflTransGen.cases_head path with rfl | ⟨child, leads, further⟩
  · obtain ⟨child, left, back⟩ := Relation.TransGen.head'_iff.mp cycle
    have returns : grammar.Reaches child parser := back.lift id fun _ _ leftChild => leftChild.leads
    exact ⟨child, left.leads, parser, returns, cycle⟩
  · exact ⟨child, leads, reached, further, cycle⟩

structure Grammar.Steady (grammar : Grammar α) (parser : Parser) : Prop where
  straight : ¬ grammar.LeftRecursive parser
  keeps : grammar.EachTransform parser Transform.KeepsSuffix

theorem Grammar.Steady.of_node {parser : Parser} {node : Node α} {children : List Parser}
    (found : grammar.lookup parser = .ok node)
    (listed : grammar.successors node = .ok (.ok children))
    (own : ∀ transform ∈ node.transform?, Transform.KeepsSuffix transform)
    (each : ∀ child ∈ children, grammar.Steady child) : grammar.Steady parser where
  straight := by
    intro recursive
    obtain ⟨child, leads, recursiveChild⟩ := recursive.exists_child
    exact (each child (leads.mem_successors found listed)).straight recursiveChild
  keeps := .of_node found listed own fun child member => (each child member).keeps

theorem Grammar.Steady.of_leaf {parser : Parser} {node : Node α}
    (found : grammar.lookup parser = .ok node) (plain : node.transform? = none)
    (alone : grammar.successors node = .ok (.ok [])) : grammar.Steady parser := by
  refine .of_node found alone ?_ (by simp)
  simp [plain]

theorem Grammar.Steady.sequence {parser : Parser} {children : List Parser}
    (found : grammar.lookup parser = .ok (.sequence children))
    (each : ∀ child ∈ children, grammar.Steady child) : grammar.Steady parser :=
  .of_node found rfl (by simp [Node.transform?]) each

theorem Grammar.Steady.branch {parser : Parser} {children : List Parser}
    (found : grammar.lookup parser = .ok (.branch children))
    (each : ∀ child ∈ children, grammar.Steady child) : grammar.Steady parser :=
  .of_node found rfl (by simp [Node.transform?]) each

theorem Grammar.Steady.repetition {parser inner : Parser}
    (found : grammar.lookup parser = .ok (.repetition inner)) (steady : grammar.Steady inner) :
    grammar.Steady parser :=
  .of_node found rfl (by simp [Node.transform?]) (by simpa using steady)

theorem Grammar.Steady.map {parser inner : Parser} {transform : Transform α}
    (found : grammar.lookup parser = .ok (.map inner transform))
    (keeps : transform.KeepsSuffix) (steady : grammar.Steady inner) : grammar.Steady parser :=
  .of_node found rfl (by simpa [Node.transform?] using keeps) (by simpa using steady)

theorem Replies.parse_eq_of_steady {parser : Parser} {input : Text} {trail later : Trail}
    {reply : Reply α} (run : Replies grammar .noProgress (.attempt parser input) trail reply later)
    (steady : grammar.Steady parser) : grammar.parse parser input trail = .ok (reply, later) := by
  have ranked := Grammar.Ranked.of_not_leftRecursive steady.straight
  have self := grammar.reaches_self parser
  exact run.parse_eq
    (Grammar.Ranked.parse_ne_outOfSteps steady.keeps.closed ranked self input trail)

/-- Without left recursion every input has an outcome, a reply or a fault: the one that `parse`
has, and any evaluation with a step for each pair of a parser and a cursor. -/
theorem parse_ends {parser : Parser} (straight : ¬ grammar.LeftRecursive parser)
    (keeps : grammar.EachTransform parser Transform.KeepsSuffix) (input : Text) (trail : Trail) :
    ∃ outcome : Except Fault (Reply α × Trail),
      grammar.parse parser input trail = outcome.mapError .fault ∧
      ∀ steps, (grammar.size + 1) * (input.length + 1) ≤ steps →
        grammar.evaluate .noProgress steps parser input trail = outcome.mapError .fault := by
  have ranked := Grammar.Ranked.of_not_leftRecursive straight
  have self := grammar.reaches_self parser
  have ended := Grammar.Ranked.parse_ne_outOfSteps keeps.closed ranked self input trail
  have same : ∀ steps, (grammar.size + 1) * (input.length + 1) ≤ steps →
      grammar.evaluate .noProgress steps parser input trail = grammar.parse parser input trail := by
    intro steps enough
    exact evaluate_eq_of_ended (evaluate_ne_outOfSteps keeps.closed ranked steps parser input trail
      self (ranked.enough self enough)) ended
  cases outcome : grammar.parse parser input trail with
  | ok made => exact ⟨.ok made, rfl, fun steps enough => (same steps enough).trans outcome⟩
  | error reason =>
      cases reason with
      | fault fault =>
          exact ⟨.error fault, rfl, fun steps enough => (same steps enough).trans outcome⟩
      | outOfSteps => exact absurd outcome ended

def nestedWords : Grammar Nat where
  nodes := #[.filter Char.isAlpha, .repetition ⟨0⟩, .map ⟨1⟩ fun success => pure (.ok success),
    .char '(', .reference ⟨0⟩, .char ')', .sequence [⟨3⟩, ⟨4⟩, ⟨5⟩], .branch [⟨6⟩, ⟨2⟩],
    .repetition ⟨7⟩]
  slots := #[some ⟨8⟩]

def nestedWordsRank (parser : Parser) : Nat :=
  if parser.index = 4 then 9 else min parser.index 8

theorem nestedWords_ranked : nestedWords.Ranked (fun _ => True) nestedWordsRank where
  bounded := by
    intro parser _
    simp only [nestedWordsRank, Grammar.size, nestedWords]
    split <;> simp
  falls := by
    rintro ⟨index⟩ child _ left
    have opening : nestedWords.lookup ⟨3⟩ = .ok (.char '(') := rfl
    obtain ⟨node, found⟩ := left.exists_node
    have shape := (Grammar.leftChild_iff found).mp left
    have inBounds : index < 9 := Grammar.index_lt_size_of_lookup found
    rcases index with _ | _ | _ | _ | _ | _ | _ | _ | _ | index
    · cases found
      exact False.elim shape
    · cases found
      obtain rfl : child = ⟨0⟩ := shape
      decide
    · cases found
      obtain rfl : child = ⟨1⟩ := shape
      decide
    · cases found
      exact False.elim shape
    · cases found
      have target : nestedWords.resolve ⟨0⟩ = .ok (some child) := shape
      cases target
      decide
    · cases found
      exact False.elim shape
    · cases found
      obtain rfl := Grammar.LeftOfNode.eq_first shape (Grammar.not_nullable_of_char opening)
      decide
    · cases found
      have listed : child ∈ [⟨6⟩, ⟨2⟩] := shape
      rcases List.mem_pair.mp listed with rfl | rfl <;> decide
    · cases found
      obtain rfl : child = ⟨7⟩ := shape
      decide
    · omega

theorem nestedWords_parse_ends :
    ¬ nestedWords.LeftRecursive ⟨8⟩ ∧ nestedWords.EachTransform ⟨8⟩ Transform.KeepsSuffix ∧
    ∃ outcome : Except Fault (Reply Nat × Trail),
      nestedWords.parse ⟨8⟩ ['a', '(', '(', 'b', ')'] {} = outcome.mapError .fault ∧
      ∀ steps, (nestedWords.size + 1) * 6 ≤ steps →
        nestedWords.evaluate .noProgress steps ⟨8⟩ ['a', '(', '(', 'b', ')'] {} =
          outcome.mapError .fault := by
  have straight : ¬ nestedWords.LeftRecursive ⟨8⟩ :=
    nestedWords_ranked.not_leftRecursive (fun _ _ => trivial) trivial
  have keeps : nestedWords.EachTransform ⟨8⟩ Transform.KeepsSuffix := by
    apply Grammar.EachTransform.of_nodes
    intro inner transform member
    simp only [nestedWords, Array.mem_def, List.mem_cons, reduceCtorEq, false_or, or_false,
      List.not_mem_nil, Node.map.injEq] at member
    rw [member.2]
    rintro success serial result ⟨⟩
    exact List.suffix_refl _
  exact ⟨straight, keeps, parse_ends straight keeps ['a', '(', '(', 'b', ')'] {}⟩

end GrammarArena
