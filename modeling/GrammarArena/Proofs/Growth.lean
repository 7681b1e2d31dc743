import GrammarArena.Proofs.BracketGrammar
import GrammarArena.Proofs.CheckSafety
import GrammarArena.Proofs.InstructionGrammar
import GrammarArena.Proofs.IntegerGrammar
import GrammarArena.Proofs.Renaming

/-!
Building only adds to a grammar: nodes stay as they are and slots that are bound stay bound. So
what is built later, whatever it names, changes neither the reply of a parser that is there nor
that it passes the check.
-/

namespace GrammarArena

variable {α β γ : Type}

namespace Grammar

structure Grows (grammar later : Grammar α) : Prop where
  lookup : ∀ {parser node}, grammar.lookup parser = .ok node → later.lookup parser = .ok node
  resolve : ∀ {slot target}, grammar.resolve slot = .ok (some target) →
    later.resolve slot = .ok (some target)

theorem Grows.refl (grammar : Grammar α) : grammar.Grows grammar where
  lookup := fun found => found
  resolve := fun bound => bound

theorem Grows.trans {grammar middle later : Grammar α} (first : grammar.Grows middle)
    (next : middle.Grows later) : grammar.Grows later where
  lookup := fun found => next.lookup (first.lookup found)
  resolve := fun bound => next.resolve (first.resolve bound)

theorem grows_extend (grammar : Grammar α) (nodes : List (Node α)) (slots : List (Option Parser)) :
    grammar.Grows (grammar.extend nodes slots) where
  lookup := by
    intro parser node found
    rw [lookup_ok_iff] at found ⊢
    obtain ⟨inBounds, _⟩ := Array.getElem?_eq_some_iff.mp found
    rw [extend, Array.getElem?_append_left inBounds, found]
  resolve := by
    intro slot target bound
    rw [resolve_ok_iff] at bound ⊢
    obtain ⟨inBounds, _⟩ := Array.getElem?_eq_some_iff.mp bound
    rw [extend, Array.getElem?_append_left inBounds, bound]

theorem grows_register (grammar : Grammar α) (node : Node α) :
    grammar.Grows (grammar.register node).2 where
  lookup := lookup_register_of_ok node
  resolve := fun bound => bound

theorem grows_reserve (grammar : Grammar α) : grammar.Grows grammar.reserve.2 where
  lookup := fun found => found
  resolve := by
    intro slot target bound
    rw [resolve_ok_iff] at bound ⊢
    obtain ⟨inBounds, _⟩ := Array.getElem?_eq_some_iff.mp bound
    rw [reserve, Array.getElem?_push_lt inBounds, ← Array.getElem?_eq_getElem inBounds, bound]

theorem grows_of_bindSlot {grammar later : Grammar α} {slot : Slot} {parser : Parser}
    (bound : grammar.bindSlot slot parser = .ok (.ok later)) : grammar.Grows later := by
  rw [bindSlot] at bound
  split at bound
  · cases bound
  · cases bound
  · rename_i free
    cases bound
    constructor
    · exact fun found => found
    · intro other target resolved
      have different : slot.index ≠ other.index := by
        intro same
        rw [resolve_ok_iff] at free resolved
        rw [same, resolved] at free
        cases free
      rw [resolve_ok_iff] at resolved ⊢
      rw [Array.getElem?_setIfInBounds_ne different, resolved]

theorem Grows.renames {grammar later : Grammar α} (grows : grammar.Grows later) (parser : Parser) :
    grammar.Renames later id id parser where
  lookup := by
    intro reached node _ found
    rw [Node.rename_id]
    exact grows.lookup found
  resolve := fun _ _ bound => grows.resolve bound

theorem Sealed.of_grows {grammar later : Grammar α} {within : Parser → Prop}
    (fenced : grammar.Sealed within) (grows : grammar.Grows later) : later.Sealed within where
  found := by
    intro parser inside
    obtain ⟨node, found⟩ := fenced.found inside
    exact ⟨node, grows.lookup found⟩
  bound := by
    intro parser slot inside foundLater
    obtain ⟨node, found⟩ := fenced.found inside
    cases (grows.lookup found).symm.trans foundLater
    obtain ⟨target, resolved⟩ := fenced.bound inside found
    exact ⟨target, grows.resolve resolved⟩
  leads := by
    intro parser next inside leadsLater
    obtain ⟨node, found⟩ := fenced.found inside
    obtain ⟨children, successors, insideChildren⟩ := fenced.exists_successors inside found
    apply insideChildren
    apply leadsLater.mem_successors (grows.lookup found)
    cases node with
    | reference slot =>
        obtain ⟨target, resolved⟩ := fenced.bound inside found
        rw [Grammar.successors, resolved] at successors
        rw [Grammar.successors, grows.resolve resolved]
        exact successors
    | _ => exact successors

end Grammar

namespace Builder

def Grows (builder : Builder α β) : Prop :=
  ∀ grammar result later, builder grammar = .ok (result, later) → grammar.Grows later

theorem Grows.bind {first : Builder α β} {next : β → Builder α γ} (firstGrows : first.Grows)
    (nextGrows : ∀ result, (next result).Grows) : (first >>= next).Grows := by
  intro grammar result later built
  simp only [Bind.bind, StateT.bind, Except.bind] at built
  split at built
  · cases built
  · rename_i made begun
    exact (firstGrows _ _ _ begun).trans (nextGrows made.1 _ _ _ built)

theorem Grows.of_extend {builder : Builder α β}
    (built : ∀ grammar, ∃ result nodes slots,
      builder grammar = .ok (result, grammar.extend nodes slots)) : builder.Grows := by
  intro grammar result later again
  obtain ⟨_, nodes, slots, extended⟩ := built grammar
  cases extended.symm.trans again
  exact grammar.grows_extend nodes slots

theorem Grows.map {builder : Builder α β} (grows : builder.Grows) (describe : β → γ) :
    (describe <$> builder).Grows := by
  rw [map_eq_pure_bind]
  refine grows.bind fun _ => ?_
  rintro grammar result later ⟨⟩
  exact .refl grammar

theorem register_grows (node : Node α) : (register node).Grows := by
  intro grammar result later built
  cases built
  exact grammar.grows_register node

theorem newSlot_grows : (newSlot : Builder α Slot).Grows := by
  intro grammar result later built
  cases built
  exact grammar.grows_reserve

theorem bindSlot_grows (slot : Slot) (parser : Parser) :
    (bindSlot slot parser : Builder α (Except SlotError Unit)).Grows := by
  intro grammar result later built
  rw [bindSlot] at built
  split at built
  · cases built
  · cases built
    exact .refl grammar
  · rename_i bound
    cases built
    exact Grammar.grows_of_bindSlot bound

theorem nonEmptyRepetition_grows (inner : Parser) :
    (nonEmptyRepetition inner : Builder α Parser).Grows :=
  (register_grows _).bind fun _ => register_grows _

theorem anySpace_grows : (anySpace : Builder α Parser).Grows :=
  (register_grows _).bind fun _ => (register_grows _).bind fun _ =>
    (register_grows _).bind fun _ => register_grows _

theorem manySpaces_grows : (manySpaces : Builder α Parser).Grows :=
  anySpace_grows.bind nonEmptyRepetition_grows

theorem integer_grows : (integer : Builder α Parser).Grows :=
  (register_grows _).bind fun _ => register_grows _

theorem brackets_grows : (Brackets.grammar : Builder α (Except SlotError Parser)).Grows :=
  .of_extend fun grammar => ⟨_, _, _, Brackets.grammar_eq_extend grammar⟩

theorem integerList_grows : (IntegerList.grammar : Builder α (Except SlotError Parser)).Grows :=
  .of_extend fun grammar => ⟨_, _, _, IntegerList.grammar_eq_extend grammar⟩

theorem brainfuck_grows [Carries α Op] :
    (Brainfuck.grammar : Builder α (Except SlotError Parser)).Grows :=
  .of_extend fun grammar => ⟨_, _, _, Brainfuck.grammar_eq_extend grammar⟩

/-- The grammar that the builder leaves behind; a fault leaves the one that was there. -/
def leaves (builder : Builder α β) (grammar : Grammar α) : Grammar α :=
  match builder grammar with
  | .ok (_, later) => later
  | .error _ => grammar

theorem Grows.grows_leaves {builder : Builder α β} (grows : builder.Grows) (grammar : Grammar α) :
    grammar.Grows (builder.leaves grammar) := by
  rw [leaves]
  split
  · rename_i built
    exact grows _ _ _ built
  · exact .refl grammar

end Builder

/-- A call that may change a grammar. The parsers and slots it names need not exist. -/
inductive Call (α : Type) where
  | char (expected : Char)
  | string (expected : Text)
  | filter (accepts : Char → Bool)
  | satisfy (accepts : Char → Bool)
  | newLine
  | tab
  | space
  | anySpace
  | manySpaces
  | integer
  | sequence (children : List Parser)
  | branch (children : List Parser)
  | repetition (inner : Parser)
  | nonEmptyRepetition (inner : Parser)
  | map (inner : Parser) (transform : Transform α)
  | reference (slot : Slot)
  | newSlot
  | bindSlot (slot : Slot) (parser : Parser)
  | brackets
  | integerList
  | brainfuck

inductive Answer (α : Type) where
  | parser (parser : Parser)
  | slot (slot : Slot)
  | target (bound : Option Parser)
  | reply (reply : Reply α)
  | done
  | refused (error : SlotError)
  | halted (reason : Halt)

def Answer.ofOutcome {β : Type} (describe : β → Answer α) : Except SlotError β → Answer α
  | .ok result => describe result
  | .error error => .refused error

variable [Carries α Op]

def Call.builder : Call α → Builder α (Answer α)
  | .char expected => .parser <$> Builder.char expected
  | .string expected => .parser <$> Builder.string expected
  | .filter accepts => .parser <$> Builder.filter accepts
  | .satisfy accepts => .parser <$> Builder.satisfy accepts
  | .newLine => .parser <$> Builder.newLine
  | .tab => .parser <$> Builder.tab
  | .space => .parser <$> Builder.space
  | .anySpace => .parser <$> Builder.anySpace
  | .manySpaces => .parser <$> Builder.manySpaces
  | .integer => .parser <$> Builder.integer
  | .sequence children => .parser <$> Builder.sequence children
  | .branch children => .parser <$> Builder.branch children
  | .repetition inner => .parser <$> Builder.repetition inner
  | .nonEmptyRepetition inner => .parser <$> Builder.nonEmptyRepetition inner
  | .map inner transform => .parser <$> Builder.map inner transform
  | .reference slot => .parser <$> Builder.reference slot
  | .newSlot => .slot <$> Builder.newSlot
  | .bindSlot slot parser => .ofOutcome (fun _ => .done) <$> Builder.bindSlot slot parser
  | .brackets => .ofOutcome .parser <$> Brackets.grammar
  | .integerList => .ofOutcome .parser <$> IntegerList.grammar
  | .brainfuck => .ofOutcome .parser <$> Brainfuck.grammar

def Call.perform (grammar : Grammar α) (call : Call α) : Grammar α :=
  call.builder.leaves grammar

def Grammar.build (grammar : Grammar α) (calls : List (Call α)) : Grammar α :=
  calls.foldl Call.perform grammar

theorem Call.builder_grows (call : Call α) : call.builder.Grows := by
  cases call with
  | char | string | filter | satisfy | newLine | tab | space | sequence | branch | repetition
  | map | reference => exact (Builder.register_grows _).map _
  | anySpace => exact Builder.anySpace_grows.map _
  | manySpaces => exact Builder.manySpaces_grows.map _
  | integer => exact Builder.integer_grows.map _
  | nonEmptyRepetition inner => exact (Builder.nonEmptyRepetition_grows inner).map _
  | newSlot => exact Builder.newSlot_grows.map _
  | bindSlot slot parser => exact (Builder.bindSlot_grows slot parser).map _
  | brackets => exact Builder.brackets_grows.map _
  | integerList => exact Builder.integerList_grows.map _
  | brainfuck => exact Builder.brainfuck_grows.map _

theorem Call.grows_perform (grammar : Grammar α) (call : Call α) :
    grammar.Grows (call.perform grammar) :=
  call.builder_grows.grows_leaves grammar

theorem Grammar.grows_build (grammar : Grammar α) (calls : List (Call α)) :
    grammar.Grows (grammar.build calls) := by
  induction calls generalizing grammar with
  | nil => exact .refl grammar
  | cons call calls ih => exact (call.grows_perform grammar).trans (ih (call.perform grammar))

/-- Whatever is called later, a parser that ended with a reply still ends with one like it, and a
parser that passed the check still passes it. -/
theorem kept_by_later_calls (grammar : Grammar α) (calls : List (Call α)) (parser : Parser) :
    (∀ known, grammar.EachTransform parser (Transform.Pure known) →
      ∀ input trail reply later, grammar.Ends .noProgress parser input trail reply later →
      known ≤ trail.nextSerial → ∀ start : Trail, known ≤ start.nextSerial →
      (grammar.build calls).EndsAlike .noProgress known parser input start reply later) ∧
    (grammar.check parser = .ok (.ok ()) →
      (grammar.build calls).check parser = .ok (.ok ())) := by
  have grows := grammar.grows_build calls
  constructor
  · intro known pure input trail reply later ended made start madeLater
    have run := ends_iff_replies.mp ended
    have runLater := run.renamed (grows.renames parser) pure made madeLater
    exact runLater.endsAlike
  · intro passed
    obtain ⟨within, fenced, inside⟩ := Grammar.check_sealed passed
    exact (fenced.of_grows grows).check_passes inside

theorem Brainfuck.instruction_pure (op : Op) (known : Nat) :
    Transform.Pure known (Brainfuck.instruction op : Transform α) := by
  intro paired first second next other fits alike
  refine ⟨paired.extend next other, fun _ _ pair => Or.inl pair, fits.extend, ?_⟩
  exact ⟨⟨Or.inr ⟨rfl, rfl⟩, rfl⟩, alike.2⟩

def openChoice : Grammar Op where
  nodes := #[.char '+', .map ⟨0⟩ (Brainfuck.instruction .plus), .reference ⟨0⟩,
    .sequence [⟨1⟩, ⟨6⟩], .branch [⟨1⟩, ⟨2⟩, ⟨3⟩]]
  slots := #[none]

def closingCalls : List (Call Op) :=
  [.char '-', .bindSlot ⟨0⟩ ⟨5⟩, .bindSlot ⟨0⟩ ⟨4⟩, .bindSlot ⟨7⟩ ⟨0⟩, .manySpaces, .brainfuck,
    .sequence [⟨40⟩, ⟨4⟩]]

theorem openChoice_kept_by_later_calls :
    openChoice.EachTransform ⟨4⟩ (Transform.Pure 0) ∧
    openChoice.Ends .noProgress ⟨4⟩ ['+', ' '] {} (.ok ⟨.custom 0 .plus, [' ']⟩) ⟨1, []⟩ ∧
    (openChoice.build closingCalls).EndsAlike .noProgress 0 ⟨4⟩ ['+', ' '] ⟨6, []⟩
      (.ok ⟨.custom 0 .plus, [' ']⟩) ⟨1, []⟩ ∧
    openChoice.check ⟨1⟩ = .ok (.ok ()) ∧
    (openChoice.build closingCalls).check ⟨1⟩ = .ok (.ok ()) := by
  have pure : openChoice.EachTransform ⟨4⟩ (Transform.Pure 0) := by
    apply Grammar.EachTransform.of_transforms
    exact Brainfuck.instruction_pure .plus 0
  have ended : openChoice.Ends .noProgress ⟨4⟩ ['+', ' '] {} (.ok ⟨.custom 0 .plus, [' ']⟩)
      ⟨1, []⟩ := ⟨8, rfl⟩
  have passed : openChoice.check ⟨1⟩ = .ok (.ok ()) := by
    simp [Grammar.check, Grammar.parsers, Grammar.size, Grammar.checkFrom, Grammar.lookup,
      Grammar.successors, openChoice, List.range, List.range.loop]
  have kept := (kept_by_later_calls openChoice closingCalls ⟨4⟩).1 0 pure ['+', ' '] {} _ _ ended
    (Nat.zero_le _) ⟨6, []⟩ (Nat.zero_le _)
  have passes := (kept_by_later_calls openChoice closingCalls ⟨1⟩).2 passed
  exact ⟨pure, ended, kept, passed, passes⟩

end GrammarArena
