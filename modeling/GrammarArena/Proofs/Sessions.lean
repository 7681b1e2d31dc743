import GrammarArena.Proofs.Growth

/-!
Whole sessions: anything may be asked of a grammar, in any order and with any parsers and slots.
What is asked comes down to three acts, and the tables of the grammar are what the history of these
acts says: the nodes in the order in which they were registered, and in each slot the parser that it
was first bound to after it was issued.
-/

namespace GrammarArena

variable {α : Type}

inductive Operation (α : Type) where
  | call (call : Call α)
  | resolve (slot : Slot)
  | check (parser : Parser)
  | parse (parser : Parser) (input : Text)
  | run (parser : Parser) (input : Text)

structure Session (α : Type) where
  grammar : Grammar α := {}
  trail : Trail := {}

section Asking

variable [Carries α Op]

namespace Session

def evaluate (session : Session α) (evaluation : Evaluation (Reply α)) : Answer α × Session α :=
  match evaluation session.trail with
  | .ok (reply, trail) => (.reply reply, { session with trail := trail })
  | .error reason => (.halted reason, session)

/-- What is answered, and the session that goes on. After a fault it goes on as it was. -/
def ask (session : Session α) : Operation α → Answer α × Session α
  | .call call =>
      match call.builder session.grammar with
      | .ok (answer, grammar) => (answer, { session with grammar := grammar })
      | .error fault => (.halted (.fault fault), session)
  | .resolve slot =>
      match session.grammar.resolve slot with
      | .ok target => (.target target, session)
      | .error fault => (.halted (.fault fault), session)
  | .check parser =>
      match session.grammar.check parser with
      | .ok outcome => (.ofOutcome (fun _ => .done) outcome, session)
      | .error fault => (.halted (.fault fault), session)
  | .parse parser input => session.evaluate (session.grammar.parse parser input)
  | .run parser input => session.evaluate (session.grammar.run parser input)

def after (session : Session α) (operations : List (Operation α)) : Session α :=
  operations.foldl (fun session operation => (session.ask operation).2) session

end Session

end Asking

/-- What calls do to a grammar, one table entry at a time. -/
inductive Act (α : Type) where
  | register (node : Node α)
  | issue
  | bind (slot : Slot) (parser : Parser)

namespace Act

def perform (grammar : Grammar α) : Act α → Grammar α
  | .register node => (grammar.register node).2
  | .issue => grammar.reserve.2
  | .bind slot parser => (Builder.bindSlot slot parser).leaves grammar

def node? : Act α → Option (Node α)
  | .register node => some node
  | _ => none

def issues : Act α → Bool
  | .issue => true
  | _ => false

def target? (slot : Slot) : Act α → Option Parser
  | .bind bound parser => if bound = slot then some parser else none
  | _ => none

def registered (acts : List (Act α)) : List (Node α) :=
  acts.filterMap node?

def issued (acts : List (Act α)) : Nat :=
  acts.countP issues

/-- What the slot was to be bound to, in order, whether or not it was free. -/
def targets (slot : Slot) (acts : List (Act α)) : List Parser :=
  acts.filterMap (target? slot)

def performAll (grammar : Grammar α) (acts : List (Act α)) : Grammar α :=
  acts.foldl perform grammar

variable {grammar : Grammar α} {slot : Slot}

theorem performAll_cons (grammar : Grammar α) (act : Act α) (later : List (Act α)) :
    performAll grammar (act :: later) = performAll (act.perform grammar) later :=
  List.foldl_cons ..

theorem performAll_append (grammar : Grammar α) (acts later : List (Act α)) :
    performAll grammar (acts ++ later) = performAll (performAll grammar acts) later :=
  List.foldl_append

theorem registered_cons (act : Act α) (acts : List (Act α)) :
    registered (act :: acts) = act.node?.toList ++ registered acts := by
  cases found : act.node? <;> simp [registered, found]

theorem issued_cons (act : Act α) (acts : List (Act α)) :
    issued (act :: acts) = act.issues.toNat + issued acts := by
  cases found : act.issues <;> simp [issued, found, Nat.add_comm]

theorem registered_append (acts later : List (Act α)) :
    registered (acts ++ later) = registered acts ++ registered later :=
  List.filterMap_append

theorem leaves_bindSlot (grammar : Grammar α) (slot : Slot) (parser : Parser) :
    (Builder.bindSlot slot parser).leaves grammar =
      if grammar.resolve slot = .ok none then
        { grammar with slots := grammar.slots.setIfInBounds slot.index (some parser) }
      else grammar := by
  rw [Builder.leaves, Builder.bindSlot, Grammar.bindSlot]
  cases held : grammar.resolve slot with
  | error fault => simp
  | ok target => cases target <;> simp

theorem nodes_perform (grammar : Grammar α) (act : Act α) :
    (act.perform grammar).nodes.toList = grammar.nodes.toList ++ act.node?.toList := by
  cases act with
  | register node => simp [perform, Grammar.register, node?]
  | issue => simp [perform, Grammar.reserve, node?]
  | bind slot parser =>
      rw [perform, leaves_bindSlot]
      split <;> simp [node?]

theorem slots_size_perform (grammar : Grammar α) (act : Act α) :
    (act.perform grammar).slots.size = grammar.slots.size + act.issues.toNat := by
  cases act with
  | register node => simp [perform, Grammar.register, issues]
  | issue => simp [perform, Grammar.reserve, issues]
  | bind slot parser =>
      rw [perform, leaves_bindSlot]
      split <;> simp [issues]

/-- What a slot holds it keeps; while it holds nothing it takes what it is to be bound to. -/
theorem resolve_perform {held : Option Parser} (found : grammar.resolve slot = .ok held)
    (act : Act α) :
    (act.perform grammar).resolve slot = .ok (held.or (act.target? slot)) := by
  rw [Grammar.resolve_ok_iff] at found
  obtain ⟨inBounds, holds⟩ := Array.getElem?_eq_some_iff.mp found
  rw [Grammar.resolve_ok_iff]
  cases act with
  | register node => simp [perform, Grammar.register, target?, found]
  | issue =>
      simp [perform, Grammar.reserve, target?, Array.getElem?_push_lt inBounds, holds]
  | bind bound parser =>
      rw [perform, leaves_bindSlot]
      -- The slot takes the parser only while it holds none; a bind of another one passes it by.
      by_cases same : bound = slot
      · subst same
        cases held with
        | none =>
            rw [if_pos (Grammar.resolve_ok_iff.mpr found)]
            simp [target?, inBounds]
        | some target => simp [Grammar.resolve_ok_iff, found]
      · have elsewhere : bound.index ≠ slot.index :=
          fun sameIndex => same (congrArg Slot.mk sameIndex)
        split
        · simp [target?, same, Array.getElem?_setIfInBounds_ne elsewhere, found]
        · simp [target?, same, found]

theorem nodes_performAll (grammar : Grammar α) (acts : List (Act α)) :
    (performAll grammar acts).nodes.toList = grammar.nodes.toList ++ registered acts := by
  induction acts generalizing grammar with
  | nil => simp [performAll, registered]
  | cons act acts ih =>
      rw [performAll_cons, ih, nodes_perform, registered_cons,
        List.append_assoc]

theorem slots_size_performAll (grammar : Grammar α) (acts : List (Act α)) :
    (performAll grammar acts).slots.size = grammar.slots.size + issued acts := by
  induction acts generalizing grammar with
  | nil => simp [performAll, issued]
  | cons act acts ih =>
      rw [performAll_cons, ih, slots_size_perform, issued_cons,
        Nat.add_assoc]

theorem resolve_performAll {held : Option Parser} (found : grammar.resolve slot = .ok held)
    (acts : List (Act α)) :
    (performAll grammar acts).resolve slot = .ok (held.or (targets slot acts).head?) := by
  induction acts generalizing grammar held with
  | nil => simp [performAll, targets, found]
  | cons act acts ih =>
      rw [performAll_cons, ih (resolve_perform found act)]
      cases first : act.target? slot with
      | none => simp [targets, first]
      | some target => cases held <;> simp [targets, first]

end Act

/-! Every call is a series of acts. -/

namespace Grammar

theorem extend_extend (grammar : Grammar α) (nodes more : List (Node α))
    (slots others : List (Option Parser)) :
    (grammar.extend nodes slots).extend more others =
      grammar.extend (nodes ++ more) (slots ++ others) := by
  simp [extend]

theorem reserve_eq_extend (grammar : Grammar α) :
    grammar.reserve.2 = grammar.extend [] [none] := by
  simp [reserve, extend]

end Grammar

theorem Act.performAll_registers (grammar : Grammar α) (nodes : List (Node α)) :
    performAll grammar (nodes.map .register) = grammar.extend nodes [] := by
  induction nodes generalizing grammar with
  | nil => rw [Grammar.extend_nil]; rfl
  | cons node nodes ih =>
      have first : (Act.register node).perform grammar = grammar.extend [node] [] := by
        simp [perform, Grammar.register, Grammar.extend]
      rw [List.map_cons, performAll_cons, ih, first,
        Grammar.extend_extend]
      rfl

namespace Builder

variable {β γ : Type}

theorem map_apply {builder : Builder α β} {grammar later : Grammar α} {result : β}
    (built : builder grammar = .ok (result, later)) (describe : β → γ) :
    (describe <$> builder) grammar = .ok (describe result, later) := by
  simp [Functor.map, StateT.map, built, Bind.bind, Except.bind, Pure.pure, Except.pure]

theorem leaves_map (builder : Builder α β) (describe : β → γ) (grammar : Grammar α) :
    (describe <$> builder).leaves grammar = builder.leaves grammar := by
  rw [leaves, leaves]
  cases built : builder grammar with
  | ok made => rw [map_apply built]
  | error fault => simp [Functor.map, StateT.map, built, Bind.bind, Except.bind]

theorem bindSlot_extend (grammar : Grammar α) (nodes : List (Node α)) (target : Parser) :
    (bindSlot ⟨grammar.slots.size⟩ target).leaves (grammar.extend nodes [none]) =
      grammar.extend nodes [some target] := by
  have free : ([none] : List (Option Parser))[0]? = some none := rfl
  have bound := bindSlot_bind grammar nodes [none] free target pure
  rw [bind_pure] at bound
  rw [leaves]
  rw [Nat.add_zero] at bound
  rw [bound]
  rfl

end Builder

theorem Act.performAll_recursive (grammar : Grammar α) (nodes : List (Node α)) (target : Parser) :
    performAll grammar
        (.issue :: nodes.map .register ++ [.bind ⟨grammar.slots.size⟩ target]) =
      grammar.extend nodes [some target] := by
  have issued : performAll grammar [.issue] = grammar.extend [] [none] := grammar.reserve_eq_extend
  rw [List.cons_append, ← List.singleton_append, performAll_append, performAll_append, issued,
    performAll_registers, Grammar.extend_extend]
  exact Builder.bindSlot_extend grammar nodes target

section Calls

variable [Carries α Op]

def Call.nodes (base : Nat) (slot : Slot) : Call α → List (Node α)
  | .char expected => [.char expected]
  | .string expected => [.string expected]
  | .filter accepts => [.filter accepts]
  | .satisfy accepts => [.satisfy accepts]
  | .newLine => [.char '\n']
  | .tab => [.char '\t']
  | .space => [.char ' ']
  | .anySpace => [.char '\t', .char ' ', .char '\n', .branch [⟨base⟩, ⟨base + 1⟩, ⟨base + 2⟩]]
  | .manySpaces =>
      [.char '\t', .char ' ', .char '\n', .branch [⟨base⟩, ⟨base + 1⟩, ⟨base + 2⟩],
        .repetition ⟨base + 3⟩, .map ⟨base + 4⟩ fun success => pure (Builder.requireItems success)]
  | .integer =>
      [.filter Char.isDigit, .map ⟨base⟩ fun success => pure (Builder.readInteger success)]
  | .sequence children => [.sequence children]
  | .branch children => [.branch children]
  | .repetition inner => [.repetition inner]
  | .nonEmptyRepetition inner =>
      [.repetition inner, .map ⟨base⟩ fun success => pure (Builder.requireItems success)]
  | .map inner transform => [.map inner transform]
  | .reference slot => [.reference slot]
  | .newSlot | .bindSlot _ _ => []
  | .brackets => Brackets.nodes base slot
  | .integerList => IntegerList.nodes base
  | .brainfuck => Brainfuck.nodes base slot

def Call.acts (grammar : Grammar α) (call : Call α) : List (Act α) :=
  let slot : Slot := ⟨grammar.slots.size⟩
  let nodes := call.nodes grammar.size slot
  let last : Parser := ⟨grammar.size + nodes.length - 1⟩
  match call with
  | .newSlot => [.issue]
  | .bindSlot slot parser => [.bind slot parser]
  | .brackets | .brainfuck => .issue :: nodes.map .register ++ [.bind slot last]
  | _ => nodes.map .register

/-- A call that registers nodes never faults, and its answer is the last of them. -/
theorem Call.builder_eq (grammar : Grammar α) (call : Call α)
    (registers : call.nodes grammar.size ⟨grammar.slots.size⟩ ≠ []) :
    call.builder grammar =
      .ok (.parser ⟨grammar.size + (call.nodes grammar.size ⟨grammar.slots.size⟩).length - 1⟩,
        Act.performAll grammar (call.acts grammar)) := by
  have begins : call.builder grammar = call.builder (grammar.extend [] []) := by
    rw [Grammar.extend_nil]
  cases call with
  | newSlot | bindSlot => contradiction
  | brackets =>
      simp only [acts]
      rw [Act.performAll_recursive]
      exact Builder.map_apply (Brackets.grammar_eq_extend grammar) _
  | brainfuck =>
      simp only [acts]
      rw [Act.performAll_recursive]
      exact Builder.map_apply (Brainfuck.grammar_eq_extend grammar) _
  | integerList =>
      simp only [acts]
      rw [Act.performAll_registers]
      exact Builder.map_apply (IntegerList.grammar_eq_extend grammar) _
  | _ =>
      -- Over an extended grammar every step of the builder appends one more node.
      simp only [acts]
      rw [begins, Act.performAll_registers]
      simp only [builder, Builder.anySpace, Builder.manySpaces, Builder.nonEmptyRepetition,
        Builder.integer, Builder.tab, Builder.space, Builder.newLine, Builder.char, Builder.string,
        Builder.filter, Builder.satisfy, Builder.sequence, Builder.branch, Builder.repetition,
        Builder.map, Builder.reference, map_eq_pure_bind, bind_assoc, Builder.register_bind,
        List.nil_append, List.length_nil, List.cons_append, List.length_cons, Nat.add_zero,
        Nat.zero_add, Nat.reduceAdd]
      rfl

theorem Call.perform_eq_performAll (grammar : Grammar α) (call : Call α) :
    call.perform grammar = Act.performAll grammar (call.acts grammar) := by
  by_cases registers : call.nodes grammar.size ⟨grammar.slots.size⟩ ≠ []
  · rw [perform, Builder.leaves, builder_eq grammar call registers]
  · cases call with
    | newSlot | bindSlot => exact Builder.leaves_map _ _ _
    | _ => exact absurd (List.cons_ne_nil _ _) registers

end Calls

theorem Session.evaluate_grammar (session : Session α) (evaluation : Evaluation (Reply α)) :
    (session.evaluate evaluation).2.grammar = session.grammar := by
  rw [evaluate]
  split <;> rfl

section Histories

variable [Carries α Op]

def Operation.acts (grammar : Grammar α) : Operation α → List (Act α)
  | .call asked => asked.acts grammar
  | _ => []

namespace Session

def history (session : Session α) : List (Operation α) → List (Act α)
  | [] => []
  | operation :: later =>
      operation.acts session.grammar ++ (session.ask operation).2.history later

theorem ask_bindSlot (session : Session α) (slot : Slot) (parser : Parser) :
    session.ask (.call (.bindSlot slot parser)) =
      match session.grammar.resolve slot with
      | .error fault => (.halted (.fault fault), session)
      | .ok (some _) => (.refused (.alreadyBound slot), session)
      | .ok none =>
          (.done, { session with grammar := (Act.bind slot parser).perform session.grammar }) := by
  cases held : session.grammar.resolve slot with
  | error fault =>
      simp [ask, Call.builder, Builder.bindSlot, Grammar.bindSlot, held, Functor.map, StateT.map,
        Bind.bind, Except.bind]
  | ok target =>
      cases target with
      | some target =>
          have refused : Builder.bindSlot slot parser session.grammar =
              .ok (.error (.alreadyBound slot), session.grammar) := by
            simp [Builder.bindSlot, Grammar.bindSlot, held]
          simp only [ask, Call.builder, Builder.map_apply refused]
          rfl
      | none =>
          have bound : Builder.bindSlot slot parser session.grammar =
              .ok (.ok (), (Act.bind slot parser).perform session.grammar) := by
            simp [Act.perform, Builder.leaves, Builder.bindSlot, Grammar.bindSlot, held]
          simp only [ask, Call.builder, Builder.map_apply bound]
          rfl

theorem ask_registers (session : Session α) (call : Call α)
    (registers : call.nodes session.grammar.size ⟨session.grammar.slots.size⟩ ≠ []) :
    session.ask (.call call) =
      (.parser ⟨session.grammar.size +
          (call.nodes session.grammar.size ⟨session.grammar.slots.size⟩).length - 1⟩,
        { session with
          grammar := Act.performAll session.grammar (call.acts session.grammar) }) := by
  rw [ask, Call.builder_eq session.grammar call registers]

theorem ask_call_grammar (session : Session α) (call : Call α) :
    (session.ask (.call call)).2.grammar = call.perform session.grammar := by
  rw [ask, Call.perform, Builder.leaves]
  split <;> simp_all

/-- Whatever is asked, the grammar changes by the acts of the operation only. -/
theorem ask_grammar (session : Session α) (operation : Operation α) :
    (session.ask operation).2.grammar =
      Act.performAll session.grammar (operation.acts session.grammar) := by
  cases operation with
  | call call => rw [ask_call_grammar, call.perform_eq_performAll, Operation.acts]
  | parse parser input => exact session.evaluate_grammar _
  | run parser input => exact session.evaluate_grammar _
  | resolve slot =>
      rw [ask]
      split <;> rfl
  | check parser =>
      rw [ask]
      split <;> rfl

theorem after_grammar (session : Session α) (operations : List (Operation α)) :
    (session.after operations).grammar =
      Act.performAll session.grammar (session.history operations) := by
  induction operations generalizing session with
  | nil => rfl
  | cons operation later ih =>
      rw [after, List.foldl_cons, ← after, ih, ask_grammar, history, Act.performAll_append]

theorem grows_after (session : Session α) (operations : List (Operation α)) :
    session.grammar.Grows (session.after operations).grammar where
  lookup := by
    intro parser node found
    rw [Grammar.lookup_ok_iff, ← Array.getElem?_toList] at found ⊢
    obtain ⟨inBounds, _⟩ := List.getElem?_eq_some_iff.mp found
    rw [after_grammar, Act.nodes_performAll, List.getElem?_append_left inBounds, found]
  resolve := by
    intro slot target bound
    rw [after_grammar, Act.resolve_performAll bound]
    rfl

structure Records (session : Session α) (acts : List (Act α)) : Prop where
  size : session.grammar.size = (Act.registered acts).length
  teardown : Builder.teardown session.grammar = .ok ((Act.registered acts).length, {})
  lookup : ∀ {before node later}, acts = before ++ .register node :: later →
    session.grammar.lookup ⟨(Act.registered before).length⟩ = .ok node
  lastRegistered : ∀ call : Call α, Act.registered (call.acts session.grammar) ≠ [] →
    (session.ask (.call call)).1 =
      .parser ⟨(Act.registered (acts ++ call.acts session.grammar)).length - 1⟩
  lastIssued : (session.ask (.call .newSlot)).1 = .slot ⟨Act.issued acts⟩
  firstBound : ∀ {before later}, acts = before ++ .issue :: later →
    session.ask (.resolve ⟨Act.issued before⟩) =
      (.target (Act.targets ⟨Act.issued before⟩ later).head?, session)
  boundOnce : ∀ {before later} parser, acts = before ++ .issue :: later →
    Act.targets ⟨Act.issued before⟩ later ≠ [] →
    session.ask (.call (.bindSlot ⟨Act.issued before⟩ parser)) =
      (.refused (.alreadyBound ⟨Act.issued before⟩), session)
  boundFirst : ∀ {before later} parser, acts = before ++ .issue :: later →
    Act.targets ⟨Act.issued before⟩ later = [] →
    (session.ask (.call (.bindSlot ⟨Act.issued before⟩ parser))).1 = .done
  unissued : ∀ slot parser, Act.issued acts ≤ slot.index →
    session.ask (.call (.bindSlot slot parser)) =
      (.halted (.fault (.missingSlot (Act.issued acts) slot)), session)

end Session

end Histories

namespace Act

theorem resolve_issued {acts before later : List (Act α)}
    (split : acts = before ++ .issue :: later) :
    (performAll {} acts).resolve ⟨issued before⟩ =
      .ok (targets ⟨issued before⟩ later).head? := by
  have size : (performAll {} before).slots.size = issued before := by
    simpa using slots_size_performAll {} before
  have free : (Act.issue.perform (performAll {} before)).resolve ⟨issued before⟩ = .ok none := by
    simp [Grammar.resolve_ok_iff, perform, Grammar.reserve, ← size]
  rw [split, performAll_append, performAll_cons, resolve_performAll free later, Option.none_or]

theorem lookup_registered {acts before later : List (Act α)} {node : Node α}
    (split : acts = before ++ .register node :: later) :
    (performAll {} acts).lookup ⟨(registered before).length⟩ = .ok node := by
  rw [Grammar.lookup_ok_iff, ← Array.getElem?_toList, nodes_performAll, split, registered_append,
    registered_cons]
  simp [node?]

theorem registered_registers (nodes : List (Node α)) :
    registered (nodes.map .register) = nodes := by
  simp [registered, node?, Function.comp_def]

theorem size_registered (acts : List (Act α)) :
    (performAll {} acts).size = (registered acts).length := by
  rw [Grammar.size, ← Array.length_toList, nodes_performAll]
  rfl

end Act

theorem Call.registered_acts [Carries α Op] (grammar : Grammar α) (call : Call α) :
    Act.registered (call.acts grammar) = call.nodes grammar.size ⟨grammar.slots.size⟩ := by
  cases call with
  | newSlot | bindSlot => rfl
  | brackets | brainfuck =>
      simp only [acts, Act.registered_append, Act.registered_cons, Act.registered_registers]
      exact List.append_nil _
  | _ => exact Act.registered_registers _

theorem Session.records_of_performAll [Carries α Op] {session : Session α} {acts : List (Act α)}
    (reached : session.grammar = Act.performAll {} acts) : session.Records acts := by
  have size : session.grammar.size = (Act.registered acts).length := by
    rw [reached, Act.size_registered]
  have issued : session.grammar.slots.size = Act.issued acts := by
    rw [reached, Act.slots_size_performAll]
    exact Nat.zero_add _
  have holds {before later : List (Act α)} (split : acts = before ++ .issue :: later) :
      session.grammar.resolve ⟨Act.issued before⟩ =
        .ok (Act.targets ⟨Act.issued before⟩ later).head? := by
    rw [reached, Act.resolve_issued split]
  constructor
  case size => exact size
  case teardown =>
    rw [← size]
    rfl
  case lookup =>
    intro before node later split
    rw [reached, Act.lookup_registered split]
  case lastRegistered =>
    intro call registers
    rw [Call.registered_acts] at registers
    rw [session.ask_registers call registers, Act.registered_append, Call.registered_acts,
      List.length_append, size]
  case lastIssued =>
    rw [← issued]
    rfl
  case firstBound =>
    intro before later split
    rw [ask, holds split]
  case boundOnce =>
    intro before later parser split bound
    obtain ⟨first, others, bindings⟩ := List.exists_cons_of_ne_nil bound
    rw [ask_bindSlot, holds split, bindings]
    rfl
  case boundFirst =>
    intro before later parser split free
    rw [ask_bindSlot, holds split, free]
    rfl
  case unissued =>
    intro slot parser beyond
    have missing : session.grammar.resolve slot = .error (.missingSlot (Act.issued acts) slot) := by
      rw [Grammar.resolve, Array.getElem?_eq_none (issued ▸ beyond), issued]
    rw [ask_bindSlot, missing]

/-- Every node that was ever registered is found under its number, and is never changed. Every slot
that was ever issued holds what it was first bound to from then on. -/
theorem tables_of_history [Carries α Op] (trail : Trail) (operations later : List (Operation α)) :
    let start : Session α := { trail := trail }
    (start.after operations).Records (start.history operations) ∧
      (start.after operations).grammar.Grows (start.after (operations ++ later)).grammar := by
  intro start
  have continues : start.after (operations ++ later) = (start.after operations).after later :=
    List.foldl_append
  rw [continues]
  exact ⟨Session.records_of_performAll (start.after_grammar operations),
    (start.after operations).grows_after later⟩

-- The first bind comes before its slot and changes nothing, and the last comes too late.
example :
    let start : Session Op := {}
    let binds : List (Operation Op) :=
      [.call (.bindSlot ⟨0⟩ ⟨7⟩), .call .newSlot, .call (.bindSlot ⟨0⟩ ⟨5⟩),
        .call (.bindSlot ⟨0⟩ ⟨6⟩)]
    ((start.after binds).ask (.resolve ⟨0⟩)).1 = .target (some ⟨5⟩) :=
  rfl

end GrammarArena
