import GrammarArena.Proofs.CheckSafety

/-!
The check against the recursive walk it stands for. The walk visits each parser once, and what a
parser names from last to first, before it goes on; a stack with what is still to be visited comes
to the same, although parsers may stand on it several times or when they were visited already.
-/

namespace GrammarArena

variable {α : Type}

inductive Interruption where
  | fault (fault : Fault)
  | refusal (error : SlotError)
  | tooDeep

namespace Grammar

/-- Visits the parser and all it leads to, unless it was visited. Visits are nested at most that
deep. -/
def visit (grammar : Grammar α) :
    Nat → List Parser → Parser → Except Interruption (List Parser)
  | 0, _, _ => .error .tooDeep
  | depth + 1, visited, parser =>
      if parser ∈ visited then .ok visited
      else match grammar.lookup parser with
        | .error fault => .error (.fault fault)
        | .ok (.sequence children) | .ok (.branch children) =>
            children.reverse.foldlM (grammar.visit depth) (parser :: visited)
        | .ok (.repetition inner) | .ok (.map inner _) =>
            grammar.visit depth (parser :: visited) inner
        | .ok (.reference slot) =>
            match grammar.resolve slot with
            | .error fault => .error (.fault fault)
            | .ok none => .error (.refusal (.unbound slot))
            | .ok (some target) => grammar.visit depth (parser :: visited) target
        | .ok (.char _) | .ok (.string _) | .ok (.filter _) | .ok (.satisfy _) =>
            .ok (parser :: visited)

def verdict : Except Fault (Except SlotError Unit) → Except Interruption Unit
  | .error fault => .error (.fault fault)
  | .ok (.error refusal) => .error (.refusal refusal)
  | .ok (.ok ()) => .ok ()

def unvisited (grammar : Grammar α) (visited : List Parser) : List Parser :=
  grammar.parsers.filter (· ∉ visited)

variable {grammar : Grammar α}

theorem unvisited_nil (grammar : Grammar α) : grammar.unvisited [] = grammar.parsers := by
  simp [unvisited]

theorem unvisited_erase (grammar : Grammar α) (visited : List Parser) (parser : Parser) :
    (grammar.unvisited visited).erase parser = grammar.unvisited (parser :: visited) := by
  have nodup : (grammar.unvisited visited).Nodup := grammar.parsers_nodup.filter _
  rw [nodup.erase_eq_filter, unvisited, unvisited, List.filter_filter]
  apply List.filter_congr
  intro other _
  rw [Bool.eq_iff_iff]
  simp

theorem length_unvisited_le (grammar : Grammar α) {visited after : List Parser}
    (kept : visited ⊆ after) :
    (grammar.unvisited after).length ≤ (grammar.unvisited visited).length := by
  apply List.Sublist.length_le
  apply List.monotone_filter_right
  intro parser unvisited
  simp only [decide_eq_true_eq] at unvisited ⊢
  exact fun member => unvisited (kept member)

theorem mem_unvisited {visited : List Parser} {parser : Parser} {node : Node α}
    (found : grammar.lookup parser = .ok node) (new : parser ∉ visited) :
    parser ∈ grammar.unvisited visited :=
  List.mem_filter.mpr ⟨mem_parsers found, decide_eq_true new⟩

theorem length_unvisited_cons_lt {visited : List Parser} {parser : Parser} {node : Node α}
    (found : grammar.lookup parser = .ok node) (new : parser ∉ visited) :
    (grammar.unvisited (parser :: visited)).length < (grammar.unvisited visited).length := by
  have listed := mem_unvisited found new
  have positive := List.length_pos_of_mem listed
  rw [← unvisited_erase, List.length_erase_of_mem listed]
  omega

def Exist (grammar : Grammar α) (visited : List Parser) : Prop :=
  ∀ parser ∈ visited, ∃ node, grammar.lookup parser = .ok node

theorem Exist.cons {visited : List Parser} (exist : grammar.Exist visited) {parser : Parser}
    {node : Node α} (found : grammar.lookup parser = .ok node) :
    grammar.Exist (parser :: visited) :=
  List.forall_mem_cons.mpr ⟨⟨node, found⟩, exist⟩

/-- A visit of what stands on the stack over `below` leaves `below` to the check, or ends it. -/
def Clears (grammar : Grammar α) (visited stack below : List Parser) :
    Except Interruption (List Parser) → Prop
  | .ok after => visited ⊆ after ∧ grammar.Exist after ∧
      grammar.checkFrom (grammar.unvisited visited) (stack ++ below) =
        grammar.checkFrom (grammar.unvisited after) below
  | .error reason =>
      verdict (grammar.checkFrom (grammar.unvisited visited) (stack ++ below)) = .error reason

theorem checkFrom_visited {visited below : List Parser} {parser : Parser}
    (exist : grammar.Exist visited) (member : parser ∈ visited) :
    grammar.checkFrom (grammar.unvisited visited) (parser :: below) =
      grammar.checkFrom (grammar.unvisited visited) below := by
  obtain ⟨node, found⟩ := exist parser member
  have seen : parser ∉ grammar.unvisited visited := by simp [unvisited, member]
  rw [checkFrom, found]
  simp only [seen, ↓reduceDIte]

theorem checkFrom_new {visited : List Parser} {parser : Parser} {node : Node α}
    (found : grammar.lookup parser = .ok node) (new : parser ∉ visited) (below : List Parser) :
    grammar.checkFrom (grammar.unvisited visited) (parser :: below) =
      match grammar.successors node with
      | .error fault => .error fault
      | .ok (.error refusal) => .ok (.error refusal)
      | .ok (.ok children) =>
          grammar.checkFrom (grammar.unvisited (parser :: visited))
            (children.reverse ++ below) := by
  rw [← unvisited_erase, checkFrom, found]
  exact dif_pos (mem_unvisited found new)

theorem visit_new {visited : List Parser} {parser : Parser} {node : Node α}
    (found : grammar.lookup parser = .ok node) (new : parser ∉ visited) (depth : Nat) :
    grammar.visit (depth + 1) visited parser =
      match grammar.successors node with
      | .error fault => .error (.fault fault)
      | .ok (.error refusal) => .error (.refusal refusal)
      | .ok (.ok children) =>
          children.reverse.foldlM (grammar.visit depth) (parser :: visited) := by
  rw [visit, if_neg new, found]
  cases node with
  | reference slot =>
      simp only [successors]
      cases grammar.resolve slot with
      | error fault => rfl
      | ok bound => cases bound <;> simp
  | repetition | map => simp [successors]
  | _ => rfl

theorem Clears.imp {visited middle stack next below : List Parser}
    {outcome : Except Interruption (List Parser)} (kept : visited ⊆ middle)
    (goesOn : grammar.checkFrom (grammar.unvisited visited) (stack ++ below) =
      grammar.checkFrom (grammar.unvisited middle) (next ++ below))
    (clears : grammar.Clears middle next below outcome) :
    grammar.Clears visited stack below outcome := by
  cases outcome with
  | error reason => exact (congrArg verdict goesOn).trans clears
  | ok after =>
      obtain ⟨keptNext, exist, goesOnNext⟩ := clears
      exact ⟨List.Subset.trans kept keptNext, exist, goesOn.trans goesOnNext⟩

theorem clears_all {depth : Nat}
    (each : ∀ {visited : List Parser} (parser below), grammar.Exist visited →
      (grammar.unvisited visited).length < depth →
      grammar.Clears visited [parser] below (grammar.visit depth visited parser))
    {visited : List Parser} (stack below : List Parser) (exist : grammar.Exist visited)
    (room : (grammar.unvisited visited).length < depth) :
    grammar.Clears visited stack below (stack.foldlM (grammar.visit depth) visited) := by
  induction stack generalizing visited with
  | nil => exact ⟨List.Subset.refl _, exist, rfl⟩
  | cons parser stack ih =>
      have first := each parser (stack ++ below) exist room
      rw [List.foldlM_cons]
      cases outcome : grammar.visit depth visited parser with
      | error reason =>
          rw [outcome] at first
          exact first
      | ok middle =>
          rw [outcome] at first
          obtain ⟨kept, existMiddle, goesOn⟩ := first
          have fewer := grammar.length_unvisited_le kept
          exact (ih existMiddle (Nat.lt_of_le_of_lt fewer room)).imp kept goesOn

theorem clears_visit (depth : Nat) {visited : List Parser} (parser : Parser) (below : List Parser)
    (exist : grammar.Exist visited) (room : (grammar.unvisited visited).length < depth) :
    grammar.Clears visited [parser] below (grammar.visit depth visited parser) := by
  -- On the depth: inside a visit there is one parser less that was not visited.
  induction depth generalizing visited parser below with
  | zero => omega
  | succ depth ih =>
      by_cases member : parser ∈ visited
      · rw [visit, if_pos member]
        exact ⟨List.Subset.refl _, exist, checkFrom_visited exist member⟩
      · cases found : grammar.lookup parser with
        | error fault =>
            rw [visit, if_neg member, found, Clears, List.singleton_append, checkFrom, found]
            rfl
        | ok node =>
            have step := checkFrom_new found member below
            rw [visit_new found member]
            rcases leads : grammar.successors node with fault | refusal | children
            · rw [leads] at step
              exact congrArg verdict step
            · rw [leads] at step
              exact congrArg verdict step
            · rw [leads] at step
              have fewer := length_unvisited_cons_lt found member
              have inner := clears_all ih children.reverse below (exist.cons found) (by omega)
              exact inner.imp (List.subset_cons_self _ _) step

theorem verdict_check (parser : Parser) {depth : Nat} (room : grammar.size < depth) :
    verdict (grammar.check parser) = (grammar.visit depth [] parser).map fun _ => () := by
  have all : (grammar.unvisited []).length < depth := by
    rwa [unvisited_nil, parsers, List.length_map, List.length_range]
  have clears := clears_visit depth parser [] (List.forall_mem_nil _) all
  rw [check, ← unvisited_nil]
  cases outcome : grammar.visit depth [] parser with
  | error reason =>
      rw [outcome] at clears
      exact clears
  | ok after =>
      rw [outcome] at clears
      obtain ⟨_, _, ends⟩ := clears
      rw [List.append_nil] at ends
      rw [ends, checkFrom]
      rfl

theorem successors_error {node : Node α} {fault : Fault}
    (faulty : grammar.successors node = .error fault) :
    ∃ slot, node = .reference slot ∧ grammar.resolve slot = .error fault := by
  cases node with
  | reference slot =>
      refine ⟨slot, rfl, ?_⟩
      rw [successors] at faulty
      split at faulty
      · rename_i missing
        cases faulty
        exact missing
      · cases faulty
      · cases faulty
  | _ => cases faulty

theorem successors_refusal {node : Node α} {refusal : SlotError}
    (refused : grammar.successors node = .ok (.error refusal)) :
    ∃ slot, node = .reference slot ∧ grammar.resolve slot = .ok none ∧ refusal = .unbound slot := by
  cases node with
  | reference slot =>
      refine ⟨slot, rfl, ?_⟩
      rw [successors] at refused
      split at refused
      · cases refused
      · rename_i unbound
        cases refused
        exact ⟨unbound, rfl⟩
      · cases refused
  | _ => cases refused

/-- An outcome that the parser gives rise to: if the check does not pass, then because of a parser
it reaches, which is missing or refers to a slot that is missing or unbound. -/
inductive Accounts (grammar : Grammar α) (parser : Parser) :
    Except Fault (Except SlotError Unit) → Prop
  | passed : Accounts grammar parser (.ok (.ok ()))
  | missingParser {reached fault} : grammar.Reaches parser reached →
      grammar.lookup reached = .error fault → Accounts grammar parser (.error fault)
  | missingSlot {reached slot fault} : grammar.Reaches parser reached →
      grammar.lookup reached = .ok (.reference slot) → grammar.resolve slot = .error fault →
      Accounts grammar parser (.error fault)
  | unbound {reached slot} : grammar.Reaches parser reached →
      grammar.lookup reached = .ok (.reference slot) → grammar.resolve slot = .ok none →
      Accounts grammar parser (.ok (.error (.unbound slot)))

theorem checkFrom_accounts {parser : Parser} {unseen stack : List Parser}
    (reached : ∀ pending ∈ stack, grammar.Reaches parser pending) :
    grammar.Accounts parser (grammar.checkFrom unseen stack) := by
  fun_induction checkFrom grammar unseen stack with
  | case1 => exact .passed
  | case2 unseen pending below fault missing =>
      exact .missingParser (reached pending List.mem_cons_self) missing
  | case3 unseen pending below node found _ fault faulty =>
      obtain ⟨slot, rfl, missing⟩ := successors_error faulty
      exact .missingSlot (reached pending List.mem_cons_self) found missing
  | case4 unseen pending below node found _ refusal refused =>
      obtain ⟨slot, rfl, unbound, rfl⟩ := successors_refusal refused
      exact .unbound (reached pending List.mem_cons_self) found unbound
  | case5 unseen pending below node found _ children leads ih =>
      apply ih
      intro next member
      rcases List.mem_append.mp member with new | old
      · have step := leads_of_successors found leads (List.mem_reverse.mp new)
        exact (reached pending List.mem_cons_self).tail step
      · exact reached next (List.mem_cons_of_mem _ old)
  | case6 unseen pending below node found _ ih =>
      exact ih fun next member => reached next (List.mem_cons_of_mem _ member)

theorem check_accounts (grammar : Grammar α) (parser : Parser) :
    grammar.Accounts parser (grammar.check parser) :=
  checkFrom_accounts (List.forall_mem_singleton.mpr (grammar.reaches_self parser))

/-- The parser exists, and so does its slot if it refers to one, which is bound. -/
def Complete (grammar : Grammar α) (parser : Parser) : Prop :=
  ∃ node, grammar.lookup parser = .ok node ∧
    ∀ slot, node = .reference slot → ∃ target, grammar.resolve slot = .ok (some target)

theorem Sealed.complete {within : Parser → Prop} (fenced : grammar.Sealed within)
    {parser : Parser} (inside : within parser) : grammar.Complete parser := by
  obtain ⟨node, found⟩ := fenced.found inside
  refine ⟨node, found, ?_⟩
  rintro slot rfl
  exact fenced.bound inside found

theorem Sealed.of_complete {parser : Parser}
    (complete : ∀ reached, grammar.Reaches parser reached → grammar.Complete reached) :
    grammar.Sealed (grammar.Reaches parser) where
  found := by
    intro reached inside
    obtain ⟨node, found, _⟩ := complete reached inside
    exact ⟨node, found⟩
  bound := by
    intro reached slot inside found
    obtain ⟨node, again, bound⟩ := complete reached inside
    cases found.symm.trans again
    exact bound slot rfl
  leads := fun inside leads => inside.tail leads

theorem Sealed.reaches {within : Parser → Prop} (fenced : grammar.Sealed within)
    {parser reached : Parser} (inside : within parser) (reaches : grammar.Reaches parser reached) :
    within reached := by
  induction reaches with
  | refl => exact inside
  | tail _ leads ih => exact fenced.leads ih leads

theorem check_passes_iff {parser : Parser} :
    grammar.check parser = .ok (.ok ()) ↔
      ∀ reached, grammar.Reaches parser reached → grammar.Complete reached := by
  constructor
  · intro passed reached reaches
    obtain ⟨within, fenced, inside⟩ := check_sealed passed
    exact fenced.complete (fenced.reaches inside reaches)
  · intro complete
    exact (Sealed.of_complete complete).check_passes (grammar.reaches_self parser)

/-- The check comes to what the recursive walk comes to, in which no visit is nested deeper than
there are parsers. It passes exactly when all that the parser reaches is complete. A slot that it
reports is unbound, and one of the parsers reached refers to it; a fault is that one of them is
missing, or refers to a slot that is. -/
theorem check_eq_walk (grammar : Grammar α) (parser : Parser) :
    (∀ depth, grammar.size < depth →
      verdict (grammar.check parser) = (grammar.visit depth [] parser).map fun _ => ()) ∧
    (grammar.check parser = .ok (.ok ()) ↔
      ∀ reached, grammar.Reaches parser reached → grammar.Complete reached) ∧
    (∀ refusal, grammar.check parser = .ok (.error refusal) →
      ∃ slot reached, refusal = .unbound slot ∧ grammar.resolve slot = .ok none ∧
        grammar.Reaches parser reached ∧ grammar.lookup reached = .ok (.reference slot)) ∧
    ∀ fault, grammar.check parser = .error fault →
      ∃ reached, grammar.Reaches parser reached ∧
        (grammar.lookup reached = .error fault ∨
          ∃ slot, grammar.lookup reached = .ok (.reference slot) ∧
            grammar.resolve slot = .error fault) := by
  refine ⟨fun _ room => verdict_check parser room, check_passes_iff, ?_, ?_⟩
  · intro refusal refused
    have accounts := check_accounts grammar parser
    rw [refused] at accounts
    cases accounts with
    | unbound reaches found unbound => exact ⟨_, _, rfl, unbound, reaches, found⟩
  · intro fault faulty
    have accounts := check_accounts grammar parser
    rw [faulty] at accounts
    cases accounts with
    | missingParser reaches missing => exact ⟨_, reaches, Or.inl missing⟩
    | missingSlot reaches found missing => exact ⟨_, reaches, Or.inr ⟨_, found, missing⟩⟩

def openEnds : Grammar Nat where
  nodes := #[.sequence [⟨1⟩, ⟨2⟩], .reference ⟨0⟩, .branch [⟨3⟩, ⟨0⟩], .reference ⟨1⟩]
  slots := #[none, none]

theorem openEnds_check_eq_walk :
    openEnds.size < 5 ∧ openEnds.check ⟨0⟩ = .ok (.error (.unbound ⟨1⟩)) ∧
    (openEnds.visit 5 [] ⟨0⟩).map (fun _ => ()) = .error (.refusal (.unbound ⟨1⟩)) ∧
    openEnds.resolve ⟨1⟩ = .ok none ∧
    ∃ reached, openEnds.Reaches ⟨0⟩ reached ∧
      openEnds.lookup reached = .ok (.reference ⟨1⟩) := by
  have room : openEnds.size < 5 := by decide
  obtain ⟨walk, _, refusals, _⟩ := check_eq_walk openEnds ⟨0⟩
  have refused : openEnds.check ⟨0⟩ = .ok (.error (.unbound ⟨1⟩)) := by
    simp [check, parsers, size, checkFrom, lookup, successors, resolve, openEnds, List.range,
      List.range.loop]
  obtain ⟨slot, reached, same, unbound, reaches, found⟩ := refusals _ refused
  cases same
  have walked := walk 5 room
  rw [refused] at walked
  exact ⟨room, refused, walked.symm, unbound, reached, reaches, found⟩

end Grammar

end GrammarArena
