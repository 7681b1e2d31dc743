import GrammarArena.Grammar.Check
import GrammarArena.Proofs.Replies
import Mathlib.Data.List.Basic
import Mathlib.Logic.Relation

/-!
What a parser can reach, and sets of parsers that are closed under reaching. An evaluation that
begins in a closed set stays there, so properties of the transforms in it hold all the way.
-/

namespace GrammarArena

variable {α : Type}

def Node.transform? : Node α → Option (Transform α)
  | .map _ transform => some transform
  | _ => none

namespace Grammar

inductive Leads (grammar : Grammar α) : Parser → Parser → Prop
  | sequence {parser children child} : grammar.lookup parser = .ok (.sequence children) →
      child ∈ children → Leads grammar parser child
  | branch {parser children child} : grammar.lookup parser = .ok (.branch children) →
      child ∈ children → Leads grammar parser child
  | repetition {parser inner} : grammar.lookup parser = .ok (.repetition inner) →
      Leads grammar parser inner
  | map {parser inner transform} : grammar.lookup parser = .ok (.map inner transform) →
      Leads grammar parser inner
  | reference {parser slot target} : grammar.lookup parser = .ok (.reference slot) →
      grammar.resolve slot = .ok (some target) → Leads grammar parser target

theorem Leads.mem_successors {grammar : Grammar α} {parser next : Parser}
    (leads : grammar.Leads parser next) {node : Node α} {children : List Parser}
    (found : grammar.lookup parser = .ok node)
    (listed : grammar.successors node = .ok (.ok children)) : next ∈ children := by
  cases leads with
  | sequence again member | branch again member =>
      cases found.symm.trans again
      cases listed
      exact member
  | repetition again | map again =>
      cases found.symm.trans again
      cases listed
      exact List.mem_cons_self
  | reference again resolved =>
      cases found.symm.trans again
      rw [successors, resolved] at listed
      cases listed
      exact List.mem_cons_self

theorem exists_target_of_successors {grammar : Grammar α} {slot : Slot} {children : List Parser}
    (listed : grammar.successors (.reference slot) = .ok (.ok children)) :
    ∃ target, children = [target] ∧ grammar.resolve slot = .ok (some target) := by
  rw [successors] at listed
  split at listed
  · cases listed
  · cases listed
  · rename_i target resolved
    cases listed
    exact ⟨target, rfl, resolved⟩

theorem leads_of_successors {grammar : Grammar α} {parser child : Parser} {node : Node α}
    {children : List Parser} (found : grammar.lookup parser = .ok node)
    (listed : grammar.successors node = .ok (.ok children)) (member : child ∈ children) :
    grammar.Leads parser child := by
  cases node with
  | char | string | filter | satisfy =>
      cases listed
      contradiction
  | sequence =>
      cases listed
      exact .sequence found member
  | branch =>
      cases listed
      exact .branch found member
  | repetition =>
      cases listed
      obtain rfl := List.mem_singleton.mp member
      exact .repetition found
  | map =>
      cases listed
      obtain rfl := List.mem_singleton.mp member
      exact .map found
  | reference slot =>
      obtain ⟨target, rfl, resolved⟩ := exists_target_of_successors listed
      obtain rfl := List.mem_singleton.mp member
      exact .reference found resolved

def Reaches (grammar : Grammar α) : Parser → Parser → Prop :=
  Relation.ReflTransGen grammar.Leads

def EachTransform (grammar : Grammar α) (parser : Parser) (property : Transform α → Prop) :
    Prop :=
  ∀ mapped inner transform, grammar.Reaches parser mapped →
    grammar.lookup mapped = .ok (.map inner transform) → property transform

/-- A set of parsers that none of them leads out of, with a property of its transforms. -/
structure Closed (grammar : Grammar α) (within : Parser → Prop) (property : Transform α → Prop) :
    Prop where
  leads : ∀ {parser next}, within parser → grammar.Leads parser next → within next
  transforms : ∀ {parser inner transform}, within parser →
    grammar.lookup parser = .ok (.map inner transform) → property transform

theorem EachTransform.closed {grammar : Grammar α} {parser : Parser}
    {property : Transform α → Prop} (each : grammar.EachTransform parser property) :
    grammar.Closed (grammar.Reaches parser) property where
  leads := fun reached leads => reached.tail leads
  transforms := fun reached found => each _ _ _ reached found

theorem Closed.reaches {grammar : Grammar α} {within : Parser → Prop}
    {property : Transform α → Prop} (closed : grammar.Closed within property)
    {parser reached : Parser} (inside : within parser) (path : grammar.Reaches parser reached) :
    within reached := by
  induction path with
  | refl => exact inside
  | tail _ leads ih => exact closed.leads ih leads

theorem Closed.eachTransform {grammar : Grammar α} {within : Parser → Prop}
    {property : Transform α → Prop} (closed : grammar.Closed within property) {parser : Parser}
    (inside : within parser) : grammar.EachTransform parser property := by
  intro mapped inner transform path found
  exact closed.transforms (closed.reaches inside path) found

theorem EachTransform.child {grammar : Grammar α} {parser child : Parser}
    {property : Transform α → Prop} (each : grammar.EachTransform parser property)
    (leads : grammar.Leads parser child) : grammar.EachTransform child property :=
  each.closed.eachTransform (Relation.ReflTransGen.single leads)

theorem EachTransform.imp {grammar : Grammar α} {parser : Parser}
    {property weaker : Transform α → Prop} (each : grammar.EachTransform parser property)
    (le : ∀ transform, property transform → weaker transform) :
    grammar.EachTransform parser weaker := by
  intro mapped inner transform reached found
  exact le transform (each mapped inner transform reached found)

theorem EachTransform.of_nodes {grammar : Grammar α} {property : Transform α → Prop}
    (each : ∀ inner transform, Node.map inner transform ∈ grammar.nodes → property transform)
    (parser : Parser) : grammar.EachTransform parser property := by
  intro mapped inner transform _ found
  exact each inner transform (Array.mem_of_getElem? (lookup_ok_iff.mp found))

theorem EachTransform.of_node {grammar : Grammar α} {parser : Parser} {node : Node α}
    {children : List Parser} {property : Transform α → Prop}
    (found : grammar.lookup parser = .ok node)
    (listed : grammar.successors node = .ok (.ok children))
    (own : ∀ transform ∈ node.transform?, property transform)
    (each : ∀ child ∈ children, grammar.EachTransform child property) :
    grammar.EachTransform parser property := by
  intro mapped inner transform reached foundMap
  rcases Relation.ReflTransGen.cases_head reached with rfl | ⟨next, leads, further⟩
  · cases found.symm.trans foundMap
    exact own transform rfl
  · exact each next (leads.mem_successors found listed) mapped inner transform further foundMap

theorem EachTransform.of_successors {grammar : Grammar α} {parser : Parser} {node : Node α}
    {children : List Parser} {property : Transform α → Prop}
    (found : grammar.lookup parser = .ok node) (plain : node.transform? = none)
    (listed : grammar.successors node = .ok (.ok children))
    (each : ∀ child ∈ children, grammar.EachTransform child property) :
    grammar.EachTransform parser property := by
  apply EachTransform.of_node found listed _ each
  rw [plain]
  intro transform none
  contradiction

theorem EachTransform.of_repetition {grammar : Grammar α} {parser inner : Parser}
    {property : Transform α → Prop} (found : grammar.lookup parser = .ok (.repetition inner))
    (each : grammar.EachTransform inner property) : grammar.EachTransform parser property := by
  have eachChild : ∀ child ∈ [inner], grammar.EachTransform child property := by
    intro child member
    rwa [List.mem_singleton.mp member]
  exact .of_successors found rfl rfl eachChild

def transforms (grammar : Grammar α) : List (Transform α) :=
  grammar.nodes.toList.filterMap Node.transform?

theorem EachTransform.of_transforms {grammar : Grammar α} {property : Transform α → Prop}
    (each : grammar.transforms.Forall property) (parser : Parser) :
    grammar.EachTransform parser property := by
  apply EachTransform.of_nodes
  intro inner transform member
  apply List.forall_iff_forall_mem.mp each
  exact List.mem_filterMap.mpr ⟨_, Array.mem_def.mp member, rfl⟩

theorem reaches_self (grammar : Grammar α) (parser : Parser) : grammar.Reaches parser parser :=
  .refl

end Grammar

def Task.Within (within : Parser → Prop) : Task α → Prop
  | .attempt parser _ => within parser
  | .sequence _ _ children => ∀ child ∈ children, within child
  | .branch _ _ children => ∀ child ∈ children, within child
  | .repetition inner _ _ => within inner

end GrammarArena
