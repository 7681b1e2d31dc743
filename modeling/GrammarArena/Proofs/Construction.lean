import GrammarArena.Proofs.RepetitionLaws

/-!
Parsers as builders made them, in grammars that have only grown since. What a builder registered
is still there, and a parser put together by builders from parts without left recursion always has
the reply that its parts give it.
-/

namespace GrammarArena

variable {α : Type} {grammar : Grammar α} {parser inner : Parser}

/-- The builder made the parser, and what came later only added to the grammar. -/
def Builder.MadeIn (builder : Builder α Parser) (grammar : Grammar α) (parser : Parser) : Prop :=
  ∃ initial later, builder initial = .ok (parser, later) ∧ later.Grows grammar

namespace Builder.MadeIn

theorem lookup {node : Node α} (made : (register node).MadeIn grammar parser) :
    grammar.lookup parser = .ok node := by
  obtain ⟨initial, later, built, grows⟩ := made
  cases built
  exact grows.lookup (initial.lookup_register node)

theorem of_bind {first : Builder α Parser} {next : Parser → Builder α Parser}
    (nextGrows : ∀ made, (next made).Grows) (made : (first >>= next).MadeIn grammar parser) :
    ∃ part, first.MadeIn grammar part ∧ (next part).MadeIn grammar parser := by
  obtain ⟨initial, later, built, grows⟩ := made
  simp only [Bind.bind, StateT.bind, Except.bind] at built
  split at built
  · cases built
  · rename_i begun builtFirst
    obtain ⟨part, middle⟩ := begun
    exact ⟨part, ⟨initial, middle, builtFirst, (nextGrows part _ _ _ built).trans grows⟩,
      middle, later, built, grows⟩

theorem of_calls [Carries α Op] {builder : Builder α Parser} {initial : Grammar α}
    {calls : List (Call α)} (before : Nat)
    (built : builder (initial.build (calls.take before)) =
      .ok (parser, initial.build (calls.take (before + 1)))) :
    builder.MadeIn (initial.build calls) parser := by
  refine ⟨_, _, built, ?_⟩
  have grows := (initial.build (calls.take (before + 1))).grows_build (calls.drop (before + 1))
  rwa [Grammar.build, Grammar.build, ← List.foldl_append, List.take_append_drop] at grows

theorem nonEmptyRepetition (made : (nonEmptyRepetition inner).MadeIn grammar parser) :
    ∃ items, grammar.lookup items = .ok (.repetition inner) ∧
      grammar.lookup parser = .ok (.map items fun success => pure (requireItems success)) := by
  obtain ⟨initial, later, built, grows⟩ := made
  obtain ⟨items, foundItems, found⟩ := lookup_of_nonEmptyRepetition built
  exact ⟨items, grows.lookup foundItems, grows.lookup found⟩

theorem integer (made : Builder.integer.MadeIn grammar parser) :
    ∃ digits, grammar.lookup digits = .ok (.filter Char.isDigit) ∧
      grammar.lookup parser = .ok (.map digits fun success => pure (readInteger success)) := by
  obtain ⟨initial, later, built, grows⟩ := made
  cases built
  have found := initial.lookup_register (.filter Char.isDigit)
  exact ⟨_, grows.lookup (Grammar.lookup_register_of_ok _ found),
    grows.lookup (Grammar.lookup_register _ _)⟩

end Builder.MadeIn

end GrammarArena
