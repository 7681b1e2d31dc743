import GrammarArena.Text.Basic
import GrammarArena.Text.CodePoints
import GrammarArena.Text.Blank
import GrammarArena.Text.Alphanumeric
import GrammarArena.Text.Unprintable
import GrammarArena.Text.Quoted
import GrammarArena.Text.Outline
import GrammarArena.Text.ControlSequence
import GrammarArena.Text.Similarity
import GrammarArena.Value
import GrammarArena.Reply
import GrammarArena.Grammar.Basic
import GrammarArena.Grammar.Builder
import GrammarArena.Grammar.Check
import GrammarArena.Grammar.Outline
import GrammarArena.Evaluation.Primitive
import GrammarArena.Evaluation.Basic
import GrammarArena.Brackets
import GrammarArena.IntegerList
import GrammarArena.Brainfuck.Op
import GrammarArena.Brainfuck.Grammar
import GrammarArena.Log.Event
import GrammarArena.Log.Pattern.Basic
import GrammarArena.Log.Pattern.Lexeme
import GrammarArena.Log.Pattern.SetReader
import GrammarArena.Log.Pattern.Token
import GrammarArena.Log.Pattern.Reader
import GrammarArena.Log.Pattern.Support
import GrammarArena.Log.FieldValue
import GrammarArena.Log.Directive
import GrammarArena.Log.Filter
import GrammarArena.CommandLine.Usage
import GrammarArena.CommandLine.Arguments
import GrammarArena.CommandLine.Catalogue
import GrammarArena.CommandLine.Response
import GrammarArena.Main
import GrammarArena.Proofs.Replies
import GrammarArena.Proofs.Unfolding
import GrammarArena.Proofs.Reachability
import GrammarArena.Proofs.Suffix
import GrammarArena.Proofs.Likeness
import GrammarArena.Proofs.ProgressGuard
import GrammarArena.Proofs.Nullability
import GrammarArena.Proofs.Termination
import GrammarArena.Proofs.CheckSafety
import GrammarArena.Proofs.Balance
import GrammarArena.Proofs.Layout
import GrammarArena.Proofs.BracketGrammar
import GrammarArena.Proofs.Derivation
import GrammarArena.Proofs.InstructionGrammar
import GrammarArena.Proofs.DigitRuns
import GrammarArena.Proofs.IntegerGrammar
import GrammarArena.Proofs.Renaming
import GrammarArena.Proofs.Growth
import GrammarArena.Proofs.ProgramListing
import GrammarArena.Proofs.Cursors
import GrammarArena.Proofs.BracketTrees
import GrammarArena.Proofs.BracketStalls
import GrammarArena.Proofs.DepthFirst
import GrammarArena.Proofs.Purity
import GrammarArena.Proofs.Composition
import GrammarArena.Proofs.ProgramAnswer
import GrammarArena.Proofs.RepetitionChain
import GrammarArena.Proofs.RepetitionLaws
import GrammarArena.Proofs.RightRecursion
import GrammarArena.Proofs.Construction
import GrammarArena.Proofs.Sessions
import GrammarArena.Proofs.Fronts
import GrammarArena.Proofs.Literals
import GrammarArena.Proofs.CharacterRuns
import GrammarArena.Proofs.CharacterChoices
import GrammarArena.Proofs.IntegerLimit
import GrammarArena.Proofs.QuotedText
import GrammarArena.Proofs.DisplayedValues
import GrammarArena.Proofs.PayloadStore
import GrammarArena.Proofs.ValueEquality
import GrammarArena.Proofs.SuccessiveRuns
import GrammarArena.Proofs.Flattening
import GrammarArena.Proofs.LeftFactoring
