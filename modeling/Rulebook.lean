import Rulebook.Decision.Json
import Rulebook.Json.Writer
import Rulebook.Proofs.Engine.DecisionReuse
import Rulebook.Proofs.Engine.SourceReuse
import Rulebook.Proofs.Syntax.CanonicalForms
import Rulebook.Proofs.Cache.Clock
import Rulebook.Proofs.Decision.Outputs
import Rulebook.Proofs.Eval.Relevance
import Rulebook.Proofs.Engine.Provenance
import Rulebook.Proofs.Number.Zeros
import Rulebook.Proofs.Value.Alike
import Rulebook.Proofs.Eval.Operators
import Rulebook.Proofs.Eval.Congruence
import Rulebook.Proofs.Builtin.Arguments
import Rulebook.Proofs.Builtin.Lists
import Rulebook.Proofs.Builtin.Impartial
import Rulebook.Proofs.Decision.Congruence
import Rulebook.Proofs.Engine.ContextEquality
import Rulebook.Proofs.Cache.History
import Rulebook.Proofs.Syntax.ErrorPlaces
import Rulebook.Proofs.Table.Construction
import Rulebook.Proofs.Value.Equivalence
import Rulebook.Proofs.Eval.Expansion
import Rulebook.Proofs.Syntax.OffendingToken
import Rulebook.Proofs.Value.Json
import Rulebook.Proofs.Eval.Shadowing
import Rulebook.Proofs.Engine.RuleOrder
import Rulebook.Proofs.Cell.Conditions
import Rulebook.Proofs.Cell.Renaming
import Rulebook.Proofs.Syntax.CellForms
import Rulebook.Proofs.Calendar.RoundTrip
import Rulebook.Proofs.Calendar.Forms
import Rulebook.Proofs.Value.WholeNumbers
import Rulebook.Proofs.Eval.Intervals
import Rulebook.Proofs.Eval.Quantifiers
import Rulebook.Proofs.Builtin.OrderDependence
import Rulebook.Proofs.Eval.Comparisons
import Rulebook.Proofs.Builtin.Distinct
import Rulebook.Proofs.Builtin.Membership
import Rulebook.Proofs.Eval.Differences
import Rulebook.Proofs.Builtin.Months
import Rulebook.Proofs.Builtin.Parts
import Rulebook.Proofs.Calendar.Texts
import Rulebook.Proofs.Decision.FreeText
import Rulebook.Proofs.Builtin.Defined
import Rulebook.Proofs.Syntax.Gaps
import Rulebook.Proofs.Function.Calls
import Rulebook.Proofs.Eval.Durations
import Rulebook.Proofs.Function.Registrations
import Rulebook.Proofs.Number.Differences
import Rulebook.Proofs.Number.Parity
import Rulebook.Proofs.Builtin.Parity
import Rulebook.Proofs.Syntax.CombinatorAnswers
import Rulebook.Proofs.Syntax.CombinedGrammar
import Rulebook.Proofs.Syntax.CombinedReading
import Rulebook.Proofs.Syntax.Descent
import Rulebook.Proofs.Syntax.Progress
import Rulebook.Proofs.Eval.ContextLiterals
