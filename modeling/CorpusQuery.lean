import CorpusQuery.Compiler
import CorpusQuery.Files.Store
import CorpusQuery.Pattern.Basic
import CorpusQuery.Plan.Text
import CorpusQuery.Variables
import CorpusQuery.Proofs.Algebra
import CorpusQuery.Proofs.Language
import CorpusQuery.Proofs.Lowering
import CorpusQuery.Proofs.Simplification
import CorpusQuery.Proofs.Assembly
import CorpusQuery.Proofs.Canonical
import CorpusQuery.Proofs.Truth
import CorpusQuery.Proofs.Merging
import CorpusQuery.Proofs.NormalForm
import CorpusQuery.Proofs.Reachable
import CorpusQuery.Proofs.Elements
import CorpusQuery.Proofs.Compositionality
import CorpusQuery.Proofs.Grouping
import CorpusQuery.Proofs.Associativity
import CorpusQuery.Proofs.WellFormed
import CorpusQuery.Proofs.Duality
import CorpusQuery.Proofs.Ignoring
import CorpusQuery.Proofs.Hollow
import CorpusQuery.Proofs.Spelling
import CorpusQuery.Proofs.Arrangement
import CorpusQuery.Proofs.Records
import CorpusQuery.Proofs.RoundTrip
import CorpusQuery.Proofs.Counting
import CorpusQuery.Proofs.Bracketing
import CorpusQuery.Proofs.Choice
import CorpusQuery.Proofs.Leaves
import CorpusQuery.Proofs.Coalescing
import CorpusQuery.Proofs.Scope
import CorpusQuery.Proofs.Emptiness
import CorpusQuery.Proofs.Saving
import CorpusQuery.Proofs.Histories
import CorpusQuery.Proofs.Wordings
import CorpusQuery.Proofs.Sizes
import CorpusQuery.Proofs.Optionality
import CorpusQuery.Proofs.Bridging
import CorpusQuery.Proofs.Grammar
import CorpusQuery.Proofs.FirstValue
import CorpusQuery.Proofs.Readers
import CorpusQuery.Proofs.Outcomes
import CorpusQuery.Proofs.Parts
import CorpusQuery.Proofs.Anchors
