import TreeQuery.Main
import TreeQuery.Proofs.Matching.Tree
import TreeQuery.Proofs.Reading.Lists
import TreeQuery.Proofs.Reading.Arguments
import TreeQuery.Proofs.Value.Grammar
import TreeQuery.Proofs.Value.Reading
import TreeQuery.Proofs.Text.Quoting
import TreeQuery.Proofs.Token.Lexemes
import TreeQuery.Proofs.Token.Scanning
import TreeQuery.Proofs.Value.WellFormed
import TreeQuery.Proofs.Value.RoundTrip
import TreeQuery.Proofs.Value.Derivation
import TreeQuery.Proofs.Value.Unambiguous
import TreeQuery.Proofs.Reading.Chains
import TreeQuery.Proofs.Pattern.Grammar
import TreeQuery.Proofs.Pattern.Soundness
import TreeQuery.Proofs.Pattern.Completeness
import TreeQuery.Proofs.Pattern.Literal
import TreeQuery.Proofs.Graph.Expansion
import TreeQuery.Proofs.Graph.RoundTrip
import TreeQuery.Proofs.Matching.Replay
import TreeQuery.Proofs.Graph.Consistency
import TreeQuery.Proofs.Graph.Settled
import TreeQuery.Proofs.Matching.Monotone
import TreeQuery.Proofs.Flat.Drawing
import TreeQuery.Proofs.Reading.Verdict
import TreeQuery.Proofs.Value.Admission
import TreeQuery.Proofs.Pattern.Admission
import TreeQuery.Proofs.Reading.Expected
import TreeQuery.Proofs.Reading.Congruence
import TreeQuery.Proofs.Value.Tracking
import TreeQuery.Proofs.Pattern.Tracking
import TreeQuery.Proofs.Matching.Literal
import TreeQuery.Proofs.Graph.History
import TreeQuery.Proofs.Flat.Forest
import TreeQuery.Proofs.Flat.Composition
import TreeQuery.Proofs.Flat.Views
import TreeQuery.Proofs.Matching.Alternation
import TreeQuery.Proofs.Matching.Entries
import TreeQuery.Proofs.Graph.Classes
import TreeQuery.Proofs.Pattern.Alike
import TreeQuery.Proofs.Pattern.Stars
import TreeQuery.Proofs.Value.TokenStream
import TreeQuery.Proofs.Reading.Failures
import TreeQuery.Proofs.Reading.FirstOffence
import TreeQuery.Proofs.Token.Classes
import TreeQuery.Proofs.Flat.Indentation
import TreeQuery.Proofs.Reading.Spacing
import TreeQuery.Proofs.Settings.Precedence
