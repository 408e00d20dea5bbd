import PatternSearch.Command
import PatternSearch.Main
import PatternSearch.Proofs.Text.Digits
import PatternSearch.Proofs.Text.Line
import PatternSearch.Proofs.Text.Boundary
import PatternSearch.Proofs.Unicode.CharSet
import PatternSearch.Proofs.Number.Nearest
import PatternSearch.Proofs.Number.Sum
import PatternSearch.Proofs.Number.HalfUp
import PatternSearch.Proofs.Number.Error
import PatternSearch.Proofs.Number.Ratio
import PatternSearch.Proofs.Number.Interchange
import PatternSearch.Proofs.Number.Neighbour
import PatternSearch.Proofs.Number.Shortest
import PatternSearch.Proofs.Examples.Columns
import PatternSearch.Proofs.Examples.Rows
import PatternSearch.Proofs.Examples.Trailing
import PatternSearch.Proofs.Examples.Division
import PatternSearch.Proofs.Examples.Grammar
import PatternSearch.Proofs.Examples.Concatenation
import PatternSearch.Proofs.Document.Quote
import PatternSearch.Proofs.Document.Spelling
import PatternSearch.Proofs.Document.Numeral
import PatternSearch.Proofs.Document.Reading
import PatternSearch.Proofs.Document.Record
import PatternSearch.Proofs.Document.Settings
import PatternSearch.Proofs.Document.Scaling
import PatternSearch.Proofs.Document.Decimal
import PatternSearch.Proofs.Document.Reread
import PatternSearch.Proofs.Document.Results
import PatternSearch.Proofs.Fragment.Repetition
import PatternSearch.Proofs.Fragment.Exhaustion
import PatternSearch.Proofs.Pattern.Matches
import PatternSearch.Proofs.Pattern.Forms
import PatternSearch.Proofs.Pattern.Reach
import PatternSearch.Proofs.Pattern.Assembly
import PatternSearch.Proofs.Pattern.Scanning.Behind
import PatternSearch.Proofs.Pattern.Scanning.Escape
import PatternSearch.Proofs.Pattern.Scanning.Bracket
import PatternSearch.Proofs.Pattern.Scanning.Token
import PatternSearch.Proofs.Pattern.Anchoring
import PatternSearch.Proofs.Pattern.Narrowing
import PatternSearch.Proofs.Pattern.Pinning
import PatternSearch.Proofs.Search.Turns
import PatternSearch.Proofs.Search.Evaluated
import PatternSearch.Proofs.Search.Partition
import PatternSearch.Proofs.Search.Scoring
import PatternSearch.Proofs.Search.Perfect
import PatternSearch.Proofs.Search.Bounds
import PatternSearch.Proofs.Search.Solved
import PatternSearch.Proofs.Search.Best
import PatternSearch.Proofs.Search.Refinement
import PatternSearch.Proofs.Search.Derivation
import PatternSearch.Proofs.Search.Offspring
import PatternSearch.Proofs.Search.Seeding
import PatternSearch.Proofs.Search.Space
import PatternSearch.Proofs.Search.Completeness
import PatternSearch.Proofs.Search.Alike
import PatternSearch.Proofs.Search.Order
import PatternSearch.Proofs.Search.Ends
import PatternSearch.Proofs.Search.Failing
import PatternSearch.Proofs.Search.Numbering
import PatternSearch.Proofs.Search.Conservation
import PatternSearch.Proofs.Search.Lineage
import PatternSearch.Proofs.Search.Reports
import PatternSearch.Proofs.Search.Log
import PatternSearch.Proofs.Search.Selection
import PatternSearch.Proofs.Search.Litters
import PatternSearch.Proofs.Search.Budget
import PatternSearch.Proofs.Search.History
import PatternSearch.Proofs.Search.Extinction
import PatternSearch.Proofs.Command.Transcript
