import PatternSearch.Text.Lossy
import PatternSearch.Text.Quoted
import PatternSearch.Version
import PatternSearch.Search.Session
import PatternSearch.Regex.Builder
import PatternSearch.Regex.Replace
import PatternSearch.Regex.Split
import PatternSearch.Host.Functions
import PatternSearch.Proofs.Search.Rules
import PatternSearch.Proofs.Search.Watching
import PatternSearch.Proofs.Search.Order
import PatternSearch.Proofs.Search.Places
import PatternSearch.Proofs.Search.Coverage
import PatternSearch.Proofs.Regex.Cuts
import PatternSearch.Proofs.Search.Effort
import PatternSearch.Proofs.Regex.Matches
import PatternSearch.Proofs.Regex.Safety
import PatternSearch.Proofs.Search.Unfolding
import PatternSearch.Proofs.Search.Resumption
import PatternSearch.Proofs.Host.Asking
import PatternSearch.Proofs.Host.MatchByMatch
import PatternSearch.Proofs.Regex.Gaps
import PatternSearch.Proofs.Regex.Splicing
import PatternSearch.Proofs.Regex.Joining
import PatternSearch.Proofs.Regex.FirstMatch
import PatternSearch.Proofs.Search.Range
import PatternSearch.Proofs.Search.Stepping
import PatternSearch.Proofs.Search.Truncation
import PatternSearch.Proofs.Regex.Compiled
import PatternSearch.Proofs.Host.Ascii
import PatternSearch.Proofs.Text.Numeral
import PatternSearch.Proofs.Template.Lexicon
import PatternSearch.Proofs.Template.GroupTexts
import PatternSearch.Proofs.Template.Escaped
import PatternSearch.Proofs.Template.Dollar
import PatternSearch.Proofs.Search.Reuse
import PatternSearch.Proofs.Search.Statuses
import PatternSearch.Proofs.Host.Statuses
import PatternSearch.Proofs.Template.Concatenation
import PatternSearch.Proofs.Template.Literal
import PatternSearch.Proofs.Template.Quoting
import PatternSearch.Proofs.Regex.Templates
import PatternSearch.Proofs.Regex.Partition
import PatternSearch.Proofs.Search.Trace
import PatternSearch.Proofs.Host.Names
import PatternSearch.Proofs.Host.Exactness
import PatternSearch.Proofs.Pattern.Letters
import PatternSearch.Proofs.Regex.Building
import PatternSearch.Proofs.Regex.SharedNames
import PatternSearch.Proofs.Search.Characters
import PatternSearch.Proofs.Host.Readings
