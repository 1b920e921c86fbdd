import Rerank.Address
import Rerank.Directive.Grammar
import Rerank.Directive.Reader
import Rerank.Directive.Writer
import Rerank.Json.Form
import Rerank.RuleSet.Builder
import Rerank.RuleSet.Evaluation
import Rerank.Proofs.Action
import Rerank.Proofs.Magnitude
import Rerank.Proofs.Directive.Spelling
import Rerank.Proofs.Pattern.Regex
import Rerank.Proofs.Pattern.Fragment
import Rerank.Proofs.Pattern.Matching
import Rerank.Proofs.Pattern.Translation
import Rerank.Proofs.Domain.Delimiters
import Rerank.Proofs.Address.Delimited
import Rerank.Proofs.Address.Isolated
import Rerank.Proofs.Document.Host
import Rerank.Proofs.Rule.Options
import Rerank.Proofs.Rule.Meaning
import Rerank.Proofs.Rule.Line
import Rerank.Proofs.Rule.Lines
import Rerank.Proofs.RuleSet.Decision
import Rerank.Proofs.RuleSet.Report
import Rerank.Proofs.RuleSet.Reordering
import Rerank.Proofs.Directive.Writing
import Rerank.Proofs.Magnitude.Decimal
import Rerank.Proofs.Rule.Draft
import Rerank.Proofs.RuleSet.Answers
import Rerank.Proofs.RuleSet.Insertion
import Rerank.Proofs.Text.Layout
import Rerank.Proofs.RuleSet.Feeding
import Rerank.Proofs.Rule.Invariant
import Rerank.Proofs.Rule.Limits
import Rerank.Proofs.RuleSet.Dependence
import Rerank.Proofs.Document.Accepted
import Rerank.Proofs.Document.Site
import Rerank.Proofs.Rule.Strength
import Rerank.Proofs.Pattern.Decoding
import Rerank.Proofs.Document.Assembly
import Rerank.Proofs.Rule.Editing
import Rerank.Proofs.Pattern.Laws
import Rerank.Proofs.RuleSet.Supplying
import Rerank.Proofs.Rule.Records
import Rerank.Proofs.RuleSet.Records
import Rerank.Proofs.RuleSet.Rebuilding
import Rerank.Proofs.Json.Grammar
import Rerank.Proofs.Json.Number
import Rerank.Proofs.Json.Text
import Rerank.Proofs.Json.Reading
import Rerank.Proofs.Json.Writing
import Rerank.Proofs.Json.Form
import Rerank.Proofs.RuleSet.Census
