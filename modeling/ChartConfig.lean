import ChartConfig.Proofs.Format.Validation
import ChartConfig.Proofs.Validation.Conditional
import ChartConfig.Proofs.Validation.Nesting
import ChartConfig.Proofs.Validation.Required
import ChartConfig.Registry.Load
import ChartConfig.Report.Json
import ChartConfig.Report.Snippet
import ChartConfig.Report.Yaml
import ChartConfig.Session
import ChartConfig.Proofs.Validation.BlankLines
import ChartConfig.Proofs.Format.Opacity
import ChartConfig.Proofs.Format.Agreement
import ChartConfig.Proofs.Validation.Conditions
import ChartConfig.Proofs.Validation.Paths
import ChartConfig.Proofs.Validation.Additions
import ChartConfig.Proofs.Validation.Causality
import ChartConfig.Proofs.Validation.Loops
import ChartConfig.Proofs.Validation.Account
import ChartConfig.Proofs.Validation.Judgements
import ChartConfig.Proofs.Text.Distance
import ChartConfig.Proofs.Validation.Regions
import ChartConfig.Proofs.Validation.Suggestions
import ChartConfig.Proofs.Language.Marks
import ChartConfig.Proofs.Validation.Collections
import ChartConfig.Proofs.Format.Letters
import ChartConfig.Proofs.Registry.Description
import ChartConfig.Proofs.Validation.Closing
import ChartConfig.Proofs.Validation.InForce
import ChartConfig.Proofs.Validation.Repetition
import ChartConfig.Proofs.Validation.Exclusion
import ChartConfig.Proofs.Validation.Inheritance
import ChartConfig.Proofs.Format.Headers
import ChartConfig.Proofs.Hover
import ChartConfig.Proofs.Registry.Nearest
import ChartConfig.Proofs.Format.Substitution
import ChartConfig.Proofs.Language.Cells
import ChartConfig.Proofs.Validation.Rows
import ChartConfig.Proofs.Language.Signs
import ChartConfig.Proofs.Language.Spelling
import ChartConfig.Proofs.Text.Erasure
