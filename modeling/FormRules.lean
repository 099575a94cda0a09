import FormRules.Comparison
import FormRules.Rule
import FormRules.Calendar
import FormRules.NumberText
import FormRules.Pattern
import FormRules.Text.Quoted
import FormRules.Error
import FormRules.Field
import FormRules.Config
import FormRules.Operator
import FormRules.Operator.Builtin
import FormRules.Validator.Submission
import FormRules.Markup.Token
import FormRules.Page
import FormRules.PlainForm
import FormRules.Validator.Inspect
import FormRules.Proofs.Effects
import FormRules.Proofs.Session
import FormRules.Proofs.Session.Order
import FormRules.Proofs.Operator.Builtin
import FormRules.Proofs.Session.Presence
import FormRules.Proofs.Session.Neutral
import FormRules.Proofs.Submission
import FormRules.Proofs.History
import FormRules.Proofs.Notices
import FormRules.Proofs.Runs
import FormRules.Proofs.DisplayStates
import FormRules.Proofs.History.Marks
import FormRules.Proofs.History.Displayed
import FormRules.Proofs.History.Watching
import FormRules.Proofs.Resubmission
import FormRules.Proofs.Markup.Forest
import FormRules.Proofs.Markup.Reading
import FormRules.Proofs.Document.Outline
import FormRules.Proofs.Document.RoundTrip
import FormRules.Proofs.Document.Runs
import FormRules.Proofs.Document.Tree
import FormRules.Proofs.Document.Building
import FormRules.Proofs.Document.Guarded
import FormRules.Proofs.Document.Invariant
import FormRules.Proofs.Document.Forms
import FormRules.Proofs.Document.Identifiers
import FormRules.Proofs.Document.Radios
import FormRules.Proofs.Document.Values
import FormRules.Proofs.Document.Disabling
import FormRules.Proofs.Page.Actions
import FormRules.Proofs.Page.Disabled
import FormRules.Proofs.Number.Comparison
import FormRules.Proofs.Page.Failures
import FormRules.Proofs.Text.Words
import FormRules.Proofs.Rule
import FormRules.Proofs.Comparison
import FormRules.Proofs.Document.Places
import FormRules.Proofs.Document.Options
import FormRules.Proofs.Markup.RawText
import FormRules.Proofs.Text.Digits
import FormRules.Proofs.Calendar
import FormRules.Proofs.Text.Units
import FormRules.Proofs.Document.Attributes
import FormRules.Proofs.Number.Rounding
import FormRules.Proofs.Number.Radix
import FormRules.Proofs.Number.Pattern
import FormRules.Proofs.Markup.References
import FormRules.Proofs.Document.InitialFlags
import FormRules.Proofs.Number.Decimal
import FormRules.Proofs.Number.Literal
import FormRules.Proofs.Document.Checking
import FormRules.Proofs.Document.Fieldsets
import FormRules.Proofs.Document.Selection
import FormRules.Proofs.Leaving
import FormRules.Proofs.History.Tracing
import FormRules.Proofs.Operator.Regexp
import FormRules.Proofs.Calendar.Succession
import FormRules.Proofs.Markup.Progress
