import TemplateExpansion.Main
import TemplateExpansion.Http.Domain.Composition
import TemplateExpansion.Http.Domain.Direction
import TemplateExpansion.Http.Domain.Joining
import TemplateExpansion.Http.Domain.Mapping
import TemplateExpansion.Proofs.WorkingText
import TemplateExpansion.Proofs.Effects
import TemplateExpansion.Proofs.BuiltinEffects
import TemplateExpansion.Proofs.Course
import TemplateExpansion.Proofs.Refusals
import TemplateExpansion.Proofs.Convergence
import TemplateExpansion.Proofs.Reduction
import TemplateExpansion.Proofs.Replacements
import TemplateExpansion.Proofs.Batching
import TemplateExpansion.Proofs.Template
import TemplateExpansion.Proofs.CallByValue
import TemplateExpansion.Proofs.Executions
import TemplateExpansion.Proofs.Limits
import TemplateExpansion.Proofs.Concatenation
import TemplateExpansion.Proofs.Stillness
import TemplateExpansion.Proofs.Stability
import TemplateExpansion.Proofs.Bytes
import TemplateExpansion.Proofs.History
import TemplateExpansion.Proofs.Search
import TemplateExpansion.Proofs.Framing
import TemplateExpansion.Proofs.Quotation
import TemplateExpansion.Proofs.RoundTrip
import TemplateExpansion.Proofs.Registration
import TemplateExpansion.Proofs.Dispatch
import TemplateExpansion.Proofs.Passthrough
import TemplateExpansion.Proofs.Nesting
import TemplateExpansion.Proofs.Totality
import TemplateExpansion.Proofs.OnePass
import TemplateExpansion.Proofs.Transclusion
import TemplateExpansion.Proofs.Numerals
import TemplateExpansion.Proofs.Recall
import TemplateExpansion.Proofs.Repetition
import TemplateExpansion.Proofs.Rounding
import TemplateExpansion.Proofs.WholeDecimals
import TemplateExpansion.Proofs.Summation
import TemplateExpansion.Proofs.ByteOrder
import TemplateExpansion.Proofs.FirstRegistration
import TemplateExpansion.Proofs.Decoding
import TemplateExpansion.Proofs.Delivery
import TemplateExpansion.Proofs.StoredValues
import TemplateExpansion.Proofs.Json.Notation
import TemplateExpansion.Proofs.Json.Strings
import TemplateExpansion.Proofs.Json.Numbers
import TemplateExpansion.Proofs.Json.Values
import TemplateExpansion.Proofs.Settings.Drafts
import TemplateExpansion.Proofs.Settings.Documents
import TemplateExpansion.Proofs.Settings.Writing
import TemplateExpansion.Proofs.Settings.Loading
import TemplateExpansion.Proofs.Unescaping
import TemplateExpansion.Proofs.Tracking
import TemplateExpansion.Proofs.Turns
import TemplateExpansion.Proofs.Acceptance
import TemplateExpansion.Proofs.Json.Faults
import TemplateExpansion.Proofs.Settings.Diagnostics
import TemplateExpansion.Proofs.CommandLine.Reading
import TemplateExpansion.Proofs.CommandLine.Reporting
