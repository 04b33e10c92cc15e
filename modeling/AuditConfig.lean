import AuditConfig.Attribute
import AuditConfig.Entries
import AuditConfig.Field.Spec
import AuditConfig.Field.Type
import AuditConfig.Log.Build
import AuditConfig.Log.Event
import AuditConfig.Log.Level
import AuditConfig.Log.Line
import AuditConfig.Log.Logging
import AuditConfig.Log.Run
import AuditConfig.Number.Binary64
import AuditConfig.Number.Decimal
import AuditConfig.Number.FloatReading
import AuditConfig.Number.FloatText
import AuditConfig.Number.Numeral
import AuditConfig.Number.Order
import AuditConfig.Number.Power
import AuditConfig.Number.Shortest
import AuditConfig.Options
import AuditConfig.Options.Misfit
import AuditConfig.Options.Validating
import AuditConfig.Options.Writing
import AuditConfig.Processor
import AuditConfig.Processor.Specs
import AuditConfig.Props
import AuditConfig.Props.Assign
import AuditConfig.Props.Compare
import AuditConfig.Props.Construct
import AuditConfig.Props.Copy
import AuditConfig.Props.Found
import AuditConfig.Props.Making
import AuditConfig.Props.ProcessorNames
import AuditConfig.Props.Report
import AuditConfig.Props.View
import AuditConfig.PropsClass
import AuditConfig.PropsClass.Accepted
import AuditConfig.PropsClass.Declaration
import AuditConfig.PropsClass.Definition
import AuditConfig.PropsClass.Flaw
import AuditConfig.PropsClass.Member
import AuditConfig.PropsClass.Parameters
import AuditConfig.PropsClass.StandIn
import AuditConfig.PropsClass.Substitute
import AuditConfig.PropsClass.Validator
import AuditConfig.Schema
import AuditConfig.Schema.Assigning
import AuditConfig.Schema.Call
import AuditConfig.Schema.Choice
import AuditConfig.Schema.Collection
import AuditConfig.Schema.CustomFault
import AuditConfig.Schema.Deciding
import AuditConfig.Schema.Defect
import AuditConfig.Schema.Entry
import AuditConfig.Schema.KnownFault
import AuditConfig.Schema.Named
import AuditConfig.Schema.Outline
import AuditConfig.Schema.Plain
import AuditConfig.Schema.Reading
import AuditConfig.Schema.Rejection
import AuditConfig.Schema.Scalar
import AuditConfig.Schema.Validating
import AuditConfig.Schema.Writing
import AuditConfig.Session.Step
import AuditConfig.Session.Store
import AuditConfig.Settings
import AuditConfig.Text.Blank
import AuditConfig.Text.Cased
import AuditConfig.Text.Clipped
import AuditConfig.Text.CodeRange
import AuditConfig.Text.CommaSeparated
import AuditConfig.Text.Digit
import AuditConfig.Text.Identifier
import AuditConfig.Text.LetterCase
import AuditConfig.Text.LoneLetter
import AuditConfig.Text.Pattern
import AuditConfig.Text.Printable
import AuditConfig.Text.Quoted
import AuditConfig.Text.Unquoted
import AuditConfig.Validation.Field
import AuditConfig.Validation.Issue
import AuditConfig.Validation.Rules
import AuditConfig.Validation.Temporal
import AuditConfig.Validation.Truth
import AuditConfig.Validation.WholeText
import AuditConfig.Value
import AuditConfig.Value.Bindings
import AuditConfig.Value.Equal
import AuditConfig.Value.Long
import AuditConfig.Value.Lookup
import AuditConfig.Value.Search
import AuditConfig.Value.Size
import AuditConfig.Value.Text
import AuditConfig.Proofs.Inheritance
import AuditConfig.Proofs.NamedValues
import AuditConfig.Proofs.Buildable
import AuditConfig.Proofs.Reading
import AuditConfig.Proofs.Staging
import AuditConfig.Proofs.FieldValues
import AuditConfig.Proofs.Totality
import AuditConfig.Proofs.Configuring
import AuditConfig.Proofs.Answering
import AuditConfig.Proofs.PassThrough
import AuditConfig.Proofs.Secrecy
import AuditConfig.Proofs.LifeCycle
import AuditConfig.Proofs.Rebuilding
import AuditConfig.Proofs.Lawful
import AuditConfig.Proofs.Taking
import AuditConfig.Proofs.ClassTable
import AuditConfig.Proofs.Places
import AuditConfig.Proofs.Unadorned
import AuditConfig.Proofs.Isolation
import AuditConfig.Proofs.Reporting
import AuditConfig.Proofs.Seeing
import AuditConfig.Proofs.Failing
import AuditConfig.Proofs.Widening
import AuditConfig.Proofs.WholeNumbers
import AuditConfig.Proofs.Coercing
import AuditConfig.Proofs.NameLists
import AuditConfig.Proofs.Reached
import AuditConfig.Value.Pairs
import AuditConfig.Value.Proper
import AuditConfig.Proofs.Copying
import AuditConfig.Proofs.TruthValues
import AuditConfig.Proofs.DefaultSources
import AuditConfig.Proofs.Lines
import AuditConfig.Proofs.Telling
