import FisheryRules.Condition.Basic
import FisheryRules.Condition.Evaluation
import FisheryRules.Condition.Parser
import FisheryRules.Condition.Segments
import FisheryRules.Condition.Token
import FisheryRules.Condition.Typing
import FisheryRules.Condition.Written
import FisheryRules.Data.Basic
import FisheryRules.Data.Json
import FisheryRules.Data.Serialized
import FisheryRules.Digest.Sha256
import FisheryRules.Evaluation.Batch
import FisheryRules.Evaluation.Session
import FisheryRules.Evaluation.Written
import FisheryRules.Fact.Activity
import FisheryRules.Fact.Basic
import FisheryRules.Fact.Criteria
import FisheryRules.Fact.Field
import FisheryRules.Fact.Movement
import FisheryRules.Fact.Serialized
import FisheryRules.Fact.Value
import FisheryRules.Main
import FisheryRules.Markup.Cursor
import FisheryRules.Markup.Lexer
import FisheryRules.Markup.Reader
import FisheryRules.Markup.Scalar
import FisheryRules.Markup.Token
import FisheryRules.Number.Binary64
import FisheryRules.Number.Decimal
import FisheryRules.Number.Radix
import FisheryRules.Number.Shortest
import FisheryRules.Registry.Cache
import FisheryRules.Registry.IncidentStore
import FisheryRules.Registry.RefreshWorker
import FisheryRules.Registry.RuleStore
import FisheryRules.Registry.StoreError
import FisheryRules.Registry.Table
import FisheryRules.Registry.Written
import FisheryRules.Response.Action
import FisheryRules.Response.Contact
import FisheryRules.Response.Dispatch
import FisheryRules.Response.Incident
import FisheryRules.Response.Mail
import FisheryRules.Response.Notification
import FisheryRules.Response.Serialized
import FisheryRules.Response.Services
import FisheryRules.Response.Written
import FisheryRules.Rule.Definition
import FisheryRules.Rule.Serialized
import FisheryRules.RuleSet.Basic
import FisheryRules.RuleSet.Compiler
import FisheryRules.RuleSet.Fingerprint
import FisheryRules.RuleSet.Flaw
import FisheryRules.RuleSet.OfSource
import FisheryRules.RuleSet.Serialized
import FisheryRules.RuleSet.Written
import FisheryRules.Service.Checker
import FisheryRules.Service.Config
import FisheryRules.Service.Documents
import FisheryRules.Service.Failure
import FisheryRules.Service.Monitor
import FisheryRules.Service.Written
import FisheryRules.Source.Bundled
import FisheryRules.Source.Consequence
import FisheryRules.Source.Grammar
import FisheryRules.Source.RuleText
import FisheryRules.Text.Blank
import FisheryRules.Text.KeySet
import FisheryRules.Text.Letter
import FisheryRules.Text.Lines
import FisheryRules.Text.LowerCase
import FisheryRules.Text.Quoted
import FisheryRules.Time.Instant
import FisheryRules.Time.Loose
import FisheryRules.Time.Timestamp
import FisheryRules.Uuid
import FisheryRules.Proofs.Condition.Grammar
import FisheryRules.Proofs.Condition.TypeSafety
import FisheryRules.Proofs.Source.Template
import FisheryRules.Proofs.Source.RuleText
import FisheryRules.Proofs.Condition.SegmentText
import FisheryRules.Proofs.RuleSet.Definition
import FisheryRules.Proofs.RuleSet.Settlement
import FisheryRules.Proofs.Rule.Order
import FisheryRules.Proofs.RuleSet.Accounting
import FisheryRules.Proofs.Condition.SegmentMarks
import FisheryRules.Proofs.Condition.SegmentMeaning
import FisheryRules.Proofs.Evaluation.Agenda
import FisheryRules.Proofs.Evaluation.Exhaustion
import FisheryRules.Proofs.Evaluation.Isolation
import FisheryRules.Proofs.Registry.CacheRuns
import FisheryRules.Proofs.Text.Separators
import FisheryRules.Proofs.Time.Timestamp
import FisheryRules.Proofs.Data.Json
import FisheryRules.Proofs.RuleSet.Fingerprint
import FisheryRules.Proofs.Evaluation.Behaviour
import FisheryRules.Proofs.RuleSet.Wording
import FisheryRules.Proofs.Registry.CacheHits
import FisheryRules.Proofs.Response.DeclaredActions
import FisheryRules.Registry.RequestTraffic
import FisheryRules.Proofs.Registry.RequestsServed
import FisheryRules.Registry.CacheTraffic
import FisheryRules.Proofs.Registry.ConcurrentRefreshes
import FisheryRules.Proofs.Text.LetterCase
import FisheryRules.Proofs.Data.QuotedText
import FisheryRules.Proofs.Rule.SegmentForm
import FisheryRules.Proofs.RuleSet.Separation
import FisheryRules.Proofs.Registry.CacheMisses
import FisheryRules.Proofs.Evaluation.FiredRules
import FisheryRules.Proofs.Evaluation.FactOutcomes
import FisheryRules.Proofs.Evaluation.RuleOrder
import FisheryRules.Proofs.Evaluation.BatchParts
import FisheryRules.Proofs.Response.Errands
import FisheryRules.Proofs.Response.ErrandTasks
import FisheryRules.Proofs.Response.ActionIsolation
import FisheryRules.Proofs.Evaluation.SettledPairs
import FisheryRules.Proofs.Evaluation.Resumption
import FisheryRules.Proofs.Condition.Derivations
import FisheryRules.Proofs.Response.Incidents
import FisheryRules.Proofs.Response.IncidentRecords
import FisheryRules.Proofs.Identifier
import FisheryRules.Proofs.Registry.TableRows
import FisheryRules.Proofs.Response.SilentVessels
import FisheryRules.Proofs.Evaluation.Attempts
import FisheryRules.Proofs.Evaluation.Attribution
import FisheryRules.Proofs.RuleSet.Completion
import FisheryRules.Proofs.Response.Frames
import FisheryRules.Proofs.Response.TriggerTimes
import FisheryRules.Proofs.Registry.Rearrangements
import FisheryRules.Proofs.Registry.Seeding
import FisheryRules.Proofs.RuleSet.IdentityFlaws
import FisheryRules.Proofs.Data.JsonText
import FisheryRules.Proofs.Time.LooseTimestamp
import FisheryRules.Proofs.Data.Faithful
import FisheryRules.Proofs.Fact.Faithful
import FisheryRules.Proofs.Response.Faithful
import FisheryRules.Proofs.Number.Rounding
import FisheryRules.Proofs.Number.Shortest
import FisheryRules.Proofs.Response.SerializedForms
import FisheryRules.Proofs.Condition.CanonicalText
import FisheryRules.Proofs.RuleSet.SourceRules
import FisheryRules.Proofs.Service.Checker
import FisheryRules.Proofs.Evaluation.FiringSources
import FisheryRules.Proofs.Response.AlarmReports
import FisheryRules.Proofs.Service.Firings
import FisheryRules.Proofs.Condition.Height
import FisheryRules.Proofs.Condition.ComparisonLaws
import FisheryRules.Proofs.Source.Substitution
import FisheryRules.Proofs.Text.Folding
import FisheryRules.Proofs.Condition.FoldedText
import FisheryRules.Proofs.RuleSet.FoldedExpression
