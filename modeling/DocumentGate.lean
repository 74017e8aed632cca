import DocumentGate.Dictionary
import DocumentGate.Text.Blank
import DocumentGate.Text.Cut
import DocumentGate.Text.Hexadecimal
import DocumentGate.Text.Lowercase
import DocumentGate.Text.Printable
import DocumentGate.Text.Quoted
import DocumentGate.Text.Segments
import DocumentGate.Text.Utf8
import DocumentGate.Number.Basic
import DocumentGate.Json.Reader
import DocumentGate.Json.Writer
import DocumentGate.Json.Equality
import DocumentGate.Argument.Literal
import DocumentGate.Command.Grammar
import DocumentGate.Settings.Validation
import DocumentGate.Settings.File
import DocumentGate.Document.Filter
import DocumentGate.Document.Unread
import DocumentGate.Document.Update
import DocumentGate.Document.Identity
import DocumentGate.Sql.Name
import DocumentGate.Sql.Compile
import DocumentGate.Sql.Unread
import DocumentGate.Store.Memory
import DocumentGate.Postgres.Connect
import DocumentGate.Uri.Redact
import DocumentGate.Connection.Open
import DocumentGate.Service.Machine
import DocumentGate.Http.Application
import DocumentGate.Http.Wire
import DocumentGate.Main
import DocumentGate.Proofs.Burdens
import DocumentGate.Proofs.Custody
import DocumentGate.Proofs.OpenStores
import DocumentGate.Proofs.Turns
import DocumentGate.Proofs.Runs
import DocumentGate.Proofs.Ownership
import DocumentGate.Proofs.TrustBoundary
import DocumentGate.Proofs.LiteralGrammar
import DocumentGate.Proofs.LiteralTokens
import DocumentGate.Proofs.LiteralSpelling
import DocumentGate.Proofs.LiteralReading
import DocumentGate.Proofs.ReaderFuel
import DocumentGate.Proofs.StrictTexts
import DocumentGate.Proofs.LiteralRendering
import DocumentGate.Proofs.ConditionMeaning
import DocumentGate.Proofs.CompiledFilters
import DocumentGate.Proofs.FilterStatements
import DocumentGate.Proofs.Ground
import DocumentGate.Proofs.DocumentIdentities
import DocumentGate.Proofs.ClusterIdentities
import DocumentGate.Proofs.SameWorlds
import DocumentGate.Proofs.FailedOperations
import DocumentGate.Proofs.RevisedDocuments
import DocumentGate.Proofs.BoundedIdleness
import DocumentGate.Proofs.SessionIsolation
import DocumentGate.Proofs.UpdatesAlike
import DocumentGate.Proofs.Attendance
import DocumentGate.Proofs.Connectedness
import DocumentGate.Proofs.Sweeps
import DocumentGate.Proofs.StatementTruth
import DocumentGate.Proofs.StatementPlaceholders
import DocumentGate.Proofs.OperationFaults
import DocumentGate.Proofs.CommandFaults
import DocumentGate.Proofs.FilterOutlines
import DocumentGate.Proofs.StatementTexts
import DocumentGate.Proofs.Transactions
import DocumentGate.Proofs.Deliveries
import DocumentGate.Proofs.OpenedConnections
import DocumentGate.Proofs.EnforcedKeywords
import DocumentGate.Proofs.LoadedSettings
import DocumentGate.Proofs.BareKeys
import DocumentGate.Proofs.InsertedDocuments
import DocumentGate.Proofs.UpdatedPlaces
import DocumentGate.Proofs.ReorderedUpdates
import DocumentGate.Proofs.RepeatedUpdates
import DocumentGate.Proofs.BooleanMatches
import DocumentGate.Proofs.ReadNumbers
import DocumentGate.Proofs.SettledFilters
import DocumentGate.Proofs.IdentityKeys
import DocumentGate.Proofs.LoneScans
import DocumentGate.Proofs.HiddenPasswords
import DocumentGate.Proofs.OrderedValues
import DocumentGate.Proofs.RedactedParts
import DocumentGate.Proofs.HandleRuns
import DocumentGate.Proofs.RegardedSessions
import DocumentGate.Proofs.AwaitedResponses
import DocumentGate.Proofs.Clients
