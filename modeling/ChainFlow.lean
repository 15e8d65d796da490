import ChainFlow.Amount
import ChainFlow.Api.Answer
import ChainFlow.Api.Body
import ChainFlow.Api.Route
import ChainFlow.Api.Service
import ChainFlow.Badges
import ChainFlow.Binary64.Basic
import ChainFlow.Binary64.Rounded
import ChainFlow.Binary64.Shortest
import ChainFlow.Chain
import ChainFlow.CommandLine.Command
import ChainFlow.CommandLine.Folder
import ChainFlow.CommandLine.Options
import ChainFlow.CommandLine.Program
import ChainFlow.CommandLine.Report
import ChainFlow.Decimal.Basic
import ChainFlow.Decimal.Numeral
import ChainFlow.DomainName.Basic
import ChainFlow.DomainName.Character
import ChainFlow.DomainName.Label
import ChainFlow.DomainName.Permitted
import ChainFlow.DomainName.Punycode
import ChainFlow.Edge
import ChainFlow.Errand
import ChainFlow.Estimate
import ChainFlow.Fault
import ChainFlow.Fee
import ChainFlow.Flow.Ask
import ChainFlow.Flow.DryRun
import ChainFlow.Flow.LiveRun
import ChainFlow.Flow.Performing
import ChainFlow.Flow.Quoting
import ChainFlow.Gateway.Session
import ChainFlow.Graph.Basic
import ChainFlow.Graph.Check
import ChainFlow.Graph.Walk
import ChainFlow.Holdings
import ChainFlow.Http.Exchange
import ChainFlow.Http.Host
import ChainFlow.Http.Url
import ChainFlow.Json.Access
import ChainFlow.Json.Basic
import ChainFlow.Json.Writable
import ChainFlow.Json.Encoding
import ChainFlow.Json.Printer
import ChainFlow.Json.Reader
import ChainFlow.Json.Token
import ChainFlow.Location
import ChainFlow.Log.Line
import ChainFlow.Log.Message
import ChainFlow.Main
import ChainFlow.Node.Basic
import ChainFlow.Node.Payload
import ChainFlow.Node.Reader
import ChainFlow.Plan
import ChainFlow.Power
import ChainFlow.Quote
import ChainFlow.Receipt
import ChainFlow.Request
import ChainFlow.Run
import ChainFlow.Schema.Issue
import ChainFlow.Schema.Reading
import ChainFlow.Schema.Record
import ChainFlow.Schema.Scalar
import ChainFlow.Script
import ChainFlow.Settings.Basic
import ChainFlow.Settings.Dotenv
import ChainFlow.Settings.Wiring
import ChainFlow.Template.Basic
import ChainFlow.Template.Examples
import ChainFlow.Template.Store
import ChainFlow.Text.Blank
import ChainFlow.Text.Case
import ChainFlow.Text.Composition
import ChainFlow.Text.Digit
import ChainFlow.Text.Encoding
import ChainFlow.Text.Mark
import ChainFlow.Text.Path
import ChainFlow.Text.Printable
import ChainFlow.Text.Quoted
import ChainFlow.Text.Runs
import ChainFlow.Text.Surrogate
import ChainFlow.Text.Whole
import ChainFlow.Token
import ChainFlow.Vault
import ChainFlow.World
import ChainFlow.Proofs.Graph.Preorder
import ChainFlow.Proofs.Plan.Next
import ChainFlow.Proofs.Plan.Session
import ChainFlow.Proofs.Plan.States
import ChainFlow.Proofs.World.Act
import ChainFlow.Proofs.World.Touch
import ChainFlow.Proofs.Flow.Performing
import ChainFlow.Proofs.Flow.Trace
import ChainFlow.Proofs.Flow.LiveRun
import ChainFlow.Proofs.Decimal.Written
import ChainFlow.Proofs.Decimal.Sum
import ChainFlow.Proofs.Cost
import ChainFlow.Proofs.World.Sends
import ChainFlow.Proofs.Flow.Calls
import ChainFlow.Proofs.Flow.Quoting
import ChainFlow.Proofs.Flow.Agreement
import ChainFlow.Proofs.Flow.Faithful
import ChainFlow.Proofs.Flow.Settling
import ChainFlow.Proofs.Flow.Accounts
import ChainFlow.Proofs.Flow.Chains
import ChainFlow.Proofs.Flow.Places
import ChainFlow.Proofs.Flow.Honesty
import ChainFlow.Proofs.Flow.Closing
import ChainFlow.Proofs.Decimal.Cents
import ChainFlow.Proofs.Flow.Totals
import ChainFlow.Proofs.Flow.Complete
import ChainFlow.Proofs.Flow.Refusal
import ChainFlow.Proofs.Graph.Reach
import ChainFlow.Proofs.Graph.Roundtrip
import ChainFlow.Proofs.Flow.Bearing
import ChainFlow.Proofs.Flow.Audit
import ChainFlow.Proofs.Flow.Offline
import ChainFlow.Proofs.Template.OrderedMap
import ChainFlow.Proofs.Gateway.Request
import ChainFlow.Proofs.Gateway.Surfacing
import ChainFlow.Proofs.Gateway.Conversation
import ChainFlow.Proofs.Json.Encodable
import ChainFlow.Proofs.Api.Session
import ChainFlow.Proofs.Decimal.Bounded
import ChainFlow.Proofs.Holdings.Totals
import ChainFlow.Proofs.Holdings.Keeping
import ChainFlow.Proofs.Holdings.Sessions
import ChainFlow.Proofs.Flow.Observing
import ChainFlow.Proofs.Decimal.Nearest
import ChainFlow.Proofs.Amount
import ChainFlow.Proofs.Node.Setting
import ChainFlow.Proofs.Graph.Editing
import ChainFlow.Proofs.Template.Rules
import ChainFlow.Proofs.Api.Templates
import ChainFlow.Proofs.Template.Identity
import ChainFlow.Proofs.Template.Untouched
import ChainFlow.Proofs.Decimal.Finite
import ChainFlow.Proofs.Fee
import ChainFlow.Proofs.Decimal.Extended
import ChainFlow.Proofs.Holdings.Clashing
import ChainFlow.Proofs.Graph.Alike
import ChainFlow.Proofs.Flow.Redrawing
import ChainFlow.Proofs.Graph.Branching
import ChainFlow.Proofs.Plan.Fusing
import ChainFlow.Proofs.Flow.Fusing
import ChainFlow.Proofs.Decimal.Exact
import ChainFlow.Proofs.Tally
import ChainFlow.Proofs.Graph.Checking
import ChainFlow.Proofs.Api.Validation
import ChainFlow.Proofs.Badges.Setting
import ChainFlow.Proofs.Badges.Run
import ChainFlow.Proofs.Badges.Quote
import ChainFlow.Proofs.Decimal.Monotone
import ChainFlow.Proofs.BridgeCost
import ChainFlow.Proofs.World.Timing
import ChainFlow.Proofs.Flow.Pacing
import ChainFlow.Proofs.Flow.Repeating
import ChainFlow.Proofs.Template.Merging
import ChainFlow.Proofs.Api.Updating
import ChainFlow.Proofs.Graph.Stack
import ChainFlow.Proofs.Holdings.Breakdown
