import ApiGateway.Main
import ApiGateway.Scenario.Stage
import ApiGateway.Proofs.Run.Alike
import ApiGateway.Proofs.Run.Moments
import ApiGateway.Proofs.Run.Keeps
import ApiGateway.Proofs.Completion.History
import ApiGateway.Proofs.Completion.Once
import ApiGateway.Proofs.Population.Standing
import ApiGateway.Proofs.Population.Operations
import ApiGateway.Proofs.Population.Invariant
import ApiGateway.Proofs.Registry.Machine
import ApiGateway.Proofs.Registry.Refinement
import ApiGateway.Proofs.Route.Selection
import ApiGateway.Proofs.Traffic.Ledger
import ApiGateway.Proofs.Traffic.Routed
import ApiGateway.Proofs.Route.Accounts
import ApiGateway.Proofs.Completion.Boundary
import ApiGateway.Proofs.Completion.Instrumented
import ApiGateway.Proofs.Run.Requests
import ApiGateway.Proofs.Event.Calls
import ApiGateway.Proofs.Event.Delivery
import ApiGateway.Proofs.Event.History
import ApiGateway.Proofs.Shutdown.Activity
import ApiGateway.Proofs.Shutdown.Stopped
import ApiGateway.Proofs.Access.Counted
import ApiGateway.Proofs.Access.Agreement
import ApiGateway.Proofs.Traffic.Tally
import ApiGateway.Proofs.Access.Counters
import ApiGateway.Proofs.Http.Host
import ApiGateway.Proofs.Http.Authority
import ApiGateway.Proofs.Text.Separators
import ApiGateway.Proofs.Route.Hosts
import ApiGateway.Proofs.Http.Target
import ApiGateway.Proofs.Route.Hostless
import ApiGateway.Proofs.Event.Gate
import ApiGateway.Proofs.Event.Gating
import ApiGateway.Proofs.App.Deployed
import ApiGateway.Proofs.App.Probes
import ApiGateway.Proofs.App.Options
import ApiGateway.Proofs.App.Session
import ApiGateway.Proofs.Independence.Commute
import ApiGateway.Proofs.Config.Lines
import ApiGateway.Proofs.Config.Sections
import ApiGateway.Proofs.Config.Faults
import ApiGateway.Proofs.Config.Readers
import ApiGateway.Proofs.Config.Written
import ApiGateway.Proofs.Config.Acceptance
import ApiGateway.Proofs.Config.Irrelevance
import ApiGateway.Proofs.Access.Reading
import ApiGateway.Proofs.Http.Assignment
import ApiGateway.Proofs.Access.Sinks
import ApiGateway.Proofs.Access.FanOut
import ApiGateway.Proofs.Access.Statuses
import ApiGateway.Proofs.Access.Nesting
import ApiGateway.Proofs.Lifecycle.History
import ApiGateway.Proofs.Http.Canonical
