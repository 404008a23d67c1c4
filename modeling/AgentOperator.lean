import AgentOperator.Agent.Basic
import AgentOperator.Agent.Choices
import AgentOperator.Agent.Container
import AgentOperator.Agent.Definition
import AgentOperator.Agent.Spec
import AgentOperator.Agent.Validation
import AgentOperator.Api.Client
import AgentOperator.Api.Request
import AgentOperator.Api.Response
import AgentOperator.Api.Target
import AgentOperator.Api.Timeline
import AgentOperator.Cluster
import AgentOperator.Config
import AgentOperator.Decimal.Binary64
import AgentOperator.Decimal.Shortest
import AgentOperator.Dict
import AgentOperator.Digest.Sha256
import AgentOperator.Failure
import AgentOperator.Json.Basic
import AgentOperator.Json.Drift
import AgentOperator.Json.Patch
import AgentOperator.Json.Pointer
import AgentOperator.Json.Printer
import AgentOperator.Json.Reader
import AgentOperator.Json.Record
import AgentOperator.Keyed
import AgentOperator.Manifest.Basic
import AgentOperator.Manifest.ConfigMap
import AgentOperator.Manifest.Context
import AgentOperator.Manifest.Ingress
import AgentOperator.Manifest.Labels
import AgentOperator.Manifest.Scaling
import AgentOperator.Manifest.Service
import AgentOperator.Manifest.Workload
import AgentOperator.Object.Basic
import AgentOperator.Object.Kind
import AgentOperator.Object.Metadata
import AgentOperator.Object.Timestamp
import AgentOperator.Port.Address
import AgentOperator.Port.Basic
import AgentOperator.Port.Family
import AgentOperator.Port.Receiver
import AgentOperator.Port.Registry
import AgentOperator.Port.Resolver
import AgentOperator.Proofs.Action
import AgentOperator.Proofs.Json.Drift
import AgentOperator.Proofs.Json.Path
import AgentOperator.Proofs.Json.Record
import AgentOperator.Proofs.Json.Strip
import AgentOperator.Proofs.Keyed
import AgentOperator.Proofs.Manifest.Alike
import AgentOperator.Proofs.Manifest.Body
import AgentOperator.Proofs.Manifest.Clash
import AgentOperator.Proofs.Manifest.Desired
import AgentOperator.Proofs.Manifest.Places
import AgentOperator.Proofs.Object
import AgentOperator.Proofs.Port.Address
import AgentOperator.Proofs.Port.Registry
import AgentOperator.Proofs.Port.Groups
import AgentOperator.Proofs.Port.Listing
import AgentOperator.Proofs.Port.Names
import AgentOperator.Proofs.Reconcile.Address
import AgentOperator.Proofs.Reconcile.Aftermath
import AgentOperator.Proofs.Reconcile.AnyOutcome
import AgentOperator.Proofs.Reconcile.Apply
import AgentOperator.Proofs.Reconcile.Collection
import AgentOperator.Proofs.Reconcile.Convergence
import AgentOperator.Proofs.Reconcile.FailClosed
import AgentOperator.Proofs.Reconcile.Fit
import AgentOperator.Proofs.Reconcile.Garbage
import AgentOperator.Proofs.Reconcile.History
import AgentOperator.Proofs.Reconcile.Idempotence
import AgentOperator.Proofs.Reconcile.Kept
import AgentOperator.Proofs.Reconcile.Lasting
import AgentOperator.Proofs.Reconcile.Made
import AgentOperator.Proofs.Reconcile.Merge
import AgentOperator.Proofs.Reconcile.Neighbours
import AgentOperator.Proofs.Reconcile.Pass
import AgentOperator.Proofs.Reconcile.Preservation
import AgentOperator.Proofs.Reconcile.Reachable
import AgentOperator.Proofs.Reconcile.Runs
import AgentOperator.Proofs.Reconcile.Settled
import AgentOperator.Proofs.Reconcile.Trace
import AgentOperator.Proofs.Reconcile.Warnings
import AgentOperator.Proofs.Recording
import AgentOperator.Proofs.Store.Calls
import AgentOperator.Proofs.Store.Lookup
import AgentOperator.Proofs.Store.Selector
import AgentOperator.Proofs.Store.Sound
import AgentOperator.Reconcile.Apply
import AgentOperator.Reconcile.Merge
import AgentOperator.Reconcile.Pass
import AgentOperator.Reconcile.Prune
import AgentOperator.Reconcile.Report
import AgentOperator.Retry
import AgentOperator.Scenario.Basic
import AgentOperator.Store.Basic
import AgentOperator.Store.Faults
import AgentOperator.Text.Blank
import AgentOperator.Text.Digit
import AgentOperator.Text.Form
import AgentOperator.Text.Glob
import AgentOperator.Text.Pattern
import AgentOperator.Text.Printable
import AgentOperator.Text.Quoted
import AgentOperator.Text.Utf8
import AgentOperator.Yaml.Block
import AgentOperator.Yaml.Cursor
import AgentOperator.Yaml.Document
import AgentOperator.Yaml.Event
import AgentOperator.Yaml.Folding
import AgentOperator.Yaml.Lexer
import AgentOperator.Yaml.Plain
import AgentOperator.Yaml.Property
import AgentOperator.Yaml.Quote
import AgentOperator.Yaml.Scalar
import AgentOperator.Yaml.Tag
import AgentOperator.Yaml.Token
import AgentOperator.Yaml.Value
import AgentOperator.Proofs.Store.Steps
import AgentOperator.Proofs.Reconcile.Attempt
import AgentOperator.Proofs.Store.Allocation
import AgentOperator.Proofs.Reconcile.Endings
import AgentOperator.Proofs.Reconcile.Isolation
import AgentOperator.Proofs.Store.Versions
import AgentOperator.Proofs.Reconcile.Interference
import AgentOperator.Proofs.Reconcile.Account
import AgentOperator.Proofs.Port.Priority
import AgentOperator.Proofs.Port.Retention
import AgentOperator.Proofs.Reconcile.SelectorText
import AgentOperator.Proofs.Reconcile.Reported
import AgentOperator.Proofs.Port.Refusal
import AgentOperator.Proofs.Port.Overrides
import AgentOperator.Proofs.Port.Explicit
import AgentOperator.Proofs.Manifest.Selection
import AgentOperator.Proofs.Manifest.Members
import AgentOperator.Proofs.Manifest.Contents
import AgentOperator.Proofs.Manifest.References
import AgentOperator.Proofs.Manifest.Admission
import AgentOperator.Proofs.Manifest.Rollout
import AgentOperator.Proofs.Digest
import AgentOperator.Proofs.Reconcile.Carried
import AgentOperator.Proofs.Reconcile.FixedPoint
import AgentOperator.Proofs.Json.Reading
import AgentOperator.Proofs.Timestamp
import AgentOperator.Proofs.Metadata
import AgentOperator.Proofs.Agent.RoundTrip
import AgentOperator.Proofs.Json.Overlay
import AgentOperator.Proofs.Reconcile.Sweep
import AgentOperator.Proofs.Reconcile.Omission
import AgentOperator.Proofs.Failure
import AgentOperator.Proofs.Reconcile.Announced
import AgentOperator.Proofs.Retry
import AgentOperator.Proofs.Manifest.Inheritance
import AgentOperator.Proofs.Port.Wired
import AgentOperator.Proofs.Text.Pattern
import AgentOperator.Proofs.Text.Glob
import AgentOperator.Proofs.Manifest.Version
import AgentOperator.Proofs.Json.Pointer
