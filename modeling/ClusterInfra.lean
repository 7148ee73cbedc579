import ClusterInfra.Backoff
import ClusterInfra.Config
import ClusterInfra.Dict
import ClusterInfra.Gateway.Payload
import ClusterInfra.Gateway.Services
import ClusterInfra.Http.Client
import ClusterInfra.Http.Message
import ClusterInfra.Http.Script
import ClusterInfra.Json.Basic
import ClusterInfra.Json.Codec
import ClusterInfra.Json.Diff
import ClusterInfra.Json.Parser
import ClusterInfra.Json.Patch
import ClusterInfra.Json.Pointer
import ClusterInfra.Json.Printer
import ClusterInfra.Main
import ClusterInfra.Metrics.Basic
import ClusterInfra.Metrics.Exposition
import ClusterInfra.Metrics.Server
import ClusterInfra.Net.Address
import ClusterInfra.Net.Url
import ClusterInfra.Proofs.Backoff
import ClusterInfra.Proofs.Gateway.Addresses
import ClusterInfra.Proofs.Gateway.Answers
import ClusterInfra.Proofs.Gateway.Confined
import ClusterInfra.Proofs.Gateway.Dialogue
import ClusterInfra.Proofs.Gateway.WriteBack
import ClusterInfra.Proofs.Http.Retries
import ClusterInfra.Proofs.Http.Traffic
import ClusterInfra.Proofs.Json.Below
import ClusterInfra.Proofs.Json.Faithful
import ClusterInfra.Proofs.Json.Members
import ClusterInfra.Proofs.Json.Rebuild
import ClusterInfra.Proofs.Json.Shape
import ClusterInfra.Proofs.Metrics
import ClusterInfra.Proofs.Net.Segments
import ClusterInfra.Proofs.Reconcile.Abreast
import ClusterInfra.Proofs.Reconcile.Accounting
import ClusterInfra.Proofs.Reconcile.Agreement
import ClusterInfra.Proofs.Reconcile.Calm
import ClusterInfra.Proofs.Reconcile.Cancellation
import ClusterInfra.Proofs.Reconcile.Closing
import ClusterInfra.Proofs.Reconcile.Creation
import ClusterInfra.Proofs.Reconcile.DataFlow
import ClusterInfra.Proofs.Reconcile.Delays
import ClusterInfra.Proofs.Reconcile.Endpoint
import ClusterInfra.Proofs.Reconcile.Entry
import ClusterInfra.Proofs.Reconcile.Exits
import ClusterInfra.Proofs.Reconcile.Faults
import ClusterInfra.Proofs.Reconcile.HandsOff
import ClusterInfra.Proofs.Reconcile.InStep
import ClusterInfra.Proofs.Reconcile.Invocation
import ClusterInfra.Proofs.Reconcile.Locality
import ClusterInfra.Proofs.Reconcile.Marks
import ClusterInfra.Proofs.Reconcile.Mocked
import ClusterInfra.Proofs.Reconcile.Monitored
import ClusterInfra.Proofs.Reconcile.Ownership
import ClusterInfra.Proofs.Reconcile.Passes
import ClusterInfra.Proofs.Reconcile.Progress
import ClusterInfra.Proofs.Reconcile.Prospect
import ClusterInfra.Proofs.Reconcile.Publication
import ClusterInfra.Proofs.Reconcile.Quiescence
import ClusterInfra.Proofs.Reconcile.Readiness
import ClusterInfra.Proofs.Reconcile.Recounts
import ClusterInfra.Proofs.Reconcile.Release
import ClusterInfra.Proofs.Reconcile.Reports
import ClusterInfra.Proofs.Reconcile.Requests
import ClusterInfra.Proofs.Reconcile.Resumption
import ClusterInfra.Proofs.Reconcile.Retention
import ClusterInfra.Proofs.Reconcile.Runs
import ClusterInfra.Proofs.Reconcile.Scripted
import ClusterInfra.Proofs.Reconcile.Sequence
import ClusterInfra.Proofs.Reconcile.Steps
import ClusterInfra.Proofs.Reconcile.Summary
import ClusterInfra.Proofs.Reconcile.Teardown
import ClusterInfra.Proofs.Reconcile.Timeless
import ClusterInfra.Proofs.Resource.Faithful
import ClusterInfra.Proofs.Resource.Metadata
import ClusterInfra.Proofs.Resource.NormalForm
import ClusterInfra.Proofs.Resource.Shaped
import ClusterInfra.Proofs.Resource.Summaries
import ClusterInfra.Proofs.Resource.Transitions
import ClusterInfra.Proofs.Resource.Verdicts
import ClusterInfra.Proofs.Sample
import ClusterInfra.Proofs.Scope.Edits
import ClusterInfra.Proofs.Store.Clients
import ClusterInfra.Proofs.Store.ForeignFinalizers
import ClusterInfra.Proofs.Store.LostUpdate
import ClusterInfra.Proofs.Store.Patched
import ClusterInfra.Proofs.Store.Persist
import ClusterInfra.Proofs.Store.Refinement
import ClusterInfra.Proofs.Store.Refusal
import ClusterInfra.Proofs.Store.RoundTrip
import ClusterInfra.Proofs.Store.Server
import ClusterInfra.Proofs.Store.Untouched
import ClusterInfra.Proofs.Store.WellTyped
import ClusterInfra.Proofs.Text.Numbers
import ClusterInfra.Proofs.Time.Rfc3339
import ClusterInfra.Reconcile.Attempt
import ClusterInfra.Reconcile.Controller
import ClusterInfra.Reconcile.Deletion
import ClusterInfra.Reconcile.Dispatch
import ClusterInfra.Reconcile.Mapping
import ClusterInfra.Reconcile.Normal
import ClusterInfra.Reconcile.Watch
import ClusterInfra.Reconcile.World
import ClusterInfra.Resource.Annotation
import ClusterInfra.Resource.AwsCluster
import ClusterInfra.Resource.Cluster
import ClusterInfra.Resource.Condition
import ClusterInfra.Resource.Definition
import ClusterInfra.Resource.Metadata
import ClusterInfra.Resource.Reference
import ClusterInfra.Resource.Schema
import ClusterInfra.Scope
import ClusterInfra.Service.Call
import ClusterInfra.Service.Cloud
import ClusterInfra.Service.Error
import ClusterInfra.Service.Script
import ClusterInfra.Store.Cache
import ClusterInfra.Store.Changes
import ClusterInfra.Store.Kubernetes
import ClusterInfra.Store.Memory
import ClusterInfra.Store.Table
import ClusterInfra.Text.Blank
import ClusterInfra.Text.Decimal
import ClusterInfra.Text.Digit
import ClusterInfra.Text.Numeral
import ClusterInfra.Text.Scan
import ClusterInfra.Text.Utf8
import ClusterInfra.Time.Instant
import ClusterInfra.Time.Rfc3339
