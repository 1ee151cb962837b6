import Kahea.Base.Effect
import Kahea.Base.Lists
import Kahea.Base.Net
import Kahea.Core.WebSocket
import Kahea.Core.World
import Kahea.Core.Observation
import Kahea.Exec.Checks
import Kahea.Exec.Schema
import Kahea.Exec.Contract
import Kahea.Exec.Redaction
import Kahea.Exec.Authentication
import Kahea.Exec.Invoke
import Kahea.Exec.HostPolicy
import Kahea.Exec.Placement
import Kahea.Exec.Secrecy
import Kahea.Base.Stateful
import Kahea.Exec.Wire
import Kahea.Exec.Session
import Kahea.Exec.Waiting
import Kahea.Exec.Transcript
import Kahea.Exec.WebSocket
import Kahea.Exec.Authority
import Kahea.Exec.Soundness
import Kahea.Exec.Speaking
import Kahea.Exec.Reached
import Kahea.Exec.Budget
import Kahea.Exec.Closing
import Kahea.Exec.Alongside
import Kahea.Exec.Chunking
import Kahea.Exec.Origin
import Kahea.Plan.Configuration
import Kahea.Ingest
import Kahea.Ingest.Resolve
import Kahea.Ingest.Inlining
import Kahea.Ingest.Yaml
import Kahea.Ingest.Addressing
import Kahea.Ingest.AsyncApi
import Kahea.Ingest.Index
import Kahea.Ingest.Selecting
import Kahea.Ingest.Capture
import Kahea.Ingest.Sources
import Kahea.Ingest.Credentials
import Kahea.Ingest.Independence
import Kahea.Plan.Inputs
import Kahea.Plan.Body
import Kahea.Plan.Target
import Kahea.Plan.Request
import Kahea.Exec.Agreement
import Kahea.Plan.References
import Kahea.Ingest.Growth
import Kahea.Ingest.Adding
import Kahea.Ingest.Imported
import Kahea.Ingest.Isolation
import Kahea.Ingest.Defaults
import Kahea.Ingest.Fidelity
import Kahea.Base.UrlParser
import Kahea.Base.Blake3
import Kahea.Base.JsonParser
import Kahea.Core.Reference
import Kahea.Plan.Production
import Kahea.Base.Table
import Kahea.Base.Explore
import Kahea.Base.Template
import Kahea.Plan.Confinement
import Kahea.Plan.Document
import Kahea.Plan.Session
import Kahea.Exec.Boundary
import Kahea.Exec.Gate
import Kahea.Exec.Addresses
import Kahea.Base.Utf8
import Kahea.Base.Query
import Kahea.Base.Redact
import Kahea.Base.Replacing
import Kahea.Core.Workflow
import Kahea.Core.Conformance
import Kahea.Conformance.Campaign
import Kahea.Conformance.Storage
import Kahea.Conformance.Statuses
import Kahea.Conformance.Mutation
import Kahea.Conformance.Parameters
import Kahea.Workflow.Expression
import Kahea.Workflow.Criteria
import Kahea.Workflow.Outside
import Kahea.Workflow.Steps
import Kahea.Workflow.Invoke
import Kahea.Workflow.Sealed
import Kahea.Workflow.Outputs
import Kahea.Mcp.Inspect
import Kahea.Workflow.Pointing
import Kahea.Evidence.Store
import Kahea.Evidence.Export
import Kahea.Evidence.Explain
import Kahea.Core.Decode
import Kahea.Core.Roundtrip
import Kahea.Core.Survival
import Kahea.Base.Writing
import Kahea.Base.Order
import Kahea.Exec.Canonical
import Kahea.Base.Pointer
import Kahea.Base.Search
import Kahea.Base.Base64
import Kahea.Exec.Blanking
import Kahea.Workflow.Condition
import Kahea.Exec.Cookies
import Kahea.Ingest.Shapes
import Kahea.Exec.Remnants
import Kahea.Base.Calls
import Kahea.Base.Parts
import Kahea.Base.Paging
import Kahea.Plan.Recursion
import Kahea.Base.Pieces
import Kahea.Plan.Multipart
import Kahea.Base.Nested
import Kahea.Plan.Reading
import Kahea.Conformance.Generation
import Kahea.Conformance.Selection
import Kahea.Conformance.Integers
import Kahea.Base.Tracing
import Kahea.Base.Triples
import Kahea.Base.Twins
import Kahea.Conformance.Overflow
import Kahea.Conformance.Baseline
import Kahea.Exec.Deadlines
import Kahea.Plan.Limits
import Kahea.Exec.Binding
import Kahea.Exec.Endless
import Kahea.Exec.Framing
import Kahea.Exec.Metering
import Kahea.Exec.Upgrade
import Kahea.Workflow.Keys
import Kahea.Exec.Bodies
import Kahea.Base.Prefixed
import Kahea.Evidence.Handles
import Kahea.Mcp.Arguments
import Kahea.Base.Rewriting
import Kahea.Base.Along
import Kahea.Exec.Exits
import Kahea.Workflow.Attempts
import Kahea.Workflow.Deadline
import Kahea.Workflow.Confined
import Kahea.Workflow.Refusals
import Kahea.Workflow.Retrying
import Kahea.Mcp.Server
import Kahea.Mcp.Unresolved
