import QueryBridge.Bridge.Run
import QueryBridge.Log.Message
import QueryBridge.Main
import QueryBridge.Proofs.Text.Percent
import QueryBridge.Proofs.Text.Digits
import QueryBridge.Proofs.Url.Userinfo
import QueryBridge.Proofs.Http.Attempt
import QueryBridge.Proofs.Service.Request
import QueryBridge.Proofs.Bridge.Credentials
import QueryBridge.Proofs.Bridge.Connection
import QueryBridge.Proofs.Bridge.Run
import QueryBridge.Proofs.Bridge.Operation
import QueryBridge.Proofs.Bridge.Acceptance
import QueryBridge.Proofs.Bridge.Refusal
import QueryBridge.Proofs.Template.Locality
import QueryBridge.Proofs.Template.Occurrence
import QueryBridge.Proofs.Text.Split
import QueryBridge.Proofs.Query.Substitution
import QueryBridge.Proofs.Bridge.RecordId
import QueryBridge.Proofs.Http.Concealment
import QueryBridge.Proofs.Log.Redaction
import QueryBridge.Proofs.Service.Concealment
import QueryBridge.Proofs.Bridge.Masking
import QueryBridge.Proofs.Bridge.Twins
import QueryBridge.Proofs.Bridge.Secrecy
import QueryBridge.Proofs.Template.Grammar
import QueryBridge.Proofs.Template.Layout
import QueryBridge.Proofs.Template.Joint
import QueryBridge.Proofs.Query.Commutation
import QueryBridge.Proofs.Query.Escaping
import QueryBridge.Proofs.Http.Redirect
import QueryBridge.Proofs.Service.Settlement
import QueryBridge.Proofs.Bridge.Settlement
import QueryBridge.Proofs.Http.Retry
import QueryBridge.Proofs.Service.Retry
import QueryBridge.Proofs.Service.Classification
import QueryBridge.Proofs.Bridge.Classification
import QueryBridge.Proofs.Url.Segment
import QueryBridge.Proofs.Url.Resource
import QueryBridge.Proofs.Service.Resource
import QueryBridge.Proofs.Url.Endpoint
import QueryBridge.Proofs.Bridge.RecordUrl
import QueryBridge.Proofs.Service.SearchUrl
import QueryBridge.Proofs.Url.Port
import QueryBridge.Proofs.Url.Origin
import QueryBridge.Proofs.Http.Containment
import QueryBridge.Proofs.Service.Containment
import QueryBridge.Log.Setup
import QueryBridge.Proofs.Lists
import QueryBridge.Proofs.Fields
import QueryBridge.Proofs.Log.Handle
import QueryBridge.Proofs.Log.Derivation
import QueryBridge.Proofs.Log.Holding
import QueryBridge.Proofs.Log.History
import QueryBridge.Proofs.Log.Coverage
import QueryBridge.Proofs.Log.Replacement
import QueryBridge.Proofs.Http.Answer
import QueryBridge.Proofs.Service.Records
import QueryBridge.Proofs.Bridge.Knowledge
import QueryBridge.Proofs.Bridge.Exposure
import QueryBridge.Proofs.Json.Number
import QueryBridge.Proofs.Json.Text
import QueryBridge.Proofs.Json.Parts
import QueryBridge.Proofs.Json.Lexing
import QueryBridge.Proofs.Json.RoundTrip
import QueryBridge.Proofs.Json.Admission
import QueryBridge.Proofs.Service.Admission
import QueryBridge.Proofs.Bridge.Document
import QueryBridge.Proofs.Cli.Parameters
import QueryBridge.Proofs.Cli.Refinement
import QueryBridge.Proofs.Cli.Output
import QueryBridge.Proofs.Count
import QueryBridge.Proofs.Bridge.Results
import QueryBridge.Proofs.Record
import QueryBridge.Proofs.Bridge.Projection
import QueryBridge.Proofs.Json.Outside
import QueryBridge.Proofs.Record.Nested
import QueryBridge.Proofs.Authorization
import QueryBridge.Proofs.Datum
import QueryBridge.Proofs.Registry.Document
import QueryBridge.Proofs.Files
import QueryBridge.Proofs.Settings
import QueryBridge.Proofs.Failure
import QueryBridge.Proofs.Yaml.Value
import QueryBridge.Proofs.Files.Lookup
import QueryBridge.Proofs.Registry.Failure
import QueryBridge.Proofs.Cli.Structures
import QueryBridge.Proofs.Template.Rendering
import QueryBridge.Proofs.Property
import QueryBridge.Proofs.Service.DefaultHeaders
import QueryBridge.Proofs.Text.Form
import QueryBridge.Proofs.Query.Form
import QueryBridge.Proofs.Bridge.CountUrl
import QueryBridge.Proofs.Text.Case
import QueryBridge.Proofs.Query.Extraction
import QueryBridge.Proofs.Log.Line
import QueryBridge.Proofs.Log.Configuration
import QueryBridge.Proofs.Service.Trace
import QueryBridge.Proofs.Bridge.Trace
