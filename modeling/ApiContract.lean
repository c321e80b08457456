import ApiContract.Change
import ApiContract.Cli.Command
import ApiContract.Cli.Options
import ApiContract.Cli.Run
import ApiContract.Config.Error
import ApiContract.Config.Loader
import ApiContract.Config.LogFilter
import ApiContract.Config.Overrides
import ApiContract.Config.Schema
import ApiContract.Config.Validate
import ApiContract.Config.Variables
import ApiContract.Contract.Artifact
import ApiContract.Contract.Compile
import ApiContract.Contract.Discovery
import ApiContract.Contract.Document
import ApiContract.Contract.Endpoint
import ApiContract.Contract.Error
import ApiContract.Contract.Models
import ApiContract.Contract.Order
import ApiContract.Contract.Param
import ApiContract.Contract.Typing
import ApiContract.Crash
import ApiContract.Decimal.Bound
import ApiContract.Decimal.Nearest
import ApiContract.Decimal.Read
import ApiContract.Decimal.Shortest
import ApiContract.Exchange.Request
import ApiContract.Exchange.Script
import ApiContract.Exchange.Setup
import ApiContract.Exchange.Value
import ApiContract.Exchange.View
import ApiContract.Failure
import ApiContract.Files
import ApiContract.Handler
import ApiContract.Http.Address
import ApiContract.Http.Header
import ApiContract.Http.MediaType
import ApiContract.Http.Response
import ApiContract.Http.Status
import ApiContract.Http.Uri
import ApiContract.Json.Access
import ApiContract.Json.Number
import ApiContract.Json.Read
import ApiContract.Json.Record
import ApiContract.Json.Typed
import ApiContract.Json.Value
import ApiContract.Json.Write
import ApiContract.Location
import ApiContract.Main
import ApiContract.Members
import ApiContract.Model.Basic
import ApiContract.Model.FieldType
import ApiContract.Model.Instance
import ApiContract.Model.Stored
import ApiContract.Model.Value
import ApiContract.Path
import ApiContract.Proofs.Cli.Scanning
import ApiContract.Proofs.Config.Layers
import ApiContract.Proofs.Config.Merge
import ApiContract.Proofs.Config.Overrides
import ApiContract.Proofs.Config.Schema
import ApiContract.Proofs.Config.Validate
import ApiContract.Proofs.Contract.Artifact
import ApiContract.Proofs.Contract.Assembly
import ApiContract.Proofs.Contract.Cache
import ApiContract.Proofs.Contract.Closure
import ApiContract.Proofs.Contract.Compile
import ApiContract.Proofs.Contract.Dependency
import ApiContract.Proofs.Contract.Discovery
import ApiContract.Proofs.Contract.Flattening
import ApiContract.Proofs.Contract.Inhabited
import ApiContract.Proofs.Contract.Inheritance
import ApiContract.Proofs.Contract.Models
import ApiContract.Proofs.Contract.Order
import ApiContract.Proofs.Contract.Signature
import ApiContract.Proofs.Contract.Stubs
import ApiContract.Proofs.Contract.Supported
import ApiContract.Proofs.Decimal.Digits
import ApiContract.Proofs.Decimal.Finite
import ApiContract.Proofs.Decimal.Numeral
import ApiContract.Proofs.Decimal.Plain
import ApiContract.Proofs.Fallible
import ApiContract.Proofs.Files
import ApiContract.Proofs.Json.Ordered
import ApiContract.Proofs.Json.Text
import ApiContract.Proofs.Json.Typed
import ApiContract.Proofs.Json.Value
import ApiContract.Proofs.Location
import ApiContract.Proofs.Members
import ApiContract.Proofs.Model.Agreement
import ApiContract.Proofs.Model.Conformance
import ApiContract.Proofs.Model.Difference
import ApiContract.Proofs.Model.Form
import ApiContract.Proofs.Model.Language
import ApiContract.Proofs.Model.Leniency
import ApiContract.Proofs.Model.Ownership
import ApiContract.Proofs.Model.Presence
import ApiContract.Proofs.Model.Reading
import ApiContract.Proofs.Model.RoundTrip
import ApiContract.Proofs.Model.Setting
import ApiContract.Proofs.Model.Stored
import ApiContract.Proofs.Model.Truncation
import ApiContract.Proofs.Model.Uploads
import ApiContract.Proofs.Model.WellTyped
import ApiContract.Proofs.Model.Widening
import ApiContract.Proofs.Model.Writing
import ApiContract.Proofs.Registration
import ApiContract.Proofs.Registry
import ApiContract.Proofs.Request.Defaults
import ApiContract.Proofs.Request.Delivery
import ApiContract.Proofs.Request.Extraction
import ApiContract.Proofs.Request.Multipart
import ApiContract.Proofs.Request.Params
import ApiContract.Proofs.Service.Acceptance
import ApiContract.Proofs.Service.Building
import ApiContract.Proofs.Service.Captures
import ApiContract.Proofs.Service.Conformance
import ApiContract.Proofs.Service.Drain
import ApiContract.Proofs.Service.Exits
import ApiContract.Proofs.Service.Forwarding
import ApiContract.Proofs.Service.Guard
import ApiContract.Proofs.Service.Invocation
import ApiContract.Proofs.Service.Outcome
import ApiContract.Proofs.Service.Pattern
import ApiContract.Proofs.Service.Renaming
import ApiContract.Proofs.Service.Reports
import ApiContract.Proofs.Service.RequestId
import ApiContract.Proofs.Service.Resolution
import ApiContract.Proofs.Service.Routes
import ApiContract.Proofs.Service.Shape
import ApiContract.Proofs.Service.Startup
import ApiContract.Proofs.Service.Template
import ApiContract.Proofs.Stamps
import ApiContract.Proofs.Text.Blank
import ApiContract.Proofs.Text.Hex
import ApiContract.Proofs.Text.OsString
import ApiContract.Proofs.Text.Percent
import ApiContract.Proofs.Text.Regex
import ApiContract.Proofs.Text.Split
import ApiContract.Proofs.Text.Utf8
import ApiContract.Proofs.Time.Stored
import ApiContract.Proofs.Time.Timestamp
import ApiContract.Proofs.Toml
import ApiContract.Proofs.Uuid
import ApiContract.Registry
import ApiContract.Request.Caller
import ApiContract.Request.Context
import ApiContract.Request.ExtractionError
import ApiContract.Request.Multipart
import ApiContract.Request.Params
import ApiContract.Request.Payload
import ApiContract.Request.Urlencoded
import ApiContract.Service.App
import ApiContract.Service.Auth
import ApiContract.Service.Chain
import ApiContract.Service.Client
import ApiContract.Service.Dispatch
import ApiContract.Service.Drain
import ApiContract.Service.Expect
import ApiContract.Service.Ping
import ApiContract.Service.Routes
import ApiContract.Service.Settings
import ApiContract.Service.Template
import ApiContract.Text.Blank
import ApiContract.Text.Case
import ApiContract.Text.Hex
import ApiContract.Text.Hidden
import ApiContract.Text.OsString
import ApiContract.Text.Percent
import ApiContract.Text.Quoted
import ApiContract.Text.Ranges
import ApiContract.Text.Regex
import ApiContract.Text.Utf8
import ApiContract.Text.Word
import ApiContract.Time.Date
import ApiContract.Time.Instant
import ApiContract.Time.Pattern
import ApiContract.Time.Span
import ApiContract.Toml.Read
import ApiContract.Toml.Scalar
import ApiContract.Toml.Table
import ApiContract.Uuid
import ApiContract.Yaml.Node
import ApiContract.Yaml.Place
import ApiContract.Yaml.Read
import ApiContract.Yaml.Record
import ApiContract.Yaml.Scalar
import ApiContract.Yaml.Value
