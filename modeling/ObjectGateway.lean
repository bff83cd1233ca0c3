import ObjectGateway.Checksum
import ObjectGateway.CommandLine
import ObjectGateway.Config.Basic
import ObjectGateway.Config.Json
import ObjectGateway.Config.Read
import ObjectGateway.Config.Secret
import ObjectGateway.Config.Validate
import ObjectGateway.Decimal
import ObjectGateway.Failure
import ObjectGateway.Flow
import ObjectGateway.Gateway.Basic
import ObjectGateway.Gateway.Delete
import ObjectGateway.Gateway.Effect
import ObjectGateway.Gateway.Get
import ObjectGateway.Gateway.Path
import ObjectGateway.Gateway.Put
import ObjectGateway.Gateway.Record
import ObjectGateway.Hook.Call
import ObjectGateway.Hook.Event
import ObjectGateway.Hook.Queue
import ObjectGateway.Http.Body
import ObjectGateway.Http.Header
import ObjectGateway.Http.Input
import ObjectGateway.Http.Page
import ObjectGateway.Http.Responder
import ObjectGateway.Http.Response
import ObjectGateway.Http.Service
import ObjectGateway.Http.Uri
import ObjectGateway.Json
import ObjectGateway.LocalFiles
import ObjectGateway.Main
import ObjectGateway.Metrics
import ObjectGateway.Multipart
import ObjectGateway.Pattern.Expand
import ObjectGateway.Pattern.Reader
import ObjectGateway.Pattern.Search
import ObjectGateway.Pattern.Size
import ObjectGateway.Pattern.Tree
import ObjectGateway.Provider.Address
import ObjectGateway.Provider.Call
import ObjectGateway.Provider.Signed
import ObjectGateway.Provider.Store
import ObjectGateway.Registry
import ObjectGateway.Request
import ObjectGateway.Rewrite
import ObjectGateway.Router
import ObjectGateway.Store.Call
import ObjectGateway.Store.Listing
import ObjectGateway.Store.Memory
import ObjectGateway.Store.Object
import ObjectGateway.Template.Engine
import ObjectGateway.Template.Filter
import ObjectGateway.Template.HumanSize
import ObjectGateway.Template.Operator
import ObjectGateway.Template.Reader
import ObjectGateway.Template.Render
import ObjectGateway.Template.Token
import ObjectGateway.Template.Tree
import ObjectGateway.Template.Value
import ObjectGateway.Text.Blank
import ObjectGateway.Text.CaseFold
import ObjectGateway.Text.CaseMap
import ObjectGateway.Text.Category
import ObjectGateway.Text.Percent
import ObjectGateway.Text.Property
import ObjectGateway.Text.Quoted
import ObjectGateway.Text.RangeTable
import ObjectGateway.Text.Script
import ObjectGateway.Text.Split
import ObjectGateway.Text.Utf8
import ObjectGateway.TextMap
import ObjectGateway.Time.Civil
import ObjectGateway.Time.Instant
import ObjectGateway.Time.Read
import ObjectGateway.Timespan.Basic
import ObjectGateway.Timespan.Fraction
import ObjectGateway.Timespan.Read
import ObjectGateway.Yaml.Cursor
import ObjectGateway.Yaml.Document
import ObjectGateway.Yaml.Node
import ObjectGateway.Yaml.Scalar
import ObjectGateway.Yaml.Token
import ObjectGateway.Proofs.Conversation
import ObjectGateway.Proofs.Gateway.Exchange
import ObjectGateway.Proofs.Gateway.Runs
import ObjectGateway.Proofs.Gateway.Reads
import ObjectGateway.Proofs.Failure
import ObjectGateway.Proofs.Config.Valid
import ObjectGateway.Proofs.Gateway.Metadata
import ObjectGateway.Proofs.Gateway.Override
import ObjectGateway.Proofs.Store.Memory
import ObjectGateway.Proofs.Gateway.Serving
import ObjectGateway.Proofs.Gateway.Mutation
import ObjectGateway.Proofs.Gateway.Addressing
import ObjectGateway.Proofs.Reload
import ObjectGateway.Proofs.Store.Listing
import ObjectGateway.Proofs.Text.Split
import ObjectGateway.Proofs.Text.Utf8
import ObjectGateway.Proofs.Text.Percent
import ObjectGateway.Proofs.Store.Delimited
import ObjectGateway.Proofs.Hook.Attempts
import ObjectGateway.Proofs.Hook.Delivery
import ObjectGateway.Proofs.Hook.Pool
import ObjectGateway.Proofs.Multipart.Parts
import ObjectGateway.Proofs.Multipart.Boundary
import ObjectGateway.Proofs.Multipart.Lines
import ObjectGateway.Proofs.Multipart.Form
import ObjectGateway.Proofs.Http.Responses
import ObjectGateway.Proofs.Gateway.Events
import ObjectGateway.Proofs.Gateway.Mirror
import ObjectGateway.Proofs.Http.Paths
import ObjectGateway.Proofs.Gateway.Links
import ObjectGateway.Proofs.Gateway.Keys
import ObjectGateway.Proofs.Gateway.Confinement
import ObjectGateway.Proofs.Routing
import ObjectGateway.Proofs.Config.Dependable
import ObjectGateway.Proofs.Http.Pages
import ObjectGateway.Proofs.Http.Exchange
import ObjectGateway.Proofs.Gateway.Redirects
import ObjectGateway.Proofs.Http.Redirects
import ObjectGateway.Proofs.Http.Folders
import ObjectGateway.Proofs.Http.Counters
import ObjectGateway.Proofs.Http.Gates
import ObjectGateway.Proofs.Http.Hosts
import ObjectGateway.Proofs.Config.Secrets
import ObjectGateway.Proofs.Http.Fallback
import ObjectGateway.Proofs.Text.Markup
import ObjectGateway.Proofs.Template.Members
import ObjectGateway.Proofs.Template.Rendering
import ObjectGateway.Proofs.Template.Tokens
import ObjectGateway.Proofs.Http.Pieces
import ObjectGateway.Proofs.Http.Embedded
import ObjectGateway.Proofs.Interleaving
import ObjectGateway.Proofs.Gateway.Uploads
import ObjectGateway.Proofs.Gateway.Refusals
import ObjectGateway.Proofs.Gateway.Decisions
import ObjectGateway.Proofs.Http.Reloading
import ObjectGateway.Proofs.Store.Fetches
import ObjectGateway.Proofs.Timespan.Numerals
import ObjectGateway.Proofs.Timespan.Reading
import ObjectGateway.Proofs.Timespan.Components
import ObjectGateway.Proofs.Timespan.Fractions
import ObjectGateway.Proofs.Timespan.Sums
import ObjectGateway.Proofs.Timespan.Cuts
import ObjectGateway.Proofs.Config.Spans
import ObjectGateway.Proofs.Gateway.Shapes
import ObjectGateway.Proofs.Gateway.Described
import ObjectGateway.Proofs.Provider.Calls
import ObjectGateway.Proofs.Http.Failures
import ObjectGateway.Proofs.Text.Lines
import ObjectGateway.Proofs.Pattern.Fragments
import ObjectGateway.Proofs.Pattern.Threads
import ObjectGateway.Proofs.Pattern.Leftmost
import ObjectGateway.Proofs.DecidingRule
import ObjectGateway.Proofs.Time.Calendar
import ObjectGateway.Proofs.Time.Timestamps
import ObjectGateway.Proofs.Gateway.IndexDocuments
import ObjectGateway.Proofs.Multipart.Filenames
import ObjectGateway.Proofs.Http.StoredKeys
import ObjectGateway.Proofs.Time.Dates
import ObjectGateway.Proofs.Time.HeaderDates
import ObjectGateway.Proofs.Http.Dates
import ObjectGateway.Proofs.Gateway.Joins
import ObjectGateway.Proofs.Hook.Headers
import ObjectGateway.Proofs.Http.Files
import ObjectGateway.Proofs.Store.Agreement
import ObjectGateway.Proofs.Multipart.Scanning
