import ClipFeed.Action
import ClipFeed.Cache.Backend
import ClipFeed.Cache.Call
import ClipFeed.Cache.Codec
import ClipFeed.Cache.Fault
import ClipFeed.Cache.Gateway
import ClipFeed.Cache.Key
import ClipFeed.Cache.Memory
import ClipFeed.Cache.Metric
import ClipFeed.Cache.Opening
import ClipFeed.Cache.Settings
import ClipFeed.CommandLine.Basic
import ClipFeed.CommandLine.Grammar
import ClipFeed.CommandLine.Word
import ClipFeed.Dialogue
import ClipFeed.Feed.Cursor
import ClipFeed.Feed.Failure
import ClipFeed.Feed.Limits
import ClipFeed.Feed.Page
import ClipFeed.Feed.Response
import ClipFeed.Feed.Service
import ClipFeed.Http.Caller
import ClipFeed.Http.Exchange
import ClipFeed.Http.FeedQuery
import ClipFeed.Http.Layers
import ClipFeed.Http.MediaType
import ClipFeed.Http.Refusal
import ClipFeed.Http.Reply
import ClipFeed.Http.Request
import ClipFeed.Http.Route
import ClipFeed.Http.Site
import ClipFeed.Http.Submission
import ClipFeed.Json.Access
import ClipFeed.Json.Ascii
import ClipFeed.Json.Fault
import ClipFeed.Json.Scan
import ClipFeed.Json.Skip
import ClipFeed.Json.Value
import ClipFeed.Log
import ClipFeed.Log.Filter
import ClipFeed.Log.Line
import ClipFeed.Log.Threshold
import ClipFeed.Main
import ClipFeed.Moment.Basic
import ClipFeed.Moment.Calendar
import ClipFeed.Moment.Rfc3339
import ClipFeed.Net.Address
import ClipFeed.Net.Url
import ClipFeed.Number.Shortest
import ClipFeed.Payload.Shape
import ClipFeed.Proofs.Feed.Cursor
import ClipFeed.Proofs.Json.Scan
import ClipFeed.Proofs.Json.Value
import ClipFeed.Proofs.Moment.Calendar
import ClipFeed.Proofs.Moment.Rfc3339
import ClipFeed.Proofs.Text.Ascii
import ClipFeed.Proofs.Text.Base64Url
import ClipFeed.Proofs.Text.Decimal
import ClipFeed.Redis.Address
import ClipFeed.Redis.Client
import ClipFeed.Redis.Command
import ClipFeed.Redis.Refusal
import ClipFeed.Redis.Server
import ClipFeed.Settings.Basic
import ClipFeed.Settings.Draft
import ClipFeed.Settings.Load
import ClipFeed.Settings.Node
import ClipFeed.Settings.Reading
import ClipFeed.Simulation.Schedule
import ClipFeed.Simulation.World
import ClipFeed.Span
import ClipFeed.Sql.Failure
import ClipFeed.Sql.Row
import ClipFeed.Sql.Schema
import ClipFeed.Sql.Script
import ClipFeed.Sql.Site
import ClipFeed.Sql.Statement
import ClipFeed.Sql.Store
import ClipFeed.Startup.Failure
import ClipFeed.Startup.Session
import ClipFeed.Store.Call
import ClipFeed.Store.Fault
import ClipFeed.Store.Memory
import ClipFeed.Text.Base64Url
import ClipFeed.Text.Blank
import ClipFeed.Text.Bytes
import ClipFeed.Text.Class
import ClipFeed.Text.Form
import ClipFeed.Text.Hex
import ClipFeed.Text.Integer
import ClipFeed.Text.Lower
import ClipFeed.Text.Quoted
import ClipFeed.Video.Failure
import ClipFeed.Video.Record
import ClipFeed.Video.Service
import ClipFeed.Video.Submission
import ClipFeed.Viewer
import ClipFeed.Proofs.Payload.RoundTrip
import ClipFeed.Proofs.Cache.Codec
import ClipFeed.Proofs.Cache.Entry
import ClipFeed.Proofs.Cache.Gateway
import ClipFeed.Proofs.Cache.Memory
import ClipFeed.Proofs.Cache.Traffic
import ClipFeed.Proofs.Feed.Scan
import ClipFeed.Proofs.Video.Freshness
import ClipFeed.Proofs.Cache.Alike
import ClipFeed.Proofs.Dialogue.Twins
import ClipFeed.Proofs.Feed.Isolation
import ClipFeed.Proofs.Dialogue.Transcript
import ClipFeed.Proofs.Dialogue.Dropping
import ClipFeed.Proofs.Cache.Outline
import ClipFeed.Proofs.Cache.Course
import ClipFeed.Proofs.Cache.Locking
import ClipFeed.Proofs.Cache.Crowd
import ClipFeed.Proofs.Cache.Exclusion
import ClipFeed.Proofs.Cache.Rush
import ClipFeed.Proofs.Cache.Pace
import ClipFeed.Proofs.Cache.Eras
import ClipFeed.Proofs.Cache.Stampede
import ClipFeed.Proofs.Feed.Token
import ClipFeed.Proofs.Video.Sequence
import ClipFeed.Proofs.Cache.Provenance
import ClipFeed.Proofs.Feed.Stability
import ClipFeed.Proofs.Payload.Writing
import ClipFeed.Proofs.Cache.Keeping
import ClipFeed.Proofs.Cache.Naming
import ClipFeed.Proofs.Cache.Living
import ClipFeed.Proofs.Cache.Expiry
import ClipFeed.Proofs.Redis.Session
import ClipFeed.Proofs.Redis.Agreement
import ClipFeed.Proofs.Text.Blank
import ClipFeed.Proofs.Feed.Normal
import ClipFeed.Proofs.Http.Exchange
import ClipFeed.Proofs.Text.Split
import ClipFeed.Proofs.Http.Feeds
import ClipFeed.Proofs.Sql.Transaction
import ClipFeed.Proofs.Video.Likes
import ClipFeed.Proofs.Store.Authors
import ClipFeed.Proofs.Http.Writes
import ClipFeed.Proofs.Checklist
import ClipFeed.Proofs.Video.Submission
import ClipFeed.Proofs.Net.Address
import ClipFeed.Proofs.Feed.Limits
import ClipFeed.Proofs.Settings.Checking
import ClipFeed.Proofs.Text.Integer
import ClipFeed.Proofs.Http.FeedQuery
import ClipFeed.Proofs.Feed.Sizes
import ClipFeed.Proofs.Http.PageSize
import ClipFeed.Proofs.Cache.Tally
import ClipFeed.Proofs.Cache.Balance
import ClipFeed.Proofs.Sql.Refused
import ClipFeed.Proofs.Http.StoreFaults
import ClipFeed.Proofs.Cache.Logging
import ClipFeed.Proofs.Http.Tagging
import ClipFeed.Proofs.Http.Layers
