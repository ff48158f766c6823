import PlaybackRelay.Agent.Analysis
import PlaybackRelay.Agent.Basic
import PlaybackRelay.Agent.Browser
import PlaybackRelay.Agent.Platform
import PlaybackRelay.Agent.Robot
import PlaybackRelay.Agent.Version
import PlaybackRelay.Device.Model
import PlaybackRelay.Duration
import PlaybackRelay.Event.Basic
import PlaybackRelay.Event.Decode
import PlaybackRelay.Event.Enrichment
import PlaybackRelay.Failure.Category
import PlaybackRelay.Failure.Restriction
import PlaybackRelay.Health.Router
import PlaybackRelay.Health.Target
import PlaybackRelay.Json.Basic
import PlaybackRelay.Json.Double
import PlaybackRelay.Json.Encoding
import PlaybackRelay.Json.Number
import PlaybackRelay.Json.Read
import PlaybackRelay.Json.Record
import PlaybackRelay.Json.Scan
import PlaybackRelay.Json.Skip
import PlaybackRelay.Main
import PlaybackRelay.Media.Origin
import PlaybackRelay.Media.Urn
import PlaybackRelay.Metrics.Basic
import PlaybackRelay.Network.Exchange
import PlaybackRelay.Network.Request
import PlaybackRelay.Network.Status
import PlaybackRelay.Payload.Integers
import PlaybackRelay.Pipeline.Calls
import PlaybackRelay.Pipeline.Lifecycle
import PlaybackRelay.Pipeline.Parts
import PlaybackRelay.Pipeline.Progress
import PlaybackRelay.Pipeline.Run
import PlaybackRelay.Pipeline.World
import PlaybackRelay.Proofs.Event.Document
import PlaybackRelay.Proofs.Event.Receive
import PlaybackRelay.Proofs.Event.WellFormed
import PlaybackRelay.Proofs.Event.Written
import PlaybackRelay.Proofs.Json.Integer
import PlaybackRelay.Proofs.Json.Members
import PlaybackRelay.Proofs.Json.Record
import PlaybackRelay.Proofs.Json.Reread
import PlaybackRelay.Proofs.Json.Skip
import PlaybackRelay.Proofs.Json.Text
import PlaybackRelay.Proofs.Json.Tokens
import PlaybackRelay.Proofs.Json.WellFormed
import PlaybackRelay.Proofs.Pipeline.Conservation
import PlaybackRelay.Proofs.Pipeline.Counting
import PlaybackRelay.Proofs.Pipeline.Handover
import PlaybackRelay.Proofs.Pipeline.Ledger
import PlaybackRelay.Proofs.Pipeline.Schedules
import PlaybackRelay.Proofs.Pipeline.Steps
import PlaybackRelay.Proofs.Queue
import PlaybackRelay.Proofs.Queue.Order
import PlaybackRelay.Proofs.Session.Calls
import PlaybackRelay.Proofs.Session.Capacity
import PlaybackRelay.Proofs.Session.Conservation
import PlaybackRelay.Proofs.Session.Correlation
import PlaybackRelay.Proofs.Stats.Counts
import PlaybackRelay.Proofs.Store.Bulk
import PlaybackRelay.Proofs.Stream.Framing
import PlaybackRelay.Proofs.Stream.Script
import PlaybackRelay.Proofs.Stream.Steps
import PlaybackRelay.Proofs.Text.Utf8
import PlaybackRelay.Queue
import PlaybackRelay.Queue.Handoff
import PlaybackRelay.Relay
import PlaybackRelay.Session.Cache
import PlaybackRelay.Session.Correlator
import PlaybackRelay.Settings.Basic
import PlaybackRelay.Settings.Limits
import PlaybackRelay.Settings.Reading
import PlaybackRelay.Stats.Basic
import PlaybackRelay.Stats.Counter
import PlaybackRelay.Stats.Report
import PlaybackRelay.Store.Bulk
import PlaybackRelay.Store.Reply
import PlaybackRelay.Store.Save
import PlaybackRelay.Stream.Backoff
import PlaybackRelay.Stream.Connection
import PlaybackRelay.Stream.Framing
import PlaybackRelay.Stream.Task
import PlaybackRelay.Text.Blank
import PlaybackRelay.Text.Decimal
import PlaybackRelay.Text.LowerCase
import PlaybackRelay.Text.Search
import PlaybackRelay.Text.Table
import PlaybackRelay.Text.Utf16
import PlaybackRelay.Text.Utf8
import PlaybackRelay.Text.Word
import PlaybackRelay.Url.Address
import PlaybackRelay.Url.Basic
import PlaybackRelay.Url.Domain.Ascii
import PlaybackRelay.Url.Domain.Composition
import PlaybackRelay.Url.Domain.Direction
import PlaybackRelay.Url.Domain.Joining
import PlaybackRelay.Url.Domain.Mapping
import PlaybackRelay.Url.Domain.Punycode
import PlaybackRelay.Url.Host
import PlaybackRelay.Url.Path
import PlaybackRelay.Proofs.Queue.Handoff
import PlaybackRelay.Proofs.Duration
import PlaybackRelay.Proofs.Stream.Backoff
import PlaybackRelay.Proofs.Stream.Accounting
import PlaybackRelay.Proofs.Event.Footprint
import PlaybackRelay.Proofs.Event.Reordering
import PlaybackRelay.Proofs.Event.Idempotence
import PlaybackRelay.Proofs.Session.Accounting
import PlaybackRelay.Proofs.Session.Recency
import PlaybackRelay.Pipeline.Operation
import PlaybackRelay.Proofs.Pipeline.Writers
import PlaybackRelay.Proofs.Pipeline.Lifecycle
import PlaybackRelay.Proofs.Session.Interchange
import PlaybackRelay.Proofs.Event.Frame
import PlaybackRelay.Proofs.Json.Source
import PlaybackRelay.Proofs.Json.Spelling
import PlaybackRelay.Proofs.Stream.RoundTrip
import PlaybackRelay.Proofs.Json.Recognition
import PlaybackRelay.Proofs.Json.Denotation
import PlaybackRelay.Proofs.Json.Filling
import PlaybackRelay.Proofs.Event.Drafts
import PlaybackRelay.Proofs.Event.Rewriting
import PlaybackRelay.Proofs.Json.Passage
import PlaybackRelay.Proofs.Metrics.Series
import PlaybackRelay.Proofs.Stats.Records
import PlaybackRelay.Proofs.Store.Refusals
import PlaybackRelay.Proofs.Settings.Limits
import PlaybackRelay.Proofs.Text.Search
import PlaybackRelay.Proofs.Failure.WebLog
import PlaybackRelay.Proofs.Payload.Integers
import PlaybackRelay.Proofs.Event.Explanation
import PlaybackRelay.Proofs.Text.Folding
import PlaybackRelay.Proofs.Text.Word
import PlaybackRelay.Proofs.Media.Urn
import PlaybackRelay.Proofs.Failure.Causes
import PlaybackRelay.Proofs.Text.Trim
import PlaybackRelay.Proofs.Agent.Crawler
import PlaybackRelay.Proofs.Agent.Verdict
import PlaybackRelay.Proofs.Agent.Comments
import PlaybackRelay.Proofs.Agent.Fields
import PlaybackRelay.Proofs.Url.Query
import PlaybackRelay.Proofs.Media.Origin
import PlaybackRelay.Proofs.Stats.Reports
import PlaybackRelay.Proofs.Text.Edit
import PlaybackRelay.Proofs.Failure.Restriction
import PlaybackRelay.Proofs.Duration.Words
import PlaybackRelay.Proofs.Stats.Latency
import PlaybackRelay.Proofs.Settings.Grammar
import PlaybackRelay.Proofs.Settings.Reading
import PlaybackRelay.Proofs.Settings.Faults
