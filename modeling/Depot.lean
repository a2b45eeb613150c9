import Depot.Access.Entry
import Depot.Access.Pattern
import Depot.Address.Basic
import Depot.Address.Reader
import Depot.Artifact
import Depot.Attachment
import Depot.Attachment.Reader
import Depot.Body.Multipart
import Depot.Body.Reader
import Depot.Body.Shape
import Depot.Bytes
import Depot.Calendar.Date
import Depot.Calendar.HttpDate
import Depot.Calendar.Moment
import Depot.Diagnostic
import Depot.Digest.Sha256
import Depot.Download.Ask
import Depot.Download.Choice
import Depot.Download.Head
import Depot.Feed.Buffered
import Depot.Feed.Delivery
import Depot.Feed.Queue
import Depot.Feed.Traffic
import Depot.Fields
import Depot.Files.Handle
import Depot.Files.Log
import Depot.Files.Path
import Depot.Files.Tree
import Depot.Head
import Depot.IoError
import Depot.Json.Basic
import Depot.Json.Reader
import Depot.Main
import Depot.Method
import Depot.Named
import Depot.Number.Double
import Depot.Number.Power
import Depot.Number.Rounding
import Depot.Number.Shortest
import Depot.Number.Signed
import Depot.Proofs.Access.Expansion
import Depot.Proofs.Access.Format
import Depot.Proofs.Access.Line
import Depot.Proofs.Access.Record
import Depot.Proofs.Access.Substitution
import Depot.Proofs.Attachment.Disposition
import Depot.Proofs.Attachment.Reading
import Depot.Proofs.Body.Alike
import Depot.Proofs.Body.Arithmetic
import Depot.Proofs.Body.Cutting
import Depot.Proofs.Body.Framing
import Depot.Proofs.Body.Labels
import Depot.Proofs.Body.Progress
import Depot.Proofs.Body.Reading
import Depot.Proofs.Body.Recorded
import Depot.Proofs.Body.Written
import Depot.Proofs.Calendar.Day
import Depot.Proofs.Calendar.HttpDate
import Depot.Proofs.Download.Complete
import Depot.Proofs.Download.Description
import Depot.Proofs.Download.Head
import Depot.Proofs.Download.Name
import Depot.Proofs.Download.Parts
import Depot.Proofs.Download.Resumption
import Depot.Proofs.Download.Tiling
import Depot.Proofs.Download.Unreadable
import Depot.Proofs.Feed.Delivery
import Depot.Proofs.Feed.Queue
import Depot.Proofs.Feed.Traffic
import Depot.Proofs.Json.Reading
import Depot.Proofs.Range.Arithmetic
import Depot.Proofs.Range.Malformed
import Depot.Proofs.Range.Meaning
import Depot.Proofs.Range.ReadBack
import Depot.Proofs.Range.Reading
import Depot.Proofs.Range.Rendering
import Depot.Proofs.Service.Answered
import Depot.Proofs.Service.Checksum
import Depot.Proofs.Service.Confined
import Depot.Proofs.Service.Exchange
import Depot.Proofs.Service.Mirror
import Depot.Proofs.Service.Recorded
import Depot.Proofs.Service.Streaming
import Depot.Proofs.Store.Confined
import Depot.Proofs.Store.Memory
import Depot.Proofs.Stream.Accounted
import Depot.Proofs.Stream.Arithmetic
import Depot.Proofs.Stream.Chunks
import Depot.Proofs.Stream.Copy
import Depot.Proofs.Stream.Milestones
import Depot.Proofs.Stream.Patience
import Depot.Proofs.Stream.Series
import Depot.Proofs.Stream.Shipment
import Depot.Proofs.Stream.Sink
import Depot.Proofs.Stream.Source
import Depot.Proofs.Stream.Tally
import Depot.Proofs.Stream.Unreported
import Depot.Proofs.Text.Numeral
import Depot.Proofs.Text.Plain
import Depot.Range.Grammar
import Depot.Range.Header
import Depot.Range.Spec
import Depot.Range.Window
import Depot.Reply
import Depot.Request.Basic
import Depot.Request.Percent
import Depot.Request.Target
import Depot.Service.Access
import Depot.Service.Answer
import Depot.Service.Basic
import Depot.Service.Exchange
import Depot.Settings.Basic
import Depot.Settings.KeyPath
import Depot.Settings.Load
import Depot.Settings.Source
import Depot.Settings.Value
import Depot.Store.Archive
import Depot.Store.Lookup
import Depot.Store.Shelf
import Depot.Stream.Conduct
import Depot.Stream.Copy
import Depot.Stream.Progress
import Depot.Stream.Sink
import Depot.Stream.Source
import Depot.Text.Affix
import Depot.Text.Decimal
import Depot.Text.Hexadecimal
import Depot.Text.Utf8
import Depot.Toml.Basic
import Depot.Toml.Moment
import Depot.Toml.Number
import Depot.Toml.Quoted
import Depot.Toml.Reader
import Depot.Toml.Table
import Depot.Toml.Tagged
