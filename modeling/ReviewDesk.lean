import ReviewDesk.CommandLine.Option
import ReviewDesk.CommandLine.Reader
import ReviewDesk.Console.Basic
import ReviewDesk.Console.Board
import ReviewDesk.Console.Dispatch
import ReviewDesk.Console.Picture
import ReviewDesk.Console.Rect
import ReviewDesk.Console.Screen
import ReviewDesk.Console.Style
import ReviewDesk.Console.Wrap
import ReviewDesk.Decimal.Binary64
import ReviewDesk.Decimal.Layout
import ReviewDesk.Decimal.Reader
import ReviewDesk.Decimal.Shortest
import ReviewDesk.Export.Basic
import ReviewDesk.Export.Csv
import ReviewDesk.Export.Disk
import ReviewDesk.Export.Format
import ReviewDesk.Fault
import ReviewDesk.Filter
import ReviewDesk.Headless
import ReviewDesk.Http.Client
import ReviewDesk.Http.Exchange
import ReviewDesk.Http.Resource
import ReviewDesk.Item.Basic
import ReviewDesk.Item.Decoding
import ReviewDesk.Json.Reader
import ReviewDesk.Json.Value
import ReviewDesk.Json.Writer
import ReviewDesk.Main
import ReviewDesk.Paging
import ReviewDesk.Program
import ReviewDesk.Session.Basic
import ReviewDesk.Session.LabelForm
import ReviewDesk.Session.Queue
import ReviewDesk.Session.Selection
import ReviewDesk.Session.Service
import ReviewDesk.Text.Blank
import ReviewDesk.Text.Cluster
import ReviewDesk.Text.Composite
import ReviewDesk.Text.Fit
import ReviewDesk.Text.Glyph
import ReviewDesk.Text.Hexadecimal
import ReviewDesk.Text.Mark
import ReviewDesk.Text.Pictograph
import ReviewDesk.Text.Printable
import ReviewDesk.Text.Quoted
import ReviewDesk.Text.Split
import ReviewDesk.Text.Utf8
import ReviewDesk.Text.Width
import ReviewDesk.Time.Civil
import ReviewDesk.Time.Timestamp
import ReviewDesk.Url.Address
import ReviewDesk.Url.Basic
import ReviewDesk.Url.Domain
import ReviewDesk.Url.Domain.Direction
import ReviewDesk.Url.Domain.Joining
import ReviewDesk.Url.Domain.Label
import ReviewDesk.Url.Domain.Mapping
import ReviewDesk.Url.Endpoint
import ReviewDesk.Url.Percent
import ReviewDesk.Url.Reader
import ReviewDesk.Url.Segment
import ReviewDesk.View
import ReviewDesk.Proofs.Session.History
import ReviewDesk.Proofs.Session.Step
import ReviewDesk.Proofs.Session.Operation
import ReviewDesk.Proofs.Session.OpenItem
import ReviewDesk.Proofs.Session.Latest
import ReviewDesk.Proofs.Console.Run
import ReviewDesk.Proofs.Console.Submitting
import ReviewDesk.Proofs.Console.Awaited
import ReviewDesk.Proofs.Console.InFlight
import ReviewDesk.Proofs.Session.Record
import ReviewDesk.Proofs.Session.Echo
import ReviewDesk.Proofs.Session.Correction
import ReviewDesk.Proofs.Session.Waiting
import ReviewDesk.Proofs.Session.Steady
import ReviewDesk.Proofs.Text.Utf8
import ReviewDesk.Proofs.Url.Addressing
import ReviewDesk.Proofs.Http.Errand
import ReviewDesk.Proofs.Http.Sending
import ReviewDesk.Proofs.Http.SavedLabel
import ReviewDesk.Proofs.Decimal.Whole
import ReviewDesk.Proofs.Json.Number
import ReviewDesk.Proofs.Json.Text
import ReviewDesk.Proofs.Json.Value
import ReviewDesk.Proofs.Json.Document
import ReviewDesk.Proofs.Export.Disk
import ReviewDesk.Proofs.Export.ReadBack
import ReviewDesk.Proofs.Except
import ReviewDesk.Proofs.Export.Table
import ReviewDesk.Proofs.Export.Columns
import ReviewDesk.Proofs.Json.Ordered
import ReviewDesk.Proofs.Item.Shape
import ReviewDesk.Proofs.Item.Alike
import ReviewDesk.Proofs.Http.Documents
import ReviewDesk.Proofs.Http.Loading
import ReviewDesk.Proofs.CommandLine.Needs
import ReviewDesk.Proofs.Headless.Course
import ReviewDesk.Proofs.Text.Trim
import ReviewDesk.Proofs.Decimal.Spelling
import ReviewDesk.Proofs.Session.LabelForm
import ReviewDesk.Proofs.Session.Unsaved
import ReviewDesk.Proofs.Http.Envelope
import ReviewDesk.Proofs.Url.Form
import ReviewDesk.Proofs.Session.Filters
import ReviewDesk.Proofs.Session.Tidy
import ReviewDesk.Proofs.Http.Listing
import ReviewDesk.Proofs.Http.Naming
import ReviewDesk.Proofs.CommandLine.Spelling
import ReviewDesk.Proofs.CommandLine.Line
import ReviewDesk.Proofs.CommandLine.Chain
import ReviewDesk.Proofs.Session.LastPage
import ReviewDesk.Proofs.Decimal.ReadBack
import ReviewDesk.Proofs.Session.PageSize
import ReviewDesk.Proofs.Exact
import ReviewDesk.Proofs.Session.Numbered
import ReviewDesk.Proofs.Session.Offsets
import ReviewDesk.Proofs.Decimal.Rounding
import ReviewDesk.Proofs.Session.NormalForm
import ReviewDesk.Proofs.Session.Prefill
import ReviewDesk.Proofs.Paging
import ReviewDesk.Proofs.Time.Calendar
import ReviewDesk.Proofs.Time.Timestamp
import ReviewDesk.Proofs.Json.Grammar
import ReviewDesk.Proofs.Json.Reading
import ReviewDesk.Proofs.Http.ErrorDetail
import ReviewDesk.Proofs.Headless.Requests
import ReviewDesk.Proofs.Headless.Exported
import ReviewDesk.Proofs.Headless.PostedLabel
import ReviewDesk.Proofs.Export.FileName
import ReviewDesk.Proofs.Console.TableRow
import ReviewDesk.Proofs.Console.Keys
import ReviewDesk.Proofs.Console.Cursor
import ReviewDesk.Proofs.Console.LabelKeys
import ReviewDesk.Proofs.Console.Modes
import ReviewDesk.Proofs.Console.Typing
