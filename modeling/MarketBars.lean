import MarketBars.Archive.Feature
import MarketBars.Archive.Folder
import MarketBars.Archive.Instrument
import MarketBars.Archive.Snapshot
import MarketBars.Backend
import MarketBars.Calendar.Date
import MarketBars.Calendar.Instant
import MarketBars.Calendar.Pattern
import MarketBars.Calendar.Text
import MarketBars.CommandLine.Arguments
import MarketBars.CommandLine.Command
import MarketBars.CommandLine.Program
import MarketBars.DataError
import MarketBars.Diagnostic
import MarketBars.Disclosure
import MarketBars.Distinct
import MarketBars.Files.Path
import MarketBars.Files.Tree
import MarketBars.Frequency
import MarketBars.Gateway.Call
import MarketBars.Gateway.Envelope
import MarketBars.Gateway.Session
import MarketBars.Http.Address
import MarketBars.Http.DomainName
import MarketBars.Http.FoldingTable
import MarketBars.Http.Host
import MarketBars.Http.NumericHost
import MarketBars.Http.Percent
import MarketBars.Http.Status
import MarketBars.Http.Transport
import MarketBars.Json.Excerpt
import MarketBars.Json.Exchange
import MarketBars.Json.Label
import MarketBars.Json.Panel
import MarketBars.Json.Printer
import MarketBars.Json.Reader
import MarketBars.Json.Report
import MarketBars.Json.Request
import MarketBars.Json.Settings
import MarketBars.Json.Tagged
import MarketBars.Json.Value
import MarketBars.Main
import MarketBars.Number.Binary32
import MarketBars.Number.Binary64
import MarketBars.Number.BinaryFormat
import MarketBars.Number.Power
import MarketBars.Number.Shortest
import MarketBars.Panel.Cube
import MarketBars.Panel.History
import MarketBars.Panel.Series
import MarketBars.Pipeline
import MarketBars.PriceField
import MarketBars.ProgramEnd
import MarketBars.Proofs.Archive.Alignment
import MarketBars.Proofs.Archive.Answering
import MarketBars.Proofs.Archive.Codec
import MarketBars.Proofs.Archive.Construction
import MarketBars.Proofs.Archive.Disclosed
import MarketBars.Proofs.Archive.Extent
import MarketBars.Proofs.Archive.Instrument
import MarketBars.Proofs.Archive.Interference
import MarketBars.Proofs.Archive.Listings
import MarketBars.Proofs.Archive.Loaded
import MarketBars.Proofs.Archive.Loading
import MarketBars.Proofs.Archive.Membership
import MarketBars.Proofs.Archive.NonDisclosure
import MarketBars.Proofs.Archive.Overflow
import MarketBars.Proofs.Archive.PriceColumns
import MarketBars.Proofs.Archive.Serving
import MarketBars.Proofs.Archive.SingleValue
import MarketBars.Proofs.Archive.Slicing
import MarketBars.Proofs.Calendar.Millis
import MarketBars.Proofs.Calendar.Order
import MarketBars.Proofs.Calendar.Stamps
import MarketBars.Proofs.Disclosure.CalendarEnds
import MarketBars.Proofs.Disclosure.Completeness
import MarketBars.Proofs.Disclosure.Cut
import MarketBars.Proofs.Disclosure.FixedPoint
import MarketBars.Proofs.Disclosure.Growth
import MarketBars.Proofs.Disclosure.SingleBar
import MarketBars.Proofs.Files.Content
import MarketBars.Proofs.Files.Walk
import MarketBars.Proofs.Gateway.Attempts
import MarketBars.Proofs.Gateway.Pages
import MarketBars.Proofs.Json.Labels
import MarketBars.Proofs.Json.Members
import MarketBars.Proofs.Json.ReadBack
import MarketBars.Proofs.Number.Rounding
import MarketBars.Proofs.Number.Single
import MarketBars.Proofs.Number.Values
import MarketBars.Proofs.Panel.Assembly
import MarketBars.Proofs.Panel.Joining
import MarketBars.Proofs.Panel.LabelCount
import MarketBars.Proofs.Panel.Positions
import MarketBars.Proofs.Panel.Reindexing
import MarketBars.Proofs.Panel.RowMajor
import MarketBars.Proofs.Panel.Scatter
import MarketBars.Proofs.Panel.Shown
import MarketBars.Proofs.Pipeline.Collapse
import MarketBars.Proofs.Pipeline.Comparison
import MarketBars.Proofs.Pipeline.Contract
import MarketBars.Proofs.Pipeline.Gathering
import MarketBars.Proofs.Pipeline.Growth
import MarketBars.Proofs.Pipeline.Missing
import MarketBars.Proofs.Pipeline.Observation
import MarketBars.Proofs.Pipeline.Pointwise
import MarketBars.Proofs.Pipeline.Renaming
import MarketBars.Proofs.Quote.FirstArrivals
import MarketBars.Proofs.Quote.NonDisclosure
import MarketBars.Proofs.Quote.Notes
import MarketBars.Proofs.Quote.Paging
import MarketBars.Proofs.Quote.Received
import MarketBars.Proofs.Quote.Refusals
import MarketBars.Proofs.Quote.Sessions
import MarketBars.Proofs.Sorting
import MarketBars.Proofs.Table.Copying
import MarketBars.Proofs.Table.Cut
import MarketBars.Proofs.Table.Dedup
import MarketBars.Proofs.Table.Disclosed
import MarketBars.Proofs.Table.Reading
import MarketBars.Proofs.Table.Steps
import MarketBars.Provider
import MarketBars.Quote.Broker
import MarketBars.Quote.Kline
import MarketBars.Quote.Paging
import MarketBars.Quote.Source
import MarketBars.Request
import MarketBars.Session
import MarketBars.Settings
import MarketBars.Table.Basic
import MarketBars.Table.Cell
import MarketBars.Text.Blank
import MarketBars.Text.CaseTable
import MarketBars.Text.CodeRange
import MarketBars.Text.CodeRun
import MarketBars.Text.Composition
import MarketBars.Text.CompositionTable
import MarketBars.Text.Delimited
import MarketBars.Text.Digit
import MarketBars.Text.DirectionTable
import MarketBars.Text.Hex
import MarketBars.Text.Lowercase
import MarketBars.Text.MarkTable
import MarketBars.Text.Pieces
import MarketBars.Text.PrintTable
import MarketBars.Text.Punycode
import MarketBars.Text.Quoted
import MarketBars.Ticker
import MarketBars.Toml.Reader
import MarketBars.Toml.Scalar
import MarketBars.Toml.Settings
import MarketBars.Toml.Value
