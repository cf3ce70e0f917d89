import ChannelLedger.Block.Decode
import ChannelLedger.Block.HeaderHash
import ChannelLedger.Bytes.Basic
import ChannelLedger.Bytes.Hex
import ChannelLedger.Calendar
import ChannelLedger.Certificate.Base64
import ChannelLedger.Certificate.Basic
import ChannelLedger.Certificate.Caller
import ChannelLedger.Certificate.Name
import ChannelLedger.Certificate.Pem
import ChannelLedger.CommandLine.Arguments
import ChannelLedger.CommandLine.Browse
import ChannelLedger.CommandLine.Program
import ChannelLedger.Dashboard.Basic
import ChannelLedger.Dashboard.Json
import ChannelLedger.Der.Fault
import ChannelLedger.Der.Reader
import ChannelLedger.Der.Writer
import ChannelLedger.Hash.Sha2
import ChannelLedger.Hash.Suite
import ChannelLedger.Inspect.Block
import ChannelLedger.Inspect.Slot
import ChannelLedger.Json.Basic
import ChannelLedger.Json.Printer
import ChannelLedger.Json.Reader
import ChannelLedger.Json.Record
import ChannelLedger.Key.Curve
import ChannelLedger.Key.Modular
import ChannelLedger.Key.Named
import ChannelLedger.Key.Public
import ChannelLedger.Ledger.Detail
import ChannelLedger.Ledger.Directory
import ChannelLedger.Ledger.Failure
import ChannelLedger.Ledger.Index
import ChannelLedger.Ledger.Query
import ChannelLedger.Main
import ChannelLedger.Message.Block
import ChannelLedger.Message.Catalogue
import ChannelLedger.Message.Envelope
import ChannelLedger.Message.ReadWriteSet
import ChannelLedger.Message.Timestamp
import ChannelLedger.Message.Transaction
import ChannelLedger.Output.Report
import ChannelLedger.Output.Transcript
import ChannelLedger.Proofs.Ledger.Index
import ChannelLedger.Proofs.Outcome
import ChannelLedger.Proofs.Slot.RoundTrip
import ChannelLedger.Proofs.Walk.ClosedForm
import ChannelLedger.Record.Block
import ChannelLedger.Record.History
import ChannelLedger.Record.Json
import ChannelLedger.Record.ReadWrite
import ChannelLedger.Record.Transaction
import ChannelLedger.Server.Address
import ChannelLedger.Server.Connection
import ChannelLedger.Server.Http
import ChannelLedger.Server.Launch
import ChannelLedger.Server.Live
import ChannelLedger.Server.Message
import ChannelLedger.Server.Page
import ChannelLedger.Server.Site
import ChannelLedger.Server.Watch
import ChannelLedger.Slot.Assemble
import ChannelLedger.Slot.Chaincode
import ChannelLedger.Slot.Envelope
import ChannelLedger.Slot.Failure
import ChannelLedger.Slot.ReadWrites
import ChannelLedger.Terminal.App
import ChannelLedger.Terminal.Screen
import ChannelLedger.Text.Class
import ChannelLedger.Text.Columns
import ChannelLedger.Text.Decimal
import ChannelLedger.Text.Extending
import ChannelLedger.Text.Layout
import ChannelLedger.Text.Percent
import ChannelLedger.Text.Quoted
import ChannelLedger.Text.Unprintable
import ChannelLedger.Text.Utf8
import ChannelLedger.Text.Wide
import ChannelLedger.Text.ZeroWidth
import ChannelLedger.View.Table
import ChannelLedger.Walk.Browse
import ChannelLedger.Walk.Failure
import ChannelLedger.Walk.Form
import ChannelLedger.Walk.Json
import ChannelLedger.Walk.StopRule
import ChannelLedger.Wire.ByteMap
import ChannelLedger.Wire.Fault
import ChannelLedger.Wire.Key
import ChannelLedger.Wire.Message
import ChannelLedger.Wire.Read
import ChannelLedger.Wire.Schema
import ChannelLedger.Wire.Show
import ChannelLedger.Wire.Varint
import ChannelLedger.Wire.Write
import ChannelLedger.Proofs.Walk.Chain
import ChannelLedger.Proofs.Walk.Agreement
import ChannelLedger.Proofs.Text.Utf8
import ChannelLedger.Proofs.Wire.Varint
import ChannelLedger.Proofs.Wire.Encoding
import ChannelLedger.Proofs.Wire.Merge
import ChannelLedger.Proofs.Wire.RoundTrip
import ChannelLedger.Proofs.Slot.Nested
import ChannelLedger.Proofs.Bytes.BigEndian
import ChannelLedger.Proofs.Der.Strict
import ChannelLedger.Proofs.Block.HeaderHash
import ChannelLedger.Proofs.Walk.TipBinding
import ChannelLedger.Proofs.Slot.EntryOrder
import ChannelLedger.Proofs.Slot.FirstFault
import ChannelLedger.Proofs.Bytes.Hex
import ChannelLedger.Proofs.Walk.Course
import ChannelLedger.Proofs.Walk.Account
import ChannelLedger.Proofs.Walk.Target
import ChannelLedger.Proofs.Walk.Cut
import ChannelLedger.Proofs.Inspect.Marks
import ChannelLedger.Proofs.Wire.Skip
import ChannelLedger.Proofs.Wire.Locality
import ChannelLedger.Proofs.Wire.Undeclared
import ChannelLedger.Proofs.Slot.Padding
import ChannelLedger.Proofs.Ledger.Files
import ChannelLedger.Proofs.Server.Acts
import ChannelLedger.Proofs.Server.Refresh
import ChannelLedger.Proofs.Wire.Truncation
import ChannelLedger.Proofs.Slot.Truncation
import ChannelLedger.Proofs.Ledger.Truncation
import ChannelLedger.Proofs.Walk.Cancel
import ChannelLedger.Proofs.Ledger.Overflow
import ChannelLedger.Proofs.Ledger.Detail
import ChannelLedger.Proofs.Terminal.Run
import ChannelLedger.Proofs.Server.Replies
import ChannelLedger.Proofs.Block.DataHash
import ChannelLedger.Proofs.Block.Slots
import ChannelLedger.Proofs.Wire.Growth
import ChannelLedger.Proofs.Slot.ReadWrites
import ChannelLedger.Proofs.Inspect.Verdict
import ChannelLedger.Proofs.Inspect.Links
import ChannelLedger.Proofs.Json.Token
import ChannelLedger.Proofs.Json.Text
import ChannelLedger.Proofs.Json.Record
import ChannelLedger.Proofs.Json.RoundTrip
import ChannelLedger.Proofs.Ledger.Listing
import ChannelLedger.Proofs.Certificate.Base64
import ChannelLedger.Proofs.Certificate.Lines
import ChannelLedger.Proofs.Certificate.Blocks
import ChannelLedger.Proofs.Certificate.Forms
import ChannelLedger.Proofs.Certificate.Rows
import ChannelLedger.Proofs.Certificate.Creator
import ChannelLedger.Proofs.Certificate.Values
import ChannelLedger.Proofs.Der.Reading
import ChannelLedger.Proofs.Certificate.Subject
import ChannelLedger.Proofs.Walk.Termination
import ChannelLedger.Proofs.Calendar.Days
import ChannelLedger.Proofs.Calendar.Text
import ChannelLedger.Proofs.Wire.Concatenation
import ChannelLedger.Proofs.Key.SquareRoot
import ChannelLedger.Proofs.Key.Point
import ChannelLedger.Proofs.Key.Identifier
import ChannelLedger.Proofs.Wire.Boundary
