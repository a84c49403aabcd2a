import PullStreams.Bench.Callback
import PullStreams.Bench.Compression
import PullStreams.Bench.Files
import PullStreams.Bench.Session
import PullStreams.Bench.Sink
import PullStreams.Bench.Stream
import PullStreams.ByteReader
import PullStreams.ByteWriter
import PullStreams.Codec.Basic
import PullStreams.Codec.Buffered
import PullStreams.Codec.Checksum
import PullStreams.Codec.Deflate.Bits
import PullStreams.Codec.Deflate.Delivery
import PullStreams.Codec.Deflate.Huffman
import PullStreams.Codec.Deflate.Inflate
import PullStreams.Codec.Gzip
import PullStreams.Codec.LittleEndian
import PullStreams.Codec.Packed
import PullStreams.Codec.Standard
import PullStreams.Codec.Zstd
import PullStreams.Codec.Zstd.Early
import PullStreams.Codec.Zstd.Flow
import PullStreams.Codec.Zstd.Frame
import PullStreams.Codec.Zstd.Header
import PullStreams.Consume
import PullStreams.Csv.Decode
import PullStreams.Csv.Encode
import PullStreams.Csv.Fault
import PullStreams.Csv.Format
import PullStreams.Csv.Row
import PullStreams.Csv.Rows
import PullStreams.Csv.Source
import PullStreams.Decimal.Binary
import PullStreams.Decimal.Notation
import PullStreams.Decimal.Numeral
import PullStreams.Deque
import PullStreams.Directory
import PullStreams.Double.Codec
import PullStreams.Double.Cursor
import PullStreams.Double.Expect
import PullStreams.Double.Reader
import PullStreams.Double.Sink
import PullStreams.Double.Source
import PullStreams.Double.Supply
import PullStreams.Double.Writer
import PullStreams.Entry
import PullStreams.Fault
import PullStreams.Files
import PullStreams.Items
import PullStreams.Json.Cursor
import PullStreams.Json.Decode
import PullStreams.Json.Encode
import PullStreams.Json.Fault
import PullStreams.Json.Format
import PullStreams.Json.Lines
import PullStreams.Json.Number
import PullStreams.Json.Skip
import PullStreams.Json.Token
import PullStreams.Operator.Batch
import PullStreams.Operator.Ending
import PullStreams.Operator.Filter
import PullStreams.Operator.Flatten
import PullStreams.Operator.Group
import PullStreams.Operator.Map
import PullStreams.Path
import PullStreams.Proofs.Answers
import PullStreams.Proofs.Calls
import PullStreams.Proofs.Deferral
import PullStreams.Proofs.Formats
import PullStreams.Proofs.Lists
import PullStreams.Proofs.LoggedWriter
import PullStreams.Proofs.Operator.Batch
import PullStreams.Proofs.Operator.Elementwise
import PullStreams.Proofs.Operator.Group
import PullStreams.Proofs.Operator.Orderly
import PullStreams.Proofs.Operator.Passing
import PullStreams.Proofs.Outcome
import PullStreams.Proofs.Passing
import PullStreams.Proofs.Pipeline
import PullStreams.Proofs.Pipeline.Meaning
import PullStreams.Proofs.Pipeline.Orderly
import PullStreams.Proofs.Recorded
import PullStreams.Proofs.Relay
import PullStreams.Proofs.Rendering
import PullStreams.Proofs.Run
import PullStreams.Proofs.Slot
import PullStreams.Proofs.Source.Concat
import PullStreams.Proofs.Source.Orderly
import PullStreams.Proofs.Source.Stored
import PullStreams.Proofs.Window
import PullStreams.Render
import PullStreams.Shape
import PullStreams.Sink
import PullStreams.Sink.Bytes
import PullStreams.Sink.Converted
import PullStreams.Source
import PullStreams.Source.Choice
import PullStreams.Source.Concat
import PullStreams.Source.Cursor
import PullStreams.Source.Lines
import PullStreams.Source.Listed
import PullStreams.Source.Supplied
import PullStreams.Source.Viewed
import PullStreams.Text.Blank
import PullStreams.Text.Cased
import PullStreams.Text.Hidden
import PullStreams.Text.Integer
import PullStreams.Text.LowerCase
import PullStreams.Text.Quoted
import PullStreams.Text.Utf8
import PullStreams.Transfer
import PullStreams.Value
import PullStreams.Proofs.Transfer.Fanout
import PullStreams.Proofs.ItemFailure
import PullStreams.Proofs.Source.Lines
import PullStreams.Proofs.Source.Split
import PullStreams.Proofs.Json.Lines
import PullStreams.Proofs.Json.RoundTrip
import PullStreams.Proofs.Text
import PullStreams.Proofs.Csv.Scanner
import PullStreams.Proofs.Csv.Rows
import PullStreams.Proofs.Csv.Pairs
import PullStreams.Proofs.Csv.Table
import PullStreams.Proofs.Csv.RoundTrip
import PullStreams.Proofs.Flattened
import PullStreams.Proofs.Batched
import PullStreams.Proofs.Grouped
import PullStreams.Proofs.Operator.Sifting
import PullStreams.Proofs.Borrowed
import PullStreams.Proofs.Sink.Calls
import PullStreams.Proofs.Sink.Course
import PullStreams.Proofs.Handing
import PullStreams.Proofs.Codec.Lossless
import PullStreams.Proofs.Codec.Choice
import PullStreams.Proofs.Codec.Agreement
import PullStreams.Proofs.Codec.Sniffing
import PullStreams.Proofs.Source.Cursor
import PullStreams.Proofs.Operator.Driving
import PullStreams.Proofs.Custody
import PullStreams.Proofs.Pipeline.Assembly
import PullStreams.Proofs.Pipeline.Release
import PullStreams.Proofs.Traced
import PullStreams.Proofs.Source.Turns
import PullStreams.Proofs.Transfer.Single
import PullStreams.Proofs.Iterated
import PullStreams.Proofs.Unflagged
import PullStreams.Proofs.Operator.Logged
import PullStreams.Proofs.Operator.Attempts
import PullStreams.Proofs.Operator.Fused
import PullStreams.Proofs.Source.Reading
import PullStreams.Proofs.Source.Received
import PullStreams.Proofs.Source.Protocol
import PullStreams.Proofs.Sealed
import PullStreams.Proofs.Pipeline.Sealed
import PullStreams.Proofs.Source.Counted
