import Occupancy.ByteOrder
import Occupancy.Chart.Axis
import Occupancy.Chart.Drawing
import Occupancy.Chart.Error
import Occupancy.Chart.FileName
import Occupancy.Chart.Frame
import Occupancy.Chart.Histogram
import Occupancy.Chart.Overlay
import Occupancy.Chart.Record
import Occupancy.Chart.Surface
import Occupancy.Checked
import Occupancy.CommandLine
import Occupancy.CommandLine.Help
import Occupancy.CommandLine.Number
import Occupancy.Console
import Occupancy.Counts
import Occupancy.Decimal.Binary
import Occupancy.Decimal.Power
import Occupancy.Decimal.Rounding
import Occupancy.Decimal.Shortest
import Occupancy.Decimal.Text
import Occupancy.Descriptor
import Occupancy.Descriptor.Read
import Occupancy.FileSystem
import Occupancy.FileSystem.Error
import Occupancy.FileSystem.Read
import Occupancy.FileSystem.Resolve
import Occupancy.FileSystem.Write
import Occupancy.Histogram
import Occupancy.Histogram.Alignment
import Occupancy.Histogram.Fractions
import Occupancy.Json.Fault
import Occupancy.Json.Numeral
import Occupancy.Json.Pass
import Occupancy.Json.Scan
import Occupancy.Json.Typed
import Occupancy.Json.Value
import Occupancy.Loading
import Occupancy.Main
import Occupancy.Path
import Occupancy.Poisson
import Occupancy.Program
import Occupancy.Proofs.Binary64.Magnitude
import Occupancy.Proofs.Binary64.Sign
import Occupancy.Proofs.Chart.Axis
import Occupancy.Proofs.Chart.Bounds
import Occupancy.Proofs.Chart.Contents
import Occupancy.Proofs.Chart.Failure
import Occupancy.Proofs.Chart.FileName
import Occupancy.Proofs.Chart.Histogram
import Occupancy.Proofs.Chart.Naming
import Occupancy.Proofs.Chart.Overlay
import Occupancy.Proofs.Chart.Surface
import Occupancy.Proofs.Checked
import Occupancy.Proofs.CommandLine
import Occupancy.Proofs.Console
import Occupancy.Proofs.Counts
import Occupancy.Proofs.Counts.Encoding
import Occupancy.Proofs.Descriptor.Acceptance
import Occupancy.Proofs.Descriptor.Text
import Occupancy.Proofs.FileSystem.Looks
import Occupancy.Proofs.FileSystem.Walk
import Occupancy.Proofs.FileSystem.World
import Occupancy.Proofs.FileSystem.Writable
import Occupancy.Proofs.FileSystem.Writing
import Occupancy.Proofs.Histogram
import Occupancy.Proofs.Histogram.Alignment
import Occupancy.Proofs.Histogram.Conservation
import Occupancy.Proofs.Histogram.Fractions
import Occupancy.Proofs.Histogram.Tally
import Occupancy.Proofs.Histogram.Truncation
import Occupancy.Proofs.Json.Compact
import Occupancy.Proofs.Json.Grammar
import Occupancy.Proofs.Json.Natural
import Occupancy.Proofs.Json.Numeral
import Occupancy.Proofs.Json.Passing
import Occupancy.Proofs.Json.Quoted
import Occupancy.Proofs.Json.Spelling
import Occupancy.Proofs.Json.Typed
import Occupancy.Proofs.Loading.Acceptance
import Occupancy.Proofs.Loading.Access
import Occupancy.Proofs.Loading.Loaded
import Occupancy.Proofs.Loading.RoundTrip
import Occupancy.Proofs.Loading.Verdict
import Occupancy.Proofs.Path
import Occupancy.Proofs.Path.Order
import Occupancy.Proofs.Path.Parent
import Occupancy.Proofs.Poisson
import Occupancy.Proofs.Poisson.Law
import Occupancy.Proofs.Poisson.Underflow
import Occupancy.Proofs.Program
import Occupancy.Proofs.Report
import Occupancy.Proofs.Run.Agreement
import Occupancy.Proofs.Run.Analysis
import Occupancy.Proofs.Run.Cap
import Occupancy.Proofs.Run.Charts
import Occupancy.Proofs.Run.Comparison
import Occupancy.Proofs.Run.Course
import Occupancy.Proofs.Run.Discovery
import Occupancy.Proofs.Run.Drawable
import Occupancy.Proofs.Run.Frame
import Occupancy.Proofs.Run.Limits
import Occupancy.Proofs.Run.Listing
import Occupancy.Proofs.Run.Overlay
import Occupancy.Proofs.Run.Script
import Occupancy.Proofs.Run.Shares
import Occupancy.Proofs.Scalar
import Occupancy.Proofs.Text.Utf8
import Occupancy.Report
import Occupancy.Run
import Occupancy.Run.Analysis
import Occupancy.Run.Discovery
import Occupancy.Run.Error
import Occupancy.Scalar
import Occupancy.Settings
import Occupancy.Text.Alphanumeric
import Occupancy.Text.Ascii
import Occupancy.Text.Blank
import Occupancy.Text.CodeRange
import Occupancy.Text.Grid
import Occupancy.Text.Quoted
import Occupancy.Text.Size
