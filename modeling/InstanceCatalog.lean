import InstanceCatalog.Files.Disk
import InstanceCatalog.Main
import InstanceCatalog.Proofs.Join.Gathering
import InstanceCatalog.Proofs.Join.LiveRow
import InstanceCatalog.Proofs.Csv.Reading
import InstanceCatalog.Proofs.Sink.Delivery
import InstanceCatalog.Proofs.Sink.Batches
import InstanceCatalog.Proofs.Number.Amount
import InstanceCatalog.Proofs.Text.Utf8
import InstanceCatalog.Proofs.Text.ByteOrder
import InstanceCatalog.Proofs.Vendor.WrittenRecords
import InstanceCatalog.Proofs.Files.Disk
import InstanceCatalog.Proofs.World
import InstanceCatalog.Proofs.Scrape.Window
import InstanceCatalog.Proofs.Scrape.Sequential
import InstanceCatalog.Proofs.Join.History
import InstanceCatalog.Proofs.Join.Interleaving
import InstanceCatalog.Proofs.Join.Columns
import InstanceCatalog.Proofs.Join.Reachable
import InstanceCatalog.Proofs.Join.Passes
import InstanceCatalog.Proofs.Join.Counters
import InstanceCatalog.Proofs.Join.Checked
import InstanceCatalog.Proofs.Table.PipeRuns
import InstanceCatalog.Proofs.Text.Pieces
import InstanceCatalog.Proofs.Table.Cells
import InstanceCatalog.Proofs.Text.Lines
import InstanceCatalog.Proofs.Table.Rendering
import InstanceCatalog.Proofs.Table.OwnRows
import InstanceCatalog.Proofs.Html.Tableless
import InstanceCatalog.Proofs.Html.Rules
import InstanceCatalog.Proofs.Html.Elements
import InstanceCatalog.Proofs.Html.Lexing
import InstanceCatalog.Proofs.Table.Locate
import InstanceCatalog.Proofs.Number.Shortest
import InstanceCatalog.Proofs.Number.Written
import InstanceCatalog.Proofs.LookupTable.Reading
import InstanceCatalog.Proofs.Number.Chunks
import InstanceCatalog.Proofs.Source.Discovery
import InstanceCatalog.Proofs.Number.Largest
import InstanceCatalog.Proofs.Number.Thousands
import InstanceCatalog.Proofs.Files.Folder
import InstanceCatalog.Proofs.Jobs
import InstanceCatalog.Proofs.LookupTable.Places
import InstanceCatalog.Proofs.LookupTable.Pool
import InstanceCatalog.Proofs.Command.Formatting
import InstanceCatalog.Proofs.Command.Generate
import InstanceCatalog.Proofs.Number.Parts
import InstanceCatalog.Proofs.Number.SingleNumber
import InstanceCatalog.Proofs.LookupTable.Literals
import InstanceCatalog.Proofs.Files.Tree
import InstanceCatalog.Proofs.Source.Checkout
import InstanceCatalog.Proofs.Table.WellFormed
import InstanceCatalog.Proofs.Vendor.Shaping
import InstanceCatalog.Proofs.Html.Places
import InstanceCatalog.Proofs.Html.Refill
import InstanceCatalog.Proofs.Table.Nested
import InstanceCatalog.Proofs.Files.Places
import InstanceCatalog.Proofs.Command.OwnTables
import InstanceCatalog.Proofs.Header
import InstanceCatalog.Proofs.Join.ExtraRules
import InstanceCatalog.Proofs.Table.LineEnds
import InstanceCatalog.Proofs.Number.Monotone
import InstanceCatalog.Proofs.Source.RawFile
