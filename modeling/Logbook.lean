import Logbook.Act
import Logbook.Level.Reader
import Logbook.Record
import Logbook.Text.Visible
import Logbook.Pattern.Word
import Logbook.Text.Utf8
import Logbook.Text.Pad
import Logbook.Text.Quoted
import Logbook.Registry
import Logbook.Clock
import Logbook.Json.Token
import Logbook.Json.Value
import Logbook.Settings.Document
import Logbook.Record.Document
import Logbook.Layout
import Logbook.Decimal.Binary64
import Logbook.Event.Report
import Logbook.Pattern.Reader
import Logbook.Directive
import Logbook.Table
import Logbook.Device
import Logbook.Sink
import Logbook.Forwarder
import Logbook.Draft
import Logbook.Disk
import Logbook.Facility.Report
import Logbook.Facility.Statement
import Logbook.Facility.Stream
import Logbook.Facility.Startup
import Logbook.Scenario.Play
import Logbook.Demo.Program
import Logbook.Text.Aligned
import Logbook.Main
import Logbook.Proofs.Forwarder.Run
import Logbook.Proofs.Scenario.Drafts
import Logbook.Proofs.Scenario.Routing
import Logbook.Proofs.Registry.History
import Logbook.Proofs.Device.Buffer
import Logbook.Proofs.Event.RoundTrip
import Logbook.Proofs.Forwarder.Hearing
import Logbook.Proofs.Facility.Paths
import Logbook.Proofs.Registry.Admission
import Logbook.Proofs.Registry.Separation
import Logbook.Proofs.Registry.Order
import Logbook.Proofs.Registry.Silence
import Logbook.Proofs.Stream.Nesting
import Logbook.Proofs.Stream.Conservation
import Logbook.Proofs.Forwarder.Output
import Logbook.Proofs.Forwarder.Chunks
import Logbook.Proofs.Forwarder.Raising
import Logbook.Proofs.Event.Foreign
import Logbook.Proofs.Facility.Startup
import Logbook.Proofs.Facility.Lines
import Logbook.Proofs.Facility.LastWord
import Logbook.Proofs.Json.Documents
import Logbook.Proofs.Event.Ladders
import Logbook.Proofs.Event.Fields
import Logbook.Proofs.Demo.Bounds
import Logbook.Proofs.Clock.ExactTime
import Logbook.Proofs.Stamp.Time
import Logbook.Proofs.Demo.Overrides
import Logbook.Proofs.Facility.Columns
