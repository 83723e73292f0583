import AckDesk.Log.Config
import AckDesk.Main
import AckDesk.Proofs.Backend.Freshness
import AckDesk.Proofs.Backend.Mounting
import AckDesk.Proofs.Backend.Traffic
import AckDesk.Proofs.Chip.AddControl
import AckDesk.Proofs.Editor.Edits
import AckDesk.Proofs.Flight.Busy
import AckDesk.Proofs.Flight.Commuting
import AckDesk.Proofs.Flight.Dangling
import AckDesk.Proofs.Flight.Handles
import AckDesk.Proofs.Flight.Hidden
import AckDesk.Proofs.Flight.Notices
import AckDesk.Proofs.Flight.Offering
import AckDesk.Proofs.Flight.Reopening
import AckDesk.Proofs.Flight.Repeated
import AckDesk.Proofs.Flight.Reports
import AckDesk.Proofs.Flight.Sent
import AckDesk.Proofs.Flight.Slots
import AckDesk.Proofs.Flight.Unchipping
import AckDesk.Proofs.Key
import AckDesk.Proofs.Key.Decoding
import AckDesk.Proofs.Mount.Agreement
import AckDesk.Proofs.Mount.InFlight
import AckDesk.Proofs.Mount.ReadOnly
import AckDesk.Proofs.Page.RoundTrip
import AckDesk.Proofs.Prompt.Chips
import AckDesk.Proofs.Prompt.Taps
import AckDesk.Proofs.Record.Canonical
import AckDesk.Proofs.Search
import AckDesk.Proofs.View.Lines
