import RadioBoard.Bench
import RadioBoard.Board.Operation
import RadioBoard.FileTree
import RadioBoard.LittleEndian.Bound
import RadioBoard.Main
import RadioBoard.Proofs.Accessors
import RadioBoard.Proofs.Adjustments
import RadioBoard.Proofs.BandSelection
import RadioBoard.Proofs.Capabilities
import RadioBoard.Proofs.Clamping
import RadioBoard.Proofs.Compatibility
import RadioBoard.Proofs.Corrections
import RadioBoard.Proofs.Coverage
import RadioBoard.Proofs.Directions
import RadioBoard.Proofs.DriverChannels
import RadioBoard.Proofs.FpgaVersion
import RadioBoard.Proofs.Frequencies
import RadioBoard.Proofs.Gains
import RadioBoard.Proofs.Handles
import RadioBoard.Proofs.Images
import RadioBoard.Proofs.Link
import RadioBoard.Proofs.Opening
import RadioBoard.Proofs.Polling
import RadioBoard.Proofs.Programming
import RadioBoard.Proofs.Readback
import RadioBoard.Proofs.Responses
import RadioBoard.Proofs.Routing
import RadioBoard.Proofs.SampleRates
import RadioBoard.Proofs.StatusCodes
import RadioBoard.Proofs.StreamLifetime
import RadioBoard.Proofs.VersionText
import RadioBoard.Range.Coverage
import RadioBoard.Usb.Bench
