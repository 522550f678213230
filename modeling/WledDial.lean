import WledDial.Lib.System
import WledDial.Lib.LastWrite
import WledDial.Lib.Deserialize
import WledDial.Lib.Numerals
import WledDial.Lib.Fragments
import WledDial.Lib.History
import WledDial.Model.Dial
import WledDial.Model.Net
import WledDial.Model.Race
import WledDial.Model.Twin
import WledDial.Model.Wifi
import WledDial.Model.ClientTask
import WledDial.Model.ClientOwner
import WledDial.Model.Online
import WledDial.Proofs.Reports
import WledDial.Proofs.Reassembly
import WledDial.Proofs.Dial
import WledDial.Proofs.Agreement
import WledDial.Proofs.Edits
import WledDial.Proofs.Convergence
import WledDial.Proofs.Race
import WledDial.Proofs.Twin
import WledDial.Proofs.Wifi
import WledDial.Proofs.Send
import WledDial.Proofs.ClientTask
import WledDial.Proofs.ClientEvents
import WledDial.Proofs.ClientTimers
import WledDial.Proofs.ClientFrames
import WledDial.Proofs.ClientRecovery
import WledDial.Proofs.ClientOwner
import WledDial.Proofs.ClientWire
import WledDial.Proofs.Online
import WledDial.Proofs.OnlineReports
import WledDial.Proofs.OnlineCommands
