import Cubesat.Clock.Text
import Cubesat.Main
import Cubesat.Rehearsal.Clock
import Cubesat.Rehearsal.Computer
import Cubesat.Rehearsal.Register
import Cubesat.Proofs.Computer.PowerCut
import Cubesat.Proofs.Sail.Log
import Cubesat.Proofs.Clock.Monotone
import Cubesat.Proofs.Comm.Mirror
import Cubesat.Proofs.Comm.Transfers
import Cubesat.Proofs.Comm.Orders
import Cubesat.Proofs.Comm.Drain
import Cubesat.Proofs.Comm.Hearing
import Cubesat.Proofs.Comm.Downlink
import Cubesat.Proofs.Settings.Envelope
import Cubesat.Proofs.Settings.History
import Cubesat.Proofs.Mission.Mirror
import Cubesat.Proofs.Mission.Cycle
import Cubesat.Proofs.Computer.Aloft
import Cubesat.Proofs.Computer.Uplink
import Cubesat.Proofs.Computer.Opening
import Cubesat.Proofs.Computer.Resets
import Cubesat.Proofs.Bus.Streaks
import Cubesat.Proofs.Codec.Forms
import Cubesat.Proofs.Computer.Causes
import Cubesat.Proofs.Clock.Passage
import Cubesat.Proofs.Sail.Delays
import Cubesat.Proofs.Antenna.Attempts
import Cubesat.Proofs.Clock.Elapsed
import Cubesat.Proofs.Clock.Setting
import Cubesat.Proofs.Computer.Consistency
import Cubesat.Proofs.Attitude.Window
import Cubesat.Proofs.Beacon.Pacing
import Cubesat.Proofs.Computer.BootTime
import Cubesat.Proofs.Bus.Recovery
import Cubesat.Proofs.Bus.Tree
import Cubesat.Proofs.Beacon.Frame
import Cubesat.Proofs.Computer.Faults
import Cubesat.Proofs.Clock.Mean
import Cubesat.Proofs.Mission.Grouping
import Cubesat.Proofs.Config.Members
