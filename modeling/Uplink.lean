import Uplink.Apn.Basic
import Uplink.Apn.Detection
import Uplink.Apn.Directory
import Uplink.App
import Uplink.Bench.Board.Answer
import Uplink.Bench.Board.Executor
import Uplink.Bench.Board.Rig
import Uplink.Bench.Hook
import Uplink.Bench.Script
import Uplink.Bench.SerialPort
import Uplink.Bench.Trial.Board
import Uplink.Bench.Trial.Cellular
import Uplink.Bench.Trial.Clock
import Uplink.Bench.Trial.Modem
import Uplink.Bench.Trial.Network
import Uplink.Bench.Trial.Storage
import Uplink.Bench.World
import Uplink.Board.Calls
import Uplink.Board.Cellular
import Uplink.Board.Device
import Uplink.Board.HandOver
import Uplink.Board.Job
import Uplink.Board.Line
import Uplink.Board.Port
import Uplink.Board.Ppp
import Uplink.Board.Shared
import Uplink.Board.Sntp
import Uplink.Board.Socket
import Uplink.Board.Wifi
import Uplink.Config.Basic
import Uplink.Config.Blob
import Uplink.Config.Wire
import Uplink.Gsm.Error
import Uplink.Gsm.Link
import Uplink.Gsm.Manager
import Uplink.Gsm.Steps
import Uplink.Gsm.Surroundings
import Uplink.Gsm.Timing
import Uplink.Log
import Uplink.Modem.Basic
import Uplink.Modem.Channel
import Uplink.Modem.Collector
import Uplink.Modem.Reply
import Uplink.Modem.Session
import Uplink.Net.Address
import Uplink.Network.Selection
import Uplink.Network.Status
import Uplink.Proc
import Uplink.Proc.Retry
import Uplink.Proofs.Account
import Uplink.Proofs.Apn.Directory
import Uplink.Proofs.Apn.Identity
import Uplink.Proofs.Apn.Search
import Uplink.Proofs.Apn.Strategies
import Uplink.Proofs.Board.Addressing
import Uplink.Proofs.Board.Agreement
import Uplink.Proofs.Board.Calm
import Uplink.Proofs.Board.Channel
import Uplink.Proofs.Board.Confirming
import Uplink.Proofs.Board.Credentials
import Uplink.Proofs.Board.Crossing
import Uplink.Proofs.Board.Datagrams
import Uplink.Proofs.Board.HandOver
import Uplink.Proofs.Board.Listening
import Uplink.Proofs.Board.Pact
import Uplink.Proofs.Board.Pledge
import Uplink.Proofs.Board.Queue
import Uplink.Proofs.Board.Reporting
import Uplink.Proofs.Board.Restart
import Uplink.Proofs.Board.Routing
import Uplink.Proofs.Board.Session
import Uplink.Proofs.Board.Tally
import Uplink.Proofs.Board.Tasks
import Uplink.Proofs.Config.Blob
import Uplink.Proofs.Config.Storing
import Uplink.Proofs.Config.Wire
import Uplink.Proofs.Contract
import Uplink.Proofs.Gsm.AccessPoint
import Uplink.Proofs.Gsm.Accesses
import Uplink.Proofs.Gsm.Advice
import Uplink.Proofs.Gsm.Afresh
import Uplink.Proofs.Gsm.Carrier
import Uplink.Proofs.Gsm.Chronicle
import Uplink.Proofs.Gsm.Coexistence
import Uplink.Proofs.Gsm.Confirmation
import Uplink.Proofs.Gsm.Course
import Uplink.Proofs.Gsm.Dial
import Uplink.Proofs.Gsm.Footing
import Uplink.Proofs.Gsm.Interleaving
import Uplink.Proofs.Gsm.Lifecycle
import Uplink.Proofs.Gsm.Naming
import Uplink.Proofs.Gsm.Parts
import Uplink.Proofs.Gsm.Polling
import Uplink.Proofs.Gsm.Recollection
import Uplink.Proofs.Gsm.Reports
import Uplink.Proofs.Gsm.Reset
import Uplink.Proofs.Gsm.SetUp
import Uplink.Proofs.Gsm.Signal
import Uplink.Proofs.Gsm.Steps
import Uplink.Proofs.Gsm.TearDown
import Uplink.Proofs.Gsm.Verdict
import Uplink.Proofs.History
import Uplink.Proofs.Modem.Collecting
import Uplink.Proofs.Modem.Contexts
import Uplink.Proofs.Modem.Exits
import Uplink.Proofs.Modem.Memory
import Uplink.Proofs.Modem.Pairing
import Uplink.Proofs.Modem.Quoting
import Uplink.Proofs.Modem.Reading
import Uplink.Proofs.Modem.Values
import Uplink.Proofs.Modem.Wire
import Uplink.Proofs.Network.Arrivals
import Uplink.Proofs.Network.Selection
import Uplink.Proofs.Network.Waiting
import Uplink.Proofs.Pairs
import Uplink.Proofs.Run
import Uplink.Proofs.Text.Cutting
import Uplink.Proofs.Text.Numeral
import Uplink.Proofs.Time.Accuracy
import Uplink.Proofs.Time.Exchange
import Uplink.Proofs.Time.Pace
import Uplink.Proofs.Time.Reply
import Uplink.Proofs.Time.Round
import Uplink.Proofs.Time.Timestamp
import Uplink.Proofs.Transcript
import Uplink.Text.Blank
import Uplink.Text.Bounded
import Uplink.Text.Hex
import Uplink.Text.Numeral
import Uplink.Text.Split
import Uplink.Time.Clock
import Uplink.Time.Ntp
import Uplink.Time.Sync
