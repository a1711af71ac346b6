/-
The board on the bench: what it holds.

Here time is real. A pause lasts, a piece of an answer can be late, and
tasks run while others wait. What the parts of the board do is scripted,
and what happens from outside is a list of stimuli, each at its time or
tied to an event by a hook.
-/
import Uplink.Bench.Hook
import Uplink.Bench.SerialPort
import Uplink.Board.Device

namespace Uplink.Bench

open Board (BootStage Datagram Job Port ReceiveFault Receiver SessionError
  SessionStep Shared StackConfig WifiFault)
open Modem (Collector Verdict)
open Net (Address Endpoint Subnet)
open Time (Delivery)

/-- What can happen to the board from outside. -/
inductive Stimulus where
  /-- the station is disconnected and has no address any more -/
  | wifiDown
  | wifiUp
  /-- the WiFi stack gets an address -/
  | lease (address : Subnet)
  /-- PPP ends the session -/
  | endSession (e : SessionError)
  /-- the modem says something on its own -/
  | receive (answer : Answer)

/-- An outcome that may take some milliseconds, or never come about. -/
structure Timed (α : Type) where
  delay : Option Nat := none
  value : Option α

/-- An address that is handed out some milliseconds after it was asked
for, or never. -/
structure Lease where
  delay : Option Nat := none
  address : Option Subnet

/-- What the WiFi driver and its network do. -/
structure WifiScripts where
  configure : Script (Except WifiFault Unit) := .silent
  start : Script (Timed (Except WifiFault Unit)) := .silent
  connect : Script (Timed (Except WifiFault Unit)) := .silent
  lease : Script Lease := .silent

/-- A datagram that comes some milliseconds after the one before it; it
comes from the peer that was written to unless it says otherwise. -/
structure DatagramPlan where
  delay : Nat := 0
  sender : Option Endpoint := none
  content : Option (List UInt8)

/-- What sockets do. -/
structure SocketScripts where
  bind : Script Bool := .silent
  send : Script Bool := .silent
  /-- what comes back, for each request that was sent -/
  answers : List (List DatagramPlan) := []

/-- The socket that is open. -/
structure Socket where
  /-- each with the time of its arrival -/
  inbox : List (Nat × Datagram) := []
  receiver : Option Receiver := none
  outcome : Option (Except ReceiveFault Delivery) := none

/-- A port, and whether its last read of the line failed. -/
structure Slot where
  port : Port := {}
  fault : Bool := false

/-- A task in one of its rounds: the job it is at, and what is left of the
round. -/
structure Running where
  job : Job
  rest : Proc Board Job

/-- A task at the start of a round. -/
def Running.start (job : Job) : Running :=
  ⟨job, Board.Device.round job⟩

/-- The board. Times are in microseconds. -/
structure Rig where
  journal : List Line := []
  /-- newest first -/
  events : List String := []
  hooks : List (Hook Stimulus) := []
  timeline : List (Nat × List Stimulus) := []
  clock : Nat := 0
  /-- how often the clock was moved, be it by no time at all -/
  ticks : Nat := 0
  shared : Shared := {}
  /-- the tasks besides the foreground, each where it waits -/
  tasks : List Running := []
  /-- the number of the task that runs; the foreground is 0 -/
  running : Nat := 0
  /-- the task that holds the serial line while it waits for bytes -/
  holder : Option Nat := none
  serial : SerialPort
  command : Slot := {}
  session : Slot := {}
  collector : Collector := ⟨[], [], []⟩
  verdict : Option Verdict := none
  wifi : WifiScripts := {}
  associated : Bool := false
  wifiConfig : Option StackConfig := none
  pppConfig : Option StackConfig := none
  hosts : List (String × Script (Timed (Option (List Address)))) := []
  sockets : SocketScripts := {}
  socket : Socket := {}
  sessions : Script (List SessionStep) := .silent
  sessionEnd : Option SessionError := none
  words : Script UInt32 := .silent
  bootFaults : List BootStage := []

namespace Rig

/-- A program on the board. -/
abbrev Act (α : Type) : Type :=
  StateM Rig α

/-- The microseconds of some milliseconds. -/
def micros (milliseconds : Nat) : Nat :=
  1000 * milliseconds

/-- The clock in whole milliseconds. -/
def milliseconds (r : Rig) : Nat :=
  r.clock / 1000

-- ============================================================== reports

def log (line : Line) : Act Unit :=
  modify fun r => { r with journal := line :: r.journal }

def speak {α : Type} (spoken : Spoken α) : Act α := do
  modify fun r =>
    { r with journal := spoken.lines.reverse ++ r.journal }
  pure spoken.value

/-- Something happens. -/
def perform (s : Stimulus) : Act Unit :=
  modify fun r =>
    match s with
    | .wifiDown => { r with associated := false, wifiConfig := none }
    | .wifiUp => { r with associated := true }
    | .lease address => { r with wifiConfig := some { address } }
    | .endSession e => { r with sessionEnd := some e }
    | .receive answer =>
      { r with serial := r.serial.receive r.clock answer }

/-- A part reports an event, and the hooks that wait for it act. -/
def emit (event : String) : Act Unit := do
  let r ← get
  let (hooks, due) := Hook.noteAll event r.hooks
  let dated := s!"{r.milliseconds} " ++ event
  set { r with events := dated :: r.events, hooks }
  due.forM perform

/-- The events since this was last asked. -/
def takeEvents : Act (List String) := do
  let r ← get
  set { r with events := [] }
  pure r.events.reverse

-- ================================================================== time

def setTimer (milliseconds : Nat) : Act Board.Timer := do
  let r ← get
  pure ⟨r.clock + micros milliseconds, r.ticks⟩

def hasGoneOff (r : Rig) (t : Board.Timer) : Bool :=
  t.due ≤ r.clock && t.tick < r.ticks

/-- Move the clock, and have happen what is due. -/
def moveClock (time : Nat) : Act Unit := do
  let r ← get
  let clock := max r.clock time
  let (due, timeline) := r.timeline.partition (·.1 ≤ clock)
  set { r with clock, ticks := r.ticks + 1, timeline }
  (due.flatMap (·.2)).forM perform

end Rig

end Uplink.Bench
