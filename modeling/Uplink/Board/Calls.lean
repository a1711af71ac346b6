/-
What a task may ask of the board, and how it waits.

# Calls

Most calls are answered at once: a timer is set, a line of bytes is put
out, a shared cell is read. A task that makes them is not interrupted.

# Waiting

The one call that may take time is `await`. It names what the task waits
for, in the order of preference, and answers the place of the one that
came about; of several at the same time, the first. While a task waits,
others run.

A program is given a limit, or is given up for another reason, by adding
one more alternative to each of its waits. It stops at the wait where that
alternative comes first, and leaves everything else as it is. The program
is preferred to its guard (`race`) or the guard to the program (`preempt`),
if both can go on.

# The serial line

A transfer on the line is exclusive. Writes are over at once, but a task
that waits for bytes holds the line, and nobody else can use it until the
bytes come or the task gives up. `Wait.turn` waits for the line.
-/
import Uplink.Board.Job
import Uplink.Board.Port
import Uplink.Board.Shared
import Uplink.Board.Socket

namespace Uplink.Board

open Modem (Collector Verdict)
open Net (Address Endpoint Subnet)
open Time (Delivery)

-- =============================================================== waiting

/-- The two users of the serial line. -/
inductive Side where
  | command
  | session
deriving DecidableEq, Repr

/-- A timer: when it goes off, in microseconds, and the tick of the clock
in which it was set. It never goes off in that tick: one that is set to no
time at all still lets everybody else go on first. -/
structure Timer where
  due : Nat
  tick : Nat
deriving DecidableEq, Repr

/-- What a task can wait for. -/
inductive Wait where
  | timer (t : Timer)
  /-- a time has come, in microseconds; it may have come already -/
  | moment (time : Nat)
  /-- nobody else holds the serial line -/
  | turn
  /-- a port has something to hand out, or the line failed -/
  | bytes (side : Side)
  /-- the answer that is listened for is settled -/
  | verdict
  /-- the PPP task was told something -/
  | control
  | stopped
  /-- the peer has ended the PPP session, which is noticed only by a task
  that was waiting: one that gets here in passing goes on -/
  | sessionEnd
  | linkEvent
  | online
  /-- an IP stack has an address -/
  | configured (stack : Stack)
  /-- the datagram that is waited for has come, or the socket failed -/
  | datagram
deriving DecidableEq, Repr

/-- When an answer comes. -/
inductive Due where
  | now
  /-- at a time, in microseconds -/
  | later (time : Nat)
  | never
deriving DecidableEq, Repr

/-- An answer that may take time. -/
structure Pending (α : Type) where
  due : Due
  value : α

-- ================================================================= calls

/-- The calls on the serial line and its ports. -/
inductive LineCall where
  | attach (side : Side)
  /-- a port has nothing to hand out -/
  | isSpent (side : Side)
  /-- put out some of the bytes; answers how many -/
  | write (content : List UInt8)
  | flush
  /-- what a port has to hand out -/
  | peek (side : Side)
  /-- take at most this many bytes from a port -/
  | read (side : Side) (most : Nat)
  | consume (side : Side) (count : Nat)
  /-- start to listen for an answer; answers whether it is settled -/
  | listen (collector : Collector)
  | verdict
deriving DecidableEq

/-- What they answer; `none` or `false` means that the line failed, or that
there is nothing yet. -/
abbrev LineCall.Answer : LineCall → Type
  | attach _ => Unit
  | isSpent _ => Bool
  | write _ => Option Nat
  | flush => Bool
  | peek _ => Option (List UInt8)
  | read .. => Option (List UInt8)
  | consume .. => Unit
  | listen _ => Bool
  | verdict => Option Verdict

/-- The addressing of an IP stack. -/
structure StackConfig where
  address : Subnet
  gateway : Option Address := none
  resolvers : List Address := []
deriving DecidableEq, Repr

/-- The calls on an IP stack. It has one socket; binding it anew forgets
the one before. -/
inductive StackCall where
  | configure (config : Option StackConfig)
  | config
  /-- look a host up; answers its addresses, unless that fails -/
  | resolve (host : String)
  | bind (port : Nat)
  | send (peer : Endpoint) (content : List UInt8)
  | receive (receiver : Receiver)
  | received
deriving DecidableEq

abbrev StackCall.Answer : StackCall → Type
  | configure _ => Unit
  | config => Option StackConfig
  | resolve _ => Pending (Option (List Address))
  | bind _ => Bool
  | send .. => Bool
  | receive _ => Unit
  | received => Except ReceiveFault Delivery

/-- The WiFi driver failed, in its own words. -/
structure WifiFault where
  name : String
deriving DecidableEq, Repr

/-- The calls on the WiFi driver. -/
inductive WifiCall where
  | configure (ssid password : String)
  | start
  | connect
  /-- the driver is connected: take part in the network -/
  | join
  | isConnected
deriving DecidableEq

abbrev WifiCall.Answer : WifiCall → Type
  | configure .. => Except WifiFault Unit
  | start => Pending (Except WifiFault Unit)
  | connect => Pending (Except WifiFault Unit)
  | join => Unit
  | isConnected => Bool

/-- Why a PPP session ended. -/
inductive SessionError where
  | terminated
  | eof
  | read
  | write
deriving DecidableEq, Repr

def SessionError.text : SessionError → String
  | terminated => "Terminated"
  | eof => "Eof"
  | read => "Read(Rx)"
  | write => "Write(Tx)"

/-- One thing that PPP does in a session. What it does is up to the peer.
-/
inductive SessionStep where
  | wait (milliseconds : Nat)
  /-- the session is up, with these addresses for us and the peer -/
  | up (address peer : Option Address)
  | send (content : List UInt8)
  | receive (most : Nat)
  | finish (e : SessionError)
deriving DecidableEq, Repr

/-- The calls on PPP. -/
inductive SessionCall where
  /-- start a session; answers what it will do -/
  | start (credentials : Credentials)
  | up
  | received (content : List UInt8)
  | takeEnd
  | ended
  | stopped
deriving DecidableEq

abbrev SessionCall.Answer : SessionCall → Type
  | start _ => List SessionStep
  | takeEnd => Option SessionError
  | _ => Unit

/-- The pin that a control line of the modem is wired to. -/
def controlPin : Gsm.Pin → Nat
  | .power => 4
  | .reset => 5

/-- The calls that set the board up. -/
inductive SetUpCall where
  | random
  | radio
  | wifi
  /-- make an IP stack that draws its random numbers from a seed -/
  | network (stack : Stack) (seed : UInt64)
  | line (baudRate : UInt32)
  | wire (txPin rxPin : UInt8)
  /-- take a control line of the modem over, high -/
  | claim (pin : Gsm.Pin)
  | drive (stack : Stack)
deriving DecidableEq

/-- What they answer: a part that cannot be had answers `false`. -/
abbrev SetUpCall.Answer : SetUpCall → Type
  | random => UInt32
  | radio => Bool
  | wifi => Bool
  | line _ => Bool
  | _ => Unit

/-- The calls on the board. -/
inductive Call where
  | log (line : Line)
  | now
  | timer (milliseconds : Nat)
  | await (alternatives : List Wait)
  | shared (access : Shared.Access)
  | line (call : LineCall)
  | stack (stack : Stack) (call : StackCall)
  | wifi (call : WifiCall)
  | session (call : SessionCall)
  | drive (pin : Gsm.Pin) (high : Bool)
  | setUp (call : SetUpCall)
  | spawn (job : Job)

abbrev Call.Answer : Call → Type
  | log _ => Unit
  | now => UInt64
  | timer _ => Timer
  | await _ => Nat
  | shared access => access.Answer
  | line call => call.Answer
  | stack _ call => call.Answer
  | wifi call => call.Answer
  | session call => call.Answer
  | drive .. => Unit
  | setUp call => call.Answer
  | spawn _ => Unit

end Board

abbrev Board : Interface :=
  ⟨Board.Call, Board.Call.Answer⟩

namespace Board

-- ============================================================== programs

variable {α : Type}

def ask (request : Call) : Proc Board request.Answer :=
  Proc.ask (I := Board) request

def log (line : Line) : Proc Board Unit :=
  ask (.log line)

def shared (access : Shared.Access) : Proc Board access.Answer :=
  ask (.shared access)

/-- Wait for one of several things; answers the place of what came. -/
def await (alternatives : List Wait) : Proc Board Nat :=
  ask (.await alternatives)

def awaitOne (w : Wait) : Proc Board Unit := do
  let _ ← await [w]
  pure ()

def pause (milliseconds : Nat) : Proc Board Unit := do
  awaitOne (.timer (← ask (.timer milliseconds)))

/-- Take an answer when it comes. -/
def Pending.settle (p : Pending α) : Proc Board α := do
  match p.due with
  | .now => pure p.value
  | .later time =>
    awaitOne (.moment time)
    pure p.value
  | .never =>
    let _ ← await []
    pure p.value

/-- Run a program unless `guard` comes first. If both can go on, the
program does. -/
def race (guard : Wait) : Proc Board α → Proc Board (Option α)
  | .done a => .done (some a)
  | .call (.await alternatives) next =>
    .call (.await (alternatives ++ [guard])) fun place =>
      if place < alternatives.length then race guard (next place)
      else .done none
  | .call c next => .call c fun answer => race guard (next answer)

/-- Run a program unless `guard` comes first. If both can go on, the guard
does. -/
def preempt (guard : Wait) : Proc Board α → Proc Board (Option α)
  | .done a => .done (some a)
  | .call (.await alternatives) next =>
    .call (.await (guard :: alternatives)) fun
      | 0 => .done none
      | place + 1 => preempt guard (next place)
  | .call c next => .call c fun answer => preempt guard (next answer)

/-- Run a program for at most some milliseconds. -/
def limit (milliseconds : Nat) (p : Proc Board α) :
    Proc Board (Option α) := do
  race (.timer (← ask (.timer milliseconds))) p

end Board

end Uplink
