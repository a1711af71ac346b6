/-
Asking time servers over UDP, on the stack that carries the traffic.

The stack is chosen anew for each exchange. A datagram from anybody else
than the server that was asked, or from another of its ports, is ignored.
-/
import Uplink.Board.Calls

namespace Uplink.Board.Sntp

open Time (Delivery SntpError SyncCall)

/-- The port that requests are sent from. -/
def localPort : Nat := 40123

/-- Send a request to an address, and take the reply. -/
def ask (stack : Stack) (address : Net.Address) (request : List UInt8)
    (capacity : Nat) : Proc Board (Except SntpError Delivery) := do
  let peer : Net.Endpoint := ⟨address, Time.ntpPort⟩
  if !(← Board.ask (.stack stack (.bind localPort))) then
    pure (.error .transport)
  else if !(← Board.ask (.stack stack (.send peer request))) then
    pure (.error .transport)
  else
    Board.ask (.stack stack (.receive (.awaiting peer capacity)))
    awaitOne .datagram
    match ← Board.ask (.stack stack .received) with
    | .ok delivery => pure (.ok delivery)
    | .error .fault => pure (.error .transport)

/-- Send a request to a server, and take the reply into a buffer. -/
def exchange (server : String) (request : List UInt8) (capacity : Nat) :
    Proc Board (Except SntpError Delivery) := do
  match (← shared .status).active with
  | none => pure (.error .transport)
  | some transport =>
    let stack := Stack.ofTransport transport
    let pending ← Board.ask (.stack stack (.resolve server))
    match ← pending.settle with
    | some (address :: _) =>
      log (.debug s!"SNTP server {server} -> {address.render}")
      ask stack address request capacity
    | _ => pure (.error .transport)

/-- The time servers as a round of queries sees them. -/
def answer : (call : SyncCall) → Proc Board call.Answer
  | .uptime => Board.ask .now
  | .exchange server request timeout =>
    limit timeout (exchange server request Time.packetLength)
  | .isOnline => do pure (← shared .status).isOnline
  | .awaitOnline => awaitOne .online
  | .active => do pure (← shared .status).active
  | .pause milliseconds => pause milliseconds
  | .log line => log line

/-- Run a program that may set the clock. -/
def runClock {α : Type} (act : Time.ClockAct α)
    (clock : Option Time.SyncedClock) :
    Proc Board (α × Option Time.SyncedClock) :=
  (act.run clock).within answer

end Uplink.Board.Sntp
