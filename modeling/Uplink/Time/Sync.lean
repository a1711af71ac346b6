/-
Setting the clock over the network.

The servers are asked in their order, each a few times with a growing
pause in between, until one gives a time that can be believed. The time
of sending in its reply is taken to be half a round trip old when the
reply arrives. A failed round leaves the clock as it was.
-/
import Uplink.Network.Status
import Uplink.Proc.Retry
import Uplink.Time.Clock
import Uplink.Time.Ntp

namespace Uplink.Time

-- =============================================================== timing

/-- The servers that are asked if none are given. -/
def defaultServers : List String :=
  ["pool.ntp.org", "time.google.com", "time.cloudflare.com"]

/-- How often each server is asked. -/
def attemptsPerServer : Nat := 3

/-- The pause after the first attempt; after the second it is twice as
long. -/
def retryBackoff : Nat := 1000

/-- A reply may take this long. -/
def replyTimeout : Nat := 5000

/-- From one successful round to the next. -/
def resyncInterval : Nat := 3600000

/-- From a failed round to the next. -/
def failureRetryInterval : Nat := 60000

-- =========================================================== vocabulary

/-- Why a round brought no time. -/
inductive TimeSyncError where
  | noServers
  | allServersFailed
deriving DecidableEq, Repr

def TimeSyncError.name : TimeSyncError → String
  | noServers => "NoServers"
  | allServersFailed => "AllServersFailed"

def TimeSyncError.message : TimeSyncError → String
  | noServers => "No SNTP server configured"
  | allServersFailed => "No SNTP server answered with a usable time"

/-- A datagram in a buffer: how long it is said to be, and the buffer. -/
structure Delivery where
  length : Nat
  buffer : List UInt8
deriving DecidableEq

/-- The packet in the buffer. -/
def Delivery.packet (d : Delivery) : List UInt8 :=
  d.buffer.take (min d.length packetLength)

/-- The calls of a round. -/
inductive SyncCall where
  | uptime
  /-- send a request and take the reply, within some milliseconds -/
  | exchange (server : String) (request : List UInt8) (timeout : Nat)
  | isOnline
  /-- sleep until some transport is connected -/
  | awaitOnline
  | active
  | pause (milliseconds : Nat)
  | log (line : Line)

/-- What they answer; an exchange answers `none` if nothing came in
time. -/
abbrev SyncCall.Answer : SyncCall → Type
  | uptime => UInt64
  | exchange .. => Option (Except SntpError Delivery)
  | isOnline => Bool
  | awaitOnline => Unit
  | active => Option Network.Transport
  | pause _ => Unit
  | log _ => Unit

abbrev Servers : Interface :=
  ⟨SyncCall, SyncCall.Answer⟩

namespace Servers

def ask (request : SyncCall) : Proc Servers request.Answer :=
  Proc.ask (I := Servers) request

def log (line : Line) : Proc Servers Unit :=
  ask (.log line)

end Servers

-- =============================================================== queries

/-- Half of the time between two uptimes; none if it ran backwards. -/
def halfRoundTrip (sentAt receivedAt : UInt64) : UInt64 :=
  (if sentAt ≤ receivedAt then receivedAt - sentAt else 0) / 2

/-- The clock that a reply sets. -/
def clockOf (reply : Reply) (sentAt receivedAt : UInt64) : SyncedClock :=
  ⟨reply.unixMicros + halfRoundTrip sentAt receivedAt, receivedAt⟩

/-- Ask one server once. -/
def query (server : String) :
    Proc Servers (Except SntpError SyncedClock) := do
  let sentAt ← Servers.ask .uptime
  match ← Servers.ask (.exchange server request replyTimeout) with
  | none => pure (.error .timeout)
  | some (.error e) => pure (.error e)
  | some (.ok delivery) =>
    let receivedAt ← Servers.ask .uptime
    match readReply delivery.packet with
    | .error e => pure (.error e)
    | .ok reply =>
      let roundTrip := halfRoundTrip sentAt receivedAt * 2
      Servers.log (.debug
        s!"SNTP {server} stratum {reply.stratum}, round trip {roundTrip} us")
      pure (.ok (clockOf reply sentAt receivedAt))

/-- One of the attempts on a server. -/
def attemptQuery (server : String) (number : Nat) (_ : Unit) :
    Proc Servers (Except Unit SyncedClock) := do
  match ← query server with
  | .ok clock =>
    let seconds := clock.unixMicros / 1000000
    Servers.log (.info
      s!"Time synchronized from {server}: {seconds} s since epoch")
    pure (.ok clock)
  | .error e =>
    let tally := s!"{number}/{attemptsPerServer}"
    Servers.log (.warn
      s!"SNTP {server} attempt {tally} failed: {e.message}")
    pure (.error ())

/-- Ask one server up to three times. -/
def queryServer (server : String) :
    Proc Servers (Except Unit SyncedClock) :=
  let pause := fun number => Servers.ask (.pause (retryBackoff * number))
  Proc.retry pause (attemptQuery server) attemptsPerServer 1 ()

/-- Ask one server after the other. -/
def queryServers : List String → Proc Servers (Option SyncedClock)
  | [] => pure none
  | server :: rest => do
    match ← queryServer server with
    | .ok clock => pure (some clock)
    | .error () => queryServers rest

-- ================================================================ rounds

/-- A program that may set the clock. -/
abbrev ClockAct (α : Type) : Type :=
  StateT (Option SyncedClock) (Proc Servers) α

def syncOnce (servers : List String) :
    ClockAct (Except TimeSyncError SyncedClock) := do
  if servers.isEmpty then pure (.error .noServers)
  else
    match ← (queryServers servers : Proc Servers _) with
    | some clock =>
      set (some clock)
      pure (.ok clock)
    | none => pure (.error .allServersFailed)

/-- One round, once some transport is connected. -/
def waitAndSync (servers : List String) :
    ClockAct (Except TimeSyncError SyncedClock) := do
  if !(← Servers.ask .isOnline) then
    Servers.log (.info "Time sync waiting for network")
    Servers.ask .awaitOnline
  let active ← Servers.ask .active
  Servers.log (.debug
    s!"Network online ({Network.activeText active})")
  syncOnce servers

end Uplink.Time
