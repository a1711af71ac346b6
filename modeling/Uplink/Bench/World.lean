/-
The bench for one part at a time.

Here nothing waits. Every call is answered where it is made: a pause is
over at once and only counts as time that has passed, and what has not
arrived when it is asked for never will, so that a wait with a limit lets
the limit pass instead.

The bench keeps what the parts report (`events`) and what the library says
(`journal`), and runs the hooks in between.
-/
import Uplink.Bench.Hook
import Uplink.Bench.SerialPort
import Uplink.Gsm.Manager
import Uplink.Network.Selection
import Uplink.Time.Sync

namespace Uplink.Bench

open Net (Address IpInfo)
open Network (Transport)

/-- What can happen to the shared records and the clock. -/
inductive Action where
  | ipAcquired (info : IpInfo)
  | ipLost
  | linkStatus (code : Int)
  | notify (connected : Bool) (transport : Transport)
  | release (transport : Transport)
  | advance (micros : UInt64)
  | setUptime (micros : UInt64)

/-- Which drives of the control lines fail, counted from 1 over both. -/
inductive PinFaults where
  | all
  | these (calls : List Nat)

/-- What the PPP interface answers to each kind of call. A resolver may
answer `none`, and then never does. -/
structure NetifScripts where
  create : Script (Except Gsm.NetifError Unit) := .silent
  subscribe : Script (Except Gsm.NetifError Unit) := .silent
  setDns : Script (Except Gsm.NetifError Unit) := .silent
  setAuth : Script (Except Gsm.NetifError Unit) := .silent
  resolve : Script (Option (Except Gsm.NetifError Unit)) := .silent

/-- How a bring-up of a stand-in link ends. -/
inductive BringUp where
  | ok
  /-- it claims to be up and is not -/
  | okDown
  | fail
  /-- it claims to have failed and is up -/
  | failUp

/-- A stand-in for a link. -/
structure StandIn where
  transport : Transport
  up : Bool := false
  bringUps : Script BringUp := .silent

/-- What a time server's exchange brings. -/
inductive SntpResult where
  /-- these bytes, said to be this many -/
  | datagram (content : List UInt8) (length : Nat)
  | error (e : Time.SntpError)
  | never

/-- One exchange with a time server: how long it takes, where it sets the
clock, and what it brings. -/
structure SntpAnswer where
  latency : UInt64 := 0
  uptimeAfter : Option UInt64 := none
  result : SntpResult

/-- The bench. -/
structure World where
  journal : List Line := []
  /-- newest first -/
  events : List String := []
  hooks : List (Hook Action) := []
  uptime : UInt64 := 0
  /-- the milliseconds that were waited for -/
  waited : Nat := 0
  serial : SerialPort
  mode : Modem.Mode := .command
  driven : Nat := 0
  pinFaults : PinFaults := .these []
  netif : NetifScripts := {}
  factory : Script (Except Modem.ChannelError Unit) := .silent
  link : Gsm.Link := {}
  wifi : StandIn := { transport := .wifi }
  gsm : StandIn := { transport := .gsm }
  servers : List SntpAnswer := []

namespace World

/-- A program on the bench. -/
abbrev Act (α : Type) : Type :=
  StateM World α

-- ============================================================== reports

def log (line : Line) : Act Unit :=
  modify fun w => { w with journal := line :: w.journal }

def speak {α : Type} (spoken : Spoken α) : Act α := do
  modify fun w =>
    { w with journal := spoken.lines.reverse ++ w.journal }
  pure spoken.value

/-- Change the shared record of the link. -/
def changeLink (f : Gsm.Link → Spoken Gsm.Link) : Act Unit := do
  let link ← speak (f (← get).link)
  modify fun w => { w with link }

/-- Something happens. -/
def perform : Action → Act Unit
  | .ipAcquired info => changeLink (·.onIpAcquired info)
  | .ipLost => changeLink (·.onIpLost)
  | .linkStatus code => changeLink (·.onLinkStatus code)
  | .notify connected t => changeLink (·.notify connected t)
  | .release t => changeLink fun l => pure (l.release t)
  | .advance micros =>
    modify fun w => { w with uptime := w.uptime + micros }
  | .setUptime micros => modify fun w => { w with uptime := micros }

/-- A part reports an event, and the hooks that wait for it act. -/
def emit (event : String) : Act Unit := do
  let w ← get
  let (hooks, due) := Hook.noteAll event w.hooks
  set { w with events := event :: w.events, hooks }
  due.forM perform

def pause (milliseconds : Nat) : Act Unit := do
  modify fun w => { w with
    waited := w.waited + milliseconds
    uptime := w.uptime + 1000 * milliseconds.toUInt64 }
  emit s!"delay {milliseconds}"

/-- The events since this was last asked. -/
def takeEvents : Act (List String) := do
  let w ← get
  set { w with events := [] }
  pure w.events.reverse

-- ========================================================== serial line

/-- Put all bytes out. -/
def write (bytes : List UInt8) : Act Bool := do
  let w ← get
  let (done, serial) := w.serial.writeAll bytes.length bytes
  if done then
    set { w with serial }
    pure true
  else
    set { w with serial := serial.discard }
    emit (SerialPort.eventText "txfail" serial.outgoing)
    pure false

/-- See that they are sent. -/
def flush : Act Bool := do
  let w ← get
  let (done, sent, serial) := w.serial.flush 0
  set { w with serial }
  let kind := if done then "tx" else "flushfail"
  emit (SerialPort.eventText kind sent)
  pure done

/-- The most bytes that one read of the channel takes. -/
def readSize : Nat := 64

/-- Collect an answer from what is there. If that does not settle it, the
time allowed passes. -/
def listen (collector : Modem.Collector) (timeout : Nat) :
    Act (Option Modem.Verdict) := do
  let w ← get
  let (outcome, rest) := collector.run (w.serial.readings 0 readSize)
  set { w with serial := w.serial.leave 0 rest }
  match outcome with
  | .inl verdict => pure (some verdict)
  | .inr _ =>
    pause timeout
    pure none

/-- The serial line of the bench. -/
def answerSerial : (call : Modem.SerialCall) → Act call.Answer
  | .write content => write content
  | .flush => flush
  | .listen collector timeout => listen collector timeout
  | .pause milliseconds => pause milliseconds
  | .log line => log line

/-- Run a program of the channel over the serial line of the bench. -/
def runChannel {α : Type} (act : Modem.Channel.Act α) : Act α := do
  let (a, mode) ← (act.run (← get).mode).within answerSerial
  modify fun w => { w with mode }
  pure a

/-- The command channel of the bench. -/
def answerSession (call : Modem.SessionCall) : Act call.Answer :=
  runChannel (Modem.Channel.answer call)

/-- Run a program of the command channel. -/
def runSession {α : Type} (p : Proc Modem.Session α) : Act α :=
  p.within answerSession

-- ======================================================== cellular link

def drive (pin : Gsm.Pin) (high : Bool) :
    Act (Except Gsm.PinFault Unit) := do
  let call := (← get).driven + 1
  modify fun w => { w with driven := call }
  let fails := match (← get).pinFaults with
    | .all => true
    | .these calls => calls.contains call
  let level := if high then "high" else "low"
  let mark := if fails then " fail" else ""
  emit s!"pin {pin.name} {level}{mark}"
  pure (if fails then .error .fault else .ok ())

/-- The PPP interface of the bench. -/
def answerNetif : (call : Gsm.NetifCall) → Act call.Answer
  | .create => do
    emit "netif create"
    let w ← get
    let (result, create) := w.netif.create.nextOr (.ok ())
    set { w with netif := { w.netif with create } }
    pure result
  | .destroy => emit "netif destroy"
  | .subscribe => do
    emit "netif subscribe"
    let w ← get
    let (result, subscribe) := w.netif.subscribe.nextOr (.ok ())
    set { w with netif := { w.netif with subscribe } }
    pure result
  | .unsubscribe => emit "netif unsubscribe"
  | .setDns primary secondary => do
    emit s!"netif set_dns {primary.render} {secondary.render}"
    let w ← get
    let (result, setDns) := w.netif.setDns.nextOr (.ok ())
    set { w with netif := { w.netif with setDns } }
    pure result
  | .setAuth username password => do
    emit s!"netif set_auth [{username}] [{password}]"
    let w ← get
    let (result, setAuth) := w.netif.setAuth.nextOr (.ok ())
    set { w with netif := { w.netif with setAuth } }
    pure result

/-- What every name resolves to. -/
def resolved : Address := ⟨162, 159, 200, 1⟩

/-- Look a host up. -/
def resolve (host : String) (timeout : Nat) :
    Act (Option (Except Gsm.NetifError Address)) := do
  emit ("netif resolve " ++ host)
  let w ← get
  let (result, resolve) := w.netif.resolve.nextOr (some (.ok ()))
  set { w with netif := { w.netif with resolve } }
  match result with
  | some (.ok ()) => pure (some (.ok resolved))
  | some (.error e) => pure (some (.error e))
  | none =>
    pause timeout
    pure none

/-- Make a channel to the modem. -/
def build (uart : Config.Uart) : Act (Except Modem.ChannelError Unit) := do
  emit (s!"factory {uart.port} {uart.txPin} {uart.rxPin} "
    ++ s!"{uart.baudRate} {uart.rxBufferSize}")
  let w ← get
  let (result, factory) := w.factory.nextOr (.ok ())
  set { w with factory }
  match result with
  | .ok () =>
    modify fun w => { w with mode := .command }
    pure (.ok ())
  | .error e => pure (.error e)

/-- A call on the shared record of the link. -/
def answerRecord (call : Gsm.RecordCall) : Act call.Answer := do
  let (answer, link) ← speak (call.apply (← get).link)
  modify fun w => { w with link }
  pure answer

/-- Take the event of the link that is there, or let the time pass. -/
def awaitEvent (timeout : Nat) : Act (Option Gsm.LinkEvent) := do
  let w ← get
  match w.link.event with
  | some event =>
    set { w with link := w.link.resetEvents }
    pure (some event)
  | none =>
    pause timeout
    pure none

/-- The surroundings of the cellular link. -/
def answerGsm : (call : Gsm.GsmCall) → Act call.Answer
  | .modem call => answerSession call
  | .drive pin high => drive pin high
  | .netif call => answerNetif call
  | .build uart => build uart
  | .record call => answerRecord call
  | .awaitEvent timeout => awaitEvent timeout
  | .resolve host timeout => resolve host timeout

/-- Run a program of the manager. -/
def runManager {α : Type} (act : Gsm.Manager.Act α) (m : Gsm.Manager) :
    Act (α × Gsm.Manager) :=
  (act.run m).within answerGsm

-- ======================================================= stand-in links

/-- A stand-in comes up, and says so. -/
def raise (link : StandIn) : Act StandIn := do
  perform (.notify true link.transport)
  pure { link with up := true }

/-- Bring a stand-in up. -/
def bringUp (link : StandIn) : Act (Except String Unit × StandIn) := do
  emit ("bring_up " ++ link.transport.name)
  let (result, bringUps) := link.bringUps.nextOr .fail
  let link := { link with bringUps }
  match result with
  | .ok => pure (.ok (), ← raise link)
  | .okDown => pure (.ok (), link)
  | .fail => pure (.error "LinkDown", link)
  | .failUp => pure (.error "LinkDown", ← raise link)

/-- Two stand-ins to select from. -/
def answerLinks : (call : Network.LinkCall) → Act call.Answer
  | .isUp .preferred => do pure (← get).wifi.up
  | .isUp .fallback => do pure (← get).gsm.up
  | .bringUp .preferred => do
    let (result, wifi) ← bringUp (← get).wifi
    modify fun w => { w with wifi }
    pure result
  | .bringUp .fallback => do
    let (result, gsm) ← bringUp (← get).gsm
    modify fun w => { w with gsm }
    pure result
  | .pause milliseconds => pause milliseconds
  | .log line => log line

/-- A program on the bench that drives a manager. -/
abbrev ManagerAct (α : Type) : Type :=
  StateT Gsm.Manager Act α

/-- A stand-in and the manager to select from. -/
def answerLinksWith :
    (call : Network.LinkCall) → ManagerAct call.Answer
  | .isUp .fallback => do
    let w ← StateT.lift (get : Act World)
    pure w.link.connected
  | .bringUp .fallback => do
    let (result, m) ← StateT.lift
      (runManager Gsm.Manager.bringUp (← get))
    set m
    match result with
    | .ok () => pure (.ok ())
    | .error e => pure (.error e.text)
  | .isUp .preferred => StateT.lift (answerLinks (.isUp .preferred))
  | .bringUp .preferred => StateT.lift (answerLinks (.bringUp .preferred))
  | .pause milliseconds => StateT.lift (pause milliseconds)
  | .log line => StateT.lift (log line)

-- ========================================================= time servers

/-- A buffer with a datagram in it, as far as it fits. -/
def deliver (content : List UInt8) (length : Nat) : Time.Delivery :=
  let kept := content.take Time.packetLength
  let blank := List.replicate (Time.packetLength - kept.length) 0
  ⟨length, kept ++ blank⟩

/-- One exchange with a time server. -/
def exchange (server : String) (request : List UInt8) (timeout : Nat) :
    Act (Option (Except Time.SntpError Time.Delivery)) := do
  emit (s!"exchange {server} " ++ Text.hexText request)
  let w ← get
  let (answer, servers) := playOnce w.servers
  set { w with servers }
  let answer := answer.getD { result := .never }
  modify fun w => { w with uptime := w.uptime + answer.latency }
  modify fun w => { w with uptime := answer.uptimeAfter.getD w.uptime }
  match answer.result with
  | .datagram content length =>
    pure (some (.ok (deliver content length)))
  | .error e => pure (some (.error e))
  | .never =>
    pause timeout
    pure none

/-- The surroundings of a round of time queries. Only the wait for a
connection may go unanswered. -/
def answerServers :
    (call : Time.SyncCall) → Act (Option call.Answer)
  | .uptime => do pure (some (← get).uptime)
  | .exchange server request timeout => do
    pure (some (← exchange server request timeout))
  | .isOnline => do pure (some (← get).link.status.isOnline)
  | .awaitOnline => do
    let w ← get
    let (online, status) := w.link.status.pollOnline
    set { w with link := { w.link with status } }
    pure (if online then some () else none)
  | .active => do pure (some (← get).link.status.active)
  | .pause milliseconds => do
    pause milliseconds
    pure (some ())
  | .log line => do
    log line
    pure (some ())

end World

end Uplink.Bench
