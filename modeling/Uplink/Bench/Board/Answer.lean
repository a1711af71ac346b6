/-
The board on the bench: how its parts answer.
-/
import Uplink.Bench.Board.Rig

namespace Uplink.Bench.Rig

open Board (Call LineCall Pending SessionCall SetUpCall Side Stack
  StackCall StackConfig Wait WifiCall)
open Net (Address)

-- =========================================================== serial line

def slot (r : Rig) : Side → Slot
  | .command => r.command
  | .session => r.session

/-- Put something in the place of a side's port. -/
def setSlot (side : Side) (s : Slot) : Act Unit :=
  modify fun r =>
    match side with
    | .command => { r with command := s }
    | .session => { r with session := s }

/-- Put out some of the bytes. -/
def write (content : List UInt8) : Act (Option Nat) := do
  let r ← get
  match r.serial.write content with
  | some (count, serial) =>
    set { r with serial }
    pure (some count)
  | none =>
    set { r with serial := r.serial.discard }
    emit (SerialPort.eventText "txfail" r.serial.outgoing)
    pure none

/-- See that they are sent. -/
def flush : Act Bool := do
  let r ← get
  let (done, sent, serial) := r.serial.flush r.clock
  set { r with serial }
  let kind := if done then "tx" else "flushfail"
  emit (SerialPort.eventText kind sent)
  pure done

/-- Have a port filled from what has arrived. Answers whether that is
settled. -/
def fill (side : Side) : Act Bool := do
  let r ← get
  let s := r.slot side
  if s.fault then pure true
  else
    let readings := r.serial.readings r.clock Board.portCapacity
    let (filled, port, rest) := s.port.fill readings
    set { r with serial := r.serial.leave r.clock rest }
    setSlot side ⟨port, filled = .fault⟩
    pure (filled ≠ .starved)

/-- Have an answer collected from what has arrived. Answers whether it is
settled. -/
def listen : Act Bool := do
  let r ← get
  let l : Board.Listening := ⟨r.command.port, r.collector, r.verdict⟩
  let readings := r.serial.readings r.clock Board.portCapacity
  let (l, rest) := l.run readings
  set { r with
    serial := r.serial.leave r.clock rest
    command := { r.command with port := l.port }
    collector := l.collector
    verdict := l.verdict }
  pure l.verdict.isSome

/-- Take something from a port, unless the line failed. -/
def takeFrom {α : Type} (side : Side) (take : Board.Port → α × Board.Port) :
    Act (Option α) := do
  let s := (← get).slot side
  if s.fault then
    setSlot side { s with fault := false }
    pure none
  else
    let (a, port) := take s.port
    setSlot side { s with port }
    pure (some a)

/-- The serial line's side of a call. No call on it waits. -/
def answerLine : (call : LineCall) → Act call.Answer
  | .attach side => setSlot side {}
  | .isSpent side => do pure ((← get).slot side).port.isSpent
  | .write content => write content
  | .flush => flush
  | .peek side => takeFrom side fun port => (port.rest, port)
  | .read side most => takeFrom side (·.read most)
  | .consume side count => do
    let s := (← get).slot side
    setSlot side { s with port := s.port.consume count }
  | .listen collector => do
    let r ← get
    let l := Board.Listening.start r.command.port collector
    set { r with
      command := { r.command with port := l.port }
      collector := l.collector
      verdict := l.verdict }
    pure l.verdict.isSome
  | .verdict => do
    let r ← get
    set { r with verdict := none }
    pure r.verdict

-- ============================================================= IP stacks

/-- The addressing of a stack, if it has one. -/
def configOf (r : Rig) : Stack → Option StackConfig
  | .wifi => r.wifiConfig
  | .ppp => r.pppConfig

/-- An addressing as an event shows it. -/
def configText : Option StackConfig → String
  | none => "none"
  | some c =>
    let gateway := match c.gateway with
      | some g => g.render
      | none => "-"
    let resolvers := ", ".intercalate (c.resolvers.map Address.render)
    s!"{c.address.render} {gateway} [{resolvers}]"

/-- An outcome that may take time, as its caller sees it. -/
def pending {α : Type} (t : Timed α) (standIn : α) : Act (Pending α) := do
  match t.value, t.delay with
  | none, _ => pure ⟨.never, standIn⟩
  | some a, none => pure ⟨.now, a⟩
  | some a, some ms =>
    let r ← get
    pure ⟨.later (r.clock + micros ms), a⟩

/-- Every name that is not scripted. -/
def standardAddress : Address :=
  ⟨162, 159, 200, 1⟩

/-- What a look-up of a host brings, from the script of the host. -/
def playHost (host : String) :
    List (String × Script (Timed (Option (List Address)))) →
      Timed (Option (List Address))
        × List (String × Script (Timed (Option (List Address))))
  | [] => (⟨none, some (some [standardAddress])⟩, [])
  | (name, script) :: rest =>
    if name = host then
      let (t, script) :=
        script.nextOr ⟨none, some (some [standardAddress])⟩
      (t, (name, script) :: rest)
    else
      let (t, rest) := playHost host rest
      (t, (name, script) :: rest)

/-- The datagrams of a plan, from a time on. -/
def arrivals (peer : Net.Endpoint) :
    (time : Nat) → List DatagramPlan → List (Nat × Board.Datagram)
  | _, [] => []
  | time, plan :: rest =>
    let time := time + micros plan.delay
    (time, ⟨plan.sender.getD peer, plan.content⟩) :: arrivals peer time rest

/-- Have the datagrams received that have come. Answers whether that is
settled. -/
def receive : Act Bool := do
  let r ← get
  let s := r.socket
  match s.outcome, s.receiver with
  | some _, _ => pure true
  | none, none => pure false
  | none, some receiver =>
    let (here, later) := s.inbox.span (·.1 ≤ r.clock)
    let (result, rest) := receiver.run (here.map (·.2))
    let inbox := (rest.map fun d => (r.clock, d)) ++ later
    match result with
    | .inl outcome =>
      let socket := { s with
        inbox, receiver := none, outcome := some outcome }
      set { r with socket }
      pure true
    | .inr receiver =>
      set { r with socket := { s with inbox, receiver := some receiver } }
      pure false

/-- The IP stack's side of a call. -/
def answerStack (stack : Stack) : (call : StackCall) → Act call.Answer
  | .configure config => do
    modify fun r =>
      match stack with
      | .wifi => { r with wifiConfig := config }
      | .ppp => { r with pppConfig := config }
    emit s!"net config {stack.name} {configText config}"
  | .config => do pure ((← get).configOf stack)
  | .resolve host => do
    emit (s!"dns {stack.name} " ++ host)
    let r ← get
    let (t, hosts) := playHost host r.hosts
    set { r with hosts }
    pending t none
  | .bind port => do
    emit s!"udp bind {stack.name} {port}"
    let r ← get
    let (done, bind) := r.sockets.bind.nextOr true
    set { r with sockets := { r.sockets with bind }, socket := {} }
    pure done
  | .send peer content => do
    emit (s!"udp send {stack.name} {peer.render} " ++ Text.hexText content)
    let r ← get
    let (done, send) := r.sockets.send.nextOr true
    if done then
      let (plan, answers) := playOnce r.sockets.answers
      let inbox := arrivals peer r.clock (plan.getD [])
      set { r with
        sockets := { r.sockets with send, answers }
        socket := { r.socket with inbox } }
    else set { r with sockets := { r.sockets with send } }
    pure done
  | .receive receiver =>
    modify fun r =>
      { r with socket := { r.socket with receiver := some receiver } }
  | .received => do
    let r ← get
    set { r with socket := { r.socket with outcome := none } }
    pure (r.socket.outcome.getD (.error .fault))

-- ================================================================== WiFi

/-- The address that is handed out if nothing else is scripted. -/
def standardLease : Lease :=
  { address := some ⟨⟨192, 168, 1, 50⟩, 24⟩ }

/-- The station takes part in the network, which hands out an address. -/
def join : Act Unit := do
  modify fun r => { r with associated := true }
  let r ← get
  let (lease, script) := r.wifi.lease.nextOr standardLease
  set { r with wifi := { r.wifi with lease := script } }
  match lease.address, lease.delay with
  | none, _ => pure ()
  | some address, none => perform (.lease address)
  | some address, some ms =>
    modify fun r =>
      let entry := (r.clock + micros ms, [Stimulus.lease address])
      { r with timeline := r.timeline ++ [entry] }

/-- The WiFi driver's side of a call. -/
def answerWifi : (call : WifiCall) → Act call.Answer
  | .configure ssid password => do
    emit s!"wifi set_config [{ssid}] [{password}]"
    let r ← get
    let (result, configure) := r.wifi.configure.nextOr (.ok ())
    set { r with wifi := { r.wifi with configure } }
    pure result
  | .start => do
    emit "wifi start"
    let r ← get
    let (t, start) := r.wifi.start.nextOr ⟨none, some (.ok ())⟩
    set { r with wifi := { r.wifi with start } }
    pending t (.ok ())
  | .connect => do
    emit "wifi connect"
    let r ← get
    let (t, connect) := r.wifi.connect.nextOr ⟨none, some (.ok ())⟩
    set { r with wifi := { r.wifi with connect } }
    pending t (.ok ())
  | .join => join
  | .isConnected => do pure (← get).associated

-- =================================================================== PPP

/-- The PPP peer's side of a call. A session that starts forgets an end
that came before it. -/
def answerSession : (call : SessionCall) → Act call.Answer
  | .start credentials => do
    modify fun r => { r with sessionEnd := none }
    emit (s!"ppp run [{credentials.username.text}] "
      ++ s!"[{credentials.password.text}]")
    let r ← get
    let (steps, sessions) := r.sessions.nextOr []
    set { r with sessions }
    pure steps
  | .up => emit "ppp up"
  | .received content => emit ("ppp rx " ++ Text.hexText content)
  | .takeEnd => do
    let r ← get
    set { r with sessionEnd := none }
    pure r.sessionEnd
  | .ended => emit "ppp end"
  | .stopped => emit "ppp stop"

-- ================================================================ set-up

/-- The bytes of a number, the highest first; `left` of them. -/
def bytesOf : (left : Nat) → UInt64 → List UInt8
  | 0, _ => []
  | left + 1, n => bytesOf left (n >>> 8) ++ [n.toUInt8]

/-- The board's side of a call that sets it up. -/
def answerSetUp : (call : SetUpCall) → Act call.Answer
  | .random => do
    let r ← get
    let (word, words) := r.words.nextOr 0
    set { r with words }
    pure word
  | .radio => do pure !(← get).bootFaults.contains .radio
  | .wifi => do pure !(← get).bootFaults.contains .wifi
  | .network stack seed => do
    let origin := match stack with
      | .wifi => "dhcp"
      | .ppp => "none"
    emit (s!"net new {stack.name} {origin} "
      ++ Text.hexText (bytesOf 8 seed))
  | .line baudRate => do
    emit s!"uart {baudRate}"
    pure !(← get).bootFaults.contains .line
  | .wire txPin rxPin => do
    emit s!"uart tx {txPin}"
    emit s!"uart rx {rxPin}"
  | .claim pin => emit s!"pin {Board.controlPin pin} init High"
  | .drive stack => emit s!"net run {stack.name}"

-- =============================================================== waiting

/-- Look whether something has come about. `waited` says that the task was
waiting for it, rather than getting here in passing. -/
def isReady (waited : Bool) : Wait → Act Bool
  | .timer t => do pure ((← get).hasGoneOff t)
  | .moment time => do pure (time ≤ (← get).clock)
  | .turn => do
    let r ← get
    pure (r.holder = none || r.holder = some r.running)
  | .bytes side => fill side
  | .verdict => listen
  | .control => do pure (← get).shared.control.isSome
  | .stopped => do pure (← get).shared.stopped
  | .sessionEnd => do pure (waited && (← get).sessionEnd.isSome)
  | .linkEvent => do pure (← get).shared.link.event.isSome
  | .online => do
    let r ← get
    let (online, status) := r.shared.link.status.pollOnline
    let link := { r.shared.link with status }
    set { r with shared := { r.shared with link } }
    pure online
  | .configured stack => do pure ((← get).configOf stack).isSome
  | .datagram => receive

/-- The place of the first that has come about. -/
def firstReady (waited : Bool) : List Wait → Act (Option Nat)
  | [] => pure none
  | w :: rest => do
    if ← isReady waited w then pure (some 0)
    else
      let place ← firstReady waited rest
      pure (place.map (· + 1))

/-- Whoever waits for this holds the serial line meanwhile. -/
def isTransfer : Wait → Bool
  | .bytes _ => true
  | .verdict => true
  | _ => false

/-- Poll a wait of the task that runs. The line is held exactly while a
task waits for bytes. -/
def poll (waited : Bool) (alternatives : List Wait) :
    Act (Option Nat) := do
  let place ← firstReady waited alternatives
  modify fun r =>
    if place.isSome then
      if r.holder = some r.running then { r with holder := none } else r
    else if alternatives.any isTransfer then
      { r with holder := some r.running }
    else r
  pure place

def spawn (job : Board.Job) : Act Unit :=
  modify fun r => { r with tasks := r.tasks ++ [.start job] }

/-- The board's side of a call. Only a wait may go unanswered. -/
def answer : (call : Call) → Act (Option call.Answer)
  | .log line => some <$> log line
  | .now => do pure (some (← get).clock.toUInt64)
  | .timer milliseconds => some <$> setTimer milliseconds
  | .await alternatives => poll false alternatives
  | .shared access => do
    let r ← get
    let (a, shared) ← speak (r.shared.apply access)
    modify fun r => { r with shared }
    pure (some a)
  | .line call => some <$> answerLine call
  | .stack stack call => some <$> answerStack stack call
  | .wifi call => some <$> answerWifi call
  | .session call => some <$> answerSession call
  | .drive pin high => do
    let level := if high then "high" else "low"
    some <$> emit s!"pin {Board.controlPin pin} {level}"
  | .setUp call => some <$> answerSetUp call
  | .spawn job => some <$> spawn job

end Uplink.Bench.Rig
