/-
Trials on the board: the parts of the device one by one, and the device.

A trial is a list of steps. Most steps are calls on the part, driven until
they are done; in between time can pass, a transport can be reported, and
the board can be stimulated. Reports and stimuli are over at once: nobody
runs because of them before the next step.
-/
import Uplink.Bench.Board.Executor
import Uplink.Bench.Trial.Cellular
import Uplink.Bench.Trial.Clock
import Uplink.Bench.Trial.Modem

namespace Uplink.Bench.Trial

open Board (Parts Stack)
open Net (Address)
open Network (Transport)

/-- A step of a trial: a use of the part, or something around it. -/
inductive BoardStep (σ : Type) where
  | use (s : σ)
  | sleep (milliseconds : Nat)
  | notify (connected : Bool) (transport : Transport)
  | stimulate (s : Stimulus)

inductive BoardResult (ρ : Type) where
  /-- it was not a use -/
  | nothing
  /-- it was not done within the hour it has -/
  | pending
  | done (r : ρ)

/-- What a step shows: what it brought, what happened, the board and the
part afterwards. -/
structure BoardReport (ρ π : Type) where
  result : BoardResult ρ
  events : List String
  rig : Rig
  part : π

/-- A program on the board that holds a part. -/
abbrev PartAct (π α : Type) : Type :=
  StateT π Rig.Act α

variable {ρ σ π α : Type}

/-- A program on the board that leaves the part alone. -/
def onRig (act : Rig.Act α) : PartAct π α :=
  StateT.lift act

/-- Drive a call on the part. A call that is dropped leaves the part as it
was. -/
def usePart (act : StateT π (Proc Uplink.Board) α) :
    PartAct π (Option α) := do
  match ← onRig (Rig.call (act.run (← get))) with
  | none => pure none
  | some (a, part) =>
    set part
    pure (some a)

/-- Report a transport. -/
def announce (connected : Bool) (t : Transport) : Rig.Act Unit := do
  let r ← get
  let ((), shared) ← Rig.speak (r.shared.apply (.notify connected t))
  modify fun r => { r with shared }

def BoardStep.perform (use : σ → PartAct π (Option ρ)) :
    BoardStep σ → PartAct π (BoardResult ρ)
  | .use s => do
    match ← use s with
    | some r => pure (.done r)
    | none => pure .pending
  | .sleep milliseconds => do
    onRig (Rig.sleep milliseconds)
    pure .nothing
  | .notify connected t => do
    onRig (announce connected t)
    pure .nothing
  | .stimulate s => do
    onRig (Rig.perform s)
    pure .nothing

/-- Go through the steps with one part. -/
def boardSteps (use : σ → PartAct π (Option ρ))
    (steps : List (BoardStep σ)) : PartAct π (List (BoardReport ρ π)) :=
  steps.mapM fun step => do
    let result ← step.perform use
    let events ← onRig Rig.takeEvents
    pure { result, events, rig := ← onRig get, part := ← get }

/-- Go through the steps with a part that is new. -/
def trial (part : π) (use : σ → PartAct π (Option ρ))
    (steps : List (BoardStep σ)) : Rig.Act (List (BoardReport ρ π)) := do
  let (reports, _) ← (boardSteps use steps).run part
  pure reports

-- ================================================================== port

/-- One use of a port. -/
inductive PortUse where
  | read (most : Nat)
  | fill
  | consume (count : Nat)
  | write (content : List UInt8)
  | writeAll (content : List UInt8)
  | flush
  | renew

/-- What a use of a port brings. -/
inductive PortResult where
  | bytes (content : List UInt8)
  | count (n : Nat)
  | done
  | readFault
  | writeFault
  /-- an operation on numbers left their range -/
  | fault (f : Fault)

/-- The result of a read. -/
def PortResult.ofRead : Option (List UInt8) → PortResult
  | some content => bytes content
  | none => readFault

/-- The result of a use that puts bytes out. -/
def PortResult.ofWrite (done : Bool) : PortResult :=
  if done then .done else .writeFault

/-- A use as a program on the board. -/
def PortUse.program : PortUse → Proc Uplink.Board PortResult
  | read most => do pure (.ofRead (← Board.Line.read .command most))
  | fill => do pure (.ofRead (← Board.Line.peek .command))
  | consume count => do
    Board.ask (.line (.consume .command count))
    pure .done
  | write content => do
    match ← Board.Line.write content with
    | some n => pure (.count n)
    | none => pure .writeFault
  | writeAll content => do
    pure (.ofWrite (← Board.Line.writeAll content.length content))
  | flush => do pure (.ofWrite (← Board.Line.flush))
  | renew => do
    Board.ask (.line (.attach .command))
    pure .done

/-- Use a port. One that skips beyond the numbers of the machine has no
answer. -/
def PortUse.perform (u : PortUse) : Rig.Act (Option PortResult) := do
  match u with
  | consume count =>
    if ((← get).slot .command).port.consume? count |>.isNone then
      pure (some (.fault .addOverflow))
    else Rig.call u.program
  | _ => Rig.call u.program

/-- The fault with which a trial ends, if it comes to one. -/
def BoardReport.fault? (r : BoardReport PortResult Unit) : Option Fault :=
  match r.result with
  | .done (.fault f) => some f
  | _ => none

/-- Use a port. -/
def port (steps : List (BoardStep PortUse)) :
    Rig.Act (Except Fault (List (BoardReport PortResult Unit))) := do
  let reports ← trial () (fun u => onRig u.perform) steps
  match reports.findSome? BoardReport.fault? with
  | some f => pure (.error f)
  | none => pure (.ok reports)

-- ================================================================== WiFi

/-- The WiFi link is up. -/
def wifiIsUp (r : Rig) : Bool :=
  r.shared.link.status.isConnected .wifi && r.associated

/-- Bring the WiFi link up, each time it is used. -/
def wifi (credentials : Option (String × String))
    (steps : List (BoardStep Unit)) :
    Rig.Act
      (List (BoardReport (Except Board.Wifi.WifiError Unit) Unit)) :=
  let use := fun () => onRig (Rig.call (Board.Wifi.bringUp credentials))
  trial () use steps

-- ================================================================ clock

/-- One use of the time servers. -/
inductive SntpUse where
  | exchange (server : String) (request : List UInt8) (capacity : Nat)
  | syncOnce

inductive SntpUseResult where
  | delivered (content : List UInt8)
  | undelivered (e : Time.SntpError)
  /-- the clock is set, and shows this -/
  | synced (micros : UInt64)
  | unsynced (e : Time.TimeSyncError)

/-- What a clock shows on the board. -/
def microsNow (r : Rig) (c : Time.SyncedClock) : UInt64 :=
  c.unixMicrosAt r.clock.toUInt64

/-- Perform one use of the time servers. -/
def SntpUse.perform (servers : List String) :
    SntpUse → PartAct (Option Time.SyncedClock) (Option SntpUseResult)
  | exchange server request capacity => do
    let p := Board.Sntp.exchange server request capacity
    match ← onRig (Rig.call p) with
    | none => pure none
    | some (.error e) => pure (some (.undelivered e))
    | some (.ok d) =>
      pure (some (.delivered (d.buffer.take d.length)))
  | syncOnce => do
    match ← usePart (Board.Sntp.runClock (Time.syncOnce servers)) with
    | none => pure none
    | some (.error e) => pure (some (.unsynced e))
    | some (.ok c) => do
      pure (some (.synced (microsNow (← onRig get) c)))

/-- Use the time servers. -/
def sntp (servers : List String) (steps : List (BoardStep SntpUse)) :
    Rig.Act
      (List (BoardReport SntpUseResult (Option Time.SyncedClock))) :=
  trial none (SntpUse.perform servers) steps

-- =================================================================== PPP

/-- One use of the modem or of the PPP interface. -/
inductive PppUse where
  | build (uart : Config.Uart)
  | channel (u : ChannelUse)
  | netif (call : Gsm.NetifCall)
  | resolve (host : String)

inductive PppResult where
  | modem (r : ChannelResult)
  | netif (r : Except Gsm.NetifError Unit)
  | resolved (r : Except Gsm.NetifError Address)

/-- The result of a call on the interface, if it has one. -/
def netifResult :
    (call : Gsm.NetifCall) → call.Answer → Except Gsm.NetifError Unit
  | .create, r => r
  | .destroy, () => .ok ()
  | .subscribe, r => r
  | .unsubscribe, () => .ok ()
  | .setDns .., r => r
  | .setAuth .., r => r

open Board.Cellular in
/-- A use as a program of the link's surroundings. -/
def PppUse.program : PppUse → Act PppResult
  | .build uart => do
    pure (.modem (.ofUnit (← answer (.build uart))))
  | channel u => do
    pure (.modem (← u.program.within fun call => answer (.modem call)))
  | netif call => do
    pure (.netif (netifResult call (← answer (.netif call))))
  | resolve host => do
    pure (.resolved (← (Board.Ppp.resolve host : Proc Uplink.Board _)))

/-- Use the modem and the PPP interface, with the task that runs the
sessions. -/
def ppp (wiring : Config.Uart) (steps : List (BoardStep PppUse)) :
    Rig.Act (List (BoardReport PppResult Parts)) := do
  Rig.spawn .ppp
  trial { wiring } (fun use => usePart use.program) steps

-- ============================================================== cellular

/-- An operation of the link on the board, on the manager and its parts. -/
def CellularUse.onBoard (u : CellularUse) :
    StateT (Gsm.Manager × Parts) (Proc Uplink.Board) CellularResult :=
  fun (m, parts) => do
    let ((r, m), parts) ←
      (Board.Cellular.runManager u.program m).run parts
    pure (r, m, parts)

/-- Operate the cellular link on the board, with the task that runs the
sessions. -/
def boardCellular (settings : Config.Settings)
    (steps : List (BoardStep CellularUse)) :
    Rig.Act
      (List (BoardReport CellularResult (Gsm.Manager × Parts))) := do
  Rig.spawn .ppp
  match ← Rig.call (Board.Device.startManager settings) with
  | none => pure []
  | some m =>
    let parts : Parts := { wiring := settings.uart }
    trial (m, parts) (fun use => usePart use.onBoard) steps

-- ================================================================ device

/-- What the device shows in the end. -/
structure DeviceReport where
  halted : Bool
  events : List String
  rig : Rig

/-- The device could not be started. -/
def isHalted (t : Running) : Bool :=
  match t.job with
  | .halted _ => true
  | _ => false

/-- Run the device for some milliseconds. -/
def device (build : Board.Build) (milliseconds : Nat) :
    Rig.Act DeviceReport := do
  Rig.spawn (.boot build)
  Rig.sleep milliseconds
  let r ← get
  pure { halted := r.tasks.any isHalted
         events := ← Rig.takeEvents, rig := r }

end Uplink.Bench.Trial
