/-
Trials of the cellular link as a whole.
-/
import Uplink.Bench.Trial.Network

namespace Uplink.Bench.Trial

open World (Act ManagerAct)
open Network (Transport)

/-- One operation of the link. -/
inductive CellularUse where
  | init
  | connect
  | bringUp
  | disconnect
  | deinit
  | signal

/-- What an operation brings. -/
inductive CellularResult where
  | done
  | failed (e : Gsm.GsmError)
  | signal (rssi : Int)

/-- The result of an operation that says no more than that it went well. -/
def CellularResult.ofExcept : Except Gsm.GsmError Unit → CellularResult
  | .ok () => done
  | .error e => failed e

/-- An operation as a program of the manager. -/
def CellularUse.program :
    CellularUse → Gsm.Manager.Act CellularResult
  | .init => .ofExcept <$> Gsm.Manager.init
  | .connect => .ofExcept <$> Gsm.Manager.connect
  | .bringUp => .ofExcept <$> Gsm.Manager.bringUp
  | .disconnect => do
    Gsm.Manager.disconnect
    pure .done
  | .deinit => do
    Gsm.Manager.deinit
    pure .done
  | .signal => .signal <$> Gsm.Manager.signalStrength

/-- An operation on the link, or something that happens around it. -/
inductive GsmStep where
  | use (u : CellularUse)
  /-- select between the stand-in for WiFi and the cellular link -/
  | select
  | setWifi (up : Bool)
  | pollChange
  | act (action : Action)

inductive GsmResult where
  | used (r : CellularResult)
  | selected (r : Except Network.SelectionError Transport)
  | ready (yes : Bool)
  | nothing

structure GsmReport where
  result : GsmResult
  events : List String
  manager : Gsm.Manager
  link : Gsm.Link
  waited : Nat

/-- Run an operation of the manager. -/
def operate {α : Type} (act : Gsm.Manager.Act α) : ManagerAct α := do
  let (a, m) ← StateT.lift (World.runManager act (← get))
  set m
  pure a

def GsmStep.perform : GsmStep → ManagerAct GsmResult
  | .use u => .used <$> operate u.program
  | .select => do
    let w ← StateT.lift (get : Act World)
    let p := Network.selectTransport w.wifi.transport .gsm
    .selected <$> p.within World.answerLinksWith
  | .setWifi up => StateT.lift do
    let wifi ← setStandIn (← get).wifi up none
    modify fun w => { w with wifi }
    pure .nothing
  | .pollChange => StateT.lift (.ready <$> Trial.pollChange)
  | .act action => StateT.lift do
    World.perform action
    pure .nothing

/-- Go through the steps with one manager. -/
def cellularSteps (steps : List GsmStep) : ManagerAct (List GsmReport) :=
  steps.mapM fun step => do
    let result ← step.perform
    let events ← StateT.lift World.takeEvents
    let w ← StateT.lift (get : Act World)
    pure { result, events, manager := ← get, link := w.link,
           waited := w.waited }

/-- Make a manager and go through the steps with it. -/
def cellular (settings : Config.Settings) (steps : List GsmStep) :
    Act (List GsmReport) := do
  let m ← World.speak (Gsm.Manager.new settings)
  let (reports, _) ← (cellularSteps steps).run m
  pure reports

end Uplink.Bench.Trial
