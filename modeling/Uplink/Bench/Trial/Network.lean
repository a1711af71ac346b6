/-
Trials of the network status and of the choice of a transport.
-/
import Uplink.Bench.World

namespace Uplink.Bench.Trial

open World (Act)
open Network (Transport)

-- ================================================================ status

/-- One thing that happens to the shared records, or one look at them. -/
inductive StatusStep where
  | act (action : Action)
  /-- wait for a change, but not asleep -/
  | pollChange
  /-- wait for a connection, but not asleep -/
  | pollOnline

/-- What a step shows: whether a wait was over, and the records. -/
structure StatusReport where
  ready : Option Bool
  link : Gsm.Link

/-- Look whether there was a change. -/
def pollChange : Act Bool := do
  let w ← get
  let (ready, status) := w.link.status.pollChange
  set { w with link := { w.link with status } }
  pure ready

/-- Look whether there is a connection. -/
def pollOnline : Act Bool := do
  let w ← get
  let (ready, status) := w.link.status.pollOnline
  set { w with link := { w.link with status } }
  pure ready

/-- Perform one step. Answers whether a wait was over, if it was one. -/
def StatusStep.perform : StatusStep → Act (Option Bool)
  | .act action => do
    World.perform action
    pure none
  | .pollChange => some <$> Trial.pollChange
  | .pollOnline => some <$> Trial.pollOnline

def status (steps : List StatusStep) : Act (List StatusReport) :=
  steps.mapM fun step => do
    let ready ← step.perform
    pure { ready, link := (← get).link }

-- ============================================================= selection

/-- One selection, or a change of a stand-in. -/
inductive SelectStep where
  | select
  | setLink (role : Network.Role) (up : Bool)
      (bringUps : Option (List BringUp))

structure SelectReport where
  selected : Option (Except Network.SelectionError Transport)
  wifiUp : Bool
  gsmUp : Bool
  link : Gsm.Link
  events : List String
  waited : Nat

/-- Take a stand-in up or down, and have it say so. -/
def setStandIn (link : StandIn) (up : Bool)
    (bringUps : Option (List BringUp)) : Act StandIn := do
  World.perform (.notify up link.transport)
  let script := match bringUps with
    | some items => ⟨items⟩
    | none => link.bringUps
  pure { link with up, bringUps := script }

/-- Perform one step. Answers what was selected, if anything was to be. -/
def SelectStep.perform :
    SelectStep → Act (Option (Except Network.SelectionError Transport))
  | .select => do
    let w ← get
    let p := Network.selectTransport w.wifi.transport w.gsm.transport
    some <$> p.within World.answerLinks
  | .setLink .preferred up bringUps => do
    let wifi ← setStandIn (← get).wifi up bringUps
    modify fun w => { w with wifi }
    pure none
  | .setLink .fallback up bringUps => do
    let gsm ← setStandIn (← get).gsm up bringUps
    modify fun w => { w with gsm }
    pure none

def selection (steps : List SelectStep) : Act (List SelectReport) :=
  steps.mapM fun step => do
    let selected ← step.perform
    let events ← World.takeEvents
    let w ← get
    pure { selected, wifiUp := w.wifi.up, gsmUp := w.gsm.up,
           link := w.link, events, waited := w.waited }

end Uplink.Bench.Trial
