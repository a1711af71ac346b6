/-
Trials of the clock and of its setting over the network.

A time that 64 bits of microseconds cannot tell ends a trial: there is no
answer that would be right.
-/
import Uplink.Bench.World

namespace Uplink.Bench.Trial

open World (Act)
open Time (SyncedClock TimeSyncError)

/-- An operation on numbers left their range. -/
inductive Fault where
  | addOverflow
deriving DecidableEq, Repr

def Fault.message : Fault → String
  | addOverflow => "attempt to add with overflow"

/-- What a clock shows. -/
structure Shown where
  micros : UInt64
  seconds : UInt64

/-- What a clock shows at an uptime. -/
def showClock (c : SyncedClock) (uptime : UInt64) : Except Fault Shown :=
  if c.overflowsAt uptime then .error .addOverflow
  else .ok ⟨c.unixMicrosAt uptime, c.unixSecondsAt uptime⟩

/-- What a clock shows at some uptimes. -/
def clock (c : SyncedClock) (uptimes : List UInt64) :
    Except Fault (List Shown) :=
  uptimes.mapM (showClock c)

/-- One use of the time synchronization, or something around it. -/
inductive TimeStep where
  | syncOnce
  /-- start a wait, and poll it again after each of the actions -/
  | waitAndSync (actions : List Action)
  | clockAt (uptime : UInt64)
  | now
  | act (action : Action)

/-- What one poll of a wait brings. -/
inductive PollResult where
  | pending
  | clock (shown : Shown)
  | failed (e : TimeSyncError)

inductive TimeResult where
  | synced (r : PollResult)
  | polls (rs : List PollResult)
  | clock (shown : Option Shown)
  | seconds (now : Option UInt64)
  | nothing

structure TimeReport where
  result : TimeResult
  events : List String
  synced : Bool
  now : Option UInt64
  uptime : UInt64
  link : Gsm.Link

/-- A program on the bench that holds a clock and can leave the range of
its numbers. -/
abbrev ClockTrial (α : Type) : Type :=
  StateT (Option SyncedClock) (ExceptT Fault Act) α

/-- The bench as it is. -/
def world : ClockTrial World :=
  StateT.lift (ExceptT.lift (get : Act World))

/-- A program on the bench that leaves the clock alone. -/
def onBench {α : Type} (act : Act α) : ClockTrial α :=
  StateT.lift (ExceptT.lift act)

/-- What the clock shows at an uptime, if it was set. -/
def showAt (uptime : UInt64) : ClockTrial (Option Shown) := do
  match ← get with
  | none => pure none
  | some c => StateT.lift (ExceptT.mk (pure (some <$> showClock c uptime)))

/-- What the clock shows now, if it was set. -/
def showNow : ClockTrial (Option Shown) := do
  showAt (← world).uptime

/-- A round that may not be through. -/
abbrev Round : Type :=
  Proc Time.Servers
    (Except TimeSyncError SyncedClock × Option SyncedClock)

/-- Let a round go on as far as it can. Answers what it brought, and what
is left of it. -/
def go (round : Round) : ClockTrial (PollResult × Option Round) := do
  match ← onBench (round.advance World.answerServers) with
  | .inr rest => pure (.pending, some rest)
  | .inl (.error e, clock) =>
    set clock
    pure (.failed e, none)
  | .inl (.ok _, clock) =>
    set clock
    match ← showNow with
    | some shown => pure (.clock shown, none)
    | none => pure (.pending, none)

/-- Poll a round, and again after each action while it is not through. -/
def pollThrough (round : Round) :
    List Action → ClockTrial (List PollResult)
  | [] => do
    let (result, _) ← go round
    pure [result]
  | action :: rest => do
    match ← go round with
    | (result, none) => pure [result]
    | (result, some round) =>
      onBench (World.perform action)
      pure (result :: (← pollThrough round rest))

def TimeStep.perform (servers : List String) :
    TimeStep → ClockTrial TimeResult
  | .syncOnce => do
    let (result, _) ← go ((Time.syncOnce servers).run (← get))
    pure (.synced result)
  | .waitAndSync actions => do
    let round := (Time.waitAndSync servers).run (← get)
    pure (.polls (← pollThrough round actions))
  | .clockAt uptime => do
    pure (.clock (← showAt uptime))
  | .now => do
    pure (.seconds ((← showNow).map (·.seconds)))
  | .act action => do
    onBench (World.perform action)
    pure .nothing

/-- Go through the steps with one clock. -/
def timeSteps (servers : List String) (steps : List TimeStep) :
    ClockTrial (List TimeReport) :=
  steps.mapM fun step => do
    let result ← step.perform servers
    let events ← onBench World.takeEvents
    let now := (← showNow).map (·.seconds)
    let w ← world
    pure { result, events, synced := (← get).isSome, now,
           uptime := w.uptime, link := w.link }

/-- Go through the steps with a clock that was never set. -/
def timeSync (servers : List String) (steps : List TimeStep) :
    Act (Except Fault (List TimeReport)) := do
  match ← ((timeSteps servers steps).run none).run with
  | .error fault => pure (.error fault)
  | .ok (reports, _) => pure (.ok reports)

end Uplink.Bench.Trial
