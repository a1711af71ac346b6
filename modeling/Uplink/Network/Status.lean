/-
Which transports are connected, and which of them carries the traffic.

# What is kept

One flag for each transport, a selector that names the transport in use,
and a signal that something changed. A transport that connects takes the
selector; one that disconnects gives it up, but only if it had it, so the
loss of one never disturbs the other.

# Single accesses

The record is shared between tasks and no lock guards it. What is
indivisible is one access: storing a flag, storing the selector, resetting
it where it points at a given transport, raising the signal. `notify` is a
list of such accesses, and running the list at once (`Status.notify`) is
the special case in which no other task comes in between. Statements
about tasks that do come in between speak of the same list.
-/
import Uplink.Log

namespace Uplink.Network

/-- A way to the outside. -/
inductive Transport where
  | wifi
  | gsm
deriving DecidableEq, Repr

namespace Transport

def name : Transport → String
  | wifi => "Wifi"
  | gsm => "Gsm"

def label : Transport → String
  | wifi => "WiFi"
  | gsm => "GSM"

end Transport

def activeText : Option Transport → String
  | none => "None"
  | some t => t.name

/-- The shared record. -/
structure Status where
  wifi : Bool := false
  gsm : Bool := false
  active : Option Transport := none
  changed : Bool := false
deriving DecidableEq, Repr

namespace Status

-- ============================================================== reading

def isConnected (s : Status) : Transport → Bool
  | .wifi => s.wifi
  | .gsm => s.gsm

def isOnline (s : Status) : Bool :=
  s.isConnected .wifi || s.isConnected .gsm

-- ======================================================= single accesses

/-- The indivisible accesses that change the record or speak of it. -/
inductive Access where
  | setFlag (transport : Transport) (connected : Bool)
  | select (transport : Transport)
  /-- reset the selector if it points at this transport -/
  | deselect (transport : Transport)
  /-- read the selector and log the transition -/
  | announce (transport : Transport) (connected : Bool)
  | signal
deriving DecidableEq, Repr

/-- The record after one access. -/
def apply (s : Status) : Access → Status
  | .setFlag .wifi connected => { s with wifi := connected }
  | .setFlag .gsm connected => { s with gsm := connected }
  | .select t => { s with active := some t }
  | .deselect t =>
    if s.active = some t then { s with active := none } else s
  | .announce .. => s
  | .signal => { s with changed := true }

/-- What an access logs. -/
def spoken (s : Status) : Access → List Line
  | .announce t connected =>
    let state := if connected then "connected" else "disconnected"
    [.info s!"{t.label} {state}, active network: {activeText s.active}"]
  | _ => []

/-- The accesses in turn. -/
def applyAll (s : Status) : List Access → Spoken Status
  | [] => pure s
  | access :: rest =>
    let next := applyAll (s.apply access) rest
    ⟨next.value, s.spoken access ++ next.lines⟩

-- ============================================================ operations

/-- The accesses that record a transition of a transport. -/
def notifyAccesses (connected : Bool) (t : Transport) : List Access :=
  [.setFlag t connected,
   if connected then .select t else .deselect t,
   .announce t connected,
   .signal]

/-- Record a transition of a transport. -/
def notify (s : Status) (connected : Bool) (t : Transport) :
    Spoken Status :=
  s.applyAll (notifyAccesses connected t)

/-- Reset the selector if it points at this transport. -/
def release (s : Status) (t : Transport) : Status :=
  s.apply (.deselect t)

-- =============================================================== waiting

/-- Where a task that waits for a connection is. It reads the two flags
one after the other, and sleeps on the signal if both are down. -/
inductive Waiter where
  /-- about to read the first flag -/
  | readWifi
  /-- the first flag was down; about to read the second -/
  | readGsm
  /-- both flags were down; about to look at the signal -/
  | poll
  /-- the signal was clear; asleep until it is raised -/
  | parked
  | online
deriving DecidableEq, Repr

/-- One step of the waiting task. Looking at the signal takes it: it is
clear afterwards, and the flags are read again. -/
def Waiter.step (s : Status) : Waiter → Waiter × Status
  | readWifi => (if s.isConnected .wifi then online else readGsm, s)
  | readGsm => (if s.isConnected .gsm then online else poll, s)
  | poll | parked =>
    if s.changed then (readWifi, { s with changed := false })
    else (parked, s)
  | online => (online, s)

/-- Let the task go on, undisturbed, until it sleeps or is through; `left`
steps are enough. -/
def Waiter.settle : (left : Nat) → Waiter → Status → Waiter × Status
  | 0, w, s => (w, s)
  | left + 1, w, s =>
    let (w, s) := w.step s
    settle left w s

/-- The most steps between two sleeps: three for each signal that was
raised, and there is at most one. -/
def Waiter.settleSteps : Nat := 7

/-- Wait for a connection, but not asleep: the answer says whether there
is one. A signal that was raised while offline is taken. -/
def pollOnline (s : Status) : Bool × Status :=
  let (w, s) := Waiter.settle Waiter.settleSteps .readWifi s
  (w = .online, s)

/-- Take the signal: the answer says whether it was raised. -/
def pollChange (s : Status) : Bool × Status :=
  (s.changed, { s with changed := false })

/-- A wait that is not asleep ends exactly where a flag is up, and takes
the signal only where none is. -/
theorem pollOnline_eq (s : Status) :
    s.pollOnline =
      if s.isOnline then (true, s)
      else (false, { s with changed := false }) := by
  obtain ⟨w, g, a, c⟩ := s
  cases w <;> cases g <;> cases c <;>
    simp [pollOnline, Waiter.settleSteps, Waiter.settle, Waiter.step,
      isOnline, isConnected]

end Status

end Uplink.Network
