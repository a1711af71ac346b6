/-
PPP on the board: the interface, and the task that runs the sessions.

# The interface

What the cellular link sees as its PPP interface is the IP stack over
PPP. It has an address while a session is up, and the resolvers come later
from the link.

# Sessions

The task waits until it is told something. `start` begins a session on the
line, with a fresh port; the session goes on until it ends by itself, the
peer ends it or the task is told something else. Each time the task wakes
it looks first whether the peer ended the session, then what the session
does next, and last whether it was told something.

However the session ends, the stack loses its address, the link's record
hears of it if there was one, and the signal that no session runs is
raised. Being told to stop when no session runs only raises the signal.
-/
import Uplink.Board.Line

namespace Uplink.Board.Ppp

open Gsm (NetifCall NetifError)
open Net (Address IpInfo Subnet)

/-- The length of the network part of an address on a link with two ends.
-/
def hostBits : Nat := 32

/-- The addressing of the stack in a session. -/
def stackConfig (info : IpInfo) (resolvers : List Address) : StackConfig :=
  { address := ⟨info.ip, hostBits⟩, gateway := some info.gateway,
    resolvers }

/-- Set the addressing of the stack. -/
def configure (config : Option StackConfig) : Proc Board Unit :=
  ask (.stack .ppp (.configure config))

-- ========================================================= the interface

/-- A program of the interface: it knows whether it is created. -/
abbrev Act (α : Type) : Type :=
  StateT Parts (Proc Board) α

/-- The stack keeps nothing of a session. -/
def destroy : Act Unit := do
  configure none
  let _ ← shared .takePeer
  modify fun p => { p with created := false }

/-- Have the link's record hear what PPP reports. -/
def subscribe : Act (Except NetifError Unit) := do
  if (← get).created then
    shared (.listen true)
    pure (.ok ())
  else pure (.error .noInterface)

/-- Set the resolvers of the session that is up. -/
def setDns (primary secondary : Address) :
    Proc Board (Except NetifError Unit) := do
  match ← shared .peer with
  | none => pure (.error .noInterface)
  | some info =>
    configure (some (stackConfig info [primary, secondary]))
    pure (.ok ())

def credentials? (username password : String) : Option Credentials := do
  pure {
    username := ← Bounded.ofString? Apn.credentialCapacity username
    password := ← Bounded.ofString? Apn.credentialCapacity password }

/-- Set the credentials of the sessions to come. -/
def setAuth (username password : String) :
    Proc Board (Except NetifError Unit) := do
  match credentials? username password with
  | none => pure (.error .auth)
  | some credentials =>
    shared (.setCredentials credentials)
    pure (.ok ())

/-- The interface as the cellular link sees it. -/
def answer : (call : NetifCall) → Act call.Answer
  | .create => do
    modify fun p => { p with created := true }
    pure (.ok ())
  | .destroy => destroy
  | .subscribe => subscribe
  | .unsubscribe => shared (.listen false)
  | .setDns primary secondary => setDns primary secondary
  | .setAuth username password => setAuth username password

/-- Look a host up over PPP. -/
def resolve (host : String) : Proc Board (Except NetifError Address) := do
  match ← (← ask (.stack .ppp (.resolve host))).settle with
  | some (address :: _) => pure (.ok address)
  | _ => pure (.error .resolve)

-- ======================================================= what it reports

/-- The session is up. An address of our own is all it takes; a peer that
names none of its own is reached through ours. -/
def onUp (address peer : Option Address) : Proc Board Unit := do
  match address with
  | none => log (.warn "PPP up without an address")
  | some ip =>
    let info : IpInfo := ⟨ip, Address.hostMask, peer.getD ip⟩
    configure (some (stackConfig info []))
    shared (.setPeer info)
    if ← shared .isListening then shared (.ipAcquired info)

def onEnd : Proc Board Unit := do
  configure none
  let before ← shared .takePeer
  if ← shared .isListening then
    if before.isSome then shared .ipLost

-- ============================================================== sessions

def send (content : List UInt8) : Proc Board Bool := do
  if ← Line.writeAll content.length content then Line.flush
  else pure false

/-- Do what PPP does in a session, up to an end of its own. -/
def follow : List SessionStep → Proc Board (Option SessionError)
  | [] => do
    let _ ← await []
    pure none
  | .wait milliseconds :: rest => do
    awaitOne (.moment (← ask (.timer milliseconds)).due)
    follow rest
  | .up address peer :: rest => do
    ask (.session .up)
    onUp address peer
    follow rest
  | .send content :: rest => do
    if ← send content then follow rest else pure (some .write)
  | .receive most :: rest => do
    match ← Line.read .session most with
    | none => pure (some .read)
    | some content =>
      ask (.session (.received content))
      follow rest
  | .finish e :: _ => pure (some e)

/-- Go through a session that the peer may end wherever it waits. -/
def goThrough (steps : List SessionStep) : Proc Board SessionError := do
  match ← preempt .sessionEnd (follow steps) with
  | some (some e) => pure e
  | _ => pure ((← ask (.session .takeEnd)).getD .terminated)

/-- Run a session to its end. One that the peer ends as it starts does
nothing. -/
def runSession (credentials : Credentials) : Proc Board SessionError := do
  ask (.line (.attach .session))
  let steps ← ask (.session (.start credentials))
  let e ← match ← ask (.session .takeEnd) with
    | some e => pure e
    | none => goThrough steps
  ask (.session .ended)
  pure e

/-- Run a session until it ends or the task is told something. -/
def supervise : Proc Board Unit := do
  log (.info "PPP session starting")
  let credentials ← shared .credentials
  match ← race .control (runSession credentials) with
  | some e =>
    log (.warn ("PPP session ended: " ++ e.text))
    if ← shared .isListening then shared (.linkStatus (-1))
  | none =>
    let control ← shared .takeControl
    ask (.session .stopped)
    match control with
    | some control =>
      log (.debug s!"PPP session stopped ({control.text})")
    | none => pure ()
  onEnd

def round : Proc Board Unit := do
  awaitOne .control
  match ← shared .takeControl with
  | some .start => supervise
  | _ => pure ()
  shared .signalStopped

end Uplink.Board.Ppp
