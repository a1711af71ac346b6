/-
The shared record of the cellular link.

# Who touches it

The task that connects and disconnects, and the IP stack, which reports
addresses and failures whenever they happen. The record holds whether the
link is connected, the address of the session, and the last event that
nobody has taken yet. It carries the network status along, because a
transition of the link is published there, and parts of that happen under
the same lock.

# Single accesses

As with the network status, each operation is written in indivisible
accesses (`Access`): an exchange of the connected flag, a body under the
address lock, a signal. The body that confirms a connection and the body
that reports a loss both publish the transition before the lock is let go,
so a loss is either seen by the confirmation or undoes it. An operation is
a program over these accesses; run at once, it is the operation as the
tasks of one executor see it.
-/
import Uplink.Net.Address
import Uplink.Network.Status
import Uplink.Proc

namespace Uplink.Gsm

open Net (IpInfo)
open Network (Status Transport)

/-- What the IP stack reports to the task that connects. -/
inductive LinkEvent where
  | ipAcquired (info : IpInfo)
  | ipLost
  | linkFailed (code : Int)
deriving DecidableEq, Repr

def LinkEvent.text : LinkEvent → String
  | ipAcquired info => s!"IpAcquired({info.text})"
  | ipLost => "IpLost"
  | linkFailed code => s!"LinkFailed({code})"

/-- The event says that the session has no address. -/
def LinkEvent.isLoss : LinkEvent → Bool
  | ipAcquired _ => false
  | ipLost => true
  | linkFailed _ => true

/-- The shared record of the link, with the network status. -/
structure Link where
  status : Status := {}
  connected : Bool := false
  address : Option IpInfo := none
  event : Option LinkEvent := none
deriving DecidableEq, Repr

namespace Link

-- ======================================================= single accesses

/-- The indivisible accesses to the record. -/
inductive Access where
  /-- under the lock: confirm the connection and publish it, unless the
  address is gone or a loss was signalled; takes the event -/
  | confirm
  /-- clear the connected flag and tell what it was -/
  | takeConnected
  /-- under the lock: forget the address -/
  | clearAddress
  /-- under the lock: store an address -/
  | setAddress (info : IpInfo)
  /-- under the lock: forget the address, clear the connected flag and
  publish the loss -/
  | dropAddress
  /-- signal an event; one that was not taken is replaced -/
  | signal (event : LinkEvent)
  | forgetEvent
  /-- one access to the network status -/
  | status (access : Status.Access)
  | log (line : Line)

/-- What an access tells: whether the link is (or was) connected. -/
abbrev Access.Answer : Access → Type
  | confirm => Bool
  | takeConnected => Bool
  | _ => Unit

abbrev Accesses : Interface :=
  ⟨Access, Access.Answer⟩

/-- A loss was signalled and not taken yet. -/
def lossPending (l : Link) : Bool :=
  l.event.any LinkEvent.isLoss

/-- The link may be confirmed: it has an address and no loss pends. -/
def confirmable (l : Link) : Bool :=
  !l.lossPending && l.address.isSome

/-- Publish a transition of the cellular transport. -/
def publish (l : Link) (connected : Bool) : Spoken Link := do
  pure { l with status := ← l.status.notify connected .gsm }

/-- The record after one access, and what the access tells. -/
def apply (l : Link) : (a : Access) → Spoken (a.Answer × Link)
  | .confirm =>
    let after : Link := { l with event := none }
    if l.confirmable then do
      let after ← publish { after with connected := true } true
      pure (true, after)
    else pure (false, after)
  | .takeConnected => pure (l.connected, { l with connected := false })
  | .clearAddress => pure ((), { l with address := none })
  | .setAddress info => pure ((), { l with address := some info })
  | .dropAddress => do
    let l ← publish { l with address := none, connected := false } false
    pure ((), l)
  | .signal event => pure ((), { l with event := some event })
  | .forgetEvent => pure ((), { l with event := none })
  | .status access =>
    ⟨((), { l with status := l.status.apply access }),
      l.status.spoken access⟩
  | .log line => ⟨((), l), [line]⟩

/-- A program over the accesses, with no other task in between. -/
def runAll {α : Type} : Proc Accesses α → Link → Spoken (α × Link)
  | .done a, l => pure (a, l)
  | .call access next, l => do
    let (answer, l) ← l.apply access
    runAll (next answer) l

-- ============================================ the connecting task's side

def access (a : Access) : Proc Accesses a.Answer :=
  Proc.ask (I := Accesses) a

/-- The accesses that publish a transition outside of the lock. -/
def publishing : List Status.Access → Proc Accesses Unit
  | [] => pure ()
  | a :: rest => do
    access (.status a)
    publishing rest

/-- The session is up and settled: publish it. Answers whether that was
still true. -/
def confirming : Proc Accesses Bool :=
  access .confirm

/-- The session is given up. A link that was connected is published as
disconnected, one that was not only gives the selector up. -/
def closing : Proc Accesses Unit := do
  let wasConnected ← access .takeConnected
  access .clearAddress
  if wasConnected then publishing (Status.notifyAccesses false .gsm)
  else publishing [.deselect .gsm]

-- ==================================================== the IP stack's side

/-- The session got an address. -/
def acquiring (info : IpInfo) : Proc Accesses Unit := do
  access (.log (.info
    (s!"PPP got IP {info.ip.render} (netmask {info.netmask.render}, "
      ++ s!"gateway {info.gateway.render})")))
  access (.setAddress info)
  access (.signal (.ipAcquired info))

/-- The session lost its address. -/
def losing : Proc Accesses Unit := do
  access (.log (.warn "PPP lost its IP address"))
  access .dropAddress
  access (.signal .ipLost)

/-- PPP reports a condition; 0 means that all is well. -/
def reporting (code : Int) : Proc Accesses Unit := do
  if code = 0 then access (.log (.debug "PPP link status: ok"))
  else
    access (.log (.warn s!"PPP link status error {code}"))
    access (.signal (.linkFailed code))

-- ============================================ operations run at once

/-- `confirming`, with no other task in between. -/
def markConnected (l : Link) : Spoken (Bool × Link) :=
  runAll confirming l

/-- `closing`, with no other task in between. -/
def markDisconnected (l : Link) : Spoken Link := do
  pure (← runAll closing l).2

/-- Forget an event that was not taken. -/
def resetEvents (l : Link) : Link :=
  { l with event := none }

/-- `acquiring`, with no other task in between. -/
def onIpAcquired (l : Link) (info : IpInfo) : Spoken Link := do
  pure (← runAll (acquiring info) l).2

/-- `losing`, with no other task in between. -/
def onIpLost (l : Link) : Spoken Link := do
  pure (← runAll losing l).2

/-- `reporting`, with no other task in between. -/
def onLinkStatus (l : Link) (code : Int) : Spoken Link := do
  pure (← runAll (reporting code) l).2

/-- Another transport, or whoever speaks for one, reports a transition. -/
def notify (l : Link) (connected : Bool) (t : Transport) :
    Spoken Link := do
  pure { l with status := ← l.status.notify connected t }

/-- Give the selector up for a transport. -/
def release (l : Link) (t : Transport) : Link :=
  { l with status := l.status.release t }

end Link

end Uplink.Gsm
