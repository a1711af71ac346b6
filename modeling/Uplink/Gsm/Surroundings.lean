/-
What the cellular link may ask of its surroundings.

Besides the modem's command channel there are the two control lines of
the modem, the PPP interface of the IP stack, the maker of the channel,
and the shared record of the link. The link's events are waited for with
a limit, and so is the answer of a resolver; everything else is answered
at once.
-/
import Uplink.Config.Basic
import Uplink.Gsm.Error
import Uplink.Gsm.Link
import Uplink.Modem.Session

namespace Uplink.Gsm

open Modem (ChannelError Session SessionCall)
open Net (Address)

/-- The control lines of the modem. Both are high when idle. -/
inductive Pin where
  | power
  /-- the modem is held in reset while it is low -/
  | reset
deriving DecidableEq, Repr

def Pin.name : Pin → String
  | power => "power"
  | reset => "reset"

/-- A control line could not be driven. -/
inductive PinFault where
  | fault
deriving DecidableEq, Repr

def PinFault.text : PinFault → String
  | fault => "PinFault"

/-- The calls on the PPP interface. -/
inductive NetifCall where
  | create
  | destroy
  | subscribe
  | unsubscribe
  | setDns (primary secondary : Address)
  | setAuth (username password : String)
deriving DecidableEq, Repr

abbrev NetifCall.Answer : NetifCall → Type
  | create => Except NetifError Unit
  | destroy => Unit
  | subscribe => Except NetifError Unit
  | unsubscribe => Unit
  | setDns .. => Except NetifError Unit
  | setAuth .. => Except NetifError Unit

/-- The calls on the shared record of the link. -/
inductive RecordCall where
  | isConnected
  | markConnected
  | markDisconnected
  | resetEvents
deriving DecidableEq, Repr

/-- What the record answers: whether the link is connected, or could be
confirmed. -/
abbrev RecordCall.Answer : RecordCall → Type
  | isConnected => Bool
  | markConnected => Bool
  | markDisconnected => Unit
  | resetEvents => Unit

/-- The record after a call, and what the call answers. -/
def RecordCall.apply (l : Link) :
    (call : RecordCall) → Spoken (call.Answer × Link)
  | isConnected => pure (l.connected, l)
  | markConnected => l.markConnected
  | markDisconnected => do
    let l ← l.markDisconnected
    pure ((), l)
  | resetEvents => pure ((), l.resetEvents)

/-- The calls of the cellular link. -/
inductive GsmCall where
  | modem (call : SessionCall)
  | drive (pin : Pin) (high : Bool)
  | netif (call : NetifCall)
  /-- make a channel to the modem; it replaces the one before -/
  | build (uart : Config.Uart)
  | record (call : RecordCall)
  /-- take the next event of the link, within some milliseconds -/
  | awaitEvent (timeout : Nat)
  | resolve (host : String) (timeout : Nat)

/-- What they answer; the two that wait answer `none` if nothing came in
time. -/
abbrev GsmCall.Answer : GsmCall → Type
  | modem call => call.Answer
  | drive .. => Except PinFault Unit
  | netif call => call.Answer
  | build _ => Except ChannelError Unit
  | record call => call.Answer
  | awaitEvent _ => Option LinkEvent
  | resolve .. => Option (Except NetifError Address)

abbrev Surroundings : Interface :=
  ⟨GsmCall, GsmCall.Answer⟩

namespace Surroundings

def ask (request : GsmCall) : Proc Surroundings request.Answer :=
  Proc.ask (I := Surroundings) request

/-- A program of the command channel alone. -/
def ofSession {α : Type} (p : Proc Session α) : Proc Surroundings α :=
  p.within fun call => ask (.modem call)

instance : MonadLift (Proc Session) (Proc Surroundings) :=
  ⟨ofSession⟩

def log (line : Line) : Proc Surroundings Unit :=
  ask (.modem (.log line))

def pause (milliseconds : Nat) : Proc Surroundings Unit :=
  ask (.modem (.pause milliseconds))

end Surroundings

end Uplink.Gsm
