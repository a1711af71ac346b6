/-
What the tasks on the board share.

# The hand-over

The serial line belongs to the command channel or to the PPP task, and two
signals hand it over: `control` tells the PPP task to start or to stop a
session, `stopped` tells the modem's side that no session runs. A signal
holds one value. Raising it again replaces the value, taking it clears it.

# The rest

Whether the cellular link listens to PPP, the credentials and the
addressing of the session, the record of the link with the network status,
the state of the device, and whether the WiFi driver was started.

Every operation here is one indivisible access. Tasks change places only
where they wait, so accesses in a row with no wait in between are as
indivisible as one.
-/
import Uplink.App
import Uplink.Gsm.Surroundings

namespace Uplink.Board

open Net (IpInfo)
open Network (Status Transport)

/-- What the PPP task is told. -/
inductive Control where
  | start
  | stop
deriving DecidableEq, Repr

def Control.text : Control → String
  | start => "Start"
  | stop => "Stop"

/-- User and password of a PPP session. -/
structure Credentials where
  username : Apn.Credential := .empty
  password : Apn.Credential := .empty
deriving DecidableEq

/-- The shared state. -/
structure Shared where
  control : Option Control := none
  stopped : Bool := false
  /-- the link's record hears what PPP reports -/
  listening : Bool := false
  credentials : Credentials := {}
  /-- the addressing of the session that is up -/
  peer : Option IpInfo := none
  link : Gsm.Link := {}
  app : App := {}
  wifiStarted : Bool := false
deriving DecidableEq

namespace Shared

/-- The indivisible accesses. -/
inductive Access where
  /-- tell the PPP task something -/
  | direct (control : Control)
  | takeControl
  | signalStopped
  /-- take that signal, if it was raised -/
  | clearStopped
  /-- have the link's record hear PPP, or not -/
  | listen (on : Bool)
  | isListening
  | setCredentials (credentials : Credentials)
  | credentials
  | setPeer (info : IpInfo)
  | peer
  | takePeer
  /-- an access of the connecting task to the link's record -/
  | record (call : Gsm.RecordCall)
  | takeEvent
  | ipAcquired (info : IpInfo)
  | ipLost
  | linkStatus (code : Int)
  /-- a transport was connected or disconnected -/
  | notify (connected : Bool) (transport : Transport)
  | status
  | tell (news : App.News)
  | app
  | wifiStarted
  | setWifiStarted
deriving DecidableEq

abbrev Access.Answer : Access → Type
  | direct _ => Unit
  | takeControl => Option Control
  | signalStopped => Unit
  | clearStopped => Unit
  | listen _ => Unit
  | isListening => Bool
  | setCredentials _ => Unit
  | credentials => Credentials
  | setPeer _ => Unit
  | peer => Option IpInfo
  | takePeer => Option IpInfo
  | record call => call.Answer
  | takeEvent => Option Gsm.LinkEvent
  | ipAcquired _ => Unit
  | ipLost => Unit
  | linkStatus _ => Unit
  | notify .. => Unit
  | status => Status
  | tell _ => Unit
  | app => App
  | wifiStarted => Bool
  | setWifiStarted => Unit

/-- Change the record of the link. -/
def withLink (s : Shared) (link : Spoken Gsm.Link) :
    Spoken (Unit × Shared) := do
  pure ((), { s with link := ← link })

/-- The shared state after an access, and what the access answers. -/
def apply (s : Shared) : (a : Access) → Spoken (a.Answer × Shared)
  | .direct control => pure ((), { s with control := some control })
  | .takeControl => pure (s.control, { s with control := none })
  | .signalStopped => pure ((), { s with stopped := true })
  | .clearStopped => pure ((), { s with stopped := false })
  | .listen on => pure ((), { s with listening := on })
  | .isListening => pure (s.listening, s)
  | .setCredentials credentials => pure ((), { s with credentials })
  | .credentials => pure (s.credentials, s)
  | .setPeer info => pure ((), { s with peer := some info })
  | .peer => pure (s.peer, s)
  | .takePeer => pure (s.peer, { s with peer := none })
  | .record call => do
    let (answer, link) ← call.apply s.link
    pure (answer, { s with link })
  | .takeEvent => pure (s.link.event, { s with link := s.link.resetEvents })
  | .ipAcquired info => s.withLink (s.link.onIpAcquired info)
  | .ipLost => s.withLink s.link.onIpLost
  | .linkStatus code => s.withLink (s.link.onLinkStatus code)
  | .notify connected t => s.withLink (s.link.notify connected t)
  | .status => pure (s.link.status, s)
  | .tell news => do
    pure ((), { s with app := ← s.app.hear news })
  | .app => pure (s.app, s)
  | .wifiStarted => pure (s.wifiStarted, s)
  | .setWifiStarted => pure ((), { s with wifiStarted := true })

end Shared

end Uplink.Board
