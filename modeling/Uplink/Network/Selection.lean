/-
Choosing a transport: WiFi first, the cellular network if WiFi fails.

A link that is up already is taken as it is. One that is not is brought
up, WiFi up to three times with a pause in between, the cellular link
once: its own sequence has its own budgets. The selection records
nothing; each link reports its transitions by itself.
-/
import Uplink.Network.Status
import Uplink.Proc.Retry

namespace Uplink.Network

/-- How often WiFi is brought up before it is given up. -/
def wifiAttempts : Nat := 3

/-- The pause between two attempts, in milliseconds. -/
def wifiPause : Nat := 2000

/-- No transport came up. -/
inductive SelectionError where
  | noTransport
deriving DecidableEq, Repr

def SelectionError.name : SelectionError → String
  | noTransport => "NoTransport"

def SelectionError.message : SelectionError → String
  | noTransport => "Neither WiFi nor GSM could be brought up"

/-- The two links a selection chooses between. -/
inductive Role where
  | preferred
  | fallback
deriving DecidableEq, Repr

/-- The calls on the two links, with a clock and the log. A link that
fails says why, in the words the log shows. -/
inductive LinkCall where
  | isUp (role : Role)
  | bringUp (role : Role)
  | pause (milliseconds : Nat)
  | log (line : Line)

abbrev LinkCall.Answer : LinkCall → Type
  | isUp _ => Bool
  | bringUp _ => Except String Unit
  | pause _ => Unit
  | log _ => Unit

abbrev Links : Interface :=
  ⟨LinkCall, LinkCall.Answer⟩

namespace Links

/-- Ask whether a link is up. -/
def isUp (role : Role) : Proc Links Bool :=
  Proc.ask (I := Links) (.isUp role)

/-- Bring a link up. -/
def bringUp (role : Role) : Proc Links (Except String Unit) :=
  Proc.ask (I := Links) (.bringUp role)

def pause (milliseconds : Nat) : Proc Links Unit :=
  Proc.ask (I := Links) (.pause milliseconds)

def log (line : Line) : Proc Links Unit :=
  Proc.ask (I := Links) (.log line)

end Links

/-- One attempt to have a link up. -/
def attemptLink (role : Role) (transport : Transport) (budget : Nat)
    (number : Nat) (_ : Unit) : Proc Links (Except Unit Unit) := do
  if ← Links.isUp role then pure (.ok ())
  else
    match ← Links.bringUp role with
    | .ok () => pure (.ok ())
    | .error why =>
      Links.log (.warn
        s!"{transport.label} attempt {number}/{budget} failed: {why}")
      pure (.error ())

/-- Have a link up within a number of attempts. -/
def tryLink (role : Role) (transport : Transport) (budget : Nat)
    (pause : Nat) : Proc Links Bool := do
  match ← Proc.retry (fun _ => Links.pause pause)
      (attemptLink role transport budget) budget 1 () with
  | .ok () => pure true
  | .error () => pure false

/-- Have one of the two links up, and say which transport that is. -/
def selectTransport (preferred fallback : Transport) :
    Proc Links (Except SelectionError Transport) := do
  if ← tryLink .preferred preferred wifiAttempts wifiPause then
    Links.log (.info ("Network selected: " ++ preferred.label))
    pure (.ok preferred)
  else
    Links.log (.info
      ("WiFi unavailable, falling back to " ++ fallback.label))
    if ← tryLink .fallback fallback 1 0 then
      Links.log (.info ("Network selected: " ++ fallback.label))
      pure (.ok fallback)
    else pure (.error .noTransport)

end Uplink.Network
