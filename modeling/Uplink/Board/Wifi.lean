/-
The WiFi link.

The driver is configured and started once; later attempts only connect.
The link is up when the driver is connected and the network status says
so, and the status is told of every attempt, whichever way it ends.
-/
import Uplink.Board.Calls

namespace Uplink.Board.Wifi

/-- How long a network may take to hand out an address. -/
def leaseTimeout : Nat := 15000

/-- Why the link is not up. -/
inductive WifiError where
  /-- the build has no network to join -/
  | noCredentials
  | driver (fault : WifiFault)
  /-- the network hands out no address -/
  | noLease
deriving DecidableEq, Repr

namespace WifiError

def name : WifiError → String
  | noCredentials => "NoCredentials"
  | driver _ => "Driver"
  | noLease => "DhcpTimeout"

/-- The error as the log of another module shows it. -/
def text : WifiError → String
  | driver fault => s!"Driver({fault.name})"
  | e => e.name

def message : WifiError → String
  | noCredentials => "No WiFi credentials compiled in"
  | driver fault => s!"WiFi driver error: {fault.name}"
  | noLease => "No DHCP lease in time"

end WifiError

/-- A program of the link that can fail. -/
abbrev Attempt (α : Type) : Type :=
  ExceptT WifiError (Proc Board) α

/-- Take the driver's answer. -/
def driven (p : Proc Board (Except WifiFault Unit)) : Attempt Unit :=
  ExceptT.mk do
    match ← p with
    | .ok () => pure (.ok ())
    | .error fault => pure (.error (.driver fault))

/-- Configure and start the driver. -/
def start (ssid password : String) : Attempt Unit := do
  driven (ask (.wifi (.configure ssid password)))
  driven do (← ask (.wifi .start)).settle
  shared .setWifiStarted

def awaitLease : Attempt Unit := ExceptT.mk do
  match ← limit leaseTimeout (awaitOne (.configured .wifi)) with
  | some () => pure (.ok ())
  | none => pure (.error .noLease)

def join (ssid password : String) : Attempt Unit := do
  if !(← shared .wifiStarted) then start ssid password
  log (.info s!"Connecting to WiFi '{ssid}'")
  driven do (← ask (.wifi .connect)).settle
  ask (.wifi .join)
  awaitLease
  match ← ask (.stack .wifi .config) with
  | some config =>
    log (.info ("WiFi address " ++ config.address.render))
  | none => pure ()

/-- Join the network of the build, if it has one. -/
def connect : Option (String × String) → Attempt Unit
  | some (ssid, password) => join ssid password
  | none => throw .noCredentials

/-- Bring the link up, and say how that went. -/
def bringUp (credentials : Option (String × String)) :
    Proc Board (Except WifiError Unit) := do
  match ← (connect credentials).run with
  | .ok () =>
    shared (.notify true .wifi)
    pure (.ok ())
  | .error e =>
    log (.warn ("WiFi bring-up failed: " ++ e.message))
    shared (.notify false .wifi)
    pure (.error e)

def isUp : Proc Board Bool := do
  if (← shared .status).isConnected .wifi then ask (.wifi .isConnected)
  else pure false

end Uplink.Board.Wifi
