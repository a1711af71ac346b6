/-
How the cellular link fails.
-/

namespace Uplink.Gsm

/-- What was being built when the set-up failed. -/
inductive InitStage where
  | networkInterface
  | eventObservers
  | modemDriver
deriving DecidableEq, Repr

def InitStage.name : InitStage → String
  | networkInterface => "NetworkInterface"
  | eventObservers => "EventObservers"
  | modemDriver => "ModemDriver"

/-- Why the link is not up. -/
inductive GsmError where
  /-- this could not be built -/
  | init (stage : InitStage)
  | notInitialized
  | modemUnresponsive
  | noSignal
  /-- the network turns the modem away -/
  | registrationDenied
  /-- the network does not take the modem in -/
  | registrationTimeout
  | apnDetectionFailed
  | dataModeFailed
  /-- PPP has no address, or lost it again -/
  | pppTimeout
deriving DecidableEq, Repr

namespace GsmError

def name : GsmError → String
  | init _ => "Init"
  | notInitialized => "NotInitialized"
  | modemUnresponsive => "ModemUnresponsive"
  | noSignal => "NoSignal"
  | registrationDenied => "RegistrationDenied"
  | registrationTimeout => "RegistrationTimeout"
  | apnDetectionFailed => "ApnDetectionFailed"
  | dataModeFailed => "DataModeFailed"
  | pppTimeout => "PppTimeout"

/-- The error as the log of another module shows it. -/
def text : GsmError → String
  | init stage => s!"Init({stage.name})"
  | e => e.name

def message : GsmError → String
  | init stage => s!"Initialization failed while creating {stage.name}"
  | notInitialized => "GSM manager is not initialized"
  | modemUnresponsive => "Modem did not answer the wake-up probe"
  | noSignal => "Modem reports no signal"
  | registrationDenied => "Network registration denied"
  | registrationTimeout => "Network registration timed out"
  | apnDetectionFailed => "APN could not be detected"
  | dataModeFailed => "Modem refused to enter data mode"
  | pppTimeout => "PPP did not come up in time"

end GsmError

/-- Why the PPP interface refused something. -/
inductive NetifError where
  | create
  | subscribe
  | noInterface
  | dns
  | resolve
  | auth
deriving DecidableEq, Repr

namespace NetifError

def name : NetifError → String
  | create => "Create"
  | subscribe => "Subscribe"
  | noInterface => "NoInterface"
  | dns => "Dns"
  | resolve => "Resolve"
  | auth => "Auth"

def message : NetifError → String
  | create => "Interface could not be created"
  | subscribe => "Event subscription failed"
  | noInterface => "Interface not created"
  | dns => "DNS configuration rejected"
  | resolve => "Name resolution failed"
  | auth => "PPP authentication rejected"

end NetifError

end Uplink.Gsm
