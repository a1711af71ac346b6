/-
The steps of a connection that talk to the modem.

They run in the order in which they stand here, between them the search
for the access point and the call to the PPP interface. A step that
answers `Except GsmError` can end the connection; the others are
advisory: what they find out is logged, what they fail at as well, and
the connection goes on.
-/
import Uplink.Apn.Basic
import Uplink.Gsm.Error
import Uplink.Gsm.Timing
import Uplink.Modem.Reply
import Uplink.Modem.Session
import Uplink.Proc.Retry

namespace Uplink.Gsm.Steps

open Modem (Session Mode)
open Modem.Reply (Registration)
open Timing

def sendEscape : Proc Session (Except Modem.ChannelError Unit) := do
  match ← Proc.ask (I := Session)
      (.exchange Modem.escapeSequence "OK" "ERROR" escapeTimeout) with
  | .ok _ => pure (.ok ())
  | .error e => pure (.error e)

/-- Bring the line into a mode. -/
def switchTo (mode : Mode) : Proc Session (Except Modem.ChannelError Unit) :=
  Proc.ask (I := Session) (.switch mode)

/-- Advisory: have commands interpreted, by an escape or else by a
switch. -/
def forceCommandMode : Proc Session Unit := do
  match ← sendEscape with
  | .ok () => Session.log (.debug "Escape sequence acknowledged")
  | .error e =>
    Session.log (.debug
      (s!"Escape sequence not acknowledged ({e.message}), "
        ++ "setting command mode"))
    match ← switchTo .command with
    | .ok () => pure ()
    | .error e =>
      Session.log (.warn ("Could not force command mode: " ++ e.message))

-- ============================================================= waking up

def probe (number : Nat) (_ : Unit) : Proc Session (Except Unit Unit) := do
  match ← Session.query "AT" probeTimeout with
  | .ok _ =>
    Session.log (.info
      s!"Modem responsive (attempt {number}/{wakeAttempts})")
    pure (.ok ())
  | .error e =>
    let tally := s!"{number}/{wakeAttempts}"
    Session.log (.debug s!"Wake-up probe {tally} failed: {e.message}")
    pure (.error ())

/-- Probe the modem until it answers. -/
def wakeUp : Proc Session (Except GsmError Unit) := do
  let pause := fun _ => Session.pause wakeInterval
  match ← Proc.retry pause probe wakeAttempts 1 () with
  | .ok () => pure (.ok ())
  | .error () =>
    Session.log (.error s!"Modem unresponsive after {wakeAttempts} probes")
    pure (.error .modemUnresponsive)

-- ================================================================ signal

/-- Advisory: log the functionality level. -/
def reportFunctionality : Proc Session Unit := do
  match ← Session.query "AT+CFUN?" queryTimeout with
  | .ok response =>
    match Modem.Reply.functionality? response with
    | some level =>
      Session.log (.info s!"Modem functionality level: {level}")
    | none => Session.log (.debug "Unparsed +CFUN response")
  | .error e =>
    Session.log (.warn ("Functionality query failed: " ++ e.message))

/-- Read the signal. A reading that says there is none ends the
connection; a reading that fails does not. -/
def readSignal : Proc Session (Except GsmError (Option Int)) := do
  match ← Proc.ask (I := Session) .quality with
  | .ok ⟨rssi, ber⟩ =>
    if rssi = rssiNoSignal then
      Session.log (.error s!"No signal (rssi {rssi}, ber {ber})")
      pure (.error .noSignal)
    else
      if rssi < rssiWeakThreshold then
        Session.log (.warn
          s!"Weak signal (rssi {rssi}, ber {ber}), continuing")
      else
        Session.log (.info s!"Signal quality: rssi {rssi}, ber {ber}")
      pure (.ok (some rssi))
  | .error e =>
    Session.log (.warn ("Signal quality query failed: " ++ e.message))
    pure (.ok none)

/-- Functionality, then signal. The strength is returned if it could be
read. -/
def checkSignal : Proc Session (Except GsmError (Option Int)) := do
  reportFunctionality
  readSignal

/-- Advisory: give a SIM that is not ready some time. -/
def checkSim : Proc Session Unit := do
  let ready ← do
    match ← Session.query "AT+CPIN?" queryTimeout with
    | .ok response => pure (Modem.Reply.simReady response)
    | .error e =>
      Session.log (.warn ("SIM status query failed: " ++ e.message))
      pure false
  if ready then Session.log (.info "SIM ready")
  else
    Session.log (.warn s!"SIM not ready, waiting {simNotReadyDelay} ms")
    Session.pause simNotReadyDelay

-- ========================================================== registration

/-- What a poll can settle: registered as so, or denied. -/
abbrev PollResult : Type :=
  Except (Option Registration) Registration

/-- One poll for registration. What is carried from poll to poll is the
last state that could be read. -/
def poll (command marker : String) (budget number : Nat)
    (last : Option Registration) :
    Proc Session (Except (Option Registration) PollResult) := do
  match ← Session.query command queryTimeout with
  | .ok response =>
    let state := Modem.Reply.registration? response marker
    let shown := optionText Registration.name state
    Session.log (.debug s!"{command} poll {number}/{budget}: {shown}")
    match state with
    | none => pure (.error last)
    | some state =>
      if state.isRegistered then pure (.ok (.ok state))
      else if state = .denied then pure (.ok (.error (some .denied)))
      else pure (.error (some state))
  | .error e =>
    let tally := s!"{number}/{budget}"
    Session.log (.debug s!"{command} poll {tally} failed: {e.message}")
    pure (.error last)

/-- Poll until registered, denied or out of polls. -/
def pollRegistration (command marker : String) (budget interval : Nat) :
    Proc Session PollResult := do
  let pause := fun _ => Session.pause interval
  match ← Proc.retry pause (poll command marker budget) budget 1 none with
  | .ok settled => pure settled
  | .error last => pure (.error last)

/-- Wait for the network to take the modem in. -/
def waitForRegistration : Proc Session (Except GsmError Unit) := do
  Session.log (.info "Waiting for network registration")
  match ← pollRegistration "AT+CREG?" "+CREG:" registrationAttempts
      registrationPollInterval with
  | .ok state =>
    Session.log (.info ("Registered on network: " ++ state.name))
    pure (.ok ())
  | .error (some .denied) =>
    Session.log (.error "Network registration denied")
    pure (.error .registrationDenied)
  | .error last =>
    let shown := optionText Registration.name last
    Session.log (.error
      (s!"Network registration timed out after {registrationAttempts} "
        ++ s!"attempts (last status {shown})"))
    pure (.error .registrationTimeout)

/-- Advisory: wait for the packet domain to take the modem in. -/
def waitForGprs : Proc Session Unit := do
  Session.log (.info "Waiting for GPRS registration")
  match ← pollRegistration "AT+CGREG?" "+CGREG:" gprsAttempts
      gprsPollInterval with
  | .ok state => Session.log (.info ("GPRS registered: " ++ state.name))
  | .error last =>
    let shown := optionText Registration.name last
    Session.log (.warn
      (s!"GPRS registration not confirmed (last status {shown}), "
        ++ "continuing"))

-- ========================================================= packet domain

/-- Advisory: attach to the packet domain if the modem is not. -/
def ensureAttached : Proc Session Unit := do
  let attached ← do
    match ← Session.query "AT+CGATT?" queryTimeout with
    | .ok response =>
      pure ((Modem.Reply.attachState? response).getD false)
    | .error e =>
      Session.log (.debug ("Attach state query failed: " ++ e.message))
      pure false
  if attached then Session.log (.info "Packet domain attached")
  else
    Session.log (.info "Attaching to packet domain")
    match ← Session.query "AT+CGATT=1" attachTimeout with
    | .ok _ => pure ()
    | .error e =>
      Session.log (.warn
        s!"Packet domain attach failed: {e.message}, continuing")
    Session.pause attachSettle

/-- The command that defines context 1. -/
def contextCommand (apn : String) : String :=
  "AT+CGDCONT=1,\"IP\",\"" ++ apn ++ "\""

/-- The bytes a command that is put together may take. -/
def commandCapacity : Nat := 128

/-- Advisory: define context 1 with the access point. -/
def configureContext (apn : String) : Proc Session Unit := do
  let command := contextCommand apn
  if command.utf8ByteSize ≤ commandCapacity then
    match ← Session.query command contextTimeout with
    | .ok _ =>
      Session.log (.info s!"PDP context configured with APN '{apn}'")
    | .error e =>
      Session.log (.warn
        s!"PDP context configuration failed: {e.message}, continuing")
  else
    Session.log (.warn
      s!"APN '{apn}' too long for PDP command, skipping")

/-- Advisory: drop a context that an earlier session left active. -/
def deactivateContext : Proc Session Unit := do
  match ← Session.query "AT+CGACT=0,1" contextDeactivateTimeout with
  | .ok _ => pure ()
  | .error e =>
    Session.log (.debug ("PDP deactivation ignored: " ++ e.message))

-- ============================================================= data mode

/-- One switch to data mode. -/
def attemptDataMode (number : Nat) (_ : Unit) :
    Proc Session (Except Unit Unit) := do
  let tally := s!"{number}/{dataModeAttempts}"
  match ← switchTo .data with
  | .ok () =>
    Session.log (.info s!"Modem in data mode (attempt {tally})")
    pure (.ok ())
  | .error e =>
    Session.log (.warn s!"Data mode attempt {tally} failed: {e.message}")
    pure (.error ())

/-- Switch to data mode, with a pause before trying again. -/
def enterDataMode : Proc Session (Except GsmError Unit) := do
  let pause := fun _ => Session.pause dataModeBackoff
  match ← Proc.retry pause attemptDataMode dataModeAttempts 1 () with
  | .ok () => pure (.ok ())
  | .error () => pure (.error .dataModeFailed)

-- ============================================================ afterwards

/-- Ask the modem why the last call failed, for the log. -/
def reportModemError : Proc Session Unit := do
  match ← Session.query "AT+CEER" errorReportTimeout with
  | .ok response =>
    Session.log (.error
      ("Modem error report: " ++ Text.trimmed response))
  | .error e =>
    Session.log (.debug ("Error report unavailable: " ++ e.message))

/-- Leave a session that did not come up. -/
def abortDataSession : Proc Session Unit := do
  match ← switchTo .command with
  | .ok () => pure ()
  | .error e =>
    Session.log (.warn ("Could not return to command mode: " ++ e.message))
  reportModemError

end Uplink.Gsm.Steps
