/-
The cellular link from power-up to a PPP session.

# What it holds

The manager knows the configuration, whether a channel to the modem has
been made, the access point in use, how far the link is, the last signal
reading and the last error of a connection. The link's shared record is
not among it: whether a session is up is decided there, by the IP stack as
much as by the manager.

# How a connection runs

`sequence` is the list of its steps. Each is either advisory or can end
the connection, and the first that does decides the result. Nothing of a
failed connection is resumed; the next one starts from the first step,
with the access point that was found as the one thing it keeps.
-/
import Uplink.Apn.Detection
import Uplink.Gsm.Steps
import Uplink.Gsm.Surroundings

namespace Uplink.Gsm

open Modem (Session)
open Timing

/-- How far the link is. -/
inductive GsmState where
  | uninitialized
  | hardwareReset
  /-- set up, no session -/
  | idle
  | connecting
  | connected
  | disconnected
  /-- the last connection failed; as good as `idle` -/
  | failed
deriving DecidableEq, Repr

def GsmState.name : GsmState → String
  | uninitialized => "Uninitialized"
  | hardwareReset => "HardwareReset"
  | idle => "Idle"
  | connecting => "Connecting"
  | connected => "Connected"
  | disconnected => "Disconnected"
  | failed => "Failed"

/-- What the manager holds. -/
structure Manager where
  settings : Config.Settings
  /-- a channel to the modem exists -/
  active : Bool := false
  apn : Apn.Chosen := {}
  recorded : GsmState := .uninitialized
  cachedSignal : Int := signalUnknown
  lastError : Option GsmError := none

namespace Manager

/-- A manager with nothing set up. A configured access point is taken
over unless it is empty. -/
def new (settings : Config.Settings) : Spoken Manager := do
  match settings.apnOverride with
  | none => pure { settings }
  | some given =>
    let (accepted, apn) ← Apn.Chosen.accept {} given.apn.text
      given.username.text given.password.text .configured
    if accepted then
      Spoken.say (.info s!"Using configured APN '{apn.apn.text}'")
    else
      Spoken.say (.warn
        "Configured APN override is empty, auto-detecting")
    pure { settings, apn }

/-- How far the link is. The session of a connected link may have ended
since that was recorded. -/
def state (m : Manager) (l : Link) : GsmState :=
  if m.recorded = .connected && !l.connected then .disconnected
  else m.recorded

/-- A program of the manager. -/
abbrev Act (α : Type) : Type :=
  StateT Manager (Proc Surroundings) α

/-- A program that can end a connection. -/
abbrev Attempt (α : Type) : Type :=
  ExceptT GsmError Act α

/-- Make one call on the surroundings. -/
def ask (request : GsmCall) : Act request.Answer :=
  StateT.lift (Surroundings.ask request)

def log (line : Line) : Act Unit :=
  ask (.modem (.log line))

def pause (milliseconds : Nat) : Act Unit :=
  ask (.modem (.pause milliseconds))

/-- A program of the command channel. -/
def session {α : Type} (p : Proc Session α) : Act α :=
  StateT.lift (Surroundings.ofSession p)

/-- Record how far the link is. -/
def enter (s : GsmState) : Act Unit :=
  modify fun m => { m with recorded := s }

-- ======================================================== hardware reset

/-- Cycle the supply and pulse the reset line, up to the first edge that
fails. -/
def pulse : Act (Except PinFault Unit) := ExceptT.run do
  let drive (pin : Pin) (high : Bool) : ExceptT PinFault Act Unit :=
    ExceptT.mk (ask (.drive pin high))
  drive .power false
  pause powerOffPulse
  drive .power true
  pause powerOnSettle
  drive .reset false
  pause resetPulse
  drive .reset true

/-- Pulse the control lines until a pulse is complete or the attempts,
counted by `left`, are used up. -/
def pulseUntilComplete : (left number : Nat) → Act Unit
  | 0, _ => pure ()
  | left + 1, number => do
    match ← pulse with
    | .ok () => pure ()
    | .error e =>
      if left = 0 then
        log (.error
          s!"Modem reset failed ({e.text}), continuing without it")
      else
        let tally := s!"{number}/{hardwareResetAttempts}"
        log (.warn s!"Modem reset attempt {tally} failed: {e.text}")
      pulseUntilComplete left (number + 1)

/-- Reset the modem and let it boot. Control lines that cannot be driven
are logged and never end the set-up. -/
def hardwareReset : Act Unit := do
  enter .hardwareReset
  log (.info "Resetting modem")
  pulseUntilComplete hardwareResetAttempts 1
  pause bootWait

-- ================================================================ set-up

/-- The set-up failed at this stage: nothing is set up. -/
def refuse (stage : InitStage) : Act (Except GsmError Unit) := do
  enter .uninitialized
  pure (.error (.init stage))

/-- Build the interface, its observer and the channel, in this order. If
one of them fails, those before it are taken down in reverse. -/
def build : Act (Except GsmError Unit) := do
  let uart := (← get).settings.uart
  match ← ask (.netif .create) with
  | .error e =>
    log (.error ("PPP interface creation failed: " ++ e.message))
    refuse .networkInterface
  | .ok () =>
    match ← ask (.netif .subscribe) with
    | .error e =>
      log (.error ("PPP event subscription failed: " ++ e.message))
      ask (.netif .destroy)
      refuse .eventObservers
    | .ok () =>
      match ← ask (.build uart) with
      | .error e =>
        log (.error ("Modem driver creation failed: " ++ e.message))
        ask (.netif .unsubscribe)
        ask (.netif .destroy)
        refuse .modemDriver
      | .ok () =>
        modify fun m => { m with active := true }
        enter .idle
        log (.info
          (s!"GSM manager initialized (UART{uart.port} TX{uart.txPin} "
            ++ s!"RX{uart.rxPin} @ {uart.baudRate} baud)"))
        pure (.ok ())

/-- Reset the modem and set everything up, unless that was done. -/
def init : Act (Except GsmError Unit) := do
  if (← get).active then
    log (.debug "GSM manager already initialized")
    pure (.ok ())
  else
    log (.info "Initializing GSM manager")
    hardwareReset
    ask (.record .resetEvents)
    build

-- ============================================================ connecting

/-- A step that can end the connection. -/
def fatal {α : Type} (p : Proc Session (Except GsmError α)) : Attempt α :=
  ExceptT.mk (session p)

/-- A step that cannot. -/
def advisory (p : Proc Session Unit) : Attempt Unit :=
  ExceptT.lift (session p)

/-- A step that can end the connection, and then has the modem say why. -/
def reported (p : Proc Session (Except GsmError Unit)) : Attempt Unit :=
  ExceptT.mk do
    match ← session p with
    | .ok () => pure (.ok ())
    | .error e =>
      session Steps.reportModemError
      pure (.error e)

/-- The session did not come up: leave data mode, have the modem say why,
and end the connection. -/
def abort (why : String) : Act (Except GsmError Unit) := do
  log (.error why)
  session Steps.abortDataSession
  pure (.error .pppTimeout)

/-- Check the signal and keep its strength. -/
def keepSignal : Attempt Unit := do
  match ← fatal Steps.checkSignal with
  | some rssi => modify fun m => { m with cachedSignal := rssi }
  | none => pure ()

/-- Have an access point: the one in use, or else the one that a search
finds. -/
def findAccessPoint : Attempt Unit := ExceptT.mk do
  let m ← get
  if m.apn.isDetected then
    let source := optionText Apn.Source.name m.apn.source
    log (.info s!"Using cached APN '{m.apn.apn.text}' ({source})")
    pure (.ok ())
  else
    log (.info "Detecting APN")
    let (result, apn) ←
      session (Apn.detect m.settings.fallbackApns m.apn)
    set { m with apn }
    match result with
    | .ok source =>
      log (.info s!"APN '{apn.apn.text}' detected via {source.name}")
      pure (.ok ())
    | .error e =>
      log (.error ("APN detection failed: " ++ e.message))
      pure (.error .apnDetectionFailed)

/-- Advisory: give the PPP interface the credentials, if there are any. -/
def authenticate : Act Unit := do
  let apn := (← get).apn
  if apn.hasCredentials then
    match ← ask (.netif
        (.setAuth apn.username.text apn.password.text)) with
    | .ok () =>
      log (.debug
        s!"PPP credentials set for user '{apn.username.text}'")
    | .error e => log (.warn ("PPP credentials rejected: " ++ e.message))

/-- Advisory: define the context with the access point in use. -/
def configureContext : Act Unit := do
  session (Steps.configureContext (← get).apn.apn.text)

/-- Advisory: set the resolvers, let them settle and try them. -/
def setUpResolvers : Act Unit := do
  let dns := (← get).settings.dns
  let host := dns.selfTestHost.text
  match ← ask (.netif (.setDns dns.primary dns.secondary)) with
  | .ok () =>
    log (.info
      s!"DNS servers set: {dns.primary.render} / {dns.secondary.render}")
  | .error e => log (.warn ("DNS configuration failed: " ++ e.message))
  pause dnsStabilizeDelay
  match ← ask (.resolve host dnsSelfTestTimeout) with
  | some (.ok address) =>
    log (.info s!"DNS self-test: {host} -> {address.render}")
  | some (.error e) =>
    log (.warn s!"DNS self-test for {host} failed: {e.message}")
  | none => log (.warn s!"DNS self-test for {host} timed out")

/-- Wait for PPP to come up, set the resolvers up, and confirm that the
session still stands. -/
def awaitSession : Attempt Unit := ExceptT.mk do
  let limit := pppConnectTimeout / 1000
  log (.info s!"Waiting up to {limit} s for PPP")
  match ← ask (.awaitEvent pppConnectTimeout) with
  | some (.ipAcquired _) =>
    setUpResolvers
    if ← ask (.record .markConnected) then pure (.ok ())
    else abort "PPP session dropped during DNS setup"
  | some event => abort ("PPP negotiation failed: " ++ event.text)
  | none => abort s!"PPP did not come up within {limit} s"

/-- The steps of a connection. -/
def sequence : Attempt Unit := do
  advisory Steps.forceCommandMode
  fatal Steps.wakeUp
  keepSignal
  advisory Steps.checkSim
  reported Steps.waitForRegistration
  findAccessPoint
  advisory Steps.waitForGprs
  advisory Steps.ensureAttached
  configureContext
  authenticate
  advisory Steps.deactivateContext
  ask (.record .resetEvents)
  reported Steps.enterDataMode
  awaitSession

/-- Connect, unless that is done or impossible. -/
def connect : Act (Except GsmError Unit) := do
  if !(← get).active then
    log (.error "connect() called before init()")
    pure (.error .notInitialized)
  else if ← ask (.record .isConnected) then
    log (.debug "GSM already connected")
    pure (.ok ())
  else
    log (.info "Connecting GSM")
    enter .connecting
    match ← sequence.run with
    | .ok () =>
      modify fun m =>
        { m with recorded := .connected, lastError := none }
      log (.info "GSM connected")
      pure (.ok ())
    | .error e =>
      log (.error ("GSM connect failed: " ++ e.message))
      modify fun m =>
        { m with recorded := .failed, lastError := some e }
      pure (.error e)

def bringUp : Act (Except GsmError Unit) := do
  match ← init with
  | .ok () => connect
  | .error e => pure (.error e)

-- ========================================================== taking down

/-- Leave data mode and give the session up. -/
def hangUp : Act Unit := do
  log (.info "Disconnecting GSM")
  match ← session (Steps.switchTo .command) with
  | .ok () => pure ()
  | .error e =>
    log (.warn
      ("Could not switch modem to command mode: " ++ e.message))
  ask (.record .markDisconnected)
  enter .disconnected

/-- Give the session up, if anything is set up. -/
def disconnect : Act Unit := do
  if (← get).active then hangUp
  else log (.debug "disconnect() on uninitialized GSM manager")

/-- Take everything down, if anything is set up. -/
def deinit : Act Unit := do
  if (← get).active then
    log (.info "Deinitializing GSM manager")
    disconnect
    modify fun m => { m with active := false }
    ask (.netif .unsubscribe)
    ask (.netif .destroy)
    ask (.record .resetEvents)
    enter .uninitialized
  else log (.debug "GSM manager not initialized, nothing to tear down")

-- ================================================================ signal

/-- The signal strength. With a session up the modem cannot be asked, and
the last reading is returned, as it is when asking fails. -/
def signalStrength : Act Int := do
  let m ← get
  if !m.active then pure signalUnknown
  else if ← ask (.record .isConnected) then pure m.cachedSignal
  else
    match ← session (Proc.ask (I := Session) .quality) with
    | .ok reading =>
      modify fun m => { m with cachedSignal := reading.rssi }
      pure reading.rssi
    | .error e =>
      log (.debug
        s!"Signal query failed ({e.message}), returning cached value")
      pure m.cachedSignal

end Manager

end Uplink.Gsm
