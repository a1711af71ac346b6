/-
The device: how it starts, and what each of its tasks does in one round.
-/
import Uplink.Board.Cellular
import Uplink.Board.Sntp
import Uplink.Board.Wifi

namespace Uplink.Board.Device

open Network (LinkCall)

/-- How often the link that was chosen is looked at, and how long a choice
that failed is left alone, in milliseconds. -/
def linkCheckInterval : Nat := 5000

/-- How often the status is reported, in milliseconds. -/
def statusInterval : Nat := 60000

/-- How far the seed of the second stack's random numbers is rotated
against that of the first. -/
def seedRotation : UInt64 := 17

-- ============================================================== start-up

/-- Make one call that sets the board up. -/
def setUp (call : SetUpCall) : Proc Board call.Answer :=
  ask (.setUp call)

/-- A number turned to the left within its 64 bits. -/
def rotateLeft (n places : UInt64) : UInt64 :=
  n <<< places ||| n >>> (64 - places)

/-- Two random words, the first one the higher. -/
def drawSeed : Proc Board UInt64 := do
  let high ← setUp .random
  let low ← setUp .random
  pure (high.toUInt64 <<< 32 ||| low.toUInt64)

/-- Start the parts the device cannot do without. -/
def startParts (uart : Config.Uart) :
    ExceptT BootStage (Proc Board) Unit := do
  let seed ← drawSeed
  if !(← setUp .radio) then throw .radio
  if !(← setUp .wifi) then throw .wifi
  setUp (.network .wifi seed)
  setUp (.network .ppp (rotateLeft seed seedRotation))
  if !(← setUp (.line uart.baudRate)) then throw .line
  setUp (.wire uart.txPin uart.rxPin)

/-- Write the lines that were spoken, and go on with the result. -/
def speak {α : Type} (spoken : Spoken α) : Proc Board α := do
  for line in spoken.lines do
    log line
  pure spoken.value

/-- Take the modem's control lines over and make a manager. -/
def startManager (settings : Config.Settings) :
    Proc Board Gsm.Manager := do
  setUp (.claim .power)
  setUp (.claim .reset)
  speak (Gsm.Manager.new settings)

/-- The tasks that run besides the first. -/
def tasks (build : Build) (manager : Gsm.Manager) : List Job :=
  let parts : Parts := { wiring := build.settings.uart }
  [.drive .wifi, .drive .ppp, .ppp,
   .select { credentials := build.credentials, manager, parts },
   .setClock none]

def boot (build : Build) : Proc Board Job := do
  log (.info "Embassy initialized")
  match ← (startParts build.settings.uart).run with
  | .error stage => pure (.halted stage)
  | .ok () =>
    log (.info
      (s!"Modem control lines: power GPIO{controlPin .power}, "
        ++ s!"reset GPIO{controlPin .reset}"))
    let manager ← startManager build.settings
    for job in tasks build manager do
      ask (.spawn job)
    pure .report

-- ================================================================ status

def report : Proc Board Unit := do
  pause statusInterval
  let app ← shared .app
  let status ← shared .status
  let now ← ask .now
  let seconds := app.clock.map (·.unixSecondsAt now)
  log (.info
    (s!"Status: {app.stage.name}, active network "
      ++ s!"{Network.activeText status.active}, "
      ++ s!"UTC {optionText toString seconds}"))

-- ========================================================== connectivity

/-- A program that drives the two links. -/
abbrev LinkAct (α : Type) : Type :=
  StateT Connectivity (Proc Board) α

/-- Bring the cellular link up. -/
def bringUpCellular : LinkAct (Except Gsm.GsmError Unit) := do
  let links ← get
  let ((result, manager), parts) ←
    ((Cellular.runManager Gsm.Manager.bringUp links.manager).run
      links.parts : Proc Board _)
  set { links with manager, parts }
  pure result

/-- The words of an attempt that failed. -/
def wordsOf {ε : Type} (text : ε → String) :
    Except ε Unit → Except String Unit
  | .ok () => .ok ()
  | .error e => .error (text e)

/-- The two links as a selection sees them. -/
def answerLinks : (call : LinkCall) → LinkAct call.Answer
  | .isUp .preferred => Wifi.isUp
  | .isUp .fallback => shared (.record .isConnected)
  | .bringUp .preferred => do
    pure (wordsOf Wifi.WifiError.text
      (← Wifi.bringUp (← get).credentials))
  | .bringUp .fallback => do
    pure (wordsOf Gsm.GsmError.text (← bringUpCellular))
  | .pause milliseconds => pause milliseconds
  | .log line => log line

def select (links : Connectivity) : Proc Board Job := do
  shared (.tell .connecting)
  let p := Network.selectTransport .wifi .gsm
  let (result, links) ← (p.within answerLinks).run links
  match result with
  | .ok transport =>
    shared (.tell (.transportUp transport))
    pure (.watch links)
  | .error e =>
    shared (.tell (.failed (.network e)))
    match links.manager.lastError with
    | some e => log (.warn ("Last GSM failure: " ++ e.message))
    | none => pure ()
    pause linkCheckInterval
    pure (.select links)

/-- Look after the transports. -/
def watch (links : Connectivity) : Proc Board Job := do
  let up ← if ← Wifi.isUp then pure true
    else shared (.record .isConnected)
  if up then
    pause linkCheckInterval
    pure (.watch links)
  else
    log (.warn "Active network lost, selecting again")
    pure (.select links)

-- ================================================================= clock

/-- Set the clock once, and wait until it is time for the next. -/
def setClock (clock : Option Time.SyncedClock) : Proc Board Job := do
  shared (.tell .timeSyncing)
  let (result, clock) ←
    Sntp.runClock (Time.waitAndSync Time.defaultServers) clock
  match result with
  | .ok synced =>
    shared (.tell (.timeSynced synced))
    pause Time.resyncInterval
  | .error e =>
    log (.error ("Time sync failed: " ++ e.message))
    pause Time.failureRetryInterval
  pure (.setClock clock)

-- ================================================================ rounds

def round : Job → Proc Board Job
  | .boot build => boot build
  | .report => do
    report
    pure .report
  | .halted stage => do
    let _ ← await []
    pure (.halted stage)
  | .drive stack => do
    setUp (.drive stack)
    pure .rest
  | .ppp => do
    Ppp.round
    pure .ppp
  | .select links => select links
  | .watch links => watch links
  | .setClock clock => setClock clock
  | .rest => do
    let _ ← await []
    pure .rest

end Uplink.Board.Device
