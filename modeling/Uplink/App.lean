/-
What the device as a whole has achieved so far.

The stage moves with the latest news and says nothing else twice: a
change of stage is logged, a repetition is not. The clock, once set,
outlives the loss of the network that set it.
-/
import Uplink.Config.Basic
import Uplink.Gsm.Error
import Uplink.Network.Selection
import Uplink.Time.Sync

namespace Uplink

/-- Where the device is on its way. -/
inductive Stage where
  | uninitialized
  | networkConnecting
  | wifiConnected
  | gsmConnected
  | timeSyncing
  | timeKnown
  | error
deriving DecidableEq, Repr

def Stage.name : Stage → String
  | uninitialized => "Uninitialized"
  | networkConnecting => "NetworkConnecting"
  | wifiConnected => "WifiConnected"
  | gsmConnected => "GsmConnected"
  | timeSyncing => "TimeSyncing"
  | timeKnown => "TimeKnown"
  | error => "Error"

/-- A failure the whole device reports. -/
inductive AppError where
  | network (e : Network.SelectionError)
  | gsm (e : Gsm.GsmError)
  | timeSync (e : Time.TimeSyncError)
  | config (e : Config.ConfigError)
deriving DecidableEq, Repr

def AppError.message : AppError → String
  | network e => "No network: " ++ e.message
  | gsm e => "GSM: " ++ e.message
  | timeSync e => "Time sync failed: " ++ e.message
  | config e => "Configuration: " ++ e.message

/-- The state of the device. -/
structure App where
  stage : Stage := .uninitialized
  transport : Option Network.Transport := none
  clock : Option Time.SyncedClock := none
deriving DecidableEq, Repr

namespace App

/-- Move to a stage; only a change is worth a line. -/
def enter (app : App) (stage : Stage) : Spoken App := do
  if app.stage = stage then pure app
  else
    Spoken.say (.info
      s!"App state: {app.stage.name} -> {stage.name}")
    pure { app with stage := stage }

def connecting (app : App) : Spoken App :=
  enter { app with transport := none } .networkConnecting

def transportUp (app : App) (t : Network.Transport) : Spoken App :=
  enter { app with transport := some t } <|
    match t with
    | .wifi => .wifiConnected
    | .gsm => .gsmConnected

def timeSyncing (app : App) : Spoken App :=
  app.enter .timeSyncing

def timeSynced (app : App) (clock : Time.SyncedClock) : Spoken App :=
  enter { app with clock := some clock } .timeKnown

def failed (app : App) (e : AppError) : Spoken App := do
  Spoken.say (.error ("Application error: " ++ e.message))
  app.enter .error

/-- The time is known, or was once. -/
def timeKnown (app : App) : Bool :=
  app.clock.isSome

/-- What the device is told. -/
inductive News where
  | connecting
  | transportUp (t : Network.Transport)
  | timeSyncing
  | timeSynced (clock : Time.SyncedClock)
  | failed (e : AppError)
deriving DecidableEq, Repr

/-- Take a piece of news in. -/
def hear (app : App) : News → Spoken App
  | .connecting => app.connecting
  | .transportUp t => app.transportUp t
  | .timeSyncing => app.timeSyncing
  | .timeSynced clock => app.timeSynced clock
  | .failed e => app.failed e

end App

end Uplink
