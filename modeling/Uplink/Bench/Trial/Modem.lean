/-
Trials of the command channel and of the search for an access point.
-/
import Uplink.Apn.Detection
import Uplink.Bench.World

namespace Uplink.Bench.Trial

open World (Act)

-- =============================================================== channel

/-- One use of the channel. -/
inductive ChannelUse where
  | send (command success failure : String) (timeout : Nat)
  | switch (mode : Modem.Mode)
  | quality

/-- What a use of the channel brings. -/
inductive ChannelResult where
  | response (text : Modem.Response)
  | quality (reading : Modem.SignalQuality)
  | done
  | failed (e : Modem.ChannelError)

/-- The result of a use that says no more than that it went well. -/
def ChannelResult.ofUnit : Except Modem.ChannelError Unit → ChannelResult
  | .ok () => .done
  | .error e => .failed e

/-- A use as a program of the channel. -/
def ChannelUse.program : ChannelUse → Proc Modem.Session ChannelResult
  | .send command success failure timeout => do
    match ← Proc.ask (I := Modem.Session)
        (.exchange command success failure timeout) with
    | .ok text => pure (.response text)
    | .error e => pure (.failed e)
  | .switch mode => do
    pure (.ofUnit (← Proc.ask (I := Modem.Session) (.switch mode)))
  | .quality => do
    match ← Proc.ask (I := Modem.Session) .quality with
    | .ok reading => pure (.quality reading)
    | .error e => pure (.failed e)

/-- A use of the channel, or a new channel. -/
inductive ChannelStep where
  | use (u : ChannelUse)
  /-- take the channel apart and make a new one on the same line -/
  | rebuild

structure ChannelReport where
  result : ChannelResult
  mode : Modem.Mode
  events : List String

def ChannelStep.perform : ChannelStep → Act ChannelResult
  | .use u => World.runSession u.program
  | .rebuild => do
    modify fun w => { w with mode := .command }
    pure .done

/-- Use the channel, step by step. -/
def channel (steps : List ChannelStep) : Act (List ChannelReport) :=
  steps.mapM fun step => do
    let result ← step.perform
    let events ← World.takeEvents
    pure { result, mode := (← get).mode, events }

-- ============================================================= detection

/-- What a search shows. -/
structure SearchReport where
  result : Except Apn.DetectionError Apn.Source
  chosen : Apn.Chosen
  mode : Modem.Mode
  events : List String

/-- Search a number of times, each time with what is in use already. -/
def search (guesses : List Apn.Name) :
    (runs : Nat) → Apn.Chosen → Act (List SearchReport)
  | 0, _ => pure []
  | runs + 1, chosen => do
    let (result, chosen) ← World.runSession (Apn.detect guesses chosen)
    let events ← World.takeEvents
    let report : SearchReport :=
      { result, chosen, mode := (← get).mode, events }
    pure (report :: (← search guesses runs chosen))

/-- Put one choice after the other into the place of the first. -/
def accept (chosen : Apn.Chosen) :
    List (String × String × String × Apn.Source) →
      Spoken (List (Bool × Apn.Chosen))
  | [] => pure []
  | (apn, username, password, source) :: rest => do
    let (accepted, chosen) ← chosen.accept apn username password source
    pure ((accepted, chosen) :: (← accept chosen rest))

end Uplink.Bench.Trial
