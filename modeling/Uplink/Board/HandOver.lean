/-
The command channel that hands the line over to PPP.

In data mode the line belongs to the PPP task. A dial that was connected
tells it to start; whoever wants to escape from data mode has it stop
first, and waits until no session runs. Only then is the escape sent, so
the channel and a session never use the line at the same time.

A session that ended by itself has raised the signal already. A dial
clears it, and with it what an earlier session left behind.
-/
import Uplink.Board.Line

namespace Uplink.Board.HandOver

open Modem (ChannelError Mode Response)

variable {α : Type}

/-- A program of the channel: it reads and moves the remembered mode. -/
abbrev Act (α : Type) : Type :=
  StateT Mode (Proc Board) α

/-- A program of the plain channel, on the line of the board. -/
def channel (act : Modem.Channel.Act α) : Act α := fun mode =>
  (act.run mode).within Line.answer

/-- Have the session end, and wait until it has. -/
def stopSession : Proc Board Unit := do
  shared (.direct .stop)
  awaitOne .stopped
  shared .clearStopped

/-- The line is in data mode: have a session start. -/
def startSession : Proc Board Unit := do
  shared .clearStopped
  shared (.direct .start)

/-- One exchange. An escape from data mode ends the session first. -/
def exchange (command success failure : String) (timeout : Nat) :
    Act (Except ChannelError Response) := do
  if command = Modem.escapeSequence && (← get) = .data then
    stopSession
  channel (Modem.Channel.exchange command success failure timeout)

/-- Bring the line into a mode. Data mode starts a session, even where it
holds already; command mode ends it first. -/
def switch : Mode → Act (Except ChannelError Unit)
  | .data => do
    match ← channel (Modem.Channel.switch .data) with
    | .ok () =>
      startSession
      pure (.ok ())
    | .error e => pure (.error e)
  | .command => do
    if (← get) = .data then stopSession
    channel (Modem.Channel.switch .command)

/-- The channel as an implementation of the command channel interface. -/
def answer : (call : Modem.SessionCall) → Act call.Answer
  | .exchange command success failure timeout =>
    exchange command success failure timeout
  | .switch mode => switch mode
  | call => channel (Modem.Channel.answer call)

end Uplink.Board.HandOver
