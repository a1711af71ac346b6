/-
The surroundings of the cellular link, on the board.
-/
import Uplink.Board.HandOver
import Uplink.Board.Ppp

namespace Uplink.Board.Cellular

open Gsm (GsmCall LinkEvent Manager)
open Modem (ChannelError)

/-- A program of the surroundings: it reads and moves what they hold. -/
abbrev Act (α : Type) : Type :=
  StateT Parts (Proc Board) α

/-- A program of the command channel. -/
def modem {α : Type} (act : HandOver.Act α) : Act α := do
  let (a, mode) ← (act.run (← get).mode : Proc Board _)
  modify fun p => { p with mode }
  pure a

/-- Make a channel, in command mode and with a fresh port. The line stays
as it is wired, whatever is asked for. -/
def build (uart : Config.Uart) : Act (Except ChannelError Unit) := do
  if uart ≠ (← get).wiring then
    log (.warn
      (s!"Requested UART{uart.port} TX{uart.txPin} RX{uart.rxPin} @ "
        ++ s!"{uart.baudRate} differs from wiring, using the latter"))
  ask (.line (.attach .command))
  modify fun p => { p with mode := .command }
  pure (.ok ())

/-- Take the next event of the link. -/
def takeEvent : Proc Board (Option LinkEvent) := do
  awaitOne .linkEvent
  shared .takeEvent

/-- The surroundings as the cellular link sees them. -/
def answer : (call : GsmCall) → Act call.Answer
  | .modem call => modem (HandOver.answer call)
  | .drive pin high => do
    ask (.drive pin high)
    pure (.ok ())
  | .netif call => Ppp.answer call
  | .build uart => build uart
  | .record call => shared (.record call)
  | .awaitEvent timeout => do
    pure (← (limit timeout takeEvent : Proc Board _)).join
  | .resolve host timeout => limit timeout (Ppp.resolve host)

/-- Run a program of the manager. -/
def runManager {α : Type} (act : Manager.Act α) (m : Manager) :
    Act (α × Manager) :=
  (act.run m).within answer

end Uplink.Board.Cellular
