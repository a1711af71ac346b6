/-
The command channel's serial line, on the board.

Each transfer waits for its turn on the line first. A write may take only
some of the bytes, and then the others follow with writes of their own.
-/
import Uplink.Board.Calls
import Uplink.Modem.Channel

namespace Uplink.Board.Line

open Modem (Collector SerialCall Verdict)

/-- Wait until nobody else holds the line. -/
def turn : Proc Board Unit :=
  awaitOne .turn

-- =============================================================== writing

/-- Put out some of the bytes. Answers how many, unless the line failed. -/
def write (content : List UInt8) : Proc Board (Option Nat) := do
  turn
  ask (.line (.write content))

/-- Put out all bytes with at most `left` writes. Answers whether that
went well. -/
def writeAll : (left : Nat) → List UInt8 → Proc Board Bool
  | _, [] => pure true
  | 0, _ => pure false
  | left + 1, content => do
    match ← write content with
    | none => pure false
    | some count => writeAll left (content.drop count)

/-- See that the bytes are sent. Answers whether that went well. -/
def flush : Proc Board Bool := do
  turn
  ask (.line .flush)

-- =============================================================== reading

/-- Wait until a port has something to hand out. -/
def fill (side : Side) : Proc Board Unit := do
  if ← ask (.line (.isSpent side)) then
    turn
    awaitOne (.bytes side)

/-- What a port has to hand out, unless the line failed. -/
def peek (side : Side) : Proc Board (Option (List UInt8)) := do
  fill side
  ask (.line (.peek side))

/-- Take at most some bytes from a port, unless the line failed. -/
def read (side : Side) (most : Nat) :
    Proc Board (Option (List UInt8)) := do
  fill side
  ask (.line (.read side most))

/-- Collect an answer from the port of the command channel. -/
def listen (collector : Collector) : Proc Board (Option Verdict) := do
  if !(← ask (.line (.listen collector))) then
    turn
    awaitOne .verdict
  ask (.line .verdict)

-- ============================================================== the line

/-- The serial line as the command channel sees it. -/
def answer : (call : SerialCall) → Proc Board call.Answer
  | .write content => writeAll content.length content
  | .flush => flush
  | .listen collector timeout => do
    pure (← limit timeout (listen collector)).join
  | .pause milliseconds => pause milliseconds
  | .log line => log line

end Uplink.Board.Line
