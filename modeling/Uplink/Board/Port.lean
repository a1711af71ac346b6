/-
A port: one side's handle on the serial line, with a small buffer.

Two sides use the line of the modem, the command channel and the PPP
session, each through a port of its own. A port asks the line for more
only when it has handed out everything, so between two reads of the line
its buffer is a queue: bytes leave it in the order in which they came, and
none is dropped or doubled.

A read of no bytes from the line is no end. The port asks again, so it
never hands out nothing to somebody who has room for something.

# Listening

The command channel collects an answer from what its port hands out, in
pieces of at most 64 bytes. What the answer does not need stays in the
port.
-/
import Uplink.Modem.Collector

namespace Uplink.Board

open Modem (Collector Reading Verdict)

/-- The most bytes that a port asks the line for at once. -/
def portCapacity : Nat := 256

/-- A port: what the last read of the line brought, and how much of it was
handed out. -/
structure Port where
  held : List UInt8 := []
  start : Nat := 0
deriving DecidableEq, Repr

namespace Port

/-- What is still to be handed out. -/
def rest (p : Port) : List UInt8 :=
  p.held.drop p.start

/-- Everything was handed out. -/
def isSpent (p : Port) : Bool :=
  p.start = p.held.length

/-- The port after a read of the line. -/
def refill (content : List UInt8) : Port :=
  { held := content }

/-- Skip some bytes, or all if there are not so many. -/
def consume (p : Port) (count : Nat) : Port :=
  { p with start := min (p.start + count) p.held.length }

/-- Skip some bytes, as a machine does it: the sum is made before it is
compared with what is held, and has no answer where a word has no room for
it. -/
def consume? (p : Port) (count : Nat) : Option Port :=
  if p.start + count < USize.size then some (p.consume count) else none

/-- Hand out at most `most` bytes. -/
def read (p : Port) (most : Nat) : List UInt8 × Port :=
  let content := p.rest.take most
  (content, p.consume content.length)

/-- What becomes of a port that is to have something to hand out. -/
inductive Filled where
  | ready
  /-- the line has nothing yet -/
  | starved
  | fault
deriving DecidableEq, Repr

/-- Read the line until there is something to hand out. Returns what
becomes of the port, and the readings that were not needed. -/
def fill (p : Port) : List Reading → Filled × Port × List Reading
  | [] => (if p.isSpent then .starved else .ready, p, [])
  | reading :: rest =>
    if p.isSpent then
      match reading with
      | .bytes content => (refill content).fill rest
      | .closed => (refill []).fill rest
      | .fault => (.fault, p, rest)
    else (.ready, p, reading :: rest)

end Port

-- ============================================================= listening

/-- The most bytes that one read of the command channel takes. -/
def pieceSize : Nat := 64

/-- A port and the answer that is collected from it. -/
structure Listening where
  port : Port
  collector : Collector
  verdict : Option Verdict := none
deriving DecidableEq, Repr

namespace Listening

/-- Collect from what the port holds, piece by piece; `left` pieces are
enough. -/
def drain : (left : Nat) → Listening → Listening
  | 0, l => l
  | left + 1, l =>
    if l.verdict.isSome || l.port.isSpent then l
    else
      let (piece, port) := l.port.read pieceSize
      match l.collector.take (.bytes piece) with
      | .inl verdict => { l with port, verdict := some verdict }
      | .inr collector => drain left { l with port, collector }

/-- Start to listen, with what the port holds. -/
def start (port : Port) (collector : Collector) : Listening :=
  drain port.held.length { port, collector }

/-- Take one read of the line in. -/
def take (l : Listening) : Reading → Listening
  | .bytes content =>
    drain content.length { l with port := Port.refill content }
  | .closed => { l with port := Port.refill [] }
  | .fault => { l with verdict := some .broken }

/-- Read the line until the answer is settled or nothing is left to be
read, and return the readings that were not needed. -/
def run (l : Listening) : List Reading → Listening × List Reading
  | [] => (l, [])
  | reading :: rest =>
    if l.verdict.isSome then (l, reading :: rest)
    else (l.take reading).run rest

end Listening

end Uplink.Board
