/-
Collecting an answer: reading until it is settled.

After a command the modem talks in pieces of any size. A collector keeps
what was heard and, after every piece, looks for the token of success,
then for the tokens of failure. The first piece that settles the matter
ends the reading: later bytes belong to somebody else.

The rule is a fold over the readings, one step a piece, so it can be run
against a queue, against bytes that trickle in over time, and against a
list that a statement leaves open.
-/
import Uplink.Text.Split
import Uplink.Modem.Basic

namespace Uplink.Modem

/-- What one read of the serial line brings. -/
inductive Reading where
  /-- these bytes, at least one -/
  | bytes (content : List UInt8)
  | closed
  | fault
deriving DecidableEq, Repr

/-- How an answer was settled. -/
inductive Verdict where
  /-- the token of success is in it -/
  | accepted (response : Response)
  /-- a token of failure is in it, and not that of success -/
  | refused (response : Response)
  /-- it outgrew what is kept -/
  | overflow
  /-- the line gave out before -/
  | broken
deriving DecidableEq, Repr

/-- The token that means failure whatever else was asked for. -/
def genericFailure : List Char := "ERROR".toList

/-- An answer in the making. -/
structure Collector where
  success : List Char
  failure : List Char
  heard : List Char := []
deriving DecidableEq, Repr

/-- The ASCII bytes as characters. All others are noise on the line, as
when the modem boots, and are dropped. -/
def asciiText (bytes : List UInt8) : List Char :=
  (bytes.filter (· < 128)).map fun b => Char.ofNat b.toNat

namespace Collector

/-- A failure token stands in the text. An empty one stands nowhere. -/
def isRefused (c : Collector) (text : List Char) : Bool :=
  (!c.failure.isEmpty && Text.contains c.failure text)
    || Text.contains genericFailure text

/-- Take one piece in. Success is looked for first. -/
def hear (c : Collector) (piece : List UInt8) : Verdict ⊕ Collector :=
  let text := c.heard ++ asciiText piece
  if responseCapacity < text.length then .inl .overflow
  else if Text.contains c.success text then
    .inl (.accepted (String.ofList text))
  else if c.isRefused text then .inl (.refused (String.ofList text))
  else .inr { c with heard := text }

/-- Take one reading in. A read of no bytes means the line was closed. -/
def take (c : Collector) : Reading → Verdict ⊕ Collector
  | .bytes [] => .inl .broken
  | .bytes piece => c.hear piece
  | .closed => .inl .broken
  | .fault => .inl .broken

/-- Take readings in until the answer is settled or none is left, and
return those that were not needed. -/
def run (c : Collector) :
    List Reading → (Verdict ⊕ Collector) × List Reading
  | [] => (.inr c, [])
  | reading :: rest =>
    match c.take reading with
    | .inl verdict => (.inl verdict, rest)
    | .inr c => c.run rest

end Collector

end Uplink.Modem
