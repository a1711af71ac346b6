/-
A serial port with a scripted modem behind it.

Bytes that are written gather until they are flushed; a flush is one
transmission, and the modem answers each transmission as the scripts say.
Answers queue up for reading, and nothing is lost if nobody reads: what an
exchange leaves behind waits for the next one.

A piece of an answer may come late. Pieces are read strictly in order, so
one that is late holds up those behind it.
-/
import Uplink.Bench.Script
import Uplink.Modem.Channel
import Uplink.Text.Hex

namespace Uplink.Bench

open Modem (Reading)

/-- One piece of an answer. -/
inductive Piece where
  | reading (r : Reading)
  /-- what follows comes this many milliseconds later -/
  | wait (milliseconds : Nat)

/-- What the modem says to one transmission. -/
abbrev Answer : Type := List Piece

/-- The port. Times are in microseconds. -/
structure SerialPort where
  /-- written and not yet flushed -/
  outgoing : List UInt8 := []
  /-- to be read, each with the time of its arrival -/
  incoming : List (Nat × Reading) := []
  /-- answers to the next transmissions, whatever they are -/
  replies : List Answer := []
  /-- answers to known commands -/
  scripts : List (String × Script Answer) := []
  fallback : Answer
  /-- how many bytes can still be written, if that is limited -/
  room : Option Nat := none
  /-- how often the port was flushed -/
  flushes : Nat := 0
  /-- which flushes fail, counted from 1 -/
  badFlushes : List Nat := []
  /-- how many bytes one write takes at most, if that is limited -/
  writeSize : Option Nat := none

namespace SerialPort

/-- A piece of text. -/
def textPiece (s : String) : Piece :=
  .reading (.bytes s.toUTF8.toList)

/-- What a modem answers unless told otherwise. -/
def plainOk : Answer :=
  [textPiece "\r\nOK\r\n"]

/-- The commands a modem knows unless told otherwise. -/
def builtInScripts : List (String × Script Answer) :=
  [("ATD*99#", ⟨[[textPiece "\r\nCONNECT\r\n"]]⟩),
   ("AT+CSQ", ⟨[[textPiece "\r\n+CSQ: 20,0\r\n\r\nOK\r\n"]]⟩)]

/-- Some bytes as an event shows them: as text, or else as digits. -/
def eventText (kind : String) (bytes : List UInt8) : String :=
  match String.fromUTF8? ⟨bytes.toArray⟩ with
  | some text => kind ++ " " ++ text
  | none => kind ++ "hex " ++ Text.hexText bytes

/-- The command in a transmission: the text without one carriage return
at its end. -/
def commandOf? (bytes : List UInt8) : Option String :=
  let body :=
    if bytes.getLast? = some 13 then bytes.dropLast else bytes
  String.fromUTF8? ⟨body.toArray⟩

-- =============================================================== writing

/-- One write: how many bytes were taken, or `none` if there is no room
for any. -/
def write (p : SerialPort) (bytes : List UInt8) :
    Option (Nat × SerialPort) :=
  let wanted := match p.writeSize with
    | some most => min most bytes.length
    | none => bytes.length
  let taken := match p.room with
    | some room => min room wanted
    | none => wanted
  if taken = 0 && wanted ≠ 0 then none
  else
    some (taken, { p with
      outgoing := p.outgoing ++ bytes.take taken
      room := p.room.map (· - taken) })

/-- The writes it takes to put out all bytes, at most `left` of them.
Answers whether they all went through. -/
def writeAll : (left : Nat) → SerialPort → List UInt8 → Bool × SerialPort
  | _, p, [] => (true, p)
  | 0, p, _ => (false, p)
  | left + 1, p, bytes =>
    match p.write bytes with
    | none => (false, p)
    | some (taken, p) => writeAll left p (bytes.drop taken)

/-- What is written and not flushed is lost. -/
def discard (p : SerialPort) : SerialPort :=
  { p with outgoing := [] }

-- =============================================================== answering

/-- Queue the pieces of an answer from a time on. Empty pieces of data are
left out. -/
def arrivals : (time : Nat) → Answer → List (Nat × Reading)
  | _, [] => []
  | time, .wait ms :: rest => arrivals (time + 1000 * ms) rest
  | time, .reading (.bytes []) :: rest => arrivals time rest
  | time, .reading r :: rest => (time, r) :: arrivals time rest

def receive (p : SerialPort) (time : Nat) (answer : Answer) : SerialPort :=
  { p with incoming := p.incoming ++ arrivals time answer }

/-- The answer of the script for a command, if there is one. -/
def scripted (command : String) :
    List (String × Script Answer) →
      Option Answer × List (String × Script Answer)
  | [] => (none, [])
  | (key, script) :: rest =>
    if key = command then
      let (answer, script) := script.next
      (answer, (key, script) :: rest)
    else
      let (answer, rest) := scripted command rest
      (answer, (key, script) :: rest)

/-- The modem's answer to a transmission. -/
def respond (p : SerialPort) (sent : List UInt8) : Answer × SerialPort :=
  match p.replies with
  | reply :: rest => (reply, { p with replies := rest })
  | [] =>
    match commandOf? sent with
    | none => (p.fallback, p)
    | some command =>
      let (answer, scripts) := scripted command p.scripts
      (answer.getD p.fallback, { p with scripts })

/-- One flush at a time: whether it went through, what was sent or lost,
and the port with the answer queued. -/
def flush (p : SerialPort) (time : Nat) :
    Bool × List UInt8 × SerialPort :=
  let sent := p.outgoing
  let p := { p with outgoing := [], flushes := p.flushes + 1 }
  if p.badFlushes.contains p.flushes then (false, sent, p)
  else
    let (answer, p) := p.respond sent
    (true, sent, p.receive time answer)

-- =============================================================== reading

/-- The reads of at most `most` bytes that it takes to read all there is
in one piece. -/
def split (most : Nat) : (left : Nat) → List UInt8 → List Reading
  | _, [] => []
  | 0, _ => []
  | left + 1, bytes =>
    .bytes (bytes.take most) :: split most left (bytes.drop most)

/-- The pieces that have arrived at a time, up to the first that has not,
and the others. -/
def arrivedBy (p : SerialPort) (time : Nat) :
    List Reading × List (Nat × Reading) :=
  let (here, later) := p.incoming.span (·.1 ≤ time)
  (here.map (·.2), later)

/-- What reads of at most `most` bytes find at a time. -/
def readings (p : SerialPort) (time most : Nat) : List Reading :=
  (p.arrivedBy time).1.flatMap fun r =>
    match r with
    | .bytes bytes => split most bytes.length bytes
    | r => [r]

/-- The port with these readings left of what has arrived at a time. -/
def leave (p : SerialPort) (time : Nat) (rest : List Reading) :
    SerialPort :=
  let here := rest.map fun r => (time, r)
  { p with incoming := here ++ (p.arrivedBy time).2 }

/-- When the next piece arrives that is not here at a time. -/
def nextArrival? (p : SerialPort) (time : Nat) : Option Nat :=
  match p.incoming with
  | (arrival, _) :: _ => if time < arrival then some arrival else none
  | [] => none

end SerialPort

end Uplink.Bench
