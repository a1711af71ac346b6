/-
Time server packets: the request, the reply, and the time in it.

A server writes the time as seconds since 1900 in 32 bits and a binary
fraction of 32 more. The seconds run over in 2036. A number of seconds
with its top bit clear is taken to be of the era that starts there, so
the times that can be told reach from 1970 to 2104; what lies between
1968 and 1970 would come before the Unix epoch and is refused.

A reply is only believed if it says that it comes from a server, that the
server is willing and synchronized, and that it was sent at some time at
all. These conditions are checked in a fixed order, and the first that
does not hold is the error.
-/

namespace Uplink.Time

/-- The bytes of a packet. -/
def packetLength : Nat := 48

/-- The port that time servers listen on. -/
def ntpPort : Nat := 123

/-- The seconds between the start of 1900 and the start of 1970. -/
def unixOffset : UInt64 := 2208988800

/-- The seconds of one era. -/
def eraLength : UInt64 := 4294967296

/-- Where in a packet the time of sending stands. -/
def transmitOffset : Nat := 40

-- ================================================================ errors

/-- Why an exchange with a time server brought no time. -/
inductive SntpError where
  /-- the reply has only this many bytes -/
  | shortPacket (length : Nat)
  /-- the reply is in this mode, not in that of a server -/
  | unexpectedMode (mode : UInt8)
  | unsynchronized
  /-- the server asks to be left alone -/
  | kissOfDeath
  | zeroTransmit
  /-- the time of sending lies before the Unix epoch -/
  | beforeUnixEpoch
  | transport
  | timeout
deriving DecidableEq, Repr

namespace SntpError

def name : SntpError → String
  | shortPacket _ => "ShortPacket"
  | unexpectedMode _ => "UnexpectedMode"
  | unsynchronized => "Unsynchronized"
  | kissOfDeath => "KissOfDeath"
  | zeroTransmit => "ZeroTransmit"
  | beforeUnixEpoch => "BeforeUnixEpoch"
  | transport => "Transport"
  | timeout => "Timeout"

def message : SntpError → String
  | shortPacket n => s!"Reply shorter than an NTP header ({n} bytes)"
  | unexpectedMode mode => s!"Unexpected NTP mode {mode}"
  | unsynchronized => "Server is not synchronized"
  | kissOfDeath => "Kiss-o'-death from server"
  | zeroTransmit => "Reply carries no transmit timestamp"
  | beforeUnixEpoch => "Transmit timestamp predates the Unix epoch"
  | transport => "Transport failure"
  | timeout => "No reply in time"

end SntpError

-- ============================================================ timestamps

/-- A time as a packet carries it. -/
structure Timestamp where
  /-- seconds since the start of the era -/
  seconds : UInt32
  /-- in units of 2^-32 seconds -/
  fraction : UInt32
deriving DecidableEq, Repr

namespace Timestamp

def isZero (t : Timestamp) : Bool :=
  t.seconds = 0 && t.fraction = 0

/-- Seconds since 1900, the era made out from the top bit. -/
def extendedSeconds (t : Timestamp) : UInt64 :=
  if t.seconds < 2147483648 then t.seconds.toUInt64 + eraLength
  else t.seconds.toUInt64

/-- The fraction in whole microseconds. -/
def fractionMicros (t : Timestamp) : UInt64 :=
  (t.fraction.toUInt64 * 1000000) >>> 32

/-- Microseconds since the Unix epoch, unless the time lies before it. -/
def unixMicros? (t : Timestamp) : Option UInt64 :=
  if t.extendedSeconds < unixOffset then none
  else some
    ((t.extendedSeconds - unixOffset) * 1000000 + t.fractionMicros)

end Timestamp

-- =============================================================== packets

/-- The request: version 4, the mode of a client, all else zero. -/
def request : List UInt8 :=
  0x23 :: List.replicate (packetLength - 1) 0

/-- A reply that can be believed. -/
structure Reply where
  stratum : UInt8
  transmit : Timestamp
  /-- `transmit` in microseconds since the Unix epoch -/
  unixMicros : UInt64
deriving DecidableEq, Repr

/-- Four bytes as a number, the highest first. -/
def wordAt (packet : List UInt8) (offset : Nat) : UInt32 :=
  (packet.drop offset |>.take 4).foldl
    (fun n b => n * 256 + b.toUInt32) 0

/-- The time of sending. -/
def transmitOf (packet : List UInt8) : Timestamp :=
  ⟨wordAt packet transmitOffset, wordAt packet (transmitOffset + 4)⟩

def readReply (packet : List UInt8) : Except SntpError Reply :=
  match packet with
  | flags :: stratum :: _ =>
    if packet.length < packetLength then .error (.shortPacket packet.length)
    else if flags &&& 7 ≠ 4 then .error (.unexpectedMode (flags &&& 7))
    else if stratum = 0 then .error .kissOfDeath
    else if flags >>> 6 = 3 then .error .unsynchronized
    else
      let transmit := transmitOf packet
      if transmit.isZero then .error .zeroTransmit
      else
        match transmit.unixMicros? with
        | none => .error .beforeUnixEpoch
        | some unixMicros => .ok ⟨stratum, transmit, unixMicros⟩
  | _ => .error (.shortPacket packet.length)

end Uplink.Time
