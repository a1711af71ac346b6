/-
The vocabulary of the modem's command channel: its two modes, what it
measures, what it answers, and how an exchange can fail.
-/
import Uplink.Text.Blank

namespace Uplink.Modem

/-- How many characters of an answer are kept. An answer that is longer
is refused, never cut. -/
def responseCapacity : Nat := 256

/-- The escape from data to command mode. It is the one command that is
sent without a line end. -/
def escapeSequence : String := "+++"

/-- What an exchange with the modem brings back: ASCII text. -/
abbrev Response := String

/-- What the serial line carries. -/
inductive Mode where
  /-- commands and their answers -/
  | command
  | data
deriving DecidableEq, Repr

def Mode.name : Mode → String
  | command => "Command"
  | data => "Data"

/-- A reading of the radio signal. -/
structure SignalQuality where
  /-- strength from 0 to 31, or 99 when it cannot be told -/
  rssi : Int
  /-- bit error rate from 0 to 7, or 99 when it cannot be told -/
  ber : Int
deriving DecidableEq, Repr

/-- Why an exchange with the modem brought no answer. -/
inductive ChannelError where
  /-- neither token came within the time allowed -/
  | timeout (milliseconds : Nat)
  /-- an error token came, in this answer -/
  | errorResponse (response : Response)
  /-- the serial line failed or was closed -/
  | io
  /-- the answer outgrew what is kept of it -/
  | overflow
  /-- the modem did not follow into this mode -/
  | modeSwitch (mode : Mode)
  /-- the answer does not say what was asked for -/
  | malformed (what : String)
deriving DecidableEq, Repr

namespace ChannelError

def name : ChannelError → String
  | timeout _ => "Timeout"
  | errorResponse _ => "ErrorResponse"
  | io => "Io"
  | overflow => "Overflow"
  | modeSwitch _ => "ModeSwitch"
  | malformed _ => "Malformed"

def message : ChannelError → String
  | timeout ms => s!"No terminator received within {ms} ms"
  | errorResponse response => "Modem answered with an error: " ++ response
  | io => "Serial I/O failure"
  | overflow => "Response exceeded the receive buffer"
  | modeSwitch mode => s!"Could not switch modem to {mode.name} mode"
  | malformed what => "Malformed response: " ++ what

end ChannelError

/-- The longest wait a timer can be set to, in milliseconds. -/
def longestWait : Nat := 4294967295

/-- A wait as a timer can hold it. -/
def clampWait (milliseconds : Nat) : Nat :=
  min milliseconds longestWait

end Uplink.Modem
