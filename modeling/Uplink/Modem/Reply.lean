/-
What the modem's answers say.

Each reader takes the whole text of an answer and finds its value in it.
Noise around the value is expected: an echoed command, blank lines, a
final `OK`. None of the readers fails on anything but the absence of its
value, and a number out of range counts as absent.

Registration, signal, functionality, attachment, SIM state and operator
stand on the first line that contains the command's marker (`valueOf?`).
The packet data contexts are lines of their own that start with theirs.
-/
import Uplink.Text.Blank
import Uplink.Text.Numeral
import Uplink.Text.Split
import Uplink.Modem.Basic

namespace Uplink.Modem.Reply

open Uplink.Text

-- =========================================================== registration

/-- Where the modem stands with the network. -/
inductive Registration where
  | notSearching
  | registeredHome
  | searching
  | denied
  | unknown
  | registeredRoaming
deriving DecidableEq, Repr

namespace Registration

/-- The state that the network standard gives a code. -/
def ofCode? : Nat → Option Registration
  | 0 => some notSearching
  | 1 => some registeredHome
  | 2 => some searching
  | 3 => some denied
  | 4 => some unknown
  | 5 => some registeredRoaming
  | _ => none

/-- The network serves the modem, at home or as a guest. -/
def isRegistered : Registration → Bool
  | registeredHome | registeredRoaming => true
  | _ => false

def name : Registration → String
  | notSearching => "NotSearching"
  | registeredHome => "RegisteredHome"
  | searching => "Searching"
  | denied => "Denied"
  | unknown => "Unknown"
  | registeredRoaming => "RegisteredRoaming"

end Registration

-- ================================================================= fields

/-- What follows the marker on the first line that contains it, without
the blanks around it. -/
def valueOf? (marker : String) (text : List Char) : Option (List Char) :=
  (lines text).findSome? fun line =>
    (after? marker.toList line).map trim

/-- The part of a text between its quotes: before the first quote is
field 0's outside, then a value, then an outside, and so on. -/
def quotedChars? (index : Nat) (text : List Char) : Option (List Char) :=
  (fields '"' text)[2 * index + 1]?

/-- The quoted value with this index, counted from 0. -/
def quotedField? (text : String) (index : Nat) : Option String :=
  (quotedChars? index text.toList).map String.ofList

-- ================================================================ readers

/-- The state from `<n>,<stat>` with anything behind it, or from the
single field `<stat>` of an unsolicited report. -/
def registration? (text marker : String) : Option Registration := do
  let value ← valueOf? marker text.toList
  let stat ← match fields ',' value with
    | [] => none
    | [only] => some only
    | _ :: second :: _ => some second
  let code ← byte? (trim stat)
  Registration.ofCode? code.toNat

/-- The two readings of `+CSQ: <rssi>,<ber>`; the second is all that
follows the first comma. -/
def signalQuality? (text : String) : Option SignalQuality := do
  let value ← valueOf? "+CSQ:" text.toList
  let rest ← after? [','] value
  let rssi ← int32? (trim (value.takeWhile (· ≠ ',')))
  let ber ← int32? (trim rest)
  pure ⟨rssi, ber⟩

/-- The level of `+CFUN: <level>`. -/
def functionality? (text : String) : Option UInt8 := do
  let value ← valueOf? "+CFUN:" text.toList
  byte? (trim (value.takeWhile (· ≠ ',')))

/-- The modem is attached to the packet domain or not, from
`+CGATT: 1` and `+CGATT: 0`. -/
def attachState? (text : String) : Option Bool :=
  match valueOf? "+CGATT:" text.toList with
  | some ['1'] => some true
  | some ['0'] => some false
  | _ => none

/-- `+CPIN: READY` says that the SIM asks for no number any more. -/
def simReady (text : String) : Bool :=
  match valueOf? "+CPIN:" text.toList with
  | some value => "READY".toList.isPrefixOf value
  | none => false

-- =================================================== subscriber identity

/-- The most digits of a subscriber identity. -/
def identityMaxDigits : Nat := 15

/-- The fewest digits that identify a subscriber: a network of five and
one more. With fewer, the SIM is not ready. -/
def identityMinDigits : Nat := 6

/-- The text without an echoed command line in front. -/
def skipEcho (text : List Char) : List Char :=
  let rest := trimStart text
  if ['A', 'T'].isPrefixOf rest then
    trimStart ((after? ['\n'] rest).getD [])
  else rest

/-- The digits a text starts with, after blanks and an echoed command. -/
def leadingDigits (text : List Char) : List Char :=
  (skipEcho text).takeWhile isDigit

/-- The subscriber identity: the leading digits, at least six of them,
of which at most fifteen count. -/
def identity? (text : String) : Option String :=
  let digits := leadingDigits text.toList
  if digits.length < identityMinDigits then none
  else some (String.ofList (digits.take identityMaxDigits))

-- =================================================== packet data contexts

/-- What starts a line that defines a packet data context. -/
def contextMarker : List Char := "+CGDCONT:".toList

/-- The lines that define a context, without the blanks around them. -/
def contextLines (text : List Char) : List (List Char) :=
  ((lines text).map trim).filter contextMarker.isPrefixOf

/-- The access point name of a line `+CGDCONT: <cid>,"<type>","<apn>",…`:
its second quoted value. -/
def contextName? (line : List Char) : Option String :=
  (quotedChars? 1 line).map String.ofList

/-- The line defines context 1, and not, say, 10. -/
def isFirstContext (line : List Char) : Bool :=
  ['1', ','].isPrefixOf (trimStart (line.drop contextMarker.length))

/-- The access point name of context 1, unless it is empty. -/
def firstContextName? (text : String) : Option String := do
  let line ← (contextLines text.toList).find? isFirstContext
  (contextName? line).filter (!·.isEmpty)

/-- The first access point name of any context that is not empty. -/
def anyContextName? (text : String) : Option String :=
  ((contextLines text.toList).filterMap contextName?).find? (!·.isEmpty)

-- =============================================================== operator

/-- The numeric operator code from `+COPS: <mode>,2,"<code>"`: five or six
digits. A name in its place is no code. -/
def operatorCode? (text : String) : Option String := do
  let value ← valueOf? "+COPS:" text.toList
  let code ← quotedChars? 0 value
  if (code.length = 5 || code.length = 6) && code.all isDigit then
    pure (String.ofList code)
  else none

end Uplink.Modem.Reply
