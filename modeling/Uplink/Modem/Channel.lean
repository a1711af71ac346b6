/-
The AT command channel over a serial line.

A command goes out with a carriage return behind it, and its answer is
collected until one of the tokens shows. The escape sequence is the
exception: it wants a second of silence before it and no line end.

The channel remembers which mode the modem is in. The memory is what
makes a switch to the mode that already holds free of any traffic, and it
is only ever moved by an answer of the modem: to data by a dial that was
connected, to command by an escape that was acknowledged.

The line itself is the interface `Serial`. Reading until an answer is
settled is one call on it (`listen`), because only the side that holds
the bytes can bound it; the rule it follows is `Collector`.
-/
import Uplink.Modem.Collector
import Uplink.Modem.Reply
import Uplink.Modem.Session

namespace Uplink.Modem

-- ======================================================= the serial line

/-- The calls on a serial line. -/
inductive SerialCall where
  | write (content : List UInt8)
  | flush
  /-- collect an answer for at most this many milliseconds -/
  | listen (collector : Collector) (timeout : Nat)
  | pause (milliseconds : Nat)
  | log (line : Line)

/-- What the line answers: whether bytes went out, and the verdict on an
answer, or `none` when it was not settled in time. -/
abbrev SerialCall.Answer : SerialCall → Type
  | write _ => Bool
  | flush => Bool
  | listen .. => Option Verdict
  | pause _ => Unit
  | log _ => Unit

abbrev Serial : Interface :=
  ⟨SerialCall, SerialCall.Answer⟩

-- =============================================================== timing

/-- The silence before the escape sequence. -/
def escapeGuard : Nat := 1000

/-- How long the modem may take to acknowledge an escape or a hang-up. -/
def escapeTimeout : Nat := 1500

/-- How long the modem may take to connect a dial. -/
def dialTimeout : Nat := 10000

/-- How long a signal reading may take. -/
def qualityTimeout : Nat := 3000

/-- The dial that starts a packet data session. -/
def dialCommand : String := "ATD*99#"

/-- The command that drops the carrier, and the session with it. -/
def hangUpCommand : String := "ATH"

-- ============================================================== programs

namespace Channel

/-- A program of the channel: it reads and moves the remembered mode. -/
abbrev Act (α : Type) : Type :=
  StateT Mode (Proc Serial) α

def ask (request : SerialCall) : Act request.Answer :=
  StateT.lift (Proc.ask (I := Serial) request)

def log (line : Line) : Act Unit :=
  ask (.log line)

/-- The bytes that make a command, line end included. Each piece is put
out by a write of its own. -/
def pieces (command : String) : List (List UInt8) :=
  if command = escapeSequence then [command.toUTF8.toList]
  else [command.toUTF8.toList, [13]]

/-- Put out one piece after the other, up to the first that fails. -/
def writeAll : List (List UInt8) → Act Bool
  | [] => pure true
  | piece :: rest => do
    if ← ask (.write piece) then writeAll rest else pure false

/-- Send a command: silence first if it is the escape, then its bytes. -/
def transmit (command : String) : Act Bool := do
  if command = escapeSequence then ask (.pause escapeGuard)
  if ← writeAll (pieces command) then ask .flush else pure false

/-- One exchange. An acknowledged escape leaves the channel in command
mode, whoever asked for it. -/
def exchange (command success failure : String) (timeout : Nat) :
    Act (Except ChannelError Response) := do
  log (.trace ("AT> " ++ command))
  if ← transmit command then
    let collector : Collector := ⟨success.toList, failure.toList, []⟩
    match ← ask (.listen collector (clampWait timeout)) with
    | none => pure (.error (.timeout timeout))
    | some (.accepted response) =>
      log (.trace ("AT< " ++ Text.trimmed response))
      if command = escapeSequence then set Mode.command
      pure (.ok response)
    | some (.refused response) =>
      log (.debug ("AT< " ++ Text.trimmed response ++ " (error)"))
      pure (.error (.errorResponse response))
    | some .overflow => pure (.error .overflow)
    | some .broken => pure (.error .io)
  else pure (.error .io)

def dial : Act (Except ChannelError Unit) := do
  match ← exchange dialCommand "CONNECT" "NO CARRIER" dialTimeout with
  | .ok _ =>
    set Mode.data
    pure (.ok ())
  | .error e =>
    log (.warn ("Dial failed: " ++ e.message))
    pure (.error (.modeSwitch .data))

/-- Escape to command mode, then hang up. The hang-up is a courtesy: once
the escape is acknowledged, the mode is command whatever comes of it. -/
def escape : Act (Except ChannelError Unit) := do
  match ← exchange escapeSequence "OK" "ERROR" escapeTimeout with
  | .ok _ =>
    match ← exchange hangUpCommand "OK" "ERROR" escapeTimeout with
    | .ok _ => pure ()
    | .error e =>
      log (.debug ("Hang-up after escape ignored: " ++ e.message))
    set Mode.command
    pure (.ok ())
  | .error e =>
    log (.warn ("Escape to command mode failed: " ++ e.message))
    pure (.error (.modeSwitch .command))

/-- Bring the line into a mode. Where it already is, nothing happens. -/
def switch (target : Mode) : Act (Except ChannelError Unit) := do
  if (← get) = target then pure (.ok ())
  else
    match target with
    | .data => dial
    | .command => escape

def quality : Act (Except ChannelError SignalQuality) := do
  match ← exchange "AT+CSQ" "OK" "ERROR" qualityTimeout with
  | .ok response =>
    match Reply.signalQuality? response with
    | some reading => pure (.ok reading)
    | none => pure (.error (.malformed "+CSQ"))
  | .error e => pure (.error e)

/-- The channel as an implementation of the command channel interface. -/
def answer : (call : SessionCall) → Act call.Answer
  | .exchange command success failure timeout =>
    exchange command success failure timeout
  | .switch mode => switch mode
  | .quality => quality
  | .pause milliseconds => ask (.pause (clampWait milliseconds))
  | .log line => log line

end Channel

end Uplink.Modem
