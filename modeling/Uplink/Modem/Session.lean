/-
What the connection logic may ask of a modem.

The interface `Session` is all that the steps of a connection see of the
hardware: one exchange of a command for an answer, the switch between the
two modes, the signal reading, a pause, and the log. It says nothing of
bytes. Two implementations exist, a channel over a serial line and the
same channel with the line handed to PPP while in data mode.
-/
import Uplink.Proc
import Uplink.Modem.Basic

namespace Uplink.Modem

/-- The calls of the command channel, with a clock and the log. -/
inductive SessionCall where
  /-- send a command and collect its answer until one of the tokens
  shows or the time (in milliseconds) is over -/
  | exchange (command success failure : String) (timeout : Nat)
  | switch (mode : Mode)
  | quality
  | pause (milliseconds : Nat)
  | log (line : Line)

abbrev SessionCall.Answer : SessionCall → Type
  | exchange .. => Except ChannelError Response
  | switch _ => Except ChannelError Unit
  | quality => Except ChannelError SignalQuality
  | pause _ => Unit
  | log _ => Unit

abbrev Session : Interface :=
  ⟨SessionCall, SessionCall.Answer⟩

namespace Session

/-- Send a command that ends with `OK` or `ERROR`. -/
def query (command : String) (timeout : Nat) :
    Proc Session (Except ChannelError Response) :=
  Proc.ask (I := Session) (.exchange command "OK" "ERROR" timeout)

def pause (milliseconds : Nat) : Proc Session Unit :=
  Proc.ask (I := Session) (.pause milliseconds)

def log (line : Line) : Proc Session Unit :=
  Proc.ask (I := Session) (.log line)

/-- Write the lines that were spoken, and go on with the result. -/
def speak {α : Type} (spoken : Spoken α) : Proc Session α := do
  for line in spoken.lines do
    log line
  pure spoken.value

end Session

end Uplink.Modem
