/-
The log: one line for each thing the library has to say.

A line never changes what happens. It is part of what a run shows, so it
is a value like any other: a function that may speak returns its result
together with the lines it spoke, in order (`Spoken`), and a program says
its lines one by one.
-/

namespace Uplink

/-- How much a log line matters. -/
inductive Severity where
  | error | warn | info | debug | trace
deriving DecidableEq, Repr

def Severity.label : Severity → String
  | error => "ERROR"
  | warn => "WARN"
  | info => "INFO"
  | debug => "DEBUG"
  | trace => "TRACE"

/-- One line of the log. -/
structure Line where
  severity : Severity
  text : String
deriving DecidableEq, Repr

namespace Line

def error (text : String) : Line := ⟨.error, text⟩

def warn (text : String) : Line := ⟨.warn, text⟩

def info (text : String) : Line := ⟨.info, text⟩

def debug (text : String) : Line := ⟨.debug, text⟩

def trace (text : String) : Line := ⟨.trace, text⟩

/-- The whole line: severity, a blank, text. -/
def render (line : Line) : String :=
  line.severity.label ++ " " ++ line.text

end Line

/-- A result and the lines spoken on the way to it. -/
structure Spoken (α : Type) where
  value : α
  lines : List Line := []

namespace Spoken

variable {α β : Type}

protected def pure (value : α) : Spoken α :=
  ⟨value, []⟩

/-- What the first says comes before what the second says. -/
protected def bind (first : Spoken α) (second : α → Spoken β) : Spoken β :=
  let next := second first.value
  ⟨next.value, first.lines ++ next.lines⟩

instance : Monad Spoken where
  pure := Spoken.pure
  bind := Spoken.bind

def say (line : Line) : Spoken Unit :=
  ⟨(), [line]⟩

end Spoken

/-- An optional value as the log shows it. -/
def optionText {α : Type} (text : α → String) : Option α → String
  | none => "None"
  | some a => "Some(" ++ text a ++ ")"

end Uplink
