/-
Access points: how one is named, and the one that is in use.

The access point in use is found once and then kept. Finding it means
asking the modem, so the place that keeps it (`Chosen`) is also what says
that nothing needs to be asked any more.
-/
import Uplink.Log
import Uplink.Text.Bounded

namespace Uplink.Apn

/-- The bytes an access point name may take. -/
def nameCapacity : Nat := 64

/-- The bytes a user name or password may take. -/
def credentialCapacity : Nat := 32

/-- The name of an access point. -/
abbrev Name := Bounded nameCapacity

/-- A user name or a password. -/
abbrev Credential := Bounded credentialCapacity

/-- Where the access point in use came from. -/
inductive Source where
  | configured
  /-- the modem filled it in by itself -/
  | moduleAutoDetect
  | simContext
  /-- the directory has it for the subscriber's home network -/
  | imsiLookup
  /-- the directory has it for the network in use -/
  | operatorLookup
  /-- it is a guess that works on many networks -/
  | genericFallback
deriving DecidableEq, Repr

def Source.name : Source → String
  | configured => "Configured"
  | moduleAutoDetect => "ModuleAutoDetect"
  | simContext => "SimContext"
  | imsiLookup => "ImsiLookup"
  | operatorLookup => "OperatorLookup"
  | genericFallback => "GenericFallback"

/-- The access point in use, if there is one yet. -/
structure Chosen where
  apn : Name := .empty
  username : Credential := .empty
  password : Credential := .empty
  source : Option Source := none
deriving DecidableEq

namespace Chosen

def isDetected (c : Chosen) : Bool :=
  c.source.isSome

/-- The access point asks for a user. -/
def hasCredentials (c : Chosen) : Bool :=
  !c.username.isEmpty

/-- The choice of these three texts, if there is a name and all fit. -/
def ofTexts? (apn username password : String) (source : Source) :
    Option Chosen := do
  if apn.isEmpty then none
  else
    let apn ← Bounded.ofString? nameCapacity apn
    let username ← Bounded.ofString? credentialCapacity username
    let password ← Bounded.ofString? credentialCapacity password
    pure ⟨apn, username, password, some source⟩

/-- Put a new choice in the place of the old one. An empty name, or a
text that does not fit, changes nothing. -/
def accept (c : Chosen) (apn username password : String)
    (source : Source) : Spoken (Bool × Chosen) := do
  match ofTexts? apn username password source with
  | some chosen => pure (true, chosen)
  | none =>
    if !apn.isEmpty then
      Spoken.say
        (.warn ("APN or credentials too long, ignoring " ++ apn))
    pure (false, c)

end Chosen

end Uplink.Apn
