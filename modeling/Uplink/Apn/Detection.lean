/-
Finding the access point by asking around.

Five strategies stand in a fixed order: what the modem fills in by
itself, what the SIM defines, the home network of the subscriber, the
network in use, and a guess. The first that yields a name settles the
matter; one that fails only hands over to the next. None of them checks
that the access point works, so detection fails only where there is
nothing to guess either.

Each strategy sends its own commands and has its own budget of attempts.
-/
import Uplink.Apn.Basic
import Uplink.Apn.Directory
import Uplink.Modem.Reply
import Uplink.Modem.Session
import Uplink.Proc.Retry

namespace Uplink.Apn

open Modem (Session)

-- =============================================================== timing

/-- How long the modem may take to clear a context. -/
def contextSetTimeout : Nat := 5000

/-- How long the modem may take to list its contexts. -/
def contextReadTimeout : Nat := 3000

/-- How long the SIM may take to give the subscriber identity. -/
def identityTimeout : Nat := 3000

/-- How often the identity is asked for. -/
def identityAttempts : Nat := 3

/-- The pause before it is asked for again: a SIM that was just powered
takes a moment. -/
def identityPause : Nat := 2000

/-- How long a command about the operator may take. -/
def operatorTimeout : Nat := 5000

-- =========================================================== vocabulary

/-- Detection found nothing. -/
inductive DetectionError where
  | exhausted
deriving DecidableEq, Repr

def DetectionError.name : DetectionError → String
  | exhausted => "Exhausted"

def DetectionError.message : DetectionError → String
  | exhausted => "No detection strategy produced an APN"

/-- The ways of finding an access point. -/
inductive Strategy where
  | moduleAutoDetect
  | simRead
  | imsiLookup
  | operatorLookup
  | genericFallback
deriving DecidableEq, Repr

namespace Strategy

/-- What a name found this way is recorded as. -/
def source : Strategy → Source
  | moduleAutoDetect => .moduleAutoDetect
  | simRead => .simContext
  | imsiLookup => .imsiLookup
  | operatorLookup => .operatorLookup
  | genericFallback => .genericFallback

def label : Strategy → String
  | moduleAutoDetect => "module auto-detect"
  | simRead => "SIM context read"
  | imsiLookup => "IMSI lookup"
  | operatorLookup => "operator lookup"
  | genericFallback => "generic fallback"

/-- All of them, in the order in which they are tried. -/
def all : List Strategy :=
  [moduleAutoDetect, simRead, imsiLookup, operatorLookup, genericFallback]

end Strategy

/-- A name found by one strategy, with the credentials it needs. -/
structure Candidate where
  apn : Name
  username : String
  password : String

/-- A name that needs no credentials, if it is not too long. -/
def Candidate.bare? (apn : String) : Option Candidate :=
  (Bounded.ofString? nameCapacity apn).map fun apn => ⟨apn, "", ""⟩

/-- The access point of a directory record. -/
def Candidate.ofRecord? (r : Record) : Spoken (Option Candidate) := do
  Spoken.say (.info
    s!"Directory hit: {r.operatorName} ({r.networkId}) -> {r.apn}")
  pure ((Bounded.ofString? nameCapacity r.apn).map fun apn =>
    ⟨apn, r.username, r.password⟩)

-- =========================================================== strategies

/-- Clear the first context and see what the modem puts into it. -/
def moduleAutoDetect : Proc Session (Option Candidate) := do
  match ← Session.query "AT+CGDCONT=1,\"IP\",\"\"" contextSetTimeout with
  | .error e =>
    Session.log (.debug ("Empty PDP context rejected: " ++ e.message))
    pure none
  | .ok _ =>
    match ← Session.query "AT+CGDCONT?" contextReadTimeout with
    | .error _ => pure none
    | .ok response =>
      pure ((Modem.Reply.firstContextName? response).bind Candidate.bare?)

/-- Take the first name of any context that is already there. -/
def simRead : Proc Session (Option Candidate) := do
  match ← Session.query "AT+CGDCONT?" contextReadTimeout with
  | .error e =>
    Session.log (.debug ("PDP context read failed: " ++ e.message))
    pure none
  | .ok response =>
    pure ((Modem.Reply.anyContextName? response).bind Candidate.bare?)

/-- One request for the subscriber identity. -/
def askIdentity (number : Nat) (_ : Unit) :
    Proc Session (Except Unit String) := do
  match ← Session.query "AT+CIMI" identityTimeout with
  | .ok response =>
    match Modem.Reply.identity? response with
    | some identity => pure (.ok identity)
    | none =>
      Session.log (.debug
        s!"IMSI attempt {number}/{identityAttempts}: no digits yet")
      pure (.error ())
  | .error e =>
    Session.log (.debug
      s!"IMSI attempt {number}/{identityAttempts} failed: {e.message}")
    pure (.error ())

/-- Look the subscriber's home network up. -/
def imsiLookup : Proc Session (Option Candidate) := do
  let pause := fun _ => Session.pause identityPause
  match ← Proc.retry pause askIdentity identityAttempts 1 () with
  | .error () => pure none
  | .ok identity =>
    let network := String.ofList (identity.toList.take shortIdLength)
    Session.log (.info ("IMSI network prefix: " ++ network))
    match lookUpSubscriber? identity with
    | none => pure none
    | some r => Session.speak (Candidate.ofRecord? r)

/-- Look the network in use up. That the modem reports it as a number is
asked for first, and hoped for if refused. -/
def operatorLookup : Proc Session (Option Candidate) := do
  match ← Session.query "AT+COPS=3,2" operatorTimeout with
  | .ok _ => pure ()
  | .error e =>
    Session.log (.debug ("Operator format switch ignored: " ++ e.message))
  match ← Session.query "AT+COPS?" operatorTimeout with
  | .error _ => pure none
  | .ok response =>
    match Modem.Reply.operatorCode? response with
    | none => pure none
    | some code =>
      Session.log (.info ("Registered operator code: " ++ code))
      match lookUpNetwork? code with
      | none => pure none
      | some r => Session.speak (Candidate.ofRecord? r)

/-- Take the first name of the list that is not empty. -/
def genericFallback (guesses : List Name) :
    Proc Session (Option Candidate) := do
  match guesses.find? (!·.isEmpty) with
  | none => pure none
  | some apn =>
    Session.log (.warn
      s!"Falling back to generic APN '{apn.text}' (unverified)")
    pure (Candidate.bare? apn.text)

/-- What a strategy finds. -/
def Strategy.find (guesses : List Name) :
    Strategy → Proc Session (Option Candidate)
  | moduleAutoDetect => Apn.moduleAutoDetect
  | simRead => Apn.simRead
  | imsiLookup => Apn.imsiLookup
  | operatorLookup => Apn.operatorLookup
  | genericFallback => Apn.genericFallback guesses

-- ============================================================ detection

/-- Try the strategies in order, up to the first whose name is accepted. -/
def tryStrategies (guesses : List Name) (chosen : Chosen) :
    List Strategy → Proc Session (Except DetectionError Source × Chosen)
  | [] => do
    Session.log (.warn "APN auto-detection exhausted all strategies")
    pure (.error .exhausted, chosen)
  | strategy :: rest => do
    Session.log (.debug ("APN strategy: " ++ strategy.label))
    match ← strategy.find guesses with
    | none =>
      Session.log (.debug
        s!"APN strategy {strategy.label} found nothing")
      tryStrategies guesses chosen rest
    | some found =>
      let (accepted, chosen) ← Session.speak
        (chosen.accept found.apn.text found.username found.password
          strategy.source)
      if accepted then
        Session.log (.info
          s!"APN detected via {strategy.label}: {chosen.apn.text}")
        pure (.ok strategy.source, chosen)
      else tryStrategies guesses chosen rest

/-- Find the access point, and keep it if one was found. -/
def detect (guesses : List Name) (chosen : Chosen) :
    Proc Session (Except DetectionError Source × Chosen) := do
  Session.log (.info "Starting APN auto-detection")
  tryStrategies guesses chosen Strategy.all

end Uplink.Apn
