/-
The configuration of the modem link.

Every text in it has a fixed capacity, and the list of guesses for the
access point has at most eight entries. These bounds are part of the
types, so a configuration that exists is one that can be kept.
-/
import Uplink.Apn.Basic
import Uplink.Net.Address

namespace Uplink.Config

/-- How many guesses for the access point there can be. -/
def maxFallbackApns : Nat := 8

/-- The bytes the name of the host for the resolver trial may take. -/
def hostCapacity : Nat := 64

/-- How the modem's serial line is wired. -/
structure Uart where
  port : UInt8 := 1
  txPin : UInt8 := 17
  rxPin : UInt8 := 18
  baudRate : UInt32 := 115200
  rxBufferSize : UInt16 := 1024
deriving DecidableEq, Repr

/-- The resolvers that are used over PPP. -/
structure Dns where
  primary : Net.Address
  secondary : Net.Address
  /-- looked up once after the session is up, to see that they answer -/
  selfTestHost : Bounded hostCapacity
deriving DecidableEq

/-- An access point that is given instead of searched for. -/
structure Override where
  apn : Apn.Name
  username : Apn.Credential
  password : Apn.Credential
deriving DecidableEq

/-- The configuration. -/
structure Settings where
  uart : Uart
  dns : Dns
  apnOverride : Option Override
  /-- guesses for the access point, the best first -/
  fallbackApns : List Apn.Name
  fallbackApns_fit : fallbackApns.length ≤ maxFallbackApns
deriving DecidableEq

-- ============================================================== defaults

/-- The resolvers of the default configuration. -/
def Dns.standard : Dns where
  primary := ⟨8, 8, 8, 8⟩
  secondary := ⟨8, 8, 4, 4⟩
  selfTestHost := ⟨"pool.ntp.org", by decide⟩

/-- Names that work on many networks. -/
def standardFallbackApns : List Apn.Name :=
  [⟨"internet", by decide⟩, ⟨"web", by decide⟩, ⟨"gprs", by decide⟩,
   ⟨"data", by decide⟩]

/-- The configuration of a device that was never configured. -/
def Settings.standard : Settings where
  uart := {}
  dns := Dns.standard
  apnOverride := none
  fallbackApns := standardFallbackApns
  fallbackApns_fit := by decide

-- ================================================================ errors

/-- Why the stored configuration could not be used. -/
inductive ConfigError where
  | notFound
  | storage
  | tooLarge
  | decode
  | encode
deriving DecidableEq, Repr

namespace ConfigError

def name : ConfigError → String
  | notFound => "NotFound"
  | storage => "Storage"
  | tooLarge => "TooLarge"
  | decode => "Decode"
  | encode => "Encode"

def message : ConfigError → String
  | notFound => "No value stored under key"
  | storage => "Storage backend failure"
  | tooLarge => "Stored blob does not fit the read buffer"
  | decode => "Stored blob could not be decoded"
  | encode => "Configuration could not be encoded"

end ConfigError

end Uplink.Config
