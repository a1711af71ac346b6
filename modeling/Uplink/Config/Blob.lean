/-
The configuration as one blob, and the store that keeps it.

The blob is the fields of the configuration in their order, each in its
stored form. It is kept under one key of a store that knows nothing of
its content. A blob that is missing, damaged or cut short never becomes
some other configuration by accident of reading on: loading then falls
back on the standard configuration as a whole.
-/
import Uplink.Config.Basic
import Uplink.Config.Wire
import Uplink.Proc

namespace Uplink.Config

/-- Where the blob is kept. -/
def blobKey : String := "gsm_cfg"

/-- The bytes a blob may take. -/
def blobCapacity : Nat := 512

-- ============================================================ encoding

/-- The wiring: three bytes and two numbers. -/
def putUart (u : Uart) : List UInt8 :=
  u.port :: u.txPin :: u.rxPin ::
    (putNumber u.baudRate.toNat ++ putNumber u.rxBufferSize.toNat)

/-- The resolvers: two addresses and the host. -/
def putDns (d : Dns) : List UInt8 :=
  d.primary.toList ++ d.secondary.toList ++ putText d.selfTestHost.text

/-- The given access point: three texts. -/
def putOverride (o : Override) : List UInt8 :=
  putText o.apn.text ++ putText o.username.text ++ putText o.password.text

/-- The stored form of a configuration. -/
def encode (s : Settings) : List UInt8 :=
  putUart s.uart ++ putDns s.dns ++ putOption putOverride s.apnOverride
    ++ putList (fun apn => putText apn.text) s.fallbackApns

-- ============================================================ decoding

def takeUart? : Reader Uart := fun bytes => do
  let (port, bytes) ← takeByte? bytes
  let (txPin, bytes) ← takeByte? bytes
  let (rxPin, bytes) ← takeByte? bytes
  let (baudRate, bytes) ← takeNumber32? bytes
  let (rxBufferSize, bytes) ← takeNumber16? bytes
  pure (⟨port, txPin, rxPin, baudRate.toUInt32, rxBufferSize.toUInt16⟩,
    bytes)

def takeAddress? : Reader Net.Address := fun bytes => do
  let (a, bytes) ← takeByte? bytes
  let (b, bytes) ← takeByte? bytes
  let (c, bytes) ← takeByte? bytes
  let (d, bytes) ← takeByte? bytes
  pure (⟨a, b, c, d⟩, bytes)

def takeDns? : Reader Dns := fun bytes => do
  let (primary, bytes) ← takeAddress? bytes
  let (secondary, bytes) ← takeAddress? bytes
  let (host, bytes) ← takeText? hostCapacity bytes
  pure (⟨primary, secondary, host⟩, bytes)

def takeOverride? : Reader Override := fun bytes => do
  let (apn, bytes) ← takeText? Apn.nameCapacity bytes
  let (username, bytes) ← takeText? Apn.credentialCapacity bytes
  let (password, bytes) ← takeText? Apn.credentialCapacity bytes
  pure (⟨apn, username, password⟩, bytes)

/-- Read a configuration off the front of some bytes. -/
def takeSettings? : Reader Settings := fun bytes => do
  let (uart, bytes) ← takeUart? bytes
  let (dns, bytes) ← takeDns? bytes
  let (apnOverride, bytes) ← takeOption? takeOverride? bytes
  let (guesses, bytes) ←
    takeList? maxFallbackApns (takeText? Apn.nameCapacity) bytes
  pure (⟨uart, dns, apnOverride, guesses.val, guesses.property⟩, bytes)

/-- The configuration a blob holds. Bytes behind it are ignored. -/
def decode? (bytes : List UInt8) : Option Settings :=
  (takeSettings? bytes).map (·.1)

-- =============================================================== storing

/-- What a store hands out: how long it says the blob is, and the buffer
it was copied into. -/
structure Stored where
  length : Nat
  buffer : List UInt8

/-- The calls on a store. -/
inductive StoreCall where
  /-- copy what is under a key into a buffer of this many bytes -/
  | read (key : String) (capacity : Nat)
  | write (key : String) (content : List UInt8)
  | log (line : Line)

abbrev StoreCall.Answer : StoreCall → Type
  | read .. => Except ConfigError Stored
  | write .. => Except ConfigError Unit
  | log _ => Unit

abbrev Store : Interface :=
  ⟨StoreCall, StoreCall.Answer⟩

/-- Read the stored configuration. -/
def tryLoad : Proc Store (Except ConfigError Settings) := do
  match ← Proc.ask (I := Store) (.read blobKey blobCapacity) with
  | .error e => pure (.error e)
  | .ok stored =>
    if stored.length ≤ stored.buffer.length then
      match decode? (stored.buffer.take stored.length) with
      | some settings => pure (.ok settings)
      | none => pure (.error .decode)
    else pure (.error .tooLarge)

/-- Read the stored configuration, or take the standard one. -/
def load : Proc Store Settings := do
  let log := fun line => Proc.ask (I := Store) (.log line)
  match ← tryLoad with
  | .ok settings =>
    log (.info "Loaded modem configuration")
    pure settings
  | .error .notFound =>
    log (.info "No stored modem configuration, using defaults")
    pure .standard
  | .error e =>
    log (.warn
      s!"Stored modem configuration unusable ({e.message}), using defaults")
    pure .standard

/-- Store a configuration, if its blob is not too long. -/
def save (s : Settings) : Proc Store (Except ConfigError Unit) :=
  let blob := encode s
  if blob.length ≤ blobCapacity then
    Proc.ask (I := Store) (.write blobKey blob)
  else pure (.error .encode)

end Uplink.Config
