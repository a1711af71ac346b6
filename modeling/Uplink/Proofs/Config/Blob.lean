/-
The stored form of a whole configuration.

# Reading it back

Its fields stand one behind the other, so what holds of the elements holds
of the configuration: it is read back from its stored form
(`yields_settings`), the reader is steady (`steady_settings`), and with
that a configuration is read from the whole of its stored form or not at
all (`decode?_cut`). No two configurations have the same stored form
(`encode_injective`).

# How long it is

The length can be told from the fields (`length_encode`): fourteen bytes
are always there, and the rest are the digits of two numbers and the texts
with a length byte each. With as many guesses as the list has there is a
longest form (`blobSize_le`), and it is reached (`blobSize_full`).
-/
import Mathlib.Algebra.Order.BigOperators.Group.List
import Mathlib.Algebra.Order.Group.Nat
import Uplink.Config.Blob
import Uplink.Proofs.Config.Wire

namespace Uplink.Config

-- ============================================================== reading

/-- The reader of the UART's settings takes five numbers, one `andThen` the
other. -/
theorem takeUart?_eq :
    takeUart?
      = andThen takeByte? fun port => andThen takeByte? fun txPin =>
        andThen takeByte? fun rxPin => andThen takeNumber32? fun baudRate =>
        andThen takeNumber16? fun rxBufferSize => settled (some
          ⟨port, txPin, rxPin, baudRate.toUInt32, rxBufferSize.toUInt16⟩) :=
  rfl

/-- What `putUart` writes reads as the settings it was written of. -/
theorem yields_uart (u : Uart) : Yields takeUart? (putUart u) u := by
  have hput : putUart u
      = [u.port] ++ ([u.txPin] ++ ([u.rxPin] ++ (putNumber u.baudRate.toNat
        ++ (putNumber u.rxBufferSize.toNat ++ [])))) := by
    simp [putUart]
  have hread : (⟨u.port, u.txPin, u.rxPin, u.baudRate.toNat.toUInt32,
      u.rxBufferSize.toNat.toUInt16⟩ : Uart) = u := by
    simp
  rw [takeUart?_eq, hput]
  refine (yields_byte _).andThen ((yields_byte _).andThen
    ((yields_byte _).andThen ?_))
  refine (yields_number32 u.baudRate.toNat_lt).andThen
    ((yields_number16 u.rxBufferSize.toNat_lt).andThen ?_)
  rw [hread]
  exact yields_settled u

/-- The reader of the UART's settings does not depend on what follows. -/
theorem steady_uart : Steady takeUart? := by
  rw [takeUart?_eq]
  refine steady_byte.andThen fun _ => steady_byte.andThen fun _ =>
    steady_byte.andThen fun _ => ?_
  exact (steady_groups _ _).andThen fun _ =>
    (steady_groups _ _).andThen fun _ => steady_settled _

theorem takeAddress?_eq :
    takeAddress?
      = andThen takeByte? fun a => andThen takeByte? fun b =>
        andThen takeByte? fun c => andThen takeByte? fun d =>
        settled (some ⟨a, b, c, d⟩) :=
  rfl

/-- An address is read back from its four bytes. -/
theorem yields_address (x : Net.Address) :
    Yields takeAddress? x.toList x := by
  rw [takeAddress?_eq]
  exact (yields_byte x.a).andThen ((yields_byte x.b).andThen
    ((yields_byte x.c).andThen ((yields_byte x.d).andThen
      (yields_settled x))))

theorem steady_address : Steady takeAddress? := by
  rw [takeAddress?_eq]
  exact steady_byte.andThen fun _ => steady_byte.andThen fun _ =>
    steady_byte.andThen fun _ => steady_byte.andThen fun _ =>
      steady_settled _

/-- The reader of the resolvers' settings takes two addresses and a
name. -/
theorem takeDns?_eq :
    takeDns?
      = andThen takeAddress? fun primary => andThen takeAddress?
          fun secondary => andThen (takeText? hostCapacity) fun host =>
        settled (some ⟨primary, secondary, host⟩) :=
  rfl

/-- What `putDns` writes reads as the settings it was written of. -/
theorem yields_dns (d : Dns) : Yields takeDns? (putDns d) d := by
  have hput : putDns d
      = d.primary.toList ++ (d.secondary.toList
        ++ (putText d.selfTestHost.text ++ [])) := by
    simp [putDns]
  rw [takeDns?_eq, hput]
  exact (yields_address d.primary).andThen
    ((yields_address d.secondary).andThen
      ((yields_text (by decide) d.selfTestHost).andThen
        (yields_settled d)))

/-- It does not depend on what follows either. -/
theorem steady_dns : Steady takeDns? := by
  rw [takeDns?_eq]
  exact steady_address.andThen fun _ => steady_address.andThen fun _ =>
    (steady_text hostCapacity).andThen fun _ => steady_settled _

/-- The reader of an access point takes three texts, each within its
room. -/
theorem takeOverride?_eq :
    takeOverride?
      = andThen (takeText? Apn.nameCapacity) fun apn =>
        andThen (takeText? Apn.credentialCapacity) fun username =>
        andThen (takeText? Apn.credentialCapacity) fun password =>
        settled (some ⟨apn, username, password⟩) :=
  rfl

/-- What `putOverride` writes reads as the access point it was written
of. -/
theorem yields_override (o : Override) :
    Yields takeOverride? (putOverride o) o := by
  have hput : putOverride o
      = putText o.apn.text ++ (putText o.username.text
        ++ (putText o.password.text ++ [])) := by
    simp [putOverride]
  rw [takeOverride?_eq, hput]
  exact (yields_text (by decide) o.apn).andThen
    ((yields_text (by decide) o.username).andThen
      ((yields_text (by decide) o.password).andThen (yields_settled o)))

/-- Nor does it depend on what follows. -/
theorem steady_override : Steady takeOverride? := by
  rw [takeOverride?_eq]
  exact (steady_text _).andThen fun _ => (steady_text _).andThen fun _ =>
    (steady_text _).andThen fun _ => steady_settled _

/-- The reader of a configuration takes its parts in the order in which
`encode` writes them. -/
theorem takeSettings?_eq :
    takeSettings?
      = andThen takeUart? fun uart => andThen takeDns? fun dns =>
        andThen (takeOption? takeOverride?) fun apnOverride =>
        andThen (takeList? maxFallbackApns (takeText? Apn.nameCapacity))
          fun guesses => settled (some
            ⟨uart, dns, apnOverride, guesses.val, guesses.property⟩) :=
  rfl

/-- A configuration is read back from its stored form, and the reader
stops where the form ends. -/
theorem yields_settings (s : Settings) :
    Yields takeSettings? (encode s) s := by
  have hencode : encode s
      = putUart s.uart ++ (putDns s.dns
        ++ (putOption putOverride s.apnOverride
          ++ (putList (fun apn => putText apn.text) s.fallbackApns
            ++ []))) := by
    simp [encode]
  have hguesses : ∀ apn ∈ s.fallbackApns,
      Yields (takeText? Apn.nameCapacity) (putText apn.text) apn :=
    fun apn _ => yields_text (by decide) apn
  rw [takeSettings?_eq, hencode]
  refine (yields_uart s.uart).andThen ((yields_dns s.dns).andThen ?_)
  refine (yields_option s.apnOverride
    fun o _ => yields_override o).andThen ?_
  exact (yields_list ⟨s.fallbackApns, s.fallbackApns_fit⟩ (by decide)
    hguesses).andThen (yields_settled s)

/-- A configuration ends where its parts do, and what follows is not looked
at. -/
theorem steady_settings : Steady takeSettings? := by
  rw [takeSettings?_eq]
  refine steady_uart.andThen fun _ => steady_dns.andThen fun _ => ?_
  exact steady_override.option.andThen fun _ =>
    ((steady_text _).list _).andThen fun _ => steady_settled _

/-- Bytes that begin with a stored form are read as its configuration. -/
theorem decode?_encode_append (s : Settings) (behind : List UInt8) :
    decode? (encode s ++ behind) = some s := by
  rw [decode?, yields_settings s behind]
  rfl

/-- A part of a stored form is no stored form. -/
theorem decode?_cut {s : Settings} {cut : List UInt8}
    (hp : cut <+: encode s) (hne : cut ≠ encode s) :
    decode? cut = none := by
  rw [decode?, (yields_settings s).cut steady_settings hp hne]
  rfl

/-- Two configurations that `encode` to the same bytes are the same. -/
theorem encode_injective : Function.Injective encode := by
  intro s s' h
  have hs := (yields_settings s).eq
  rw [h, (yields_settings s').eq] at hs
  exact (congrArg Prod.fst (Option.some.inj hs)).symm

-- =============================================================== lengths

/-- The digits of a number to the base 128, in which it is stored. -/
def groupCount (n : Nat) : Nat :=
  Nat.log 128 n + 1

/-- The texts of a given access point. -/
def Override.textSize (o : Override) : Nat :=
  o.apn.text.utf8ByteSize + o.username.text.utf8ByteSize
    + o.password.text.utf8ByteSize

/-- The bytes that a configuration takes: the fixed part is three bytes of
wiring, two addresses, the length of the host, the mark of the given
access point and the number of guesses. -/
def Settings.blobSize (s : Settings) : Nat :=
  14 + groupCount s.uart.baudRate.toNat
    + groupCount s.uart.rxBufferSize.toNat
    + s.dns.selfTestHost.text.utf8ByteSize
    + (s.apnOverride.elim 0 fun o => 3 + o.textSize)
    + (s.fallbackApns.map fun apn => 1 + apn.text.utf8ByteSize).sum

/-- A text of less than 128 bytes has its length in one byte. -/
theorem length_putText_bounded {capacity : Nat}
    (hcapacity : capacity < 128) (s : Bounded capacity) :
    (putText s.text).length = 1 + s.text.utf8ByteSize := by
  rw [length_putText, Nat.log_of_lt (Nat.lt_of_le_of_lt s.fits hcapacity)]

/-- The length of the UART's settings, which the sizes of two numbers
decide. -/
theorem length_putUart (u : Uart) :
    (putUart u).length
      = 3 + groupCount u.baudRate.toNat
        + groupCount u.rxBufferSize.toNat := by
  simp only [putUart, List.length_cons, List.length_append,
    length_putNumber, groupCount]
  omega

/-- Of the resolvers' settings only the name varies in length. -/
theorem length_putDns (d : Dns) :
    (putDns d).length = 9 + d.selfTestHost.text.utf8ByteSize := by
  have hhost := length_putText_bounded (by decide) d.selfTestHost
  simp only [putDns, Net.Address.toList, List.length_append,
    List.length_cons, List.length_nil, hhost]
  omega

/-- An access point that is configured takes as much as its three texts,
and three bytes for their lengths. -/
theorem length_putOption_override (o : Option Override) :
    (putOption putOverride o).length
      = 1 + o.elim 0 fun o => 3 + o.textSize := by
  cases o with
  | none => rfl
  | some o =>
    have hapn := length_putText_bounded (by decide) o.apn
    have husername := length_putText_bounded (by decide) o.username
    have hpassword := length_putText_bounded (by decide) o.password
    simp only [putOption, putOverride, List.length_cons,
      List.length_append, hapn, husername, hpassword, Option.elim_some,
      Override.textSize]
    omega

/-- A list of guesses is as long as its names, each with one byte for its
length, and one byte for their number. -/
theorem length_putList_guesses {l : List Apn.Name}
    (hl : l.length ≤ maxFallbackApns) :
    (putList (fun apn => putText apn.text) l).length
      = 1 + (l.map fun apn => 1 + apn.text.utf8ByteSize).sum := by
  have hguess (apn : Apn.Name) :
      (putText apn.text).length = 1 + apn.text.utf8ByteSize :=
    length_putText_bounded (by decide) apn
  rw [length_putList, Nat.log_of_lt (Nat.lt_of_le_of_lt hl (by decide))]
  simp only [hguess]

/-- A configuration takes `blobSize` bytes when it is encoded. -/
theorem length_encode (s : Settings) :
    (encode s).length = s.blobSize := by
  simp only [encode, List.length_append, length_putUart, length_putDns,
    length_putOption_override, length_putList_guesses s.fallbackApns_fit,
    Settings.blobSize]
  omega

-- ============================================================ the longest

/-- A number below a power of 128 takes no more groups than that. -/
theorem groupCount_le {n groups : Nat} (h : n < 128 ^ (groups + 1)) :
    groupCount n ≤ groups + 1 :=
  Nat.log_lt_of_lt_pow' (Nat.succ_ne_zero groups) h

/-- No configuration with as many guesses takes more than this. -/
theorem blobSize_le (s : Settings) :
    s.blobSize ≤ 217 + 65 * s.fallbackApns.length := by
  have hbaud : groupCount s.uart.baudRate.toNat ≤ 5 :=
    groupCount_le (Nat.lt_trans s.uart.baudRate.toNat_lt (by decide))
  have hbuffer : groupCount s.uart.rxBufferSize.toNat ≤ 3 :=
    groupCount_le (Nat.lt_trans s.uart.rxBufferSize.toNat_lt (by decide))
  have hhost : s.dns.selfTestHost.text.utf8ByteSize ≤ 64 :=
    s.dns.selfTestHost.fits
  have hoverride : (s.apnOverride.elim 0 fun o => 3 + o.textSize) ≤ 131 := by
    cases s.apnOverride with
    | none => exact Nat.zero_le _
    | some o =>
      have hapn : o.apn.text.utf8ByteSize ≤ 64 := o.apn.fits
      have husername : o.username.text.utf8ByteSize ≤ 32 := o.username.fits
      have hpassword : o.password.text.utf8ByteSize ≤ 32 := o.password.fits
      simp only [Option.elim_some, Override.textSize]
      omega
  have hguesses : (s.fallbackApns.map fun apn =>
      1 + apn.text.utf8ByteSize).sum ≤ s.fallbackApns.length * 65 := by
    have hguess : ∀ size ∈ s.fallbackApns.map fun apn =>
        1 + apn.text.utf8ByteSize, size ≤ 65 := by
      intro size hsize
      obtain ⟨apn, -, rfl⟩ := List.mem_map.1 hsize
      have hapn : apn.text.utf8ByteSize ≤ 64 := apn.fits
      omega
    simpa using List.sum_le_card_nsmul _ 65 hguess
  unfold Settings.blobSize
  omega

/-- A text of so many bytes. -/
def filler : Nat → String
  | 0 => ""
  | n + 1 => (filler n).push 'x'

/-- The `filler` is as long as it is asked to be. -/
theorem utf8ByteSize_filler (n : Nat) : (filler n).utf8ByteSize = n := by
  induction n with
  | zero => rfl
  | succ n ih =>
    rw [filler, String.utf8ByteSize_push, ih]
    rfl

/-- The longest text that fits. -/
def fullText (capacity : Nat) : Bounded capacity :=
  ⟨filler capacity, (utf8ByteSize_filler capacity).le⟩

/-- The longest configuration with so many guesses. -/
def Settings.full (guesses : Nat) (h : guesses ≤ maxFallbackApns) :
    Settings where
  uart := { baudRate := 4294967295, rxBufferSize := 65535 }
  dns := { Dns.standard with selfTestHost := fullText hostCapacity }
  apnOverride := some
    ⟨fullText _, fullText _, fullText _⟩
  fallbackApns := List.replicate guesses (fullText _)
  fallbackApns_fit := by rwa [List.length_replicate]

/-- With every text as long as it can be, a configuration takes 217 bytes,
and 65 more for each guess. -/
theorem blobSize_full {guesses : Nat} (h : guesses ≤ maxFallbackApns) :
    (Settings.full guesses h).blobSize = 217 + 65 * guesses := by
  have hbaud : groupCount (4294967295 : UInt32).toNat = 5 := by decide
  have hbuffer : groupCount (65535 : UInt16).toNat = 3 := by decide
  have hhost : (fullText hostCapacity).text.utf8ByteSize = 64 :=
    utf8ByteSize_filler 64
  have hname : (fullText Apn.nameCapacity).text.utf8ByteSize = 64 :=
    utf8ByteSize_filler 64
  have hcredential :
      (fullText Apn.credentialCapacity).text.utf8ByteSize = 32 :=
    utf8ByteSize_filler 32
  have hguesses : ((List.replicate guesses (fullText Apn.nameCapacity)).map
      fun apn => 1 + apn.text.utf8ByteSize).sum = guesses * 65 := by
    rw [List.map_replicate, hname, List.sum_replicate_nat]
  simp only [Settings.blobSize, Settings.full, Override.textSize,
    Option.elim_some, hbaud, hbuffer, hhost, hname, hcredential, hguesses]
  omega

/-- The blob has room for every configuration with so many guesses just
where there are at most four. -/
theorem forall_blobSize_le_iff {guesses : Nat}
    (h : guesses ≤ maxFallbackApns) :
    (∀ s : Settings, s.fallbackApns.length = guesses →
        s.blobSize ≤ blobCapacity)
      ↔ guesses ≤ 4 := by
  constructor
  · intro hall
    have hfull := hall (Settings.full guesses h) List.length_replicate
    rw [blobSize_full, blobCapacity] at hfull
    omega
  · rintro hfour s rfl
    have hle := blobSize_le s
    rw [blobCapacity]
    omega

end Uplink.Config
