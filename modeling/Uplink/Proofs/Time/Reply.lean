/-
Which replies are believed, and what is wrong with the others.

# Demands

A reply is looked at in a fixed order: its length, the mode and the
stratum and the leap indicator of the server, that it was sent at some
time, and that this time can be told. `Demand.Holds` says each of these of
the bytes as numbers. The error is that of the first demand that is not
met (`readReply_eq`), so a reply is believed exactly where all are
(`readReply_exact`), and then what is read of it is in its first two
bytes and the eight from the fortieth on.

# Places

Every byte is looked up behind the check of the length. `readReplyAt`
looks each of them up by its place and has no value where there is none;
it always has one (`readReplyAt_eq`).
-/
import Mathlib.Data.List.GetD
import Uplink.Proofs.Time.Timestamp

namespace Uplink.Time

variable {packet : List UInt8} {offset : Nat}

-- ================================================================ bytes

/-- A byte of a packet as a number. There are zeros behind the end. -/
def byteAt (packet : List UInt8) (offset : Nat) : Nat :=
  (packet.getD offset 0).toNat

/-- Four bytes from a place on as a number, the highest first. -/
def numberAt (packet : List UInt8) (offset : Nat) : Nat :=
  byteAt packet offset * 2 ^ 24 + byteAt packet (offset + 1) * 2 ^ 16
    + byteAt packet (offset + 2) * 2 ^ 8 + byteAt packet (offset + 3)

/-- What stands at a place of a packet is a byte. -/
theorem byteAt_lt (packet : List UInt8) (offset : Nat) :
    byteAt packet offset < 2 ^ 8 :=
  UInt8.toNat_lt _

/-- A number of four bytes is zero if all four are. -/
theorem numberAt_eq_zero_iff :
    numberAt packet offset = 0 ↔ ∀ i < 4, byteAt packet (offset + i) = 0 := by
  constructor
  · intro h i hi
    unfold numberAt at h
    obtain rfl | rfl | rfl | rfl : i = 0 ∨ i = 1 ∨ i = 2 ∨ i = 3 := by
      omega
    · show byteAt packet offset = 0
      omega
    · omega
    · omega
    · omega
  · intro h
    have h0 : byteAt packet offset = 0 := h 0 (by decide)
    have h1 := h 1 (by decide)
    have h2 := h 2 (by decide)
    have h3 := h 3 (by decide)
    unfold numberAt
    omega

/-- Four bytes within a packet are those at their places. -/
theorem take_drop_four (h : offset + 4 ≤ packet.length) :
    (packet.drop offset).take 4
      = [packet.getD offset 0, packet.getD (offset + 1) 0,
        packet.getD (offset + 2) 0, packet.getD (offset + 3) 0] := by
  rw [List.drop_eq_getElem_cons (by omega),
    List.drop_eq_getElem_cons (by omega),
    List.drop_eq_getElem_cons (by omega),
    List.drop_eq_getElem_cons (by omega),
    List.getD_eq_getElem _ _ (by omega), List.getD_eq_getElem _ _ (by omega),
    List.getD_eq_getElem _ _ (by omega), List.getD_eq_getElem _ _ (by omega)]
  rfl

/-- Four bytes make a word of 32 bits. -/
theorem toNat_wordAt (h : offset + 4 ≤ packet.length) :
    (wordAt packet offset).toNat = numberAt packet offset := by
  have h256 : (256 : UInt32).toNat = 256 := rfl
  have h0 : (0 : UInt32).toNat = 0 := rfl
  have := byteAt_lt packet offset
  have := byteAt_lt packet (offset + 1)
  have := byteAt_lt packet (offset + 2)
  have := byteAt_lt packet (offset + 3)
  unfold wordAt numberAt
  rw [take_drop_four h]
  simp only [List.foldl_cons, List.foldl_nil, UInt32.toNat_add,
    UInt32.toNat_mul, UInt8.toNat_toUInt32, h256, h0]
  unfold byteAt at *
  omega

/-- The low three bits. -/
theorem toNat_low (flags : UInt8) :
    (flags &&& 7).toNat = flags.toNat % 8 := by
  rw [UInt8.toNat_and]
  exact Nat.and_two_pow_sub_one_eq_mod flags.toNat 3

/-- The top two bits. -/
theorem toNat_top (flags : UInt8) :
    (flags >>> 6).toNat = flags.toNat / 64 := by
  rw [UInt8.toNat_shiftRight, Nat.shiftRight_eq_div_pow]
  rfl

-- ============================================================== demands

/-- What has to hold of a reply. -/
inductive Demand where
  | length
  | mode
  | stratum
  | leap
  | sent
  | epoch
deriving DecidableEq, Repr

namespace Demand

/-- In the order in which they are looked at. -/
def all : List Demand :=
  [length, mode, stratum, leap, sent, epoch]

/-- The demand is met. -/
def Holds (packet : List UInt8) : Demand → Prop
  | length => 48 ≤ packet.length
  | mode => byteAt packet 0 % 8 = 4
  | stratum => byteAt packet 1 ≠ 0
  | leap => byteAt packet 0 / 64 ≠ 3
  | sent => ∃ i < 8, byteAt packet (40 + i) ≠ 0
  | epoch => numberAt packet 40 < 2 ^ 31 ∨ 2208988800 ≤ numberAt packet 40

instance (packet : List UInt8) : (d : Demand) → Decidable (d.Holds packet)
  | length => inferInstanceAs (Decidable (_ ≤ _))
  | mode => inferInstanceAs (Decidable (_ = _))
  | stratum => inferInstanceAs (Decidable (_ ≠ _))
  | leap => inferInstanceAs (Decidable (_ ≠ _))
  | sent => inferInstanceAs (Decidable (∃ i < 8, _ ≠ _))
  | epoch => inferInstanceAs (Decidable (_ ∨ _))

/-- What a reply is refused with that does not meet the demand. -/
def error (packet : List UInt8) : Demand → SntpError
  | length => .shortPacket packet.length
  | mode => .unexpectedMode (.ofNat (byteAt packet 0 % 8))
  | stratum => .kissOfDeath
  | leap => .unsynchronized
  | sent => .zeroTransmit
  | epoch => .beforeUnixEpoch

/-- The first demand that is not met. -/
def firstUnmet (packet : List UInt8) : Option Demand :=
  all.find? fun d => ¬d.Holds packet

/-- There is no first demand that is unmet exactly if all demands hold. -/
theorem firstUnmet_eq_none_iff :
    firstUnmet packet = none ↔ ∀ d, Holds packet d := by
  have hall (d : Demand) : d ∈ all := by cases d <;> decide
  unfold firstUnmet
  rw [List.find?_eq_none]
  constructor
  · intro h d
    have := h d (hall d)
    simpa using this
  · intro h d _
    simpa using h d

/-- The first of some demands is met, or it is the one. -/
theorem find_cons (d : Demand) (ds : List Demand) :
    (d :: ds).find? (fun d => ¬d.Holds packet)
      = if d.Holds packet then ds.find? fun d => ¬d.Holds packet
        else some d := by
  by_cases h : d.Holds packet
  · rw [if_pos h, List.find?_cons_of_neg (by simpa using h)]
  · rw [if_neg h, List.find?_cons_of_pos (by simpa using h)]

end Demand

-- ======================================================= time of sending

/-- The seconds of the transmit timestamp are the number at byte 40. -/
theorem seconds_transmitOf (h : 48 ≤ packet.length) :
    (transmitOf packet).seconds.toNat = numberAt packet 40 :=
  toNat_wordAt (by unfold transmitOffset; omega)

/-- Its fraction is the number at byte 44. -/
theorem fraction_transmitOf (h : 48 ≤ packet.length) :
    (transmitOf packet).fraction.toNat = numberAt packet 44 :=
  toNat_wordAt (by unfold transmitOffset; omega)

/-- The time of sending is zero where all its bytes are. -/
theorem isZero_transmitOf (h : 48 ≤ packet.length) :
    (transmitOf packet).isZero = true ↔ ¬Demand.sent.Holds packet := by
  have hzero : (transmitOf packet).isZero = true
      ↔ numberAt packet 40 = 0 ∧ numberAt packet 44 = 0 := by
    rw [← seconds_transmitOf h, ← fraction_transmitOf h]
    unfold Timestamp.isZero
    rw [Bool.and_eq_true, decide_eq_true_iff, decide_eq_true_iff,
      ← UInt32.toNat_inj, ← UInt32.toNat_inj]
    rfl
  rw [hzero, numberAt_eq_zero_iff, numberAt_eq_zero_iff]
  unfold Demand.Holds
  constructor
  · rintro ⟨hseconds, hfraction⟩ ⟨i, hi, hne⟩
    by_cases hlt : i < 4
    · exact hne (hseconds i hlt)
    · have heq : 44 + (i - 4) = 40 + i := by omega
      have hbyte := hfraction (i - 4) (by omega)
      rw [heq] at hbyte
      exact hne hbyte
  · intro hnone
    refine ⟨fun i hi => ?_, fun i hi => ?_⟩
    · by_contra hne
      exact hnone ⟨i, by omega, hne⟩
    · by_contra hne
      have heq : 40 + (i + 4) = 44 + i := by omega
      exact hnone ⟨i + 4, by omega, heq ▸ hne⟩

/-- The time of sending can be told unless it lies before 1970. -/
theorem unixMicros_transmitOf (h : 48 ≤ packet.length) :
    (transmitOf packet).unixMicros? = none ↔ ¬Demand.epoch.Holds packet := by
  rw [Timestamp.unixMicros_eq_none, Timestamp.secondsSince1900_lt_iff,
    seconds_transmitOf h]
  unfold Demand.Holds
  omega

-- ============================================================== replies

/-- The reply that a packet is, if it meets every demand. -/
def replyIn (packet : List UInt8) : Reply where
  stratum := packet.getD 1 0
  transmit := transmitOf packet
  unixMicros := (transmitOf packet).unixMicros?.getD 0

/-- A packet of 48 bytes has its two first ones. -/
theorem exists_head (h : 48 ≤ packet.length) :
    ∃ flags stratum rest, packet = flags :: stratum :: rest := by
  match packet with
  | flags :: stratum :: rest => exact ⟨flags, stratum, rest, rfl⟩
  | [_] | [] => exact absurd h (by simp)

/-- Of a packet that is long enough the other demands are looked at one
by one. -/
theorem readReply_long (h : 48 ≤ packet.length) :
    readReply packet
      = if Demand.mode.Holds packet then
          if Demand.stratum.Holds packet then
            if Demand.leap.Holds packet then
              if Demand.sent.Holds packet then
                if Demand.epoch.Holds packet then .ok (replyIn packet)
                else .error (Demand.epoch.error packet)
              else .error (Demand.sent.error packet)
            else .error (Demand.leap.error packet)
          else .error (Demand.stratum.error packet)
        else .error (Demand.mode.error packet) := by
  have hlong : ¬packet.length < packetLength := Nat.not_lt.2 h
  have hsent := isZero_transmitOf h
  have hepoch := unixMicros_transmitOf h
  obtain ⟨flags, stratum, rest, rfl⟩ := exists_head h
  -- each test of the code on bits is a demand on numbers
  have hmode : flags &&& 7 ≠ 4
      ↔ ¬Demand.mode.Holds (flags :: stratum :: rest) := by
    rw [ne_eq, ← UInt8.toNat_inj, toNat_low]
    rfl
  have hstratum : stratum = 0
      ↔ ¬Demand.stratum.Holds (flags :: stratum :: rest) := by
    rw [← UInt8.toNat_inj]
    exact not_not.symm
  have hleap : flags >>> 6 = 3
      ↔ ¬Demand.leap.Holds (flags :: stratum :: rest) := by
    rw [← UInt8.toNat_inj, toNat_top]
    exact not_not.symm
  have herror : flags &&& 7
      = .ofNat (byteAt (flags :: stratum :: rest) 0 % 8) := by
    rw [← UInt8.toNat_inj, toNat_low, UInt8.toNat_ofNat']
    exact (Nat.mod_eq_of_lt (by omega)).symm
  simp only [readReply, if_neg hlong, hmode, hstratum, hleap, hsent,
    ite_not]
  rw [herror]
  generalize hp : flags :: stratum :: rest = packet at *
  cases hread : (transmitOf packet).unixMicros? with
  | none =>
    rw [if_neg (hepoch.1 hread)]
    rfl
  | some unixMicros =>
    -- the last demand is that the time can be read, which the others left
    -- open
    have hmet : Demand.epoch.Holds packet := by
      by_contra hunmet
      exact nomatch hread.symm.trans (hepoch.2 hunmet)
    have hreply : replyIn packet
        = ⟨stratum, transmitOf packet, unixMicros⟩ := by
      unfold replyIn
      rw [hread, ← hp]
      rfl
    rw [if_pos hmet, hreply]
    rfl

/-- The demands are looked at in their order, and the first that is not
met is the error. -/
theorem readReply_eq (packet : List UInt8) :
    readReply packet
      = match Demand.firstUnmet packet with
        | some d => .error (d.error packet)
        | none => .ok (replyIn packet) := by
  unfold Demand.firstUnmet Demand.all
  simp only [Demand.find_cons]
  by_cases hlength : Demand.length.Holds packet
  · rw [if_pos hlength, readReply_long hlength]
    split_ifs <;> rfl
  · rw [if_neg hlength]
    have hshort : packet.length < packetLength := Nat.not_le.1 hlength
    match packet with
    | _ :: _ :: _ => exact if_pos hshort
    | [_] | [] => rfl

/-- A reply is read exactly if every `Demand` holds of the packet. -/
theorem exists_readReply_iff :
    (∃ reply, readReply packet = .ok reply)
      ↔ ∀ d, Demand.Holds packet d := by
  rw [readReply_eq, ← Demand.firstUnmet_eq_none_iff]
  cases Demand.firstUnmet packet with
  | none => exact ⟨fun _ => rfl, fun _ => ⟨_, rfl⟩⟩
  | some d =>
    constructor
    · rintro ⟨reply, h⟩
      cases h
    · intro h
      cases h

/-- The error is that of the first demand that does not. -/
theorem readReply_error_iff {e : SntpError} :
    readReply packet = .error e
      ↔ ∃ d, Demand.firstUnmet packet = some d ∧ e = d.error packet := by
  rw [readReply_eq]
  cases Demand.firstUnmet packet with
  | none =>
    constructor
    · intro h
      cases h
    · rintro ⟨d, h, -⟩
      cases h
  | some d =>
    constructor
    · intro h
      cases h
      exact ⟨d, rfl, rfl⟩
    · rintro ⟨_, h, rfl⟩
      cases h
      rfl

/-- What is believed is what stands in the packet. -/
theorem eq_replyIn {reply : Reply} (h : readReply packet = .ok reply) :
    reply = replyIn packet := by
  have hmet := exists_readReply_iff.1 ⟨reply, h⟩
  rw [readReply_eq, Demand.firstUnmet_eq_none_iff.2 hmet] at h
  exact (Except.ok.inj h).symm

/-- The time that a reply is believed for is the one it was sent at. -/
theorem unixMicros_of_readReply {reply : Reply}
    (h : readReply packet = .ok reply) :
    (transmitOf packet).unixMicros? = some reply.unixMicros := by
  have hmet := exists_readReply_iff.1 ⟨reply, h⟩
  obtain rfl := eq_replyIn h
  unfold replyIn
  cases hread : (transmitOf packet).unixMicros? with
  | none =>
    exact absurd (hmet .epoch)
      ((unixMicros_transmitOf (hmet .length)).1 hread)
  | some unixMicros => rfl

-- =============================================================== places

/-- The word at a place, if all its bytes have one. -/
def wordAt? (packet : List UInt8) (offset : Nat) : Option UInt32 := do
  let a ← packet[offset]?
  let b ← packet[offset + 1]?
  let c ← packet[offset + 2]?
  let d ← packet[offset + 3]?
  some (((a.toUInt32 * 256 + b.toUInt32) * 256 + c.toUInt32) * 256
    + d.toUInt32)

/-- `readReply` where every byte is looked up by its place: there is no
value where one of them has no place in the packet. -/
def readReplyAt (packet : List UInt8) :
    Option (Except SntpError Reply) :=
  if packet.length < packetLength then
    some (.error (.shortPacket packet.length))
  else do
    let flags ← packet[0]?
    let stratum ← packet[1]?
    if flags &&& 7 ≠ 4 then some (.error (.unexpectedMode (flags &&& 7)))
    else if stratum = 0 then some (.error .kissOfDeath)
    else if flags >>> 6 = 3 then some (.error .unsynchronized)
    else do
      let seconds ← wordAt? packet transmitOffset
      let fraction ← wordAt? packet (transmitOffset + 4)
      let transmit : Timestamp := ⟨seconds, fraction⟩
      if transmit.isZero then some (.error .zeroTransmit)
      else
        match transmit.unixMicros? with
        | none => some (.error .beforeUnixEpoch)
        | some unixMicros => some (.ok ⟨stratum, transmit, unixMicros⟩)

/-- A word within the packet is read without leaving it. -/
theorem wordAt?_eq (h : offset + 4 ≤ packet.length) :
    wordAt? packet offset = some (wordAt packet offset) := by
  have hplace (i : Nat) (hi : i < packet.length) :
      packet[i]? = some (packet.getD i 0) := by
    rw [List.getD_eq_getElem _ _ hi, List.getElem?_eq_getElem hi]
  unfold wordAt? wordAt
  rw [take_drop_four h, hplace _ (by omega), hplace _ (by omega),
    hplace _ (by omega), hplace _ (by omega)]
  simp

/-- Behind the check of the length every byte has its place. -/
theorem readReplyAt_eq (packet : List UInt8) :
    readReplyAt packet = some (readReply packet) := by
  unfold readReplyAt
  split
  next hshort =>
    match packet with
    | _ :: _ :: _ => exact congrArg some (if_pos hshort).symm
    | [_] | [] => rfl
  next hlong =>
    have h : 48 ≤ packet.length := Nat.not_lt.1 hlong
    have hseconds : wordAt? packet transmitOffset
        = some (transmitOf packet).seconds :=
      wordAt?_eq (by unfold transmitOffset; omega)
    have hfraction : wordAt? packet (transmitOffset + 4)
        = some (transmitOf packet).fraction :=
      wordAt?_eq (by unfold transmitOffset; omega)
    rw [hseconds, hfraction]
    obtain ⟨flags, stratum, rest, rfl⟩ := exists_head h
    simp only [readReply, if_neg hlong, List.getElem?_cons_zero,
      List.getElem?_cons_succ, Option.bind_eq_bind, Option.bind_some]
    generalize transmitOf (flags :: stratum :: rest) = transmit
    split_ifs
    · rfl
    · rfl
    · rfl
    · rfl
    · cases transmit.unixMicros? with
      | none => rfl
      | some unixMicros => rfl

-- ============================================================== exactly

/-- Two packets have the bytes that count in common. -/
def Agree (packet other : List UInt8) : Prop :=
  ∀ i, i < 2 ∨ 40 ≤ i ∧ i < 48 → other[i]? = packet[i]?

/-- Then they have the time of sending in common, and meet the same
demands if one of them is long enough. -/
theorem Agree.view {other : List UInt8} (h : Agree packet other)
    (hlong : 48 ≤ packet.length) :
    48 ≤ other.length ∧ replyIn other = replyIn packet
      ∧ ∀ d, Demand.Holds packet d → Demand.Holds other d := by
  have hother : 48 ≤ other.length := by
    have hlast := h 47 (by decide)
    rw [List.getElem?_eq_getElem (by omega : 47 < packet.length)] at hlast
    exact (List.getElem?_eq_some_iff.1 hlast).1
  have hbyte (i : Nat) (hi : i < 2 ∨ 40 ≤ i ∧ i < 48) :
      other.getD i 0 = packet.getD i 0 := by
    rw [List.getD_eq_getElem?_getD, List.getD_eq_getElem?_getD, h i hi]
  have hnumber (i : Nat) (hi : i < 2 ∨ 40 ≤ i ∧ i < 48) :
      byteAt other i = byteAt packet i :=
    congrArg UInt8.toNat (hbyte i hi)
  -- both words of the sending time lie in the bytes that are agreed on
  have hword (offset : Nat) (hlow : 40 ≤ offset) (hhigh : offset ≤ 44) :
      wordAt other offset = wordAt packet offset := by
    unfold wordAt
    rw [take_drop_four (by omega), take_drop_four (by omega),
      hbyte _ (by omega), hbyte _ (by omega), hbyte _ (by omega),
      hbyte _ (by omega)]
  have hsending : transmitOf other = transmitOf packet := by
    unfold transmitOf
    rw [hword _ (by decide) (by decide), hword _ (by decide) (by decide)]
  refine ⟨hother, ?_, fun d hd => ?_⟩
  · unfold replyIn
    rw [hsending, hbyte 1 (by decide)]
  · cases d with
    | length => exact hother
    | mode | leap =>
      unfold Demand.Holds at hd ⊢
      rw [hnumber 0 (by decide)]
      exact hd
    | stratum =>
      unfold Demand.Holds at hd ⊢
      rw [hnumber 1 (by decide)]
      exact hd
    | sent =>
      obtain ⟨i, hi, hne⟩ := hd
      refine ⟨i, hi, ?_⟩
      rw [hnumber _ (by omega)]
      exact hne
    | epoch =>
      -- this demand is about the reading itself, which both packets have
      -- in common
      by_contra hunmet
      have hnone := (unixMicros_transmitOf hother).2 hunmet
      rw [hsending, unixMicros_transmitOf hlong] at hnone
      exact hnone hd

/-- A packet is believed by `readReply` exactly where every `Demand` is
met. Then it is what stands in the packet, and bytes that are neither the
first two nor in the time of sending do not matter. Otherwise the error is
that of the first demand that is not met. No byte is looked up where there
is none. -/
theorem readReply_exact (packet : List UInt8) :
    ((∃ reply, readReply packet = .ok reply)
      ↔ ∀ d, Demand.Holds packet d)
    ∧ (∀ reply, readReply packet = .ok reply →
      reply.stratum.toNat = byteAt packet 1
      ∧ reply.transmit.seconds.toNat = numberAt packet 40
      ∧ reply.transmit.fraction.toNat = numberAt packet 44
      ∧ reply.transmit.unixMicros? = some reply.unixMicros
      ∧ ∀ other, Agree packet other → readReply other = .ok reply)
    ∧ (∀ e, readReply packet = .error e
      ↔ ∃ d, Demand.firstUnmet packet = some d ∧ e = d.error packet)
    ∧ readReplyAt packet = some (readReply packet) := by
  refine ⟨exists_readReply_iff, fun reply h => ?_,
    fun e => readReply_error_iff, readReplyAt_eq packet⟩
  have hmet := exists_readReply_iff.1 ⟨reply, h⟩
  have hread := unixMicros_of_readReply h
  obtain rfl := eq_replyIn h
  refine ⟨rfl, seconds_transmitOf (hmet .length),
    fraction_transmitOf (hmet .length), hread, fun other hagree => ?_⟩
  obtain ⟨-, hreply, hother⟩ := hagree.view (hmet .length)
  rw [readReply_eq, ← hreply,
    Demand.firstUnmet_eq_none_iff.2 fun d => hother d (hmet d)]

end Uplink.Time
