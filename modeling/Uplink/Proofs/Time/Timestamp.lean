/-
Times as packets carry them, and the microseconds they stand for.

# Exactness

The conversion works on words of 64 bits, whose operations run over
silently. `Checked` has the same operations as a device has them that
stops where one would: there is no value then. A conversion that is
written with those always has one, and it is the one of the library
(`checkedMicros_eq`). So what is told is what the natural numbers say
(`toNat_unixMicros`).

# Two eras

A number of seconds with its top bit clear is of the era from 2036 on, so
the seconds since 1900 are one stretch of 2^32 without a gap. What lies
below the Unix epoch is all that is refused. A time that is written with
its fraction rounded up is rounded down to what it was when it is read
(`conversion`).
-/
import Mathlib.Algebra.Order.Ring.Nat
import Uplink.Time.Ntp

namespace Uplink.Time

-- ==================================================== checked operations

namespace Checked

variable {a b : UInt64}

/-- A number, if a word can hold it. -/
def ofNat (n : Nat) : Option UInt64 :=
  if n < UInt64.size then some (.ofNat n) else none

def add (a b : UInt64) : Option UInt64 :=
  ofNat (a.toNat + b.toNat)

def mul (a b : UInt64) : Option UInt64 :=
  ofNat (a.toNat * b.toNat)

/-- The difference, unless it is negative. -/
def sub (a b : UInt64) : Option UInt64 :=
  if b ≤ a then some (a - b) else none

/-- A sum within 64 bits is what the checked addition gives. -/
theorem add_eq (h : a.toNat + b.toNat < UInt64.size) :
    add a b = some (a + b) := by
  unfold add ofNat
  rw [if_pos h, UInt64.ofNat_add, UInt64.ofNat_toNat, UInt64.ofNat_toNat]

/-- A product within 64 bits is what the checked multiplication gives. -/
theorem mul_eq (h : a.toNat * b.toNat < UInt64.size) :
    mul a b = some (a * b) := by
  unfold mul ofNat
  rw [if_pos h, UInt64.ofNat_mul, UInt64.ofNat_toNat, UInt64.ofNat_toNat]

/-- A difference that is not negative is what the checked subtraction
gives. -/
theorem sub_eq (h : b ≤ a) : sub a b = some (a - b) :=
  if_pos h

end Checked

-- ============================================================ conversion

/-- From here on, in microseconds since 1970, a time is taken for one of
the era before. -/
def horizon : Nat :=
  (2 ^ 32 + 2 ^ 31 - 2208988800) * 10 ^ 6

namespace Timestamp

variable {t later : Timestamp} {micros : UInt64}

/-- Seconds since 1900. Those with the top bit clear are of the second
era. -/
def secondsSince1900 (t : Timestamp) : Nat :=
  if t.seconds.toNat < 2 ^ 31 then t.seconds.toNat + 2 ^ 32
  else t.seconds.toNat

/-- The extended seconds are those since 1900, in either era. -/
theorem toNat_extendedSeconds (t : Timestamp) :
    t.extendedSeconds.toNat = t.secondsSince1900 := by
  have htop : t.seconds < 2147483648 ↔ t.seconds.toNat < 2 ^ 31 :=
    UInt32.lt_iff_toNat_lt
  have hera : eraLength.toNat = 2 ^ 32 := rfl
  unfold extendedSeconds secondsSince1900
  by_cases h : t.seconds.toNat < 2 ^ 31
  · rw [if_pos (htop.2 h), if_pos h, UInt64.toNat_add,
      UInt32.toNat_toUInt64, hera, Nat.mod_eq_of_lt (by omega)]
  · rw [if_neg (mt htop.1 h), if_neg h, UInt32.toNat_toUInt64]

/-- The two eras make one stretch, as long as an era. -/
theorem secondsSince1900_bounds (t : Timestamp) :
    2 ^ 31 ≤ t.secondsSince1900 ∧ t.secondsSince1900 < 2 ^ 32 + 2 ^ 31 := by
  have hs : t.seconds.toNat < 2 ^ 32 := t.seconds.toNat_lt
  unfold secondsSince1900
  split <;> omega

/-- Within that stretch the lower 32 bits tell the number. -/
theorem secondsSince1900_of_mod {seconds : Nat}
    (h : t.seconds.toNat = seconds % 2 ^ 32) (hlow : 2 ^ 31 ≤ seconds)
    (hhigh : seconds < 2 ^ 32 + 2 ^ 31) : t.secondsSince1900 = seconds := by
  unfold secondsSince1900
  split <;> omega

/-- The fraction of a second is rounded down to microseconds. -/
theorem toNat_fractionMicros (t : Timestamp) :
    t.fractionMicros.toNat = t.fraction.toNat * 1000000 / 2 ^ 32 := by
  have hf : t.fraction.toNat < 2 ^ 32 := t.fraction.toNat_lt
  have hmillion : (1000000 : UInt64).toNat = 1000000 := rfl
  have h32 : (32 : UInt64).toNat % 64 = 32 := rfl
  unfold fractionMicros
  rw [UInt64.toNat_shiftRight, UInt64.toNat_mul, UInt32.toNat_toUInt64,
    Nat.shiftRight_eq_div_pow, h32, hmillion, Nat.mod_eq_of_lt (by omega)]

/-- What lies before 1970 is refused, and nothing else. -/
theorem unixMicros_eq_none :
    t.unixMicros? = none ↔ t.secondsSince1900 < 2208988800 := by
  have hoffset : unixOffset.toNat = 2208988800 := rfl
  have hepoch : t.extendedSeconds < unixOffset
      ↔ t.secondsSince1900 < 2208988800 := by
    rw [UInt64.lt_iff_toNat_lt, toNat_extendedSeconds, hoffset]
  rw [← hepoch]
  unfold unixMicros?
  split
  next h => exact ⟨fun _ => h, fun _ => rfl⟩
  next h => exact ⟨nofun, fun h' => absurd h' h⟩

/-- What lies before 1970 is in the first era, where the top bit is
set. -/
theorem secondsSince1900_lt_iff :
    t.secondsSince1900 < 2208988800
      ↔ 2 ^ 31 ≤ t.seconds.toNat ∧ t.seconds.toNat < 2208988800 := by
  unfold secondsSince1900
  split <;> omega

/-- What is told is told exactly. -/
theorem toNat_unixMicros (h : t.unixMicros? = some micros) :
    2208988800 ≤ t.secondsSince1900
      ∧ micros.toNat = (t.secondsSince1900 - 2208988800) * 1000000
        + t.fraction.toNat * 1000000 / 2 ^ 32 := by
  have hoffset : unixOffset.toNat = 2208988800 := rfl
  have hmillion : (1000000 : UInt64).toNat = 1000000 := rfl
  have hf : t.fraction.toNat < 2 ^ 32 := t.fraction.toNat_lt
  obtain ⟨-, hs⟩ := secondsSince1900_bounds t
  rw [← toNat_extendedSeconds] at hs ⊢
  unfold unixMicros? at h
  split at h
  · cases h
  next hepoch =>
    have hepoch : unixOffset ≤ t.extendedSeconds := UInt64.not_lt.1 hepoch
    cases h
    refine ⟨hoffset ▸ UInt64.le_iff_toNat_le.1 hepoch, ?_⟩
    rw [UInt64.toNat_add, UInt64.toNat_mul,
      UInt64.toNat_sub_of_le _ _ hepoch, toNat_fractionMicros, hoffset,
      hmillion]
    omega

/-- Every time that is told lies before the `horizon`. -/
theorem lt_horizon (h : t.unixMicros? = some micros) :
    micros.toNat < horizon := by
  have hf : t.fraction.toNat < 2 ^ 32 := t.fraction.toNat_lt
  obtain ⟨-, hs⟩ := secondsSince1900_bounds t
  obtain ⟨-, hmicros⟩ := toNat_unixMicros h
  unfold horizon
  omega

-- ===================================================== checked conversion

/-- `extendedSeconds` with operations that are checked. -/
def checkedSeconds (t : Timestamp) : Option UInt64 :=
  if t.seconds < 2147483648 then
    Checked.add t.seconds.toUInt64 eraLength
  else some t.seconds.toUInt64

/-- `fractionMicros` with operations that are checked. -/
def checkedFraction (t : Timestamp) : Option UInt64 := do
  let scaled ← Checked.mul t.fraction.toUInt64 1000000
  some (scaled >>> 32)

/-- The conversion with operations that are checked. -/
def checkedMicros (t : Timestamp) : Option (Option UInt64) := do
  let seconds ← t.checkedSeconds
  let fraction ← t.checkedFraction
  if seconds < unixOffset then some none
  else do
    let elapsed ← Checked.sub seconds unixOffset
    let whole ← Checked.mul elapsed 1000000
    let micros ← Checked.add whole fraction
    some (some micros)

/-- Extending the seconds never overflows. -/
theorem checkedSeconds_eq (t : Timestamp) :
    t.checkedSeconds = some t.extendedSeconds := by
  have hera : eraLength.toNat = 2 ^ 32 := rfl
  have hsize : UInt64.size = 2 ^ 64 := rfl
  have hs : t.seconds.toNat < 2 ^ 32 := t.seconds.toNat_lt
  unfold checkedSeconds extendedSeconds
  split
  · refine Checked.add_eq ?_
    rw [UInt32.toNat_toUInt64]
    omega
  · rfl

/-- Scaling the fraction never does either. -/
theorem checkedFraction_eq (t : Timestamp) :
    t.checkedFraction = some t.fractionMicros := by
  have hmillion : (1000000 : UInt64).toNat = 1000000 := rfl
  have hsize : UInt64.size = 2 ^ 64 := rfl
  have hf : t.fraction.toNat < 2 ^ 32 := t.fraction.toNat_lt
  have hscaled : Checked.mul t.fraction.toUInt64 1000000
      = some (t.fraction.toUInt64 * 1000000) := by
    refine Checked.mul_eq ?_
    rw [UInt32.toNat_toUInt64, hmillion]
    omega
  unfold checkedFraction fractionMicros
  rw [hscaled]
  rfl

/-- No operation of the conversion runs over. -/
theorem checkedMicros_eq (t : Timestamp) :
    t.checkedMicros = some t.unixMicros? := by
  unfold checkedMicros unixMicros?
  rw [checkedSeconds_eq, checkedFraction_eq]
  dsimp only [Option.bind_eq_bind, Option.bind_some]
  split
  · rfl
  next hepoch =>
    have hepoch : unixOffset ≤ t.extendedSeconds := UInt64.not_lt.1 hepoch
    have hmillion : (1000000 : UInt64).toNat = 1000000 := rfl
    have hsize : UInt64.size = 2 ^ 64 := rfl
    -- the product and the sum stay far below 2 ^ 64
    have hwhole : (t.extendedSeconds - unixOffset).toNat
        * (1000000 : UInt64).toNat < 2 ^ 63 := by
      obtain ⟨-, hs⟩ := secondsSince1900_bounds t
      rw [UInt64.toNat_sub_of_le _ _ hepoch, toNat_extendedSeconds,
        hmillion]
      omega
    have hfraction : t.fractionMicros.toNat < 2 ^ 32 := by
      have hf : t.fraction.toNat < 2 ^ 32 := t.fraction.toNat_lt
      rw [toNat_fractionMicros]
      omega
    have hsum : ((t.extendedSeconds - unixOffset) * 1000000).toNat
        + t.fractionMicros.toNat < UInt64.size := by
      rw [UInt64.toNat_mul]
      omega
    rw [Checked.sub_eq hepoch, Option.bind_some,
      Checked.mul_eq (by omega), Option.bind_some,
      Checked.add_eq hsum, Option.bind_some]

-- ============================================================ round trip

/-- By the seconds since 1900, and then by the fraction. -/
def NotAfter (t later : Timestamp) : Prop :=
  t.secondsSince1900 < later.secondsSince1900
    ∨ t.secondsSince1900 = later.secondsSince1900
      ∧ t.fraction ≤ later.fraction

/-- The order of the times is that of the microseconds, and what is told
of one is told of every later one. -/
theorem unixMicros_mono (horder : t.NotAfter later)
    (h : t.unixMicros? = some micros) :
    ∃ micros', later.unixMicros? = some micros' ∧ micros ≤ micros' := by
  obtain ⟨hepoch, hmicros⟩ := toNat_unixMicros h
  unfold NotAfter at horder
  rw [UInt32.le_iff_toNat_le] at horder
  cases hlater : later.unixMicros? with
  | none =>
    have hnone := unixMicros_eq_none.1 hlater
    omega
  | some micros' =>
    obtain ⟨-, hmicros'⟩ := toNat_unixMicros hlater
    refine ⟨micros', rfl, UInt64.le_iff_toNat_le.2 ?_⟩
    have hf : t.fraction.toNat < 2 ^ 32 := t.fraction.toNat_lt
    omega

/-- A fraction of a second, in microseconds, as the first number of
2^-32 seconds that is not below it: the quotient rounded up. -/
def ceilFraction (micros : Nat) : Nat :=
  (micros * 2 ^ 32 + (1000000 - 1)) / 1000000

/-- A time, in microseconds since 1970, as the first one that is not
before it: of the seconds since 1900 what 32 bits hold, and the fraction
rounded up. -/
def ceiling (micros : Nat) : Timestamp where
  seconds := .ofNat (micros / 1000000 + 2208988800)
  fraction := .ofNat (ceilFraction (micros % 1000000))

/-- Rounded up, a fraction is still no whole second, and rounding down
undoes it. -/
theorem ceilFraction_spec {micros : Nat} (h : micros < 1000000) :
    ceilFraction micros < 2 ^ 32
      ∧ ceilFraction micros * 1000000 / 2 ^ 32 = micros := by
  unfold ceilFraction
  omega

/-- Times before the `horizon` fit the packet and are read as they were
written, to the microsecond. A time is refused only where it lies in the
two years before 1970, no operation of a conversion runs over, and the
order of the times is that of the microseconds. -/
theorem conversion :
    (∀ micros < horizon,
      (ceiling micros).seconds.toNat
          = (micros / 1000000 + 2208988800) % 2 ^ 32
        ∧ (ceiling micros).fraction.toNat
          = (micros % 1000000 * 2 ^ 32 + 999999) / 1000000
        ∧ (ceiling micros).unixMicros?.map UInt64.toNat = some micros)
      ∧ ∀ t : Timestamp,
        (t.unixMicros? = none
          ↔ 2 ^ 31 ≤ t.seconds.toNat ∧ t.seconds.toNat < 2208988800)
        ∧ t.checkedMicros = some t.unixMicros?
        ∧ ∀ micros, t.unixMicros? = some micros →
          micros.toNat = (t.secondsSince1900 - 2208988800) * 1000000
              + t.fraction.toNat * 1000000 / 2 ^ 32
            ∧ ∀ later, t.NotAfter later →
              ∃ micros', later.unixMicros? = some micros'
                ∧ micros ≤ micros' := by
  refine ⟨fun micros hmicros => ?_, fun t =>
    ⟨unixMicros_eq_none.trans secondsSince1900_lt_iff,
      checkedMicros_eq t, fun micros h =>
        ⟨(toNat_unixMicros h).2, fun later horder =>
          unixMicros_mono horder h⟩⟩⟩
  have hseconds : (ceiling micros).seconds.toNat
      = (micros / 1000000 + 2208988800) % 2 ^ 32 := UInt32.toNat_ofNat'
  obtain ⟨hfits, hround⟩ :=
    ceilFraction_spec (Nat.mod_lt micros (by decide : 0 < 1000000))
  have hfraction : (ceiling micros).fraction.toNat
      = ceilFraction (micros % 1000000) :=
    UInt32.toNat_ofNat'.trans (Nat.mod_eq_of_lt hfits)
  refine ⟨hseconds, hfraction, ?_⟩
  unfold horizon at hmicros
  -- below the horizon the era can be told from the wrapped seconds
  have hsince := secondsSince1900_of_mod hseconds (by omega) (by omega)
  cases hread : (ceiling micros).unixMicros? with
  | none =>
    have hnone := unixMicros_eq_none.1 hread
    omega
  | some read =>
    obtain ⟨-, hexact⟩ := toNat_unixMicros hread
    refine congrArg some ?_
    rw [hexact, hsince, hfraction, hround]
    omega

end Timestamp

end Uplink.Time
