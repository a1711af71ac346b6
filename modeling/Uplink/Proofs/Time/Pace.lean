/-
How a clock runs between two uptimes.

The integers know of no saturation and of no overflow: there the time is
the uptime moved by a constant (`reckoned`), and runs at its rate. A clock
shows that time from the epoch on, and zero before it. So it runs at the
rate of the uptime where the integers are past the epoch already, and
otherwise more slowly, because it stands still until they get there; the
uptime at which it was set is no place of its own (`uptime_pace`).
-/
import Uplink.Proofs.Time.Exchange

namespace Uplink.Time.SyncedClock

variable {c : SyncedClock} {u v w : UInt64}

-- ======================================================== the integers

/-- The Unix time at an uptime as the integers have it, in microseconds.
It is negative before the epoch. -/
def reckoned (c : SyncedClock) (uptime : UInt64) : Int :=
  c.unixMicros.toNat + uptime.toNat - c.uptimeMicros.toNat

/-- The integers that the clock stands for advance exactly as the uptime
does. -/
theorem reckoned_sub (c : SyncedClock) (u v : UInt64) :
    c.reckoned v - c.reckoned u = v.toNat - u.toNat := by
  unfold reckoned
  omega

/-- So they never go back while the uptime does not. -/
theorem reckoned_mono (huv : u ≤ v) : c.reckoned u ≤ c.reckoned v := by
  have hnat := UInt64.le_iff_toNat_le.1 huv
  have hsub := c.reckoned_sub u v
  omega

/-- They are below zero only before the epoch, as seen from the anchor. -/
theorem reckoned_nonneg_iff :
    0 ≤ c.reckoned u
      ↔ c.uptimeMicros.toNat ≤ c.unixMicros.toNat + u.toNat := by
  unfold reckoned
  omega

-- ============================================================= overflow

/-- The time overflows exactly where it is too large as an integer. -/
theorem overflowsAt_iff :
    c.overflowsAt w = true ↔ (UInt64.size : Int) ≤ c.reckoned w := by
  unfold overflowsAt reckoned
  rw [Bool.and_eq_true, decide_eq_true_iff, decide_eq_true_iff,
    UInt64.le_iff_toNat_le]
  constructor
  · rintro ⟨hle, hsize⟩
    rw [UInt64.toNat_sub_of_le _ _ (UInt64.le_iff_toNat_le.2 hle)] at hsize
    omega
  · intro hsize
    -- before the clock was set the time is less than what it was set to
    have hset := c.unixMicros.toNat_lt
    have hle : c.uptimeMicros.toNat ≤ w.toNat := by
      have hpow : UInt64.size = 2 ^ 64 := rfl
      omega
    rw [UInt64.toNat_sub_of_le _ _ (UInt64.le_iff_toNat_le.2 hle)]
    omega

/-- A time that can be told could be told before. -/
theorem overflowsAt_of_le (huv : u ≤ v) (h : c.overflowsAt v = false) :
    c.overflowsAt u = false := by
  rw [← Bool.not_eq_true, overflowsAt_iff] at h ⊢
  have hmono := reckoned_mono (c := c) huv
  omega

-- ============================================================= the clock

/-- The clock shows these integers, and zero for those below zero, where no
operation runs over. -/
theorem toNat_unixMicrosAt_eq_max (h : c.overflowsAt w = false) :
    ((c.unixMicrosAt w).toNat : Int) = max 0 (c.reckoned w) :=
  toNat_unixMicrosAt h

/-- The seconds are the microseconds rounded down, at any uptime. -/
theorem toNat_unixSecondsAt (c : SyncedClock) (w : UInt64) :
    (c.unixSecondsAt w).toNat * 1000000 ≤ (c.unixMicrosAt w).toNat
      ∧ (c.unixMicrosAt w).toNat
        < ((c.unixSecondsAt w).toNat + 1) * 1000000 := by
  have hdiv : (c.unixSecondsAt w).toNat
      = (c.unixMicrosAt w).toNat / 1000000 := UInt64.toNat_div _ _
  omega

/-- Up to an uptime at which the time can be told (`unixMicrosAt`), a clock
never runs back. From the epoch on it runs exactly as the uptime does, and
before that at most as fast; and its seconds are the microseconds rounded
down. -/
theorem uptime_pace (c : SyncedClock) {u v : UInt64} (huv : u ≤ v)
    (h : c.overflowsAt v = false) :
    c.overflowsAt u = false
      ∧ c.unixMicrosAt u ≤ c.unixMicrosAt v
      ∧ (c.uptimeMicros.toNat ≤ c.unixMicros.toNat + u.toNat →
          ((c.unixMicrosAt v).toNat : Int) - (c.unixMicrosAt u).toNat
            = v.toNat - u.toNat)
      ∧ (c.unixMicros.toNat + u.toNat < c.uptimeMicros.toNat →
          ((c.unixMicrosAt v).toNat : Int) - (c.unixMicrosAt u).toNat
            ≤ v.toNat - u.toNat)
      ∧ c.unixSecondsAt u ≤ c.unixSecondsAt v
      ∧ ∀ w, (c.unixSecondsAt w).toNat * 1000000
            ≤ (c.unixMicrosAt w).toNat
          ∧ (c.unixMicrosAt w).toNat
            < ((c.unixSecondsAt w).toNat + 1) * 1000000 := by
  have hu := overflowsAt_of_le huv h
  have hshown := toNat_unixMicrosAt_eq_max hu
  have hshown' := toNat_unixMicrosAt_eq_max h
  have hmono := reckoned_mono (c := c) huv
  have hrate := c.reckoned_sub u v
  have hback : (c.unixMicrosAt u).toNat ≤ (c.unixMicrosAt v).toNat := by
    omega
  refine ⟨hu, UInt64.le_iff_toNat_le.2 hback, fun hpast => ?_,
    fun _ => ?_, UInt64.le_iff_toNat_le.2 ?_, c.toNat_unixSecondsAt⟩
  · -- both times are past the epoch, so nothing is cut off
    have hzero := reckoned_nonneg_iff.2 hpast
    omega
  · omega
  · have hsec := c.toNat_unixSecondsAt u
    have hsec' := c.toNat_unixSecondsAt v
    omega

/-- From before the clock was set to after it; and from before the epoch,
where a third of the time between the two does not show. -/
theorem uptime_pace_across :
    let c : SyncedClock := ⟨2500000, 3000000⟩
    ((600000 : UInt64) ≤ 4000000 ∧ c.overflowsAt 4000000 = false
        ∧ c.uptimeMicros.toNat
          ≤ c.unixMicros.toNat + (600000 : UInt64).toNat
        ∧ ((c.unixMicrosAt 4000000).toNat : Int)
            - (c.unixMicrosAt 600000).toNat
          = (4000000 : UInt64).toNat - (600000 : UInt64).toNat)
      ∧ ((400000 : UInt64) ≤ 700000 ∧ c.overflowsAt 700000 = false
        ∧ c.unixMicros.toNat + (400000 : UInt64).toNat
          < c.uptimeMicros.toNat
        ∧ ((c.unixMicrosAt 700000).toNat : Int)
            - (c.unixMicrosAt 400000).toNat
          ≤ (700000 : UInt64).toNat - (400000 : UInt64).toNat
        ∧ (c.unixMicrosAt 700000).toNat = 200000
        ∧ (c.unixMicrosAt 400000).toNat = 0) := by
  intro c
  obtain ⟨-, -, hexact, -⟩ :=
    uptime_pace c (u := 600000) (v := 4000000) (by decide) (by decide)
  obtain ⟨-, -, -, hslow, -⟩ :=
    uptime_pace c (u := 400000) (v := 700000) (by decide) (by decide)
  exact ⟨⟨by decide, by decide, by decide, hexact (by decide)⟩,
    by decide, by decide, by decide, hslow (by decide), by decide,
    by decide⟩

end Uplink.Time.SyncedClock
