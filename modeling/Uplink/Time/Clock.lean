/-
A clock that was set once and runs with the device.

The device only knows how long it has been up. One observation of the
Unix time at a known uptime turns every other uptime into a time.
-/

namespace Uplink.Time

/-- The Unix time at one uptime, both in microseconds. -/
structure SyncedClock where
  unixMicros : UInt64
  uptimeMicros : UInt64
deriving DecidableEq, Repr

namespace SyncedClock

/-- The Unix time at an uptime. Before the observation the clock runs
back, and stops at the epoch. -/
def unixMicrosAt (c : SyncedClock) (uptime : UInt64) : UInt64 :=
  if c.uptimeMicros ≤ uptime then
    c.unixMicros + (uptime - c.uptimeMicros)
  else if c.uptimeMicros - uptime ≤ c.unixMicros then
    c.unixMicros - (c.uptimeMicros - uptime)
  else 0

/-- The Unix time at an uptime, in whole seconds. -/
def unixSecondsAt (c : SyncedClock) (uptime : UInt64) : UInt64 :=
  c.unixMicrosAt uptime / 1000000

/-- The time at this uptime is beyond what 64 bits of microseconds can
tell. -/
def overflowsAt (c : SyncedClock) (uptime : UInt64) : Bool :=
  c.uptimeMicros ≤ uptime &&
    UInt64.size ≤ c.unixMicros.toNat + (uptime - c.uptimeMicros).toNat

end SyncedClock

end Uplink.Time
