/-
How far a clock is off that was set over the network.

# Where the error comes from

A server writes the time of sending in units of 2^-32 seconds, rounded
down, and reading that back in whole microseconds rounds down once more.
Both together lose at most one microsecond (`unixMicros_ofMicros`).
The era is not in the packet; up to the `horizon` the top bit of the
seconds gives it away.

How long the reply was under way is not known either, only how long the
whole exchange took. The clock takes half of that, rounded down, so it is
off by the other half at most, whichever way the two directions share it.
The two errors are added up in `query_accuracy`, for every exchange whose
packet says what time it was at some moment in between. The bound is
reached (`query_accuracy_reached`).
-/
import Mathlib.Algebra.Order.Group.Abs
import Mathlib.Algebra.Order.Group.Int
import Mathlib.Algebra.Order.Ring.Nat
import Uplink.Proofs.Time.Exchange

namespace Uplink.Time

-- ======================================================= written times

/-- A time, in microseconds since 1970, as a server writes it: of the
seconds since 1900 what 32 bits hold, and the fraction rounded down. -/
def Timestamp.ofMicros (micros : Nat) : Timestamp where
  seconds := .ofNat (micros / 1000000 + 2208988800)
  fraction := .ofNat (micros % 1000000 * 2 ^ 32 / 1000000)

namespace Timestamp

variable {micros : Nat}

/-- Before the `horizon` the top bit of the seconds tells the era. -/
theorem secondsSince1900_ofMicros (h : micros < horizon) :
    (ofMicros micros).secondsSince1900 = micros / 1000000 + 2208988800 := by
  unfold horizon at h
  exact secondsSince1900_of_mod UInt32.toNat_ofNat' (by omega) (by omega)

/-- The fraction of the timestamp of some microseconds is that of the
microseconds past the second, rounded down. -/
theorem toNat_fraction_ofMicros (micros : Nat) :
    (ofMicros micros).fraction.toNat
      = micros % 1000000 * 2 ^ 32 / 1000000 := by
  refine UInt32.toNat_ofNat'.trans (Nat.mod_eq_of_lt ?_)
  omega

/-- A time that is written and read loses a microsecond at most. -/
theorem unixMicros_ofMicros (h : micros < horizon) {read : UInt64}
    (hread : (ofMicros micros).unixMicros? = some read) :
    read.toNat ≤ micros ∧ micros ≤ read.toNat + 1 := by
  obtain ⟨-, hexact⟩ := toNat_unixMicros hread
  rw [hexact, secondsSince1900_ofMicros h, toNat_fraction_ofMicros]
  omega

end Timestamp

-- ============================================================ accuracy

/-- The clock that was just set shows what it was set to. -/
theorem unixMicrosAt_clockOf (reply : Reply) (sentAt receivedAt : UInt64) :
    (clockOf reply sentAt receivedAt).unixMicrosAt receivedAt
      = reply.unixMicros + halfRoundTrip sentAt receivedAt := by
  unfold clockOf SyncedClock.unixMicrosAt
  simp

/-- The time, in microseconds since 1970, on a device that was started at
some time and has been up for so long. -/
def utcAt (start : Int) (uptime : Nat) : Int :=
  start + uptime

/-- A `query` that sets a clock reads the uptime before and after one
`exchange`. If the packet that came says what time it was at some uptime in
between, before the `horizon`, then the clock is off by half the exchange,
rounded up, and a microsecond at most. -/
theorem query_accuracy {σ : Type} {B : Behaviour Servers σ}
    {server : String} {s s' : σ} {t : List (Event Servers)}
    {clock : SyncedClock}
    (h : Proc.Runs B (query server) s t (.ok clock) s') :
    ∃ sentAt delivery receivedAt line,
      t = [⟨.uptime, sentAt⟩,
        ⟨.exchange server request replyTimeout, some (.ok delivery)⟩,
        ⟨.uptime, receivedAt⟩, ⟨.log line, ()⟩]
      ∧ ∀ (start : Int) (sending micros : Nat),
        sentAt.toNat ≤ sending → sending ≤ receivedAt.toNat →
        utcAt start sending = micros → micros < horizon →
        transmitOf delivery.packet = .ofMicros micros →
        |((clock.unixMicrosAt receivedAt).toNat : Int)
            - utcAt start receivedAt.toNat|
          ≤ ((receivedAt.toNat - sentAt.toNat + 1) / 2 + 1 : Nat) := by
  obtain ⟨sentAt, delivery, receivedAt, line, reply, rfl, hreply, rfl⟩ :=
    (records_query server).of_runs h clock rfl
  refine ⟨sentAt, delivery, receivedAt, line, rfl, ?_⟩
  intro start sending micros hsent hreceived hutc hhorizon hwritten
  have hread := unixMicros_of_readReply hreply
  rw [hwritten] at hread
  obtain ⟨hle, hge⟩ := Timestamp.unixMicros_ofMicros hhorizon hread
  have hhalf := toNat_halfRoundTrip sentAt receivedAt
  have hset : ((clockOf reply sentAt receivedAt).unixMicrosAt
      receivedAt).toNat
      = reply.unixMicros.toNat
        + (receivedAt.toNat - sentAt.toNat) / 2 := by
    have := receivedAt.toNat_lt
    unfold horizon at hhorizon
    rw [unixMicrosAt_clockOf, UInt64.toNat_add, hhalf,
      Nat.mod_eq_of_lt (by omega)]
  rw [hset]
  unfold utcAt at hutc ⊢
  rw [abs_le]
  omega

/-- A reply that was sent one microsecond before the second that is
4417977600 seconds after 1900, and so in the second era. -/
def eveOfSecond : List UInt8 :=
  [0x24, 2] ++ List.replicate 38 0
    ++ [0x07, 0x54, 0xfd, 0x00, 0xff, 0xff, 0xef, 0x39]

/-- The reply is sent the moment the request is, and takes all of 40001
microseconds to arrive. -/
def slowReturn (call : SyncCall) (uptimes : List UInt64) :
    call.Answer × List UInt64 :=
  match call with
  | .uptime => (uptimes.headD 0, uptimes.tail)
  | .exchange .. => (some (.ok ⟨packetLength, eveOfSecond⟩), uptimes)
  | .isOnline => (true, uptimes)
  | .awaitOnline | .pause _ | .log _ => ((), uptimes)
  | .active => (none, uptimes)

/-- The bound of the accuracy cannot be improved: where the request takes
no time and the way back all of it, the clock is off by exactly that
much. -/
theorem query_accuracy_reached : ∃ t clock,
    Proc.Runs (.of slowReturn) (query "pool.ntp.org")
      [5000000, 5040001] t (.ok clock) []
    ∧ |((clock.unixMicrosAt 5040001).toNat : Int)
        - utcAt 2208988795999999 5040001| ≤ ((40001 + 1) / 2 + 1 : Nat)
    ∧ ((clock.unixMicrosAt 5040001).toNat : Int)
      = utcAt 2208988795999999 5040001 - ((40001 + 1) / 2 + 1 : Nat) := by
  have h : Proc.Runs (.of slowReturn) (query "pool.ntp.org")
      [5000000, 5040001] _ (.ok ⟨2208988801019998, 5040001⟩) [] :=
    .call rfl (.call rfl (.call rfl (.call rfl (.done _ _))))
  refine ⟨_, _, h, ?_, by decide⟩
  obtain ⟨sentAt, delivery, receivedAt, line, ht, hbound⟩ :=
    query_accuracy h
  cases ht
  exact hbound 2208988795999999 5000000 2208988800999999 (by decide)
    (by decide) (by decide) (by decide) (by decide)

end Uplink.Time
