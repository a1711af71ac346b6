/-
One exchange with a time server, and the clock that it sets.

# What an exchange shows

`Exchange` is what one query hears: when the request goes out, what comes
of it, and when the packet is there, if one comes. The calls of the query
and its value are functions of it (`records_exchange`), so what holds of
all queries is said of all exchanges.

# Room

A time that is believed lies before the horizon, which is below 2^52
microseconds. Half of a round trip is added to it, but no more than the
uptime at which the clock is set, and that uptime is taken off again when
the clock is read. So up to the last 2^52 microseconds of uptime the clock
shows what the integers say, and no operation runs over on the way
(`query_exact`).
-/
import Uplink.Proofs.Time.Reply
import Uplink.Proofs.Transcript
import Uplink.Time.Sync

namespace Uplink.Time

open Proc (Records Runs records_ask records_bind records_done)

-- ============================================================ exchanges

/-- What an exchange may come to: nothing in time, an error of the
transport, or a packet. -/
abbrev Outcome : Type :=
  Option (Except SntpError Delivery)

/-- What is read of it. -/
def Outcome.reading : Outcome → Except SntpError Reply
  | none => .error .timeout
  | some (.error e) => .error e
  | some (.ok delivery) => readReply delivery.packet

/-- What one query hears. The second uptime is asked for only where a
packet comes. -/
structure Exchange where
  sentAt : UInt64
  outcome : Outcome
  receivedAt : UInt64

namespace Exchange

variable {x : Exchange} {reply : Reply} {clock : SyncedClock}

/-- The clock that the exchange sets. -/
def result (x : Exchange) : Except SntpError SyncedClock :=
  x.outcome.reading.map fun reply =>
    clockOf reply x.sentAt x.receivedAt

/-- What is logged of a reply that is believed. -/
def told (x : Exchange) (server : String) (reply : Reply) : Line :=
  let roundTrip := halfRoundTrip x.sentAt x.receivedAt * 2
  .debug s!"SNTP {server} stratum {reply.stratum}, round trip {roundTrip} us"

/-- The calls of the query with their answers. -/
def shows (x : Exchange) (server : String) : List (Event Servers) :=
  [⟨.uptime, x.sentAt⟩,
    ⟨.exchange server request replyTimeout, x.outcome⟩]
  ++ match x.outcome with
    | some (.ok delivery) =>
      ⟨.uptime, x.receivedAt⟩ :: match readReply delivery.packet with
        | .ok reply => [⟨.log (x.told server reply), ()⟩]
        | .error _ => []
    | _ => []

/-- An exchange sets a clock exactly if its reply can be read, and it is
the clock of that reply. -/
theorem result_eq_ok_iff :
    x.result = .ok clock
      ↔ ∃ reply, x.outcome.reading = .ok reply
        ∧ clock = clockOf reply x.sentAt x.receivedAt := by
  unfold result
  cases x.outcome.reading with
  | error e =>
    constructor
    · intro h
      cases h
    · rintro ⟨reply, h, -⟩
      cases h
  | ok reply =>
    constructor
    · intro h
      cases h
      exact ⟨reply, rfl, rfl⟩
    · rintro ⟨_, h, rfl⟩
      cases h
      rfl

/-- Where a packet comes, the uptime is taken once more, and the reply is
logged if it can be read. -/
theorem shows_of_packet {delivery : Delivery}
    (ho : x.outcome = some (.ok delivery)) (server : String) :
    x.shows server
      = [⟨.uptime, x.sentAt⟩,
        ⟨.exchange server request replyTimeout, some (.ok delivery)⟩,
        ⟨.uptime, x.receivedAt⟩]
        ++ match readReply delivery.packet with
          | .ok reply => [⟨.log (x.told server reply), ()⟩]
          | .error _ => [] := by
  unfold shows
  rw [ho]
  rfl

/-- Where a reply can be read, all four calls are made. -/
theorem shows_of_reply {delivery : Delivery}
    (ho : x.outcome = some (.ok delivery))
    (h : readReply delivery.packet = .ok reply) (server : String) :
    x.shows server
      = [⟨.uptime, x.sentAt⟩,
        ⟨.exchange server request replyTimeout, some (.ok delivery)⟩,
        ⟨.uptime, x.receivedAt⟩, ⟨.log (x.told server reply), ()⟩] := by
  rw [shows_of_packet ho, h]
  rfl

/-- What becomes of a packet is what is read of it. -/
theorem result_of_packet {delivery : Delivery}
    (ho : x.outcome = some (.ok delivery)) :
    x.result = (readReply delivery.packet).map fun reply =>
      clockOf reply x.sentAt x.receivedAt := by
  unfold result
  rw [ho]
  rfl

end Exchange

/-- A reply is read of a packet, and of nothing else. -/
theorem Outcome.reading_eq_ok_iff {o : Outcome} {reply : Reply} :
    o.reading = .ok reply
      ↔ ∃ delivery, o = some (.ok delivery)
        ∧ readReply delivery.packet = .ok reply := by
  constructor
  · intro h
    match o with
    | some (.ok delivery) => exact ⟨delivery, rfl, h⟩
  · rintro ⟨delivery, rfl, h⟩
    exact h

/-- A `query` is one `Exchange`. -/
theorem records_exchange (server : String) :
    (query server).Records fun t r =>
      ∃ x : Exchange, t = x.shows server ∧ r = x.result := by
  refine records_bind.2 (records_ask.2 fun sentAt => ?_)
  refine records_bind.2 (records_ask.2 fun answer => ?_)
  rcases answer with _ | e | delivery
  · exact records_done.2 ⟨⟨sentAt, none, 0⟩, rfl, rfl⟩
  · exact records_done.2 ⟨⟨sentAt, some (.error e), 0⟩, rfl, rfl⟩
  · refine records_bind.2 (records_ask.2 fun receivedAt => ?_)
    let x : Exchange := ⟨sentAt, some (.ok delivery), receivedAt⟩
    have hshows := x.shows_of_packet rfl server
    have hresult := x.result_of_packet rfl
    dsimp only
    cases hread : readReply delivery.packet with
    | error e =>
      rw [hread] at hshows hresult
      exact records_done.2 ⟨x, hshows.symm, hresult.symm⟩
    | ok reply =>
      rw [hread] at hshows hresult
      exact records_bind.2 (records_ask.2 fun _ =>
        records_done.2 ⟨x, hshows.symm, hresult.symm⟩)

/-- Where a packet can come, a `query` can read it, at any time. -/
theorem exists_runs_query {σ : Type} {B : Behaviour Servers σ}
    {server : String} {s s' : σ} {delivery : Delivery}
    (hexchange : B (.exchange server request replyTimeout) s
      (some (.ok delivery)) s')
    (huptime : ∀ s moment, B .uptime s moment s)
    (hlog : ∀ s line, B (.log line) s () s) (sentAt receivedAt : UInt64) :
    ∃ t, Runs B (query server) s t
      ((readReply delivery.packet).map fun reply =>
        clockOf reply sentAt receivedAt) s' := by
  let x : Exchange := ⟨sentAt, some (.ok delivery), receivedAt⟩
  refine ⟨x.shows server, ?_⟩
  rw [x.shows_of_packet rfl]
  refine .call (huptime s sentAt) (.call hexchange
    (.call (huptime s' receivedAt) ?_))
  simp only [Proc.bind]
  cases readReply delivery.packet with
  | error e => exact .done _ _
  | ok reply => exact .call (hlog s' _) (.done _ _)

/-- A `query` that sets a clock went like this. -/
theorem records_query (server : String) :
    (query server).Records fun t r => ∀ clock, r = .ok clock →
      ∃ sentAt delivery receivedAt line reply,
        t = [⟨.uptime, sentAt⟩,
          ⟨.exchange server request replyTimeout, some (.ok delivery)⟩,
          ⟨.uptime, receivedAt⟩, ⟨.log line, ()⟩]
        ∧ readReply delivery.packet = .ok reply
        ∧ clock = clockOf reply sentAt receivedAt := by
  refine (records_exchange server).mono fun t r h clock hclock => ?_
  obtain ⟨x, rfl, rfl⟩ := h
  obtain ⟨reply, hread, rfl⟩ := Exchange.result_eq_ok_iff.1 hclock
  obtain ⟨delivery, ho, hreply⟩ := Outcome.reading_eq_ok_iff.1 hread
  exact ⟨x.sentAt, delivery, x.receivedAt, x.told server reply, reply,
    Exchange.shows_of_reply ho hreply server, hreply, rfl⟩

-- ================================================================= room

/-- Half of an exchange, rounded down; none if the uptime ran
backwards. -/
theorem toNat_halfRoundTrip (sentAt receivedAt : UInt64) :
    (halfRoundTrip sentAt receivedAt).toNat
      = (receivedAt.toNat - sentAt.toNat) / 2 := by
  unfold halfRoundTrip
  split
  next hle =>
    rw [UInt64.toNat_div, UInt64.toNat_sub_of_le _ _ hle]
    rfl
  next hlt =>
    rw [UInt64.le_iff_toNat_le] at hlt
    have hzero : receivedAt.toNat - sentAt.toNat = 0 := by omega
    rw [hzero]
    rfl

/-- `halfRoundTrip` with operations that are checked. -/
def checkedHalf (sentAt receivedAt : UInt64) : Option UInt64 :=
  if sentAt ≤ receivedAt then do
    let roundTrip ← Checked.sub receivedAt sentAt
    some (roundTrip / 2)
  else some 0

/-- `clockOf` with operations that are checked, among them the one for
the line that is logged. -/
def checkedClock (reply : Reply) (sentAt receivedAt : UInt64) :
    Option SyncedClock := do
  let half ← checkedHalf sentAt receivedAt
  let _roundTrip ← Checked.mul half 2
  let unixMicros ← Checked.add reply.unixMicros half
  some ⟨unixMicros, receivedAt⟩

/-- Half of the round trip is computed without an overflow, whatever the
two uptimes are. -/
theorem checkedHalf_eq (sentAt receivedAt : UInt64) :
    checkedHalf sentAt receivedAt
      = some (halfRoundTrip sentAt receivedAt) := by
  unfold checkedHalf halfRoundTrip
  split
  next hle => rw [Checked.sub_eq hle, Option.bind_eq_bind, Option.bind_some]
  next => rfl

namespace SyncedClock

variable {c : SyncedClock} {uptime : UInt64}

/-- `unixMicrosAt` with operations that are checked. -/
def checkedMicrosAt (c : SyncedClock) (uptime : UInt64) :
    Option UInt64 :=
  if c.uptimeMicros ≤ uptime then do
    let since ← Checked.sub uptime c.uptimeMicros
    Checked.add c.unixMicros since
  else do
    let before ← Checked.sub c.uptimeMicros uptime
    if before ≤ c.unixMicros then Checked.sub c.unixMicros before
    else some 0

/-- `unixSecondsAt` with operations that are checked. -/
def checkedSecondsAt (c : SyncedClock) (uptime : UInt64) :
    Option UInt64 := do
  let micros ← c.checkedMicrosAt uptime
  some (micros / 1000000)

/-- There is room at an uptime if the integers have it. -/
theorem overflowsAt_eq_false
    (h : c.unixMicros.toNat + uptime.toNat
      < UInt64.size + c.uptimeMicros.toNat) :
    c.overflowsAt uptime = false := by
  unfold overflowsAt
  by_cases hle : c.uptimeMicros ≤ uptime
  · have hnat := UInt64.le_iff_toNat_le.1 hle
    have hroom : ¬UInt64.size
        ≤ c.unixMicros.toNat + (uptime - c.uptimeMicros).toNat := by
      rw [UInt64.toNat_sub_of_le _ _ hle]
      omega
    rw [decide_eq_false hroom, Bool.and_false]
  · rw [decide_eq_false hle, Bool.false_and]

/-- Where there is room no operation runs over. -/
theorem checkedMicrosAt_eq (h : c.overflowsAt uptime = false) :
    c.checkedMicrosAt uptime = some (c.unixMicrosAt uptime) := by
  unfold overflowsAt at h
  unfold checkedMicrosAt unixMicrosAt
  by_cases hle : c.uptimeMicros ≤ uptime
  · rw [decide_eq_true hle, Bool.true_and, decide_eq_false_iff_not] at h
    rw [if_pos hle, if_pos hle, Checked.sub_eq hle, Option.bind_eq_bind,
      Option.bind_some, Checked.add_eq (Nat.not_le.1 h)]
  · have hback := UInt64.le_of_lt (UInt64.not_le.1 hle)
    rw [if_neg hle, if_neg hle, Checked.sub_eq hback, Option.bind_eq_bind,
      Option.bind_some]
    split
    next hfits => exact Checked.sub_eq hfits
    next => rfl

/-- Where there is room the clock shows what the integers say, from the
epoch on. -/
theorem toNat_unixMicrosAt (h : c.overflowsAt uptime = false) :
    ((c.unixMicrosAt uptime).toNat : Int)
      = max 0 (c.unixMicros.toNat + uptime.toNat
        - c.uptimeMicros.toNat : Int) := by
  unfold overflowsAt at h
  unfold unixMicrosAt
  by_cases hle : c.uptimeMicros ≤ uptime
  · rw [decide_eq_true hle, Bool.true_and, decide_eq_false_iff_not,
      UInt64.toNat_sub_of_le _ _ hle] at h
    have hnat := UInt64.le_iff_toNat_le.1 hle
    rw [if_pos hle, UInt64.toNat_add, UInt64.toNat_sub_of_le _ _ hle,
      Nat.mod_eq_of_lt (Nat.not_le.1 h)]
    omega
  -- an uptime from before the clock was set counts back, down to the
  -- epoch at most
  · have hback := UInt64.le_of_lt (UInt64.not_le.1 hle)
    have hnat := UInt64.le_iff_toNat_le.1 hback
    rw [if_neg hle]
    split
    next hfits =>
      have hnat' := UInt64.le_iff_toNat_le.1 hfits
      rw [UInt64.toNat_sub_of_le _ _ hback] at hnat'
      rw [UInt64.toNat_sub_of_le _ _ hfits,
        UInt64.toNat_sub_of_le _ _ hback]
      omega
    next hearly =>
      have hnat' := UInt64.lt_iff_toNat_lt.1 (UInt64.not_le.1 hearly)
      rw [UInt64.toNat_sub_of_le _ _ hback] at hnat'
      rw [UInt64.toNat_zero]
      omega

/-- So are the seconds, where the microseconds are. -/
theorem checkedSecondsAt_eq (h : c.overflowsAt uptime = false) :
    c.checkedSecondsAt uptime = some (c.unixSecondsAt uptime) := by
  unfold checkedSecondsAt
  rw [checkedMicrosAt_eq h]
  rfl

end SyncedClock

variable {reply : Reply} {packet : List UInt8}

/-- A time that is believed is not as late as 2^52 microseconds. -/
theorem toNat_unixMicros_lt (h : readReply packet = .ok reply) :
    reply.unixMicros.toNat < 2 ^ 52 := by
  have hlt := Timestamp.lt_horizon (unixMicros_of_readReply h)
  unfold horizon at hlt
  omega

/-- The clock is set to the sum, which never runs over. -/
theorem toNat_unixMicros_clockOf (h : readReply packet = .ok reply)
    (sentAt receivedAt : UInt64) :
    (clockOf reply sentAt receivedAt).unixMicros.toNat
      = reply.unixMicros.toNat
        + (receivedAt.toNat - sentAt.toNat) / 2 := by
  have := toNat_unixMicros_lt h
  have := receivedAt.toNat_lt
  show (reply.unixMicros + halfRoundTrip sentAt receivedAt).toNat = _
  rw [UInt64.toNat_add, toNat_halfRoundTrip, Nat.mod_eq_of_lt (by omega)]

/-- No operation that sets the clock runs over. -/
theorem checkedClock_eq (h : readReply packet = .ok reply)
    (sentAt receivedAt : UInt64) :
    checkedClock reply sentAt receivedAt
      = some (clockOf reply sentAt receivedAt) := by
  have hsize : UInt64.size = 2 ^ 64 := rfl
  have htwo : (2 : UInt64).toNat = 2 := rfl
  have hhalf := toNat_halfRoundTrip sentAt receivedAt
  have := toNat_unixMicros_lt h
  have := receivedAt.toNat_lt
  unfold checkedClock
  rw [checkedHalf_eq]
  dsimp only [Option.bind_eq_bind, Option.bind_some]
  rw [Checked.mul_eq (by rw [htwo]; omega), Option.bind_some,
    Checked.add_eq (by omega), Option.bind_some]
  rfl

/-- The clock can be read until the last 2^52 microseconds. -/
theorem overflowsAt_clockOf (h : readReply packet = .ok reply)
    (sentAt receivedAt : UInt64) {uptime : UInt64}
    (hroom : uptime.toNat < 2 ^ 64 - 2 ^ 52) :
    (clockOf reply sentAt receivedAt).overflowsAt uptime = false := by
  have hsize : UInt64.size = 2 ^ 64 := rfl
  have hset : (clockOf reply sentAt receivedAt).uptimeMicros
      = receivedAt := rfl
  have := toNat_unixMicros_lt h
  refine SyncedClock.overflowsAt_eq_false ?_
  rw [toNat_unixMicros_clockOf h, hset]
  omega

-- ================================================================ exact

/-- Whatever a `query` hears, in whatever order the uptimes are: a reply
that is believed sets the clock that the checked operations give, and until
the last 2^52 microseconds of uptime every clock shows what the integers
say. -/
theorem query_exact {σ : Type} {B : Behaviour Servers σ} {server : String}
    {s s' : σ} {t : List (Event Servers)}
    {r : Except SntpError SyncedClock} (h : Runs B (query server) s t r s') :
    (∃ x : Exchange, t = x.shows server
        ∧ ∀ delivery reply, x.outcome = some (.ok delivery) →
          readReply delivery.packet = .ok reply →
          reply.transmit.checkedMicros = some (some reply.unixMicros)
          ∧ ∃ clock, r = .ok clock
            ∧ checkedClock reply x.sentAt x.receivedAt = some clock)
      ∧ ∀ clock, r = .ok clock →
        ∀ uptime : UInt64, uptime.toNat < 2 ^ 64 - 2 ^ 52 →
        clock.checkedMicrosAt uptime = some (clock.unixMicrosAt uptime)
        ∧ clock.checkedSecondsAt uptime
          = some (clock.unixSecondsAt uptime)
        ∧ ((clock.unixMicrosAt uptime).toNat : Int)
          = max 0 (clock.unixMicros.toNat + uptime.toNat
            - clock.uptimeMicros.toNat : Int) := by
  obtain ⟨x, rfl, rfl⟩ := (records_exchange server).of_runs h
  refine ⟨⟨x, rfl, fun delivery reply ho hread => ⟨?_, ?_⟩⟩, ?_⟩
  · obtain rfl := eq_replyIn hread
    rw [Timestamp.checkedMicros_eq]
    exact congrArg some (unixMicros_of_readReply hread)
  · refine ⟨clockOf reply x.sentAt x.receivedAt, ?_,
      checkedClock_eq hread x.sentAt x.receivedAt⟩
    rw [Exchange.result_of_packet ho, hread]
    rfl
  · intro clock hclock uptime hroom
    obtain ⟨reply, hreading, rfl⟩ := Exchange.result_eq_ok_iff.1 hclock
    obtain ⟨delivery, -, hread⟩ := Outcome.reading_eq_ok_iff.1 hreading
    -- a clock set from a reply is less than 2 ^ 52 ahead of its uptime
    have hfits := overflowsAt_clockOf hread x.sentAt x.receivedAt hroom
    exact ⟨SyncedClock.checkedMicrosAt_eq hfits,
      SyncedClock.checkedSecondsAt_eq hfits,
      SyncedClock.toNat_unixMicrosAt hfits⟩

/-- A reply of the last time that can be told. -/
def lastMoment : List UInt8 :=
  [0x24, 1] ++ List.replicate 38 0
    ++ [0x7f, 0xff, 0xff, 0xff, 0xff, 0xff, 0xff, 0xff]

/-- The last time, after the longest exchange there can be, read at the
last uptime for which there is room. -/
theorem query_exact_last : ∃ t clock,
    Runs (.any Servers) (query "pool.ntp.org") () t (.ok clock) ()
    ∧ clock.unixMicros.toNat = 4233462143999999 + (2 ^ 63 - 1)
    ∧ clock.checkedMicrosAt (.ofNat (2 ^ 64 - 2 ^ 52 - 1))
      = some (clock.unixMicrosAt (.ofNat (2 ^ 64 - 2 ^ 52 - 1))) := by
  have hany (c : SyncCall) (r : c.Answer) :
      Behaviour.any Servers c () r () := trivial
  have h : Runs (.any Servers) (query "pool.ntp.org") ()
      [⟨.uptime, 0⟩, ⟨.exchange "pool.ntp.org" request replyTimeout,
          some (.ok ⟨packetLength, lastMoment⟩)⟩,
        ⟨.uptime, .ofNat (2 ^ 64 - 1)⟩, ⟨.log _, ()⟩] (.ok ⟨_, _⟩) () :=
    .call (hany _ _) (.call (hany _ _) (.call (hany _ _)
      (.call (hany _ _) (.done _ _))))
  obtain ⟨-, hclock⟩ := query_exact h
  refine ⟨_, _, h, by decide, ?_⟩
  exact (hclock _ rfl _ (by decide)).1

end Uplink.Time
