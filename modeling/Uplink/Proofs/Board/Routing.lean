/-
Where a round of time queries goes.

Two readers look at the same record. The round asks whether anything is
connected, and if so it goes on to query. Each query asks which transport
carries the traffic, and takes the stack of that one. So whether they
agree goes by the history: they do if some transport holds the traffic,
and if none does the round queries all the same, and no query gets to a
stack (`online_routes`).

# How far a round gets

Transports come and go while a task waits, and only then. So a statement
about what a round does first is about the calls before its first wait
(`firstOut`), in which the record stands still; one about all of its
queries is a contract (`routing`).
-/
import Uplink.Board.Sntp
import Uplink.Proofs.Board.Calm
import Uplink.Proofs.Network.Arrivals

namespace Uplink.Board

open Network (Holds Notice Status Transport active_eq_none)
open Time (Delivery SntpError SyncedClock TimeSyncError waitAndSync)
open Proc (Asks Meets Reaches Runs asks_ask asks_bind asks_done
  exists_runs meets_call meets_within runs_call_iff runs_done_iff)

variable {α : Type}

-- ========================================================== the outlook

/-- What the transports did so far, and the stack on which a host was
looked up last. -/
structure Outlook where
  notices : List Notice := []
  stack : Option Stack := none

namespace Outlook

/-- A board on which transports come and go while a task waits. The task
itself only reads the record. -/
def hearing : Behaviour Board Outlook :=
  fun c now r now' =>
    match c, r with
    | .await _, _ =>
      now.notices <+: now'.notices ∧ now'.stack = now.stack
    | .shared .status, r => r = Status.after now.notices ∧ now' = now
    | .stack k (.resolve _), _ => now' = { now with stack := some k }
    | _, _ => now' = now

/-- A host is looked up on the stack of the transport that carries the
traffic, and all else goes to the stack of the last lookup. -/
def Routes (now : Outlook) (k : Stack) : StackCall → Prop
  | .resolve _ => ∃ t, k = .ofTransport t ∧ Holds now.notices t
  | _ => now.stack = some k

def routing : Contract Board Outlook where
  allows c now :=
    match c with
    | .stack k call => now.Routes k call
    | _ => True
  moves := hearing

end Outlook

open Outlook (hearing routing)

/-- Every call has some answer. -/
theorem hearing_total (c : Call) (now : Outlook) :
    ∃ r now', hearing c now r now' := by
  have r : c.Answer := default
  cases c with
  | await waits => exact ⟨r, now, List.prefix_refl _, rfl⟩
  | shared a =>
    cases a with
    | status => exact ⟨_, now, rfl, rfl⟩
    | _ => exact ⟨r, now, rfl⟩
  | stack k call =>
    cases call with
    | resolve host => exact ⟨r, { now with stack := some k }, rfl⟩
    | _ => exact ⟨r, now, rfl⟩
  | _ => exact ⟨r, now, rfl⟩

-- ========================================================= an exchange

/-- The call looks no host up, and turns to no other stack. -/
def Call.StaysOn (k : Stack) : Call → Prop
  | stack _ (.resolve _) => False
  | stack k' _ => k' = k
  | _ => True

/-- Calls that stay on a stack leave the exchange on it. -/
theorem routing_preserves (k : Stack) :
    routing.Preserves (Call.StaysOn k) fun now => now.stack = some k := by
  intro c now hc hk
  cases c with
  | stack k' call =>
    cases call with
    | resolve host => exact hc.elim
    | _ =>
      obtain rfl : k' = k := hc
      exact ⟨hk, fun r now' hm => hm ▸ hk⟩
  | await waits => exact ⟨trivial, fun r now' hm => hm.2.trans hk⟩
  | shared a =>
    refine ⟨trivial, fun r now' hm => ?_⟩
    cases a with
    | status => exact hm.2 ▸ hk
    | _ => exact hm ▸ hk
  | _ => exact ⟨trivial, fun r now' hm => hm ▸ hk⟩

namespace Sntp

/-- What an exchange does once it has read which transport carries the
traffic. -/
def exchangeOver (server : String) (request : List UInt8)
    (capacity : Nat) :
    Option Transport → Proc Board (Except SntpError Delivery)
  | none => pure (.error .transport)
  | some t => do
    let pending ← Board.ask (.stack (.ofTransport t) (.resolve server))
    match ← pending.settle with
    | some (address :: _) =>
      log (.debug s!"SNTP server {server} -> {address.render}")
      ask (.ofTransport t) address request capacity
    | _ => pure (.error .transport)

/-- An `exchange` reads the status first, once, and goes on with what was
active then. -/
theorem exchange_eq (server : String) (request : List UInt8)
    (capacity : Nat) :
    exchange server request capacity
      = .call (.shared .status) fun status =>
          exchangeOver server request capacity status.active := by
  refine congrArg (Proc.call (I := Board) _) (funext fun status => ?_)
  obtain ⟨w, g, active, c⟩ := status
  cases active with
  | none => rfl
  | some t => rfl

/-- A server is asked on one stack. -/
theorem staysOn_ask (k : Stack) (address : Net.Address)
    (request : List UInt8) (capacity : Nat) :
    (ask k address request capacity).Asks (Call.StaysOn k) := by
  refine asks_bind (asks_ask.2 rfl) fun bound => ?_
  cases bound with
  | false => trivial
  | true =>
    refine asks_bind (asks_ask.2 rfl) fun sent => ?_
    cases sent with
    | false => trivial
    | true =>
      refine asks_bind (asks_ask.2 rfl) fun _ => ?_
      refine asks_bind (asks_bind (asks_ask.2 trivial) fun _ => trivial)
        fun _ => ?_
      refine asks_bind (asks_ask.2 rfl) fun received => ?_
      rcases received with ⟨⟨⟩⟩ | delivery
      · trivial
      · trivial

/-- What is `Pending` settles on the stack it was begun on. -/
theorem staysOn_settle (k : Stack) (pending : Pending α) :
    pending.settle.Asks (Call.StaysOn k) := by
  unfold Pending.settle
  split
  · trivial
  · exact asks_bind (asks_bind (asks_ask.2 trivial) fun _ => trivial)
      fun _ => trivial
  · exact asks_bind (asks_ask.2 trivial) fun _ => trivial

/-- An `exchange` reads the record once. Where no transport carries the
traffic that is all it does, and it fails; else it goes to the stack of the
one that does. -/
theorem routing_exchange (server : String) (request : List UInt8)
    (capacity : Nat) (guard : Wait) (now : Outlook) :
    (race guard (exchange server request capacity)).Meets routing now
      fun _ _ => True := by
  rw [exchange_eq, race_call rfl]
  refine meets_call.2 ⟨trivial, ?_⟩
  rintro status now' ⟨rfl, rfl⟩
  cases ha : (Status.after now'.notices).active with
  | none => trivial
  | some t =>
    refine meets_call.2 ⟨⟨t, rfl, Status.active_after.1 ha⟩, ?_⟩
    rintro pending _ rfl
    refine Meets.mono (Asks.meets (asks_race (fun _ _ => trivial) ?_)
      (routing_preserves (.ofTransport t)) rfl) fun _ _ _ => trivial
    refine asks_bind (asks_done pending) fun pending => ?_
    refine asks_bind (staysOn_settle _ pending) fun found => ?_
    split
    · exact asks_bind (asks_ask.2 trivial) fun _ => staysOn_ask _ _ _ _
    · trivial

/-- Where nothing carries the traffic, no stack is asked. -/
theorem runs_exchange_idle {server : String} {request : List UInt8}
    {capacity : Nat} {now now' : Outlook} {t : List (Event Board)}
    {r : Except SntpError Delivery}
    (hidle : (Status.after now.notices).active = none)
    (hr : Runs hearing (exchange server request capacity) now t r now') :
    r = .error .transport ∧ ∀ e ∈ t, e.call = .shared .status := by
  rw [exchange_eq] at hr
  obtain ⟨status, _, t, rfl, ⟨rfl, rfl⟩, hr⟩ := runs_call_iff.1 hr
  rw [hidle] at hr
  obtain ⟨rfl, rfl, -⟩ := runs_done_iff.1 hr
  exact ⟨rfl, by simp⟩

/-- Every lookup of a round is on the stack of the transport that carries
the traffic then, and the exchange stays on that stack. -/
theorem routing_round (servers : List String) (clock : Option SyncedClock)
    (now : Outlook) :
    (runClock (waitAndSync servers) clock).Meets routing now
      fun _ _ => True := by
  refine meets_within (fun call now _ => ?_) _ trivial
  cases call with
  | exchange server request timeout =>
    exact meets_call.2 ⟨trivial, fun _ _ _ => routing_exchange _ _ _ _ _⟩
  | pause milliseconds =>
    exact meets_call.2 ⟨trivial, fun _ _ _ =>
      meets_call.2 ⟨trivial, fun _ _ _ => trivial⟩⟩
  | _ => exact meets_call.2 ⟨trivial, fun _ _ _ => trivial⟩

end Sntp

-- ===================================================== the first way out

/-- The call waits, or turns to a stack. -/
def Call.goesOut : Call → Bool
  | await _ => true
  | stack .. => true
  | _ => false

/-- The contract of a program up to its first call that goes out: nothing
is said about what comes after it. -/
def firstOut (P : Call → Prop) : Contract Board Outlook where
  allows c _ := c.goesOut = true → P c
  moves c now r now' := c.goesOut = false ∧ hearing c now r now'

/-- A call that does not go out puts the question off to what comes
next. -/
theorem meets_quiet {P : Call → Prop} {c : Call}
    {k : c.Answer → Proc Board α} {now : Outlook} {Q : α → Outlook → Prop}
    (hc : c.goesOut = false)
    (hk : ∀ r now', hearing c now r now' →
      (k r).Meets (firstOut P) now' Q) :
    (Proc.call c k).Meets (firstOut P) now Q :=
  ⟨fun h => Bool.noConfusion (hc.symm.trans h),
    fun r now' hr => hk r now' hr.2⟩

/-- The first call that goes out is all that counts. -/
theorem meets_goesOut {P : Call → Prop} {c : Call}
    {k : c.Answer → Proc Board α} {now : Outlook} {Q : α → Outlook → Prop}
    (hc : c.goesOut = true) (hP : P c) :
    (Proc.call c k).Meets (firstOut P) now Q :=
  ⟨fun _ => hP, fun _ _ hr => Bool.noConfusion (hr.1.symm.trans hc)⟩

/-- A program that does not end before its first call goes out makes it in
every run. -/
theorem find_goesOut {P : Call → Prop} {p : Proc Board α}
    {now now' : Outlook} {t : List (Event Board)} {a : α}
    (h : p.Meets (firstOut P) now fun _ _ => False)
    (hr : Runs hearing p now t a now') :
    ∃ e, t.find? (·.call.goesOut) = some e ∧ P e.call := by
  induction hr with
  | done => exact h.elim
  | @call c k now now₁ now' r t a hB _ ih =>
    cases hc : c.goesOut with
    | true => exact ⟨⟨c, r⟩, by simp [hc], h.1 hc⟩
    | false =>
      obtain ⟨e, he, hP⟩ := ih (h.2 r _ ⟨hc, hB⟩)
      exact ⟨e, by simp [hc, he], hP⟩

/-- How a query of a server begins: with a lookup on the stack of the
transport that carries the traffic, or else with the pause that follows a
failure. -/
def Opening (status : Status) (server : String) (c : Call) : Prop :=
  match status.active with
  | some t => c = .stack (.ofTransport t) (.resolve server)
  | none => ∃ timer, c = .await [.timer timer]

/-- The first call that goes out is to the stack of the active transport,
and to no other. -/
theorem opening_stack {status : Status} {server : String} {c : Call}
    (h : Opening status server c) {t : Transport} :
    c = .stack (.ofTransport t) (.resolve server)
      ↔ status.active = some t := by
  unfold Opening at h
  cases ha : status.active with
  | none =>
    rw [ha] at h
    obtain ⟨timer, rfl⟩ := h
    exact iff_of_false nofun nofun
  | some u =>
    rw [ha] at h
    subst h
    cases t <;> cases u <;> simp [Stack.ofTransport]

/-- An exchange begins with a pause where no transport is active, and only
there. -/
theorem opening_pause {status : Status} {server : String} {c : Call}
    (h : Opening status server c) :
    (∃ timer, c = .await [.timer timer]) ↔ status.active = none := by
  unfold Opening at h
  cases ha : status.active with
  | none =>
    rw [ha] at h
    exact iff_of_true h rfl
  | some u =>
    rw [ha] at h
    subst h
    exact iff_of_false nofun nofun

namespace Sntp

/-- A query that begins while a transport carries the traffic turns to the
stack of that one. -/
theorem exchange_opens {server : String} {request : List UInt8}
    {capacity : Nat} {guard : Wait} {now : Outlook} {P : Call → Prop}
    {f : Option (Except SntpError Delivery) → Proc Board α}
    {Q : α → Outlook → Prop}
    (hsome : ∀ t, (Status.after now.notices).active = some t →
      P (.stack (.ofTransport t) (.resolve server)))
    (hnone : (Status.after now.notices).active = none →
      (f (some (.error .transport))).Meets (firstOut P) now Q) :
    (race guard (exchange server request capacity) >>= f).Meets
      (firstOut P) now Q := by
  rw [exchange_eq, race_call rfl]
  refine meets_quiet rfl ?_
  rintro status now ⟨rfl, rfl⟩
  show ((race guard (exchangeOver server request capacity
    (Status.after now.notices).active)).bind f).Meets _ _ _
  cases ha : (Status.after now.notices).active with
  | none => exact hnone ha
  | some t => exact meets_goesOut rfl (hsome t ha)

/-- A round that finds a connection does not wait for one. -/
theorem round_opens {server : String} {rest : List String}
    {clock : Option SyncedClock} {notices : List Notice}
    (honline : (Status.after notices).isOnline = true) :
    (runClock (waitAndSync (server :: rest)) clock).Meets
      (firstOut (Opening (.after notices) server)) { notices }
      fun _ _ => False := by
  -- is there a connection, and which transport carries the traffic?
  refine meets_quiet rfl ?_
  rintro status _ ⟨rfl, rfl⟩
  simp only [Proc.bind, Proc.pure_eq_done, honline]
  refine meets_quiet rfl ?_
  rintro status _ ⟨rfl, rfl⟩
  refine meets_quiet rfl ?_
  rintro ⟨⟩ _ rfl
  -- the time of sending, and the limit of the exchange
  refine meets_quiet rfl ?_
  rintro sentAt _ rfl
  refine meets_quiet rfl ?_
  rintro limit _ rfl
  refine exchange_opens ?_ ?_
  · intro t ha
    rw [Opening, ha]
  · intro ha
    -- the failure is logged, and a pause follows
    refine meets_quiet rfl ?_
    rintro ⟨⟩ _ rfl
    refine meets_quiet rfl ?_
    rintro timer _ rfl
    refine meets_goesOut rfl ?_
    rw [Opening, ha]
    exact ⟨timer, rfl⟩

-- ============================================================= agreement

/-- A round of `waitAndSync` that begins online goes on to query at once.
It turns to a stack then if and only if some transport `Holds` the traffic,
that is, came up and has since then neither been followed by another nor
gone down nor been released; and then that one is connected, and it is its
stack. So it is with every query of the round. -/
theorem online_routes {notices : List Notice} {server : String}
    {rest : List String} {clock : Option SyncedClock}
    {t : List (Event Board)}
    {r : Except TimeSyncError SyncedClock × Option SyncedClock}
    {later : Outlook}
    (honline : (Status.after notices).isOnline = true)
    (hr : Runs hearing (runClock (waitAndSync (server :: rest)) clock)
      { notices } t r later) :
    (∀ transport, (Status.after notices).active = some transport
        ↔ Holds notices transport)
      ∧ (∀ transport, Holds notices transport →
          (Status.after notices).isConnected transport = true)
      ∧ (∀ transport, Holds notices transport ↔
          ∃ pending, t.find? (·.call.goesOut)
            = some ⟨.stack (.ofTransport transport) (.resolve server),
                pending⟩)
      ∧ ((∀ transport, ¬ Holds notices transport) ↔
          ∃ timer place, t.find? (·.call.goesOut)
            = some ⟨.await [.timer timer], place⟩)
      ∧ ∀ k call now,
          Reaches hearing (runClock (waitAndSync (server :: rest)) clock)
            { notices } (.stack k call) now → now.Routes k call := by
  obtain ⟨e, he, hopen⟩ := find_goesOut (round_opens honline) hr
  -- the first call that goes out is one, so it is enough to name it
  have first (c : Call) :
      (∃ answer, t.find? (·.call.goesOut) = some ⟨c, answer⟩)
        ↔ e.call = c := by
    rw [he]
    constructor
    · rintro ⟨answer, h⟩
      exact congrArg Event.call (Option.some_inj.1 h)
    · rintro rfl
      exact ⟨e.answer, rfl⟩
  refine ⟨fun transport => Status.active_after, fun transport h =>
    Status.isConnected_after.2 h.connected, fun transport => ?_, ?_,
    fun k call now h => (routing_round _ _ _).of_reaches h⟩
  · rw [first, ← Status.active_after, opening_stack hopen]
  · rw [← active_eq_none, ← opening_pause hopen]
    exact exists_congr fun timer => (first (.await [.timer timer])).symm

/-- WiFi comes up, the cellular link takes over, and a round queries. -/
theorem online_routes_cellular :
    (Status.after [.up .wifi, .up .gsm]).isOnline = true
      ∧ Holds [.up .wifi, .up .gsm] .gsm
      ∧ ∃ t r later, Runs hearing
          (runClock (waitAndSync ["pool.ntp.org"]) none)
          { notices := [.up .wifi, .up .gsm] } t r later
        ∧ ∃ pending, t.find? (·.call.goesOut)
          = some ⟨.stack .ppp (.resolve "pool.ntp.org"), pending⟩ := by
  have honline : (Status.after [.up .wifi, .up .gsm]).isOnline = true :=
    rfl
  obtain ⟨t, r, later, hr⟩ := exists_runs hearing_total
    (runClock (waitAndSync ["pool.ntp.org"]) none)
    { notices := [.up .wifi, .up .gsm] }
  obtain ⟨hactive, -, hstack, -⟩ := online_routes honline hr
  have hholds : Holds [.up .wifi, .up .gsm] .gsm := (hactive .gsm).1 rfl
  exact ⟨honline, hholds, t, r, later, hr, (hstack .gsm).1 hholds⟩

/-- WiFi comes up, the cellular link comes up and goes down again. WiFi is
connected and nothing carries the traffic: every query fails without
turning to a stack, and the round pauses and tries again. -/
theorem online_routes_stranded :
    let notices := [Notice.up .wifi, .up .gsm, .down .gsm]
    (Status.after notices).isOnline = true
      ∧ (Status.after notices).isConnected .wifi = true
      ∧ (Status.after notices).active = none
      ∧ (∀ server request capacity t r later,
          Runs hearing (exchange server request capacity) { notices }
            t r later →
          r = .error .transport ∧ ∀ e ∈ t, e.call = .shared .status)
      ∧ ∃ t r later, Runs hearing
          (runClock (waitAndSync ["pool.ntp.org"]) none) { notices }
            t r later
        ∧ ∃ timer place, t.find? (·.call.goesOut)
          = some ⟨.await [.timer timer], place⟩ := by
  intro notices
  have hidle : (Status.after notices).active = none := rfl
  refine ⟨rfl, rfl, hidle, fun _ _ _ _ _ _ => runs_exchange_idle hidle, ?_⟩
  obtain ⟨t, r, later, hr⟩ := exists_runs hearing_total
    (runClock (waitAndSync ["pool.ntp.org"]) none) { notices }
  obtain ⟨e, he, hopen⟩ := find_goesOut (round_opens rfl) hr
  obtain ⟨timer, htimer⟩ := (opening_pause hopen).2 hidle
  obtain ⟨c, place⟩ := e
  subst htimer
  exact ⟨t, r, later, hr, timer, place, he⟩

end Sntp

end Uplink.Board
