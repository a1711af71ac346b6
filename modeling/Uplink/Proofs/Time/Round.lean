/-
One round over the servers: who is asked, how often, and what comes of it.

# The agenda

A round has a server to ask and a number for each of its attempts before
it starts (`agenda`): the servers in their order, each three times. A
`Course` goes through the agenda from its start and stops at the first
exchange that sets a clock. The two loops of a round are two places where
courses are put one behind the other (`Course.settled_append`,
`Course.failed_append`), and every round is a course of its whole agenda
(`shows_syncOnce`).

# Outcomes

What the exchanges come to is given as one sequence (`replying`), and
nothing else about the surroundings. Which exchanges are made, what the
round returns, what it keeps and how long it waits is then a matter of the
sequence alone (`Round`, `syncOnce_round`).
-/
import Uplink.Proofs.Time.Exchange

namespace Uplink.Time

open Proc (Runs Shows records_ask records_bind records_done shows_bind
  shows_lift shows_pure shows_set)

-- ============================================================== outcomes

/-- A reply that can be believed came in time. -/
def Outcome.Accepted (o : Outcome) : Prop :=
  ∃ reply, o.reading = .ok reply

namespace Exchange

variable {x : Exchange} {clock : SyncedClock} {e : SntpError}

/-- An exchange that sets a clock had its reply accepted. -/
theorem accepted_of_result (h : x.result = .ok clock) :
    x.outcome.Accepted := by
  obtain ⟨reply, hreading, -⟩ := result_eq_ok_iff.1 h
  exact ⟨reply, hreading⟩

/-- One that sets none had no reply, or not an acceptable one. -/
theorem not_accepted_of_result (h : x.result = .error e) :
    ¬x.outcome.Accepted := by
  rintro ⟨reply, hreading⟩
  cases h.symm.trans (result_eq_ok_iff.2 ⟨reply, hreading, rfl⟩)

end Exchange

-- ============================================================== attempts

/-- An attempt: the server that is asked, and for which time. -/
structure Attempt where
  server : String
  number : Nat

/-- The attempts on one server. -/
def attemptsOn (server : String) : List Attempt :=
  (List.range' 1 3).map fun number => ⟨server, number⟩

/-- All attempts that a round can make, in their order. -/
def agenda (servers : List String) : List Attempt :=
  servers.flatMap attemptsOn

/-- There are three attempts for each server. -/
theorem length_agenda (servers : List String) :
    (agenda servers).length = 3 * servers.length := by
  induction servers with
  | nil => rfl
  | cons server rest ih =>
    unfold agenda at ih ⊢
    rw [List.flatMap_cons, List.length_append, ih, List.length_cons,
      Nat.mul_succ, Nat.add_comm]
    rfl

example : agenda ["a", "b"]
    = [⟨"a", 1⟩, ⟨"a", 2⟩, ⟨"a", 3⟩, ⟨"b", 1⟩, ⟨"b", 2⟩, ⟨"b", 3⟩] :=
  rfl

namespace Attempt

/-- The pause after the attempt: there is one after each that failed and
is not the last on its server, and it grows with their number. -/
def backoff? (a : Attempt) (x : Exchange) : Option Nat :=
  match x.result with
  | .ok _ => none
  | .error _ =>
    if a.number < 3 then some (1000 * a.number)
    else none

/-- What is logged of the attempt. -/
def verdict (a : Attempt) : Except SntpError SyncedClock → Line
  | .ok clock =>
    let seconds := clock.unixMicros / 1000000
    .info s!"Time synchronized from {a.server}: {seconds} s since epoch"
  | .error e =>
    let tally := s!"{a.number}/{attemptsPerServer}"
    .warn s!"SNTP {a.server} attempt {tally} failed: {e.message}"

/-- The exchange, and what is logged of it. -/
def asks (a : Attempt) (x : Exchange) : List (Event Servers) :=
  x.shows a.server ++ [⟨.log (a.verdict x.result), ()⟩]

/-- All calls of the attempt. -/
def shows (a : Attempt) (x : Exchange) : List (Event Servers) :=
  a.asks x ++ (a.backoff? x).toList.map fun time => ⟨.pause time, ()⟩

variable {a : Attempt} {x : Exchange} {clock : SyncedClock} {e : SntpError}

/-- No pause comes after an attempt that sets the clock. -/
theorem shows_settled (h : x.result = .ok clock) :
    a.shows x = a.asks x := by
  unfold shows backoff?
  rw [h]
  exact List.append_nil _

/-- None comes after the last attempt on a server either. -/
theorem shows_last (h : x.result = .error e)
    (hlast : a.number = 3) : a.shows x = a.asks x := by
  unfold shows backoff?
  rw [h, hlast]
  exact List.append_nil _

/-- After any other attempt that failed comes a `pause` of one second for
each attempt so far. -/
theorem shows_failed (h : x.result = .error e)
    (hmore : a.number < 3) :
    a.shows x
      = a.asks x ++ [⟨.pause (1000 * a.number), ()⟩] := by
  unfold shows backoff?
  rw [h]
  dsimp only
  rw [if_pos hmore]
  rfl

end Attempt

/-- An attempt is an `Exchange`, and a line in the log. -/
theorem records_attempt (server : String) (number : Nat) :
    (attemptQuery server number ()).Records fun t r =>
      ∃ x : Exchange, t = Attempt.asks ⟨server, number⟩ x
        ∧ r = x.result.mapError fun _ => () := by
  refine records_bind.2 ((records_exchange server).mono fun t r h => ?_)
  obtain ⟨x, rfl, rfl⟩ := h
  unfold Attempt.asks
  cases hresult : x.result with
  | ok clock =>
    refine records_bind.2 (records_ask.2 fun _ => records_done.2 ?_)
    refine ⟨x, ?_⟩
    rw [hresult]
    exact ⟨rfl, rfl⟩
  | error e =>
    refine records_bind.2 (records_ask.2 fun _ => records_done.2 ?_)
    refine ⟨x, ?_⟩
    rw [hresult]
    exact ⟨rfl, rfl⟩

-- =============================================================== courses

/-- The attempts of an agenda up to the first that sets a clock: what each
heard, all calls, and the clock. -/
inductive Course : List Attempt → List Exchange → List (Event Servers) →
    Option SyncedClock → Prop
  | exhausted : Course [] [] [] none
  | settled {a : Attempt} {as : List Attempt} {x : Exchange}
      {clock : SyncedClock} :
      x.result = .ok clock → Course (a :: as) [x] (a.shows x) (some clock)
  | failed {a : Attempt} {as : List Attempt} {x : Exchange} {e : SntpError}
      {xs : List Exchange} {t : List (Event Servers)}
      {c : Option SyncedClock} :
      x.result = .error e → Course as xs t c →
      Course (a :: as) (x :: xs) (a.shows x ++ t) c

namespace Course

variable {as bs : List Attempt} {xs ys : List Exchange}
variable {t t' : List (Event Servers)}
variable {c : Option SyncedClock} {clock : SyncedClock}

/-- Once a clock is set, what else is on the agenda does not matter. -/
theorem settled_append (h : Course as xs t (some clock))
    (bs : List Attempt) : Course (as ++ bs) xs t (some clock) := by
  generalize hc : some clock = c at h
  induction h with
  | exhausted => cases hc
  | settled hresult => exact .settled hresult
  | failed hresult _ ih => exact .failed hresult (ih hc)

/-- After a `Course` in vain comes one of the rest. -/
theorem failed_append (h : Course as xs t none) (h' : Course bs ys t' c) :
    Course (as ++ bs) (xs ++ ys) (t ++ t') c := by
  generalize hc : (none : Option SyncedClock) = d at h
  induction h with
  | exhausted => exact h'
  | settled hresult => cases hc
  | failed hresult _ ih =>
    rw [List.append_assoc]
    exact .failed hresult (ih hc)

end Course

/-- The attempts that are left on one server are a `Course`. The sum is
what tells the last of them, which no pause follows. -/
theorem records_attempts (server : String) (left number : Nat)
    (h : number + left = 3) :
    (Proc.retry (fun number => Servers.ask (.pause (1000 * number)))
      (attemptQuery server) (left + 1) number ()).Records fun t r =>
        ∃ xs, Course ((List.range' number (left + 1)).map
          fun number => ⟨server, number⟩) xs t r.toOption := by
  -- by induction on the attempts that are left; only the last is not
  -- paused after
  induction left generalizing number with
  | zero =>
    refine (records_attempt server number).mono fun t r hr => ?_
    obtain ⟨x, rfl, rfl⟩ := hr
    cases hresult : x.result with
    | ok clock =>
      rw [← Attempt.shows_settled hresult]
      exact ⟨[x], .settled hresult⟩
    | error e =>
      rw [← Attempt.shows_last hresult h,
        ← List.append_nil (Attempt.shows _ x)]
      exact ⟨[x], .failed hresult .exhausted⟩
  | succ left ih =>
    refine records_bind.2 ((records_attempt server number).mono
      fun t r hr => ?_)
    obtain ⟨x, rfl, rfl⟩ := hr
    rw [List.range'_succ, List.map_cons]
    cases hresult : x.result with
    | ok clock =>
      refine records_done.2 ?_
      rw [List.append_nil, ← Attempt.shows_settled hresult]
      exact ⟨[x], .settled hresult⟩
    | error e =>
      refine records_bind.2 (records_ask.2 fun _ => ?_)
      refine (ih (number + 1) (by omega)).mono fun t r ht => ?_
      obtain ⟨xs, hcourse⟩ := ht
      rw [← List.append_assoc,
        ← Attempt.shows_failed hresult (by show number < _; omega)]
      exact ⟨x :: xs, .failed hresult hcourse⟩

/-- All attempts on one server are a `Course` of them. -/
theorem records_queryServer (server : String) :
    (queryServer server).Records fun t r =>
      ∃ xs, Course (attemptsOn server) xs t r.toOption :=
  records_attempts server 2 1 rfl

/-- All attempts on all servers are a `Course` of the `agenda`. -/
theorem records_queryServers (servers : List String) :
    (queryServers servers).Records fun t c =>
      ∃ xs, Course (agenda servers) xs t c := by
  induction servers with
  | nil => exact records_done.2 ⟨[], .exhausted⟩
  | cons server rest ih =>
    refine records_bind.2 ((records_queryServer server).mono
      fun t r h => ?_)
    obtain ⟨xs, hcourse⟩ := h
    unfold agenda
    rw [List.flatMap_cons]
    cases r with
    | ok clock =>
      refine records_done.2 ⟨xs, ?_⟩
      rw [List.append_nil]
      exact hcourse.settled_append _
    | error _ =>
      refine ih.mono fun t' c h => ?_
      obtain ⟨ys, hcourse'⟩ := h
      exact ⟨xs ++ ys, hcourse.failed_append hcourse'⟩

/-- What a round returns and keeps. -/
def conclusion (servers : List String) (stored : Option SyncedClock) :
    Option SyncedClock →
      Except TimeSyncError SyncedClock × Option SyncedClock
  | some clock => (.ok clock, some clock)
  | none =>
    (.error (if servers = [] then .noServers else .allServersFailed), stored)

/-- A round is a `Course` of its `agenda`. -/
theorem shows_syncOnce (servers : List String)
    (stored : Option SyncedClock) :
    Shows (syncOnce servers) stored fun t r stored' =>
      ∃ xs c, Course (agenda servers) xs t c
        ∧ (r, stored') = conclusion servers stored c := by
  cases servers with
  | nil => exact ⟨[], none, .exhausted, rfl⟩
  | cons server rest =>
    refine shows_bind.2 (shows_lift.2 ((records_queryServers _).mono
      fun t c h => ?_))
    obtain ⟨xs, hcourse⟩ := h
    cases c with
    | some clock =>
      refine shows_bind.2 (shows_set.2 (shows_pure.2 ?_))
      rw [List.append_nil, List.append_nil]
      exact ⟨xs, some clock, hcourse, rfl⟩
    | none =>
      refine shows_pure.2 ?_
      rw [List.append_nil]
      exact ⟨xs, none, hcourse, rfl⟩

-- ============================================================ as a whole

/-- What an exchange came to, of one call. -/
def heard? : Event Servers → Option Outcome
  | ⟨.exchange .., outcome⟩ => some outcome
  | _ => none

/-- What the exchanges came to. -/
def heard (t : List (Event Servers)) : List Outcome :=
  t.filterMap heard?

/-- The delay that one call performs: all of the time for a reply if there
is none, and a pause. -/
def delay : Event Servers → Nat
  | ⟨.exchange _ _ timeout, outcome⟩ =>
    match (outcome : Outcome) with
    | none => timeout
    | some _ => 0
  | ⟨.pause time, _⟩ => time
  | _ => 0

/-- The `delay` that is performed in all. -/
def waited (t : List (Event Servers)) : Nat :=
  (t.map delay).sum

/-- What is heard in two stretches is heard in both together. -/
theorem heard_append (t t' : List (Event Servers)) :
    heard (t ++ t') = heard t ++ heard t' :=
  List.filterMap_append

/-- So it is with the delay. -/
theorem waited_append (t t' : List (Event Servers)) :
    waited (t ++ t') = waited t + waited t' := by
  unfold waited
  rw [List.map_append, List.sum_append]

/-- The time that is lost on an exchange without an answer. -/
def Exchange.lost (x : Exchange) : Nat :=
  if x.outcome.isNone then 5000 else 0

/-- Each `Exchange` without an answer costs the five seconds there are for
a reply. -/
theorem Exchange.sum_lost (xs : List Exchange) :
    (xs.map lost).sum
      = 5000 * xs.countP (·.outcome.isNone) := by
  induction xs with
  | nil => rfl
  | cons x xs ih =>
    rw [List.map_cons, List.sum_cons, ih, List.countP_cons, Nat.mul_add,
      Nat.add_comm]
    unfold lost
    by_cases h : x.outcome.isNone = true
    · rw [if_pos h, if_pos h, Nat.mul_one]
    · rw [if_neg h, if_neg h, Nat.mul_zero]

/-- Behind the `exchange` only the uptime is asked for, and a line
logged. -/
theorem Exchange.exists_shows_eq (x : Exchange) (server : String) :
    ∃ rest, x.shows server
        = [⟨.uptime, x.sentAt⟩,
          ⟨.exchange server request replyTimeout, x.outcome⟩] ++ rest
      ∧ heard rest = [] ∧ waited rest = 0 := by
  refine ⟨_, rfl, ?_⟩
  rcases x.outcome with _ | e | delivery
  · exact ⟨rfl, rfl⟩
  · exact ⟨rfl, rfl⟩
  · dsimp only
    cases readReply delivery.packet with
    | error e => exact ⟨rfl, rfl⟩
    | ok reply => exact ⟨rfl, rfl⟩

/-- One query hears one outcome. -/
theorem Exchange.heard_shows (x : Exchange) (server : String) :
    heard (x.shows server) = [x.outcome] := by
  obtain ⟨rest, hshows, hheard, -⟩ := x.exists_shows_eq server
  rw [hshows, heard_append, hheard]
  rfl

/-- One query waits for nothing but its reply. -/
theorem Exchange.waited_shows (x : Exchange) (server : String) :
    waited (x.shows server) = x.lost := by
  obtain ⟨rest, hshows, -, hwaited⟩ := x.exists_shows_eq server
  rw [hshows, waited_append, hwaited]
  unfold lost
  cases x.outcome with
  | none => rfl
  | some answer => rfl

/-- An attempt hears what its `Exchange` does. -/
theorem Attempt.heard_shows (a : Attempt) (x : Exchange) :
    heard (a.shows x) = [x.outcome] := by
  unfold shows asks
  rw [heard_append, heard_append, x.heard_shows]
  cases a.backoff? x <;> rfl

/-- An attempt takes what its `Exchange` loses, and its pause. -/
theorem Attempt.waited_shows (a : Attempt) (x : Exchange) :
    waited (a.shows x) = x.lost + (a.backoff? x).getD 0 := by
  unfold shows asks
  rw [waited_append, waited_append, x.waited_shows]
  cases a.backoff? x <;> rfl

namespace Course

variable {as bs : List Attempt} {xs ys : List Exchange}
variable {t t' : List (Event Servers)}
variable {c : Option SyncedClock} {clock : SyncedClock}

/-- The transcript of a `Course` is what its attempts show, in order. -/
theorem transcript (h : Course as xs t c) :
    t = (List.zipWith Attempt.shows as xs).flatten := by
  induction h with
  | exhausted => rfl
  | settled hresult =>
    rw [List.zipWith_cons_cons, List.zipWith_nil_right, List.flatten_cons,
      List.flatten_nil, List.append_nil]
  | failed hresult _ ih =>
    rw [List.zipWith_cons_cons, List.flatten_cons, ← ih]

/-- What is heard in a `Course` are the outcomes of its exchanges. -/
theorem heard_eq (h : Course as xs t c) :
    heard t = xs.map Exchange.outcome := by
  induction h with
  | exhausted => rfl
  | settled hresult => exact Attempt.heard_shows _ _
  | failed hresult _ ih =>
    rw [heard_append, Attempt.heard_shows, ih]
    rfl

/-- The delay of a `Course` is what its exchanges lose, and the pauses. -/
theorem waited_eq (h : Course as xs t c) :
    waited t = (xs.map Exchange.lost).sum
      + ((List.zipWith Attempt.backoff? as xs).map (·.getD 0)).sum := by
  induction h with
  | exhausted => rfl
  | settled hresult =>
    rw [Attempt.waited_shows]
    simp
  | failed hresult _ ih =>
    rw [waited_append, Attempt.waited_shows, ih, List.map_cons,
      List.sum_cons, List.zipWith_cons_cons, List.map_cons, List.sum_cons]
    omega

/-- In vain is a `Course` of all attempts without one that is accepted. -/
theorem in_vain (h : Course as xs t none) :
    xs.length = as.length ∧ ∀ x ∈ xs, ¬x.outcome.Accepted := by
  generalize hc : (none : Option SyncedClock) = c at h
  induction h with
  | exhausted => exact ⟨rfl, nofun⟩
  | settled hresult => cases hc
  | failed hresult _ ih =>
    obtain ⟨hlength, hnone⟩ := ih hc
    exact ⟨congrArg (· + 1) hlength, List.forall_mem_cons.2
      ⟨Exchange.not_accepted_of_result hresult, hnone⟩⟩

/-- The last exchange, and no other, sets the clock. -/
theorem set (h : Course as xs t (some clock)) :
    ∃ earlier x, xs = earlier ++ [x] ∧ x.result = .ok clock
      ∧ (∀ y ∈ earlier, ¬y.outcome.Accepted)
      ∧ earlier.length < as.length := by
  generalize hc : some clock = c at h
  induction h with
  | exhausted => cases hc
  | settled hresult =>
    cases hc
    exact ⟨[], _, rfl, hresult, nofun, Nat.succ_pos _⟩
  | @failed a as x _ _ _ _ hresult _ ih =>
    obtain ⟨earlier, y, rfl, hy, hnone, hlt⟩ := ih hc
    exact ⟨x :: earlier, y, rfl, hy, List.forall_mem_cons.2
      ⟨Exchange.not_accepted_of_result hresult, hnone⟩,
      Nat.succ_lt_succ hlt⟩

end Course

-- ================================================================ rounds

/-- Each exchange comes to what a sequence says, in turn. The uptimes may
be any. -/
def replying (outcome : Nat → Outcome) : Behaviour Servers Nat :=
  fun call n answer n' =>
    match call, answer with
    | .exchange .., answer => answer = outcome n ∧ n' = n + 1
    | _, _ => n' = n

variable {outcome : Nat → Outcome}

/-- Such surroundings answer every call. -/
theorem replying_total (call : SyncCall) (n : Nat) :
    ∃ answer n', replying outcome call n answer n' := by
  cases call with
  | uptime => exact ⟨0, n, rfl⟩
  | exchange server request timeout => exact ⟨outcome n, n + 1, rfl, rfl⟩
  | isOnline => exact ⟨true, n, rfl⟩
  | awaitOnline | pause _ | log _ => exact ⟨(), n, rfl⟩
  | active => exact ⟨none, n, rfl⟩

/-- What is heard is the sequence from its place on. -/
theorem heard_of_runs {α : Type} {p : Proc Servers α} {n n' : Nat}
    {t : List (Event Servers)} {a : α}
    (h : Runs (replying outcome) p n t a n') :
    heard t = (List.range' n (heard t).length).map outcome := by
  refine (h.in_turn id outcome heard? ?_).1
  intro c n answer n' hstep
  cases c with
  | exchange server request timeout =>
    obtain ⟨rfl, rfl⟩ := hstep
    exact .inl ⟨rfl, rfl⟩
  | uptime | isOnline | awaitOnline | active | pause _ | log _ =>
    exact .inr ⟨rfl, hstep⟩

/-- Exchanges come to what a sequence says, from its start. -/
def Answered (outcome : Nat → Outcome) (xs : List Exchange) : Prop :=
  xs.map Exchange.outcome = (List.range xs.length).map outcome

section Answered

variable {as : List Attempt} {xs : List Exchange}
variable {t : List (Event Servers)} {clock : SyncedClock}

/-- The exchange at place `i` comes to what the sequence has there. -/
theorem Answered.outcome_eq (hxs : Answered outcome xs) (i : Nat)
    (hi : i < xs.length) : xs[i].outcome = outcome i := by
  unfold Answered at hxs
  have hith := congrArg (·[i]?) hxs
  simpa [hi] using hith

/-- The exchange that sets the clock is the first that is accepted. -/
theorem Course.first (h : Course as xs t (some clock))
    (hxs : Answered outcome xs) :
    ∃ k < as.length, xs.length = k + 1 ∧ (outcome k).Accepted
      ∧ ∀ j < k, ¬(outcome j).Accepted := by
  have hat := hxs.outcome_eq
  obtain ⟨earlier, x, rfl, hx, hnone, hlt⟩ := h.set
  have hlength : (earlier ++ [x]).length = earlier.length + 1 :=
    List.length_append
  refine ⟨earlier.length, hlt, hlength, ?_, fun j hj => ?_⟩
  · rw [← hat _ (by omega), List.getElem_concat_length rfl]
    exact Exchange.accepted_of_result hx
  · rw [← hat j (by omega), List.getElem_append_left hj]
    exact hnone _ (List.getElem_mem hj)

/-- Where every exchange is in vain none is accepted. -/
theorem Course.none_accepted (h : Course as xs t none)
    (hxs : Answered outcome xs) :
    xs.length = as.length ∧ ∀ i < as.length, ¬(outcome i).Accepted := by
  obtain ⟨hlength, hnone⟩ := h.in_vain
  refine ⟨hlength, fun i hi => ?_⟩
  rw [← hlength] at hi
  rw [← hxs.outcome_eq i hi]
  exact hnone _ (List.getElem_mem hi)

end Answered

/-- What a round makes of a sequence of outcomes, and of the clock that
was kept before. -/
structure Round (servers : List String) (outcome : Nat → Outcome)
    (stored : Option SyncedClock) (xs : List Exchange)
    (t : List (Event Servers)) (r : Except TimeSyncError SyncedClock)
    (stored' : Option SyncedClock) : Prop where
  answered : Answered outcome xs
  /-- They are those of the attempts on the agenda, from its start. -/
  transcript : t
    = (List.zipWith Attempt.shows (agenda servers) xs).flatten
  /-- One is made if none before it was accepted, and no others. -/
  made_iff : ∀ i, i < xs.length
    ↔ i < 3 * servers.length
      ∧ ∀ j < i, ¬(outcome j).Accepted
  /-- A clock is returned if one of them is accepted. -/
  ok_iff : (∃ clock, r = .ok clock)
    ↔ ∃ i < 3 * servers.length, (outcome i).Accepted
  /-- It is the clock of the last exchange, and it is kept. -/
  ok : ∀ clock, r = .ok clock → stored' = some clock
    ∧ ∃ x, xs.getLast? = some x ∧ x.result = .ok clock
  noServers_iff : r = .error .noServers ↔ servers = []
  silent : servers = [] → t = []
  failed_iff : r = .error .allServersFailed
    ↔ servers ≠ [] ∧ ∀ i < 3 * servers.length,
      ¬(outcome i).Accepted
  /-- Without a clock the one that was kept before is kept. -/
  error : ∀ e, r = .error e → stored' = stored
  /-- An exchange without an answer takes the time there is for a reply,
  and the pauses come on top of that. -/
  delay : waited t = 5000 * xs.countP (·.outcome.isNone)
    + ((List.zipWith Attempt.backoff? (agenda servers) xs).map
      (·.getD 0)).sum

section Rounds

variable {servers : List String} {stored : Option SyncedClock}
variable {xs : List Exchange} {t : List (Event Servers)}
variable {c : Option SyncedClock} {clock : SyncedClock}

/-- The `delay` of a `Course`, counted in exchanges without an answer. -/
theorem Course.delay (h : Course (agenda servers) xs t c) :
    waited t = 5000 * xs.countP (·.outcome.isNone)
      + ((List.zipWith Attempt.backoff? (agenda servers) xs).map
        (·.getD 0)).sum := by
  rw [h.waited_eq, Exchange.sum_lost]

/-- A `Course` that sets a clock is a `Round` that returns it. -/
theorem Course.round_set (h : Course (agenda servers) xs t (some clock))
    (hxs : Answered outcome xs) :
    Round servers outcome stored xs t (.ok clock) (some clock) := by
  obtain ⟨k, hk, hlength, haccepted, hearlier⟩ := h.first hxs
  rw [length_agenda] at hk
  have hservers : servers ≠ [] := by
    rintro rfl
    cases hk
  refine {
    answered := hxs
    transcript := h.transcript
    made_iff := fun i => ?_
    ok_iff := ⟨fun _ => ⟨k, hk, haccepted⟩, fun _ => ⟨clock, rfl⟩⟩
    ok := fun clock' hclock => ?_
    noServers_iff := ⟨nofun, fun hnil => absurd hnil hservers⟩
    silent := fun hnil => absurd hnil hservers
    failed_iff := ⟨nofun, fun hnone => absurd haccepted (hnone.2 k hk)⟩
    error := nofun
    delay := h.delay }
  · rw [hlength]
    constructor
    · intro hi
      exact ⟨by omega, fun j hj => hearlier j (by omega)⟩
    · rintro ⟨-, hnone⟩
      by_contra hlate
      exact hnone k (by omega) haccepted
  · cases hclock
    obtain ⟨earlier, x, rfl, hx, -⟩ := h.set
    exact ⟨rfl, x, List.getLast?_concat, hx⟩

/-- A `Course` in vain is a `Round` that fails and keeps what it had. -/
theorem Course.round_in_vain (h : Course (agenda servers) xs t none)
    (hxs : Answered outcome xs) :
    Round servers outcome stored xs t
      (.error (if servers = [] then .noServers else .allServersFailed))
      stored := by
  obtain ⟨hlength, hnone⟩ := h.none_accepted hxs
  rw [length_agenda] at hlength hnone
  refine {
    answered := hxs
    transcript := h.transcript
    made_iff := fun i => ?_
    ok_iff := ⟨nofun, fun ⟨i, hi, haccepted⟩ =>
      absurd haccepted (hnone i hi)⟩
    ok := nofun
    noServers_iff := ?_
    silent := ?_
    failed_iff := ?_
    error := fun _ _ => rfl
    delay := h.delay }
  · rw [hlength]
    exact ⟨fun hi => ⟨hi, fun j hj => hnone j (hj.trans hi)⟩, And.left⟩
  -- no attempt was accepted: what is left to tell is whether there was
  -- any
  · by_cases hservers : servers = []
    · rw [if_pos hservers]
      exact ⟨fun _ => hservers, fun _ => rfl⟩
    · rw [if_neg hservers]
      exact ⟨nofun, fun hnil => absurd hnil hservers⟩
  · rintro rfl
    exact h.transcript
  · by_cases hservers : servers = []
    · rw [if_pos hservers]
      exact ⟨nofun, fun hsome => absurd hservers hsome.1⟩
    · rw [if_neg hservers]
      exact ⟨fun _ => ⟨hservers, hnone⟩, fun _ => rfl⟩

end Rounds

/-- A `Round` asks the servers in their order and each three times at most,
stops at the first reply that is accepted, returns and keeps the clock of
that reply, and has nothing to return and keeps what it had where there is
no such reply. It waits for every reply that does not come, and after every
attempt that failed but the last on its server. -/
theorem syncOnce_round (servers : List String) (outcome : Nat → Outcome)
    (stored : Option SyncedClock) :
    (∃ t r stored' n, Runs (replying outcome)
        ((syncOnce servers).run stored) 0 t (r, stored') n)
      ∧ ∀ t r stored' n, Runs (replying outcome)
        ((syncOnce servers).run stored) 0 t (r, stored') n →
        ∃ xs, Round servers outcome stored xs t r stored' := by
  constructor
  · obtain ⟨t, ⟨r, stored'⟩, n, h⟩ := Proc.exists_runs replying_total
      ((syncOnce servers).run stored) 0
    exact ⟨t, r, stored', n, h⟩
  intro t r stored' n h
  obtain ⟨xs, c, hcourse, hconclusion⟩ :=
    (shows_syncOnce servers stored).of_runs h
  have hxs : Answered outcome xs := by
    have hheard := heard_of_runs h
    rw [hcourse.heard_eq, List.length_map] at hheard
    unfold Answered
    rw [hheard, List.range_eq_range']
  refine ⟨xs, ?_⟩
  cases c with
  | some clock =>
    obtain ⟨rfl, rfl⟩ := Prod.mk.inj hconclusion
    exact hcourse.round_set hxs
  | none =>
    obtain ⟨rfl, rfl⟩ := Prod.mk.inj hconclusion
    exact hcourse.round_in_vain hxs

end Uplink.Time
