/-
How a wait for registration goes.

# Polls

A poll may be answered with a state, with text that tells none, or not at
all. Only a state can settle the matter, and only if the network serves
the modem or turns it away (`settles`). What a poll leaves behind is the
last state that was told so far, which a poll that tells none does not
change (`lastState_concat`).

# Waits

A wait is a list of polls with one pause between any two of them
(`spaced`). It ends with the first poll that settles the matter, or when
the budget is used up (`Concludes`). Given what each poll would be
answered, in order, this leaves nothing open: how many polls are made,
what is returned, and every call but for the log (`Polled`,
`pollRegistration_polled`).
-/
import Mathlib.Data.List.Induction
import Uplink.Proofs.Apn.Strategies

namespace Uplink.Gsm.Steps

open Apn (Reply answered isLog unlogged)
open Modem (Session SessionCall)
open Modem.Reply (Registration)
open Proc (Runs records_ask records_bind records_done)
open Timing

variable {marker command : String} {budget interval : Nat}
variable {reply : Reply} {replies : List Reply} {outcome : Nat → Reply}

-- ================================================================ answers

/-- The state that an answer tells, if it tells one. -/
def stateIn (marker : String) (reply : Reply) : Option Registration :=
  reply.toOption.bind (Modem.Reply.registration? · marker)

/-- What an answer settles. -/
def settles (marker : String) (reply : Reply) : Option PollResult :=
  (stateIn marker reply).bind fun state =>
    if state.isRegistered then some (.ok state)
    else if state = .denied then some (.error (some .denied))
    else none

/-- The last state that is told. -/
def lastState (marker : String) (replies : List Reply) :
    Option Registration :=
  (replies.filterMap (stateIn marker)).getLast?

/-- An answer that tells no state changes nothing. -/
theorem lastState_concat (marker : String) (replies : List Reply)
    (reply : Reply) :
    lastState marker (replies ++ [reply])
      = (stateIn marker reply).or (lastState marker replies) := by
  unfold lastState
  rw [List.filterMap_append, List.getLast?_append]
  cases h : stateIn marker reply with
  | none => rw [List.filterMap_cons_none h]; rfl
  | some state => rw [List.filterMap_cons_some h]; rfl

/-- The answer leaves the matter open: it tells no state, or one that may
still change. -/
def LeavesOpen (marker : String) (reply : Reply) : Prop :=
  ∀ state, stateIn marker reply = some state →
    state.isRegistered = false ∧ state ≠ .denied

/-- A reply leaves it open exactly if it does not settle it. -/
theorem leavesOpen_iff :
    LeavesOpen marker reply ↔ settles marker reply = none := by
  unfold LeavesOpen settles
  cases stateIn marker reply with
  | none => simp
  | some state => cases state <;> simp [Registration.isRegistered]

/-- A state that counts as registered settles it. -/
theorem settles_registered {state : Registration}
    (h : stateIn marker reply = some state)
    (hr : state.isRegistered = true) :
    settles marker reply = some (.ok state) := by
  unfold settles
  rw [h, Option.bind_some, if_pos hr]

/-- A denial settles it. -/
theorem settles_denied (h : stateIn marker reply = some .denied) :
    settles marker reply = some (.error (some .denied)) := by
  unfold settles
  rw [h]
  rfl

-- ================================================================== polls

/-- A `poll` is one command, and settles what its answer does. If that is
nothing, the last state is handed on. -/
theorem records_onePoll (command marker : String) (budget number : Nat)
    (last : Option Registration) :
    (poll command marker budget number last).Records fun t r =>
      ∃ reply, unlogged t = [answered command queryTimeout reply]
        ∧ settles marker reply = r.toOption
        ∧ ∀ known, r = .error known →
            known = (stateIn marker reply).or last := by
  refine records_bind.2 (records_ask.2 fun reply => ?_)
  cases reply with
  | error e =>
    refine records_bind.2 (records_ask.2 fun _ => records_done.2 ?_)
    refine ⟨.error e, rfl, rfl, fun known h => ?_⟩
    cases h
    rfl
  | ok response =>
    refine records_bind.2 (records_ask.2 fun _ => ?_)
    have hstate : stateIn marker (.ok response)
        = Modem.Reply.registration? response marker := rfl
    have hsettles : settles marker (.ok response)
        = (Modem.Reply.registration? response marker).bind _ := rfl
    -- an answer that cannot be read leaves what was known; a state that
    -- is neither registered nor denied replaces it
    cases hread : Modem.Reply.registration? response marker with
    | none =>
      rw [hread] at hstate hsettles
      refine records_done.2 ⟨.ok response, rfl, hsettles,
        fun known h => ?_⟩
      cases h
      rw [hstate]
      rfl
    | some state =>
      rw [hread] at hstate hsettles
      rw [Option.bind_some] at hsettles
      dsimp only
      split
      next hr =>
        rw [if_pos hr] at hsettles
        exact records_done.2 ⟨.ok response, rfl, hsettles, nofun⟩
      next hr =>
        rw [if_neg hr] at hsettles
        split
        next hd =>
          rw [if_pos hd] at hsettles
          exact records_done.2 ⟨.ok response, rfl, hsettles, nofun⟩
        next hd =>
          rw [if_neg hd] at hsettles
          refine records_done.2 ⟨.ok response, rfl, hsettles,
            fun known h => ?_⟩
          cases h
          rw [hstate]
          rfl

-- ================================================================== waits

/-- Polls with a pause between any two of them. -/
def spaced (command : String) (interval : Nat) (replies : List Reply) :
    List (Event Session) :=
  (replies.map (answered command queryTimeout)).intersperse
    ⟨.pause interval, ()⟩

/-- Replies in a row are `spaced` with a pause after each but the last. -/
theorem spaced_concat (command : String) (interval : Nat)
    (earlier : List Reply) (last : Reply) :
    spaced command interval (earlier ++ [last])
      = (earlier.flatMap fun reply =>
          [answered command queryTimeout reply] ++ [⟨.pause interval, ()⟩])
        ++ [answered command queryTimeout last] := by
  induction earlier with
  | nil => rfl
  | cons reply earlier ih =>
    unfold spaced at ih ⊢
    have hmore : earlier ++ [last] ≠ [] :=
      List.append_ne_nil_of_right_ne_nil _ (List.cons_ne_nil _ _)
    obtain ⟨next, rest, h⟩ := List.exists_cons_of_ne_nil hmore
    rw [List.flatMap_cons, List.append_assoc, ← ih, List.cons_append, h]
    rfl

/-- No pause comes after the last poll. -/
example (first second : Reply) :
    spaced "AT+CREG?" 2000 [first, second]
      = [answered "AT+CREG?" 3000 first, ⟨.pause 2000, ()⟩,
        answered "AT+CREG?" 3000 second] :=
  rfl

/-- How a wait ends, by the answers to its polls. -/
inductive Concludes (marker : String) (budget : Nat) :
    List Reply → PollResult → Prop
  | settled {earlier : List Reply} {last : Reply} {r : PollResult} :
      earlier.length < budget →
      (∀ reply ∈ earlier, settles marker reply = none) →
      settles marker last = some r →
      Concludes marker budget (earlier ++ [last]) r
  | exhausted {replies : List Reply} :
      replies.length = budget →
      (∀ reply ∈ replies, settles marker reply = none) →
      Concludes marker budget replies (.error (lastState marker replies))

/-- Every wait is polls with pauses between them, and ends in one of the
two ways. -/
theorem records_pollRegistration (command marker : String)
    (budget interval : Nat) :
    (pollRegistration command marker budget interval).Records fun t r =>
      ∃ replies, unlogged t = spaced command interval replies
        ∧ Concludes marker budget replies r := by
  cases budget with
  | zero => exact records_done.2 ⟨[], rfl, .exhausted rfl nofun⟩
  | succ left =>
    refine records_bind.2 ((Proc.records_retry_history (!isLog ·)
      (fun reply => [answered command queryTimeout reply])
      ⟨.pause interval, ()⟩ (settles marker)
      (fun seen known => known = lastState marker seen)
      (fun number known seen hknown => ?_)
      (fun _ => records_ask.2 fun _ => rfl) left 1 none []
      rfl).mono fun t r h => ?_)
    · refine (records_onePoll command marker _ number known).mono
        fun t r h => ?_
      obtain ⟨reply, ht, hr, hlast⟩ := h
      refine ⟨reply, ht, hr, fun known' hr => ?_⟩
      rw [lastState_concat, ← hknown]
      exact hlast known' hr
    · obtain ⟨earlier, last, ht, hnone, hlast, hle, hall, hknown⟩ := h
      rw [← spaced_concat] at ht
      have hshown : unlogged (t ++ [])
          = spaced command interval (earlier ++ [last]) := by
        rw [List.append_nil]
        exact ht
      cases r with
      | ok settled =>
        exact records_done.2 ⟨_, hshown,
          .settled (Nat.lt_succ_of_le hle) hnone hlast⟩
      | error known =>
        have hopen : settles marker last = none := hlast
        -- nothing settled it, so what is known is the last state that was
        -- read
        rw [hknown known rfl, List.nil_append]
        refine records_done.2 ⟨_, hshown, .exhausted ?_ ?_⟩
        · rw [List.length_append, hall hopen]
          rfl
        · intro reply hreply
          rcases List.mem_append.1 hreply with hearlier | hend
          · exact hnone reply hearlier
          · rw [List.mem_singleton.1 hend]
            exact hopen

-- =========================================================== in a sequence

/-- Each exchange is answered as a sequence says, in turn. -/
def polling (outcome : Nat → Reply) : Behaviour Session Nat :=
  fun call n answer n' =>
    match call, answer with
    | .exchange .., answer => answer = outcome n ∧ n' = n + 1
    | _, _ => n' = n

/-- Every call of a poll has some answer. -/
theorem polling_total (call : SessionCall) (n : Nat) :
    ∃ answer n', polling outcome call n answer n' := by
  cases call with
  | exchange command success failure timeout =>
    exact ⟨outcome n, n + 1, rfl, rfl⟩
  | switch mode => exact ⟨.ok (), n, rfl⟩
  | quality => exact ⟨.error .io, n, rfl⟩
  | pause _ | log _ => exact ⟨(), n, rfl⟩

/-- What an exchange was answered. -/
def reply? : Event Session → Option Reply
  | ⟨.exchange .., reply⟩ => some reply
  | _ => none

/-- The replies of a transcript are there with or without its log. -/
theorem filterMap_unlogged (t : List (Event Session)) :
    (unlogged t).filterMap reply? = t.filterMap reply? := by
  unfold unlogged
  rw [List.filterMap_filter]
  congr 1
  funext e
  obtain ⟨call, answer⟩ := e
  cases call <;> rfl

/-- The replies can be read off the events they are `spaced` into. -/
theorem filterMap_spaced (command : String) (interval : Nat)
    (replies : List Reply) :
    (spaced command interval replies).filterMap reply? = replies := by
  induction replies using List.reverseRecOn with
  | nil => rfl
  | append_singleton earlier last _ =>
    have each (reply : Reply) : List.filterMap reply?
        ([answered command queryTimeout reply] ++ [⟨.pause interval, ()⟩])
        = [reply] := rfl
    rw [spaced_concat, List.filterMap_append, List.filterMap_flatMap]
    simp only [each]
    rw [List.flatMap_singleton']
    rfl

/-- The polls that are made are answered by the sequence from its
start. -/
theorem replies_of_runs {r : PollResult} {t : List (Event Session)}
    {n : Nat}
    (h : Runs (polling outcome)
      (pollRegistration command marker budget interval) 0 t r n)
    (ht : unlogged t = spaced command interval replies) :
    replies = (List.range n).map outcome := by
  obtain ⟨hseq, hplace⟩ := h.in_turn id outcome reply?
    fun call n answer n' hstep => by
      cases call with
      | exchange command success failure timeout =>
        obtain ⟨rfl, rfl⟩ := hstep
        exact .inl ⟨rfl, rfl⟩
      | switch _ | quality | pause _ | log _ => exact .inr ⟨rfl, hstep⟩
  rw [← filterMap_unlogged, ht, filterMap_spaced] at hseq hplace
  have hn : n = replies.length := hplace.trans (Nat.zero_add _)
  rw [hn, List.range_eq_range']
  exact hseq

/-- What a wait makes of the answers to its polls: how many are made, and
what is returned. -/
structure Polled (marker : String) (budget : Nat) (outcome : Nat → Reply)
    (made : Nat) (r : PollResult) : Prop where
  /-- It ends with the first poll that finds the modem served. -/
  registered : ∀ i < budget, (∀ j < i, LeavesOpen marker (outcome j)) →
    ∀ state, stateIn marker (outcome i) = some state →
      state.isRegistered = true → made = i + 1 ∧ r = .ok state
  /-- It ends with the first poll that finds it turned away. -/
  denied : ∀ i < budget, (∀ j < i, LeavesOpen marker (outcome j)) →
    stateIn marker (outcome i) = some .denied →
      made = i + 1 ∧ r = .error (some .denied)
  /-- Without either, all polls are made, and the last state that one of
  them told is returned. -/
  exhausted : (∀ i < budget, LeavesOpen marker (outcome i)) →
    made = budget
      ∧ r = .error (lastState marker ((List.range budget).map outcome))
  /-- A poll that tells no state is never the one that ends it. -/
  unread : ∀ i, stateIn marker (outcome i) = none → made = i + 1 →
    made = budget
  within : made ≤ budget

variable {n : Nat} {r : PollResult}

/-- A wait in a sequence ends at the first place that settles the matter,
if there is one within the budget. -/
theorem Concludes.place
    (h : Concludes marker budget ((List.range n).map outcome) r) :
    (∃ i < budget, n = i + 1
        ∧ (∀ j < i, LeavesOpen marker (outcome j))
        ∧ settles marker (outcome i) = some r)
      ∨ (n = budget ∧ (∀ j < budget, LeavesOpen marker (outcome j))
        ∧ r = .error (lastState marker ((List.range budget).map outcome)))
    := by
  generalize hreplies : (List.range n).map outcome = replies at h
  have hlength : n = replies.length := by
    simpa using congrArg List.length hreplies
  cases h with
  | @settled earlier last _ hlt hnone hlast =>
    rw [List.length_append] at hlength
    subst hlength
    rw [List.length_singleton, List.range_succ, List.map_append] at hreplies
    -- the replies are the outcomes in order, so the one that settles is
    -- the last of them
    obtain ⟨hearlier, hend⟩ := List.append_inj' hreplies rfl
    refine .inl ⟨earlier.length, hlt, rfl, fun j hj => ?_, ?_⟩
    · refine leavesOpen_iff.2 (hnone _ ?_)
      rw [← hearlier]
      exact List.mem_map_of_mem (List.mem_range.2 hj)
    · rw [List.singleton_inj.1 hend]
      exact hlast
  | exhausted hbudget hnone =>
    obtain rfl := hlength.trans hbudget
    refine .inr ⟨rfl, fun j hj => leavesOpen_iff.2 (hnone _ ?_), ?_⟩
    · rw [← hreplies]
      exact List.mem_map_of_mem (List.mem_range.2 hj)
    · rw [hreplies]

/-- The first place that does not leave the matter open is one. -/
theorem eq_of_first {i k : Nat} {r' : PollResult}
    (hk : ∀ j < k, LeavesOpen marker (outcome j))
    (hkr : settles marker (outcome k) = some r)
    (hi : ∀ j < i, LeavesOpen marker (outcome j))
    (hir : settles marker (outcome i) = some r') : k = i ∧ r = r' := by
  have still {j : Nat} {r : PollResult}
      (hj : LeavesOpen marker (outcome j))
      (hr : settles marker (outcome j) = some r) : False := by
    rw [leavesOpen_iff.1 hj] at hr
    cases hr
  rcases Nat.lt_trichotomy k i with hlt | rfl | hgt
  · exact (still (hi k hlt) hkr).elim
  · exact ⟨rfl, Option.some.inj (hkr.symm.trans hir)⟩
  · exact (still (hk i hgt) hir).elim

/-- What a poll over these outcomes `Concludes` with is what it comes
to. -/
theorem Concludes.polled
    (h : Concludes marker budget ((List.range n).map outcome) r) :
    Polled marker budget outcome n r := by
  rcases h.place with ⟨k, hk, rfl, hopen, hr⟩ | ⟨rfl, hopen, rfl⟩
  -- the outcome that settles it is the first that could
  · have first {i : Nat} {r' : PollResult}
        (hi : ∀ j < i, LeavesOpen marker (outcome j))
        (hir : settles marker (outcome i) = some r') :
        k + 1 = i + 1 ∧ r = r' := by
      obtain ⟨rfl, rfl⟩ := eq_of_first hopen hr hi hir
      exact ⟨rfl, rfl⟩
    refine {
      registered := fun i _ hi state hstate hserved =>
        first hi (settles_registered hstate hserved)
      denied := fun i _ hi hstate => first hi (settles_denied hstate)
      exhausted := fun hall => ?_
      unread := fun i hstate hmade => ?_
      within := hk }
    · rw [leavesOpen_iff.1 (hall k hk)] at hr
      cases hr
    · obtain rfl : k = i := Nat.succ.inj hmade
      unfold settles at hr
      rw [hstate] at hr
      cases hr
  · have never {i : Nat} {r' : PollResult} (hi : i < n)
        (hir : settles marker (outcome i) = some r') : False := by
      rw [leavesOpen_iff.1 (hopen i hi)] at hir
      cases hir
    exact {
      registered := fun i hi _ state hstate hserved =>
        (never hi (settles_registered hstate hserved)).elim
      denied := fun i hi _ hstate => (never hi (settles_denied hstate)).elim
      exhausted := fun _ => ⟨rfl, rfl⟩
      unread := fun _ _ _ => rfl
      within := Nat.le_refl _ }

/-- A wait by `pollRegistration` polls until the modem is found served or
turned away, or the budget is used up, with one interval between any two
polls and none after the last. Whatever the polls are answered, there is
such a wait, and no other. -/
theorem pollRegistration_polled (command marker : String)
    (budget interval : Nat) (outcome : Nat → Reply) :
    (∃ t r n, Runs (polling outcome)
        (pollRegistration command marker budget interval) 0 t r n)
      ∧ ∀ t r n, Runs (polling outcome)
        (pollRegistration command marker budget interval) 0 t r n →
        unlogged t
            = spaced command interval ((List.range n).map outcome)
          ∧ Polled marker budget outcome n r := by
  constructor
  · exact Proc.exists_runs polling_total _ 0
  · intro t r n h
    obtain ⟨replies, ht, hend⟩ :=
      (records_pollRegistration command marker budget interval).of_runs h
    obtain rfl := replies_of_runs h ht
    exact ⟨ht, hend.polled⟩

end Uplink.Gsm.Steps
