/-
The part of a connection that each step makes up.

`Step.Goes` lists, for each step, the forms its part of a transcript can
take but for the log: the commands as they are sent, the times they are
given, the pauses between them, and how often a step that tries again
does so (`Tried`). No step can be left out, cut short or gone through
twice without leaving the list. The numbers stand there as they are
documented, and a `Timing` that differs has no proof here.

A step asks for its own calls only, which is read off the list
(`Step.Goes.owned`). That its program keeps to the list is shown for one
program of the channel after the other; the three that try again do so by
the one lemma about retries (`records_tried`).
-/
import Uplink.Proofs.Gsm.Course
import Uplink.Proofs.Gsm.Polling

namespace Uplink.Gsm

open Apn (Reply answered)
open Manager (unlogged unlogged_append)
open Modem (Session SessionCall SignalQuality ChannelError)
open Modem.Reply (Registration)
open Proc (Records Shows records_ask records_bind records_done)

variable {α σ τ : Type}

-- ============================================ programs of the channel

/-- What a program of the channel shows as one of the manager. -/
def Event.ofSession (e : Event Session) : Event Surroundings :=
  ⟨.modem e.call, e.answer⟩

/-- A program of the channel shows the same to the manager, event by
event. -/
theorem records_ofSession {p : Proc Session α}
    {Q : Transcript → α → Prop} :
    (Surroundings.ofSession p).Records Q
      ↔ p.Records fun t a => Q (t.map Event.ofSession) a := by
  induction p generalizing Q with
  | done a => rfl
  | call c k ih =>
    constructor
    · intro h r
      exact (ih r).1 (h r)
    · intro h r
      exact (ih r).2 (h r)

/-- `Manager.session` changes nothing of what the manager holds. -/
theorem shows_session {p : Proc Session α} {m : Manager}
    {Q : Transcript → α → Manager → Prop} :
    Shows (Manager.session p) m Q
      ↔ p.Records fun t a => Q (t.map Event.ofSession) a m := by
  unfold Manager.session
  rw [Proc.shows_lift, records_ofSession]

/-- The log is told apart in the channel as it is in the manager. -/
theorem unlogged_map (t : List (Event Session)) :
    unlogged (t.map Event.ofSession)
      = (Apn.unlogged t).map Event.ofSession := by
  have same : (fun e : Event Session => !(Event.ofSession e).call.isLog)
      = fun e => !Apn.isLog e.call := by
    funext ⟨call, answer⟩
    cases call <;> rfl
  unfold unlogged Apn.unlogged
  rw [List.filter_map, ← same]
  rfl

-- ============================================================== attempts

/-- A command and its answer. -/
def asked (command : String) (timeout : Nat) (reply : Reply) :
    Event Surroundings :=
  Event.ofSession (answered command timeout reply)

def paused (ms : Nat) : Event Surroundings :=
  ⟨.modem (.pause ms), ()⟩

/-- A switch to data mode and its answer. -/
def dialled (reply : Except ChannelError Unit) : Event Surroundings :=
  ⟨.modem (.switch .data), reply⟩

/-- One attempt after another, with a pause between any two. -/
def tries (attempt : τ → Event Surroundings) (ms : Nat)
    (earlier : List τ) (last : τ) : Transcript :=
  (earlier.flatMap fun reply => [attempt reply, paused ms])
    ++ [attempt last]

/-- The attempts go on up to the first whose answer settles the matter.
If none does, there are as many as the budget has. -/
structure Tried (settled : τ → Bool) (budget : Nat) (earlier : List τ)
    (last : τ) : Prop where
  unsettled : ∀ reply ∈ earlier, settled reply = false
  within : earlier.length < budget
  exhausted : settled last = false → earlier.length + 1 = budget

/-- The calls of `tries` are those of one attempt, and the pause. -/
theorem mem_tries {attempt : τ → Event Surroundings} {ms : Nat}
    {earlier : List τ} {last : τ} {e : Event Surroundings}
    (h : e ∈ tries attempt ms earlier last) :
    (∃ reply, e = attempt reply) ∨ e = paused ms := by
  rcases List.mem_append.1 h with h | h
  · obtain ⟨reply, -, h⟩ := List.mem_flatMap.1 h
    rcases List.mem_pair.1 h with rfl | rfl
    · exact .inl ⟨reply, rfl⟩
    · exact .inr rfl
  · exact .inl ⟨last, List.mem_singleton.1 h⟩

/-- Of `tries`, a step reads the attempts if it reads one of them. -/
theorem of_tries {k : Step} {attempt : τ → Event Surroundings}
    (hk : ∀ reply, (attempt reply).call.decides = some k) (ms : Nat)
    (earlier : List τ) (last : τ) :
    (tries attempt ms earlier last).of k
      = (earlier ++ [last]).map attempt := by
  have one (reply : τ) (rest : Transcript) :
      Transcript.of (attempt reply :: rest) k = attempt reply :: rest.of k :=
    List.filter_cons_of_pos (by simp [hk])
  induction earlier with
  | nil => exact one last []
  | cons reply earlier ih =>
    show Transcript.of (attempt reply :: paused ms
      :: tries attempt ms earlier last) k = _
    rw [one]
    exact congrArg (attempt reply :: ·) ih

/-- What is read off the attempts is what is read off the last of
them, since all others leave the matter open. -/
theorem findSome?_tries {k : Step} {attempt : τ → Event Surroundings}
    (hk : ∀ reply, (attempt reply).call.decides = some k)
    {read : Event Surroundings → Option α} {budget : Nat}
    {earlier : List τ} {last : τ}
    (h : Tried (fun reply => (read (attempt reply)).isSome) budget
      earlier last) (ms : Nat) :
    ((tries attempt ms earlier last).of k).findSome? read
      = read (attempt last) := by
  have before : (earlier.map attempt).findSome? read = none := by
    refine List.findSome?_eq_none_iff.2 fun e he => ?_
    obtain ⟨reply, hreply, rfl⟩ := List.mem_map.1 he
    exact Option.not_isSome_iff_eq_none.1
      (Bool.eq_false_iff.1 (h.unsettled reply hreply))
  rw [of_tries hk, List.map_append, List.findSome?_append, before]
  cases hlast : read (attempt last) <;> simp [hlast]

/-- A `retry` whose attempts show one event each shows `tries`. -/
theorem records_tried (shows : τ → Event Session)
    (settles : τ → Option α)
    {attempt : Nat → σ → Proc Session (Except σ α)}
    (hattempt : ∀ number known, (attempt number known).Records fun t r =>
      ∃ reply, Apn.unlogged t = [shows reply]
        ∧ settles reply = r.toOption)
    (ms left number : Nat) (known : σ) :
    (Proc.retry (fun _ => Session.pause ms) attempt (left + 1) number
      known).Records fun t r =>
      ∃ (earlier : List τ) (last : τ),
        unlogged (t.map Event.ofSession)
            = tries (fun reply => Event.ofSession (shows reply)) ms
              earlier last
          ∧ Tried (fun reply => (settles reply).isSome) (left + 1)
            earlier last
          ∧ settles last = r.toOption := by
  refine (Proc.records_retry_spaced (!Apn.isLog ·)
    (fun reply => [shows reply]) ⟨.pause ms, ()⟩ settles hattempt
    (fun _ => records_ask.2 fun _ => rfl) left number known).mono
    fun t r h => ?_
  obtain ⟨earlier, last, ht, hnone, hlast, hle, hall⟩ := h
  refine ⟨earlier, last, ?_, ?_, hlast⟩
  -- the log is dropped in the channel, before the manager is shown the
  -- rest
  · have ht : Apn.unlogged t = _ := ht
    rw [unlogged_map, ht, List.map_append, List.map_flatMap]
    rfl
  · refine ⟨fun reply h => ?_, Nat.lt_succ_of_le hle, fun hn => ?_⟩
    · rw [hnone reply h]
      rfl
    · rw [hall (Option.not_isSome_iff_eq_none.1 (Bool.eq_false_iff.1 hn))]

-- ================================================================= steps

/-- The SIM answers that it is ready. -/
def Reading.simReady (reply : Reply) : Bool :=
  (reply.toOption.map Modem.Reply.simReady).getD false

/-- The modem answers that it is attached to the packet domain. -/
def Reading.attached (reply : Reply) : Bool :=
  (reply.toOption.bind Modem.Reply.attachState?).getD false

/-- What each step shows but for the log; `before` and `after` are the
choices of an access point that the connection starts and ends with. -/
inductive Step.Goes (settings : Config.Settings)
    (before after : Apn.Chosen) : Step → Transcript → Prop
  | looked : Goes settings before after look
      [⟨.record .isConnected, false⟩]
  | escaped (response : Modem.Response) :
      Goes settings before after escape [asked "+++" 1500 (.ok response)]
  | forced (e : ChannelError) (reply : Except ChannelError Unit) :
      Goes settings before after escape
        [asked "+++" 1500 (.error e), ⟨.modem (.switch .command), reply⟩]
  | probed {earlier : List Reply} {last : Reply} :
      Tried Except.isOk 5 earlier last →
      Goes settings before after wake
        (tries (asked "AT" 1000) 1000 earlier last)
  | measured (level : Reply) (reading : Except ChannelError SignalQuality) :
      Goes settings before after signal
        [asked "AT+CFUN?" 3000 level, ⟨.modem .quality, reading⟩]
  | simReady {reply : Reply} : Reading.simReady reply = true →
      Goes settings before after sim [asked "AT+CPIN?" 3000 reply]
  | simLate {reply : Reply} : Reading.simReady reply = false →
      Goes settings before after sim
        [asked "AT+CPIN?" 3000 reply, paused 5000]
  | registered {earlier : List Reply} {last : Reply} :
      Tried (fun reply => (Steps.settles "+CREG:" reply).isSome) 30
        earlier last →
      Goes settings before after registration
        (tries (asked "AT+CREG?" 3000) 2000 earlier last)
  | cached : before.isDetected = true → after = before →
      Goes settings before after accessPoint []
  | searched {t : List (Event Session)}
      {result : Except Apn.DetectionError Apn.Source}
      {winner : Option (Apn.Strategy × Apn.Offer)} :
      before.isDetected = false →
      Apn.Search settings.fallbackApns Apn.Strategy.all t winner →
      Apn.Outcome before (result, after) winner →
      Goes settings before after accessPoint (t.map Event.ofSession)
  | served {earlier : List Reply} {last : Reply} :
      Tried (fun reply => (Steps.settles "+CGREG:" reply).isSome) 20
        earlier last →
      Goes settings before after packetDomain
        (tries (asked "AT+CGREG?" 3000) 2000 earlier last)
  | attached {reply : Reply} : Reading.attached reply = true →
      Goes settings before after attach [asked "AT+CGATT?" 3000 reply]
  | attaching {reply : Reply} (reply' : Reply) :
      Reading.attached reply = false →
      Goes settings before after attach
        [asked "AT+CGATT?" 3000 reply, asked "AT+CGATT=1" 10000 reply',
          paused 2000]
  | defined (reply : Reply) :
      (Steps.contextCommand after.apn.text).utf8ByteSize ≤ 128 →
      Goes settings before after context
        [asked (Steps.contextCommand after.apn.text) 5000 reply]
  | tooLong :
      ¬(Steps.contextCommand after.apn.text).utf8ByteSize ≤ 128 →
      Goes settings before after context []
  | keyed (reply : Except NetifError Unit) :
      after.hasCredentials = true →
      Goes settings before after credentials
        [⟨.netif (.setAuth after.username.text after.password.text),
          reply⟩]
  | keyless : after.hasCredentials = false →
      Goes settings before after credentials []
  | dropped (reply : Reply) :
      Goes settings before after cleanUp
        [asked "AT+CGACT=0,1" 10000 reply]
  | forgot : Goes settings before after forget
      [⟨.record .resetEvents, ()⟩]
  | dialled {earlier : List (Except ChannelError Unit)}
      {last : Except ChannelError Unit} :
      Tried Except.isOk 3 earlier last →
      Goes settings before after dial
        (tries Gsm.dialled 5000 earlier last)
  | waited {event : Option LinkEvent} :
      (∀ info, event ≠ some (.ipAcquired info)) →
      Goes settings before after session [⟨.awaitEvent 90000, event⟩]
  | acquired (info : Net.IpInfo) (dns : Except NetifError Unit)
      (found : Option (Except NetifError Net.Address))
      (confirmed : Bool) :
      Goes settings before after session
        [⟨.awaitEvent 90000, some (.ipAcquired info)⟩,
          ⟨.netif (.setDns settings.dns.primary settings.dns.secondary),
            dns⟩,
          paused 2000,
          ⟨.resolve settings.dns.selfTestHost.text 10000, found⟩,
          ⟨.record .markConnected, confirmed⟩]

/-- The step depends on the access point in use. -/
def Step.usesAccessPoint : Step → Bool
  | accessPoint | context | credentials => true
  | _ => false

namespace Step

variable {settings : Config.Settings} {before after : Apn.Chosen}
variable {k : Step} {t : Transcript}

/-- `Goes` speaks of the choices only where the step depends on them. -/
theorem Goes.congr (h : k.Goes settings before after t)
    {before' after' : Apn.Chosen}
    (hb : k = .accessPoint → before' = before)
    (ha : k.usesAccessPoint = true → after' = after) :
    k.Goes settings before' after' t := by
  cases h with
  | cached hd he =>
    obtain rfl := hb rfl
    obtain rfl := ha rfl
    exact .cached hd he
  | searched hd hs ho =>
    obtain rfl := hb rfl
    obtain rfl := ha rfl
    exact .searched hd hs ho
  | defined reply hf => obtain rfl := ha rfl; exact .defined reply hf
  | tooLong hf => obtain rfl := ha rfl; exact .tooLong hf
  | keyed reply hc => obtain rfl := ha rfl; exact .keyed reply hc
  | keyless hc => obtain rfl := ha rfl; exact .keyless hc
  | looked => exact .looked
  | escaped response => exact .escaped response
  | forced e reply => exact .forced e reply
  | probed h => exact .probed h
  | measured level reading => exact .measured level reading
  | simReady h => exact .simReady h
  | simLate h => exact .simLate h
  | registered h => exact .registered h
  | served h => exact .served h
  | attached h => exact .attached h
  | attaching reply' h => exact .attaching reply' h
  | dropped reply => exact .dropped reply
  | forgot => exact .forgot
  | dialled h => exact .dialled h
  | waited h => exact .waited h
  | acquired info dns found confirmed =>
    exact .acquired info dns found confirmed

-- ---------------------------------------------------------- whose calls

/-- Tries with pauses between them are of the step that makes them. -/
theorem owned_tries {attempt : τ → Event Surroundings} {ms : Nat}
    (hk : ∀ reply, k.owns (attempt reply).call) (earlier : List τ)
    (last : τ) : (tries attempt ms earlier last).OwnedBy k := by
  intro e he
  rcases mem_tries he with ⟨reply, rfl⟩ | rfl
  · exact .inr (hk reply)
  · exact .inl rfl

/-- A `Strategy` asks for calls of the search. -/
theorem owned_strategy {guesses : List Apn.Name} {strategy : Apn.Strategy}
    {part : List (Event Session)} {o : Option Apn.Offer}
    (h : strategy.Goes guesses part o) :
    Transcript.OwnedBy (part.map Event.ofSession) .accessPoint := by
  have clearing (reply : Reply) : Step.accessPoint.covers
      (Event.ofSession (Apn.clearing reply)).call := .inr (.inl rfl)
  have listing (reply : Reply) : Step.accessPoint.covers
      (Event.ofSession (Apn.listing reply)).call := .inr (.inr (.inl rfl))
  have identifying (reply : Reply) : Step.accessPoint.covers
      (Event.ofSession (Apn.identifying reply)).call :=
    .inr (.inr (.inr (.inl rfl)))
  intro shown hshown
  obtain ⟨e, he, rfl⟩ := List.mem_map.1 hshown
  cases h with
  | refused reply =>
    obtain rfl := List.mem_singleton.1 he
    exact clearing _
  | cleared response reply =>
    rcases List.mem_pair.1 he with rfl | rfl
    · exact clearing _
    · exact listing _
  | listed reply =>
    obtain rfl := List.mem_singleton.1 he
    exact listing _
  | identified =>
    rcases List.mem_append.1 he with he | he
    · obtain ⟨reply, -, he⟩ := List.mem_flatMap.1 he
      rcases List.mem_pair.1 he with rfl | rfl
      · exact identifying _
      · exact .inl rfl
    · obtain rfl := List.mem_singleton.1 he
      exact identifying _
  | named format reply =>
    rcases List.mem_pair.1 he with rfl | rfl
    · exact .inr (.inr (.inr (.inr (.inl rfl))))
    · exact .inr (.inr (.inr (.inr (.inr rfl))))
  | guessed => cases he

/-- So does a `Search`, whose strategies go one after the other. -/
theorem owned_search {guesses : List Apn.Name}
    {strategies : List Apn.Strategy} {t : List (Event Session)}
    {winner : Option (Apn.Strategy × Apn.Offer)}
    (h : Apn.Search guesses strategies t winner) :
    Transcript.OwnedBy (t.map Event.ofSession) .accessPoint := by
  induction h with
  | exhausted => exact Transcript.ownedBy_nil _
  | won hk _ => exact owned_strategy hk
  | passed hk _ _ ih =>
    rw [List.map_append]
    exact Transcript.ownedBy_append.2 ⟨owned_strategy hk, ih⟩

/-- A step that keeps to `Goes` asks for its own calls only, logging and
pausing apart. -/
theorem Goes.owned (h : k.Goes settings before after t) : t.OwnedBy k := by
  have one {k : Step} {e : Event Surroundings} (he : k.covers e.call) :
      Transcript.OwnedBy [e] k :=
    Transcript.ownedBy_cons.2 ⟨he, Transcript.ownedBy_nil k⟩
  have two {k : Step} {e e' : Event Surroundings} (he : k.covers e.call)
      (he' : k.covers e'.call) : Transcript.OwnedBy [e, e'] k :=
    Transcript.ownedBy_cons.2 ⟨he, one he'⟩
  cases h with
  | looked => exact one (.inr rfl)
  | escaped => exact one (.inr (.inl rfl))
  | forced => exact two (.inr (.inl rfl)) (.inr (.inr rfl))
  | probed =>
    refine owned_tries (fun reply => ?_) _ _
    exact rfl
  | measured => exact two (.inr (.inl rfl)) (.inr (.inr rfl))
  | simReady => exact one (.inr rfl)
  | simLate => exact two (.inr rfl) (.inl rfl)
  | registered =>
    refine owned_tries (fun reply => ?_) _ _
    exact rfl
  | cached => exact Transcript.ownedBy_nil _
  | searched _ hs _ => exact owned_search hs
  | served =>
    refine owned_tries (fun reply => ?_) _ _
    exact rfl
  | attached => exact one (.inr (.inl rfl))
  | attaching =>
    refine Transcript.ownedBy_cons.2 ⟨.inr (.inl rfl), ?_⟩
    exact two (.inr (.inr rfl)) (.inl rfl)
  | defined => exact one (.inr ⟨_, rfl⟩)
  | tooLong => exact Transcript.ownedBy_nil _
  | keyed => exact one (.inr ⟨_, _, rfl⟩)
  | keyless => exact Transcript.ownedBy_nil _
  | dropped => exact one (.inr rfl)
  | forgot => exact one (.inr rfl)
  | dialled =>
    refine owned_tries (fun reply => ?_) _ _
    exact rfl
  | waited => exact one (.inr (.inl rfl))
  | acquired =>
    -- the wait, the resolvers, and the confirmation
    refine Transcript.ownedBy_cons.2 ⟨.inr (.inl rfl), ?_⟩
    refine Transcript.ownedBy_cons.2 ⟨.inr (.inr (.inl ⟨_, _, rfl⟩)), ?_⟩
    refine Transcript.ownedBy_cons.2 ⟨.inl rfl, ?_⟩
    exact two (.inr (.inr (.inr (.inl ⟨_, rfl⟩))))
      (.inr (.inr (.inr (.inr rfl))))

end Step

-- ================================================== programs of one step

/-- The program goes as the step does, whatever it is answered. -/
def Step.Led (k : Step) (p : Proc Session α) : Prop :=
  p.Records fun t _ => ∀ settings before after,
    k.Goes settings before after
      (unlogged (t.map Event.ofSession))

/-- The escape (`forceCommandMode`) is tried until it is acknowledged. -/
theorem led_forceCommandMode :
    Step.escape.Led Steps.forceCommandMode := by
  refine records_bind.2 (records_bind.2 (records_ask.2 fun reply => ?_))
  cases reply with
  | ok response =>
    exact records_done.2 (records_ask.2 fun _ _ _ _ => .escaped response)
  | error e =>
    refine records_done.2 (records_bind.2 (records_ask.2 fun _ => ?_))
    refine records_bind.2 (records_ask.2 fun reply => ?_)
    cases reply with
    | ok => exact records_done.2 fun _ _ _ => .forced e _
    | error e' => exact records_ask.2 fun _ _ _ _ => .forced e _

/-- The card is asked for, and given time if it is not ready. -/
theorem led_checkSim : Step.sim.Led Steps.checkSim := by
  refine records_bind.2 (records_ask.2 fun reply => ?_)
  -- a query that failed counts as a SIM that is not ready
  cases reply with
  | ok response =>
    refine records_bind.2 (records_done.2 ?_)
    cases h : Modem.Reply.simReady response with
    | true => exact records_ask.2 fun _ _ _ _ => .simReady h
    | false =>
      exact records_bind.2 (records_ask.2 fun _ =>
        records_ask.2 fun _ _ _ _ => .simLate h)
  | error e =>
    refine records_bind.2 (records_ask.2 fun _ => ?_)
    refine records_bind.2 (records_done.2 ?_)
    exact records_bind.2 (records_ask.2 fun _ =>
      records_ask.2 fun _ _ _ _ => .simLate rfl)

/-- Attachment is asked about, and then for. -/
theorem led_ensureAttached : Step.attach.Led Steps.ensureAttached := by
  refine records_bind.2 (records_ask.2 fun reply => ?_)
  -- a query that failed counts as not being attached
  cases reply with
  | ok response =>
    refine records_bind.2 (records_done.2 ?_)
    cases h : (Modem.Reply.attachState? response).getD false with
    | true => exact records_ask.2 fun _ _ _ _ => .attached h
    | false =>
      refine records_bind.2 (records_ask.2 fun _ => ?_)
      refine records_bind.2 (records_ask.2 fun reply' => ?_)
      cases reply' with
      | ok => exact records_ask.2 fun _ _ _ _ => .attaching _ h
      | error e =>
        exact records_bind.2 (records_ask.2 fun _ =>
          records_ask.2 fun _ _ _ _ => .attaching _ h)
  | error e =>
    refine records_bind.2 (records_ask.2 fun _ => ?_)
    refine records_bind.2 (records_done.2 ?_)
    refine records_bind.2 (records_ask.2 fun _ => ?_)
    refine records_bind.2 (records_ask.2 fun reply' => ?_)
    cases reply' with
    | ok => exact records_ask.2 fun _ _ _ _ => .attaching _ rfl
    | error e' =>
      exact records_bind.2 (records_ask.2 fun _ =>
        records_ask.2 fun _ _ _ _ => .attaching _ rfl)

/-- The old context is given up (`deactivateContext`). -/
theorem led_deactivateContext :
    Step.cleanUp.Led Steps.deactivateContext := by
  refine records_bind.2 (records_ask.2 fun reply => ?_)
  cases reply with
  | ok => exact records_done.2 fun _ _ _ => .dropped _
  | error e => exact records_ask.2 fun _ _ _ _ => .dropped _

/-- The context is defined with the access point the manager has then,
unless the command would not fit. -/
theorem records_configureContext (settings : Config.Settings)
    (before after : Apn.Chosen) :
    (Steps.configureContext after.apn.text).Records fun t _ =>
      Step.context.Goes settings before after
        (unlogged (t.map Event.ofSession)) := by
  unfold Steps.configureContext
  dsimp only
  split
  next hfits =>
    refine records_bind.2 (records_ask.2 fun reply => ?_)
    cases reply with
    | ok => exact records_ask.2 fun _ => .defined _ hfits
    | error e => exact records_ask.2 fun _ => .defined _ hfits
  next hlong => exact records_ask.2 fun _ => .tooLong hlong

/-- Reading the signal is two calls, and it fails where the reading says
that there is none. -/
theorem records_checkSignal :
    Steps.checkSignal.Records fun t r => ∃ level reading,
      unlogged (t.map Event.ofSession)
          = [asked "AT+CFUN?" 3000 level, ⟨.modem .quality, reading⟩]
        ∧ errorOf r = if Reading.noSignal ⟨.modem .quality, reading⟩
            then some .noSignal else none := by
  -- what is said of the functionality is logged, and decides nothing
  have level : Steps.reportFunctionality.Records fun t _ => ∃ level,
      Apn.unlogged t = [answered "AT+CFUN?" 3000 level] := by
    refine records_bind.2 (records_ask.2 fun reply => ?_)
    cases reply with
    | ok response =>
      dsimp only
      split
      · exact records_ask.2 fun _ => ⟨_, rfl⟩
      · exact records_ask.2 fun _ => ⟨_, rfl⟩
    | error e => exact records_ask.2 fun _ => ⟨_, rfl⟩
  have reading : Steps.readSignal.Records fun t r => ∃ reading,
      Apn.unlogged t = [⟨.quality, reading⟩]
        ∧ errorOf r = if Reading.noSignal ⟨.modem .quality, reading⟩
            then some .noSignal else none := by
    refine records_bind.2 (records_ask.2 fun reading => ?_)
    cases reading with
    | ok reading =>
      obtain ⟨rssi, ber⟩ := reading
      have read : Reading.noSignal ⟨.modem .quality, .ok ⟨rssi, ber⟩⟩
          = decide (rssi = 99) := rfl
      dsimp only
      split
      next h =>
        refine records_bind.2 (records_ask.2 fun _ => ⟨_, rfl, ?_⟩)
        have there : decide (rssi = 99) = true := decide_eq_true h
        rw [read, there]
        rfl
      next h =>
        have hnone : (none : Option GsmError) = if Reading.noSignal
            ⟨.modem .quality, .ok ⟨rssi, ber⟩⟩ then some .noSignal
            else none := by
          have there : decide (rssi = 99) = false := decide_eq_false h
          rw [read, there]
          rfl
        split
        · exact records_bind.2 (records_ask.2 fun _ => ⟨_, rfl, hnone⟩)
        · exact records_bind.2 (records_ask.2 fun _ => ⟨_, rfl, hnone⟩)
    | error e => exact records_bind.2 (records_ask.2 fun _ => ⟨_, rfl, rfl⟩)
  refine records_bind.2 (level.mono fun t _ ht => ?_)
  obtain ⟨level, ht⟩ := ht
  refine reading.mono fun t' r ht' => ?_
  obtain ⟨reading, ht', hr⟩ := ht'
  refine ⟨level, reading, ?_, hr⟩
  rw [unlogged_map, Apn.unlogged_append, ht, ht']
  rfl

-- ------------------------------------------------------- the three retries

/-- A call that is accepted settles its attempt. -/
theorem accepted_asked (command : String) (timeout : Nat) :
    (fun reply => (Reading.accepted (asked command timeout reply)).isSome)
      = Except.isOk := by
  funext reply
  cases reply <;> rfl

/-- A dial is accepted exactly if its reply is no error. -/
theorem accepted_dialled :
    (fun reply => (Reading.accepted (dialled reply)).isSome)
      = Except.isOk := by
  funext reply
  cases reply <;> rfl

/-- Waking the modem up is up to five probes, and it fails where the last
of them got no answer. -/
theorem records_wakeUp :
    Steps.wakeUp.Records fun t r => ∃ earlier last,
      unlogged (t.map Event.ofSession)
          = tries (asked "AT" 1000) 1000 earlier last
        ∧ Tried Except.isOk 5 earlier last
        ∧ errorOf r = if (Reading.accepted (asked "AT" 1000 last)).isSome
            then none else some .modemUnresponsive := by
  have probe (number : Nat) (known : Unit) :
      (Steps.probe number known).Records fun t r => ∃ reply,
        Apn.unlogged t = [answered "AT" 1000 reply]
          ∧ Reading.accepted (asked "AT" 1000 reply) = r.toOption := by
    refine records_bind.2 (records_ask.2 fun reply => ?_)
    cases reply with
    | ok response =>
      exact records_bind.2 (records_ask.2 fun _ => ⟨_, rfl, rfl⟩)
    | error e =>
      exact records_bind.2 (records_ask.2 fun _ => ⟨_, rfl, rfl⟩)
  refine records_bind.2 ((records_tried _ _ probe 1000 4 1 ()).mono
    fun t r h => ?_)
  obtain ⟨earlier, last, ht, htried, hlast⟩ := h
  rw [accepted_asked] at htried
  cases r with
  | ok =>
    refine records_done.2 ⟨earlier, last, ?_, htried, ?_⟩
    · rw [List.append_nil]
      exact ht
    · rw [hlast]
      rfl
  | error =>
    refine records_bind.2 (records_ask.2 fun _ =>
      ⟨earlier, last, ?_, htried, ?_⟩)
    · rw [List.map_append, unlogged_append, ht]
      exact List.append_nil _
    · rw [hlast]
      rfl

/-- Dialling is up to three switches to data mode, and it fails where the
last of them was refused. -/
theorem records_enterDataMode :
    Steps.enterDataMode.Records fun t r => ∃ earlier last,
      unlogged (t.map Event.ofSession)
          = tries dialled 5000 earlier last
        ∧ Tried Except.isOk 3 earlier last
        ∧ errorOf r = if (Reading.accepted (dialled last)).isSome
            then none else some .dataModeFailed := by
  -- one dial, of which the record of retries says the rest
  have dial (number : Nat) (known : Unit) :
      (Steps.attemptDataMode number known).Records fun t r => ∃ reply,
        Apn.unlogged t = [⟨.switch .data, reply⟩]
          ∧ Reading.accepted (dialled reply) = r.toOption := by
    refine records_bind.2 (records_ask.2 fun reply => ?_)
    cases reply with
    | ok => exact records_bind.2 (records_ask.2 fun _ => ⟨_, rfl, rfl⟩)
    | error e =>
      exact records_bind.2 (records_ask.2 fun _ => ⟨_, rfl, rfl⟩)
  refine records_bind.2 ((records_tried _ _ dial 5000 2 1 ()).mono
    fun t r h => ?_)
  obtain ⟨earlier, last, ht, htried, hlast⟩ := h
  rw [accepted_dialled] at htried
  have shown : unlogged ((t ++ []).map Event.ofSession)
      = tries dialled 5000 earlier last := by
    rw [List.append_nil]
    exact ht
  cases r with
  | ok =>
    refine records_done.2 ⟨earlier, last, shown, htried, ?_⟩
    rw [hlast]
    rfl
  | error =>
    refine records_done.2 ⟨earlier, last, shown, htried, ?_⟩
    rw [hlast]
    rfl

/-- A wait for registration with a budget has a last poll. It comes to
what that poll settles, or else to the last state that was told. -/
theorem Steps.Concludes.tried {marker : String} {left : Nat}
    {replies : List Reply} {r : PollResult}
    (h : Concludes marker (left + 1) replies r) :
    ∃ earlier last, replies = earlier ++ [last]
      ∧ Tried (fun reply => (settles marker reply).isSome) (left + 1)
          earlier last
      ∧ r = (settles marker last).getD
          (.error (lastState marker (earlier ++ [last]))) := by
  have unsettled {reply : Reply} (h : settles marker reply = none) :
      (settles marker reply).isSome = false := by
    rw [h]
    rfl
  cases h with
  | @settled earlier last r hlt hnone hlast =>
    refine ⟨earlier, last, rfl, ⟨fun reply h => ?_, hlt, fun hn => ?_⟩, ?_⟩
    · exact unsettled (hnone reply h)
    · rw [hlast] at hn
      cases hn
    · rw [hlast]
      rfl
  | exhausted hlength hnone =>
    -- a budget that is used up has had a last attempt, and it was open
    -- too
    obtain rfl | ⟨earlier, last, rfl⟩ := List.eq_nil_or_concat' replies
    · cases hlength
    · have hlast : settles marker last = none := hnone last (by simp)
      refine ⟨earlier, last, rfl, ⟨fun reply h => ?_, ?_, fun _ => ?_⟩, ?_⟩
      · exact unsettled (hnone reply (List.mem_append_left _ h))
      · rw [List.length_append] at hlength
        exact Nat.lt_of_lt_of_eq (Nat.lt_succ_self _) hlength
      · rw [List.length_append] at hlength
        exact hlength
      · rw [hlast]
        rfl

/-- Polls that settle nothing were never told that the modem is turned
away. -/
theorem Steps.lastState_ne_denied {marker : String} {replies : List Reply}
    (h : ∀ reply ∈ replies, settles marker reply = none) :
    lastState marker replies ≠ some .denied := by
  intro hd
  obtain ⟨reply, hreply, hstate⟩ :=
    List.mem_filterMap.1 (List.mem_of_getLast? hd)
  have hs := settles_denied hstate
  rw [h reply hreply] at hs
  cases hs

/-- Its polls are `tries` as well. -/
theorem map_spaced (command : String) (interval : Nat)
    (earlier : List Reply) (last : Reply) :
    (Steps.spaced command interval (earlier ++ [last])).map Event.ofSession
      = tries (asked command 3000) interval earlier last := by
  rw [Steps.spaced_concat, List.map_append, List.map_flatMap]
  rfl

/-- The packet domain is polled for until it is there. -/
theorem led_waitForGprs : Step.packetDomain.Led Steps.waitForGprs := by
  refine records_bind.2 (records_ask.2 fun _ => ?_)
  refine records_bind.2 ((Steps.records_pollRegistration "AT+CGREG?"
    "+CGREG:" 20 2000).mono fun t r h => ?_)
  obtain ⟨replies, ht, hend⟩ := h
  obtain ⟨earlier, last, rfl, htried, -⟩ := hend.tried
  -- the line before the polls and the one after them are log
  have goes (first final : Line) (settings : Config.Settings)
      (before after : Apn.Chosen) :
      Step.packetDomain.Goes settings before after (unlogged
        (([⟨.log first, ()⟩] ++ (t ++ [⟨.log final, ()⟩])
          : List (Event Session)).map Event.ofSession)) := by
    rw [unlogged_map, Apn.unlogged_append, Apn.unlogged_append, ht]
    show Step.packetDomain.Goes _ _ _ (([] ++ (_ ++ [])).map _)
    rw [List.append_nil, List.nil_append, map_spaced]
    exact .served htried
  cases r with
  | ok state => exact records_ask.2 fun _ => goes _ _
  | error last => exact records_ask.2 fun _ => goes _ _

/-- What a poll settles is what its answer decides. -/
theorem settles_eq_decision (reply : Reply) :
    Steps.settles "+CREG:" reply
      = (Reading.decision (asked "AT+CREG?" 3000 reply)).map fun state =>
        if state = .denied then .error (some .denied) else .ok state := by
  have read : Reading.decision (asked "AT+CREG?" 3000 reply)
      = (Steps.stateIn "+CREG:" reply).filter fun state =>
        state.isRegistered || state == .denied := by
    cases reply <;> rfl
  rw [read]
  unfold Steps.settles
  cases Steps.stateIn "+CREG:" reply with
  | none => rfl
  | some state => cases state <;> rfl

/-- Waiting for registration is up to thirty polls, and it fails as the
last of them decides, or for the want of a decision. -/
theorem records_waitForRegistration :
    Steps.waitForRegistration.Records fun t r => ∃ earlier last,
      unlogged (t.map Event.ofSession)
          = tries (asked "AT+CREG?" 3000) 2000 earlier last
        ∧ Tried (fun reply => (Steps.settles "+CREG:" reply).isSome) 30
            earlier last
        ∧ errorOf r = Reading.refusal
            (Reading.decision (asked "AT+CREG?" 3000 last)) := by
  refine records_bind.2 (records_ask.2 fun _ => ?_)
  refine records_bind.2 ((Steps.records_pollRegistration "AT+CREG?"
    "+CREG:" 30 2000).mono fun t r h => ?_)
  obtain ⟨replies, ht, hend⟩ := h
  obtain ⟨earlier, last, rfl, htried, hr⟩ := hend.tried
  -- all that is left is one line of the log
  have ended (first final : Line) (b : Except GsmError Unit)
      (hb : errorOf b = Reading.refusal
        (Reading.decision (asked "AT+CREG?" 3000 last))) :
      (Session.log final >>= fun _ => pure b).Records fun t' r =>
        ∃ earlier last,
          unlogged (([⟨.log first, ()⟩] ++ (t ++ t')
              : List (Event Session)).map Event.ofSession)
            = tries (asked "AT+CREG?" 3000) 2000 earlier last
          ∧ Tried (fun reply => (Steps.settles "+CREG:" reply).isSome) 30
              earlier last
          ∧ errorOf r = Reading.refusal
              (Reading.decision (asked "AT+CREG?" 3000 last)) := by
    refine records_bind.2 (records_ask.2 fun _ =>
      ⟨earlier, last, ?_, htried, hb⟩)
    rw [unlogged_map, Apn.unlogged_append, Apn.unlogged_append, ht]
    show ([] ++ (_ ++ [])).map _ = _
    rw [List.append_nil, List.nil_append, map_spaced]
  have settled := settles_eq_decision last
  rw [settled] at hr
  cases hdecision : Reading.decision (asked "AT+CREG?" 3000 last) with
  | some state =>
    rw [hdecision] at hr
    by_cases hd : state = .denied
    · subst hd hr
      exact ended _ _ _ (by rw [hdecision]; rfl)
    · have hr : r = .ok state := hr.trans (if_neg hd)
      subst hr
      refine ended _ _ _ ?_
      rw [hdecision]
      cases state with
      | denied => exact absurd rfl hd
      | _ => rfl
  | none =>
    rw [hdecision] at hr settled
    have timeout : errorOf (.error .registrationTimeout : Except _ Unit)
        = Reading.refusal
          (Reading.decision (asked "AT+CREG?" 3000 last)) := by
      rw [hdecision]
      rfl
    have hopen : Steps.lastState "+CREG:" (earlier ++ [last])
        ≠ some .denied := by
      refine Steps.lastState_ne_denied fun reply h => ?_
      rcases List.mem_append.1 h with h | h
      · exact Option.not_isSome_iff_eq_none.1
          (Bool.eq_false_iff.1 (htried.unsettled reply h))
      · rw [List.mem_singleton.1 h]
        exact settled
    have hr : r = .error (Steps.lastState "+CREG:" (earlier ++ [last])) :=
      hr
    -- whatever was told last, it was not that the modem is turned away
    generalize Steps.lastState "+CREG:" (earlier ++ [last]) = told
      at hopen hr
    subst hr
    cases told with
    | none => exact ended _ _ _ timeout
    | some state =>
      cases state with
      | denied => exact absurd rfl hopen
      | _ => exact ended _ _ _ timeout

end Uplink.Gsm
