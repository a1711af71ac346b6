/-
A connection returns what the documented order dictates.

Every step is taken on its own first: its part of the transcript goes as
`Step.Goes` lists it, and it ends the connection exactly where
`Step.failure` says so, off that part alone (`Takes`). The steps are then
put in a row (`Takes.walks`), which gives a `Course` of the whole
connection, and `connect_verdict` reads the course off the transcript.

A part says what the manager chose before and after the connection, so a
step's part is carried over to the connection around it. For that the
steps that depend on the access point must not come before the one that
looks for it (`Step.usesAccessPoint`).
-/
import Uplink.Proofs.Gsm.Parts
import Uplink.Proofs.Gsm.Reports

namespace Uplink.Gsm

open Apn (Reply)
open Manager (unlogged unlogged_append)
open Modem (Session SessionCall)
open Proc (Records Shows)
open Timing

variable {α β : Type}

-- ========================================================= taking a step

/-- A step's part of a connection: but for the log it is one of the forms
that `Step.Goes` lists. -/
def Step.Does (m m' : Manager) (k : Step) (part : Transcript) : Prop :=
  k.Goes m.settings m.apn m'.apn (unlogged part)

/-- What a step shows, and how it ends. -/
structure Step.Taken (k : Step) (m : Manager) (t : Transcript)
    (r : Except GsmError α) (m' : Manager) : Prop where
  passed : ∀ a, r = .ok a →
    k.Does m m' t ∧ k.failure m'.apn.isDetected t = none
  failed : ∀ e, r = .error e → ∃ part coda, t = part ++ coda
    ∧ k.Does m m' part ∧ k.failure m'.apn.isDetected part = some e
    ∧ Transcript.calls coda = diagnosis (.error e)
  apn : k ≠ .accessPoint → m'.apn = m.apn
  settings : m'.settings = m.settings

/-- The program is the step. -/
def Takes (k : Step) (act : Manager.Attempt α) : Prop :=
  ∀ m, Shows act.run m (k.Taken m)

/-- The program is these steps in a row. -/
def Walks (ks : List Step) (act : Manager.Attempt Unit) : Prop :=
  ∀ m, Shows act.run m fun t r m' =>
    (∃ body coda, t = body ++ coda
      ∧ Course (Step.Does m m') m'.apn.isDetected ks body r
      ∧ Transcript.calls coda = diagnosis r)
    ∧ (Step.accessPoint ∉ ks → m'.apn = m.apn)
    ∧ m'.settings = m.settings

/-- Whether there is an access point is of no concern to other steps. -/
theorem Step.failure_found {k : Step} (hk : k ≠ .accessPoint)
    (found found' : Bool) (t : Transcript) :
    k.failure found t = k.failure found' t := by
  cases k with
  | accessPoint => exact absurd rfl hk
  | _ => rfl

/-- A part goes by its own calls, the log among them. -/
theorem Step.Does.owned {m m' : Manager} {k : Step} {part : Transcript}
    (h : k.Does m m' part) : part.OwnedBy k := by
  intro e he
  by_cases hl : e.call.isLog = true
  · exact .inl (GsmCall.silent_of_isLog hl)
  · refine Step.Goes.owned h e (List.mem_filter.2 ⟨he, ?_⟩)
    rw [Bool.eq_false_iff.2 hl]
    rfl

/-- Managers that the step cannot tell apart. -/
theorem Step.Does.congr {m m' m₁ m₁' : Manager} {k : Step}
    {part : Transcript} (h : k.Does m m' part)
    (hs : m₁.settings = m.settings)
    (hb : k = .accessPoint → m₁.apn = m.apn)
    (ha : k.usesAccessPoint = true → m₁'.apn = m'.apn) :
    k.Does m₁ m₁' part := by
  unfold Step.Does
  rw [hs]
  exact Step.Goes.congr h hb ha

/-- A step before others. What they choose is not known to it yet, so no
step that depends on the access point may come before the search. -/
theorem Takes.walks {k : Step} {ks : List Step} {act : Manager.Attempt α}
    {f : α → Manager.Attempt Unit} (h : Takes k act)
    (hf : ∀ a, Walks ks (f a)) (hk : k ∉ ks)
    (hlater : k.usesAccessPoint = true → .accessPoint ∉ ks) :
    Walks (k :: ks) (act >>= f) := by
  intro m
  refine Proc.shows_attempt_bind.2 ((h m).mono fun t r m₁ ht => ?_)
  cases r with
  | error e =>
    obtain ⟨part, coda, rfl, hd, hf, hcoda⟩ := ht.failed e rfl
    refine ⟨⟨part, coda, rfl, .failed hd hf, hcoda⟩,
      fun ha => ht.apn ?_, ht.settings⟩
    rintro rfl
    exact ha (by simp)
  | ok a =>
    obtain ⟨hd, hnone⟩ := ht.passed a rfl
    refine (hf a m₁).mono fun t' r' m' ht' => ?_
    obtain ⟨⟨body, coda, rfl, hc, hcoda⟩, hapn, hset⟩ := ht'
    refine ⟨⟨t ++ body, coda, ?_, ?_, hcoda⟩, fun ha => ?_,
      hset.trans ht.settings⟩
    · rw [List.append_assoc]
    · -- the rest started where this step ended, and ends the connection
      have hrest : Course (Step.Does m m') m'.apn.isDetected ks body r' := by
        refine hc.mono fun j hj part hp =>
          hp.congr ht.settings.symm (fun hja => ?_) fun _ => rfl
        have hka : k ≠ .accessPoint := fun hka => hk (hka ▸ hja ▸ hj)
        exact (ht.apn hka).symm
      have hpart : k.Does m m' t :=
        hd.congr rfl (fun _ => rfl) fun hu => hapn (hlater hu)
      refine .passed hpart ?_ hrest
      by_cases hka : k = .accessPoint
      · have ha : m'.apn = m₁.apn := hapn fun ha => hk (hka ▸ ha)
        rw [ha]
        exact hnone
      · rw [Step.failure_found hka _ m₁.apn.isDetected]
        exact hnone
    · have hka : k ≠ .accessPoint := by
        rintro rfl
        exact ha (by simp)
      have hks : Step.accessPoint ∉ ks := fun h =>
        ha (List.mem_cons_of_mem _ h)
      exact (hapn hks).trans (ht.apn hka)

/-- The last of some steps, walked alone. -/
theorem Takes.walks_last {k : Step} {act : Manager.Attempt Unit}
    (h : Takes k act) : Walks [k] act := by
  intro m
  refine (h m).mono fun t r m' ht => ?_
  have hapn (ha : Step.accessPoint ∉ [k]) : m'.apn = m.apn := by
    refine ht.apn ?_
    rintro rfl
    exact ha (by simp)
  cases r with
  | error e =>
    obtain ⟨part, coda, rfl, hd, hf, hcoda⟩ := ht.failed e rfl
    exact ⟨⟨part, coda, rfl, .failed hd hf, hcoda⟩, hapn, ht.settings⟩
  | ok a =>
    obtain ⟨hd, hnone⟩ := ht.passed a rfl
    refine ⟨⟨t, [], ?_, ?_, rfl⟩, hapn, ht.settings⟩
    · rw [List.append_nil]
    · rw [← List.append_nil t]
      exact .passed hd hnone .through

-- =================================================== the advisory steps

/-- A step that cannot fail. -/
def Step.Advisory (k : Step) : Prop :=
  k ≠ .accessPoint ∧ ∀ found t, k.failure found t = none

/-- Where an `Advisory` step goes as it is listed, it is taken. -/
theorem Step.Advisory.taken {k : Step} (hk : k.Advisory) {m m' : Manager}
    {t : Transcript} {a : α} (hd : k.Does m m' t) (ha : m'.apn = m.apn)
    (hs : m'.settings = m.settings) : k.Taken m t (.ok a) m' :=
  ⟨fun _ _ => ⟨hd, hk.2 _ _⟩, nofun, fun _ => ha, hs⟩

/-- A program that goes as an `Advisory` step is listed takes it. -/
theorem Step.Advisory.takes {k : Step} (hk : k.Advisory)
    {p : Proc Session Unit} (hp : k.Led p) :
    Takes k (Manager.advisory p) := by
  intro m
  refine Proc.shows_attempt_lift.2 (shows_session.2 ?_)
  exact Records.mono hp fun t _ h => hk.taken (h _ _ _) rfl rfl

theorem takes_escape :
    Takes .escape (Manager.advisory Steps.forceCommandMode) :=
  Step.Advisory.takes ⟨by decide, fun _ _ => rfl⟩ led_forceCommandMode

theorem takes_sim : Takes .sim (Manager.advisory Steps.checkSim) :=
  Step.Advisory.takes ⟨by decide, fun _ _ => rfl⟩ led_checkSim

theorem takes_packetDomain :
    Takes .packetDomain (Manager.advisory Steps.waitForGprs) :=
  Step.Advisory.takes ⟨by decide, fun _ _ => rfl⟩ led_waitForGprs

theorem takes_attach :
    Takes .attach (Manager.advisory Steps.ensureAttached) :=
  Step.Advisory.takes ⟨by decide, fun _ _ => rfl⟩ led_ensureAttached

/-- The old context is given up (`deactivateContext`). -/
theorem takes_cleanUp :
    Takes .cleanUp (Manager.advisory Steps.deactivateContext) :=
  Step.Advisory.takes ⟨by decide, fun _ _ => rfl⟩ led_deactivateContext

/-- The context is defined with the access point that is there by then. -/
theorem takes_context :
    Takes .context (ExceptT.lift Manager.configureContext) := by
  intro m
  refine Proc.shows_attempt_lift.2 (Proc.shows_bind.2 ?_)
  refine Proc.shows_get.2 (shows_session.2 ?_)
  refine (records_configureContext m.settings m.apn m.apn).mono fun t _ h => ?_
  exact Step.Advisory.taken ⟨by decide, fun _ _ => rfl⟩ h rfl rfl

/-- Credentials are given (`authenticate`), if the access point has any. -/
theorem takes_credentials :
    Takes .credentials (ExceptT.lift Manager.authenticate) := by
  intro m
  refine Proc.shows_attempt_lift.2 ?_
  unfold Manager.authenticate
  rw [Proc.shows_bind, Proc.shows_get]
  have advisory : Step.credentials.Advisory :=
    ⟨by decide, fun _ _ => rfl⟩
  dsimp only
  split
  next hkeyed =>
    rw [Proc.shows_bind]
    refine Proc.shows_lift.2 (Proc.records_ask.2 fun r => ?_)
    cases r with
    | ok =>
      refine Proc.shows_lift.2 (Proc.records_ask.2 fun _ => ?_)
      exact advisory.taken (.keyed _ hkeyed) rfl rfl
    | error e =>
      refine Proc.shows_lift.2 (Proc.records_ask.2 fun _ => ?_)
      exact advisory.taken (.keyed _ hkeyed) rfl rfl
  next hkeyless =>
    refine Proc.shows_pure.2 (advisory.taken (.keyless ?_) rfl rfl)
    exact Bool.eq_false_iff.2 hkeyless

theorem takes_forget : Takes .forget
    (ExceptT.lift (Manager.ask (.record .resetEvents))) := by
  intro m
  refine Proc.shows_attempt_lift.2 (Proc.shows_lift.2 ?_)
  refine Proc.records_ask.2 fun r => ?_
  exact Step.Advisory.taken ⟨by decide, fun _ _ => rfl⟩ .forgot rfl rfl

-- ================================================ the steps that decide

/-- A step that can fail, without anything asked for afterwards. -/
theorem Step.taken_of_failure {k : Step} {m m' : Manager} {t : Transcript}
    {r : Except GsmError α} (hd : k.Does m m' t)
    (hf : k.failure m'.apn.isDetected t = errorOf r)
    (hcoda : ∀ e, errorOf r = some e → diagnosis (.error e) = [])
    (ha : k ≠ .accessPoint → m'.apn = m.apn)
    (hs : m'.settings = m.settings) : k.Taken m t r m' := by
  refine ⟨fun a hr => ⟨hd, ?_⟩, fun e hr => ⟨t, [], ?_, hd, ?_, ?_⟩,
    ha, hs⟩
  · rw [hf, hr]
    rfl
  · rw [List.append_nil]
  · rw [hf, hr]
    rfl
  · rw [hcoda e (by rw [hr]; rfl)]
    rfl

/-- A program that is a step: it goes as the step does and ends as the
step reads off what it shows, and an error has the modem asked for this
afterwards. -/
def Decides (k : Step) (p : Proc Session (Except GsmError Unit))
    (asked : List GsmCall) : Prop :=
  p.Records fun t r =>
    (∀ settings before after, k.Goes settings before after
        (unlogged (t.map Event.ofSession)))
    ∧ (∀ found, k.failure found (t.map Event.ofSession) = errorOf r)
    ∧ ∀ e, errorOf r = some e → diagnosis (.error e) = asked

/-- A step that decides takes itself where its failure is fatal. -/
theorem Decides.takes_fatal {k : Step}
    {p : Proc Session (Except GsmError Unit)} (h : Decides k p []) :
    Takes k (Manager.fatal p) := by
  intro m
  refine shows_session.2 (Records.mono h fun t r ht => ?_)
  obtain ⟨hg, hf, he⟩ := ht
  exact Step.taken_of_failure (hg _ _ _) (hf _) he (fun _ => rfl) rfl

/-- Asking why shows that, and what is logged about the answer. -/
theorem records_reportModemError :
    Steps.reportModemError.Records fun t _ =>
      Transcript.calls (t.map Event.ofSession) = [.errorReport] := by
  refine Proc.records_bind.2 (Proc.records_ask.2 fun r => ?_)
  cases r with
  | ok response => exact Proc.records_ask.2 fun _ => rfl
  | error e => exact Proc.records_ask.2 fun _ => rfl

/-- The same where the reason of its failure is asked for, which is behind
the step. -/
theorem Decides.takes_reported {k : Step}
    {p : Proc Session (Except GsmError Unit)}
    (h : Decides k p [.errorReport]) :
    Takes k (Manager.reported p) := by
  intro m
  refine Proc.shows_bind.2 (shows_session.2
    (Records.mono h fun t r ht => ?_))
  obtain ⟨hg, hf, he⟩ := ht
  cases r with
  | ok =>
    refine Proc.shows_pure.2 ⟨fun _ _ => ?_, nofun, fun _ => rfl, rfl⟩
    rw [List.append_nil]
    exact ⟨hg _ _ _, hf _⟩
  | error e =>
    refine Proc.shows_bind.2 (shows_session.2
      (records_reportModemError.mono fun t' _ hasked => ?_))
    refine Proc.shows_pure.2 ⟨nofun, fun e' he' => ?_, fun _ => rfl, rfl⟩
    cases he'
    refine ⟨_, _, rfl, hg _ _ _, hf _, ?_⟩
    rw [List.append_nil, hasked, he e rfl]

/-- A step that reads whether one of its calls was accepted reads the last
of its attempts. -/
theorem accepted_tries {ε γ : Type} {k : Step}
    {attempt : Except ε γ → Event Surroundings}
    (hk : ∀ reply, (attempt reply).call.decides = some k)
    (hread : (fun reply => (Reading.accepted (attempt reply)).isSome)
      = Except.isOk) {budget : Nat} {earlier : List (Except ε γ)}
    {last : Except ε γ} (h : Tried Except.isOk budget earlier last)
    (ms : Nat) :
    ((tries attempt ms earlier last).of k).findSome? Reading.accepted
      = Reading.accepted (attempt last) := by
  rw [← hread] at h
  exact findSome?_tries hk h ms

/-- A step with one way to fail has one diagnosis to make. -/
theorem diagnosis_of_errorOf {r : Except GsmError Unit} {accepted : Bool}
    {e cause : GsmError}
    (hr : errorOf r = if accepted then none else some cause)
    (he : errorOf r = some e) :
    diagnosis (.error e) = diagnosis (.error cause) := by
  rw [hr] at he
  split at he
  · cases he
  · cases he
    rfl

/-- The modem is woken (`wakeUp`) by one of five probes, or is
unresponsive. -/
theorem decides_wakeUp : Decides .wake Steps.wakeUp [] := by
  have reads : (GsmCall.query "AT" 1000).decides = some .wake := by decide
  refine records_wakeUp.mono fun t r h => ?_
  obtain ⟨earlier, last, ht, htried, hr⟩ := h
  refine ⟨fun _ _ _ => ht ▸ .probed htried, fun found => ?_,
    fun e he => diagnosis_of_errorOf hr he⟩
  rw [← Step.failure_unlogged, ht, Step.failure_wake,
    accepted_tries (fun _ => reads) (accepted_asked "AT" 1000) htried]
  exact hr.symm

theorem takes_wake : Takes .wake (Manager.fatal Steps.wakeUp) :=
  decides_wakeUp.takes_fatal

/-- The signal is read (`keepSignal`), and there is none if it says so. -/
theorem takes_signal : Takes .signal Manager.keepSignal := by
  intro m
  refine Proc.shows_attempt_bind.2 (shows_session.2
    (records_checkSignal.mono fun t r h => ?_))
  obtain ⟨level, reading, ht, hr⟩ := h
  have goes (m' : Manager) :
      Step.signal.Goes m.settings m.apn m'.apn
        (unlogged (t.map Event.ofSession)) :=
    ht ▸ .measured level reading
  have hf (found : Bool) :
      Step.signal.failure found (t.map Event.ofSession) = errorOf r := by
    rw [← Step.failure_unlogged, ht, hr]
    show (if Reading.noSignal _ || false then _ else _) = _
    rw [Bool.or_false]
  have cause (e : GsmError) (he : errorOf r = some e) :
      diagnosis (.error e) = [] := by
    rw [hr] at he
    split at he
    · cases he
      rfl
    · cases he
  cases r with
  | error e =>
    exact Step.taken_of_failure (goes m) (hf _) cause (fun _ => rfl) rfl
  | ok reading =>
    -- the strength is kept, which no step depends on
    cases reading with
    | none =>
      refine Proc.shows_pure.2 ?_
      rw [List.append_nil]
      exact Step.taken_of_failure (goes m) (hf _) nofun (fun _ => rfl) rfl
    | some rssi =>
      refine Proc.shows_attempt_lift.2 (Proc.shows_modify.2 ?_)
      rw [List.append_nil]
      exact Step.taken_of_failure (goes _) (hf _) nofun (fun _ => rfl) rfl

/-- Registration is decided by the first answer that settles it, or after
thirty is not there. -/
theorem decides_waitForRegistration :
    Decides .registration Steps.waitForRegistration [.errorReport] := by
  have reads : (GsmCall.query "AT+CREG?" 3000).decides
      = some .registration := by decide
  refine records_waitForRegistration.mono fun t r h => ?_
  obtain ⟨earlier, last, ht, htried, hr⟩ := h
  refine ⟨fun _ _ _ => ht ▸ .registered htried, fun found => ?_,
    fun e he => ?_⟩
  · have hread : (fun reply => (Steps.settles "+CREG:" reply).isSome)
        = fun reply =>
          (Reading.decision (asked "AT+CREG?" 3000 reply)).isSome := by
      funext reply
      rw [settles_eq_decision, Option.isSome_map]
    rw [hread] at htried
    rw [← Step.failure_unlogged, ht, Step.failure_registration,
      findSome?_tries (fun _ => reads) htried]
    exact hr.symm
  · rw [hr] at he
    unfold Reading.refusal at he
    split at he <;> cases he <;> rfl

theorem takes_registration :
    Takes .registration (Manager.reported Steps.waitForRegistration) :=
  decides_waitForRegistration.takes_reported

/-- One of three dials puts data through, or data mode fails. -/
theorem decides_enterDataMode :
    Decides .dial Steps.enterDataMode [.errorReport] := by
  refine records_enterDataMode.mono fun t r h => ?_
  obtain ⟨earlier, last, ht, htried, hr⟩ := h
  refine ⟨fun _ _ _ => ht ▸ .dialled htried, fun found => ?_,
    fun e he => diagnosis_of_errorOf hr he⟩
  rw [← Step.failure_unlogged, ht, Step.failure_dial,
    accepted_tries (fun _ => rfl) accepted_dialled htried]
  exact hr.symm

theorem takes_dial :
    Takes .dial (Manager.reported Steps.enterDataMode) :=
  decides_enterDataMode.takes_reported

-- --------------------------------------------------------------- session

/-- Giving a connection up asks for what `diagnosis` lists. -/
theorem shows_abort (why : String) (m : Manager) :
    Shows (Manager.abort why) m fun t r m' =>
      Transcript.calls t = diagnosis (.error .pppTimeout)
        ∧ r = .error .pppTimeout ∧ m' = m := by
  refine Proc.shows_bind.2 (Proc.shows_lift.2
    (Proc.records_ask.2 fun _ => ?_))
  refine Proc.shows_bind.2 (shows_session.2
    (Proc.records_bind.2 (Proc.records_ask.2 fun r => ?_)))
  have rest (line : Line) : (do
      Session.log line
      Steps.reportModemError : Proc Session Unit).Records fun t _ =>
        Transcript.calls (t.map Event.ofSession) = [.errorReport] :=
    Proc.records_bind.2 (Proc.records_ask.2 fun _ =>
      records_reportModemError)
  cases r with
  | ok =>
    refine records_reportModemError.mono fun t _ h => ?_
    refine Proc.shows_pure.2 ⟨?_, rfl, rfl⟩
    rw [List.append_nil]
    exact congrArg (GsmCall.modem (.switch .command) :: ·) h
  | error e =>
    refine (rest _).mono fun t _ h => ?_
    refine Proc.shows_pure.2 ⟨?_, rfl, rfl⟩
    rw [List.append_nil]
    exact congrArg (GsmCall.modem (.switch .command) :: ·) h

/-- The resolvers are set (`setUpResolvers`), given some time and tried,
whatever comes of it. -/
theorem shows_setUpResolvers (m : Manager) :
    Shows Manager.setUpResolvers m fun t _ m' => ∃ dns found,
      unlogged t
          = [⟨.netif (.setDns m.settings.dns.primary
              m.settings.dns.secondary), dns⟩,
            paused 2000,
            ⟨.resolve m.settings.dns.selfTestHost.text 10000, found⟩]
        ∧ m' = m := by
  refine Proc.shows_bind.2 (Proc.shows_get.2 ?_)
  refine Proc.shows_bind.2 (Proc.shows_lift.2
    (Proc.records_ask.2 fun dns => ?_))
  rcases dns with e | _ <;>
    refine Proc.shows_bind.2 (Proc.shows_lift.2
      (Proc.records_ask.2 fun _ => ?_)) <;>
    refine Proc.shows_bind.2 (Proc.shows_lift.2
      (Proc.records_ask.2 fun _ => ?_)) <;>
    refine Proc.shows_bind.2 (Proc.shows_lift.2
      (Proc.records_ask.2 fun found => ?_))
  all_goals
    rcases found with _ | e | address <;>
      exact Proc.shows_lift.2 (Proc.records_ask.2 fun _ =>
        ⟨_, _, rfl, rfl⟩)

/-- The session comes up, or PPP times out; what is asked for then is
behind the step. -/
theorem takes_session : Takes .session Manager.awaitSession := by
  intro m
  -- what a session that is given up shows
  have aborted (why : String) (part : Transcript)
      (hg : Step.session.Does m m part)
      (hf : ∀ found, Step.session.failure found part = some .pppTimeout) :
      Shows (Manager.abort why) m fun t' r m' =>
        Step.session.Taken m (part ++ t') r m' := by
    refine (shows_abort why m).mono fun coda r m' h => ?_
    obtain ⟨hcoda, rfl, rfl⟩ := h
    refine ⟨nofun, fun e he => ?_, fun _ => rfl, rfl⟩
    cases he
    exact ⟨part, coda, rfl, hg, hf _, hcoda⟩
  -- anything but an address ends the wait with nothing else asked
  have lost (event : Option LinkEvent) (why : String) (line : Line)
      (hno : ∀ info, event ≠ some (.ipAcquired info)) :
      Shows (Manager.abort why) m fun t' r m' =>
        Step.session.Taken m ([⟨.modem (.log line), ()⟩]
          ++ ([⟨.awaitEvent 90000, event⟩] ++ t')) r m' := by
    refine aborted why [⟨.modem (.log line), ()⟩, ⟨.awaitEvent 90000, event⟩]
      (.waited hno) fun found => ?_
    rcases event with _ | info | _ | code
    · rfl
    · exact absurd rfl (hno info)
    · rfl
    · rfl
  unfold Manager.awaitSession
  rw [ExceptT.run_mk]
  refine Proc.shows_bind.2 (Proc.shows_lift.2
    (Proc.records_ask.2 fun _ => ?_))
  refine Proc.shows_bind.2 (Proc.shows_lift.2
    (Proc.records_ask.2 fun event => ?_))
  rcases event with _ | info | _ | code
  · exact lost _ _ _ fun _ h => nomatch h
  · refine Proc.shows_bind.2 ((shows_setUpResolvers m).mono
      fun t _ m' h => ?_)
    obtain ⟨dns, found, ht, rfl⟩ := h
    refine Proc.shows_bind.2 (Proc.shows_lift.2
      (Proc.records_ask.2 fun confirmed => ?_))
    obtain ⟨part, hp⟩ : ∃ part : Transcript,
        part = [⟨.modem (.log (.info
            s!"Waiting up to {pppConnectTimeout / 1000} s for PPP")), ()⟩,
          ⟨.awaitEvent pppConnectTimeout, some (.ipAcquired info)⟩]
        ++ (t ++ [⟨.record .markConnected, confirmed⟩]) := ⟨_, rfl⟩
    have shown : unlogged part
        = [⟨.awaitEvent 90000, some (.ipAcquired info)⟩,
          ⟨.netif (.setDns m'.settings.dns.primary
            m'.settings.dns.secondary), dns⟩,
          paused 2000,
          ⟨.resolve m'.settings.dns.selfTestHost.text 10000, found⟩,
          ⟨.record .markConnected, confirmed⟩] := by
      rw [hp, unlogged_append, unlogged_append, ht]
      rfl
    have goes : Step.session.Does m' m' part := by
      unfold Step.Does
      rw [shown]
      exact .acquired info dns found confirmed
    have reads (found : Bool) : Step.session.failure found part
        = if confirmed then none else some .pppTimeout := by
      rw [← Step.failure_unlogged, shown]
      cases confirmed <;> rfl
    cases confirmed with
    | true =>
      have taken : Step.session.Taken m' part (.ok () : Except _ Unit)
          m' :=
        Step.taken_of_failure goes (reads _) nofun (fun _ => rfl) rfl
      rw [hp] at taken
      exact taken
    | false =>
      refine (aborted _ part goes reads).mono fun t' r m'' h => ?_
      rw [hp, List.append_assoc, List.append_assoc] at h
      exact h
  · exact lost _ _ _ fun _ h => nomatch h
  · exact lost _ _ _ fun _ h => nomatch h

-- ---------------------------------------------------------- access point

/-- The access point is the one that was there, or the one that the search
(`findAccessPoint`) finds, or there is none. -/
theorem takes_accessPoint :
    Takes .accessPoint Manager.findAccessPoint := by
  intro m
  unfold Manager.findAccessPoint
  rw [ExceptT.run_mk, Proc.shows_bind, Proc.shows_get]
  -- an access point from before is kept, and nothing is sent for it
  split
  next hd =>
    refine Proc.shows_bind.2 (Proc.shows_lift.2
      (Proc.records_ask.2 fun _ => Proc.shows_pure.2 ?_))
    refine Step.taken_of_failure ?_ (if_pos hd) nofun (fun _ => rfl) rfl
    exact Step.Goes.cached hd rfl
  next hd =>
    have hd : m.apn.isDetected = false := Bool.eq_false_iff.2 hd
    refine Proc.shows_bind.2 (Proc.shows_lift.2
      (Proc.records_ask.2 fun _ => ?_))
    refine Proc.shows_bind.2 (shows_session.2
      ((Apn.records_detected _ _).mono fun t x h => ?_))
    obtain ⟨result, apn⟩ := x
    obtain ⟨winner, hs, ho⟩ := h
    -- the search names an access point exactly where it succeeds
    have hfound : apn.isDetected = result.isOk := ho.isDetected_eq hd
    have does (first last : Line) : Step.accessPoint.Does m { m with apn }
        ([⟨.modem (.log first), ()⟩] ++ (t.map Event.ofSession ++
          [⟨.modem (.log last), ()⟩])) := by
      unfold Step.Does
      rw [unlogged_append, unlogged_append,
        unlogged_map]
      show Step.accessPoint.Goes _ _ _ ([] ++ (_ ++ []))
      rw [List.append_nil]
      exact .searched hd hs ho
    cases result with
    | ok source =>
      refine Proc.shows_bind.2 (Proc.shows_set.2 ?_)
      refine Proc.shows_bind.2 (Proc.shows_lift.2
        (Proc.records_ask.2 fun _ => Proc.shows_pure.2 ?_))
      exact Step.taken_of_failure (does _ _) (if_pos hfound) nofun
        (fun h => absurd rfl h) rfl
    | error e =>
      refine Proc.shows_bind.2 (Proc.shows_set.2 ?_)
      refine Proc.shows_bind.2 (Proc.shows_lift.2
        (Proc.records_ask.2 fun _ => Proc.shows_pure.2 ?_))
      have hnone : ¬apn.isDetected = true := by
        rw [hfound]
        exact Bool.false_ne_true
      refine Step.taken_of_failure (does _ _) (if_neg hnone)
        (fun e' he' => ?_) (fun h => absurd rfl h) rfl
      cases he'
      rfl

-- ============================================================ the whole

/-- The program of a connection is the documented steps in a row, but for
the look whether there is a session. -/
theorem walks_sequence :
    Walks (Step.documented.tail) Manager.sequence := by
  refine takes_escape.walks (fun _ => ?_) (by decide) (by decide)
  refine takes_wake.walks (fun _ => ?_) (by decide) (by decide)
  refine takes_signal.walks (fun _ => ?_) (by decide) (by decide)
  refine takes_sim.walks (fun _ => ?_) (by decide) (by decide)
  refine takes_registration.walks (fun _ => ?_) (by decide) (by decide)
  refine takes_accessPoint.walks (fun _ => ?_) (by decide) (by decide)
  refine takes_packetDomain.walks (fun _ => ?_) (by decide) (by decide)
  refine takes_attach.walks (fun _ => ?_) (by decide) (by decide)
  refine takes_context.walks (fun _ => ?_) (by decide) (by decide)
  refine takes_credentials.walks (fun _ => ?_) (by decide) (by decide)
  refine takes_cleanUp.walks (fun _ => ?_) (by decide) (by decide)
  refine takes_forget.walks (fun _ => ?_) (by decide) (by decide)
  refine takes_dial.walks (fun _ => ?_) (by decide) (by decide)
  exact takes_session.walks_last

/-- A connection of a manager with everything set up looks first whether
there is a session. -/
theorem connect_look {m : Manager} (ha : m.active = true) :
    ∃ k, Manager.connect.run m = .call (.record .isConnected) k := by
  cases m
  cases ha
  exact ⟨_, rfl⟩

/-- If there is none, it takes its `Course`. -/
theorem shows_connect {m : Manager} (ha : m.active = true) :
    Shows Manager.connect m fun t r m' =>
      (∃ rest, t = ⟨.record .isConnected, false⟩ :: rest) →
        ∃ body coda, t = body ++ coda
          ∧ Course (Step.Does m m') m'.apn.isDetected Step.documented body r
          ∧ Transcript.calls coda = diagnosis r := by
  unfold Manager.connect
  rw [Proc.shows_bind, Proc.shows_get]
  rw [if_neg (by simp [ha])]
  refine Proc.shows_bind.2 (Proc.shows_lift.2
    (Proc.records_ask.2 fun connected => ?_))
  cases connected with
  | true =>
    refine Proc.shows_bind.2 (Proc.shows_lift.2
      (Proc.records_ask.2 fun _ => Proc.shows_pure.2 ?_))
    rintro ⟨rest, h⟩
    cases h
  | false =>
    refine Proc.shows_bind.2 (Proc.shows_lift.2
      (Proc.records_ask.2 fun _ => ?_))
    refine Proc.shows_bind.2 (Proc.shows_modify.2 ?_)
    refine Proc.shows_bind.2 ((walks_sequence
      { m with recorded := .connecting }).mono fun t r m₁ h => ?_)
    obtain ⟨⟨body, coda, rfl, hc, hcoda⟩, -, -⟩ := h
    -- the look and the line before the first step, then the steps
    have course (m' : Manager) (hm : m'.apn = m₁.apn) :
        Course (Step.Does m m') m'.apn.isDetected Step.documented
          ([⟨.record .isConnected, false⟩,
            ⟨.modem (.log (.info "Connecting GSM")), ()⟩] ++ body) r := by
      refine .passed .looked rfl ?_
      rw [hm]
      exact hc.mono fun k _ part hk =>
        hk.congr rfl (fun _ => rfl) fun _ => hm
    have logged (line : Line) :
        Transcript.calls (coda ++ [⟨.modem (.log line), ()⟩])
          = diagnosis r := by
      rw [Transcript.calls_append, hcoda]
      exact List.append_nil _
    cases r with
    | ok =>
      refine Proc.shows_bind.2 (Proc.shows_modify.2 ?_)
      refine Proc.shows_bind.2 (Proc.shows_lift.2
        (Proc.records_ask.2 fun _ => Proc.shows_pure.2 fun _ => ?_))
      refine ⟨_, _, ?_, course _ rfl, logged (.info "GSM connected")⟩
      simp only [List.append_assoc]
      rfl
    | error e =>
      refine Proc.shows_bind.2 (Proc.shows_lift.2
        (Proc.records_ask.2 fun _ => ?_))
      refine Proc.shows_bind.2 (Proc.shows_modify.2 ?_)
      refine Proc.shows_pure.2 fun _ => ?_
      refine ⟨_, _, ?_, course _ rfl,
        logged (.error ("GSM connect failed: " ++ e.message))⟩
      simp only [List.append_assoc]
      rfl

/-- What is asked for after a failure decides nothing. -/
theorem of_diagnosis {coda : Transcript} {r : Except GsmError Unit}
    (h : coda.calls = diagnosis r) (k : Step) : coda.of k = [] := by
  rw [← Transcript.of_unlogged]
  refine List.filter_eq_nil_iff.2 fun e he => ?_
  have hmem : e.call ∈ diagnosis r := h ▸ List.mem_map_of_mem he
  have hc : e.call = .errorReport
      ∨ e.call = .modem (.switch .command) := by
    unfold diagnosis at hmem
    split at hmem <;> simp_all [or_comm]
  have hd : e.call.decides = none := by
    rcases hc with hc | hc <;> rw [hc] <;> decide
  rw [hd]
  simp

/-- A connection that finds no session returns what the first failing step
of the `documented` order dictates. Its transcript is in the parts of the
steps up to that one, each of which does what the step is there for, and
what is asked for after them is the diagnosis of the result; the reason of
a failure is asked for nowhere else. -/
theorem connect_verdict {σ : Type} {B : Behaviour Surroundings σ}
    {m m' : Manager} {s s' : σ} {t : Transcript}
    {r : Except GsmError Unit} (ha : m.active = true)
    (hdown : ∀ connected s', B (.record .isConnected) s connected s' →
      connected = false)
    (h : Proc.Runs B (Manager.connect.run m) s t (r, m') s') :
    r = verdict Step.documented m'.apn.isDetected t
      ∧ ∃ parts coda, t = parts.flatten ++ coda
        ∧ List.Forall₂ (Step.Does m m')
          (walked m'.apn.isDetected t Step.documented) parts
        ∧ Transcript.calls coda = diagnosis r
        ∧ .errorReport ∉ Transcript.calls parts.flatten := by
  have hlook : ∃ rest, t = ⟨.record .isConnected, false⟩ :: rest := by
    obtain ⟨k, hk⟩ := connect_look ha
    rw [hk] at h
    obtain ⟨connected, s₁, t', rfl, hB, -⟩ := Proc.runs_call_iff.1 h
    obtain rfl := hdown _ _ hB
    exact ⟨t', rfl⟩
  obtain ⟨body, coda, rfl, hc, hcoda⟩ :=
    (shows_connect ha).of_runs h hlook
  obtain ⟨hr, parts, rfl, hparts⟩ := hc.whole (by decide)
    (fun k _ part hk => hk.owned) (of_diagnosis hcoda) [] fun _ _ => rfl
  exact ⟨hr, parts, coda, rfl, hparts, hcoda,
    errorReport_not_mem_parts (fun k part hk => hk.owned) hparts⟩

/-- A manager with everything set up. -/
def ready : Manager :=
  { settings := .standard, active := true, recorded := .idle }

/-- Surroundings where no network is heard. -/
def shielded (call : GsmCall) (l : Link) : call.Answer × Link :=
  match call with
  | .modem .quality => (.ok ⟨99, 99⟩, l)
  | call => obliging call l

/-- Surroundings whose network turns the modem away. -/
def denying (call : GsmCall) (l : Link) : call.Answer × Link :=
  match call with
  | .modem (.exchange ..) => (.ok "+CREG: 0,3\r\n", l)
  | call => obliging call l

/-- Surroundings where no address is ever given out. -/
def addressless (call : GsmCall) (l : Link) : call.Answer × Link :=
  match call with
  | .awaitEvent _ => (none, l)
  | call => obliging call l

/-- A connection of a manager that is `ready` comes to this, as the order
dictates, and the steps up to the one that decides go as listed. -/
def ComesTo (answer : (call : GsmCall) → Link → call.Answer × Link)
    (r : Except GsmError Unit) : Prop :=
  ∃ t m' l', Proc.Runs (Behaviour.of answer) (Manager.connect.run ready)
      {} t (r, m') l'
    ∧ r = verdict Step.documented m'.apn.isDetected t
    ∧ ∃ parts coda, t = parts.flatten ++ coda
      ∧ List.Forall₂ (Step.Does ready m')
        (walked m'.apn.isDetected t Step.documented) parts
      ∧ Transcript.calls coda = diagnosis r

/-- Four ways `connect` ends: with a session, without a signal, turned
away, and without an address. -/
theorem connect_verdict_ways :
    ComesTo obliging (.ok ()) ∧ ComesTo shielded (.error .noSignal)
      ∧ ComesTo denying (.error .registrationDenied)
      ∧ ComesTo addressless (.error .pppTimeout) := by
  have each {answer : (call : GsmCall) → Link → call.Answer × Link}
      {r : Except GsmError Unit}
      (hr : ((Manager.connect.run ready).run answer {}).1.1 = r)
      (hdown : (answer (.record .isConnected) {}).1 = false) :
      ComesTo answer r := by
    obtain ⟨t, h⟩ := Proc.runs_of_answer answer
      (Manager.connect.run ready) {}
    generalize (Manager.connect.run ready).run answer {} = x at hr h
    obtain ⟨⟨_, m'⟩, l'⟩ := x
    obtain rfl := hr
    have hlooked (connected : Bool) (l' : Link)
        (hc : (Behaviour.of answer : Behaviour Surroundings Link)
          (.record .isConnected) {} connected l') : connected = false :=
      (congrArg Prod.fst hc).symm.trans hdown
    obtain ⟨hverdict, parts, coda, ht, hparts, hcoda, -⟩ :=
      connect_verdict rfl hlooked h
    exact ⟨t, m', l', h, hverdict, parts, coda, ht, hparts, hcoda⟩
  refine ⟨each ?_ rfl, each ?_ rfl, each ?_ rfl, each ?_ rfl⟩
  · decide +kernel
  · decide +kernel
  · decide +kernel
  · decide +kernel

end Uplink.Gsm
