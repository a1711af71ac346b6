/-
What the steps of a connection ask for.

# The steps

`Step.documented` lists what a connection goes through, in order. Each
step owns a few calls, arguments and times included; what is logged and
the pauses belong to none. `Step.Within` says of a program of the command
channel that it keeps to the calls of one step, and each such program is
shown to.

# Passive programs

Most of what the manager does leaves alone what it records of the link,
and what it asks for can be bounded: `Passive`. A contract that is
preserved by these calls is then preserved by the program
(`Spares.leads`), whatever the contract is about. Between the escape
and the dial a connection is passive throughout, which is what
`ensures_sequence` says once for all contracts.
-/
import Uplink.Gsm.Manager
import Uplink.Proofs.Contract

namespace Uplink.Gsm

open Modem (Session SessionCall)
open Timing

variable {α β ε σ : Type}

/-- The call belongs to no step. -/
def GsmCall.silent : GsmCall → Bool
  | modem (.log _) => true
  | modem (.pause _) => true
  | _ => false

def GsmCall.isLog : GsmCall → Bool
  | modem (.log _) => true
  | _ => false

/-- The call gives the interface no credentials. -/
def GsmCall.keyless : GsmCall → Bool
  | netif (.setAuth ..) => false
  | _ => true

/-- A command that ends with `OK` or `ERROR`. -/
def GsmCall.query (command : String) (timeout : Nat) : GsmCall :=
  modem (.exchange command "OK" "ERROR" timeout)

/-- The request for the reason of a failure. -/
def GsmCall.errorReport : GsmCall :=
  query "AT+CEER" errorReportTimeout

/-- The calls of the manager but for the log. -/
def Manager.unlogged (t : List (Event Surroundings)) :
    List (Event Surroundings) :=
  t.filter fun e => !e.call.isLog

theorem Manager.unlogged_append (t t' : List (Event Surroundings)) :
    unlogged (t ++ t') = unlogged t ++ unlogged t' :=
  List.filter_append t t'

-- ============================================================= the steps

/-- The steps of a connection. -/
inductive Step where
  | look
  | escape
  | wake
  | signal
  | sim
  | registration
  | accessPoint
  | packetDomain
  | attach
  | context
  | credentials
  | cleanUp
  | forget
  | dial
  | session
deriving DecidableEq, Repr

namespace Step

/-- The order they are documented in. -/
def documented : List Step :=
  [look, escape, wake, signal, sim, registration, accessPoint,
   packetDomain, attach, context, credentials, cleanUp, forget, dial,
   session]

/-- The calls of a step. -/
def owns : Step → GsmCall → Prop
  | look, c => c = .record .isConnected
  | escape, c =>
    c = .query Modem.escapeSequence escapeTimeout
      ∨ c = .modem (.switch .command)
  | wake, c => c = .query "AT" probeTimeout
  | signal, c => c = .query "AT+CFUN?" queryTimeout ∨ c = .modem .quality
  | sim, c => c = .query "AT+CPIN?" queryTimeout
  | registration, c => c = .query "AT+CREG?" queryTimeout
  | accessPoint, c =>
    c = .query "AT+CGDCONT=1,\"IP\",\"\"" Apn.contextSetTimeout
      ∨ c = .query "AT+CGDCONT?" Apn.contextReadTimeout
      ∨ c = .query "AT+CIMI" Apn.identityTimeout
      ∨ c = .query "AT+COPS=3,2" Apn.operatorTimeout
      ∨ c = .query "AT+COPS?" Apn.operatorTimeout
  | packetDomain, c => c = .query "AT+CGREG?" queryTimeout
  | attach, c =>
    c = .query "AT+CGATT?" queryTimeout
      ∨ c = .query "AT+CGATT=1" attachTimeout
  | context, c =>
    ∃ apn, c = .query (Steps.contextCommand apn) contextTimeout
  | credentials, c => ∃ user password, c = .netif (.setAuth user password)
  | cleanUp, c => c = .query "AT+CGACT=0,1" contextDeactivateTimeout
  | forget, c => c = .record .resetEvents
  | dial, c => c = .modem (.switch .data)
  | session, c =>
    c = .awaitEvent pppConnectTimeout
      ∨ (∃ primary secondary, c = .netif (.setDns primary secondary))
      ∨ (∃ host, c = .resolve host dnsSelfTestTimeout)
      ∨ c = .record .markConnected

end Step

/-- The command that defines a context is longer than its name by twenty
characters. -/
theorem contextCommand_length (apn : String) :
    (Steps.contextCommand apn).length = apn.length + 20 := by
  unfold Steps.contextCommand
  rw [String.length_append, String.length_append]
  have h : "AT+CGDCONT=1,\"IP\",\"".length = 19 := by decide
  have h' : "\"".length = 1 := by decide
  omega

/-- So it is none of the short ones, whatever the name. -/
theorem contextCommand_ne {command : String} (h : command.length < 20)
    (apn : String) : Steps.contextCommand apn ≠ command := by
  intro he
  have hl := contextCommand_length apn
  rw [he] at hl
  omega

-- ============================================ programs of the channel

/-- The call may be made in this step. -/
def Step.covers (k : Step) (c : GsmCall) : Prop :=
  c.silent = true ∨ k.owns c

/-- The program makes calls of this step only. -/
abbrev Step.Within (k : Step) (p : Proc Session α) : Prop :=
  p.Asks fun c => k.covers (.modem c)

namespace Step

variable {k : Step}

theorem within_log (k : Step) (line : Line) :
    k.Within (Session.log line) :=
  Proc.asks_ask.2 (.inl rfl)

theorem within_pause (k : Step) (ms : Nat) :
    k.Within (Session.pause ms) :=
  Proc.asks_ask.2 (.inl rfl)

/-- A command of the step, and whatever is done about its answer. -/
theorem within_query {command : String} {timeout : Nat}
    (hk : k.owns (.query command timeout))
    {f : Except Modem.ChannelError Modem.Response → Proc Session α}
    (hf : ∀ r, k.Within (f r)) :
    k.Within (Session.query command timeout >>= f) :=
  Proc.asks_bind (Proc.asks_ask.2 (.inr hk)) hf

-- --------------------------------------------------- the advisory steps

theorem within_forceCommandMode :
    Step.escape.Within Steps.forceCommandMode := by
  have escape : Step.escape.Within Steps.sendEscape := by
    refine within_query ?_ fun r => ?_
    · exact .inl rfl
    · cases r with
      | ok => trivial
      | error e => trivial
  refine Proc.asks_bind escape fun r => ?_
  cases r with
  | ok => exact within_log _ _
  | error e =>
    refine Proc.asks_bind (within_log _ _) fun _ => ?_
    refine Proc.asks_bind (Proc.asks_ask.2 (.inr (.inr rfl))) fun r => ?_
    cases r with
    | ok => trivial
    | error e => exact within_log _ _

theorem within_checkSim : Step.sim.Within Steps.checkSim := by
  refine within_query ?_ fun r => ?_
  · exact rfl
  have rest (ready : Bool) : Step.sim.Within
      (if ready then Session.log (.info "SIM ready")
      else do
        Session.log
          (.warn s!"SIM not ready, waiting {simNotReadyDelay} ms")
        Session.pause simNotReadyDelay) := by
    cases ready with
    | true => exact within_log _ _
    | false =>
      exact Proc.asks_bind (within_log _ _) fun _ => within_pause _ _
  cases r with
  | ok response => exact rest _
  | error e => exact Proc.asks_bind (within_log _ _) fun _ => rest false

/-- Polling for registration asks for it and nothing else. -/
theorem within_pollRegistration {command marker : String}
    (hk : k.owns (.query command queryTimeout)) (budget interval : Nat) :
    k.Within (Steps.pollRegistration command marker budget interval) := by
  refine Proc.asks_bind (Proc.asks_retry (fun number last => ?_)
    (fun _ => within_pause k interval) _ _ _) fun r => ?_
  · refine within_query hk fun r => ?_
    cases r with
    | ok response =>
      refine Proc.asks_bind (within_log _ _) fun _ => ?_
      split
      · trivial
      · split
        · trivial
        · split <;> trivial
    | error e => exact Proc.asks_bind (within_log _ _) fun _ => trivial
  · cases r with
    | ok settled => trivial
    | error last => trivial

theorem within_waitForGprs :
    Step.packetDomain.Within Steps.waitForGprs := by
  refine Proc.asks_bind (within_log _ _) fun _ => ?_
  refine Proc.asks_bind (within_pollRegistration ?_ _ _) fun r => ?_
  · exact rfl
  · cases r with
    | ok state => exact within_log _ _
    | error last => exact within_log _ _

theorem within_ensureAttached :
    Step.attach.Within Steps.ensureAttached := by
  refine within_query ?_ fun r => ?_
  · exact .inl rfl
  -- a query that failed counts as not being attached
  cases r
  case' error e => refine Proc.asks_bind (within_log _ _) fun _ => ?_
  all_goals
    refine Proc.asks_bind (Proc.asks_done _) fun attached => ?_
    cases attached with
    | true => exact within_log _ _
    | false =>
      refine Proc.asks_bind (within_log _ _) fun _ => ?_
      refine within_query ?_ fun r => ?_
      · exact .inr rfl
      · cases r with
        | ok => exact within_pause _ _
        | error e =>
          exact Proc.asks_bind (within_log _ _) fun _ =>
            within_pause _ _

/-- Defining the context is a command, unless it is too long. -/
theorem asks_configureContext {P : SessionCall → Prop} {apn : String}
    (hq : P (.exchange (Steps.contextCommand apn) "OK" "ERROR"
      contextTimeout))
    (hl : ∀ line, P (.log line)) : (Steps.configureContext apn).Asks P := by
  unfold Steps.configureContext
  dsimp only
  split
  · refine Proc.asks_bind (Proc.asks_ask.2 hq) fun r => ?_
    cases r with
    | ok => exact Proc.asks_ask.2 (hl _)
    | error e => exact Proc.asks_ask.2 (hl _)
  · exact Proc.asks_ask.2 (hl _)

theorem within_configureContext (apn : String) :
    Step.context.Within (Steps.configureContext apn) :=
  asks_configureContext (.inr ⟨_, rfl⟩) fun _ => .inl rfl

theorem within_deactivateContext :
    Step.cleanUp.Within Steps.deactivateContext := by
  refine within_query ?_ fun r => ?_
  · exact rfl
  · cases r with
    | ok => trivial
    | error e => exact within_log _ _

-- -------------------------------------------------- the steps that decide

theorem within_wakeUp : Step.wake.Within Steps.wakeUp := by
  refine Proc.asks_bind (Proc.asks_retry (fun number _ => ?_)
    (fun _ => within_pause _ _) _ _ _) fun r => ?_
  · refine within_query ?_ fun r => ?_
    · exact rfl
    · cases r with
      | ok => exact Proc.asks_bind (within_log _ _) fun _ => trivial
      | error e => exact Proc.asks_bind (within_log _ _) fun _ => trivial
  · cases r with
    | ok => trivial
    | error => exact Proc.asks_bind (within_log _ _) fun _ => trivial

/-- Reporting the functionality level is a command and a line. -/
theorem asks_reportFunctionality {P : SessionCall → Prop}
    (hq : P (.exchange "AT+CFUN?" "OK" "ERROR" queryTimeout))
    (hl : ∀ line, P (.log line)) : Steps.reportFunctionality.Asks P := by
  refine Proc.asks_bind (Proc.asks_ask.2 hq) fun r => ?_
  cases r with
  | ok response =>
    dsimp only
    split
    · exact Proc.asks_ask.2 (hl _)
    · exact Proc.asks_ask.2 (hl _)
  | error e => exact Proc.asks_ask.2 (hl _)

theorem within_readSignal : Step.signal.Within Steps.readSignal := by
  refine Proc.asks_bind (Proc.asks_ask.2 (.inr (.inr rfl))) fun r => ?_
  cases r with
  | ok reading =>
    obtain ⟨rssi, ber⟩ := reading
    dsimp only
    split
    · exact Proc.asks_bind (within_log _ _) fun _ => trivial
    · split <;> exact Proc.asks_bind (within_log _ _) fun _ => trivial
  | error e => exact Proc.asks_bind (within_log _ _) fun _ => trivial

theorem within_checkSignal : Step.signal.Within Steps.checkSignal :=
  Proc.asks_bind
    (asks_reportFunctionality (.inr (.inl rfl)) fun _ => .inl rfl)
    fun _ => within_readSignal

theorem within_waitForRegistration :
    Step.registration.Within Steps.waitForRegistration := by
  refine Proc.asks_bind (within_log _ _) fun _ => ?_
  refine Proc.asks_bind (within_pollRegistration ?_ _ _) fun r => ?_
  · exact rfl
  · dsimp only
    split <;> exact Proc.asks_bind (within_log _ _) fun _ => trivial

theorem within_enterDataMode :
    Step.dial.Within Steps.enterDataMode := by
  refine Proc.asks_bind (Proc.asks_retry (fun number _ => ?_)
    (fun _ => within_pause _ _) _ _ _) fun r => ?_
  · refine Proc.asks_bind (Proc.asks_ask.2 (.inr rfl)) fun r => ?_
    cases r with
    | ok => exact Proc.asks_bind (within_log _ _) fun _ => trivial
    | error e => exact Proc.asks_bind (within_log _ _) fun _ => trivial
  · cases r with
    | ok => trivial
    | error => trivial

-- ---------------------------------------------------------- access point

/-- What was spoken is logged. -/
theorem speak_cons (a : α) (line : Line) (rest : List Line) :
    Session.speak ⟨a, line :: rest⟩
      = Session.log line >>= fun _ => Session.speak ⟨a, rest⟩ := by
  simp [Session.speak]

theorem within_speak (k : Step) (spoken : Spoken α) :
    k.Within (Session.speak spoken) := by
  obtain ⟨a, lines⟩ := spoken
  induction lines with
  | nil => trivial
  | cons line rest ih =>
    rw [speak_cons]
    exact Proc.asks_bind (within_log _ _) fun _ => ih

/-- Whatever is found in the directory is only logged. -/
theorem within_ofRecord (k : Step) (found : Option Apn.Record) :
    k.Within (match found with
      | none => pure none
      | some r => Session.speak (Apn.Candidate.ofRecord? r)
      : Proc Session (Option Apn.Candidate)) := by
  cases found with
  | none => trivial
  | some r => exact within_speak _ _

/-- Each `Strategy` searches by calls of the step. -/
theorem within_find (guesses : List Apn.Name) (strategy : Apn.Strategy) :
    Step.accessPoint.Within (strategy.find guesses) := by
  cases strategy with
  | moduleAutoDetect =>
    refine within_query ?_ fun r => ?_
    · exact .inl rfl
    · cases r with
      | error e => exact Proc.asks_bind (within_log _ _) fun _ => trivial
      | ok =>
        refine within_query ?_ fun r => ?_
        · exact .inr (.inl rfl)
        · cases r with
          | error e => trivial
          | ok response => trivial
  | simRead =>
    refine within_query ?_ fun r => ?_
    · exact .inr (.inl rfl)
    · cases r with
      | error e => exact Proc.asks_bind (within_log _ _) fun _ => trivial
      | ok response => trivial
  | imsiLookup =>
    refine Proc.asks_bind (Proc.asks_retry (fun number _ => ?_)
      (fun _ => within_pause _ _) _ _ _) fun r => ?_
    · refine within_query ?_ fun r => ?_
      · exact .inr (.inr (.inl rfl))
      · cases r with
        | error e =>
          exact Proc.asks_bind (within_log _ _) fun _ => trivial
        | ok response =>
          dsimp only
          split
          · trivial
          · exact Proc.asks_bind (within_log _ _) fun _ => trivial
    · cases r with
      | error => trivial
      | ok identity =>
        exact Proc.asks_bind (within_log _ _) fun _ =>
          within_ofRecord _ _
  | operatorLookup =>
    refine within_query ?_ fun r => ?_
    · exact .inr (.inr (.inr (.inl rfl)))
    -- the format that was asked for is not insisted on
    cases r
    case' error e => refine Proc.asks_bind (within_log _ _) fun _ => ?_
    all_goals
      refine within_query ?_ fun r => ?_
      · exact .inr (.inr (.inr (.inr rfl)))
      · cases r with
        | error e => trivial
        | ok response =>
          dsimp only
          split
          · trivial
          · exact Proc.asks_bind (within_log _ _) fun _ =>
              within_ofRecord _ _
  | genericFallback =>
    show Step.accessPoint.Within (Apn.genericFallback guesses)
    unfold Apn.genericFallback
    split
    · trivial
    · exact Proc.asks_bind (within_log _ _) fun _ => trivial

/-- The search asks for calls of its step only. -/
theorem within_detect (guesses : List Apn.Name) (c : Apn.Chosen) :
    Step.accessPoint.Within (Apn.detect guesses c) := by
  refine Proc.asks_bind (within_log _ _) fun _ => ?_
  induction Apn.Strategy.all generalizing c with
  | nil => exact Proc.asks_bind (within_log _ _) fun _ => trivial
  | cons strategy rest ih =>
    refine Proc.asks_bind (within_log _ _) fun _ => ?_
    refine Proc.asks_bind (within_find guesses strategy) fun found => ?_
    cases found with
    | none => exact Proc.asks_bind (within_log _ _) fun _ => ih c
    | some found =>
      refine Proc.asks_bind (within_speak _ _) fun after => ?_
      obtain ⟨accepted, chosen⟩ := after
      cases accepted with
      | true => exact Proc.asks_bind (within_log _ _) fun _ => trivial
      | false => exact ih chosen

end Step

/-- What a conversation with the modem asks for, it asks for amid the
surroundings. -/
theorem Surroundings.asks_ofSession {P : GsmCall → Prop}
    {p : Proc Session α} (hp : p.Asks fun c => P (.modem c)) :
    (ofSession p).Asks P :=
  hp.within fun _ hc => Proc.asks_ask.2 hc

/-- Where the channel may be asked for anything, so may any program of
it. -/
theorem Surroundings.asks_channel {P : GsmCall → Prop}
    (h : ∀ c, P (.modem c)) (p : Proc Session α) : (ofSession p).Asks P :=
  asks_ofSession (Proc.asks_of_forall h p)

/-- Conversations follow one another amid the surroundings as they do
alone. -/
theorem Surroundings.ofSession_bind (p : Proc Session α)
    (f : α → Proc Session β) :
    ofSession (p >>= f) = ofSession p >>= fun a => ofSession (f a) := by
  induction p with
  | done a => rfl
  | call c k ih =>
    exact congrArg (Proc.call (I := Surroundings) (.modem c)) (funext ih)

/-- What a contract says about the command channel. -/
def channelOf (C : Contract Surroundings σ) : Contract Session σ :=
  ⟨fun c s => C.allows (.modem c) s,
    fun c s r s' => C.moves (.modem c) s r s'⟩

/-- A conversation meets a `Contract` on the surroundings exactly if it
meets what that says about the channel. -/
theorem Surroundings.meets_ofSession {C : Contract Surroundings σ}
    {p : Proc Session α} {s : σ} {Q : α → σ → Prop} :
    (ofSession p).Meets C s Q ↔ p.Meets (channelOf C) s Q := by
  induction p generalizing s with
  | done a => rfl
  | call c k ih =>
    constructor
    · intro h
      exact ⟨h.1, fun r s' hr => (ih r).1 (h.2 r s' hr)⟩
    · intro h
      exact ⟨h.1, fun r s' hr => (ih r).2 (h.2 r s' hr)⟩

-- ==================================================== passive programs

namespace Manager

open Proc (Either Ensures)

/-- What the manager records of the link. -/
def standing (m : Manager) : Bool × GsmState × Option GsmError :=
  (m.active, m.recorded, m.lastError)

theorem active_of_standing {m m' : Manager}
    (h : m'.standing = m.standing) : m'.active = m.active :=
  congrArg (·.1) h

/-- Conversations of the manager can be taken together. -/
theorem session_bind (p : Proc Session α) (f : α → Proc Session β) :
    session (p >>= f) = session p >>= fun a => session (f a) := by
  unfold session
  rw [Surroundings.ofSession_bind]
  funext m
  show (Surroundings.ofSession p >>= _) >>= _
    = (Surroundings.ofSession p >>= _) >>= _
  rw [Proc.bind_assoc, Proc.bind_assoc]
  rfl

/-- The program asks for these calls only, and leaves alone what `view`
shows of the manager. -/
def Spares {κ : Type} (view : Manager → κ) (P : GsmCall → Prop)
    (act : Act α) : Prop :=
  ∀ m, (act.run m).Stays P fun x => view x.2 = view m

/-- The program leaves alone what the manager records of the link. -/
abbrev Passive (P : GsmCall → Prop) (act : Act α) : Prop :=
  Spares standing P act

/-- The program asks for these calls only, whatever it does with the
manager. -/
abbrev Only (P : GsmCall → Prop) (act : Act α) : Prop :=
  Spares (fun _ => ()) P act

variable {κ : Type} {view : Manager → κ} {P P' : GsmCall → Prop}

theorem passive_pure (a : α) : Spares view P (pure a) :=
  fun _ => rfl

theorem passive_get : Spares view P get :=
  fun _ => rfl

/-- To change what `view` does not show spares it. -/
theorem passive_modify {f : Manager → Manager}
    (hf : ∀ m, view (f m) = view m) : Spares view P (modify f) :=
  fun m => hf m

theorem Spares.bind {act : Act α} {f : α → Act β}
    (h : Spares view P act) (hf : ∀ a, Spares view P (f a)) :
    Spares view P (act >>= f) :=
  fun m => Proc.stays_bind (h m) fun x hx =>
    (hf x.1 x.2).mono (fun _ hc => hc) fun _ hy => hy.trans hx

theorem Spares.mono {act : Act α} (h : Spares view P act)
    (hP : ∀ c, P c → P' c) : Spares view P' act :=
  fun m => (h m).mono hP fun _ hx => hx

/-- Calls alone spare every view of the manager. -/
theorem passive_lift {p : Proc Surroundings α} (hp : p.Asks P) :
    Spares view P (StateT.lift p) :=
  fun _ => Proc.stays_bind hp fun _ _ => rfl

theorem passive_ask {call : GsmCall} (hc : P call) :
    Spares view P (ask call) :=
  passive_lift (Proc.asks_ask.2 hc)

/-- A conversation with the modem spares every view of the manager. -/
theorem passive_session {p : Proc Session α}
    (hp : p.Asks fun c => P (.modem c)) : Spares view P (session p) :=
  passive_lift (Surroundings.asks_ofSession hp)

-- ------------------------------------------------- programs that can fail

theorem Spares.attempt {act : Act α} (h : Spares view P act) :
    Spares view P (ExceptT.lift act : ExceptT ε Act α).run :=
  h.bind fun _ => passive_pure _

theorem Spares.attempt_bind {act : ExceptT ε Act α}
    {f : α → ExceptT ε Act β} (h : Spares view P act.run)
    (hf : ∀ a, Spares view P (f a).run) :
    Spares view P (act >>= f).run := by
  refine Spares.bind h fun r => ?_
  cases r with
  | ok a => exact hf a
  | error e => exact passive_pure _

/-- Asking the modem why is one command. -/
theorem asks_reportModemError {P : SessionCall → Prop}
    (hq : P (.exchange "AT+CEER" "OK" "ERROR" errorReportTimeout))
    (hl : ∀ line, P (.log line)) : Steps.reportModemError.Asks P := by
  refine Proc.asks_bind (Proc.asks_ask.2 hq) fun r => ?_
  cases r with
  | ok response => exact Proc.asks_ask.2 (hl _)
  | error e => exact Proc.asks_ask.2 (hl _)

theorem passive_channel (h : ∀ c, P (.modem c)) (p : Proc Session α) :
    Spares view P (session p) :=
  passive_lift (Surroundings.asks_channel h p)

theorem passive_channel_reported (h : ∀ c, P (.modem c))
    (p : Proc Session (Except GsmError Unit)) :
    Spares view P (reported p).run := by
  refine (passive_channel h p).bind fun r => ?_
  cases r with
  | ok => exact passive_pure _
  | error e => exact (passive_channel h _).bind fun _ => passive_pure _

/-- A step that reports its failure makes its own calls, and asks for the
reason of the failure. -/
theorem spares_reported {k : Step}
    {p : Proc Session (Except GsmError Unit)} (hp : k.Within p) :
    Spares view (fun c => c = .errorReport ∨ k.covers c)
      (reported p).run := by
  refine (passive_session (hp.mono fun _ => .inr)).bind fun r => ?_
  cases r with
  | ok => exact passive_pure _
  | error e =>
    have why : Steps.reportModemError.Asks
        fun c => GsmCall.modem c = .errorReport ∨ k.covers (.modem c) :=
      asks_reportModemError (.inl rfl) fun _ => .inr (.inl rfl)
    exact (passive_session why).bind fun _ => passive_pure _

theorem passive_reported {k : Step}
    {p : Proc Session (Except GsmError Unit)} (hp : k.Within p) :
    Passive (fun c => c = .errorReport ∨ k.covers c)
      (reported p).run :=
  spares_reported hp

-- ------------------------------------------------ the steps and the rest

/-- The view does not show the last signal reading. -/
abbrev Unread (view : Manager → κ) : Prop :=
  ∀ m rssi, view { m with cachedSignal := rssi } = view m

/-- To read the signal and to keep it spares any view that does not show
the last reading. -/
theorem spares_keepSignal (hv : Unread view) :
    Spares view Step.signal.covers keepSignal.run := by
  refine Spares.attempt_bind (passive_session Step.within_checkSignal)
    fun reading => ?_
  cases reading with
  | none => exact passive_pure _
  | some rssi =>
    have kept : Spares view Step.signal.covers
        (modify fun m => { m with cachedSignal := rssi }) :=
      passive_modify fun m => hv m rssi
    exact kept.attempt

theorem passive_keepSignal : Passive Step.signal.covers keepSignal.run :=
  spares_keepSignal fun _ _ => rfl

/-- The search changes nothing that the manager records of the link. -/
theorem passive_findAccessPoint :
    Passive Step.accessPoint.covers findAccessPoint.run := by
  have logged (line : Line) {β : Type} (b : β) :
      Passive Step.accessPoint.covers (log line >>= fun _ => pure b) :=
    (passive_ask (.inl rfl)).bind fun _ => passive_pure _
  intro m
  unfold findAccessPoint
  rw [ExceptT.run_mk, StateT.run_bind]
  show ((if m.apn.isDetected then _ else _ : Act _).run m).Stays _ _
  split
  · exact logged _ _ m
  · have asked : Passive Step.accessPoint.covers
        (log (.info "Detecting APN")) := passive_ask (.inl rfl)
    have detected : Passive Step.accessPoint.covers
        (session (Apn.detect m.settings.fallbackApns m.apn)) :=
      passive_session (Step.within_detect _ _)
    refine Proc.stays_bind (asked m) fun x hx => ?_
    refine Proc.stays_bind (detected x.2) fun y hy => ?_
    -- the manager that was read first is written back, but for its
    -- access point
    obtain ⟨⟨r, apn⟩, m₂⟩ := y
    cases r with
    | ok source => exact logged _ _ { m with apn }
    | error e => exact logged _ _ { m with apn }

/-- To give credentials (`authenticate`) changes nothing of the manager. -/
theorem passive_authenticate :
    Spares view Step.credentials.covers authenticate := by
  refine passive_get.bind fun m => ?_
  show Spares view _ (if m.apn.hasCredentials then _ else _)
  split
  · refine (passive_ask (.inr ⟨_, _, rfl⟩)).bind fun r => ?_
    cases r with
    | ok => exact passive_ask (.inl rfl)
    | error e => exact passive_ask (.inl rfl)
  · exact passive_pure _

theorem passive_configureContext :
    Passive Step.context.covers configureContext :=
  passive_get.bind fun _ =>
    passive_session (Step.within_configureContext _)

/-- What is asked for to set the resolvers up. -/
def resolves (c : GsmCall) : Prop :=
  c.silent = true ∨ (∃ primary secondary, c = .netif (.setDns primary
    secondary)) ∨ ∃ host timeout, c = .resolve host timeout

/-- To set resolvers up (`setUpResolvers`) changes nothing of the
manager. -/
theorem spares_setUpResolvers : Spares view resolves setUpResolvers := by
  refine passive_get.bind fun m => ?_
  refine (passive_ask (.inr (.inl ⟨_, _, rfl⟩))).bind fun r => ?_
  -- whether the resolvers were taken only decides which line is logged
  rcases r with e | _ <;>
    refine (passive_ask (.inl rfl)).bind fun _ =>
      (passive_ask (.inl rfl)).bind fun _ =>
      (passive_ask (.inr (.inr ⟨_, _, rfl⟩))).bind fun found => ?_
  all_goals
    rcases found with _ | e | address <;> exact passive_ask (.inl rfl)

theorem passive_setUpResolvers : Passive resolves setUpResolvers :=
  spares_setUpResolvers

/-- What is asked for to give a connection up. -/
def aborts (c : GsmCall) : Prop :=
  c.silent = true ∨ c = .modem (.switch .command) ∨ c = .errorReport

/-- To give a session up is to leave data mode and to ask for the
reason. -/
theorem asks_abortDataSession {P : SessionCall → Prop}
    (hs : P (.switch .command))
    (hq : P (.exchange "AT+CEER" "OK" "ERROR" errorReportTimeout))
    (hl : ∀ line, P (.log line)) : Steps.abortDataSession.Asks P := by
  have why : Steps.reportModemError.Asks P := asks_reportModemError hq hl
  refine Proc.asks_bind (Proc.asks_ask.2 hs) fun r => ?_
  cases r with
  | ok => exact why
  | error e =>
    exact Proc.asks_bind (Proc.asks_ask.2 (hl _)) fun _ => why

/-- To give a connection up (`abort`) changes nothing of the manager. -/
theorem spares_abort (why : String) : Spares view aborts (abort why) := by
  have asked : Steps.abortDataSession.Asks fun c => aborts (.modem c) :=
    asks_abortDataSession (.inr (.inl rfl)) (.inr (.inr rfl))
      fun _ => .inl rfl
  exact (passive_ask (.inl rfl)).bind fun _ =>
    (passive_session asked).bind fun _ => passive_pure _

theorem passive_abort (why : String) : Passive aborts (abort why) :=
  spares_abort why

/-- What is asked for to have a session come up. -/
def concludes (c : GsmCall) : Prop :=
  resolves c ∨ aborts c ∨ (∃ timeout, c = .awaitEvent timeout)
    ∨ c = .record .markConnected

/-- The wait for a session changes nothing of the manager, however it
ends. -/
theorem spares_awaitSession :
    Spares view concludes awaitSession.run := by
  have aborting (why : String) : Spares view concludes (abort why) :=
    (spares_abort why).mono fun _ hc => .inr (.inl hc)
  unfold awaitSession
  rw [ExceptT.run_mk]
  refine (passive_ask (.inl (.inl rfl))).bind fun _ => ?_
  refine (passive_ask (.inr (.inr (.inl ⟨_, rfl⟩)))).bind fun event => ?_
  rcases event with _ | info | _ | code
  · exact aborting _
  · refine (spares_setUpResolvers.mono fun _ hc => .inl hc).bind
      fun _ => ?_
    refine (passive_ask (.inr (.inr (.inr rfl)))).bind fun confirmed => ?_
    cases confirmed with
    | true => exact passive_pure _
    | false => exact aborting _
  · exact aborting _
  · exact aborting _

theorem passive_awaitSession : Passive concludes awaitSession.run :=
  spares_awaitSession

/-- What is asked for to reset the modem. -/
def resets (c : GsmCall) : Prop :=
  c.silent = true ∨ ∃ pin high, c = .drive pin high

/-- A `pulse` changes nothing of the manager. -/
theorem passive_pulse : Spares view resets pulse := by
  have drive (pin : Pin) (high : Bool) :
      Spares view resets (ExceptT.mk (ask (.drive pin high))).run :=
    passive_ask (.inr ⟨pin, high, rfl⟩)
  have wait (ms : Nat) : Spares view resets
      (liftM (pause ms) : ExceptT PinFault Act Unit).run :=
    Spares.attempt (passive_ask (.inl rfl))
  exact (drive _ _).attempt_bind fun _ => (wait _).attempt_bind fun _ =>
    (drive _ _).attempt_bind fun _ => (wait _).attempt_bind fun _ =>
    (drive _ _).attempt_bind fun _ => (wait _).attempt_bind fun _ =>
    drive _ _

/-- Nor do any number of them. -/
theorem passive_pulseUntilComplete (left number : Nat) :
    Spares view resets (pulseUntilComplete left number) := by
  induction left generalizing number with
  | zero => exact passive_pure _
  | succ left ih =>
    refine passive_pulse.bind fun r => ?_
    cases r with
    | ok => exact passive_pure _
    | error e =>
      dsimp only
      split
      · exact (passive_ask (.inl rfl)).bind fun _ => ih _
      · exact (passive_ask (.inl rfl)).bind fun _ => ih _

/-- While the modem is reset, that is recorded and nothing else. -/
theorem stays_hardwareReset (m : Manager) :
    (hardwareReset.run m).Stays resets fun x =>
      x.2 = { m with recorded := .hardwareReset } := by
  have rest : Spares id resets (do
      log (.info "Resetting modem")
      pulseUntilComplete hardwareResetAttempts 1
      pause bootWait) :=
    (passive_ask (.inl rfl)).bind fun _ =>
      (passive_pulseUntilComplete _ _).bind fun _ => passive_ask (.inl rfl)
  exact rest { m with recorded := .hardwareReset }

/-- What is asked for to set everything up, or to take it down. -/
def builds (c : GsmCall) : Prop :=
  c.silent = true ∨ (∃ call, c = .netif call) ∨ ∃ uart, c = .build uart

/-- The view shows neither whether a channel exists nor how far the link
is. -/
structure Unmoved (view : Manager → κ) : Prop where
  active : ∀ m on, view { m with active := on } = view m
  recorded : ∀ m state, view { m with recorded := state } = view m

theorem unmoved_unit : Unmoved fun _ => () :=
  ⟨fun _ _ => rfl, fun _ _ => rfl⟩

/-- To build the parts (`build`) spares what shows neither the channel nor
how far the link is. -/
theorem spares_build (hv : Unmoved view) :
    Spares view (fun c => builds c ∧ c.keyless = true) build := by
  let P (c : GsmCall) : Prop := builds c ∧ c.keyless = true
  have said (line : Line) : Spares view P (log line) :=
    passive_ask ⟨.inl rfl, rfl⟩
  have netif (call : NetifCall)
      (hc : (GsmCall.netif call).keyless = true) :
      Spares view P (ask (.netif call)) :=
    passive_ask ⟨.inr (.inl ⟨call, rfl⟩), hc⟩
  have refused (stage : InitStage) : Spares view P (refuse stage) :=
    Spares.bind (passive_modify fun m => hv.recorded m _) fun _ =>
      passive_pure _
  refine passive_get.bind fun m => ?_
  refine (netif .create rfl).bind fun created => ?_
  cases created with
  | error e => exact (said _).bind fun _ => refused _
  | ok =>
    refine (netif .subscribe rfl).bind fun subscribed => ?_
    cases subscribed with
    | error e =>
      exact (said _).bind fun _ => (netif .destroy rfl).bind fun _ => refused _
    | ok =>
      have made : Spares view P (ask (.build m.settings.uart)) :=
        passive_ask ⟨.inr (.inr ⟨_, rfl⟩), rfl⟩
      refine made.bind fun built => ?_
      cases built with
      | error e =>
        exact (said _).bind fun _ => (netif .unsubscribe rfl).bind fun _ =>
          (netif .destroy rfl).bind fun _ => refused _
      | ok =>
        exact Spares.bind (passive_modify fun m => hv.active m true)
          fun _ => Spares.bind (passive_modify fun m => hv.recorded m _)
          fun _ => (said _).bind fun _ => passive_pure _

/-- What is asked for to reset the modem and set everything up. -/
def initializes (c : GsmCall) : Prop :=
  resets c ∨ builds c ∨ c = .record .resetEvents

theorem keyless_of_silent {c : GsmCall} (h : c.silent = true) :
    c.keyless = true := by
  cases c with
  | netif => cases h
  | _ => rfl

/-- A reset gives the interface no credentials. -/
theorem keyless_of_resets {c : GsmCall} (h : resets c) :
    c.keyless = true := by
  rcases h with h | ⟨_, _, rfl⟩
  · exact keyless_of_silent h
  · rfl

/-- A set-up (`init`) resets and builds, and gives the interface no
credentials. -/
theorem spares_init_keyless (hv : Unmoved view) :
    Spares view (fun c => initializes c ∧ c.keyless = true) init := by
  let P (c : GsmCall) : Prop := initializes c ∧ c.keyless = true
  have said (line : Line) : Spares view P (log line) :=
    passive_ask ⟨.inl (.inl rfl), rfl⟩
  have reset : Spares view P hardwareReset := fun m =>
    (stays_hardwareReset m).mono
      (fun _ hc => ⟨.inl hc, keyless_of_resets hc⟩) fun _ hx =>
      hx ▸ hv.recorded m _
  have forget : Spares view P (ask (.record .resetEvents)) :=
    passive_ask ⟨.inr (.inr rfl), rfl⟩
  refine passive_get.bind fun m => ?_
  show Spares view P (if m.active then _ else _)
  split
  · exact (said _).bind fun _ => passive_pure _
  · exact (said _).bind fun _ => reset.bind fun _ => forget.bind fun _ =>
      (spares_build hv).mono fun _ hc => ⟨.inr (.inl hc.1), hc.2⟩

/-- The same, without a word on credentials. -/
theorem spares_init (hv : Unmoved view) :
    Spares view initializes init :=
  (spares_init_keyless hv).mono fun _ => And.left

theorem only_init : Only initializes init :=
  spares_init unmoved_unit

/-- What is asked for to read the signal. -/
def measures (c : GsmCall) : Prop :=
  c.silent = true ∨ c = .record .isConnected ∨ c = .modem .quality

/-- To read the signal (`signalStrength`) spares any view that does not
show the last reading. -/
theorem spares_signalStrength (hv : Unread view) :
    Spares view measures signalStrength := by
  refine passive_get.bind fun m => ?_
  show Spares view measures (if !m.active then _ else _)
  split
  · exact passive_pure _
  · refine (passive_ask (.inr (.inl rfl))).bind fun connected => ?_
    show Spares view measures (if connected then _ else _)
    split
    · exact passive_pure _
    · refine (passive_session
        (Proc.asks_ask.2 (.inr (.inr rfl)))).bind fun r => ?_
      cases r with
      | ok reading =>
        exact Spares.bind (passive_modify fun m => hv m _) fun _ =>
          passive_pure reading.rssi
      | error e =>
        exact (passive_ask (.inl rfl)).bind fun _ => passive_pure _

theorem passive_signalStrength : Passive measures signalStrength :=
  spares_signalStrength fun _ _ => rfl

/-- What is asked for to hang up. -/
def hangsUp (c : GsmCall) : Prop :=
  c.silent = true ∨ c = .modem (.switch .command)
    ∨ c = .record .markDisconnected

/-- To disconnect (`disconnect`) spares any view that does not show how far
the link is. -/
theorem spares_disconnect
    (hv : ∀ m state, view { m with recorded := state } = view m) :
    Spares view hangsUp disconnect := by
  have said (line : Line) : Spares view hangsUp (log line) :=
    passive_ask (.inl rfl)
  have asked : Spares view hangsUp (session (Steps.switchTo .command)) :=
    passive_session (Proc.asks_ask.2 (.inr (.inl rfl)))
  have given : Spares view hangsUp (do
      ask (.record .markDisconnected)
      enter .disconnected) :=
    Spares.bind (passive_ask (.inr (.inr rfl))) fun _ =>
      passive_modify fun m => hv m _
  refine passive_get.bind fun m => ?_
  show Spares view hangsUp (if m.active then hangUp else _)
  split
  · refine (said _).bind fun _ => asked.bind fun r => ?_
    cases r with
    | ok => exact given
    | error e => exact (said _).bind fun _ => given
  · exact said _

theorem only_disconnect : Only hangsUp disconnect :=
  spares_disconnect unmoved_unit.recorded

/-- What is asked for to take everything down. -/
def takesDown (c : GsmCall) : Prop :=
  hangsUp c ∨ (∃ call, c = .netif call) ∨ c = .record .resetEvents

theorem keyless_of_hangsUp {c : GsmCall} (h : hangsUp c) :
    c.keyless = true := by
  rcases h with h | rfl | rfl
  · exact keyless_of_silent h
  · rfl
  · rfl

/-- To tear down (`deinit`) hangs up and takes the parts down, and gives
the interface no credentials. -/
theorem spares_deinit_keyless (hv : Unmoved view) :
    Spares view (fun c => takesDown c ∧ c.keyless = true) deinit := by
  let P (c : GsmCall) : Prop := takesDown c ∧ c.keyless = true
  have said (line : Line) : Spares view P (log line) :=
    passive_ask ⟨.inl (.inl rfl), rfl⟩
  have hung : Spares view P disconnect :=
    (spares_disconnect hv.recorded).mono fun _ hc =>
      ⟨.inl hc, keyless_of_hangsUp hc⟩
  have netif (call : NetifCall)
      (hc : (GsmCall.netif call).keyless = true) :
      Spares view P (ask (.netif call)) :=
    passive_ask ⟨.inr (.inl ⟨call, rfl⟩), hc⟩
  refine passive_get.bind fun m => ?_
  show Spares view P (if m.active then _ else _)
  split
  · exact (said _).bind fun _ => hung.bind fun _ =>
      Spares.bind (passive_modify fun m => hv.active m false) fun _ =>
      (netif .unsubscribe rfl).bind fun _ =>
      (netif .destroy rfl).bind fun _ =>
      Spares.bind (passive_ask ⟨.inr (.inr rfl), rfl⟩) fun _ =>
      passive_modify fun m => hv.recorded m _
  · exact said _

/-- The same, without a word on credentials. -/
theorem spares_deinit (hv : Unmoved view) :
    Spares view takesDown deinit :=
  (spares_deinit_keyless hv).mono fun _ => And.left

-- ============================================================ contracts

variable {C : Contract Surroundings σ} {J : σ → Prop}
variable {m : Manager} {s : σ}

/-- To enter a state is to record it. -/
theorem ensures_enter {state : GsmState} {Q : Unit → Manager → σ → Prop} :
    Ensures C (enter state) m s Q ↔ Q () { m with recorded := state } s :=
  Iff.rfl

/-- What its calls preserve, a program `Preserves`. -/
theorem Spares.ensures {act : Act α} (h : Spares view P act)
    (hC : C.Preserves P J) (hs : J s) :
    Ensures C act m s fun _ m' s' => view m' = view m ∧ J s' :=
  (h m).meets hC hs

/-- An act that spares a view, among calls that preserve `J`, leads to
where both still hold. -/
theorem Spares.leads {act : Act α} {f : α → Act β}
    (h : Spares view P act) (hC : C.Preserves P J) (hs : J s)
    {Q : β → Manager → σ → Prop}
    (hf : ∀ a m' s', view m' = view m → J s' →
      Ensures C (f a) m' s' Q) :
    Ensures C (act >>= f) m s Q := by
  refine Proc.ensures_bind.2 ((h.ensures hC hs).mono fun a m' s' ha => ?_)
  exact hf a m' s' ha.1 ha.2

/-- From here on the connection ends that way. -/
def Ends (C : Contract Surroundings σ) (J : σ → Prop) (m : Manager)
    (Q : Except GsmError Unit → Manager → σ → Prop)
    (act : Attempt Unit) : Prop :=
  ∀ m' s, m'.standing = m.standing → J s → Ensures C act.run m' s Q

/-- A passive step before that, where a failure ends that way too. -/
theorem Spares.ends {Q : Except GsmError Unit → Manager → σ → Prop}
    {act : Attempt α} {f : α → Attempt Unit}
    (h : Spares standing P act.run)
    (hC : C.Preserves P J)
    (hfailed : ∀ e m' s', m'.standing = m.standing → J s' →
      Q (.error e) m' s')
    (hf : ∀ a, Ends C J m Q (f a)) : Ends C J m Q (act >>= f) := by
  intro m₁ s hm₁ hs
  refine Spares.leads h hC hs fun r m₂ s₂ hm₂ hs₂ => ?_
  have hm := hm₂.trans hm₁
  cases r with
  | ok a => exact hf a m₂ s₂ hm hs₂
  | error e => exact hfailed e m₂ s₂ hm hs₂

/-- The steps between the escape and the dial. -/
def preparing : List Step :=
  Step.documented.filter (· ∉ [.look, .escape, .dial, .session])

def prepares (c : GsmCall) : Prop :=
  c = .errorReport ∨ ∃ k ∈ preparing, k.covers c

/-- Their calls are commands other than the escape, and a few that go
elsewhere. -/
theorem prepares_cases {c : GsmCall} (h : prepares c) :
    c.silent = true
      ∨ (∃ command timeout, command ≠ Modem.escapeSequence
        ∧ c = .query command timeout)
      ∨ c = .modem .quality
      ∨ (∃ user password, c = .netif (.setAuth user password))
      ∨ c = .record .resetEvents := by
  rcases h with rfl | ⟨k, hk, hs | ho⟩
  · exact .inr (.inl ⟨_, _, by decide, rfl⟩)
  · exact .inl hs
  · right
    cases k with
    | wake => exact .inl ⟨_, _, by decide, ho⟩
    | signal =>
      rcases ho with ho | ho
      · exact .inl ⟨_, _, by decide, ho⟩
      · exact .inr (.inl ho)
    | sim => exact .inl ⟨_, _, by decide, ho⟩
    | registration => exact .inl ⟨_, _, by decide, ho⟩
    | accessPoint =>
      rcases ho with ho | ho | ho | ho | ho <;>
        exact .inl ⟨_, _, by decide, ho⟩
    | packetDomain => exact .inl ⟨_, _, by decide, ho⟩
    | attach =>
      rcases ho with ho | ho <;> exact .inl ⟨_, _, by decide, ho⟩
    | context =>
      obtain ⟨apn, ho⟩ := ho
      exact .inl ⟨_, _, contextCommand_ne (by decide) apn, ho⟩
    | credentials => exact .inr (.inr (.inl ho))
    | cleanUp => exact .inl ⟨_, _, by decide, ho⟩
    | forget => exact .inr (.inr (.inr ho))
    -- these four are not among the steps that prepare
    | look => exact absurd hk (by decide)
    | escape => exact absurd hk (by decide)
    | dial => exact absurd hk (by decide)
    | session => exact absurd hk (by decide)

/-- A step that comes before the session makes calls that prepare for
one. -/
theorem Spares.prepares {k : Step} {act : Act α}
    (h : Spares view k.covers act) (hk : k ∈ preparing) :
    Spares view prepares act :=
  h.mono fun _ hc => .inr ⟨k, hk, hc⟩

/-- The same for a step whose failure is only logged. -/
theorem passive_advisory {k : Step} {p : Proc Session Unit}
    (hp : k.Within p) (hk : k ∈ preparing) :
    Passive Manager.prepares (advisory p).run :=
  ((passive_session hp).attempt).prepares hk

/-- The steps after the escape keep whatever their calls keep. What is
left to be seen is the escape before them, what comes from the forgotten
event on, and that the connection may end with any error in between. -/
theorem ensures_preparing (hC : C.Preserves Manager.prepares J)
    {Q : Except GsmError Unit → Manager → σ → Prop}
    (hescape : (Surroundings.ofSession Steps.forceCommandMode).Meets C s
      fun _ s' => J s')
    (hfailed : ∀ e m' s', m'.standing = m.standing → J s' →
      Q (.error e) m' s')
    (hforget : Ends C J m Q (do
      ask (.record .resetEvents)
      reported Steps.enterDataMode
      awaitSession)) :
    Ensures C sequence.run m s Q := by
  refine Proc.ensures_attempt_bind.2 (Proc.ensures_attempt_lift.2
    (Proc.ensures_lift.2 (hescape.mono fun _ s' hs => ?_)))
  -- one step after the other, each either through or the end of it
  suffices h : Ends C J m Q _ from h m s' rfl hs
  have wake : Passive Manager.prepares (fatal Steps.wakeUp).run :=
    (passive_session Step.within_wakeUp).prepares (by decide)
  refine wake.ends hC hfailed fun _ => ?_
  refine (passive_keepSignal.prepares (by decide)).ends hC hfailed
    fun _ => ?_
  refine (passive_advisory Step.within_checkSim (by decide)).ends hC
    hfailed fun _ => ?_
  have registration : Passive Manager.prepares
      (reported Steps.waitForRegistration).run :=
    (passive_reported Step.within_waitForRegistration).mono
      fun c hc => hc.imp id fun h => ⟨_, by decide, h⟩
  refine registration.ends hC hfailed fun _ => ?_
  refine (passive_findAccessPoint.prepares (by decide)).ends hC hfailed
    fun _ => ?_
  refine (passive_advisory Step.within_waitForGprs (by decide)).ends hC
    hfailed fun _ => ?_
  refine (passive_advisory Step.within_ensureAttached (by decide)).ends hC
    hfailed fun _ => ?_
  refine (passive_configureContext.attempt.prepares (by decide)).ends hC
    hfailed fun _ => ?_
  refine (passive_authenticate.attempt.prepares (by decide)).ends hC
    hfailed fun _ => ?_
  refine (passive_advisory Step.within_deactivateContext (by decide)).ends
    hC hfailed fun _ => ?_
  exact hforget

/-- The same up to the dial: forgetting an event is a step like the ones
before it. -/
theorem ensures_sequence (hC : C.Preserves Manager.prepares J)
    {Q : Except GsmError Unit → Manager → σ → Prop}
    (hescape : (Surroundings.ofSession Steps.forceCommandMode).Meets C s
      fun _ s' => J s')
    (hfailed : ∀ e m' s', m'.standing = m.standing → J s' →
      Q (.error e) m' s')
    (hdial : Ends C J m Q
      (reported Steps.enterDataMode >>= fun _ => awaitSession)) :
    Ensures C sequence.run m s Q := by
  have forget : Passive Step.forget.covers (ask (.record .resetEvents)) :=
    passive_ask (.inr rfl)
  exact ensures_preparing hC hescape hfailed
    ((forget.attempt.prepares (by decide)).ends hC hfailed fun _ => hdial)

/-- What is asked for besides the switch to data mode. -/
def remarks (c : GsmCall) : Prop :=
  c.silent = true ∨ c = .errorReport

/-- If each `switch` to data mode either succeeds or leaves things as they
were, so do all of them. -/
theorem meets_enterDataMode {K : σ → Prop}
    (hJ : C.Preserves (fun c => c.silent = true) J)
    (hK : C.Preserves (fun c => c.silent = true) K)
    (hswitch : ∀ s, J s → C.allows (.modem (.switch .data)) s
      ∧ ∀ r s', C.moves (.modem (.switch .data)) s r s' →
        Either (K s') (J s') r)
    (hs : J s) :
    Steps.enterDataMode.Meets (channelOf C) s fun r s' =>
      Either (K s') (J s') r := by
  have attempt (number : Nat) (known : Unit) (s : σ) (hs : J s) :
      (Steps.attemptDataMode number known).Meets (channelOf C) s
        fun r s' => Either (K s') (J s') r := by
    refine Proc.meets_bind.2 (Proc.meets_ask.2
      ⟨(hswitch s hs).1, fun r s' hr => ?_⟩)
    have hr := (hswitch s hs).2 r s' hr
    cases r with
    | ok =>
      exact Proc.meets_bind.2 (Proc.meets_ask.2 (hK _ s' rfl hr))
    | error e =>
      exact Proc.meets_bind.2 (Proc.meets_ask.2 (hJ _ s' rfl hr))
  have paused (number : Nat) (s : σ) (hs : J s) :
      (Session.pause dataModeBackoff).Meets (channelOf C) s
        fun _ s' => J s' :=
    Proc.meets_ask.2 (hJ _ s rfl hs)
  refine Proc.meets_bind.2
    ((Proc.meets_retry attempt paused _ _ _ hs).mono fun r s' hr => ?_)
  cases r with
  | ok => exact hr
  | error => exact hr

/-- After a dial that failed the modem is asked why. -/
theorem ensures_dial {K : σ → Prop} (hJ : C.Preserves remarks J)
    (hK : C.Preserves (fun c => c.silent = true) K)
    (hswitch : ∀ s, J s → C.allows (.modem (.switch .data)) s
      ∧ ∀ r s', C.moves (.modem (.switch .data)) s r s' →
        Either (K s') (J s') r)
    (hs : J s) :
    Ensures C (reported Steps.enterDataMode).run m s fun r m' s' =>
      m' = m ∧ Either (K s') (J s') r := by
  refine Proc.ensures_bind.2 (Proc.ensures_lift.2
    (Surroundings.meets_ofSession.2
      ((meets_enterDataMode (fun c s hc => hJ c s (.inl hc)) hK hswitch
        hs).mono fun r s' hr => ?_)))
  cases r with
  | ok => exact ⟨rfl, hr⟩
  | error e =>
    have why : (Surroundings.ofSession Steps.reportModemError).Asks
        remarks :=
      Surroundings.asks_ofSession
        (asks_reportModemError (.inr rfl) fun _ => .inl rfl)
    refine Proc.ensures_bind.2 (Proc.ensures_lift.2
      ((why.meets hJ hr).mono fun _ s'' hs'' => ?_))
    exact ⟨rfl, hs''⟩

end Manager

end Uplink.Gsm
