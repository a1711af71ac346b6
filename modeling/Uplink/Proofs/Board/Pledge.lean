/-
The credentials of a session, and whose they are.

The link gives the interface credentials only for an access point that has
a user, and nobody ever takes them away again. So what an access point
without one finds is what was set before, which must be nothing. It is,
because an access point that was found is kept: whoever has a session
begin has found one, and it is the only one that there will be.

# How it is shown

A `Pledge` is what an account of the calls comes to. As long as no session
may have begun it is `free`: credentials are set, but there may be no
access point yet. From the first session on it is `bound` to an access
point, for good. Which one that is a call does not say, only the rest of
the program does. So this is no condition on the calls but an account of
them (`Proc.Accounts`), and what an operation ends with fits it
(`Operation.honours`).
-/
import Uplink.Board.Cellular
import Uplink.Proofs.Account
import Uplink.Proofs.Apn.Search
import Uplink.Proofs.Gsm.Lifecycle

namespace Uplink.Board

open Apn (Chosen)

/-- The credentials for the sessions of an access point: its own if it has
a user, and else none. -/
def Credentials.of (apn : Chosen) : Credentials :=
  if apn.hasCredentials then ⟨apn.username, apn.password⟩ else {}

-- ============================================================== the pledge

/-- Whose the credentials are that are set. -/
inductive Pledge where
  /-- no session has begun -/
  | free (credentials : Credentials)
  /-- the sessions are those of an access point -/
  | bound (apn : Chosen) (found : apn.isDetected = true)

namespace Pledge

variable {x x' : Pledge} {apn : Chosen}

def credentials : Pledge → Credentials
  | free credentials => credentials
  | bound apn _ => .of apn

/-- Credentials are set. In the sessions of an access point it can only be
its own again. -/
inductive Sets (credentials : Credentials) : Pledge → Pledge → Prop
  | free (before : Credentials) :
      Sets credentials (.free before) (.free credentials)
  | bound {apn : Chosen} {found : apn.isDetected = true} :
      credentials = .of apn →
      Sets credentials (.bound apn found) (.bound apn found)

/-- A session may begin, for an access point whose credentials are set. -/
inductive Begins : Pledge → Pledge → Prop
  | first {apn : Chosen} (found : apn.isDetected = true) :
      Begins (.free (.of apn)) (.bound apn found)
  | again {apn : Chosen} {found : apn.isDetected = true} :
      Begins (.bound apn found) (.bound apn found)

/-- The credentials that are set are those of this access point. -/
def Backs (apn : Chosen) : Pledge → Prop
  | free credentials => apn.isDetected = true ∧ credentials = .of apn
  | bound chosen _ => chosen = apn

/-- The credentials that are set are not those of another access point;
before the first session there may be none. -/
def Fits (apn : Chosen) : Pledge → Prop
  | free credentials =>
    credentials = {} ∨ (free credentials).Backs apn
  | bound chosen _ => chosen = apn

/-- A pledge that `Backs` an access point `Fits` it. -/
theorem Backs.fits (h : x.Backs apn) : x.Fits apn := by
  cases x with
  | free => exact .inr h
  | bound => exact h

/-- A session may begin where the pledge `Backs` the access point, and it
still does after that. -/
theorem Backs.begins (h : x.Backs apn) :
    ∃ x', x.Begins x' ∧ x'.Backs apn := by
  cases x with
  | free =>
    obtain ⟨found, rfl⟩ := h
    exact ⟨.bound apn found, .first found, rfl⟩
  | bound => exact ⟨_, .again, h⟩

/-- For an access point that was found, the credentials set are its own,
and back it. -/
theorem Fits.sets (h : x.Fits apn) (found : apn.isDetected = true) :
    ∃ x', Sets (.of apn) x x' ∧ x'.Backs apn := by
  cases x with
  | free before => exact ⟨_, .free before, found, rfl⟩
  | bound =>
    obtain rfl := h
    exact ⟨_, .bound rfl, rfl⟩

/-- An access point that asks for no credentials finds none set. -/
theorem Fits.backs (h : x.Fits apn) (found : apn.isDetected = true)
    (hu : apn.hasCredentials = false) : x.Backs apn := by
  have none_asked : Credentials.of apn = {} := by
    unfold Credentials.of
    rw [hu]
    rfl
  cases x with
  | free =>
    rcases h with rfl | h
    · exact ⟨found, none_asked.symm⟩
    · exact h
  | bound => exact h

/-- As long as no access point is found, none are set. -/
theorem Fits.of_undetected (h : x.Fits apn)
    (hd : apn.isDetected = false) (chosen : Chosen) : x.Fits chosen := by
  cases x with
  | free =>
    rcases h with h | ⟨found, -⟩
    · exact .inl h
    · cases hd.symm.trans found
  | bound _ found =>
    obtain rfl := h
    cases hd.symm.trans found

end Pledge

/-- The texts of credentials are taken for what they are. -/
@[simp] theorem Ppp.credentials?_texts (username password : Apn.Credential) :
    credentials? username.text password.text
      = some ⟨username, password⟩ := by
  simp [credentials?]

end Uplink.Board

namespace Uplink.Gsm

open Apn (Chosen)
open Board (Credentials Pledge Ppp.credentials?)
open Proc (Accounted accounted_attempt_lift accounted_bind accounted_get
  accounted_lift accounted_set)
open Modem (Session)

variable {α β : Type} {m : Manager} {x x' : Pledge} {apn : Chosen}

/-- What the calls of the link make of a pledge. Credentials that are set
are taken. -/
def pledging : Behaviour Surroundings Pledge :=
  fun call x r x' =>
    match call, r with
    | .modem (.switch .data), .ok _ => x.Begins x'
    | .netif (.setAuth username password), _ =>
      ∃ credentials, Ppp.credentials? username password = some credentials
        ∧ x.Sets credentials x'
    | _, _ => x' = x

/-- A session may begin where the credentials are those of an access
point. -/
theorem pledging_of_backs {c : GsmCall} (hc : c.keyless = true)
    (hx : x.Backs apn) (r : c.Answer) :
    ∃ x', pledging c x r x' ∧ x'.Backs apn := by
  have same (h : pledging c x r x) : ∃ x', pledging c x r x' ∧ x'.Backs apn :=
    ⟨x, h, hx⟩
  cases c with
  | modem call =>
    cases call with
    | switch mode =>
      cases mode with
      | command => exact same rfl
      | data =>
        cases r with
        | ok => exact hx.begins
        | error => exact same rfl
    | _ => exact same rfl
  | netif call =>
    cases call with
    | setAuth => cases hc
    | _ => exact same rfl
  | _ => exact same rfl

/-- The call neither gives the interface credentials nor has a session
begin. -/
def GsmCall.aside (c : GsmCall) : Prop :=
  c.keyless = true ∧ c ≠ .modem (.switch .data)

/-- Calls that are `aside` leave the pledge as it is. -/
theorem pledging_of_aside {c : GsmCall} (hc : c.aside) {r : c.Answer} :
    pledging c x r x' ↔ x' = x := by
  obtain ⟨hk, hd⟩ := hc
  cases c with
  | modem call =>
    cases call with
    | switch mode =>
      cases mode with
      | command => exact Iff.rfl
      | data => exact absurd rfl hd
    | _ => exact Iff.rfl
  | netif call =>
    cases call with
    | setAuth => cases hk
    | _ => exact Iff.rfl
  | _ => exact Iff.rfl

/-- Calls that say nothing to the interface are `aside`. -/
theorem GsmCall.aside_of_silent {c : GsmCall} (h : c.silent = true) :
    c.aside := by
  refine ⟨Manager.keyless_of_silent h, ?_⟩
  rintro rfl
  cases h

/-- The steps that do neither. -/
def unpledged : List Step :=
  Step.documented.filter (· ∉ [.credentials, .dial])

/-- But for credentials, PPP and the dial, the steps of a connection make
calls that are `aside`. -/
theorem aside_of_covers {k : Step} {c : GsmCall} (hk : k ∈ unpledged)
    (h : k.covers c) : c.aside := by
  rcases h with hs | ho
  · exact GsmCall.aside_of_silent hs
  cases k with
  | credentials => exact absurd hk (by decide)
  | dial => exact absurd hk (by decide)
  | escape | signal | attach =>
    rcases ho with rfl | rfl <;> exact ⟨rfl, nofun⟩
  | accessPoint =>
    rcases ho with rfl | rfl | rfl | rfl | rfl <;> exact ⟨rfl, nofun⟩
  | context =>
    obtain ⟨_, rfl⟩ := ho
    exact ⟨rfl, nofun⟩
  | session =>
    rcases ho with rfl | ⟨_, _, rfl⟩ | ⟨_, rfl⟩ | rfl
    all_goals exact ⟨rfl, nofun⟩
  | look | wake | sim | registration | packetDomain | cleanUp | forget =>
    obtain rfl := ho
    exact ⟨rfl, nofun⟩

namespace Manager

-- =============================================================== programs

theorem accounted_ask {c : GsmCall}
    {Q : c.Answer → Manager → Pledge → Prop} :
    Accounted pledging (ask c) m x Q
      ↔ ∀ r, ∃ x', pledging c x r x' ∧ Q r m x' :=
  accounted_lift

/-- An act that spares the access point, and makes calls that are `aside`,
leaves it and the pledge as they are. -/
theorem Spares.accounted {P : GsmCall → Prop} {act : Act α}
    (h : Spares Manager.apn P act) (hP : ∀ c, P c → c.aside) :
    Accounted pledging act m x fun _ m' x' => m'.apn = m.apn ∧ x' = x :=
  Proc.Stays.accounts_same (h m) fun c _ hc =>
    (pledging_of_aside (hP c hc)).2 rfl

/-- An act that spares the access point, and sets no credentials, keeps the
pledge that `Backs` it. -/
theorem Spares.backed {P : GsmCall → Prop} {act : Act α}
    (h : Spares Manager.apn P act) (hP : ∀ c, P c → c.keyless = true)
    (hx : x.Backs m.apn) :
    Accounted pledging act m x fun _ m' x' =>
      m'.apn = m.apn ∧ x'.Backs m.apn :=
  Proc.Stays.accounts (h m) (fun c _ r hc hs =>
    pledging_of_backs (hP c hc) hs r) hx

/-- From a pledge like this, the program ends with one that `Fits` the
access point that it ends with. -/
def Honours (J : Chosen → Pledge → Prop) (act : Act α) : Prop :=
  ∀ m x, J m.apn x →
    Accounted pledging act m x fun _ m' x' => x'.Fits m'.apn

variable {J : Chosen → Pledge → Prop}

theorem Honours.bind {act : Act α} {f : α → Act β} (h : Honours J act)
    (hf : ∀ a, Honours Pledge.Fits (f a)) : Honours J (act >>= f) :=
  fun m x hx => accounted_bind.2 ((h m x hx).mono fun a m' x' => hf a m' x')

/-- An act that spares the access point, and makes calls that are `aside`,
`Honours` the pledge. -/
theorem Spares.honours {P : GsmCall → Prop} {act : Act α}
    (h : Spares Manager.apn P act) (hP : ∀ c, P c → c.aside) :
    Honours Pledge.Fits act := by
  intro m x hx
  refine (h.accounted hP).mono fun _ m' x' h => ?_
  obtain ⟨hm, rfl⟩ := h
  rw [hm]
  exact hx

/-- A step leads from a pledge like this to one like that, and where it
fails it `Fits`. -/
def Advances (J J' : Chosen → Pledge → Prop) (act : Attempt α) : Prop :=
  ∀ m x, J m.apn x →
    Accounted pledging act.run m x fun r m' x' =>
      match r with
      | .ok _ => J' m'.apn x'
      | .error _ => x'.Fits m'.apn

theorem Advances.bind {J' : Chosen → Pledge → Prop} {act : Attempt α}
    {f : α → Attempt β} (h : Advances J J' act)
    (hf : ∀ a, Honours J' (f a).run) : Honours J (act >>= f).run := by
  intro m x hx
  rw [ExceptT.run_bind, accounted_bind]
  refine (h m x hx).mono fun r m' x' hx' => ?_
  cases r with
  | ok a => exact hf a m' x' hx'
  | error e => exact hx'

/-- An attempt that spares the access point, and makes calls that are
`aside`, keeps whatever holds of the pledge. -/
theorem Spares.advances {P : GsmCall → Prop} {act : Attempt α}
    (h : Spares Manager.apn P act.run) (hP : ∀ c, P c → c.aside)
    (hJ : ∀ {apn x}, J apn x → x.Fits apn) : Advances J J act := by
  intro m x hx
  refine (h.accounted hP).mono fun r m' x' h => ?_
  obtain ⟨hm, rfl⟩ := h
  rw [← hm] at hx
  cases r with
  | ok a => exact hx
  | error e => exact hJ hx

theorem honours_log (line : Line) : Honours Pledge.Fits (log line) :=
  Spares.honours (P := GsmCall.aside) (passive_ask ⟨rfl, nofun⟩)
    fun _ hc => hc

theorem honours_pure (a : α) : Honours Pledge.Fits (pure a) :=
  fun _ _ hx => hx

theorem honours_modify {f : Manager → Manager}
    (hf : ∀ m, (f m).apn = m.apn) : Honours Pledge.Fits (modify f) := by
  intro m x hx
  show x.Fits (f m).apn
  rw [hf]
  exact hx

/-- A step whose failure is only logged spares the access point. -/
theorem spares_advisory {k : Step} {p : Proc Session Unit}
    (hp : k.Within p) : Spares Manager.apn k.covers (advisory p).run :=
  Spares.attempt (passive_session hp)

-- ============================================================ a connection

/-- The access point was found. -/
def Found (apn : Chosen) (x : Pledge) : Prop :=
  x.Fits apn ∧ apn.isDetected = true

/-- After the credentials sessions may begin, as often as they like. -/
theorem honours_dial :
    Honours Pledge.Backs (do
      reported Steps.enterDataMode
      awaitSession : Attempt Unit).run := by
  intro m x hx
  have dialled : Spares Manager.apn (fun c => c.keyless = true)
      (reported Steps.enterDataMode).run := by
    refine (spares_reported Step.within_enterDataMode).mono fun c hc => ?_
    rcases hc with rfl | hs | rfl
    · rfl
    · exact keyless_of_silent hs
    · rfl
  have awaited : Spares Manager.apn (fun c => c.keyless = true)
      awaitSession.run := by
    refine spares_awaitSession.mono fun c hc => ?_
    rcases hc with (hs | ⟨_, _, rfl⟩ | ⟨_, _, rfl⟩) | (hs | rfl | rfl)
      | ⟨_, rfl⟩ | rfl
    · exact keyless_of_silent hs
    · rfl
    · rfl
    · exact keyless_of_silent hs
    all_goals rfl
  refine ((dialled.attempt_bind fun _ => awaited).backed (fun _ hc => hc)
    hx).mono fun _ m' x' h => ?_
  rw [h.1]
  exact h.2.fits

/-- Credentials are set if there are any, and they are taken. -/
theorem advances_authenticate :
    Advances Found Pledge.Backs (ExceptT.lift authenticate) := by
  rintro m x ⟨hx, found⟩
  refine accounted_attempt_lift.2 ?_
  unfold authenticate
  rw [accounted_bind, accounted_get]
  dsimp only
  split
  next hu =>
    obtain ⟨x', hset, hx'⟩ := hx.sets found
    have given : Credentials.of m.apn = ⟨m.apn.username, m.apn.password⟩ :=
      if_pos hu
    refine accounted_bind.2 (accounted_ask.2 fun r =>
      ⟨x', ⟨_, Board.Ppp.credentials?_texts _ _, given ▸ hset⟩, ?_⟩)
    cases r with
    | ok => exact accounted_ask.2 fun _ => ⟨x', rfl, hx'⟩
    | error e => exact accounted_ask.2 fun _ => ⟨x', rfl, hx'⟩
  next hu => exact hx.backs found (Bool.eq_false_iff.2 hu)

/-- A search that ends well has found something. -/
theorem advances_findAccessPoint :
    Advances Pledge.Fits Found findAccessPoint := by
  intro m x hx
  have logged (line : Line) {m : Manager} {r : Except GsmError Unit}
      {Q : Except GsmError Unit → Manager → Pledge → Prop}
      (h : Q r m x) :
      Accounted pledging (log line >>= fun _ => pure r) m x Q :=
    accounted_bind.2 (accounted_ask.2 fun _ => ⟨x, rfl, h⟩)
  unfold findAccessPoint
  rw [ExceptT.run_mk, accounted_bind, accounted_get]
  split
  next hd => exact logged _ ⟨hx, hd⟩
  next hd =>
    have hd : m.apn.isDetected = false := Bool.eq_false_iff.2 hd
    have within : (Apn.detect m.settings.fallbackApns m.apn).Asks
        fun c => (GsmCall.modem c).aside :=
      (Step.within_detect _ _).mono fun _ => aside_of_covers (by decide)
    -- a search that succeeds has named an access point, and so found it
    have detected : (Apn.detect m.settings.fallbackApns m.apn).Stays
        (fun _ => True)
        fun a => ∀ source, a.1 = .ok source → a.2.isDetected = true := by
      refine Proc.Records.stays (Proc.Records.mono
        (Apn.records_detect _ _) fun t a h source hok => ?_)
      rcases h with rfl | ⟨strategy, -, -, hs, -, -⟩
      · cases hok
      · exact Apn.Chosen.detected_of_source hs
    have asked : (Surroundings.ofSession
        (Apn.detect m.settings.fallbackApns m.apn)).Stays GsmCall.aside _ :=
      (within.and detected).within fun c hc => Proc.asks_ask.2 hc.1
    refine accounted_bind.2 (accounted_ask.2 fun _ => ⟨x, rfl, ?_⟩)
    refine accounted_bind.2 (accounted_lift.2 ((asked.accounts_same
      fun c _ hc => (pledging_of_aside hc).2 rfl).mono fun a x' h => ?_))
    obtain ⟨⟨-, found⟩, rfl⟩ := h
    obtain ⟨result, apn⟩ := a
    have fits := hx.of_undetected hd apn
    refine accounted_bind.2 (accounted_set.2 ?_)
    cases result with
    | ok source => exact logged _ ⟨fits, found source rfl⟩
    | error e => exact logged _ fits

theorem honours_sequence : Honours Pledge.Fits sequence.run := by
  refine ((spares_advisory Step.within_forceCommandMode).advances
    (fun _ => aside_of_covers (by decide)) id).bind fun _ => ?_
  have wake : Spares Manager.apn Step.wake.covers
      (fatal Steps.wakeUp).run := passive_session Step.within_wakeUp
  refine (wake.advances (fun _ => aside_of_covers (by decide)) id).bind
    fun _ => ?_
  refine ((spares_keepSignal fun _ _ => rfl).advances
    (fun _ => aside_of_covers (by decide)) id).bind fun _ => ?_
  refine ((spares_advisory Step.within_checkSim).advances
    (fun _ => aside_of_covers (by decide)) id).bind fun _ => ?_
  refine ((spares_reported Step.within_waitForRegistration).advances
    (fun c hc => ?_) id).bind fun _ => ?_
  -- the one call besides the step's own asks for the reason of a failure
  · rcases hc with rfl | hc
    · exact ⟨rfl, nofun⟩
    · exact aside_of_covers (by decide) hc
  refine advances_findAccessPoint.bind fun _ => ?_
  refine ((spares_advisory Step.within_waitForGprs).advances
    (fun _ => aside_of_covers (by decide)) And.left).bind fun _ => ?_
  refine ((spares_advisory Step.within_ensureAttached).advances
    (fun _ => aside_of_covers (by decide)) And.left).bind fun _ => ?_
  have context : Spares Manager.apn Step.context.covers
      configureContext :=
    passive_get.bind fun _ =>
      passive_session (Step.within_configureContext _)
  refine (context.attempt.advances (fun _ => aside_of_covers (by decide))
    And.left).bind fun _ => ?_
  refine advances_authenticate.bind fun _ => ?_
  refine ((spares_advisory Step.within_deactivateContext).advances
    (fun _ => aside_of_covers (by decide)) Pledge.Backs.fits).bind
    fun _ => ?_
  have forget : Spares Manager.apn Step.forget.covers
      (ask (.record .resetEvents)) := passive_ask (.inr rfl)
  exact (forget.attempt.advances (fun _ => aside_of_covers (by decide))
    Pledge.Backs.fits).bind fun _ => honours_dial

/-- Whatever comes of it, `connect` honours the pledge. -/
theorem honours_connect : Honours Pledge.Fits connect := by
  refine Honours.bind (fun _ _ hx => hx) fun m => ?_
  show Honours _ (if !m.active then _ else _)
  split
  · exact (honours_log _).bind fun _ => honours_pure _
  · refine Honours.bind (Spares.honours (P := GsmCall.aside)
      (passive_ask ⟨rfl, nofun⟩) fun _ hc => hc) fun connected => ?_
    show Honours _ (if connected then _ else _)
    split
    · exact (honours_log _).bind fun _ => honours_pure _
    · refine (honours_log _).bind fun _ => ?_
      refine Honours.bind (honours_modify fun _ => rfl) fun _ => ?_
      refine honours_sequence.bind fun r => ?_
      cases r with
      | ok =>
        exact Honours.bind (honours_modify fun _ => rfl) fun _ =>
          (honours_log _).bind fun _ => honours_pure _
      | error e =>
        exact (honours_log _).bind fun _ =>
          Honours.bind (honours_modify fun _ => rfl) fun _ =>
            honours_pure _

-- =========================================================== operations

/-- The access point is not moved by reports. -/
theorem unmoved_apn : Unmoved Manager.apn :=
  ⟨fun _ _ => rfl, fun _ _ => rfl⟩

/-- To hang up is `aside`. -/
theorem aside_of_hangsUp {c : GsmCall} (h : hangsUp c) : c.aside := by
  rcases h with hs | rfl | rfl
  · exact GsmCall.aside_of_silent hs
  · exact ⟨rfl, nofun⟩
  · exact ⟨rfl, nofun⟩

theorem honours_init : Honours Pledge.Fits init := by
  refine (spares_init_keyless unmoved_apn).honours fun c hc => ⟨hc.2, ?_⟩
  rintro rfl
  rcases hc.1 with (hs | ⟨_, _, h⟩) | (hs | ⟨_, h⟩ | ⟨_, h⟩) | h
  · cases hs
  · cases h
  · cases hs
  · cases h
  · cases h
  · cases h

theorem honours_deinit : Honours Pledge.Fits deinit := by
  refine (spares_deinit_keyless unmoved_apn).honours fun c hc =>
    ⟨hc.2, ?_⟩
  rintro rfl
  rcases hc.1 with h | ⟨_, h⟩ | h
  · exact (aside_of_hangsUp h).2 rfl
  · cases h
  · cases h

end Manager

/-- An operation that begins with a pledge that `Fits` ends with one. -/
theorem Operation.honours (o : Operation) :
    Manager.Honours Pledge.Fits o.act := by
  cases o with
  | init => exact Manager.honours_init
  | connect => exact Manager.honours_connect
  | bringUp =>
    refine Manager.honours_init.bind fun r => ?_
    cases r with
    | ok => exact Manager.honours_connect
    | error e => exact Manager.honours_pure _
  | disconnect =>
    exact (Manager.spares_disconnect fun _ _ => rfl).honours
      fun _ => Manager.aside_of_hangsUp
  | deinit => exact Manager.honours_deinit
  | signalStrength =>
    refine (Manager.spares_signalStrength fun _ _ => rfl).honours
      fun c hc => ?_
    rcases hc with hs | rfl | rfl
    · exact GsmCall.aside_of_silent hs
    · exact ⟨rfl, nofun⟩
    · exact ⟨rfl, nofun⟩

end Uplink.Gsm
