/-
How a session stands, as far as the manager's calls tell.

Whoever implements the command channel and the interface may rely on the
order in which the manager uses them. Data mode is asked for only after an
escape or a request for command mode, with nothing dialled in between, and
only while the interface is heard. What would take a session by surprise,
to stop hearing the interface, to take it down or to give the session up,
is asked for only where data mode was left, and so is a new channel.
Whether the modem obeyed is another matter.

The calls with their answers tell how things stand (`Footing.after`), and
the contract says what may be asked for there (`footing`). An operation
never ends between a dial and its confirmation: it either had the session
confirmed or left data mode again (`Operation.keepsFooting`).
-/
import Uplink.Proofs.Gsm.Lifecycle

namespace Uplink.Gsm

open Modem (SessionCall escapeSequence)
open Proc (Either Ensures)
open Timing

variable {α β : Type}

-- ========================================================== the contract

/-- How the line is tied to a session: how far the last dial got. -/
inductive Tie where
  /-- data mode was left, or never asked for -/
  | parted
  | dialled
  /-- the session that was dialled was confirmed -/
  | confirmed
deriving DecidableEq, Repr

def Tie.after (tie : Tie) : (call : SessionCall) → call.Answer → Tie
  | .exchange command .., _ =>
    if command = escapeSequence then parted else tie
  | .switch .command, _ => parted
  | .switch .data, .ok _ => dialled
  | _, _ => tie

structure Footing where
  tie : Tie
  /-- what the interface reports is heard -/
  heard : Bool

namespace Footing

def after (x : Footing) : (c : GsmCall) → c.Answer → Footing
  | .modem call, r => { x with tie := x.tie.after call r }
  | .netif .subscribe, .ok _ => { x with heard := true }
  | .netif .unsubscribe, _ => { x with heard := false }
  | .record .markConnected, true =>
    if x.tie = .dialled then { x with tie := .confirmed } else x
  | _, _ => x

/-- Data mode is left. -/
def part (x : Footing) : Footing :=
  { x with tie := .parted }

end Footing

def footing : Contract Surroundings Footing where
  allows c x :=
    match c with
    | .modem (.switch .data) => x.tie = .parted ∧ x.heard = true
    | .build _ => x.tie = .parted
    | .netif .destroy => x.tie = .parted
    | .netif .unsubscribe => x.tie = .parted
    | .record .markDisconnected => x.tie = .parted
    | _ => True
  moves c x r x' := x' = x.after c r

/-- The call is always allowed, and at most leaves data mode. -/
def GsmCall.modest : GsmCall → Prop
  | modem (.switch .data) => False
  | netif .destroy => False
  | netif .subscribe => False
  | netif .unsubscribe => False
  | build _ => False
  | record .markConnected => False
  | record .markDisconnected => False
  | _ => True

namespace Footing

variable {c : GsmCall} {x : Footing}

/-- A call that is `modest` is allowed. -/
theorem allows_of_modest (hc : c.modest) : footing.allows c x := by
  cases c with
  | modem call =>
    cases call with
    | switch target =>
      cases target with
      | data => exact hc.elim
      | command => trivial
    | _ => trivial
  | netif call =>
    cases call with
    | destroy => exact hc.elim
    | subscribe => exact hc.elim
    | unsubscribe => exact hc.elim
    | _ => trivial
  | record call =>
    cases call with
    | markConnected => exact hc.elim
    | markDisconnected => exact hc.elim
    | _ => trivial
  | build => exact hc.elim
  | _ => trivial

/-- A call that is `modest` leaves the `Footing` as it is, or parts it. -/
theorem after_of_modest (hc : c.modest) (x : Footing) (r : c.Answer) :
    x.after c r = x ∨ x.after c r = x.part := by
  cases c with
  | modem call =>
    cases call with
    | exchange command success failure timeout =>
      by_cases he : command = escapeSequence
      · exact .inr (congrArg (Footing.mk · x.heard) (if_pos he))
      · exact .inl (congrArg (Footing.mk · x.heard) (if_neg he))
    | switch target =>
      cases target with
      | data => exact hc.elim
      | command => exact .inr rfl
    | _ => exact .inl rfl
  | netif call =>
    cases call with
    | destroy => exact hc.elim
    | subscribe => exact hc.elim
    | unsubscribe => exact hc.elim
    | _ => exact .inl rfl
  | record call =>
    cases call with
    | markConnected => exact hc.elim
    | markDisconnected => exact hc.elim
    | _ => exact .inl rfl
  | build => exact hc.elim
  | _ => exact .inl rfl

/-- What outlives data mode, `modest` calls keep. -/
theorem preserves_modest {inv : Footing → Prop}
    (hinv : ∀ x, inv x → inv x.part) :
    footing.Preserves GsmCall.modest inv := by
  refine fun c x hc hx => ⟨allows_of_modest hc, fun r x' hr => ?_⟩
  have hr : x' = x.after c r := hr
  rcases after_of_modest hc x r with h | h
  · rw [hr, h]
    exact hx
  · rw [hr, h]
    exact hinv x hx

/-- Where data mode was left, calls that are `modest` change nothing
more. -/
theorem preserves_parted (y : Footing) :
    footing.Preserves GsmCall.modest fun x => x = y.part :=
  preserves_modest fun _ hx => by rw [hx]; rfl

/-- Calls that are `modest` leave who hears PPP. -/
theorem preserves_heard :
    footing.Preserves GsmCall.modest fun x => x.heard = true :=
  preserves_modest fun _ hx => hx

/-- After a `modest` program that begins by leaving data mode, it is
left. -/
theorem meets_leaving {p : Proc Surroundings α}
    {k : c.Answer → Proc Surroundings α} (hp : p.Asks GsmCall.modest)
    (hk : p = .call c k) (hc : ∀ r, x.after c r = x.part) :
    p.Meets footing x fun _ x' => x' = x.part := by
  subst hk
  exact ⟨allows_of_modest hp.1, fun r _ hr =>
    Proc.Asks.meets (hp.2 r) (preserves_parted x) (hr.trans (hc r))⟩

end Footing

-- ===================================================== modest programs

namespace Manager

variable {m : Manager} {x : Footing}

theorem modest_of_silent {c : GsmCall} (h : c.silent = true) :
    c.modest := by
  cases c with
  | modem call =>
    cases call with
    | pause ms => trivial
    | log line => trivial
    | _ => cases h
  | _ => cases h

theorem modest_of_prepares {c : GsmCall} (h : prepares c) : c.modest := by
  rcases prepares_cases h with hs | ⟨_, _, -, rfl⟩ | rfl
    | ⟨_, _, rfl⟩ | rfl
  · exact modest_of_silent hs
  · trivial
  · trivial
  · trivial
  · trivial

theorem modest_of_resolves {c : GsmCall} (h : resolves c) : c.modest := by
  rcases h with hs | ⟨_, _, rfl⟩ | ⟨_, _, rfl⟩
  · exact modest_of_silent hs
  · trivial
  · trivial

theorem modest_of_measures {c : GsmCall} (h : measures c) : c.modest := by
  rcases h with hs | rfl | rfl
  · exact modest_of_silent hs
  · trivial
  · trivial

theorem modest_of_resets {c : GsmCall} (h : resets c) : c.modest := by
  rcases h with hs | ⟨_, _, rfl⟩
  · exact modest_of_silent hs
  · trivial

theorem modest_of_remarks {c : GsmCall} (h : remarks c) : c.modest := by
  rcases h with hs | rfl
  · exact modest_of_silent hs
  · trivial

/-- A call that is allowed goes on from what it makes of the `footing`. -/
theorem ensures_asked {c : GsmCall} {f : c.Answer → Act β}
    {Q : β → Manager → Footing → Prop} (hc : footing.allows c x)
    (hf : ∀ r, Ensures footing (f r) m (x.after c r) Q) :
    Ensures footing (ask c >>= f) m x Q := by
  refine Proc.ensures_bind.2 (Proc.ensures_lift.2 (Proc.meets_ask.2
    ⟨hc, fun r x' hr => ?_⟩))
  rw [show x' = x.after c r from hr]
  exact hf r

/-- A forced escape is an escape, whatever the modem answers. -/
theorem meets_forceCommandMode (x : Footing) :
    (Surroundings.ofSession Steps.forceCommandMode).Meets footing x
      fun _ x' => x' = x.part := by
  have asked : (Surroundings.ofSession Steps.forceCommandMode).Asks
      GsmCall.modest := by
    refine Surroundings.asks_ofSession
      (Step.within_forceCommandMode.mono fun c hc => ?_)
    rcases hc with hs | hc | hc
    · exact modest_of_silent hs
    · rw [hc]
      trivial
    · rw [hc]
      trivial
  exact Footing.meets_leaving asked rfl fun _ => rfl

/-- A session that did not come up is left. -/
theorem footing_abort (why : String) :
    Ensures footing (abort why) m x fun _ m' x' =>
      m' = m ∧ x' = x.part := by
  have asked : (Surroundings.ofSession Steps.abortDataSession).Asks
      GsmCall.modest :=
    Surroundings.asks_ofSession (asks_abortDataSession trivial trivial
      fun _ => trivial)
  refine ensures_asked trivial fun _ => ?_
  exact Proc.ensures_bind.2 (Proc.ensures_lift.2
    ((Footing.meets_leaving asked rfl fun _ => rfl).mono
      fun _ x₂ hx₂ => ⟨rfl, hx₂⟩))

-- ============================================================ connecting

/-- How a connection may end: confirmed, or with data mode left. -/
def Settled (m m' : Manager) (x : Footing) : Prop :=
  m'.standing = m.standing ∧ x.tie ≠ .dialled ∧ x.heard = true

theorem Settled.of_part {m' : Manager} (hm : m'.standing = m.standing)
    (hx : x.heard = true) : Settled m m' x.part :=
  ⟨hm, nofun, hx⟩

/-- A confirmation (`markConnected`) settles what was dialled. -/
theorem Settled.of_confirmed {m' : Manager}
    (hm : m'.standing = m.standing) (hx : x.heard = true) :
    Settled m m' (x.after (.record .markConnected) true) := by
  show Settled m m' (if x.tie = .dialled then _ else _)
  split
  · exact ⟨hm, nofun, hx⟩
  · exact ⟨hm, ‹_›, hx⟩

/-- A session is confirmed, or data mode is left. -/
theorem footing_awaitSession (hx : x.heard = true) :
    Ensures footing awaitSession.run m x fun _ m' x' =>
      Settled m m' x' := by
  have aborting (why : String) {m' : Manager} {x : Footing}
      (hm : m'.standing = m.standing) (hx : x.heard = true) :
      Ensures footing (abort why) m' x fun _ m' x' => Settled m m' x' := by
    refine (footing_abort why).mono fun _ m'' x' h => ?_
    obtain ⟨rfl, rfl⟩ := h
    exact .of_part hm hx
  have said (line : Line) : Passive GsmCall.modest (log line) :=
    passive_ask trivial
  have wait : Passive GsmCall.modest
      (ask (.awaitEvent pppConnectTimeout)) := passive_ask trivial
  have resolved : Passive GsmCall.modest setUpResolvers :=
    passive_setUpResolvers.mono fun _ => modest_of_resolves
  unfold awaitSession
  rw [ExceptT.run_mk]
  refine (said _).leads Footing.preserves_heard hx
    fun _ m₁ x₁ hm₁ hx₁ => ?_
  refine wait.leads Footing.preserves_heard hx₁
    fun event m₂ x₂ hm₂ hx₂ => ?_
  have hm := hm₂.trans hm₁
  -- an address alone goes on to the confirmation, which may still be
  -- refused
  rcases event with _ | info | _ | code
  · exact aborting _ hm hx₂
  · refine resolved.leads Footing.preserves_heard hx₂
      fun _ m₃ x₃ hm₃ hx₃ => ?_
    refine ensures_asked trivial fun confirmed => ?_
    cases confirmed with
    | true => exact .of_confirmed (hm₃.trans hm) hx₃
    | false => exact aborting _ (hm₃.trans hm) hx₃
  · exact aborting _ hm hx₂
  · exact aborting _ hm hx₂

/-- A connection may dial when it comes to that, wherever it began. -/
theorem footing_sequence (hx : x.heard = true) :
    Ensures footing sequence.run m x fun _ m' x' => Settled m m' x' := by
  -- a modest call leaves a parted footing as it is, and so does all that
  -- comes before the dial
  have parted {P : GsmCall → Prop} (hP : ∀ c, P c → c.modest) :
      footing.Preserves P fun y => y = x.part :=
    fun c y hc => Footing.preserves_parted x c y (hP c hc)
  have switched (y : Footing) (hy : y = x.part) :
      footing.allows (.modem (.switch .data)) y
        ∧ ∀ r y', footing.moves (.modem (.switch .data)) y r y' →
          Either (y'.heard = true) (y' = x.part) r := by
    subst hy
    refine ⟨⟨rfl, hx⟩, fun r y' hr => ?_⟩
    cases r with
    | ok => exact hr ▸ hx
    | error e => exact hr
  refine ensures_sequence (parted fun _ => modest_of_prepares)
    (meets_forceCommandMode x)
    (fun _ _ _ hm hy => hy ▸ Settled.of_part hm hx) fun m₁ y hm hy => ?_
  refine Proc.ensures_attempt_bind.2 ((ensures_dial
    (parted fun _ => modest_of_remarks)
    (fun c y hc => Footing.preserves_heard c y (modest_of_silent hc))
    switched hy).mono fun r m₂ y₂ hr => ?_)
  obtain ⟨rfl, hr⟩ := hr
  cases r with
  | ok =>
    refine (footing_awaitSession hr).mono fun _ m' x' h => ?_
    exact ⟨h.1.trans hm, h.2⟩
  | error e =>
    rw [show y₂ = x.part from hr]
    exact .of_part hm hx

-- ============================================================ operations

/-- How things stand between operations. -/
structure Footed (m : Manager) (x : Footing) : Prop where
  settled : x.tie ≠ .dialled
  parted : m.active = false → x.tie = .parted
  heard : m.active = true → x.heard = true

theorem Footed.part (h : m.Footed x) : m.Footed x.part :=
  ⟨nofun, fun _ => rfl, h.heard⟩

/-- Calls that are `modest` leave things as they stand between
operations. -/
theorem preserves_footed (m : Manager) :
    footing.Preserves GsmCall.modest m.Footed :=
  Footing.preserves_modest fun _ => Footed.part

theorem Footed.of_active {m' : Manager} (h : m.Footed x)
    (ha : m'.active = m.active) : m'.Footed x :=
  ⟨h.settled, ha ▸ h.parted, ha ▸ h.heard⟩

/-- However a connection ended, things are as they stand between
operations. -/
theorem Footed.of_settled {m' : Manager} (ha : m.active = true)
    (h : Settled m m' x) : m'.Footed x := by
  have ha' := (active_of_standing h.1).trans ha
  exact ⟨h.2.1, fun hi => absurd hi (by simp [ha']), fun _ => h.2.2⟩

/-- The operation leaves things as they stand between operations. -/
def KeepsFooting (act : Act α) : Prop :=
  ∀ m x, m.Footed x →
    Ensures footing act m x fun _ m' x' => m'.Footed x'

/-- An operation of `modest` calls, which spares the `standing`, keeps its
footing. -/
theorem Spares.keepsFooting {act : Act α}
    (h : Spares standing GsmCall.modest act) : KeepsFooting act := by
  intro m x hx
  refine (h.ensures (preserves_footed m) hx).mono fun _ m' x' ha => ?_
  exact ha.2.of_active (active_of_standing ha.1)

theorem keepsFooting_log (line : Line) (a : α) :
    KeepsFooting (log line >>= fun _ => pure a) :=
  Spares.keepsFooting ((passive_ask trivial).bind fun _ => passive_pure a)

/-- A channel is made where nothing is set up, and then the interface is
heard. -/
theorem footing_build (hx : x.tie = .parted) (ha : m.active = false) :
    Ensures footing build m x fun _ m' x' => m'.Footed x' := by
  -- what is taken down again was never dialled
  have refused (stage : InitStage) {m' : Manager} {x' : Footing}
      (hx' : x'.tie = .parted) (ha' : m'.active = false) :
      Ensures footing (refuse stage) m' x' fun _ m'' x'' =>
        m''.Footed x'' :=
    ⟨by rw [hx']; exact nofun, fun _ => hx', by simp [ha']⟩
  unfold build
  rw [Proc.ensures_bind, Proc.ensures_get]
  refine ensures_asked trivial fun created => ?_
  cases created with
  | error e => exact ensures_asked trivial fun _ => refused _ hx ha
  | ok =>
    refine ensures_asked trivial fun subscribed => ?_
    cases subscribed with
    | error e =>
      exact ensures_asked trivial fun _ => ensures_asked hx fun _ =>
        refused _ hx ha
    | ok =>
      refine ensures_asked hx fun built => ?_
      cases built with
      | error e =>
        exact ensures_asked trivial fun _ => ensures_asked hx fun _ =>
          ensures_asked hx fun _ => refused _ hx ha
      | ok =>
        rw [Proc.ensures_bind, Proc.ensures_modify, Proc.ensures_bind]
        refine keepsFooting_log _ _ _ _ ⟨?_, nofun, fun _ => rfl⟩
        show x.tie ≠ .dialled
        rw [hx]
        exact nofun

theorem keepsFooting_init : KeepsFooting init := by
  intro m x hx
  unfold init
  rw [Proc.ensures_bind, Proc.ensures_get]
  split
  · exact keepsFooting_log _ _ m x hx
  next ha =>
    have ha : m.active = false := Bool.eq_false_iff.2 ha
    have parted : footing.Preserves GsmCall.modest
        fun x => x.tie = .parted :=
      Footing.preserves_modest fun _ _ => rfl
    have said : Passive GsmCall.modest
        (log (.info "Initializing GSM manager")) := passive_ask trivial
    have forgotten : Passive GsmCall.modest
        (ask (.record .resetEvents)) := passive_ask trivial
    refine said.leads parted (hx.parted ha) fun _ m₁ x₁ hm₁ hx₁ => ?_
    have reset : Ensures footing hardwareReset m₁ x₁ fun _ m' x' =>
        m' = { m₁ with recorded := .hardwareReset } ∧ x'.tie = .parted :=
      ((stays_hardwareReset m₁).mono (fun _ => modest_of_resets)
        fun _ hx => hx).meets parted hx₁
    refine Proc.ensures_bind.2 (reset.mono fun _ m₂ x₂ h₂ => ?_)
    obtain ⟨rfl, hx₂⟩ := h₂
    refine forgotten.leads parted hx₂ fun _ m₃ x₃ hm₃ hx₃ => ?_
    refine footing_build hx₃ ((active_of_standing hm₃).trans ?_)
    exact (active_of_standing hm₁).trans ha

/-- Whatever comes of it, `connect` keeps the footing. -/
theorem keepsFooting_connect : KeepsFooting connect := by
  intro m x hx
  unfold connect
  rw [Proc.ensures_bind, Proc.ensures_get]
  split
  · exact keepsFooting_log _ _ m x hx
  next ha =>
    have ha : m.active = true := by simpa using ha
    have looked : Passive GsmCall.modest (ask (.record .isConnected)) :=
      passive_ask trivial
    have said (line : Line) : Passive GsmCall.modest (log line) :=
      passive_ask trivial
    refine looked.leads (preserves_footed m) hx
      fun connected m₁ x₁ hm₁ hx₁ => ?_
    have ha₁ := (active_of_standing hm₁).trans ha
    cases connected with
    | true =>
      exact keepsFooting_log _ _ m₁ x₁ (hx₁.of_active
        (active_of_standing hm₁))
    | false =>
      refine (said _).leads Footing.preserves_heard (hx₁.heard ha)
        fun _ m₂ x₂ hm₂ hx₂ => ?_
      have ha₂ := (active_of_standing hm₂).trans ha₁
      rw [Proc.ensures_bind, ensures_enter, Proc.ensures_bind]
      -- the session is confirmed by then, or data mode left
      refine (footing_sequence hx₂).mono fun r m₃ x₃ h₃ => ?_
      have hx₃ : m₃.Footed x₃ := by
        refine .of_settled (m := { m₂ with recorded := .connecting }) ?_ h₃
        exact ha₂
      cases r with
      | ok =>
        exact keepsFooting_log _ _ _ x₃ (hx₃.of_active rfl)
      | error e =>
        have failed : KeepsFooting (log (.error
            ("GSM connect failed: " ++ e.message))) :=
          (said _).keepsFooting
        refine Proc.ensures_bind.2 ((failed m₃ x₃ hx₃).mono
          fun _ m₄ x₄ hx₄ => ?_)
        exact hx₄.of_active rfl

theorem keepsFooting_bringUp : KeepsFooting bringUp := by
  intro m x hx
  unfold bringUp
  rw [Proc.ensures_bind]
  refine (keepsFooting_init m x hx).mono fun r m' x' hx' => ?_
  cases r with
  | ok => exact keepsFooting_connect m' x' hx'
  | error e => exact hx'

/-- A session is given up where data mode was left. -/
theorem footing_hangUp :
    Ensures footing hangUp m x fun _ m' x' =>
      m'.active = m.active ∧ x' = x.part := by
  have given (m : Manager) :
      Ensures footing
        (ask (.record .markDisconnected) >>= fun _ => enter .disconnected)
        m x.part fun _ m' x' => m'.active = m.active ∧ x' = x.part :=
    ensures_asked rfl fun _ => ⟨rfl, rfl⟩
  refine ensures_asked trivial fun _ => ensures_asked trivial fun r => ?_
  cases r with
  | ok => exact given m
  | error e => exact ensures_asked trivial fun _ => given m

theorem keepsFooting_disconnect : KeepsFooting disconnect := by
  intro m x hx
  unfold disconnect
  rw [Proc.ensures_bind, Proc.ensures_get]
  split
  · refine footing_hangUp.mono fun _ m' x' h => ?_
    obtain ⟨ha, rfl⟩ := h
    exact hx.part.of_active ha
  · have said : Passive GsmCall.modest
        (log (.debug "disconnect() on uninitialized GSM manager")) :=
      passive_ask trivial
    exact said.keepsFooting m x hx

/-- Taking everything down begins with hanging up. -/
theorem keepsFooting_deinit : KeepsFooting deinit := by
  intro m x hx
  unfold deinit
  rw [Proc.ensures_bind, Proc.ensures_get]
  split
  next ha =>
    refine ensures_asked trivial fun _ => ?_
    rw [Proc.ensures_bind]
    unfold disconnect
    rw [Proc.ensures_bind, Proc.ensures_get, if_pos ha]
    refine footing_hangUp.mono fun _ m₁ x₁ h₁ => ?_
    obtain ⟨-, rfl⟩ := h₁
    rw [Proc.ensures_bind, Proc.ensures_modify]
    refine ensures_asked rfl fun _ => ensures_asked rfl fun _ =>
      ensures_asked trivial fun _ => ?_
    exact ⟨nofun, fun _ => rfl, nofun⟩
  · have said : Passive GsmCall.modest (log
        (.debug "GSM manager not initialized, nothing to tear down")) :=
      passive_ask trivial
    exact said.keepsFooting m x hx

theorem keepsFooting_signalStrength : KeepsFooting signalStrength :=
  (passive_signalStrength.mono fun _ => modest_of_measures).keepsFooting

end Manager

/-- Every `Operation` of a manager uses what surrounds it in that order. -/
theorem Operation.keepsFooting (o : Operation) :
    Manager.KeepsFooting o.act := by
  cases o with
  | init => exact Manager.keepsFooting_init
  | connect => exact Manager.keepsFooting_connect
  | bringUp => exact Manager.keepsFooting_bringUp
  | disconnect => exact Manager.keepsFooting_disconnect
  | deinit => exact Manager.keepsFooting_deinit
  | signalStrength => exact Manager.keepsFooting_signalStrength

end Uplink.Gsm
