/-
The modem's side and what is known of a session.

Most calls of the cellular link leave alone what is known of a session,
but for telling the PPP task to stop (`Call.mild`). The others are few,
and each is asked for where it does no harm: a session is started only
while the interface is heard, and given up, or the interface taken down,
only where data mode was left and so no session runs (`Gsm.footing`). A
confirmation finds an address only while the session runs, and whatever
ends the session after that, the record hears of it.

`Bound` ties what the calls tell of the session to what is known of it.
Every call of the cellular link keeps it (`Cellular.ensures_bound`).
-/
import Uplink.Proofs.Board.Channel
import Uplink.Proofs.Board.Tally

namespace Uplink.Board

open Gsm (Footing footing GsmCall)
open Modem (Mode)
open Proc (Ensures Meets asks_ask asks_bind)

variable {α β ρ : Type} {t : Tally}

-- ============================================================ its contract

/-- The modem's side moves who hears PPP, and what is confirmed. -/
def confirming : Contract Board Tally :=
  Tally.sharing (fun t => (t.confirmed, t.listening)) (fun _ => True)
    fun _ => True

/-- The call is `aloof`, or has a session stop. -/
def Call.mild (c : Call) : Prop :=
  c.aloof ∨ c.waits = true ∨ c = .shared (.direct .stop)
    ∨ c = .shared .clearStopped

/-- A session that was confirmed, and who hears it. -/
def Tally.Kept (t t' : Tally) : Prop :=
  t'.Joined ∧ t'.confirmed = t.confirmed ∧ t'.listening = t.listening

/-- Mild calls keep a `Tally` as it was, but for what PPP itself
reports. -/
theorem preserves_mild (t : Tally) :
    confirming.Preserves Call.mild t.Kept := by
  rintro c t' hc ⟨hj, hk⟩
  have own : (t'.confirmed, t'.listening) = (t.confirmed, t.listening) :=
    Prod.ext hk.1 hk.2
  have kept : confirming.Preserves Call.aloof fun t' => t'.Joined
      ∧ (t'.confirmed, t'.listening) = (t.confirmed, t.listening) :=
    Tally.preserves_aloof (fun _ _ _ => trivial) trivial
  rcases hc with hc | hw | rfl | rfl
  · obtain ⟨ha, hm⟩ := kept c t' hc ⟨hj, own⟩
    refine ⟨ha, fun r t'' h => ?_⟩
    obtain ⟨hj'', own''⟩ := hm r t'' h
    exact ⟨hj'', congrArg (·.1) own'', congrArg (·.2) own''⟩
  · cases c with
    | await waits =>
      refine ⟨⟨hj, trivial⟩, fun place t'' h => ?_⟩
      have own'' := h.2.trans own
      exact ⟨h.1, congrArg (·.1) own'', congrArg (·.2) own''⟩
    | _ => cases hw
  · refine ⟨trivial, fun r t'' h => ?_⟩
    rw [show t'' = _ from h.2]
    exact ⟨hj.told nofun, hk⟩
  · refine ⟨trivial, fun r t'' h => ?_⟩
    rw [show t'' = _ from h.2]
    exact ⟨hj, hk⟩

/-- What a call that does not wait comes to is what the `Tally` tells. -/
theorem meets_confirm {c : Call} {Q : c.Answer → Tally → Prop}
    (hw : c.waits = false)
    (hQ : ∀ r, t.tells c r → Q r (t.after c r)) :
    (ask c).Meets confirming t Q :=
  Tally.meets_told hw trivial hQ

-- ========================================================== mild programs

/-- The program makes `mild` calls only. -/
def Mild (act : StateT ρ (Proc Board) α) : Prop :=
  ∀ m, (act.run m).Asks Call.mild

theorem Mild.bind {act : StateT ρ (Proc Board) α}
    {f : α → StateT ρ (Proc Board) β} (h : Mild act)
    (hf : ∀ a, Mild (f a)) : Mild (act >>= f) :=
  fun m => asks_bind (h m) fun x => hf x.1 x.2

theorem mild_lift {p : Proc Board α} (hp : p.Asks Call.mild) :
    Mild (liftM p : StateT ρ (Proc Board) α) :=
  fun _ => asks_bind hp fun _ => trivial

theorem mild_aloof {p : Proc Board α} (hp : Aloof p) :
    Mild (liftM p : StateT ρ (Proc Board) α) :=
  mild_lift (Proc.Asks.mono hp fun _ => .inl)

theorem mild_get : Mild (get : StateT ρ (Proc Board) ρ) :=
  fun _ => trivial

theorem mild_modify (f : ρ → ρ) :
    Mild (modify f : StateT ρ (Proc Board) PUnit) :=
  fun _ => trivial

theorem mild_pure (a : α) : Mild (pure a : StateT ρ (Proc Board) α) :=
  fun _ => trivial

/-- What it leaves is `Joined`, and confirmed and heard as before. -/
theorem Mild.ensures {act : StateT ρ (Proc Board) α} (h : Mild act)
    {m : ρ} (hj : t.Joined) :
    Ensures confirming act m t fun _ _ t' => t.Kept t' :=
  Proc.Asks.meets (h m) (preserves_mild t) ⟨hj, rfl, rfl⟩

namespace HandOver

theorem mild_channel (act : Modem.Channel.Act α) : Mild (channel act) :=
  fun _ => Proc.Stays.within
    (Proc.asks_of_forall (P := fun _ => True) (fun _ => trivial) _)
    fun c _ => Proc.Asks.mono (Line.aloof_answer c) fun _ => .inl

theorem mild_stopSession : stopSession.Asks Call.mild :=
  asks_bind (asks_ask.2 (.inr (.inr (.inl rfl)))) fun _ =>
    asks_bind (asks_bind (asks_ask.2 (.inr (.inl rfl))) fun _ => trivial)
      fun _ => asks_ask.2 (.inr (.inr (.inr rfl)))

/-- Anything but a dial is a program of the plain channel, after the end
of a session or right away. -/
theorem asks_answer {P : Call → Prop} (hstop : stopSession.Asks P)
    (hchannel : ∀ {α : Type} (act : Modem.Channel.Act α) mode,
      ((channel act).run mode).Asks P)
    {call : Modem.SessionCall} (hc : call ≠ .switch .data)
    (mode : Modem.Mode) : ((answer call).run mode).Asks P := by
  have stopped {α : Type} (act : Modem.Channel.Act α) :
      (StateT.run (do
        let _ ← (stopSession : Act Unit)
        channel act) mode).Asks P :=
    asks_bind (asks_bind hstop fun _ => trivial) fun _ => hchannel _ _
  cases call with
  | exchange command success failure timeout =>
    show (StateT.run (if _ then _ else _ : Act _) mode).Asks P
    split
    · exact stopped _
    · exact hchannel _ _
  | switch target =>
    cases target with
    | data => exact absurd rfl hc
    | command =>
      show (StateT.run (if _ then _ else _ : Act _) mode).Asks P
      split
      · exact stopped _
      · exact hchannel _ _
  | _ => exact hchannel _ _

/-- Anything but a dial is `Mild`. -/
theorem mild_answer (call : Modem.SessionCall)
    (hc : call ≠ .switch .data) : Mild (answer call) :=
  asks_answer mild_stopSession mild_channel hc

/-- A start is for nobody but a record that hears of the session. -/
theorem confirming_dial {mode : Mode} (hj : t.Joined)
    (hl : t.listening = true) :
    Ensures confirming (answer (.switch .data)) mode t
      fun _ _ t' => t'.Joined ∧ t'.listening = true := by
  refine Proc.ensures_bind.2 (((mild_channel _).ensures hj).mono
    fun r mode' t₁ h₁ => ?_)
  obtain ⟨hj₁, -, hl₁⟩ := h₁
  cases r with
  | error e => exact ⟨hj₁, hl₁.trans hl⟩
  | ok =>
    refine Proc.ensures_bind.2 (Proc.ensures_monadLift.2
      (Proc.meets_bind.2 (meets_confirm rfl fun _ _ =>
        meets_confirm rfl fun _ _ => ?_)))
    exact ⟨⟨hj₁.agreed, hj₁.running, hj₁.peer, fun _ => hl₁.trans hl,
      nofun⟩, hl₁.trans hl⟩

end HandOver

namespace Cellular

variable {parts : Parts}

/-- What is neither about the dial nor about who hears the interface is
`Mild`. -/
theorem mild_answer (c : GsmCall) (hc : c.modest) : Mild (answer c) := by
  cases c with
  | modem call =>
    -- the switch to data mode is the one modem call that is not modest
    have dialled : call ≠ .switch .data := by
      rintro rfl
      exact hc
    exact mild_get.bind fun p =>
      (mild_lift (HandOver.mild_answer call dialled p.mode)).bind fun x =>
        (mild_modify _).bind fun _ => mild_pure _
  | drive pin high =>
    exact (mild_aloof (p := ask (.drive pin high))
      (asks_ask.2 trivial)).bind fun _ => mild_pure _
  | netif call =>
    cases call with
    | create => exact (mild_modify _).bind fun _ => mild_pure _
    | setDns primary secondary => exact mild_aloof (Ppp.aloof_setDns _ _)
    | setAuth username password => exact mild_aloof (Ppp.aloof_setAuth _ _)
    | _ => exact hc.elim
  | record call =>
    cases call with
    | isConnected => exact mild_aloof (aloof_shared rfl rfl)
    | resetEvents => exact mild_aloof (aloof_shared rfl rfl)
    | _ => exact hc.elim
  | awaitEvent timeout =>
    exact (mild_aloof (aloof_limit timeout aloof_takeEvent)).bind
      fun _ => mild_pure _
  | resolve host timeout =>
    exact mild_aloof (aloof_limit timeout (Ppp.aloof_resolve host))
  | build => exact hc.elim

theorem mild_build (uart : Config.Uart) : Mild (build uart) := by
  have made : Mild (do
      ask (.line (.attach .command))
      modify fun p => { p with mode := .command }
      pure (.ok ()) : Act (Except Modem.ChannelError Unit)) :=
    (mild_aloof (p := ask (.line (.attach .command)))
      (asks_ask.2 trivial)).bind fun _ =>
        (mild_modify _).bind fun _ => mild_pure _
  have warned (line : Line) : Aloof (log line) := asks_ask.2 trivial
  refine mild_get.bind fun p => ?_
  show Mild (if _ then _ else _)
  split
  · exact (mild_aloof (warned _)).bind fun _ => made
  · exact made

end Cellular

-- ================================================ what the calls tell of it

/-- The tally is as the calls tell. -/
structure Tally.Fits (t : Tally) (y : Footing) : Prop where
  joined : t.Joined
  heard : t.listening = y.heard
  confirmed : y.tie = .confirmed → t.confirmed = true

/-- No session runs, and none is about to. -/
def Tally.Still (t : Tally) : Prop :=
  t.running = false ∧ t.control ≠ some .start

/-- Where no session runs no peer is noted. -/
theorem Tally.Joined.peer_none (h : t.Joined) (still : t.Still) :
    t.peer = none := by
  cases hp : t.peer with
  | none => rfl
  | some info =>
    have hr := h.running (by rw [hp]; rfl)
    exact absurd (still.1.symm.trans hr) nofun

/-- Without a session there is nothing to be `Joined`. -/
theorem Tally.Joined.of_still (still : t.Still) (ha : t.address = none)
    (hp : t.peer = none) (hc : t.connected = false) : t.Joined := by
  refine ⟨ha.trans hp.symm, fun h => ?_, fun h => ?_, fun h => ?_,
    fun _ => ⟨still.2, fun h => ?_⟩⟩
  · rw [hp] at h
    cases h
  · rw [hc] at h
    cases h
  · rcases h with h | h
    · exact absurd (still.1.symm.trans h) nofun
    · exact absurd h still.2
  · exact absurd (still.1.symm.trans h) nofun

/-- Where no session runs the link is not connected. -/
theorem Tally.Joined.disconnected (h : t.Joined) (still : t.Still) :
    t.connected = false := by
  cases hc : t.connected with
  | false => rfl
  | true =>
    have hp := h.peer hc
    rw [h.peer_none still] at hp
    cases hp

namespace Cellular

variable {parts : Parts} {y : Footing}

/-- Modest calls leave it as it is, or leave data mode. -/
theorem fits_of_modest {c : GsmCall} (hc : c.modest) (h : t.Fits y)
    {t' : Tally} (hk : t.Kept t') (r : c.Answer) :
    t'.Fits (y.after c r) := by
  obtain ⟨hj, hconfirmed, hl⟩ := hk
  rcases Footing.after_of_modest hc y r with ha | ha
  · rw [ha]
    exact ⟨hj, hl.trans h.heard,
      fun hy => hconfirmed.trans (h.confirmed hy)⟩
  · rw [ha]
    exact ⟨hj, hl.trans h.heard, nofun⟩

/-- A confirmation (`markConnected`) that finds an address finds a session,
and none is about to start where one runs. -/
theorem confirming_markConnected (h : t.Fits y)
    (unstarted : t.running = true → t.control ≠ some .start) :
    Ensures confirming (answer (.record .markConnected)) parts t
      fun r _ t' => t'.Fits (y.after (.record .markConnected) r) := by
  refine Proc.ensures_monadLift.2 (meets_confirm rfl fun r htold => ?_)
  cases r with
  | false => exact h
  | true =>
    have hp : t.peer.isSome = true := h.joined.agreed ▸ htold rfl
    have confirmed :
        (t.after (.shared (.record .markConnected)) true).Joined :=
      ⟨h.joined.agreed, h.joined.running, fun _ => hp, h.joined.heard,
        fun _ => ⟨unstarted (h.joined.running hp), fun _ => rfl⟩⟩
    refine ⟨confirmed, h.heard.trans ?_, fun _ => rfl⟩
    show y.heard = (if y.tie = .dialled then _ else _ : Footing).heard
    split <;> rfl

/-- Whatever is asked for where it may be, the tally is as the calls
tell. -/
theorem confirming_answer (c : GsmCall) (ha : footing.allows c y)
    (h : t.Fits y) (unstarted : t.running = true → t.control ≠ some .start)
    (still : y.tie = .parted → t.Still) :
    Ensures confirming (answer c) parts t fun r _ t' =>
      t'.Fits (y.after c r) := by
  -- modest calls keep what was confirmed; the others are looked at one by
  -- one
  by_cases hc : c.modest
  · exact ((mild_answer c hc).ensures h.joined).mono
      fun r _ _ hk => fits_of_modest hc h hk r
  cases c with
  | modem call =>
    cases call with
    | switch target =>
      cases target with
      | command => exact absurd trivial hc
      | data =>
        obtain ⟨hy, hheard⟩ := ha
        refine ensures_modem ((HandOver.confirming_dial h.joined
          (h.heard.trans hheard)).mono fun r _ t' ht' => ?_)
        refine ⟨ht'.1, ht'.2.trans hheard.symm, fun hy' => ?_⟩
        cases r with
        | ok => cases hy'
        | error e =>
          have hy' : y.tie = .confirmed := hy'
          rw [hy] at hy'
          cases hy'
    | _ => exact absurd trivial hc
  -- the interface goes only where data mode was left, so no session runs
  | netif call =>
    cases call with
    | destroy =>
      have still := still ha
      refine Proc.ensures_bind.2 (Proc.ensures_monadLift.2
        (meets_confirm rfl fun _ _ => ?_))
      refine Proc.ensures_bind.2 (Proc.ensures_monadLift.2
        (meets_confirm rfl fun _ _ => ?_))
      have hp := h.joined.peer_none still
      exact ⟨.of_still still (h.joined.agreed.trans hp) rfl
        (h.joined.disconnected still), h.heard, h.confirmed⟩
    | subscribe =>
      show Ensures confirming Ppp.subscribe parts t _
      unfold Ppp.subscribe
      rw [Proc.ensures_bind, Proc.ensures_get]
      split
      · refine Proc.ensures_bind.2 (Proc.ensures_monadLift.2
          (meets_confirm rfl fun _ _ => ?_))
        exact ⟨⟨h.joined.agreed, h.joined.running, h.joined.peer,
          fun _ => rfl, h.joined.confirmed⟩, rfl, h.confirmed⟩
      · exact h
    | unsubscribe =>
      have still := still ha
      refine Proc.ensures_monadLift.2 (meets_confirm rfl fun _ _ => ?_)
      have hp := h.joined.peer_none still
      exact ⟨.of_still still (h.joined.agreed.trans hp) hp
        (h.joined.disconnected still), rfl, h.confirmed⟩
    | _ => exact absurd trivial hc
  | record call =>
    cases call with
    | markConnected => exact confirming_markConnected h unstarted
    | markDisconnected =>
      have still := still ha
      refine Proc.ensures_monadLift.2 (meets_confirm rfl fun _ _ => ?_)
      exact ⟨.of_still still rfl (h.joined.peer_none still) rfl, h.heard,
        h.confirmed⟩
    | _ => exact absurd trivial hc
  | build uart =>
    refine ((mild_build uart).ensures h.joined).mono fun r _ _ hk => ?_
    exact ⟨hk.1, hk.2.2.trans h.heard, fun hy => hk.2.1.trans
      (h.confirmed hy)⟩
  | _ => exact absurd trivial hc

end Cellular

end Uplink.Board
