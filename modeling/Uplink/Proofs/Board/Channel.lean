/-
The modem's side and the signals.

The command channel stops a session before it escapes from data mode, and
starts one when it is in data mode. It may only start one where none runs
or is about to, which it cannot tell by itself: the mode that it remembers
says that much only while it is command mode. For the rest it relies on
being asked for data mode after an escape (`Gsm.footing`). With that it
keeps its side of the hand-over, and so does everything else that the
cellular link asks for (`ensures_answer`).
-/
import Uplink.Board.Cellular
import Uplink.Proofs.Board.Calm
import Uplink.Proofs.Gsm.Footing
import Uplink.Proofs.Modem.Wire

namespace Uplink.Board

open Modem (Mode escapeSequence)
open Proc (Ensures Meets asks_ask asks_bind meets_ask meets_bind)

variable {α : Type} {v : View} {mode : Mode}

-- ============================================================ its contract

/-- The end of a session is waited for only after it was to stop. -/
def Phase.fits (waits : List Wait) (phase : Phase) : Prop :=
  .stopped ∈ waits → waits = [.stopped] ∧ phase = .stopping

/-- A session is started only where none runs or is about to. -/
def Call.manages (c : Call) (v : View) : Prop :=
  c.calm ∨ c = .shared (.direct .stop) ∨ c = .shared .clearStopped
    ∨ c = .shared (.direct .start) ∧ v.phase = .closed

/-- Nobody but the modem's side moves the phase. -/
def managing : Contract Board View :=
  sharing (·.phase) Phase.fits Call.manages

/-- Calm calls leave it `Sound`, and the phase where it was. -/
theorem preserves_calm (phase : Phase) :
    managing.Preserves Call.calm fun v => v.Sound ∧ v.phase = phase := by
  intro c v hc hv
  obtain ⟨hs, hp⟩ := hv
  by_cases hw : c.waits = false
  · have ha : managing.allows c v := by
      cases c with
      | await => cases hw
      | _ => exact .inl hc
    refine ⟨ha, fun r v' h => ?_⟩
    have hg := gist_moves_calm hc hw h
    exact ⟨hs.of_gist hg, (congrArg (·.1) hg).trans hp⟩
  · cases c with
    | await waits =>
      refine ⟨⟨hs, fun h => absurd h hc⟩, fun place v' h => ?_⟩
      exact ⟨h.1, h.2.1.trans hp⟩
    | _ => exact absurd rfl hw

/-- A `calm` program gives what it `Stays` with, and the phase is what it
was. -/
theorem meets_calm {p : Proc Board α} {Q : α → Prop}
    (hp : p.Stays Call.calm Q) (hs : v.Sound) :
    p.Meets managing v fun a v' =>
      Q a ∧ v'.Sound ∧ v'.phase = v.phase :=
  hp.meets (preserves_calm v.phase) ⟨hs, rfl⟩

namespace HandOver

/-- After the wait there is no session, and none is about to start. -/
theorem meets_stopSession (hs : v.Sound) :
    stopSession.Meets managing v fun _ v' =>
      v'.Sound ∧ v'.phase = .closed := by
  refine meets_bind.2 (meets_ask.2
    ⟨.inr (.inl rfl), fun _ v₁ h₁ => ?_⟩)
  obtain ⟨hp₁, hc₁, hd₁, hr₁⟩ := gist_eq_iff.1 (gist_moves rfl h₁)
  have hs₁ : v₁.Sound := by
    have told : v₁.floor.shared.control ≠ some .start := by
      rw [hc₁]
      exact nofun
    refine ⟨fun _ => told, fun h => ?_, fun h => ?_, fun _ => .inr hc₁⟩
    · exact ⟨hr₁.trans (hs.stopped (hd₁.symm.trans h)).stands, told⟩
    · cases hp₁.symm.trans h
  refine meets_bind.2 (meets_bind.2 (meets_ask.2
    ⟨⟨hs₁, fun _ => ⟨rfl, hp₁⟩⟩, fun place v₂ h₂ => ?_⟩))
  obtain ⟨hs₂, hp₂, w, hw, ready⟩ := h₂
  obtain rfl := List.mem_singleton.1 (List.mem_of_getElem? hw)
  have still : v₂.floor.Still := hs₂.stopped ready
  refine meets_ask.2 ⟨.inr (.inr (.inl rfl)), fun _ v₃ h₃ => ?_⟩
  obtain ⟨hp₃, hc₃, hd₃, hr₃⟩ := gist_eq_iff.1 (gist_moves rfl h₃)
  have left : v₃.phase = .closed := by
    rw [hp₃]
    exact if_pos (hp₂.trans hp₁)
  have still₃ : v₃.floor.Still :=
    ⟨hr₃.trans still.stands, hc₃ ▸ still.unstarted⟩
  refine ⟨⟨fun _ => still₃.unstarted, fun _ => still₃, fun _ => still₃,
    fun h => ?_⟩, left⟩
  cases left.symm.trans h

/-- A start is the next thing that the PPP task is told. -/
theorem meets_startSession (hs : v.Sound) (hp : v.phase = .closed) :
    startSession.Meets managing v fun _ v' =>
      v'.Sound ∧ v'.phase = .opened := by
  have still := hs.closed hp
  refine meets_bind.2 (meets_ask.2
    ⟨.inr (.inr (.inl rfl)), fun _ v₁ h₁ => ?_⟩)
  obtain ⟨hp₁, -, hd₁, hr₁⟩ := gist_eq_iff.1 (gist_moves rfl h₁)
  have left : v₁.phase = .closed := by
    rw [hp₁, hp]
    rfl
  refine meets_ask.2 ⟨.inr (.inr (.inr ⟨rfl, left⟩)), fun _ v₂ h₂ => ?_⟩
  obtain ⟨hp₂, -, hd₂, hr₂⟩ := gist_eq_iff.1 (gist_moves rfl h₂)
  have stands : v₂.floor.running = false :=
    hr₂.trans (hr₁.trans still.stands)
  refine ⟨⟨fun h => ?_, fun h => ?_, fun h => ?_, fun h => ?_⟩, hp₂⟩
  · cases stands.symm.trans h
  · cases (hd₂.trans hd₁).symm.trans h
  · cases hp₂.symm.trans h
  · cases hp₂.symm.trans h

/-- What the plain channel can end with, it can end with on the board; and
all its calls are calm. -/
theorem ensures_channel {act : Modem.Channel.Act α} {Q : α → Mode → Prop}
    (h : Proc.Shows act mode fun _ r mode' => Q r mode') (hs : v.Sound) :
    Ensures managing (channel act) mode v fun r mode' v' =>
      Q r mode' ∧ v'.Sound ∧ v'.phase = v.phase := by
  have calm : ((channel act).run mode).Stays Call.calm
      fun x : α × Mode => Q x.1 x.2 :=
    (Proc.Records.stays h).within fun c _ => (Line.aloof_answer c).calm
  exact meets_calm calm hs

end HandOver

/-- How the modem's side stands between its calls. It knows that no
session runs where it was told so, and where it remembers command mode. -/
structure Held (known : Bool) (mode : Mode) (v : View) : Prop where
  sound : v.Sound
  settled : v.phase ≠ .stopping
  closed : known = true ∨ mode = .command → v.phase = .closed

variable {known : Bool}

/-- Where the phase is `closed` all that is to be held holds, whatever is
known and remembered. -/
theorem Held.of_closed (hs : v.Sound) (hp : v.phase = .closed) :
    Held known mode v :=
  ⟨hs, by rw [hp]; exact nofun, fun _ => hp⟩

namespace HandOver

theorem command_of_ne_data (h : mode ≠ .data) : mode = .command := by
  cases mode with
  | data => exact absurd rfl h
  | command => rfl

/-- An escape is sent with the session ended, and any other command leaves
things as they are. -/
theorem ensures_exchange (command success failure : String)
    (timeout : Nat) (h : Held known mode v) :
    Ensures managing (exchange command success failure timeout) mode v
      fun _ mode' v' =>
        Held (known || command = escapeSequence) mode' v' := by
  have escaped {v : View} (hs : v.Sound) (hp : v.phase = .closed) :
      Ensures managing
        (channel (Modem.Channel.exchange command success failure timeout))
        mode v fun _ mode' v' =>
          Held (known || command = escapeSequence) mode' v' := by
    refine (ensures_channel ((Modem.Channel.shows_exchange _ _ _ _ _).mono
      fun _ _ _ _ => trivial) hs).mono fun _ mode' v' hv' => ?_
    exact .of_closed hv'.2.1 (hv'.2.2.trans hp)
  unfold exchange
  rw [Proc.ensures_bind, Proc.ensures_get]
  -- an escape has the session stop first; any other command leaves the
  -- phase as it was
  by_cases he : command = escapeSequence
  · by_cases hm : mode = .data
    · rw [if_pos (by simp [he, hm])]
      refine Proc.ensures_bind.2 (Proc.ensures_monadLift.2
        ((meets_stopSession h.sound).mono fun _ v₁ hv₁ => ?_))
      exact escaped hv₁.1 hv₁.2
    · rw [if_neg (by simp [hm])]
      exact escaped h.sound (h.closed (.inr (command_of_ne_data hm)))
  · rw [if_neg (by simp [he])]
    have plain : Proc.Shows
        (Modem.Channel.exchange command success failure timeout) mode
        fun _ _ mode' => mode' = mode :=
      (Modem.Channel.shows_exchange _ _ _ _ _).mono fun w r mode' hr => by
        rw [hr.remembered, if_neg fun hc => he hc.1]
    refine (ensures_channel plain h.sound).mono fun _ mode' v' hv' => ?_
    obtain ⟨rfl, hs, hp⟩ := hv'
    refine ⟨hs, ?_, fun hk => ?_⟩
    · rw [hp]
      exact h.settled
    · rw [hp]
      refine h.closed (hk.imp (fun hk => ?_) id)
      simpa [he] using hk

/-- Once the line is switched to command mode no session runs, and that is
known. -/
theorem ensures_switch_command (h : Held known mode v) :
    Ensures managing (switch .command) mode v fun _ mode' v' =>
      Held true mode' v' := by
  have escaped {v : View} (hs : v.Sound) (hp : v.phase = .closed) :
      Ensures managing (channel (Modem.Channel.switch .command)) mode v
        fun _ mode' v' => Held true mode' v' := by
    refine (ensures_channel ((Modem.Channel.shows_switch_command _).mono
      fun _ _ _ _ => trivial) hs).mono fun _ mode' v' hv' => ?_
    exact .of_closed hv'.2.1 (hv'.2.2.trans hp)
  unfold switch
  rw [Proc.ensures_bind, Proc.ensures_get]
  by_cases hm : mode = .data
  · rw [if_pos hm]
    refine Proc.ensures_bind.2 (Proc.ensures_monadLift.2
      ((meets_stopSession h.sound).mono fun _ v₁ hv₁ => ?_))
    exact escaped hv₁.1 hv₁.2
  · rw [if_neg hm]
    exact escaped h.sound (h.closed (.inr (command_of_ne_data hm)))

/-- A session is started in data mode, and only there. -/
theorem ensures_switch_data (h : Held true mode v) :
    Ensures managing (switch .data) mode v fun r mode' v' =>
      Held (!r.isOk) mode' v' := by
  have hp := h.closed (.inl rfl)
  have dialled : Proc.Shows (Modem.Channel.switch .data) mode
      fun _ r mode' => mode' = if r.isOk = true then .data else mode :=
    (Modem.Channel.shows_switch_data mode).mono fun _ _ _ hr => hr.2.2.2
  unfold switch
  rw [Proc.ensures_bind]
  refine (ensures_channel dialled h.sound).mono fun r mode' v₁ hv₁ => ?_
  obtain ⟨hm, hs₁, hp₁⟩ := hv₁
  cases r with
  | ok =>
    refine Proc.ensures_bind.2 (Proc.ensures_monadLift.2
      ((meets_startSession hs₁ (hp₁.trans hp)).mono fun _ v₂ hv₂ => ?_))
    refine ⟨hv₂.1, ?_, fun hk => ?_⟩
    · rw [hv₂.2]
      exact nofun
    · rw [hm] at hk
      rcases hk with hk | hk <;> cases hk
  | error e => exact Held.of_closed hs₁ (hp₁.trans hp)

/-- Any call of the channel keeps it so, and data mode may be asked for
where it was left. -/
theorem ensures_answer (call : Modem.SessionCall) {tie : Gsm.Tie}
    (h : Held (tie = .parted) mode v)
    (hk : call = .switch .data → tie = .parted) :
    Ensures managing (answer call) mode v fun r mode' v' =>
      Held (tie.after call r = .parted) mode' v' := by
  -- what neither dials nor escapes leaves the mode, and the phase with it
  have plain (hc : Modem.Channel.plain call) :
      Ensures managing (channel (Modem.Channel.answer call)) mode v
        fun _ mode' v' => Held (tie = .parted) mode' v' := by
    refine (ensures_channel ((Modem.Channel.shows_plain hc mode).mono
      fun _ _ _ hr => hr.2) h.sound).mono fun _ mode' v' hv' => ?_
    obtain ⟨rfl, hs, hp⟩ := hv'
    exact ⟨hs, hp ▸ h.settled, fun hk => hp.trans (h.closed hk)⟩
  cases call with
  | exchange command success failure timeout =>
    refine (ensures_exchange command success failure timeout h).mono
      fun r mode' v' hv' => ?_
    by_cases he : command = escapeSequence <;>
      simpa [Gsm.Tie.after, he] using hv'
  | switch target =>
    cases target with
    | data =>
      obtain rfl := hk rfl
      refine (ensures_switch_data h).mono fun r mode' v' hv' => ?_
      cases r with
      | ok => exact hv'
      | error e => exact hv'
    | command => exact ensures_switch_command h
  | quality => exact plain trivial
  | pause ms => exact plain trivial
  | log line => exact plain trivial

end HandOver

-- ======================================================= everything else

/-- The program leaves the hand-over alone, and the mode. -/
def Aside (act : Cellular.Act α) : Prop :=
  ∀ parts, (act.run parts).Stays Call.calm fun x => x.2.mode = parts.mode

/-- A `Calm` program on the board is `Aside` as an act of the modem's
side. -/
theorem aside_lift {p : Proc Board α} (hp : Calm p) :
    Aside (liftM p : Cellular.Act α) :=
  fun _ => Proc.stays_bind hp fun _ _ => rfl

theorem Aside.bind {β : Type} {act : Cellular.Act α}
    {f : α → Cellular.Act β} (h : Aside act) (hf : ∀ a, Aside (f a)) :
    Aside (act >>= f) :=
  fun parts => Proc.stays_bind (h parts) fun x hx =>
    (hf x.1 x.2).mono (fun _ hc => hc) fun _ hy => hy.trans hx

/-- What changes in the parts is `Aside` if the mode does not. -/
theorem aside_modify {f : Parts → Parts}
    (hf : ∀ parts, (f parts).mode = parts.mode) :
    Aside (modify f : Cellular.Act Unit) :=
  hf

theorem aside_pure (a : α) : Aside (pure a) :=
  fun _ => rfl

/-- The interface hands nothing over. -/
theorem Ppp.aside_answer (call : Gsm.NetifCall) :
    Aside (Ppp.answer call) := by
  cases call with
  | create => exact fun _ => rfl
  | destroy =>
    have configured : Calm (configure none) := asks_ask.2 trivial
    refine (aside_lift configured).bind fun _ => ?_
    refine (aside_lift (calm_shared rfl)).bind fun _ => ?_
    exact aside_modify fun _ => rfl
  | subscribe =>
    intro parts
    show Proc.Stays _ (StateT.run (if parts.created then _ else _) parts) _
    split
    · exact (aside_lift (calm_shared rfl)).bind (fun _ => aside_pure _) parts
    · exact aside_pure _ parts
  | unsubscribe => exact aside_lift (calm_shared rfl)
  | setDns primary secondary => exact aside_lift (aloof_setDns _ _).calm
  | setAuth username password => exact aside_lift (aloof_setAuth _ _).calm

namespace Cellular

variable {parts : Parts}

/-- An act that is `Aside` leaves all as it was `Held`. -/
theorem ensures_aside {act : Act α} (hact : Aside act)
    (h : Held known parts.mode v) :
    Ensures managing act parts v fun _ parts' v' =>
      Held known parts'.mode v' := by
  refine (meets_calm (hact parts) h.sound).mono fun x v' hv' => ?_
  obtain ⟨hm, hs, hp⟩ := hv'
  rw [hm]
  exact ⟨hs, hp ▸ h.settled, fun hk => hp.trans (h.closed hk)⟩

/-- A program of the channel moves the mode, and nothing else of what the
surroundings hold. -/
theorem ensures_modem {σ : Type} {C : Contract Board σ} {x : σ}
    {act : HandOver.Act α} {Q : α → Parts → σ → Prop}
    (h : Ensures C act parts.mode x fun a mode' x' =>
      Q a { parts with mode := mode' } x') :
    Ensures C (modem act) parts x Q := by
  unfold modem
  rw [Proc.ensures_bind, Proc.ensures_get, Proc.ensures_bind]
  exact Proc.ensures_monadLift.2 h

theorem aloof_takeEvent : Aloof takeEvent :=
  asks_bind (aloof_awaitOne nofun) fun _ => aloof_shared rfl rfl

/-- A new channel remembers command mode, and no session runs. -/
theorem ensures_build (uart : Config.Uart) (h : Held true parts.mode v) :
    Ensures managing (build uart) parts v fun _ parts' v' =>
      Held true parts'.mode v' := by
  have closed := h.closed (.inl rfl)
  have made {v : View} (hs : v.Sound) (hp : v.phase = .closed) :
      Ensures managing (do
          ask (.line (.attach .command))
          modify fun p => { p with mode := .command }
          pure (.ok ()) : Act (Except Modem.ChannelError Unit)) parts v
        fun _ parts' v' => Held true parts'.mode v' := by
    have attached : Calm (ask (.line (.attach .command))) :=
      asks_ask.2 trivial
    refine Proc.ensures_bind.2 (Proc.ensures_monadLift.2
      ((meets_calm attached hs).mono fun _ v' hv' => ?_))
    exact Held.of_closed hv'.2.1 (hv'.2.2.trans hp)
  unfold build
  rw [Proc.ensures_bind, Proc.ensures_get]
  split
  · have warned (line : Line) : Calm (log line) := asks_ask.2 trivial
    refine Proc.ensures_bind.2 (Proc.ensures_monadLift.2
      ((meets_calm (warned _) h.sound).mono fun _ v₁ hv₁ => ?_))
    exact made hv₁.2.1 (hv₁.2.2.trans closed)
  · exact made h.sound closed

/-- Every call of the cellular link keeps it so. -/
theorem ensures_answer (c : Gsm.GsmCall) {x : Gsm.Footing}
    (ha : Gsm.footing.allows c x)
    (h : Held (x.tie = .parted) parts.mode v) :
    Ensures managing (answer c) parts v fun r parts' v' =>
      Held ((x.after c r).tie = .parted) parts'.mode v' := by
  -- what is answered aside leaves all that is held as it was, if the call
  -- does not bear on the tie
  have aside {act : Act c.Answer} (hact : Aside act)
      (hc : ∀ r, (x.after c r).tie = .parted ↔ x.tie = .parted) :
      Ensures managing act parts v fun r parts' v' =>
        Held ((x.after c r).tie = .parted) parts'.mode v' := by
    refine (ensures_aside hact h).mono fun r _ _ h' => ?_
    simpa only [hc r] using h'
  cases c with
  | modem call =>
    have hk : call = .switch .data → x.tie = .parted := by
      intro hc
      -- the manager dials only where it is parted from the session
      subst hc
      exact ha.1
    exact ensures_modem (HandOver.ensures_answer call h hk)
  | build uart =>
    have hx : x.tie = .parted := ha
    rw [hx] at h
    refine (ensures_build uart h).mono fun r _ _ h' => ?_
    show Held (x.tie = .parted) _ _
    rw [hx]
    exact h'
  | drive pin high =>
    have driven : Calm (ask (.drive pin high)) := asks_ask.2 trivial
    exact aside ((aside_lift driven).bind fun _ => aside_pure _)
      fun _ => Iff.rfl
  | netif call =>
    refine aside (Ppp.aside_answer call) fun r => ?_
    cases call with
    | subscribe => cases r <;> rfl
    | _ => rfl
  | record call =>
    refine aside (aside_lift (calm_shared rfl)) fun r => ?_
    cases call with
    | markConnected =>
      cases r with
      | false => rfl
      | true =>
        show (if x.tie = .dialled then _ else _ : Gsm.Footing).tie = _
          ↔ _
        split
        next hd => simp [hd]
        next => rfl
    | _ => rfl
  | awaitEvent timeout =>
    have limited := (aloof_limit timeout aloof_takeEvent).calm
    exact aside ((aside_lift limited).bind fun _ => aside_pure _)
      fun _ => Iff.rfl
  | resolve host timeout =>
    have limited := (aloof_limit timeout (Ppp.aloof_resolve host)).calm
    exact aside (aside_lift limited) fun _ => Iff.rfl

/-- An `Operation` of the manager keeps its side of the hand-over, and ends
with no session where nothing is set up. -/
theorem ensures_operation (o : Gsm.Operation) (m : Gsm.Manager)
    (h : Held (!m.active) parts.mode v) :
    Ensures managing (runManager o.act m) parts v fun x parts' v' =>
      Held (!x.2.active) parts'.mode v' := by
  let x : Gsm.Footing :=
    ⟨if m.active then .confirmed else .parted, m.active⟩
  have hx : x.tie = .parted ↔ m.active = false := by
    cases hm : m.active <;> simp [x, hm]
  have footed : m.Footed x :=
    ⟨by simp only [x]; split <;> exact nofun, hx.2, id⟩
  have held : Held (x.tie = .parted) parts.mode v :=
    ⟨h.sound, h.settled, fun hk => h.closed (hk.imp (fun hk => by
      simpa using hx.1 (of_decide_eq_true hk)) id)⟩
  refine (Meets.ensures_within (R := fun x parts v =>
    Held (x.tie = .parted) parts.mode v) (fun c x parts v ha h =>
      (ensures_answer c ha h).mono fun r _ _ h' => ⟨x.after c r, rfl, h'⟩)
    (o.keepsFooting m x footed) held).mono fun y parts' v' hy => ?_
  obtain ⟨x', hx', h'⟩ := hy
  refine ⟨h'.sound, h'.settled,
    fun hm => h'.closed (hm.imp (fun hm => ?_) id)⟩
  simpa using hx'.parted (by simpa using hm)

end Cellular

end Uplink.Board
