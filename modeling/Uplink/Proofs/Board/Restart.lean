/-
A session that is started again.

Having the line switched to data mode where data mode holds already is not
free on the board. The channel finds nothing to do, but the PPP task is
told to start all the same, and whatever it is told in a session is the
end of that session.

# How it is shown

Wherever the PPP task waits, it either begins a round or is in a session,
and then one alternative of its wait is being told something
(`Ppp.Waits`). No turn of anybody else changes that, since the task alone
begins and ends sessions. A session that goes on leaves what the task was
told as it is (`Ppp.turn_inSession`), and hearing it is the end
(`Ppp.turn_closeUp`).
-/
import Uplink.Proofs.Board.Agreement
import Uplink.Proofs.Board.HandOver

namespace Uplink.Board

open Gsm (Manager)
open Proc (Asks Meets Runs asks_ask asks_bind meets_ask meets_bind)

variable {α : Type}

-- ================================================================== turns

/-- Who waits for nothing is through after a `Turn`. -/
theorem Turn.of_brief {p q : Proc Board α} {f f' : Floor}
    (h : Turn p f q f') (hp : p.Asks fun c : Call => c.waits = false) :
    ∃ t a, q = .done a ∧ Runs Floor.answers p f t a f' := by
  induction h with
  | done a f => exact ⟨[], a, rfl, .done a f⟩
  | waits waits k f => cases hp.1
  | call hr _ ih =>
    obtain ⟨t, a, hq, h⟩ := ih (hp.2 _)
    exact ⟨_, a, hq, .call hr h⟩

/-- What is calm and waits for nothing leaves the signals alone. -/
theorem preserves_signals (signals : Option Control × Bool × Bool) :
    Floor.answers.contract.Preserves Call.brief
      fun f => f.signals = signals := by
  refine fun c f hc hf => ⟨trivial, fun r f' hr => ?_⟩
  show f'.signals = signals
  rw [Floor.signals_answers hr, Call.signal_of_calm hc.1, hf]

-- =============================================================== a session

namespace Ppp

/-- What the task does after a session, whoever ended it. -/
def afterwards (ended : Option SessionError) : Proc Board Unit := do
  match ended with
  | some e =>
    log (.warn ("PPP session ended: " ++ e.text))
    if ← shared .isListening then shared (.linkStatus (-1))
  | none =>
    let control ← shared .takeControl
    ask (.session .stopped)
    match control with
    | some control =>
      log (.debug s!"PPP session stopped ({control.text})")
    | none => pure ()
  onEnd

/-- That, and the end of the round. -/
def closeUp (ended : Option SessionError) : Proc Board Unit := do
  afterwards ended
  shared .signalStopped

/-- A session of which this much is left. -/
def remainder (left : Proc Board SessionError) :
    Proc Board SessionError := do
  let e ← left
  ask (.session .ended)
  pure e

/-- The task in a session of which this much is left. -/
def inSession (left : Proc Board SessionError) : Proc Board Unit :=
  race .control (remainder left) >>= closeUp

/-- Where the task waits: for a `round` to begin, or in a session. -/
inductive Waits : Proc Board Unit → Floor → Prop
  | idle {f : Floor} : f.running = false → Waits round f
  | session {left : Proc Board SessionError} {waits : List Wait}
      {k : Nat → Proc Board SessionError} {f : Floor} :
      left = .call (.await waits) k → left.Asks Call.ofSession →
      f.running = true → Waits (inSession left) f

/-- What is done at the end of a session is `brief`. -/
theorem brief_onEnd : onEnd.Asks Call.brief :=
  asks_onEnd ⟨trivial, rfl⟩ fun _ ha _ => ⟨ha, rfl⟩

/-- Nobody waits after a session. -/
theorem asks_afterwards (ended : Option SessionError) :
    (afterwards ended).Asks fun c : Call => c.waits = false := by
  have ending : onEnd.Asks fun c : Call => c.waits = false :=
    brief_onEnd.mono fun _ hc => hc.2
  cases ended with
  | some e =>
    refine asks_bind (asks_ask.2 rfl) fun _ => ?_
    refine asks_bind (asks_ask.2 rfl) fun listening => ?_
    cases listening with
    | true => exact asks_bind (asks_ask.2 rfl) fun _ => ending
    | false => exact ending
  | none =>
    refine asks_bind (asks_ask.2 rfl) fun control => ?_
    refine asks_bind (asks_ask.2 rfl) fun _ => ?_
    cases control with
    | some control => exact asks_bind (asks_ask.2 rfl) fun _ => ending
    | none => exact ending

/-- After a session there is none. One that ended by itself leaves what the
task was told. -/
theorem meets_afterwards (ended : Option SessionError) {f : Floor}
    (hr : ended.isSome = true → f.running = false) :
    (afterwards ended).Meets Floor.answers.contract f fun _ f' =>
      f'.signals = (if ended.isSome then f.shared.control else none,
        f.shared.stopped, false) := by
  have said (line : Line) : (log line).Asks Call.brief :=
    asks_ask.2 ⟨trivial, rfl⟩
  have brief {p : Proc Board Unit} (hp : p.Asks Call.brief) {f : Floor}
      {signals : Option Control × Bool × Bool} (hf : f.signals = signals) :
      p.Meets Floor.answers.contract f fun _ f' => f'.signals = signals :=
    hp.meets (preserves_signals signals) hf
  -- a session that ended by itself leaves the control for the next round;
  -- one that was told to has taken it
  cases ended with
  | some e =>
    have hs : f.signals = (f.shared.control, f.shared.stopped, false) := by
      rw [← hr rfl]
      rfl
    refine brief (asks_bind (said _) fun _ =>
      asks_bind (asks_ask.2 ?_) fun listening => ?_) hs
    · exact ⟨rfl, rfl⟩
    cases listening with
    | true => exact asks_bind (asks_ask.2 ⟨rfl, rfl⟩) fun _ => brief_onEnd
    | false => exact brief_onEnd
  | none =>
    refine meets_bind.2 (meets_ask.2 ⟨trivial, fun control f₁ h₁ => ?_⟩)
    refine meets_bind.2 (meets_ask.2 ⟨trivial, fun r f₂ h₂ => ?_⟩)
    have hs : f₂.signals = (none, f.shared.stopped, false) := by
      rw [Floor.signals_answers (c := .session .stopped) (r := r) h₂,
        Floor.signals_answers (c := .shared .takeControl) h₁]
      rfl
    cases control with
    | some control =>
      exact brief (asks_bind (said _) fun _ => brief_onEnd) hs
    | none => exact brief brief_onEnd hs

/-- So the task is through with a round, and the signal is raised. -/
theorem turn_closeUp {ended : Option SessionError} {f f' : Floor}
    {p : Proc Board Unit}
    (h : Turn (closeUp ended) f p f')
    (hr : ended.isSome = true → f.running = false) :
    p = .done () ∧ f'.signals
      = (if ended.isSome then f.shared.control else none, true, false) := by
  obtain ⟨t, a, rfl, hruns⟩ := h.of_brief
    (asks_bind (asks_afterwards ended) fun _ => asks_ask.2 rfl)
  refine ⟨rfl, ?_⟩
  have hmeets : (closeUp ended).Meets
      Floor.answers.contract f fun _ f' => f'.signals
        = (if ended.isSome then f.shared.control else none, true, false) :=
    meets_bind.2 ((meets_afterwards ended hr).mono fun _ f₁ h₁ =>
      meets_ask.2 ⟨trivial, fun _ f₂ h₂ => by
        rw [Floor.signals_answers (c := .shared .signalStopped) h₂, h₁]
        rfl⟩)
  exact hmeets.of_runs hruns

/-- A session goes on until it waits again, or ends in the `Turn`. What the
task was told it leaves. -/
theorem turn_inSession {left : Proc Board SessionError} {f f' : Floor}
    {p : Proc Board Unit} (hleft : left.Asks Call.ofSession)
    (hr : f.running = true) (h : Turn (inSession left) f p f') :
    (f'.signals = f.signals ∧ Waits p f')
      ∨ (p = .done () ∧ f'.signals = (f.shared.control, true, false)) := by
  -- by induction on what is left of the session, up to its next wait
  induction left generalizing f with
  | done e =>
    right
    cases h with
    | @call _ _ _ _ f₁ _ _ hm ht =>
      have hs := Floor.signals_answers (c := .session .ended) hm
      have hc : f₁.shared.control = f.shared.control :=
        congrArg (·.1) hs
      have ht : Turn (closeUp (some e)) f₁ p f' := ht
      have hp := turn_closeUp ht fun _ => congrArg (·.2.2) hs
      rw [hc] at hp
      exact hp
  | call c k ih =>
    by_cases hw : c.waits = false
    · have hcalls : inSession (.call c k)
          = .call c fun r => inSession (k r) := by
        unfold inSession remainder
        rw [Proc.call_bind, race_call hw, Proc.call_bind]
      rw [hcalls] at h
      cases h with
      | waits => cases hw
      | @call _ _ _ _ f₁ _ _ hm ht =>
        have hs := Floor.signals_answers hm
        rw [Call.signal_of_calm (Call.calm_of_session hleft.1)] at hs
        have hr₁ : f₁.running = true := (congrArg (·.2.2) hs).trans hr
        have hc : f₁.shared.control = f.shared.control :=
          congrArg (·.1) hs
        have hp := ih _ (hleft.2 _) hr₁ ht
        rw [hs, hc] at hp
        exact hp
    · cases c with
      | await waits =>
        cases h with
        | waits => exact .inl ⟨rfl, .session rfl hleft hr⟩
        | call hm _ => exact hm.elim
      | _ => exact absurd rfl hw

/-- Where a session was going on, it goes on or is over. -/
theorem waits_of_turn {left : Proc Board SessionError} {f f' : Floor}
    {p : Proc Board Unit} (hleft : left.Asks Call.ofSession)
    (hr : f.running = true) (h : Turn (inSession left) f p f') :
    Waits (onward p) f' := by
  rcases turn_inSession hleft hr h with ⟨-, hp⟩ | ⟨rfl, hs⟩
  · cases hp with
    | idle hr => exact .idle hr
    | session hl hleft hr =>
      subst hl
      exact .session rfl hleft hr
  · exact .idle (congrArg (·.2.2) hs)

/-- Told to start, the task is in a session when it waits next, or through
with one. -/
theorem waits_of_supervise {f f' : Floor} {p : Proc Board Unit}
    (h : Turn (supervise >>= fun _ => shared .signalStopped) f p f') :
    Waits (onward p) f' := by
  -- the line, the credentials, the port, the start, and a last look
  -- whether the peer has ended it already
  cases h with | call _ h =>
  cases h with | call _ h =>
  cases h with | call _ h =>
  cases h with | @call _ _ steps _ f₁ _ _ hstart h =>
  cases h with | @call _ _ e _ f₂ _ _ hend h =>
  have hr : f₂.running = true := by
    rw [show f₂ = f₁ from hend, show f₁ = _ from hstart]
  cases e with
  | some e =>
    have h : Turn (inSession (.done e)) f₂ p f' := h
    exact waits_of_turn (Proc.asks_done e) hr h
  | none =>
    have h : Turn ((race .control (remainder (goThrough steps))
        >>= afterwards) >>= fun _ => shared .signalStopped) f₂ p f' := h
    rw [Proc.bind_assoc] at h
    exact waits_of_turn (asks_goThrough steps) hr h

/-- Waking in a session, the task goes on with it, or has heard that it was
told something. -/
theorem inSession_await (waits : List Wait)
    (k : Nat → Proc Board SessionError) :
    ∃ next, inSession (.call (.await waits) k)
        = .call (.await (waits ++ [.control])) next
      ∧ (∀ place < waits.length, next place = inSession (k place))
      ∧ ∀ place, waits.length ≤ place → next place = closeUp none := by
  refine ⟨fun place : Nat =>
    (if place < waits.length then race .control (remainder (k place))
      else pure none) >>= closeUp, rfl, fun place hp => ?_,
    fun place hp => ?_⟩
  · dsimp only
    rw [if_pos hp]
    rfl
  · dsimp only
    rw [if_neg (Nat.not_lt.2 hp)]
    rfl

/-- Wherever a `Turn` of the task leads, it waits for a round or in a
session. -/
theorem Waits.served {q : Proc Board Unit} {waits : List Wait}
    {k : Nat → Proc Board Unit} {f f' : Floor} {place : Nat}
    {p : Proc Board Unit} (h : Waits q f)
    (hq : q = .call (.await waits) k) (ht : Turn (k place) f p f') :
    Waits (onward p) f' := by
  cases h with
  | idle hr =>
    cases hq
    cases ht with | @call _ _ told _ f₁ _ _ hm ht =>
    have hr₁ : f₁.running = false := hm.2.trans hr
    have stopped (ht : Turn (shared .signalStopped) f₁ p f') :
        Waits (onward p) f' := by
      cases ht with | call hm ht =>
      cases ht
      exact .idle (hm.2.trans hr₁)
    match told with
    | some .start => exact waits_of_supervise ht
    | some .stop => exact stopped ht
    | none => exact stopped ht
  | @session left ws k' _ hl hleft hr =>
    subst hl
    obtain ⟨next, hnext, hgo, hhear⟩ := inSession_await ws k'
    rw [hnext] at hq
    cases hq
    -- the wait ended with what the session waited for, or with the
    -- control
    by_cases hp : place < ws.length
    · rw [hgo place hp] at ht
      exact waits_of_turn (hleft.2 place) hr ht
    · rw [hhear place (Nat.not_lt.1 hp)] at ht
      obtain ⟨rfl, hs⟩ := turn_closeUp ht nofun
      exact .idle (congrArg (·.2.2) hs)

/-- Where the PPP task waits depends on nothing but whether a session
runs. -/
theorem Waits.elsewhere {q : Proc Board Unit} {f f' : Floor}
    (h : Waits q f) (hr : f'.running = f.running) : Waits q f' := by
  cases h with
  | idle h => exact .idle (hr.trans h)
  | session hl hleft h => exact .session hl hleft (hr.trans h)

/-- Where no session runs the PPP task waits at the beginning of a
`round`. -/
theorem Waits.round_of_idle {q : Proc Board Unit} {f : Floor}
    (h : Waits q f) (hr : f.running = false) : q = round := by
  cases h with
  | idle => rfl
  | session _ _ hr' => cases hr.symm.trans hr'

end Ppp

-- ============================================================= whole turns

/-- Wherever turns lead, the PPP task waits for a round or in a session. -/
theorem Tasks.From.waits {t : Tasks}
    (h : Tasks.From Tasks.Still (fun a => a.signals = false) t) :
    Ppp.Waits t.ppp t.floor := by
  -- in its turns the manager begins and ends no session
  have apart {t : Tasks} {p p' : Proc Board (Manager × Parts)}
      {f' : Floor} {v : View} (hv : handing.Kept t v)
      (hp : handing.manager.Keeps handing.aspect p v)
      (ht : Turn p t.floor p' f') : f'.running = t.floor.running := by
    obtain ⟨v', rfl, -, hr⟩ := hp.turn handing.ppp.held
      (fun c r v v' hc hf hr =>
        stands_handing.manager_apart c r v v' hc ⟨hf, hr⟩) ht hv.floor
    rw [← hv.floor]
    exact hr
  have kept {t : Tasks}
      (h : Tasks.From Tasks.Still (fun a => a.signals = false) t) :
      ∃ v, handing.Kept t v :=
    stands_handing.kept (fun _ => Tasks.Still.kept) h
  induction h with
  | start hs =>
    obtain ⟨m, parts, -, hp, still⟩ := hs
    rw [hp]
    exact .idle still.stands
  | operated o h ht ih =>
    obtain ⟨v, hv⟩ := kept h
    exact ih.elsewhere (apart hv (stands_handing.operates o _ v
      hv.manager.1 hv.manager.2) ht)
  | managed h hw ready ht ih =>
    obtain ⟨v, hv⟩ := kept h
    have hp := hv.manager.woken hw (by rw [hv.floor]; exact ready)
    exact ih.elsewhere (apart hv hp ht)
  | served _ _ _ ht ih => exact ih.served rfl ht
  | shared a _ _ ih => exact ih.elsewhere rfl

-- ============================================================ once again

/-- Between two operations the channel is asked for something, and it
answers without waiting. -/
inductive Tasks.Asked (call : Modem.SessionCall) (t : Tasks) :
    call.Answer → Tasks → Prop
  | answered {m : Manager} {parts : Parts} {r : call.Answer}
      {mode : Modem.Mode} {f : Floor} :
      t.manager = .done (m, parts) →
      Turn ((HandOver.answer call).run parts.mode) t.floor
        (.done (r, mode)) f →
      Asked call t r ⟨.done (m, { parts with mode }), t.ppp, f⟩

/-- The PPP task is told to start, whatever it was told before. -/
def Floor.restarted (f : Floor) : Floor :=
  { f with shared :=
    { f.shared with control := some .start, stopped := false } }

/-- The answer to an access leaves no other floor than the one it makes. -/
theorem Floor.eq_accessed {a : Shared.Access} {r : a.Answer}
    {f f' : Floor} (h : f.answers (.shared a) r f') :
    f' = f.accessed a := by
  obtain ⟨ha, hr⟩ := h
  show f' = ⟨(f.shared.apply a).value.2, f.running⟩
  rw [ha, ← hr]

/-- In data mode the channel finds nothing to do, and the PPP task is told
to start all the same. -/
theorem turn_switch_again {f f' : Floor}
    {p : Proc Board (Except Modem.ChannelError Unit × Modem.Mode)} :
    Turn ((HandOver.answer (.switch .data)).run .data) f p f'
      ↔ p = .done (.ok (), .data) ∧ f' = f.restarted := by
  constructor
  · intro h
    cases h with | call hcleared h =>
    cases h with | call htold h =>
    cases h
    refine ⟨rfl, ?_⟩
    rw [Floor.eq_accessed htold, Floor.eq_accessed hcleared]
    rfl
  · rintro ⟨rfl, rfl⟩
    exact turn_turn (fun _ => default) _ f

namespace Ppp

/-- The same session goes on: the task takes turns that do not end it, and
in between others access what is shared. -/
inductive Lasts (p : Proc Board Unit) (f : Floor) :
    Proc Board Unit → Floor → Prop
  | here : Lasts p f p f
  | served {waits : List Wait} {k : Nat → Proc Board Unit} {f₁ f' : Floor}
      {place : Nat} {w : Wait} {p' : Proc Board Unit} :
      Lasts p f (.call (.await waits) k) f₁ →
      waits[place]? = some w → f₁.ready w → Turn (k place) f₁ p' f' →
      f'.running = true → Lasts p f p' f'
  | shared {q : Proc Board Unit} {f₁ : Floor} (a : Shared.Access) :
      Lasts p f q f₁ → a.signals = false → Lasts p f q (f₁.accessed a)

/-- As long as it does, the task has not heard what it was told. -/
theorem Lasts.unheard {p q : Proc Board Unit} {f f' : Floor}
    (h : Lasts p f q f') (hp : Waits p f) (hr : f.running = true) :
    Waits q f' ∧ f'.signals = f.signals := by
  induction h with
  | here => exact ⟨hp, rfl⟩
  | @served waits k f₁ f' place w p' _ _ _ ht hr' ih =>
    obtain ⟨hw, hs⟩ := ih
    have hr₁ : f₁.running = true := (congrArg (·.2.2) hs).trans hr
    generalize hq : Proc.call (I := Board) (.await waits) k = q at hw
    cases hw with
    | idle hidle => exact absurd (hidle.symm.trans hr₁) nofun
    | @session left ws k' _ hl hleft _ =>
      subst hl
      obtain ⟨next, hnext, hgo, hhear⟩ := inSession_await ws k'
      rw [hnext] at hq
      cases hq
      -- a wait of the program's own goes on in the session; any other
      -- closes it, and then none would be running
      by_cases hplace : place < ws.length
      · rw [hgo place hplace] at ht
        rcases turn_inSession (hleft.2 place) hr₁ ht
          with ⟨hs', hw'⟩ | ⟨-, hs'⟩
        · exact ⟨hw', hs'.trans hs⟩
        · exact absurd ((congrArg (·.2.2) hs').symm.trans hr') nofun
      · rw [hhear place (Nat.not_lt.1 hplace)] at ht
        have hs' := (turn_closeUp ht nofun).2
        exact absurd ((congrArg (·.2.2) hs').symm.trans hr') nofun
  | @shared q f₁ a _ ha ih =>
    obtain ⟨hw, hs⟩ := ih
    have hm : f₁.answers (.shared a) (f₁.shared.apply a).value.1
        (f₁.accessed a) := ⟨rfl, rfl⟩
    have hs' := Floor.signals_answers hm
    rw [Call.signal_of_calm (c := .shared a) ha] at hs'
    exact ⟨hw.elsewhere rfl, hs'.trans hs⟩

/-- What the task hears in a session is the end of it, and that it can
hear. -/
theorem Waits.hears {q : Proc Board Unit} {f : Floor} (h : Waits q f)
    (hr : f.running = true) :
    ∃ waits k, q = .call (.await (waits ++ [.control])) k
      ∧ (∃ p f', Turn (k waits.length) f p f')
      ∧ ∀ p f', Turn (k waits.length) f p f' →
        f'.signals = (none, true, false) ∧ onward p = round := by
  cases h with
  | idle hidle => exact absurd (hidle.symm.trans hr) nofun
  | @session left ws k' _ hl hleft _ =>
    subst hl
    obtain ⟨next, hnext, -, hhear⟩ := inSession_await ws k'
    refine ⟨ws, next, hnext, ?_, fun p f' ht => ?_⟩
    · exact ⟨_, _, turn_turn (fun _ => default) _ f⟩
    · rw [hhear _ (Nat.le_refl _)] at ht
      obtain ⟨rfl, hs⟩ := turn_closeUp ht nofun
      exact ⟨hs, rfl⟩

end Ppp

/-- A channel that is asked for the mode it is in keeps it, so that only the
floor can change. -/
theorem Tasks.asked_iff {t : Tasks} {m : Manager} {parts : Parts}
    {target : Modem.Mode} (hm : t.manager = .done (m, parts))
    (hmode : parts.mode = target) {f : Floor}
    (hturn : ∀ p f', Turn ((HandOver.answer (.switch target)).run target)
      t.floor p f' ↔ p = .done (.ok (), target) ∧ f' = f)
    (r : Except Modem.ChannelError Unit) (t' : Tasks) :
    Asked (.switch target) t r t'
      ↔ r = .ok () ∧ t' = { t with floor := f } := by
  obtain ⟨manager, ppp, floor⟩ := t
  obtain rfl : manager = .done (m, parts) := hm
  subst hmode
  constructor
  · rintro ⟨hm, ht⟩
    cases hm
    obtain ⟨hp, rfl⟩ := (hturn _ _).1 ht
    cases hp
    exact ⟨rfl, rfl⟩
  · rintro ⟨rfl, rfl⟩
    exact .answered rfl ((hturn _ _).2 ⟨rfl, rfl⟩)

/-- Where the channel is in data mode and a session runs: asked for data
mode once more it answers `ok` at once, and the PPP task is told to start.
The session does not survive that. However it goes on, and whatever others
access meanwhile, the PPP task can hear what it was told at each of its
waits, and when it does no session runs any more. A channel in command
mode that is asked for command mode asks for nothing, and leaves
everything as it is. -/
theorem Tasks.From.restarted {t : Tasks}
    (h : Tasks.From Tasks.Still (fun a => a.signals = false) t)
    {m : Manager} {parts : Parts} (hm : t.manager = .done (m, parts))
    (hd : parts.mode = .data) (hr : t.floor.running = true) :
    (∀ r t', Asked (.switch .data) t r t'
        ↔ r = .ok () ∧ t' = { t with floor := t.floor.restarted })
      ∧ (∀ q f, Ppp.Lasts t.ppp t.floor.restarted q f →
        ∃ waits k, q = .call (.await (waits ++ [.control])) k
          ∧ f.ready .control
          ∧ (∃ p f', Turn (k waits.length) f p f')
          ∧ ∀ p f', Turn (k waits.length) f p f' →
            f'.running = false ∧ f'.shared.stopped = true
              ∧ onward p = Ppp.round)
      ∧ ((HandOver.answer (.switch .command)).run .command).Asks
        (fun _ => False)
      ∧ ∀ (t : Tasks) r t' {m : Manager} {parts : Parts},
        t.manager = .done (m, parts) → parts.mode = .command →
        (Asked (.switch .command) t r t' ↔ r = .ok () ∧ t' = t) := by
  refine ⟨asked_iff hm hd fun p f' => turn_switch_again,
    fun q f hq => ?_, trivial, fun t r t' m parts hm hc => ?_⟩
  · obtain ⟨hw, hs⟩ := hq.unheard (h.waits.elsewhere rfl) hr
    -- the signal stands as it was left, for no wait has heard it
    have ready : f.shared.control = some .start := congrArg (·.1) hs
    obtain ⟨waits, k, rfl, hcan, hends⟩ :=
      hw.hears ((congrArg (·.2.2) hs).trans hr)
    refine ⟨waits, k, rfl, ?_, hcan, fun p f' ht => ?_⟩
    · show f.shared.control.isSome = true
      rw [ready]
      rfl
    · obtain ⟨hs', hround⟩ := hends p f' ht
      exact ⟨congrArg (·.2.2) hs', congrArg (·.2.1) hs', hround⟩
  · refine asked_iff hm hc (fun p f' => ⟨fun ht => ?_, ?_⟩) r t'
    · cases ht
      exact ⟨rfl, rfl⟩
    · rintro ⟨rfl, rfl⟩
      exact .done _ _

-- ============================================================== one session

/-- It is over once the PPP task goes on. -/
theorem Tasks.From.restarted_up :
    ∃ m parts, Tasks.up.manager = .done (m, parts)
      ∧ Tasks.Asked (.switch .data) Tasks.up (.ok ())
        { Tasks.up with floor := Tasks.up.floor.restarted }
      ∧ ∃ waits k, Tasks.up.ppp = .call (.await (waits ++ [.control])) k
        ∧ ∃ p f', Turn (k waits.length) Tasks.up.floor.restarted p f'
          ∧ f'.running = false := by
  obtain ⟨m, parts, hm, -, hd⟩ := Tasks.up_manager
  obtain ⟨hasked, hover, -, -⟩ :=
    Tasks.from_up.restarted hm hd Tasks.up_running
  obtain ⟨waits, k, hq, -, ⟨p, f', ht⟩, hends⟩ := hover _ _ .here
  exact ⟨m, parts, hm, (hasked _ _).2 ⟨rfl, rfl⟩, waits, k, hq, p, f', ht,
    (hends p f' ht).1⟩

/-- The session neither ends by itself nor is anybody's wish to have it
stop, and it ends. -/
theorem Tasks.From.restarted_cut :
    Tasks.From Tasks.Still (fun a => a.signals = false) Tasks.up
      ∧ (∃ m parts, Tasks.up.manager = .done (m, parts)
        ∧ parts.mode = .data)
      ∧ Tasks.up.floor.running = true
      ∧ ∃ t', Tasks.Asked (.switch .data) Tasks.up (.ok ()) t'
        ∧ t'.floor.shared.control = some .start
        ∧ ∃ waits k place p f', t'.ppp = .call (.await waits) k
          ∧ waits[place]? = some .control ∧ t'.floor.ready .control
          ∧ Turn (k place) t'.floor p f' ∧ f'.running = false := by
  obtain ⟨m, parts, hm, -, hd⟩ := Tasks.up_manager
  have h := Tasks.from_up
  have hr := Tasks.up_running
  generalize Tasks.up = t at *
  have hw : Ppp.Waits t.ppp t.floor.restarted := h.waits.elsewhere rfl
  obtain ⟨waits, k, hq, ⟨p, f', ht⟩, hends⟩ := hw.hears hr
  have hasked := (Tasks.asked_iff (f := t.floor.restarted) hm hd
    (fun p f' => turn_switch_again) _ _).2 ⟨rfl, rfl⟩
  refine ⟨h, ⟨m, parts, hm, hd⟩, hr, _, hasked, rfl, _, k, waits.length,
    p, f', hq, ?_, rfl, ht, congrArg (·.2.2) (hends p f' ht).1⟩
  exact List.getElem?_concat_length

end Uplink.Board
