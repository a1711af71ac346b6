/-
The PPP task and what is known of a session.

The task reports the addressing of a session to the interface and to the
record without waiting in between, and its end as well. So whenever it
waits the two agree. A session that has just ended is the one exception
(`Tally.Over`): it is over, and neither has been told yet; the task tells
them before it waits again.
-/
import Uplink.Proofs.Board.Tally

namespace Uplink.Board

open Net (Address)
open Proc (Meets meets_ask meets_bind meets_done)

variable {α : Type} {guard : Wait} {t : Tally} {fits : Bool → Prop}

-- =========================================================== its contract

/-- Who hears PPP, and what is confirmed, is not the PPP task's matter. -/
def Call.reports (c : Call) : Prop :=
  (∀ on, c ≠ .shared (.listen on)) ∧ c ≠ .shared (.record .markConnected)

/-- The PPP task moves whether a session runs, which has to fit wherever
it waits. -/
def reporting (fits : Bool → Prop) : Contract Board Tally :=
  Tally.sharing (·.running) fits Call.reports

/-- A session runs, and all that is known of it is `Joined`. -/
structure Tally.Live (t : Tally) : Prop where
  joined : t.Joined
  running : t.running = true

/-- A session is over that was `Joined`, and nobody was told. -/
structure Tally.Over (t : Tally) : Prop where
  stands : t.running = false
  joined : { t with running := true : Tally }.Joined

/-- Once a session has ended, what is known of it is `Over`. -/
theorem Tally.Live.ended (h : t.Live) :
    { t with running := false : Tally }.Over := by
  refine ⟨rfl, ?_⟩
  have ht : { t with running := true } = t :=
    Tally.ext rfl h.running.symm rfl rfl rfl rfl rfl
  show { t with running := true : Tally }.Joined
  rw [ht]
  exact h.joined

/-- Aloof calls may be made in a session. -/
theorem reports_of_aloof {c : Call} (hc : c.aloof) : c.reports := by
  refine ⟨fun on h => ?_, fun h => ?_⟩
  · subst h
    cases hc.2
  · subst h
    cases hc.2

/-- An `Aloof` program leaves a session as it is. -/
theorem meets_aloof {p : Proc Board α} (hp : Aloof p)
    (h : t.Live) :
    p.Meets (reporting (· = true)) t fun _ t' => t'.Live := by
  have kept : (reporting (· = true)).Preserves Call.aloof
      fun t => t.Joined ∧ t.running = true :=
    Tally.preserves_aloof (fun _ hc _ => reports_of_aloof hc) rfl
  exact (Proc.Asks.meets hp kept ⟨h.joined, h.running⟩).mono
    fun _ _ h => ⟨h.1, h.2⟩

/-- A call that does not wait goes on from what it tells. -/
theorem meets_report {c : Call} {f : c.Answer → Proc Board α}
    {Q : α → Tally → Prop} (hw : c.waits = false) (hc : c.reports)
    (hf : ∀ r, t.tells c r →
      (f r).Meets (reporting fits) (t.after c r) Q) :
    (ask c >>= f).Meets (reporting fits) t Q :=
  meets_bind.2 (Tally.meets_told hw hc hf)

-- =============================================================== guards

/-- A program came to its end, or the guard came first, in a session. -/
def Guarded (Q : α → Tally → Prop) : Option α → Tally → Prop
  | some a, t => Q a t
  | none, t => t.Live

/-- Against a guard the session either comes to what it would, or the guard
came first. -/
theorem meets_race_live {p : Proc Board α} {Q : α → Tally → Prop}
    (h : p.Meets (reporting (· = true)) t Q) :
    (race guard p).Meets (reporting (· = true)) t (Guarded Q) := by
  induction p generalizing t with
  | done a => exact h
  | call c k ih =>
    by_cases hw : c.waits = false
    · rw [race_call hw]
      exact ⟨h.1, fun r t' hm => ih r (h.2 r t' hm)⟩
    · cases c with
      | await waits =>
        refine ⟨h.1, fun place t' hm => ?_⟩
        show Meets _ (if place < waits.length then _ else _) _ _
        split
        · exact ih place (h.2 place t' hm)
        · exact ⟨hm.1, hm.2.trans h.1.2⟩
      | _ => exact absurd rfl hw

/-- The same for the waits within a session, each of which has the guard
put first. -/
theorem meets_preempt_live {p : Proc Board α} {Q : α → Tally → Prop}
    (h : p.Meets (reporting (· = true)) t Q) :
    (preempt guard p).Meets (reporting (· = true)) t (Guarded Q) := by
  induction p generalizing t with
  | done a => exact h
  | call c k ih =>
    by_cases hw : c.waits = false
    · rw [preempt_call hw]
      exact ⟨h.1, fun r t' hm => ih r (h.2 r t' hm)⟩
    · cases c with
      | await waits =>
        rw [preempt]
        refine ⟨h.1, fun place t' hm => ?_⟩
        cases place with
        | zero => exact ⟨hm.1, hm.2.trans h.1.2⟩
        | succ place => exact ih place (h.2 place t' hm)
      | _ => exact absurd rfl hw

namespace Ppp

-- ============================================================== sessions

/-- Both are told the addressing of a session at once. -/
theorem meets_onUp (address peer : Option Address) (h : t.Live) :
    (onUp address peer).Meets (reporting (· = true)) t
      fun _ t' => t'.Live := by
  unfold onUp
  split
  · exact meets_aloof (Proc.asks_ask.2 trivial) h
  · obtain ⟨hj, hr⟩ := h
    have hl := hj.heard (.inl hr)
    refine meets_report rfl ⟨nofun, nofun⟩ fun _ _ => ?_
    refine meets_report rfl ⟨nofun, nofun⟩ fun _ _ => ?_
    refine meets_report rfl ⟨nofun, nofun⟩ fun on hon => ?_
    obtain rfl : on = true := Eq.trans hon hl
    refine meets_report rfl ⟨nofun, nofun⟩ fun _ _ => ?_
    exact ⟨⟨rfl, fun _ => hr, fun _ => rfl, hj.heard, hj.confirmed⟩, hr⟩

/-- While it follows its steps a session is live. -/
theorem meets_follow (steps : List SessionStep) (h : t.Live) :
    (follow steps).Meets (reporting (· = true)) t
      fun _ t' => t'.Live := by
  -- by induction on the steps; between them the session is live
  induction steps generalizing t with
  | nil =>
    exact meets_aloof (Proc.asks_bind (Proc.asks_ask.2 nofun)
      fun _ => trivial) h
  | cons step rest ih =>
    have first {β : Type} {p : Proc Board β} (hp : Aloof p)
        {f : β → Proc Board (Option SessionError)}
        (hf : ∀ b t, t.Live → (f b).Meets (reporting (· = true)) t
          fun _ t' => t'.Live) :
        (p >>= f).Meets (reporting (· = true)) t fun _ t' => t'.Live :=
      meets_bind.2 ((meets_aloof hp h).mono hf)
    cases step with
    | wait milliseconds =>
      refine first (p := ask (.timer milliseconds))
        (Proc.asks_ask.2 trivial) fun timer t h => ?_
      exact meets_bind.2 ((meets_aloof
        (aloof_awaitOne (w := .moment timer.due) nofun) h).mono
        fun _ _ h => ih h)
    -- only coming up changes what is known of the session
    | up address peer =>
      refine first (p := ask (.session .up))
        (Proc.asks_ask.2 trivial) fun _ t h => ?_
      exact meets_bind.2 ((meets_onUp address peer h).mono
        fun _ _ h => ih h)
    | send content =>
      have sent : Aloof (send content) :=
        (asks_send content).mono fun _ => Call.aloof_of_puts
      refine first sent fun ok t h => ?_
      cases ok with
      | true => exact ih h
      | false => exact h
    | receive most =>
      have taken : Aloof (Line.read .session most) :=
        (Line.asks_read .session most).mono fun _ => Call.aloof_of_takes
      refine first taken fun received t h => ?_
      cases received with
      | none => exact h
      | some content =>
        refine meets_bind.2 ((meets_aloof
          (p := ask (.session (.received content)))
          (Proc.asks_ask.2 trivial) h).mono fun _ _ h => ih h)
    | finish e => exact h

/-- Through all its steps a session is live. -/
theorem meets_goThrough (steps : List SessionStep) (h : t.Live) :
    (goThrough steps).Meets (reporting (· = true)) t
      fun _ t' => t'.Live := by
  have ended : Aloof (do
      pure ((← ask (.session .takeEnd)).getD .terminated) :
        Proc Board SessionError) :=
    Proc.asks_bind (Proc.asks_ask.2 trivial) fun _ => trivial
  refine meets_bind.2 ((meets_preempt_live (meets_follow steps h)).mono
    fun e t' h' => ?_)
  rcases e with _ | _ | e
  · exact meets_aloof ended h'
  · exact meets_aloof ended h'
  · exact h'

/-- A session (`runSession`) may begin where the record hears of it, and
nothing is confirmed. -/
theorem meets_runSession_live (credentials : Credentials)
    (hj : t.Joined) (hl : t.listening = true) (hc : t.confirmed = false) :
    (runSession credentials).Meets (reporting (· = true)) t
      fun _ t' => t'.Over := by
  have ended (e : SessionError) {t : Tally} (h : t.Live) :
      (ask (.session .ended) >>= fun _ => pure e).Meets
        (reporting (· = true)) t fun _ t' => t'.Over :=
    meets_report rfl ⟨nofun, nofun⟩ fun _ _ => h.ended
  have live : { t with running := true : Tally }.Live :=
    ⟨⟨hj.agreed, fun _ => rfl, hj.peer, fun _ => hl,
      fun h => absurd (hc.symm.trans h) nofun⟩, rfl⟩
  refine meets_report rfl ⟨nofun, nofun⟩ fun _ _ => ?_
  refine meets_report rfl ⟨nofun, nofun⟩ fun steps _ => ?_
  refine meets_report rfl ⟨nofun, nofun⟩ fun e _ => ?_
  cases e with
  | some e => exact ended e live
  | none =>
    exact meets_bind.2 ((meets_goThrough steps live).mono
      fun e t' h => ended e h)

-- ================================================================ the task

/-- Both are told that a session is over. -/
theorem meets_onEnd (h : t.Over) :
    onEnd.Meets (reporting fits) t fun _ t' =>
      t'.Joined ∧ t'.running = false := by
  obtain ⟨hr, hj⟩ := h
  have hl : t.listening = true := hj.heard (.inl rfl)
  refine meets_report rfl ⟨nofun, nofun⟩ fun _ _ => ?_
  refine meets_report rfl ⟨nofun, nofun⟩ fun before hbefore => ?_
  refine meets_report rfl ⟨nofun, nofun⟩ fun on hon => ?_
  obtain rfl : before = t.peer := hbefore
  obtain rfl : on = true := Eq.trans hon hl
  have unstarted := fun hc => (hj.confirmed hc).1
  have stopped {p : Prop} (h : t.running = true) : p :=
    absurd (hr.symm.trans h) nofun
  cases hp : t.peer with
  | none =>
    have disconnected {p : Prop} (h : t.connected = true) : p := by
      have hs : t.peer.isSome = true := hj.peer h
      rw [hp] at hs
      cases hs
    refine ⟨⟨hj.agreed.trans hp, nofun, disconnected, fun _ => hl,
      fun hc => ⟨unstarted hc, stopped⟩⟩, hr⟩
  | some info =>
    refine meets_report rfl ⟨nofun, nofun⟩ fun _ _ => ?_
    exact ⟨⟨rfl, nofun, nofun, fun _ => hl,
      fun hc => ⟨unstarted hc, stopped⟩⟩, hr⟩

/-- However a session ends, both have been told when the task is through
with it. -/
theorem meets_supervise_joined (hj : t.Joined) (hl : t.listening = true)
    (hc : t.confirmed = false) :
    supervise.Meets (reporting fun _ => True) t fun _ t' =>
      t'.Joined ∧ t'.running = false := by
  refine meets_report rfl ⟨nofun, nofun⟩ fun _ _ => ?_
  refine meets_report rfl ⟨nofun, nofun⟩ fun credentials _ => ?_
  have guarded : (race .control (runSession credentials)).Meets
      (reporting (· = true)) t (Guarded fun _ t' => t'.Over) :=
    meets_race_live (meets_runSession_live credentials hj hl hc)
  -- outside the session any call may be made, so its contract is weakened
  -- before what follows it
  have freed := guarded.weaken (D := reporting fun _ => True)
    (fun c t h => by
      cases c with
      | await => exact ⟨h.1, trivial⟩
      | _ => exact h)
    fun c t r t' h => by
      cases c with
      | await => exact h
      | _ => exact h
  refine meets_bind.2 (freed.mono fun r t' h => ?_)
  cases r with
  | some e =>
    have ended : t'.Over := h
    refine meets_report rfl ⟨nofun, nofun⟩ fun _ _ => ?_
    refine meets_report rfl ⟨nofun, nofun⟩ fun on _ => ?_
    cases on with
    | true =>
      exact meets_report rfl ⟨nofun, nofun⟩ fun _ _ => meets_onEnd ended
    | false => exact meets_onEnd ended
  | none =>
    have live : t'.Live := h
    refine meets_report rfl ⟨nofun, nofun⟩ fun told _ => ?_
    refine meets_report rfl ⟨nofun, nofun⟩ fun _ _ => ?_
    have ended : ((t'.after (.shared .takeControl) told).after
        (.session .stopped) ()).Over :=
      Tally.Live.ended ⟨live.joined.told nofun, live.running⟩
    cases told with
    | some control =>
      exact meets_report rfl ⟨nofun, nofun⟩ fun _ _ => meets_onEnd ended
    | none => exact meets_onEnd ended

/-- One round of the task leaves it `Joined`. -/
theorem meets_round_joined (hj : t.Joined) (hr : t.running = false) :
    round.Meets (reporting fun _ => True) t fun _ t' =>
      t'.Joined ∧ t'.running = false := by
  have raised {t : Tally} (h : t.Joined ∧ t.running = false) :
      (shared .signalStopped).Meets (reporting fun _ => True) t
        fun _ t' => t'.Joined ∧ t'.running = false :=
    Tally.meets_told rfl ⟨nofun, nofun⟩ fun _ _ => h
  unfold round
  refine meets_bind.2 (meets_bind.2 (meets_ask.2
    ⟨⟨hj, trivial⟩, fun place t₁ h₁ => meets_done.2 ?_⟩))
  obtain ⟨hj₁, hr₁⟩ := h₁
  have stands : t₁.running = false := hr₁.trans hr
  refine meets_report rfl ⟨nofun, nofun⟩ fun told ht => ?_
  obtain rfl : told = t₁.control := ht
  have taken : (t₁.after (.shared .takeControl) t₁.control).Joined :=
    hj₁.told nofun
  split
  next hs =>
    refine meets_bind.2 ((meets_supervise_joined taken
      (hj₁.heard (.inr hs)) ?_).mono fun _ t' h => raised h)
    cases hc : t₁.confirmed with
    | false => exact hc
    | true => exact absurd hs (hj₁.confirmed hc).1
  · exact raised ⟨taken, stands⟩

end Ppp

end Uplink.Board
