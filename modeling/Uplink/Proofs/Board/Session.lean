/-
The PPP task and the signals.

The task waits to be told something, and wherever it waits it can be told
to stop: outside of a session that is all it waits for, and a session is
guarded with it (`meets_race`). What it is told it takes at once, and it
does not wait again before it has raised the signal that no session runs.
So whenever it waits, what it was told has not been taken.
-/
import Uplink.Proofs.Board.Calm

namespace Uplink.Board

open Proc (Meets meets_ask meets_bind meets_done)

variable {α : Type} {v : View}

-- =============================================================== the task

/-- The PPP task raises the signals of its side. -/
def Call.serves (c : Call) : Prop :=
  (∀ control, c ≠ .shared (.direct control)) ∧ c ≠ .shared .clearStopped

/-- It can be told something wherever it waits, and whether a session runs
is its own matter. -/
def serving : Contract Board View :=
  sharing (·.floor.running) (fun waits _ => .control ∈ waits)
    fun c _ => c.serves

def Call.brief (c : Call) : Prop :=
  c.calm ∧ c.waits = false

/-- Brief calls change neither the signals nor whether a session runs. -/
theorem preserves_brief (gist : Phase × Option Control × Bool × Bool) :
    serving.Preserves Call.brief fun v => v.gist = gist := by
  intro c v hc hv
  obtain ⟨hcalm, hw⟩ := hc
  refine ⟨?_, fun r v' h => (gist_moves_calm hcalm hw h).trans hv⟩
  cases c with
  | await => cases hw
  | shared a =>
    refine ⟨fun control h => ?_, fun h => ?_⟩
    · cases h
      cases hcalm
    · cases h
      cases hcalm
  | _ => exact ⟨nofun, nofun⟩

/-- A program that makes no other calls moves neither. -/
theorem meets_brief {p : Proc Board α} (hp : p.Asks Call.brief)
    (v : View) : p.Meets serving v fun _ v' => v'.gist = v.gist :=
  hp.meets (preserves_brief v.gist) rfl

/-- A `Calm` program that is guarded is left `Sound`, and does not end the
session itself. -/
theorem meets_race {p : Proc Board α} (hp : Calm p) (hs : v.Sound) :
    (race .control p).Meets serving v fun _ v' =>
      v'.Sound ∧ v'.floor.running = v.floor.running := by
  induction p generalizing v with
  | done a => exact ⟨hs, rfl⟩
  | call c k ih =>
    obtain ⟨hc, hk⟩ := hp
    by_cases hw : c.waits = false
    · rw [race_call hw]
      obtain ⟨ha, hm⟩ := preserves_brief v.gist c v ⟨hc, hw⟩ rfl
      refine ⟨ha, fun r v' hr => ?_⟩
      have hg := hm r v' hr
      refine (ih r (hk r) (hs.of_gist hg)).mono fun r v'' h => ?_
      have running : v'.floor.running = v.floor.running :=
        congrArg (·.2.2.2) hg
      exact ⟨h.1, h.2.trans running⟩
    · cases c with
      | await waits =>
        refine ⟨⟨hs, List.mem_append_right _ List.mem_cons_self⟩,
          fun place v' hr => ?_⟩
        obtain ⟨hs', running, -⟩ := hr
        show Meets _ (if place < waits.length then _ else _) _ _
        split
        · refine (ih place (hk place) hs').mono fun r v'' h => ?_
          exact ⟨h.1, h.2.trans running⟩
        · exact ⟨hs', running⟩
      | _ => exact absurd rfl hw

namespace Ppp

/-- What the task takes was the last it was told. -/
theorem told_of_moves {v' : View} {told : Option Control}
    (h : serving.moves (.shared .takeControl) v told v') :
    told = v.floor.shared.control :=
  (Prod.mk.inj h.2.1).1.symm

/-- With the signal raised while it is true, all is `Sound`. -/
theorem moves_signalStopped {v' : View}
    (h : serving.moves (.shared .signalStopped) v () v')
    (still : v.floor.Still) : v'.Sound ∧ v'.floor.running = false := by
  obtain ⟨-, hc, hd, hr⟩ := gist_eq_iff.1 (gist_moves rfl h)
  have still' : v'.floor.Still :=
    ⟨hr.trans still.stands, hc ▸ still.unstarted⟩
  exact ⟨⟨fun _ => still'.unstarted, fun _ => still', fun _ => still',
    fun _ => .inl hd⟩, still'.stands⟩

/-- Who is told to start while no session runs was told so last by a modem
that then waited for nothing. -/
theorem gist_of_start (hs : v.Sound)
    (hc : v.floor.shared.control = some .start) :
    v.phase = .opened ∧ v.floor.shared.stopped = false := by
  have hstopped : v.floor.shared.stopped = false := by
    cases h : v.floor.shared.stopped with
    | false => rfl
    | true => exact absurd hc (hs.stopped h).unstarted
  refine ⟨?_, hstopped⟩
  cases h : v.phase with
  | opened => rfl
  | closed => exact absurd hc (hs.closed h).unstarted
  | stopping =>
    rcases hs.stopping h with h | h
    · rw [hstopped] at h
      cases h
    · rw [hc] at h
      cases h

/-- Whoever takes a start may begin a session. -/
theorem sound_of_gist {running : Bool}
    (h : v.gist = (.opened, none, false, running)) : v.Sound := by
  obtain ⟨hp, hc, hd, -⟩ := gist_eq_iff.1 h
  refine ⟨fun _ => ?_, fun h => ?_, fun h => ?_, fun h => ?_⟩
  · rw [hc]
    exact nofun
  · rw [hd] at h
    cases h
  · rw [hp] at h
    cases h
  · rw [hp] at h
    cases h

/-- A session (`runSession`) that runs to its end is over then, and nobody
has started another. -/
theorem meets_runSession (credentials : Credentials)
    (h : v.gist = (.opened, none, false, false)) :
    (race .control (runSession credentials)).Meets serving v
      fun r v' => r.isSome = true → v'.floor.Still := by
  -- a session that ends by itself leaves the start to come as it was
  have ended (e : SessionError) {v : View} (hs : v.Sound)
      (hr : v.floor.running = true) :
      (race .control (ask (.session .ended) >>= fun _ => pure e)).Meets
        serving v fun r v' => r.isSome = true → v'.floor.Still := by
    rw [race_ask_bind rfl]
    refine ⟨⟨nofun, nofun⟩, fun _ v' hm => fun _ => ?_⟩
    obtain ⟨-, hc, -, hr'⟩ := gist_eq_iff.1 (gist_moves rfl hm)
    exact ⟨hr', hc ▸ hs.unstarted hr⟩
  unfold runSession
  rw [race_ask_bind rfl]
  obtain ⟨ha, hm⟩ := preserves_brief _ (.line (.attach .session)) v
    ⟨trivial, rfl⟩ h
  refine ⟨ha, fun _ v₁ h₁ => ?_⟩
  have hg₁ := hm _ v₁ h₁
  dsimp only
  rw [race_ask_bind rfl]
  refine ⟨⟨nofun, nofun⟩, fun steps v₂ h₂ => ?_⟩
  have hg₂ : v₂.gist = (.opened, none, false, true) := by
    obtain ⟨hp₁, hc₁, hd₁, -⟩ := gist_eq_iff.1 hg₁
    obtain ⟨hp, hc, hd, hr⟩ := gist_eq_iff.1 (gist_moves rfl h₂)
    exact gist_eq_iff.2
      ⟨hp.trans hp₁, hc.trans hc₁, hd.trans hd₁, hr⟩
  have hs₂ := sound_of_gist hg₂
  have hr₂ : v₂.floor.running = true := congrArg (·.2.2.2) hg₂
  dsimp only
  rw [race_ask_bind rfl]
  -- the peer may have ended it before it began
  obtain ⟨ha, hm⟩ := preserves_brief _ (.session .takeEnd) v₂
    ⟨trivial, rfl⟩ rfl
  refine ⟨ha, fun e v₃ h₃ => ?_⟩
  have hg₃ := hm e v₃ h₃
  have hs₃ := hs₂.of_gist hg₃
  have hr₃ : v₃.floor.running = true :=
    (congrArg (·.2.2.2) hg₃).trans hr₂
  cases e with
  | some e => exact ended e hs₃ hr₃
  | none =>
    dsimp only
    rw [race_bind]
    refine meets_bind.2 ((meets_race (calm_goThrough _) hs₃).mono
      fun r v₄ h₄ => ?_)
    cases r with
    | none => exact nofun
    | some e => exact ended e h₄.1 (h₄.2.trans hr₃)

/-- However a session ended, none runs then. -/
theorem meets_supervise (h : v.gist = (.opened, none, false, false)) :
    supervise.Meets serving v fun _ v' => v'.floor.Still := by
  have keeps_still {p : Proc Board Unit} (hp : p.Asks Call.brief) {v : View}
      (still : v.floor.Still) :
      p.Meets serving v fun _ v' => v'.floor.Still :=
    (meets_brief hp v).mono fun _ v' hg => still.of_gist hg
  have logged (line : Line) : (log line).Asks Call.brief :=
    Proc.asks_ask.2 ⟨trivial, rfl⟩
  have access {a : Shared.Access} (ha : a.signals = false) :
      (shared a).Asks Call.brief := Proc.asks_ask.2 ⟨ha, rfl⟩
  have cleared : onEnd.Asks Call.brief :=
    asks_onEnd ⟨trivial, rfl⟩ fun _ ha _ => ⟨ha, rfl⟩
  unfold supervise
  refine meets_bind.2 ((meets_brief (logged _) v).mono fun _ v₁ h₁ => ?_)
  refine meets_bind.2 ((meets_brief (access rfl) v₁).mono
    fun credentials v₂ h₂ => ?_)
  refine meets_bind.2 ((meets_runSession credentials
    (h₂.trans (h₁.trans h))).mono fun r v₃ still => ?_)
  cases r with
  | some e =>
    refine keeps_still (Proc.asks_bind (logged _) fun _ =>
      Proc.asks_bind (access rfl) fun listening => ?_) (still rfl)
    cases listening with
    | true => exact Proc.asks_bind (access rfl) fun _ => cleared
    | false => exact cleared
  | none =>
    refine meets_bind.2 (meets_ask.2
      ⟨⟨nofun, nofun⟩, fun told v₄ h₄ => ?_⟩)
    refine meets_bind.2 (meets_ask.2
      ⟨⟨nofun, nofun⟩, fun _ v₅ h₅ => ?_⟩)
    -- the signal was taken before the session was given up
    have given_up : v₅.floor.Still := by
      obtain ⟨-, hc₄, -, -⟩ := gist_eq_iff.1 (gist_moves rfl h₄)
      obtain ⟨-, hc₅, -, hr₅⟩ := gist_eq_iff.1 (gist_moves rfl h₅)
      refine ⟨hr₅, ?_⟩
      rw [hc₅.trans hc₄]
      exact nofun
    cases told with
    | some control =>
      exact keeps_still (Proc.asks_bind (logged _) fun _ => cleared) given_up
    | none => exact keeps_still cleared given_up

/-- One round of the task leaves all as `Sound` as it was. -/
theorem meets_round (hs : v.Sound) (hr : v.floor.running = false) :
    round.Meets serving v fun _ v' =>
      v'.Sound ∧ v'.floor.running = false := by
  have raised {v : View} (still : v.floor.Still) :
      (shared .signalStopped).Meets serving v fun _ v' =>
        v'.Sound ∧ v'.floor.running = false :=
    meets_ask.2 ⟨⟨nofun, nofun⟩,
      fun _ v' hm => moves_signalStopped hm still⟩
  unfold round
  refine meets_bind.2 (meets_bind.2 (meets_ask.2
    ⟨⟨hs, List.mem_cons_self⟩, fun place v₁ h₁ => meets_done.2 ?_⟩))
  obtain ⟨hs₁, hr₁, -⟩ := h₁
  have stands : v₁.floor.running = false := hr₁.trans hr
  refine meets_bind.2 (meets_ask.2
    ⟨⟨nofun, nofun⟩, fun told v₂ h₂ => ?_⟩)
  have ht := told_of_moves h₂
  obtain ⟨hp₂, hc₂, hd₂, hr₂⟩ := gist_eq_iff.1 (gist_moves rfl h₂)
  have still : v₂.floor.Still := by
    refine ⟨hr₂.trans stands, ?_⟩
    rw [hc₂]
    exact nofun
  split
  · obtain ⟨hp₁, hd₁⟩ := gist_of_start hs₁ ht.symm
    have started : v₂.gist = (.opened, none, false, false) :=
      gist_eq_iff.2 ⟨hp₂.trans hp₁, hc₂, hd₂.trans hd₁, hr₂.trans stands⟩
    exact meets_bind.2 ((meets_supervise started).mono
      fun _ v' hv' => raised hv')
  · exact raised still

end Ppp

end Uplink.Board
