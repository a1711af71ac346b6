/-
The hand-over between the modem's side and the PPP task.

The two tasks, and whatever else the board does, take turns in any order,
and each wait may last as long as it likes or end at once (`Reached`). The
manager goes through any operations, one at a time. Sessions do what they
like, and end when they like; and either signal may have been left raised
by an earlier session.

Both tasks keep to their contracts, and neither disturbs the other
(`Handed`). So a wait for the end of a session ends where there is none
and none is about to start, and it cannot be missed: as long as the signal
is not raised, the PPP task is told to stop, and waits to hear it
(`Reached.hand_over`).
-/
import Uplink.Proofs.Board.Channel
import Uplink.Proofs.Board.Pact
import Uplink.Proofs.Board.Session

namespace Uplink.Board

open Gsm (Manager Operation)
open Proc (Meets meets_bind)

-- ============================================================== the tasks

/-- What some order of turns leads to, from where no session runs and none
is about to. -/
inductive Reached : Tasks → Prop
  | made (m : Manager) (parts : Parts) (f : Floor) :
      f.Still → Reached ⟨.done (m, parts), Ppp.round, f⟩
  /-- the manager begins an operation -/
  | operated {m : Manager} {parts : Parts} {ppp : Proc Board Unit}
      {f f' : Floor} {p : Proc Board (Manager × Parts)} (o : Operation) :
      Reached ⟨.done (m, parts), ppp, f⟩ →
      Turn (operate o m parts) f p f' → Reached ⟨p, ppp, f'⟩
  /-- the manager goes on -/
  | managed {waits : List Wait} {k : Nat → Proc Board (Manager × Parts)}
      {ppp : Proc Board Unit} {f f' : Floor} {place : Nat} {w : Wait}
      {p : Proc Board (Manager × Parts)} :
      Reached ⟨.call (.await waits) k, ppp, f⟩ →
      waits[place]? = some w → f.ready w →
      Turn (k place) f p f' → Reached ⟨p, ppp, f'⟩
  /-- the PPP task goes on -/
  | served {manager : Proc Board (Manager × Parts)} {waits : List Wait}
      {k : Nat → Proc Board Unit} {f f' : Floor} {place : Nat} {w : Wait}
      {p : Proc Board Unit} :
      Reached ⟨manager, .call (.await waits) k, f⟩ →
      waits[place]? = some w → f.ready w →
      Turn (k place) f p f' → Reached ⟨manager, onward p, f'⟩
  /-- somebody else accesses what is shared -/
  | shared {t : Tasks} (a : Shared.Access) :
      Reached t → a.signals = false →
      Reached { t with
        floor := { t.floor with
          shared := (t.floor.shared.apply a).value.2 } }

-- ========================================================== the invariant

/-- What the manager leaves behind when it is through. -/
def Rested (x : Manager × Parts) (phase : Phase) : Prop :=
  phase ≠ .stopping
    ∧ (x.1.active = false ∨ x.2.mode = .command → phase = .closed)

/-- Both tasks wait, and will go on as they should. -/
structure Handed (t : Tasks) (phase : Phase) : Prop where
  parked : Parked t.manager
  waits : ∃ waits k, t.ppp = .call (.await waits) k
  manager : t.manager.Meets managing ⟨phase, t.floor⟩ fun x v =>
    v.Sound ∧ Rested x v.phase
  ppp : t.ppp.Meets serving ⟨phase, t.floor⟩ fun _ v =>
    v.Sound ∧ v.floor.running = false

/-- The manager's turns begin and end no session. -/
theorem running_of_manages {c : Call} {v : View} {f f' : Floor}
    {r : c.Answer} (hc : c.manages v) (hr : f.answers c r f') :
    f'.running = f.running := by
  have hs : f'.running = (c.signal f.signals).2.2 :=
    congrArg (·.2.2) (Floor.signals_answers hr)
  rw [hs]
  rcases hc with hc | rfl | rfl | ⟨rfl, -⟩
  · rw [Call.signal_of_calm hc]
    rfl
  · rfl
  · rfl
  · rfl

/-- The PPP task's turns leave the `Phase` where it was. -/
theorem after_of_serves {c : Call} (hc : c.serves) (phase : Phase) :
    phase.after c = phase := by
  cases c with
  | shared a =>
    cases a with
    | direct control => exact absurd rfl (hc.1 control)
    | clearStopped => exact absurd rfl hc.2
    | _ => rfl
  | _ => rfl

/-- Every operation leaves the manager as it found it, `Rested`: with no
session that is about to stop, and with none at all where it is inactive or
in command mode. -/
theorem meets_operate (o : Operation) {x : Manager × Parts} {v : View}
    (hs : v.Sound) (hx : Rested x v.phase) :
    (operate o x.1 x.2).Meets managing v fun x v =>
      v.Sound ∧ Rested x v.phase := by
  have held : Held (!x.1.active) x.2.mode v :=
    ⟨hs, hx.1, fun h => hx.2 (h.imp (by simp) id)⟩
  refine meets_bind.2 (Meets.mono
    (Cellular.ensures_operation o x.1 held) fun y v' hv' => ?_)
  exact ⟨hv'.sound, hv'.settled, fun h => hv'.closed (h.imp (by simp) id)⟩

/-- What the two tasks are bound to. -/
def handing : Pact View Phase Bool where
  aspect := View.aspect
  manager := {
    held := (·.phase)
    waits := Phase.fits
    calls := Call.manages
    through := Rested }
  ppp := {
    held := (·.floor.running)
    waits := fun waits _ => .control ∈ waits
    calls := fun c _ => c.serves
    through := fun _ running => running = false }
  other a := a.signals = false

/-- The invariant holds up in the turns of either task, since only the
modem's side moves the phase. -/
theorem stands_handing : handing.Stands where
  manager_apart _ _ _ _ hc h := running_of_manages hc h.2
  ppp_apart _ _ v _ hc h := h.1.trans (after_of_serves hc v.phase)
  other_apart a v ha hs := by
    have hr : v.floor.answers (.shared a) (v.floor.shared.apply a).value.1
        (v.floor.accessed a) := ⟨rfl, rfl⟩
    have hg := Floor.signals_answers hr
    rw [Call.signal_of_calm (c := .shared a) ha] at hg
    exact ⟨⟨v.phase, v.floor.accessed a⟩, rfl,
      View.Sound.of_gist hs (Prod.ext rfl hg), rfl, rfl⟩
  operates o _ _ hs hx := meets_operate o hs hx
  rounds _ hs hr := Ppp.meets_round hs hr

/-- Where no session runs and none is about to. -/
def Tasks.Still (t : Tasks) : Prop :=
  ∃ m parts, t.manager = .done (m, parts) ∧ t.ppp = Ppp.round
    ∧ t.floor.Still

/-- Where no session runs and none is about to, the invariant holds. -/
theorem Tasks.Still.kept {t : Tasks} (h : t.Still) :
    ∃ v, handing.Kept t v := by
  obtain ⟨m, parts, hm, hp, still⟩ := h
  have hs : View.Sound ⟨.closed, t.floor⟩ :=
    ⟨fun _ => still.unstarted, fun _ => still, fun _ => still, nofun⟩
  refine ⟨⟨.closed, t.floor⟩, rfl, ?_, ?_, ?_, ?_⟩
  · rw [hm]
    trivial
  · rw [hp]
    exact Pact.round_waits
  · rw [hm]
    exact ⟨hs, nofun, fun _ => rfl⟩
  · rw [hp]
    exact Ppp.meets_round hs still.stands

/-- What was reached, was reached in some order of turns from such
tasks. -/
theorem Reached.from_still {t : Tasks} (h : Reached t) :
    Tasks.From Tasks.Still (fun a => a.signals = false) t := by
  induction h with
  | made m parts f hf => exact .start ⟨m, parts, rfl, rfl, hf⟩
  | operated o _ ht ih => exact .operated o ih ht
  | managed _ hw ready ht ih => exact .managed ih hw ready ht
  | served _ hw ready ht ih => exact .served ih hw ready ht
  | shared a _ ha ih => exact .shared a ih ha

/-- Wherever an order of turns leads, both tasks wait as the invariant
says. -/
theorem Reached.handed {t : Tasks} (h : Reached t) :
    ∃ phase, Handed t phase := by
  obtain ⟨⟨phase, f⟩, h⟩ :=
    stands_handing.kept (fun _ => Tasks.Still.kept) h.from_still
  obtain rfl : f = t.floor := h.floor
  exact ⟨phase, h.parked, h.waits, h.manager, h.ppp⟩

-- ============================================================ one session

/-- A modem that takes every command, and a peer that has a session come
up and stay. -/
def Call.obliged : (c : Call) → c.Answer
  | .line (.write content) => some content.length
  | .line .flush => true
  | .line (.listen _) => true
  | .line .verdict => some (.accepted
    "\r\n+CREG: 0,1\r\n+CGREG: 0,1\r\n+CGATT: 1\r\n+CSQ: 20,0\r\nOK\r\n")
  | .session (.start _) => [.up (some ⟨10, 0, 0, 2⟩) none]
  | _ => default

/-- A session that is brought up, and that the peer leaves up. -/
def Tasks.up : Tasks :=
  let m : Manager :=
    { settings := .standard, apn := { source := some .configured } }
  let parts : Parts := { wiring := Config.Settings.standard.uart }
  let first := turn Call.obliged (operate .bringUp m parts) ⟨{}, false⟩
  (goOn Call.obliged)^[42] ⟨first.1, Ppp.round, first.2⟩

/-- The tasks of `Tasks.up` can come about in some order of turns. -/
theorem Tasks.from_up :
    Tasks.From Tasks.Still (fun a => a.signals = false) Tasks.up := by
  let m : Manager :=
    { settings := .standard, apn := { source := some .configured } }
  let parts : Parts := { wiring := Config.Settings.standard.uart }
  have still : Tasks.Still ⟨.done (m, parts), Ppp.round, ⟨{}, false⟩⟩ :=
    ⟨m, parts, rfl, rfl, rfl, nofun⟩
  exact ((Tasks.From.start still).operated .bringUp
    (turn_turn Call.obliged _ _)).goes Call.obliged 42

/-- There the manager is through, is active, and remembers data mode. -/
theorem Tasks.up_manager : ∃ m parts, Tasks.up.manager = .done (m, parts)
    ∧ m.active = true ∧ parts.mode = .data := by
  have through : (Tasks.up.manager.value?.map
      fun x => (x.1.active, x.2.mode)) = some (true, .data) := by
    decide +kernel
  obtain ⟨⟨m, parts⟩, hm, h⟩ := Option.map_eq_some_iff.1 through
  obtain ⟨ha, hd⟩ := Prod.mk.inj h
  exact ⟨m, parts, Proc.eq_done_of_value? hm, ha, hd⟩

/-- There a session runs. -/
theorem Tasks.up_running : Tasks.up.floor.running = true := by
  decide +kernel

/-- What is reached from `Tasks.Still` by turns is `Reached`. -/
theorem Reached.of_from {t : Tasks}
    (h : Tasks.From Tasks.Still (fun a => a.signals = false) t) :
    Reached t := by
  induction h with
  | @start t still =>
    obtain ⟨m, parts, hm, hp, hf⟩ := still
    obtain ⟨manager, ppp, f⟩ := t
    cases hm
    cases hp
    exact .made m parts f hf
  | operated o _ ht ih => exact .operated o ih ht
  | managed _ hw ready ht ih => exact .managed ih hw ready ht
  | served _ hw ready ht ih => exact .served ih hw ready ht
  | shared a _ ha ih => exact .shared a ih ha

/-- Disconnecting in data mode tells the PPP task to stop, and waits. -/
theorem turn_disconnect {m : Manager} {parts : Parts}
    (ha : m.active = true) (hd : parts.mode = .data) (f : Floor) :
    ∃ k, Turn (operate .disconnect m parts) f (.call (.await [.stopped]) k)
      (f.accessed (.direct .stop)) := by
  obtain ⟨settings, active, apn, recorded, cachedSignal, lastError⟩ := m
  obtain rfl : active = true := ha
  cases parts
  cases hd
  have directed : f.answers (.shared (.direct .stop)) ()
      (f.accessed (.direct .stop)) := ⟨rfl, rfl⟩
  apply Exists.intro
  -- a line of the log, and then what the PPP task is told
  refine .call (r := ()) rfl ?_
  refine .call directed ?_
  exact .waits [.stopped] _ _

-- ========================================================== the hand-over

variable {t : Tasks}

/-- Whenever the cellular link waits for the end of a session: it goes on
only where no session runs and none is about to start, and as long as it
cannot, the PPP task is told to `stop`, and waits to be told. -/
theorem Reached.hand_over (h : Reached t) {waits : List Wait}
    {k : Nat → Proc Board (Manager × Parts)}
    (hm : t.manager = .call (.await waits) k) (hw : .stopped ∈ waits) :
    (∀ (place : Nat) w, waits[place]? = some w → t.floor.ready w →
        t.floor.running = false ∧ t.floor.shared.control ≠ some .start)
      ∧ (t.floor.shared.stopped = false →
        t.floor.shared.control = some .stop
          ∧ ∃ waits k, t.ppp = .call (.await waits) k
            ∧ .control ∈ waits) := by
  obtain ⟨phase, h⟩ := h.handed
  have hmanager := h.manager
  rw [hm] at hmanager
  obtain ⟨⟨hs, hstop⟩, -⟩ := hmanager
  obtain ⟨rfl, hp⟩ := hstop hw
  refine ⟨fun place w hplace ready => ?_, fun hd => ⟨?_, ?_⟩⟩
  · obtain rfl := List.mem_singleton.1 (List.mem_of_getElem? hplace)
    have still := hs.stopped ready
    exact ⟨still.stands, still.unstarted⟩
  · refine (hs.stopping hp).resolve_left fun h => ?_
    cases hd.symm.trans h
  · obtain ⟨waits, k', hk'⟩ := h.waits
    have hppp := h.ppp
    rw [hk'] at hppp
    exact ⟨waits, k', hk', hppp.1.2⟩

/-- So it is where `disconnect` is asked of a link whose session runs. -/
theorem Reached.hand_over_disconnect :
    ∃ t k, Reached t ∧ t.manager = .call (.await [.stopped]) k
      ∧ t.floor.running = true ∧ t.floor.shared.stopped = false
      ∧ t.floor.shared.control = some .stop
      ∧ ∃ waits k, t.ppp = .call (.await waits) k ∧ .control ∈ waits := by
  obtain ⟨m, parts, hm, ha, hd⟩ := Tasks.up_manager
  have up := Reached.of_from Tasks.from_up
  have running := Tasks.up_running
  have unheard : Tasks.up.floor.shared.stopped = false := by decide +kernel
  generalize Tasks.up = t at hm up running unheard
  obtain ⟨manager, ppp, f⟩ := t
  obtain rfl : manager = .done (m, parts) := hm
  obtain ⟨k, ht⟩ := turn_disconnect ha hd f
  have h := up.operated .disconnect ht
  exact ⟨_, k, h, rfl, running, unheard,
    (h.hand_over rfl List.mem_cons_self).2 unheard⟩

end Uplink.Board
