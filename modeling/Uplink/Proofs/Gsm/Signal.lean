/-
What reading the signal sends to the modem.

The manager gives the reading it kept while the link is connected, and
asks the modem otherwise. By what a history says of the carrier, this is
right where the carrier is on or off. Where it is stranded, the command
goes to a modem in data mode (`Traced.signal_traffic`): the carrier
decides alone, since between operations flag and mode follow it.

The look at the record is one call and the question to the modem is
another. What is reported in between comes too late: the carrier that
counts is the one when the manager looked.
-/
import Uplink.Proofs.Gsm.Carrier

namespace Uplink.Gsm

open Modem (Mode Wire)
open Proc (Ensures Runs)
open Surroundings (traced)

/-- The signal is asked for on the line. -/
def Queried (w : Wire) : Prop :=
  ∃ e ∈ w, Modem.Channel.writes "AT+CSQ".toUTF8.toList e

theorem Queried.append {w : Wire} (h : Queried w) (w' : Wire) :
    Queried (w ++ w') := by
  obtain ⟨e, he, hw⟩ := h
  exact ⟨e, List.mem_append_left w' he, hw⟩

/-- What reading the signal comes to, by the carrier when the manager
looked. -/
def Carrier.Reads (kept : Int) (mode : Mode) (v : Wire) (r : Int) :
    Carrier → Prop
  | off => mode = .command ∧ Queried v
  | on => mode = .data ∧ v = [] ∧ r = kept
  | stranded => mode = .data ∧ Queried v

theorem Mode.eq_data_of_ne {mode : Mode} (h : mode ≠ .command) :
    mode = .data := by
  cases mode with
  | command => exact absurd rfl h
  | data => rfl

/-- Over a `Carrier` that is not on, the modem is asked. -/
theorem Carrier.reads_of_queried {k : Carrier} {kept r : Int}
    {mode : Mode} {v : Wire} (hk : k ≠ .on)
    (hm : mode = .command ↔ k = .off) (hv : Queried v) :
    k.Reads kept mode v r := by
  cases k with
  | off => exact ⟨hm.2 rfl, hv⟩
  | on => exact absurd rfl hk
  | stranded => exact ⟨Mode.eq_data_of_ne fun h => (nomatch hm.1 h), hv⟩

/-- The manager looked at the record, and what was read goes by the
carrier there. -/
def Looked (m : Manager) (s : Scene) (w : Wired) (v : Wire) (r : Int)
    (s' : Scene) : Prop :=
  ∃ reports connected,
    s.past ++ reports.map .heard
        ++ [.asked ⟨.record .isConnected, connected⟩] <+: s'.past
      ∧ (s.hearAll reports).carrier.Reads m.cachedSignal w.mode v r

/-- A look at the record comes after some reports, and tells whether the
link was connected then. -/
theorem Scene.look {s s' : Scene} {connected : Bool}
    (h : Surroundings.chronicled (.record .isConnected) s connected s') :
    ∃ reports, (s.hearAll reports).link.connected = connected
      ∧ s'.past = s.past ++ reports.map .heard
        ++ [.asked ⟨.record .isConnected, connected⟩] := by
  obtain ⟨s₀, ⟨reports, hlook⟩, rfl⟩ := h
  obtain ⟨hc, rfl⟩ := Prod.mk.inj hlook
  refine ⟨reports, hc, ?_⟩
  rw [← hearAll_past]
  rfl

/-- A call never takes anything from what happened before. -/
theorem Scene.past_grows {call : GsmCall} {s s' : Scene} {r : call.Answer}
    (h : Surroundings.chronicled call s r s') : s.past <+: s'.past := by
  obtain ⟨reports, hp⟩ := Surroundings.chronicled_past h
  rw [hp, List.append_assoc]
  exact List.prefix_append _ _

namespace Manager

variable {m : Manager} {s : Scene} {w : Wired}

/-- Asking the modem, and logging that it failed. -/
theorem ensures_ask_quality {kept : Int} :
    Ensures traced.contract (do
      match ← session (Proc.ask (I := Modem.Session) .quality) with
      | .ok reading =>
        modify fun m => { m with cachedSignal := reading.rssi }
        pure reading.rssi
      | .error e =>
        log (.debug
          s!"Signal query failed ({e.message}), returning cached value")
        pure kept) m (s, w) fun _ _ x' =>
      ∃ v, x'.2.wire = w.wire ++ v ∧ Queried v ∧ s.past <+: x'.1.past := by
  refine Proc.ensures_bind.2 (Proc.ensures_lift.2
    (Surroundings.meets_ofSession.2
      (Proc.meets_ask.2 ⟨trivial, fun q x₁ hq => ?_⟩)))
  obtain ⟨hs₁, v, hv, hwire⟩ := hq
  have hask : Queried v :=
    (Modem.Channel.shows_quality_writes w.mode).of_runs hv
  have hpast : s.past <+: x₁.1.past := Scene.past_grows hs₁
  cases q with
  | ok reading => exact ⟨v, hwire, hask, hpast⟩
  | error e =>
    refine Proc.ensures_bind.2 (Proc.ensures_lift.2
      (Proc.meets_ask.2 ⟨trivial, fun _ x₂ hl => ?_⟩))
    obtain ⟨hs₂, v', -, hwire'⟩ := hl
    refine ⟨v ++ v', ?_, hask.append v',
      hpast.trans (Scene.past_grows hs₂)⟩
    rw [hwire', hwire, List.append_assoc]

/-- What a reading of the signal (`signalStrength`) writes, and what it
comes to, from wherever carrier and link go together. -/
theorem ensures_signalStrength (hmode : Follows (s, w))
    (hs : s.Carried) :
    Ensures traced.contract signalStrength m (s, w) fun r _ x' =>
      ∃ v, x'.2.wire = w.wire ++ v
        ∧ (m.active = false → v = [] ∧ r = Timing.signalUnknown)
        ∧ (m.active = true → Looked m s w v r x'.1) := by
  unfold signalStrength
  rw [Proc.ensures_bind, Proc.ensures_get]
  by_cases ha : m.active = true
  · have hnot : ¬m.active = false := by simp [ha]
    rw [if_neg (by simp [ha])]
    refine Proc.ensures_bind.2 (Proc.ensures_lift.2
      (Proc.meets_ask.2 ⟨trivial, fun connected x₁ hr => ?_⟩))
    obtain ⟨s₁, w₁⟩ := x₁
    obtain ⟨hs₁, hw₁⟩ := hr
    obtain rfl : w₁ = w := hw₁
    obtain ⟨reports, hc, hpast⟩ := Scene.look hs₁
    have hcarried := Scene.lasts_carried.hearAll hs reports
    have hfollows : w₁.mode = .command
        ↔ (s.hearAll reports).carrier = .off :=
      hmode.trans (s.off_hearAll reports).symm
    -- a connected link is on data, so nothing is written; else what is
    -- written depends on whether the carrier is off
    cases connected with
    | true =>
      have hon : (s.hearAll reports).carrier = .on := hcarried.1 hc
      refine ⟨[], (List.append_nil _).symm, fun h => absurd h hnot,
        fun _ => ⟨reports, true, hpast ▸ List.prefix_rfl, ?_⟩⟩
      rw [hon] at hfollows ⊢
      exact ⟨Mode.eq_data_of_ne fun h => (nomatch hfollows.1 h), rfl, rfl⟩
    | false =>
      have hoff : (s.hearAll reports).carrier ≠ .on := by
        intro hon
        rw [hcarried.2 hon] at hc
        cases hc
      refine ensures_ask_quality.mono fun r m' x₂ hx => ?_
      obtain ⟨v, hwire, hask, hgrown⟩ := hx
      rw [hpast] at hgrown
      exact ⟨v, hwire, fun h => absurd h hnot, fun _ =>
        ⟨reports, false, hgrown,
          Carrier.reads_of_queried hoff hfollows hask⟩⟩
  · rw [if_pos (by simp [ha])]
    exact ⟨[], (List.append_nil _).symm, fun _ => ⟨rfl, rfl⟩,
      fun h => absurd h ha⟩

end Manager

/-- After any history, where nothing is set up the modem is not asked.
Where something is, the `carrier` when the manager looks decides: while it
is off, commands are listened to, and the modem is asked; while it is on,
the modem is in data mode, nothing is sent, and the kept reading is given;
and while it is stranded, the modem is in data mode and is asked all the
same. -/
theorem Traced.signal_traffic {settings : Config.Settings}
    {m m' : Manager} {s s' : Scene} {w w' : Wired}
    {t : List (Event Surroundings)} {r : Int}
    (h : Traced settings m s w)
    (hr : Runs traced (Manager.signalStrength.run m) (s, w) t (r, m')
      (s', w')) :
    ∃ v, w'.wire = w.wire ++ v
      ∧ (m.active = false → v = [] ∧ r = Timing.signalUnknown)
      ∧ (m.active = true → Looked m s w v r s') :=
  (Manager.ensures_signalStrength h.mode h.chronicled.carried).of_runs hr

-- ============================================================ an outing

/-- What is kept of a manager that is tried over a deaf line. -/
structure Outing where
  scene : Scene := {}
  wired : Wired := ⟨.command, []⟩
  escaping : Bool := false

namespace Outing

/-- An address comes while one is waited for. -/
def addressing : GsmCall → List Report
  | .awaitEvent _ =>
    [.ipAcquired ⟨⟨10, 0, 0, 2⟩, ⟨255, 255, 255, 255⟩, ⟨10, 0, 0, 1⟩⟩]
  | _ => []

/-- The line is deaf to an escape, and nothing else is refused. -/
def answer : (c : GsmCall) → Outing → c.Answer × Outing
  | .modem call, x =>
    let ((r, mode), wire, escaping) :=
      ((Modem.Channel.answer call).run x.wired.mode).run
        (Proc.noting deaf) (x.wired.wire, x.escaping)
    (r, ⟨x.scene.note ⟨.modem call, r⟩, ⟨mode, wire⟩, escaping⟩)
  | .build uart, x =>
    (.ok (), { x with
      scene := x.scene.note ⟨.build uart, .ok ()⟩
      wired := { x.wired with mode := .command } })
  | c, x =>
    let (r, scene) := x.scene.answering addressing
      (fun c => (obliging c {}).1) c
    (r, { x with scene })

def parts (x : Outing) : Scene × Wired :=
  (x.scene, x.wired)

/-- The surroundings of an `Outing` are among those that are `traced`. -/
theorem traced_answer (c : GsmCall) (x : Outing) :
    traced c x.parts (answer c x).1 (answer c x).2.parts := by
  have answered := x.scene.chronicled_answering addressing
    (fun c => (obliging c {}).1) c
  cases c with
  | modem call =>
    obtain ⟨w, h, hw⟩ := Proc.runs_of_noting deaf
      ((Modem.Channel.answer call).run x.wired.mode)
      (x.wired.wire, x.escaping)
    exact ⟨⟨x.scene, ⟨[], rfl⟩, rfl⟩,
      w, (Proc.records_runs _).of_runs h, hw⟩
  | build uart => exact ⟨⟨x.scene, ⟨[], rfl⟩, rfl⟩, rfl⟩
  | drive pin high | netif call | record call | awaitEvent timeout
  | resolve host timeout => exact ⟨answered, rfl⟩

-- irreducible, so that it is not run wherever two terms are compared
/-- The manager is brought up. -/
@[irreducible] def up : (Except GsmError Unit × Manager) × Outing :=
  (Manager.bringUp.run (Manager.new .standard).value).run answer {}

/-- The outing in which the link is brought up is one of a history. -/
theorem traced_up : Traced .standard up.1.2 up.2.scene up.2.wired := by
  have h : ∃ t, Runs traced
      (Manager.bringUp.run (Manager.new .standard).value)
      ({}, ⟨.command, []⟩) t up.1 up.2.parts := by
    unfold up
    exact Proc.runs_of_run parts traced_answer _ {}
  obtain ⟨t, h⟩ := h
  exact .operated .bringUp .made h

/-- The address is lost. -/
def lost : Outing :=
  { up.2 with scene := up.2.scene.hear .ipLost }

/-- The signal is read. -/
def read (x : Outing) : (Int × Manager) × Outing :=
  (Manager.signalStrength.run up.1.2).run answer x

/-- A reading after that is one that may run. -/
theorem runs_read (x : Outing) :
    ∃ t, Runs traced (Manager.signalStrength.run up.1.2) x.parts t
      (read x).1 (read x).2.parts :=
  Proc.runs_of_run parts traced_answer _ x

end Outing

/-- Where nothing is reported meanwhile, the carrier before counts. -/
theorem Looked.now {m : Manager} {s s' : Scene} {w : Wired} {v : Wire}
    {r : Int} (h : Looked m s w v r s')
    (hn : (Happening.reports s'.past).length
      = (Happening.reports s.past).length) :
    s.carrier.Reads m.cachedSignal w.mode v r := by
  obtain ⟨reports, connected, hp, hr⟩ := h
  have hheard (reports : List Report) :
      Happening.reports (reports.map .heard) = reports := by
    induction reports with
    | nil => rfl
    | cons report rest ih => exact congrArg (report :: ·) ih
  have hlength : (Happening.reports (s.past ++ reports.map .heard
        ++ [.asked ⟨.record .isConnected, connected⟩])).length
      ≤ (Happening.reports s'.past).length :=
    (hp.filterMap _).length_le
  rw [Happening.reports_append, Happening.reports_append, hheard,
    List.length_append, List.length_append, hn] at hlength
  have hnil : reports = [] := List.length_eq_zero_iff.1 (by omega)
  rw [hnil] at hr
  exact hr

/-- With a session up, nothing is sent. -/
theorem Traced.signal_traffic_connected :
    Outing.up.2.wired.mode = .data
      ∧ (Outing.read Outing.up.2).2.wired.wire = Outing.up.2.wired.wire
      ∧ (Outing.read Outing.up.2).1.1 = Outing.up.1.2.cachedSignal := by
  obtain ⟨t, h⟩ := Outing.runs_read Outing.up.2
  obtain ⟨v, hv, -, hlook⟩ := Outing.traced_up.signal_traffic h
  have hreads := (hlook (by decide +kernel)).now (by decide +kernel)
  have hon : Outing.up.2.scene.carrier = .on := by decide +kernel
  rw [hon] at hreads
  obtain ⟨hmode, rfl, hr⟩ := hreads
  exact ⟨hmode, hv.trans (List.append_nil _), hr⟩

/-- When the address is lost, the modem is asked in data mode. -/
theorem Traced.signal_traffic_stranded :
    ∃ m s w, Traced .standard m s w ∧ w.mode = .data
      ∧ ∃ t r m' s' w' v,
        Runs traced (Manager.signalStrength.run m) (s, w) t (r, m')
            (s', w')
          ∧ w'.wire = w.wire ++ v ∧ Queried v := by
  have hlost : Traced .standard Outing.up.1.2 Outing.lost.scene
      Outing.lost.wired := .heard .ipLost Outing.traced_up
  obtain ⟨t, h⟩ := Outing.runs_read Outing.lost
  obtain ⟨v, hv, -, hlook⟩ := (Manager.ensures_signalStrength hlost.mode
    hlost.chronicled.carried).of_runs h
  have hreads := (hlook (by decide +kernel)).now (by decide +kernel)
  have hstranded : Outing.lost.scene.carrier = .stranded := by
    decide +kernel
  rw [hstranded] at hreads
  exact ⟨_, _, _, hlost, hreads.1, t, _, _, _, _, v, h, hv, hreads.2⟩

end Uplink.Gsm
