/-
Between operations the interface, the record and the PPP task agree.

Each task keeps two contracts: that of the hand-over, and that of what is
known of a session. Where both are kept, so is their sum (`Meets.and`),
and with it the two tasks keep a pact (`agreeing`). When the manager is
through with an operation it left data mode, or had the session confirmed
that it dialled for (`Gsm.Operation.keepsFooting`). In the one case no
session runs. In the other, if one runs the link is connected: only the
end of the session could have changed that, and nobody starts another.
-/
import Uplink.Proofs.Board.Confirming
import Uplink.Proofs.Board.HandOver
import Uplink.Proofs.Board.Reporting

namespace Uplink.Board

open Gsm (Footing footing GsmCall Manager Operation)
open Proc (Ensures Meets meets_bind)

variable {α : Type} {x x' : Stand}

-- ================================================================ the pact

/-- The access is neither to the signals nor to what is known of a
session. -/
def Shared.Access.foreign (a : Shared.Access) : Prop :=
  a.signals = false ∧ a.binds = false

/-- What the manager leaves behind when it is through. -/
def Agreed (m : Manager × Parts) (held : Phase × Bool × Bool) : Prop :=
  ∃ y : Footing, m.1.Footed y ∧ held.1 ≠ .stopping
    ∧ (y.tie = .parted ∨ m.2.mode = .command → held.1 = .closed)
    ∧ (y.tie = .confirmed → held.2.1 = true) ∧ held.2.2 = y.heard

/-- The hand-over, with what is known of a session besides. -/
def agreeing : Pact Stand (Phase × Bool × Bool) Bool where
  aspect := Stand.aspect
  manager := {
    held := fun x => (x.view.phase, x.confirmed, x.tally.listening)
    waits := fun waits held => held.1.fits waits
    calls := fun c x => c.manages x.view
    through := Agreed }
  ppp := {
    held := (·.view.floor.running)
    waits := fun waits _ => .control ∈ waits
    calls := fun c _ => c.serves ∧ c.reports
    through := fun _ running => running = false }
  other := Shared.Access.foreign

/-- The modem's side keeps both. -/
theorem meets_agreeing {p : Proc Board α} {Q : α → View → Prop}
    {Q' : α → Tally → Prop} (h : p.Meets managing x.view Q)
    (h' : p.Meets confirming x.tally Q') :
    p.Meets (agreeing.manager.contract Stand.aspect) x
      fun a x' => Q a x'.view ∧ Q' a x'.tally := by
  refine Meets.and (fun c x ha ha' => ?_) (fun c x r x' hm => ?_) h h'
  · cases c with
    | await waits => exact ⟨⟨ha.1, ha'.1⟩, ha.2⟩
    | _ => exact ha
  · cases c with
    | await waits =>
      obtain ⟨⟨hs, hj⟩, held, ready⟩ := hm
      exact ⟨⟨hs, congrArg (·.1) held, ready⟩, hj, congrArg (·.2) held⟩
    | _ => exact ⟨⟨hm.1.1, hm.2⟩, Stand.tally_answers hm.1 hm.2⟩

/-- So does the PPP task. -/
theorem meets_agreeing_ppp {p : Proc Board α} {Q : α → View → Prop}
    {Q' : α → Tally → Prop} (h : p.Meets serving x.view Q)
    (h' : p.Meets (reporting fun _ => True) x.tally Q') :
    p.Meets (agreeing.ppp.contract Stand.aspect) x
      fun a x' => Q a x'.view ∧ Q' a x'.tally := by
  refine Meets.and (fun c x ha ha' => ?_) (fun c x r x' hm => ?_) h h'
  · cases c with
    | await waits => exact ⟨⟨ha.1, ha'.1⟩, ha.2⟩
    | _ => exact ⟨ha, ha'⟩
  · cases c with
    | await waits =>
      obtain ⟨⟨hs, hj⟩, held, ready⟩ := hm
      exact ⟨⟨hs, held, ready⟩, hj, held⟩
    | _ => exact ⟨⟨hm.1.1, hm.2⟩, Stand.tally_answers hm.1 hm.2⟩

-- ============================================================= the manager

/-- What the calls tell, what is held, and what is known of a session. -/
structure Bound (y : Footing) (parts : Parts) (x : Stand) : Prop where
  held : Held (y.tie = .parted) parts.mode x.view
  fits : x.tally.Fits y

/-- Where the tie is parted no session runs, and none is known of. -/
theorem Bound.still {y : Footing} {parts : Parts} (h : Bound y parts x)
    (hy : y.tie = .parted) : x.tally.Still := by
  have still := h.held.sound.closed (h.held.closed (.inl (by simp [hy])))
  exact ⟨still.stands, still.unstarted⟩

/-- Every call of the cellular link keeps it so. -/
theorem Cellular.ensures_bound (c : GsmCall) {y : Footing}
    {parts : Parts} (ha : footing.allows c y) (h : Bound y parts x) :
    Ensures (agreeing.manager.contract Stand.aspect) (answer c) parts x
      fun r parts' x' => Bound (y.after c r) parts' x' := by
  have both := meets_agreeing (ensures_answer c ha h.held)
    (confirming_answer c ha h.fits h.held.sound.unstarted h.still)
  exact Meets.mono both fun _ _ hx => ⟨hx.1, hx.2⟩

/-- Every `Operation` of the manager keeps the pact, from what the last one
left behind. -/
theorem agreeing_operates (o : Operation) (m : Manager × Parts)
    (hs : Stand.aspect.sound x)
    (hm : Agreed m (x.view.phase, x.confirmed, x.tally.listening)) :
    agreeing.manager.Keeps Stand.aspect (operate o m.1 m.2) x := by
  obtain ⟨y, footed, settled, closed, confirmed, heard⟩ := hm
  have bound : Bound y m.2 x :=
    ⟨⟨hs.1, settled, fun h => closed (h.imp of_decide_eq_true id)⟩,
      hs.2, heard, confirmed⟩
  have kept := Meets.ensures_within (R := Bound)
    (fun c y parts x ha h => (Cellular.ensures_bound c ha h).mono
      fun r _ _ h' => ⟨y.after c r, rfl, h'⟩)
    (o.keepsFooting m.1 y footed) bound
  refine meets_bind.2 (Meets.mono kept fun z x' hz => ?_)
  obtain ⟨y', footed', h⟩ := hz
  exact ⟨⟨h.held.sound, h.fits.joined⟩, y', footed', h.held.settled,
    fun hy => h.held.closed (hy.imp (fun hy => decide_eq_true hy) id),
    h.fits.confirmed, h.fits.heard⟩

-- ================================================================ the turns

/-- The PPP task's turns leave alone who hears it, and what is
confirmed. -/
theorem after_of_reports {c : Call} (hs : c.serves) (hc : c.reports)
    (t : Tally) (r : c.Answer) :
    (t.after c r).confirmed = t.confirmed
      ∧ (t.after c r).listening = t.listening := by
  cases c with
  | shared a =>
    cases a with
    | direct control => exact absurd rfl (hs.1 control)
    | listen on => exact absurd rfl (hc.1 on)
    | record call =>
      cases call with
      | markConnected => exact absurd rfl hc.2
      | _ => exact ⟨rfl, rfl⟩
    | _ => exact ⟨rfl, rfl⟩
  | session call => cases call <;> exact ⟨rfl, rfl⟩
  | _ => exact ⟨rfl, rfl⟩

/-- The pact holds up in the turns of either task, since what the manager's
calls change is nothing the PPP task holds. -/
theorem stands_agreeing : agreeing.Stands where
  manager_apart _ _ _ _ hc h := running_of_manages hc h.2
  ppp_apart c r x x' hc h := by
    obtain ⟨hserves, hreports⟩ := hc
    have ht := (Stand.tally_answers h.1 h.2).2
    obtain ⟨hconfirmed, hlistening⟩ :=
      after_of_reports hserves hreports x.tally r
    have phase : x'.view.phase = x.view.phase :=
      h.1.1.trans (after_of_serves hserves x.view.phase)
    have confirmed : x'.confirmed = x.confirmed := h.1.2.trans hconfirmed
    have listening : x'.tally.listening = x.tally.listening :=
      (congrArg (·.listening) ht).trans hlistening
    exact Prod.ext phase (Prod.ext confirmed listening)
  other_apart a x ha hs := by
    let x' : Stand :=
      ⟨⟨x.view.phase, x.view.floor.accessed a⟩, x.confirmed⟩
    have hr : x.view.floor.answers (.shared a)
        (x.view.floor.shared.apply a).value.1 x'.view.floor := ⟨rfl, rfl⟩
    -- an access of others is aloof, so neither signals nor tally move
    have aloof : (Call.shared a).aloof := ha
    have same := Tally.after_of_aloof aloof x.tally
      (x.view.floor.shared.apply a).value.1
    have hf : Stand.aspect.follows (.shared a)
        (x.view.floor.shared.apply a).value.1 x x' :=
      ⟨(Phase.after_of_calm (c := .shared a) _ ha.1).symm,
        by rw [same]; rfl⟩
    have ht : x'.tally = x.tally :=
      (Stand.tally_answers hf hr).2.trans same
    have hg := Floor.signals_answers hr
    rw [Call.signal_of_calm (c := .shared a) ha.1] at hg
    refine ⟨x', rfl, ⟨View.Sound.of_gist hs.1 (Prod.ext rfl hg), ?_⟩,
      ?_, rfl⟩
    · rw [ht]
      exact hs.2
    · exact Prod.ext rfl (Prod.ext rfl (congrArg (·.listening) ht))
  operates o m x hs hm := agreeing_operates o m hs hm
  rounds x hs hr := by
    have both := meets_agreeing_ppp (Ppp.meets_round hs.1 hr)
      (Ppp.meets_round_joined hs.2 hr)
    exact Meets.mono both fun _ _ h => ⟨⟨h.1.1, h.2.1⟩, h.1.2⟩

-- =============================================================== agreement

/-- Nothing is set up, and no session was ever known of. -/
structure Tasks.Fresh (t : Tasks) : Prop where
  manager : ∃ m parts, t.manager = .done (m, parts) ∧ m.active = false
  ppp : t.ppp = Ppp.round
  still : t.floor.Still
  peer : t.floor.shared.peer = none
  address : t.floor.shared.link.address = none
  disconnected : t.floor.shared.link.connected = false

/-- Fresh tasks keep the pact. -/
theorem Tasks.Fresh.kept {t : Tasks} (h : t.Fresh) :
    ∃ x, agreeing.Kept t x := by
  obtain ⟨m, parts, hm, ha⟩ := h.manager
  let x : Stand := ⟨⟨.closed, t.floor⟩, false⟩
  have still : x.tally.Still := ⟨h.still.stands, h.still.unstarted⟩
  have sound : Stand.aspect.sound x :=
    ⟨⟨fun _ => h.still.unstarted, fun _ => h.still, fun _ => h.still,
      nofun⟩, .of_still still h.address h.peer h.disconnected⟩
  have agreed :
      Agreed (m, parts) (.closed, false, t.floor.shared.listening) :=
    ⟨⟨.parted, t.floor.shared.listening⟩,
      ⟨nofun, fun _ => rfl, fun h => absurd (ha.symm.trans h) nofun⟩,
      nofun, fun _ => rfl, nofun, rfl⟩
  refine ⟨x, rfl, ?_, ?_, ?_, ?_⟩
  · rw [hm]
    trivial
  · rw [h.ppp]
    exact Pact.round_waits
  · rw [hm]
    exact ⟨sound, agreed⟩
  · rw [h.ppp]
    exact stands_agreeing.rounds x sound h.still.stands

/-- Between operations, wherever turns lead from `Fresh` tasks: a session
runs exactly if the link is connected; without one neither the interface
nor the record has an address, and with one they have the same. -/
theorem Tasks.From.session_agreed {t : Tasks}
    (h : Tasks.From Tasks.Fresh Shared.Access.foreign t) {m : Manager}
    {parts : Parts} (hm : t.manager = .done (m, parts)) :
    (t.floor.running = true ↔ t.floor.shared.link.connected = true)
      ∧ (t.floor.running = false →
        t.floor.shared.peer = none ∧ t.floor.shared.link.address = none)
      ∧ (t.floor.running = true → ∃ info, t.floor.shared.peer = some info
        ∧ t.floor.shared.link.address = some info) := by
  obtain ⟨⟨⟨phase, f⟩, confirmed⟩, h⟩ :=
    stands_agreeing.kept (fun _ => Tasks.Fresh.kept) h
  obtain rfl : f = t.floor := h.floor
  have manager := h.manager
  rw [hm] at manager
  obtain ⟨⟨sound, joined⟩, y, footed, -, closed, settled, -⟩ := manager
  -- a session that runs was confirmed, as between operations no dial is
  -- left open
  have connected (hr : t.floor.running = true) :
      t.floor.shared.link.connected = true := by
    cases hy : y.tie with
    | parted =>
      have still := sound.closed (closed (.inl hy))
      exact absurd (still.stands.symm.trans hr) nofun
    | dialled => exact absurd hy footed.settled
    | confirmed => exact (joined.confirmed (settled hy)).2 hr
  refine ⟨⟨connected, fun hc => joined.running (joined.peer hc)⟩,
    fun hr => ?_, fun hr => ?_⟩
  · have hp : t.floor.shared.peer = none := by
      cases hp : t.floor.shared.peer with
      | none => rfl
      | some info =>
        have hr' := joined.running (Option.isSome_iff_exists.2 ⟨info, hp⟩)
        exact absurd (hr.symm.trans hr') nofun
    exact ⟨hp, joined.agreed.trans hp⟩
  · obtain ⟨info, hp⟩ :=
      Option.isSome_iff_exists.1 (joined.peer (connected hr))
    exact ⟨info, hp, joined.agreed.trans hp⟩

/-- So it is where a session is `up`. -/
theorem Tasks.From.session_agreed_up :
    ∃ t m parts, Tasks.From Tasks.Fresh Shared.Access.foreign t
      ∧ t.manager = .done (m, parts) ∧ t.floor.running = true
      ∧ t.floor.shared.link.connected = true
      ∧ ∃ info, t.floor.shared.peer = some info
        ∧ t.floor.shared.link.address = some info := by
  let m : Manager :=
    { settings := .standard, apn := { source := some .configured } }
  let parts : Parts := { wiring := Config.Settings.standard.uart }
  let first := turn Call.obliged (operate .bringUp m parts) ⟨{}, false⟩
  let t := (Tasks.goOn Call.obliged)^[42] ⟨first.1, Ppp.round, first.2⟩
  have fresh : Tasks.Fresh ⟨.done (m, parts), Ppp.round, ⟨{}, false⟩⟩ :=
    ⟨⟨m, parts, rfl, rfl⟩, rfl, ⟨rfl, nofun⟩, rfl, rfl, rfl⟩
  have h : Tasks.From Tasks.Fresh Shared.Access.foreign t :=
    ((Tasks.From.start fresh).operated .bringUp
      (turn_turn Call.obliged _ _)).goes Call.obliged 42
  have through : t.manager.value?.isSome = true := by decide +kernel
  have running : t.floor.running = true := by decide +kernel
  obtain ⟨⟨m', parts'⟩, hm⟩ := Option.isSome_iff_exists.1 through
  have hm := Proc.eq_done_of_value? hm
  obtain ⟨connected, -, agreed⟩ := h.session_agreed hm
  exact ⟨t, m', parts', h, hm, running, connected.1 running,
    agreed running⟩

end Uplink.Board
