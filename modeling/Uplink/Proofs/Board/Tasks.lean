/-
Tasks on the board that take turns.

A task runs until it waits, and nobody else runs meanwhile. So a turn is
one step of the board, and what a task finds when it goes on is whatever
the turns in between have made of what is shared (`Turn`).

# What a task may count on

Each task has something that only it moves. Of everything else it knows
that what is shared is sound whenever a task waits. So its contract says
what it does in its turns, and lets a wait end in any sound state that
leaves alone what is its own (`Aspect.sharing`). A task that meets such a
contract does not notice the turns of others (`Party.Keeps.undisturbed`),
and is left sound by its own (`Party.Keeps.turn`).

What soundness is depends on the argument, and so does what is remembered
besides the floor (`Aspect`). For the hand-over it is the phase.

# The phase

Whether a session may run goes by what the modem's side did last: after it
waited for the end of a session there is none until it has one start. The
phase says that; it is a matter of the argument, and nobody keeps it.
-/
import Uplink.Board.Calls
import Uplink.Proofs.Contract

namespace Uplink.Board

open Proc (Meets)

variable {α β τ : Type}

-- ============================================================== the floor

/-- What the tasks share, and whether the PPP task is in a session. -/
structure Floor where
  shared : Shared
  running : Bool := false

/-- The access is to one of the two signals. -/
def Shared.Access.signals : Shared.Access → Bool
  | direct _ => true
  | takeControl => true
  | signalStopped => true
  | clearStopped => true
  | _ => false

/-- The call neither touches a signal nor begins or ends a session, nor
waits for the end of one. -/
def Call.calm : Call → Prop
  | await waits => .stopped ∉ waits
  | shared a => a.signals = false
  | session (.start _) => False
  | session .ended => False
  | session .stopped => False
  | _ => True

/-- What the hand-over goes by, after a call: what the PPP task was told
last, whether the signal that no session runs is raised, and whether one
runs. -/
def Call.signal :
    Call → Option Control × Bool × Bool → Option Control × Bool × Bool
  | shared (.direct control), (_, stopped, running) =>
    (some control, stopped, running)
  | shared .takeControl, (_, stopped, running) => (none, stopped, running)
  | shared .signalStopped, (control, _, running) => (control, true, running)
  | shared .clearStopped, (control, _, running) => (control, false, running)
  | session (.start _), (control, stopped, _) => (control, stopped, true)
  | session .ended, (control, stopped, _) => (control, stopped, false)
  | session .stopped, (control, stopped, _) => (control, stopped, false)
  | _, signals => signals

theorem Call.signal_of_calm {c : Call} (hc : c.calm)
    (signals : Option Control × Bool × Bool) :
    c.signal signals = signals := by
  cases c with
  | shared a =>
    cases a with
    | direct => cases hc
    | takeControl => cases hc
    | signalStopped => cases hc
    | clearStopped => cases hc
    | _ => rfl
  | session call =>
    cases call with
    | start => exact hc.elim
    | ended => exact hc.elim
    | stopped => exact hc.elim
    | _ => rfl
  | _ => rfl

def Call.waits : Call → Bool
  | await _ => true
  | _ => false

namespace Floor

/-- What the hand-over goes by. -/
def signals (f : Floor) : Option Control × Bool × Bool :=
  (f.shared.control, f.shared.stopped, f.running)

/-- What is waited for can have come about. -/
def ready (f : Floor) : Wait → Prop
  | .control => f.shared.control.isSome = true
  | .stopped => f.shared.stopped = true
  | _ => True

/-- What a call is answered within a turn. A wait is not. -/
def answers : Behaviour Board Floor :=
  fun c f r f' =>
    match c, r with
    | .await _, _ => False
    | .shared a, r =>
      (f.shared.apply a).value = (r, f'.shared) ∧ f'.running = f.running
    | .session (.start _), _ => f' = { f with running := true }
    | .session .ended, _ => f' = { f with running := false }
    | .session .stopped, _ => f' = { f with running := false }
    | _, _ => f' = f

variable {f f' : Floor}

/-- A call leaves the signals as it says, whatever it is answered. -/
theorem signals_answers {c : Call} {r : c.Answer}
    (h : answers c f r f') : f'.signals = c.signal f.signals := by
  cases c with
  | await waits => exact h.elim
  | shared a =>
    obtain ⟨ha, hr⟩ := h
    have hs : f'.shared = (f.shared.apply a).value.2 := by rw [ha]
    unfold signals
    rw [hs, hr]
    cases a <;> rfl
  | session call =>
    have hf : f'.signals = Call.signal (.session call) f.signals := by
      cases call <;> exact congrArg signals h
    exact hf
  | _ => exact congrArg signals h

/-- No session runs, and none is about to. -/
structure Still (f : Floor) : Prop where
  stands : f.running = false
  unstarted : f.shared.control ≠ some .start

end Floor

-- ============================================================== the phase

/-- What the modem's side did last. -/
inductive Phase where
  /-- it waited for the end of a session, or never had one start -/
  | closed
  /-- it had one start -/
  | opened
  /-- it waits for the end of one -/
  | stopping
deriving DecidableEq, Repr

def Phase.after (phase : Phase) : Call → Phase
  | .shared (.direct .start) => opened
  | .shared (.direct .stop) => stopping
  | .shared .clearStopped => if phase = stopping then closed else phase
  | _ => phase

/-- Calm calls leave the `Phase` as it is. -/
theorem Phase.after_of_calm (phase : Phase) {c : Call} (hc : c.calm) :
    phase.after c = phase := by
  cases c with
  | shared a =>
    cases a with
    | direct => cases hc
    | clearStopped => cases hc
    | _ => rfl
  | _ => rfl

structure View where
  phase : Phase
  floor : Floor

/-- What holds of the hand-over whenever the tasks wait. -/
structure View.Sound (v : View) : Prop where
  /-- nobody starts a session in a session -/
  unstarted : v.floor.running = true → v.floor.shared.control ≠ some .start
  /-- the signal that no session runs is true -/
  stopped : v.floor.shared.stopped = true → v.floor.Still
  closed : v.phase = .closed → v.floor.Still
  /-- who waits for the end of a session is heard, or was -/
  stopping : v.phase = .stopping →
    v.floor.shared.stopped = true ∨ v.floor.shared.control = some .stop

/-- The phase and the signals, which are all that matters. -/
def View.gist (v : View) : Phase × Option Control × Bool × Bool :=
  (v.phase, v.floor.signals)

section

variable {v v' : View}

theorem gist_eq_iff {phase : Phase} {control : Option Control}
    {stopped running : Bool} :
    v.gist = (phase, control, stopped, running)
      ↔ v.phase = phase ∧ v.floor.shared.control = control
        ∧ v.floor.shared.stopped = stopped ∧ v.floor.running = running := by
  simp [View.gist, Floor.signals]

/-- Whether a floor is still can be told from the `gist`. -/
theorem Floor.Still.of_gist (h : v.floor.Still) (hg : v'.gist = v.gist) :
    v'.floor.Still := by
  obtain ⟨-, hc, -, hr⟩ := gist_eq_iff.1 hg
  exact ⟨hr.trans h.stands, hc ▸ h.unstarted⟩

/-- Whether a view is `Sound` can be told from the `gist`. -/
theorem View.Sound.of_gist (h : v.Sound) (hg : v'.gist = v.gist) :
    v'.Sound := by
  obtain ⟨hp, hc, hd, hr⟩ := gist_eq_iff.1 hg
  refine ⟨?_, fun hs => ?_, fun hp' => ?_, ?_⟩
  · rw [hc, hr]
    exact h.unstarted
  · exact (h.stopped (hd ▸ hs)).of_gist hg
  · exact (h.closed (hp ▸ hp')).of_gist hg
  · rw [hp, hc, hd]
    exact h.stopping

end

-- ================================================================== turns

/-- One turn of a task: up to where it waits, or its end. -/
inductive Turn : Proc Board α → Floor → Proc Board α → Floor → Prop
  | done (a : α) (f : Floor) : Turn (.done a) f (.done a) f
  | waits (waits : List Wait) (k : Nat → Proc Board α) (f : Floor) :
      Turn (.call (.await waits) k) f (.call (.await waits) k) f
  | call {c : Call} {k : c.Answer → Proc Board α} {r : c.Answer}
      {f f₁ f' : Floor} {p : Proc Board α} :
      f.answers c r f₁ → Turn (k r) f₁ p f' → Turn (.call c k) f p f'

def Parked : Proc Board α → Prop
  | .done _ => True
  | .call (.await _) _ => True
  | .call _ _ => False

/-- A `Turn` ends where the task waits or is through. -/
theorem Turn.parked {p p' : Proc Board α} {f f' : Floor}
    (h : Turn p f p' f') : Parked p' := by
  induction h with
  | done => trivial
  | waits => trivial
  | call _ _ ih => exact ih

-- ================================================================ parties

/-- How an argument sees the floor: with what it remembers besides. -/
structure Aspect (σ : Type) where
  floor : σ → Floor
  /-- what holds whenever the tasks wait -/
  sound : σ → Prop
  /-- what a call makes of what is remembered -/
  follows : (c : Call) → c.Answer → σ → σ → Prop
  exists_follows : ∀ (c : Call) (r : c.Answer) (x : σ) (f : Floor),
    ∃ x', floor x' = f ∧ follows c r x x'

/-- What one task is bound to. Something is its own, and in a wait it may
count on that. -/
structure Party (σ κ α : Type) where
  held : σ → κ
  waits : List Wait → κ → Prop
  calls : Call → σ → Prop
  /-- how it may be through -/
  through : α → κ → Prop

section Parties

variable {σ κ : Type} {A : Aspect σ}

/-- The contract of a task. Something is its own (`held`), and a wait
leaves that alone; whatever else it finds is sound. -/
def Aspect.sharing (A : Aspect σ) (held : σ → κ)
    (waits : List Wait → κ → Prop) (calls : Call → σ → Prop) :
    Contract Board σ where
  allows c x :=
    match c with
    | .await ws => A.sound x ∧ waits ws (held x)
    | c => calls c x
  moves c x r x' :=
    match c, r with
    | .await ws, place =>
      A.sound x' ∧ held x' = held x
        ∧ ∃ w, ws[(place : Nat)]? = some w ∧ (A.floor x').ready w
    | c, r => A.follows c r x x' ∧ (A.floor x).answers c r (A.floor x')

namespace Party

variable {party : Party σ κ α} {p : Proc Board α} {x : σ}

def contract (party : Party σ κ α) (A : Aspect σ) : Contract Board σ :=
  A.sharing party.held party.waits party.calls

/-- The task goes on as it should, and is left sound. -/
def Keeps (party : Party σ κ α) (A : Aspect σ) (p : Proc Board α)
    (x : σ) : Prop :=
  p.Meets (party.contract A) x fun a x =>
    A.sound x ∧ party.through a (party.held x)

/-- A party that waits has kept what is to be sound. -/
theorem Keeps.sound (h : party.Keeps A p x) (hp : Parked p) :
    A.sound x := by
  cases p with
  | done a => exact h.1
  | call c k =>
    cases c with
    | await ws => exact h.1.1
    | _ => exact hp.elim

/-- The turns of others make no difference to it. -/
theorem Keeps.undisturbed (h : party.Keeps A p x) (hp : Parked p) {x' : σ}
    (hs : A.sound x') (hx : party.held x' = party.held x) :
    party.Keeps A p x' := by
  cases p with
  | done a => exact ⟨hs, hx ▸ h.2⟩
  | call c k =>
    cases c with
    | await ws =>
      obtain ⟨⟨-, hw⟩, hk⟩ := h
      refine ⟨⟨hs, hx ▸ hw⟩, fun place x'' hm => hk place x'' ?_⟩
      exact ⟨hm.1, hm.2.1.trans hx, hm.2.2⟩
    | _ => exact hp.elim

/-- It goes on with what it waited for. -/
theorem Keeps.woken {ws : List Wait} {k : Nat → Proc Board α}
    (h : party.Keeps A (.call (.await ws) k) x) {place : Nat} {w : Wait}
    (hw : ws[place]? = some w) (ready : (A.floor x).ready w) :
    party.Keeps A (k place) x :=
  h.2 place x ⟨h.1.1, rfl, w, hw, ready⟩

/-- A `Turn` keeps the task to its contract, and whatever its calls
keep. -/
theorem Keeps.turn {μ : Type} (kept : σ → μ)
    (hkept : ∀ (c : Call) (r : c.Answer) x x', party.calls c x →
      A.follows c r x x' → (A.floor x).answers c r (A.floor x') →
      kept x' = kept x)
    (h : party.Keeps A p x) {p' : Proc Board α} {f f' : Floor}
    (ht : Turn p f p' f') (hx : A.floor x = f) :
    ∃ x', A.floor x' = f' ∧ party.Keeps A p' x' ∧ kept x' = kept x := by
  induction ht generalizing x with
  | done a f => exact ⟨x, hx, h, rfl⟩
  | waits ws k f => exact ⟨x, hx, h, rfl⟩
  | @call c k r f f₁ f' p' hr _ ih =>
    subst hx
    obtain ⟨x₁, rfl, hf⟩ := A.exists_follows c r x f₁
    have hc : party.calls c x
        ∧ (party.contract A).moves c x r x₁ := by
      cases c with
      | await ws => exact hr.elim
      | _ => exact ⟨h.1, hf, hr⟩
    obtain ⟨x', hx', hp', hk⟩ := ih (h.2 r x₁ hc.2) rfl
    exact ⟨x', hx', hp', hk.trans (hkept c r x x₁ hc.1 hf hr)⟩

end Party

end Parties

-- ================================================================ signals

/-- What the hand-over goes by is seen with the phase. -/
def View.aspect : Aspect View where
  floor := View.floor
  sound := View.Sound
  follows c _ v v' := v'.phase = v.phase.after c
  exists_follows c _ v f := ⟨⟨v.phase.after c, f⟩, rfl, rfl⟩

def sharing (held : View → τ) (waits : List Wait → τ → Prop)
    (calls : Call → View → Prop) : Contract Board View :=
  View.aspect.sharing held waits calls

section Sharing

variable {held : View → τ} {waits : List Wait → τ → Prop}
variable {calls : Call → View → Prop} {v : View}

/-- A call that does not wait changes the `gist` as it says, whatever it is
answered. -/
theorem gist_moves {c : Call} (hw : c.waits = false) {r : c.Answer}
    {v' : View} (h : (sharing held waits calls).moves c v r v') :
    v'.gist = (v.phase.after c, c.signal v.floor.signals) := by
  cases c with
  | await ws => cases hw
  | _ => exact Prod.ext h.1 (Floor.signals_answers h.2)

/-- A `calm` call that does not wait leaves the `gist` as it is. -/
theorem gist_moves_calm {c : Call} (hc : c.calm) (hw : c.waits = false)
    {r : c.Answer} {v' : View}
    (h : (sharing held waits calls).moves c v r v') :
    v'.gist = v.gist := by
  rw [gist_moves hw h, Phase.after_of_calm _ hc, Call.signal_of_calm hc]
  rfl

end Sharing

end Uplink.Board
