/-
Two tasks that keep a pact.

The cellular link and the PPP task take turns in any order, and in between
others access what is shared. `Tasks.From` is where that leads.

A pact says what either task is bound to, and what both see of the floor.
It stands if every operation of the manager and every round of the PPP
task keep to it, and if no call of the one touches what is the other's
(`Pact.Stands`). Then both tasks keep to it wherever turns lead
(`Pact.Stands.kept`), which is the one induction over turns that any
statement about the two needs.

That turns lead somewhere is shown by taking them: `Tasks.goOn` has a task
go on that can, with answers from outside where the floor gives none.
-/
import Mathlib.Logic.Function.Iterate
import Uplink.Board.Cellular
import Uplink.Proofs.Board.Tasks
import Uplink.Proofs.Gsm.Lifecycle

namespace Uplink.Board

open Gsm (Manager Operation)

-- ============================================================== the tasks

/-- The task of the cellular link, which is through between operations,
and the PPP task. -/
structure Tasks where
  manager : Proc Board (Manager × Parts)
  ppp : Proc Board Unit
  floor : Floor

def operate (o : Operation) (m : Manager) (parts : Parts) :
    Proc Board (Manager × Parts) := do
  let ((_, m), parts) ← (Cellular.runManager o.act m).run parts
  pure (m, parts)

def onward : Proc Board Unit → Proc Board Unit
  | .done () => Ppp.round
  | p => p

/-- The floor after an access of somebody else. -/
def Floor.accessed (f : Floor) (a : Shared.Access) : Floor :=
  { f with shared := (f.shared.apply a).value.2 }

/-- What some order of turns leads to. -/
inductive Tasks.From (start : Tasks → Prop)
    (other : Shared.Access → Prop) : Tasks → Prop
  | start {t : Tasks} : start t → From start other t
  /-- the manager begins an operation -/
  | operated {m : Manager} {parts : Parts} {ppp : Proc Board Unit}
      {f f' : Floor} {p : Proc Board (Manager × Parts)} (o : Operation) :
      From start other ⟨.done (m, parts), ppp, f⟩ →
      Turn (operate o m parts) f p f' → From start other ⟨p, ppp, f'⟩
  /-- the manager goes on -/
  | managed {waits : List Wait} {k : Nat → Proc Board (Manager × Parts)}
      {ppp : Proc Board Unit} {f f' : Floor} {place : Nat} {w : Wait}
      {p : Proc Board (Manager × Parts)} :
      From start other ⟨.call (.await waits) k, ppp, f⟩ →
      waits[place]? = some w → f.ready w →
      Turn (k place) f p f' → From start other ⟨p, ppp, f'⟩
  /-- the PPP task goes on -/
  | served {manager : Proc Board (Manager × Parts)} {waits : List Wait}
      {k : Nat → Proc Board Unit} {f f' : Floor} {place : Nat} {w : Wait}
      {p : Proc Board Unit} :
      From start other ⟨manager, .call (.await waits) k, f⟩ →
      waits[place]? = some w → f.ready w →
      Turn (k place) f p f' → From start other ⟨manager, onward p, f'⟩
  /-- somebody else accesses what is shared -/
  | shared {t : Tasks} (a : Shared.Access) :
      From start other t → other a →
      From start other { t with floor := t.floor.accessed a }

/-- Tasks that come about from some starts, among some accesses of others,
come about from more starts and among more accesses. -/
theorem Tasks.From.mono {start start' : Tasks → Prop}
    {other other' : Shared.Access → Prop} {t : Tasks}
    (h : Tasks.From start other t) (hs : ∀ t, start t → start' t)
    (ho : ∀ a, other a → other' a) : Tasks.From start' other' t := by
  induction h with
  | start ht => exact .start (hs _ ht)
  | operated o _ ht ih => exact ih.operated o ht
  | managed _ hw ready ht ih => exact ih.managed hw ready ht
  | served _ hw ready ht ih => exact ih.served hw ready ht
  | shared a _ ha ih => exact ih.shared a (ho a ha)

-- ================================================================ the pact

/-- What two tasks are bound to that share a floor with others. -/
structure Pact (σ κ τ : Type) where
  aspect : Aspect σ
  manager : Party σ κ (Manager × Parts)
  ppp : Party σ τ Unit
  /-- what somebody else may access -/
  other : Shared.Access → Prop

namespace Pact

variable {σ κ τ : Type} {P : Pact σ κ τ} {t : Tasks} {x x' : σ}

/-- A call leads from one state to another. -/
def Leads (P : Pact σ κ τ) (c : Call) (r : c.Answer) (x x' : σ) : Prop :=
  P.aspect.follows c r x x'
    ∧ (P.aspect.floor x).answers c r (P.aspect.floor x')

/-- The pact can be kept. -/
structure Stands (P : Pact σ κ τ) : Prop where
  /-- the manager's calls leave alone what is the PPP task's -/
  manager_apart : ∀ c r x x', P.manager.calls c x → P.Leads c r x x' →
    P.ppp.held x' = P.ppp.held x
  ppp_apart : ∀ c r x x', P.ppp.calls c x → P.Leads c r x x' →
    P.manager.held x' = P.manager.held x
  other_apart : ∀ a x, P.other a → P.aspect.sound x →
    ∃ x', P.aspect.floor x' = (P.aspect.floor x).accessed a
      ∧ P.aspect.sound x' ∧ P.manager.held x' = P.manager.held x
      ∧ P.ppp.held x' = P.ppp.held x
  operates : ∀ o y x, P.aspect.sound x →
    P.manager.through y (P.manager.held x) →
    P.manager.Keeps P.aspect (operate o y.1 y.2) x
  rounds : ∀ x, P.aspect.sound x → P.ppp.through () (P.ppp.held x) →
    P.ppp.Keeps P.aspect Ppp.round x

/-- Both tasks wait, and will go on as they should. -/
structure Kept (P : Pact σ κ τ) (t : Tasks) (x : σ) : Prop where
  floor : P.aspect.floor x = t.floor
  parked : Parked t.manager
  waits : ∃ waits k, t.ppp = .call (.await waits) k
  manager : P.manager.Keeps P.aspect t.manager x
  ppp : P.ppp.Keeps P.aspect t.ppp x

/-- Where a `round` begins, the PPP task waits to be told something. -/
theorem round_waits : ∃ waits k, Ppp.round = .call (.await waits) k :=
  ⟨[.control], _, rfl⟩

/-- A program that begins with a wait is `Parked`. -/
theorem parked_of_waits {α : Type} {p : Proc Board α}
    (h : ∃ waits k, p = .call (.await waits) k) : Parked p := by
  obtain ⟨waits, k, rfl⟩ := h
  trivial

namespace Kept

theorem sound (h : P.Kept t x) : P.aspect.sound x :=
  Party.Keeps.sound h.manager h.parked

/-- Neither task notices the turns of others. -/
theorem manager_undisturbed (h : P.Kept t x) (hs : P.aspect.sound x')
    (hx : P.manager.held x' = P.manager.held x) :
    P.manager.Keeps P.aspect t.manager x' :=
  Party.Keeps.undisturbed h.manager h.parked hs hx

/-- The PPP task keeps its part wherever what it holds is the same. -/
theorem ppp_undisturbed (h : P.Kept t x) (hs : P.aspect.sound x')
    (hx : P.ppp.held x' = P.ppp.held x) :
    P.ppp.Keeps P.aspect t.ppp x' :=
  Party.Keeps.undisturbed h.ppp (parked_of_waits h.waits) hs hx

/-- After a `Turn` of the manager's task the pact is kept. -/
theorem manager_turn (hP : P.Stands) (h : P.Kept t x)
    {p p' : Proc Board (Manager × Parts)} {f' : Floor}
    (hp : P.manager.Keeps P.aspect p x) (ht : Turn p t.floor p' f') :
    ∃ x', P.Kept ⟨p', t.ppp, f'⟩ x' := by
  obtain ⟨x', hf, hp', hx⟩ := hp.turn P.ppp.held
    (fun c r x x' hc hf hr => hP.manager_apart c r x x' hc ⟨hf, hr⟩)
    ht h.floor
  have hs := hp'.sound ht.parked
  exact ⟨x', hf, ht.parked, h.waits, hp', h.ppp_undisturbed hs hx⟩

/-- After a `Turn` of the PPP task the pact is kept, and so it is after it
has begun anew. -/
theorem ppp_turn (hP : P.Stands) (h : P.Kept t x)
    {p p' : Proc Board Unit} {f' : Floor}
    (hp : P.ppp.Keeps P.aspect p x) (ht : Turn p t.floor p' f') :
    ∃ x', P.Kept ⟨t.manager, onward p', f'⟩ x' := by
  obtain ⟨x', hf, hp', hx⟩ := hp.turn P.manager.held
    (fun c r x x' hc hf hr => hP.ppp_apart c r x x' hc ⟨hf, hr⟩)
    ht h.floor
  have hs := hp'.sound ht.parked
  have manager := h.manager_undisturbed hs hx
  refine ⟨x', ?_⟩
  cases p' with
  | done a =>
    exact ⟨hf, h.parked, round_waits, manager, hP.rounds x' hs hp'.2⟩
  | call c k =>
    cases c with
    | await waits => exact ⟨hf, h.parked, ⟨waits, k, rfl⟩, manager, hp'⟩
    | _ => exact ht.parked.elim

end Kept

/-- A pact that `Stands` is kept wherever turns lead. -/
theorem Stands.kept (hP : P.Stands) {start : Tasks → Prop}
    (hstart : ∀ t, start t → ∃ x, P.Kept t x)
    (h : Tasks.From start P.other t) : ∃ x, P.Kept t x := by
  induction h with
  | start ht => exact hstart _ ht
  | operated o _ ht ih =>
    obtain ⟨x, h⟩ := ih
    exact h.manager_turn hP
      (hP.operates o _ x h.manager.1 h.manager.2) ht
  | managed _ hw ready ht ih =>
    obtain ⟨x, h⟩ := ih
    have hp := h.manager.woken hw (by rw [h.floor]; exact ready)
    exact h.manager_turn hP hp ht
  | served _ hw ready ht ih =>
    obtain ⟨x, h⟩ := ih
    have hp := h.ppp.woken hw (by rw [h.floor]; exact ready)
    exact h.ppp_turn hP hp ht
  | shared a _ ha ih =>
    obtain ⟨x, h⟩ := ih
    obtain ⟨x', hf, hs, hm, hp⟩ := hP.other_apart a x ha h.sound
    exact ⟨x', hf.trans (congrArg (·.accessed a) h.floor), h.parked,
      h.waits, h.manager_undisturbed hs hm, h.ppp_undisturbed hs hp⟩

end Pact

-- =========================================================== taking turns

section Going

variable {α : Type} {reply : (c : Call) → c.Answer}

/-- What is waited for has come about, as far as the floor tells. Here the
peer ends no session. -/
def Floor.raised (f : Floor) : Wait → Bool
  | .control => f.shared.control.isSome
  | .stopped => f.shared.stopped
  | .linkEvent => f.shared.link.event.isSome
  | .sessionEnd => false
  | _ => true

/-- Answer a call of a turn; what the floor does not tell is up to
`reply`. -/
def Floor.respond (reply : (c : Call) → c.Answer) :
    (c : Call) → Floor → Option c.Answer × Floor
  | .await _, f => (none, f)
  | .shared a, f => (some (f.shared.apply a).value.1, f.accessed a)
  | .session (.start credentials), f =>
    (some (reply (.session (.start credentials))),
      { f with running := true })
  | .session .ended, f => (some (), { f with running := false })
  | .session .stopped, f => (some (), { f with running := false })
  | c, f => (some (reply c), f)

/-- Take a turn. -/
def turn (reply : (c : Call) → c.Answer) (p : Proc Board α) (f : Floor) :
    Proc Board α × Floor :=
  let (r, f') := p.advance (Floor.respond reply) f
  (r.elim .done id, f')

/-- What `turn` gives is a `Turn`. -/
theorem turn_turn (reply : (c : Call) → c.Answer) (p : Proc Board α)
    (f : Floor) : Turn p f (turn reply p f).1 (turn reply p f).2 := by
  induction p generalizing f with
  | done a => exact .done a f
  | call c k ih =>
    cases c with
    | await waits => exact .waits waits k f
    | shared a =>
      have hr : f.answers (.shared a) (f.shared.apply a).value.1
          (f.accessed a) := ⟨rfl, rfl⟩
      exact .call hr (ih _ _)
    | session call => cases call <;> exact .call rfl (ih _ _)
    | _ => exact .call rfl (ih _ _)

/-- Go on with the first thing that is waited for, if it has come
about. -/
def wake? (reply : (c : Call) → c.Answer) (f : Floor) :
    Proc Board α → Option (Proc Board α × Floor)
  | .call (.await (w :: _)) k =>
    if f.raised w then some (turn reply (k (0 : Nat)) f) else none
  | _ => none

/-- A program that `wake?` wakes was waiting, for something that was
ready. -/
theorem wakes {p p' : Proc Board α} {f f' : Floor}
    (h : wake? reply f p = some (p', f')) :
    ∃ waits k w, p = .call (.await waits) k ∧ waits[0]? = some w
      ∧ f.ready w ∧ Turn (k (0 : Nat)) f p' f' := by
  unfold wake? at h
  split at h
  next w rest k =>
    split at h
    next hw =>
      have ready : f.ready w := by
        cases w with
        | control => exact hw
        | stopped => exact hw
        | _ => trivial
      obtain ⟨rfl, rfl⟩ := Prod.mk.inj (Option.some.inj h)
      exact ⟨w :: rest, k, w, rfl, rfl, ready, turn_turn reply _ f⟩
    next => cases h
  next => cases h

namespace Tasks

/-- The manager goes on, or else the PPP task. -/
def goOn (reply : (c : Call) → c.Answer) (t : Tasks) : Tasks :=
  match wake? reply t.floor t.manager with
  | some (p, f) => { t with manager := p, floor := f }
  | none =>
    match wake? reply t.floor t.ppp with
    | some (p, f) => { t with ppp := onward p, floor := f }
    | none => t

/-- Tasks that go on by `goOn` make turns only. -/
theorem From.goOn {start : Tasks → Prop} {other : Shared.Access → Prop}
    {t : Tasks} (h : From start other t)
    (reply : (c : Call) → c.Answer) : From start other (t.goOn reply) := by
  obtain ⟨manager, ppp, f⟩ := t
  unfold Tasks.goOn
  split
  next p f' hp =>
    obtain ⟨waits, k, w, rfl, hw, ready, ht⟩ := wakes hp
    exact .managed h hw ready ht
  next =>
    split
    next p f' hp =>
      obtain ⟨waits, k, w, rfl, hw, ready, ht⟩ := wakes hp
      exact .served h hw ready ht
    next => exact h

/-- It does so any number of times. -/
theorem From.goes {start : Tasks → Prop} {other : Shared.Access → Prop}
    {t : Tasks} (h : From start other t)
    (reply : (c : Call) → c.Answer) (n : Nat) :
    From start other ((Tasks.goOn reply)^[n] t) := by
  induction n generalizing t with
  | zero => exact h
  | succ n ih => exact ih (h.goOn reply)

end Tasks

end Going

end Uplink.Board
