/-
Two runs at once.

Some statements compare a program with itself: whatever a part of the
surroundings answers, something stays the same. The two runs are answered
by two functions, `f` and `g`, and what relates their states may be
anything. `Coupled` says that two programs lead from states that are
related to values and states that are related again.

# Together or apart

Where the answers agree, a program keeps in step with itself call by call
(`coupled_lift`). Where they may differ, the two go apart: as long as no
call of theirs disturbs the relation on its own side, each may make its
own calls, as many as it likes (`coupled_apart`).

# One after the other

Where a program is started with two states, and answered by two
functions, the two differences can be dealt with one at a time. `Parallel`
programs make the same calls whatever they are answered, so they run alike
against every function. And a program that meets the `pairing` of two
functions gets the same answers from both (`Meets.pairs`).

# Answers that differ a little

Where the answers differ in something that does not matter, programs may
still be `Alike`. If one behaviour answers both, and can follow each step
from a state that is related, it can follow a whole run (`Alike.runs`).
-/
import Mathlib.Data.List.Forall2
import Uplink.Proofs.Contract

namespace Uplink.Proc

variable {I : Interface} {σ τ ρ ε α β γ δ : Type}
variable {f g : (c : I.Call) → σ → I.Answer c × σ}

/-- A program with a state of its own, run to its end: the value, and both
states. -/
def settle (f : (c : I.Call) → σ → I.Answer c × σ)
    (act : StateT ρ (Proc I) α) (s : ρ × σ) : α × ρ × σ :=
  let u := (act.run s.1).run f s.2
  (u.1.1, u.1.2, u.2)

/-- To `settle` two acts in a row is to settle the second where the first
leaves off. -/
theorem settle_bind (act : StateT ρ (Proc I) α)
    (k : α → StateT ρ (Proc I) β) (s : ρ × σ) :
    settle f (act >>= k) s
      = settle f (k (settle f act s).1) (settle f act s).2 := by
  unfold settle
  rw [StateT.run_bind, run_bind]

/-- Where the first part is known to lead, the second goes on. -/
theorem settle_bind_of {act : StateT ρ (Proc I) α}
    {k : α → StateT ρ (Proc I) β} {s s' : ρ × σ} {a : α}
    (h : settle f act s = (a, s')) :
    settle f (act >>= k) s = settle f (k a) s' := by
  rw [settle_bind, h]

/-- An act that reads the holder's own state finds the one it is settled
from. -/
theorem settle_get {k : ρ → StateT ρ (Proc I) α} (s : ρ × σ) :
    settle f (get >>= k) s = settle f (k s.1) s :=
  rfl

/-- Noting the events down changes nothing else. -/
theorem settle_noting (act : StateT ρ (Proc I) α) (m : ρ)
    (t : List (Event I)) (x : σ) :
    let u := settle (noting f) act (m, t, x)
    (u.1, u.2.1, u.2.2.2) = settle f act (m, x) := by
  obtain ⟨ha, hs⟩ := run_noting f (act.run m) (t, x)
  have hvalue := congrArg Prod.fst ha
  have hown := congrArg Prod.snd ha
  exact Prod.ext hvalue (Prod.ext hown hs)

/-- From states that are related, the two programs end with values and
states that are related. -/
def Coupled (f g : (c : I.Call) → σ → I.Answer c × σ)
    (S S' : ρ × σ → ρ × σ → Prop) (act act' : StateT ρ (Proc I) α)
    (R : α → α → Prop) : Prop :=
  ∀ s s', S s s' → R (settle f act s).1 (settle g act' s').1
    ∧ S' (settle f act s).2 (settle g act' s').2

variable {S S₁ S' : ρ × σ → ρ × σ → Prop}
variable {act act' : StateT ρ (Proc I) α} {R : α → α → Prop}

-- ========================================================== composition

/-- Values that are related are `Coupled` acts, if the relation of the
states lets them stand still. -/
theorem coupled_pure {a b : α} (h : R a b)
    (hS : ∀ s s', S s s' → S' s s') :
    Coupled f g S S' (pure a) (pure b) R :=
  fun s s' hs => ⟨h, hS s s' hs⟩

/-- Acts that are `Coupled` lead to states from which what follows is
coupled as well, whatever related values they return. -/
theorem Coupled.bind {k k' : α → StateT ρ (Proc I) β}
    {R' : β → β → Prop} (h : Coupled f g S S₁ act act' R)
    (hk : ∀ a b, R a b → Coupled f g S₁ S' (k a) (k' b) R') :
    Coupled f g S S' (act >>= k) (act' >>= k') R' := by
  intro s s' hs
  obtain ⟨hr, hs₁⟩ := h s s' hs
  rw [settle_bind, settle_bind]
  exact hk _ _ hr _ _ hs₁

/-- What has to hold before may be more, what holds after may be less. -/
theorem Coupled.mono {T T' : ρ × σ → ρ × σ → Prop} {R' : α → α → Prop}
    (h : Coupled f g S S' act act' R) (hS : ∀ s s', T s s' → S s s')
    (hR : ∀ a b, R a b → R' a b) (hS' : ∀ s s', S' s s' → T' s s') :
    Coupled f g T T' act act' R' := by
  intro s s' hs
  obtain ⟨hr, hs'⟩ := h s s' (hS s s' hs)
  exact ⟨hR _ _ hr, hS' _ _ hs'⟩

/-- A program that cannot fail, where another could. -/
theorem Coupled.attempt_lift {act act' : StateT ρ (Proc I) Unit}
    {R : Unit → Unit → Prop} (h : Coupled f g S S' act act' R) :
    Coupled f g S S' (ExceptT.lift act : ExceptT ε _ Unit).run
      (ExceptT.lift act' : ExceptT ε _ Unit).run Eq := by
  rw [ExceptT.run_lift, ExceptT.run_lift, map_eq_pure_bind,
    map_eq_pure_bind]
  exact h.bind fun _ _ _ => coupled_pure rfl fun _ _ hs => hs

/-- Programs that can fail go on together if they succeed together. -/
theorem Coupled.attempt {act act' : ExceptT ε (StateT ρ (Proc I)) Unit}
    {k k' : Unit → ExceptT ε (StateT ρ (Proc I)) Unit}
    (h : Coupled f g S S₁ act.run act'.run Eq)
    (hk : Coupled f g S₁ S' (k ()).run (k' ()).run Eq)
    (hS : ∀ s s', S₁ s s' → S' s s') :
    Coupled f g S S' (act >>= k).run (act' >>= k').run Eq := by
  rw [ExceptT.run_bind, ExceptT.run_bind]
  refine h.bind fun r r' hr => ?_
  subst hr
  cases r with
  | ok => exact hk
  | error e => exact coupled_pure rfl hS

-- ============================================================= together

/-- A call gets the same answer on both sides, and keeps the relation. -/
def Shared (f g : (c : I.Call) → σ → I.Answer c × σ)
    (S : ρ × σ → ρ × σ → Prop) (c : I.Call) : Prop :=
  ∀ m m' x y, S (m, x) (m', y) →
    (f c x).1 = (g c y).1 ∧ S (m, (f c x).2) (m', (g c y).2)

/-- A program of calls alone is settled as it is `run`, and the holder's
own state stays. -/
theorem settle_lift (p : Proc I α) (s : ρ × σ) :
    settle f (StateT.lift p : StateT ρ (Proc I) α) s
      = ((p.run f s.2).1, s.1, (p.run f s.2).2) := by
  have h : (StateT.lift p : StateT ρ (Proc I) α).run s.1
      = p >>= fun a => done (a, s.1) := rfl
  unfold settle
  rw [h, run_bind]
  rfl

/-- A program of shared calls keeps in step with itself. -/
theorem coupled_lift {p : Proc I α} (h : p.Asks (Shared f g S)) :
    Coupled f g S S (StateT.lift p) (StateT.lift p) Eq := by
  rintro ⟨m, x⟩ ⟨m', y⟩ hs
  rw [settle_lift, settle_lift]
  show (p.run f x).1 = (p.run g y).1
    ∧ S (m, (p.run f x).2) (m', (p.run g y).2)
  induction p generalizing x y with
  | done a => exact ⟨rfl, hs⟩
  | call c k ih =>
    obtain ⟨hr, hs'⟩ := h.1 m m' x y hs
    rw [run_call, run_call, ← hr]
    exact ih _ (h.2 _) _ _ hs'

-- ================================================================= apart

/-- A call on either side keeps the relation, whatever it is answered. -/
def Aside (f g : (c : I.Call) → σ → I.Answer c × σ)
    (S : ρ × σ → ρ × σ → Prop) (c : I.Call) : Prop :=
  ∀ m m' x y, S (m, x) (m', y) →
    S (m, (f c x).2) (m', y) ∧ S (m, x) (m', (g c y).2)

/-- What the calls of a program keep, its run keeps. -/
theorem Stays.run {P : I.Call → Prop} {p : Proc I α} {Q : α → Prop}
    (h : p.Stays P Q) {J : σ → Prop}
    (hJ : ∀ c x, P c → J x → J (f c x).2) {x : σ} (hx : J x) :
    Q (p.run f x).1 ∧ J (p.run f x).2 := by
  induction p generalizing x with
  | done a => exact ⟨h, hx⟩
  | call c k ih =>
    rw [run_call]
    exact ih _ (h.2 _) (hJ c x h.1 hx)

/-- Programs of calls that keep the relation, each on its own side, may
be two different ones. -/
theorem coupled_apart
    (h : ∀ m, (act.run m).Stays (Aside f g S) fun x => x.2 = m)
    (h' : ∀ m, (act'.run m).Stays (Aside f g S) fun x => x.2 = m) :
    Coupled f g S S act act' fun _ _ => True := by
  rintro ⟨m, x⟩ ⟨m', y⟩ hs
  obtain ⟨hm, hs₁⟩ := (h m).run (f := f)
    (J := fun x => S (m, x) (m', y))
    (fun c x hc hx => (hc m m' x y hx).1) hs
  obtain ⟨hm', hs₂⟩ := (h' m').run (f := g)
    (J := fun y => S (m, ((act.run m).run f x).2) (m', y))
    (fun c y hc hy => (hc m m' _ y hy).2) hs₁
  refine ⟨trivial, ?_⟩
  show S (((act.run m).run f x).1.2, _) (((act'.run m').run g y).1.2, _)
  rw [hm, hm']
  exact hs₂

-- ======================================================== the same calls

/-- The programs make the same calls, whatever these are answered, and end
with values that are related. -/
inductive Parallel (R : α → β → Prop) : Proc I α → Proc I β → Prop
  | done {a : α} {b : β} : R a b → Parallel R (.done a) (.done b)
  | call {c : I.Call} {k : I.Answer c → Proc I α}
      {k' : I.Answer c → Proc I β} :
      (∀ r, Parallel R (k r) (k' r)) →
      Parallel R (.call c k) (.call c k')

/-- Every program runs in `Parallel` with itself, call for call. -/
theorem parallel_refl {R : α → α → Prop} (hR : ∀ a, R a a)
    (p : Proc I α) : Parallel R p p := by
  induction p with
  | done a => exact .done (hR a)
  | call c k ih => exact .call ih

/-- Programs in `Parallel` may be followed by programs that are in parallel
given related values. -/
theorem Parallel.bind {R : α → β → Prop} {R' : γ → δ → Prop}
    {p : Proc I α} {q : Proc I β} {k : α → Proc I γ} {k' : β → Proc I δ}
    (h : Parallel R p q) (hk : ∀ a b, R a b → Parallel R' (k a) (k' b)) :
    Parallel R' (p >>= k) (q >>= k') := by
  induction h with
  | done hr => exact hk _ _ hr
  | call _ ih => exact .call ih

/-- Against one function, programs of the same calls run alike. -/
theorem Parallel.run {R : α → β → Prop} {p : Proc I α} {q : Proc I β}
    (h : Parallel R p q) (f : (c : I.Call) → σ → I.Answer c × σ) (s : σ) :
    R (p.run f s).1 (q.run f s).1 ∧ (p.run f s).2 = (q.run f s).2 := by
  induction h generalizing s with
  | done hr => exact ⟨hr, rfl⟩
  | call _ ih => exact ih _ _

-- ===================================================== answers that differ

/-- As long as their answers are related, the programs make the same calls,
all of them among these, and they end with values that are related. -/
inductive Alike (P : I.Call → Prop)
    (A : (c : I.Call) → I.Answer c → I.Answer c → Prop)
    (R : α → β → Prop) : Proc I α → Proc I β → Prop
  | done {a : α} {b : β} : R a b → Alike P A R (.done a) (.done b)
  | call {c : I.Call} {k : I.Answer c → Proc I α}
      {k' : I.Answer c → Proc I β} :
      P c → (∀ r r', A c r r' → Alike P A R (k r) (k' r')) →
      Alike P A R (.call c k) (.call c k')

section

variable {P : I.Call → Prop}
variable {A : (c : I.Call) → I.Answer c → I.Answer c → Prop}

/-- Programs that are `Alike` may be followed by programs that are alike
given related values. -/
theorem Alike.bind {R : α → β → Prop} {R' : γ → δ → Prop}
    {p : Proc I α} {q : Proc I β} {k : α → Proc I γ} {k' : β → Proc I δ}
    (h : Alike P A R p q) (hk : ∀ a b, R a b → Alike P A R' (k a) (k' b)) :
    Alike P A R' (p >>= k) (q >>= k') := by
  induction h with
  | done hr => exact hk _ _ hr
  | call hc _ ih => exact .call hc ih

/-- A call whose answers are related, and what is done about them. -/
theorem alike_ask_bind {R : α → β → Prop} {c : I.Call}
    {k : I.Answer c → Proc I α} {k' : I.Answer c → Proc I β} (hc : P c)
    (hk : ∀ r r', A c r r' → Alike P A R (k r) (k' r')) :
    Alike P A R (ask c >>= k) (ask c >>= k') :=
  .call hc hk

/-- Two events of the same call, with answers that are related. -/
inductive Akin (A : (c : I.Call) → I.Answer c → I.Answer c → Prop) :
    Event I → Event I → Prop
  | mk {c : I.Call} {r r' : I.Answer c} : A c r r' → Akin A ⟨c, r⟩ ⟨c, r'⟩

/-- Where each step of a `Behaviour` can be followed from a state that is
related, so can a run. -/
theorem Alike.runs {B : Behaviour I σ} {S : σ → σ → Prop}
    (hB : ∀ c s x r s', P c → S s x → B c s r s' →
      ∃ r' x', B c x r' x' ∧ A c r r' ∧ S s' x')
    {R : α → β → Prop} {p : Proc I α} {q : Proc I β} {s s' x : σ}
    {t : List (Event I)} {a : α} (h : Alike P A R p q) (hs : S s x)
    (hr : Runs B p s t a s') :
    ∃ t' b x', Runs B q x t' b x' ∧ List.Forall₂ (Akin A) t t'
      ∧ R a b ∧ S s' x' := by
  induction h generalizing s x t with
  | done hab =>
    obtain ⟨rfl, rfl, rfl⟩ := runs_done_iff.1 hr
    exact ⟨[], _, x, .done _ x, .nil, hab, hs⟩
  | call hc _ ih =>
    obtain ⟨r, s₁, t, rfl, hstep, hr⟩ := runs_call_iff.1 hr
    obtain ⟨r', x₁, hstep', hA, hs₁⟩ := hB _ s x r s₁ hc hs hstep
    obtain ⟨t', b, x', hruns, ht, hab, hs'⟩ := ih r r' hA hs₁ hr
    exact ⟨_, b, x', .call hstep' hruns, .cons (.mk hA) ht, hab, hs'⟩

end

-- ========================================================== side by side

/-- Two functions answer one program: it may ask for what both give the
same answer to. -/
def pairing (f : (c : I.Call) → σ → I.Answer c × σ)
    (g : (c : I.Call) → τ → I.Answer c × τ) : Contract I (σ × τ) where
  allows c x := (f c x.1).1 = (g c x.2).1
  moves c x r x' := f c x.1 = (r, x'.1) ∧ (g c x.2).2 = x'.2

/-- What holds after both have answered a call, holds after any move. -/
theorem moves_pairing {f : (c : I.Call) → σ → I.Answer c × σ}
    {g : (c : I.Call) → τ → I.Answer c × τ} {c : I.Call} {x : σ × τ}
    {Q : I.Answer c → σ × τ → Prop}
    (h : Q (f c x.1).1 ((f c x.1).2, (g c x.2).2)) :
    ∀ r x', (pairing f g).moves c x r x' → Q r x' := by
  rintro r ⟨s, t⟩ ⟨hf, hg⟩
  have hg : (g c x.2).2 = t := hg
  rw [hf, hg] at h
  exact h

/-- One call of two runs at once keeps the `pairing` if both get the same
answer. -/
theorem meets_ask_pairing {f : (c : I.Call) → σ → I.Answer c × σ}
    {g : (c : I.Call) → τ → I.Answer c × τ} {c : I.Call} {x : σ × τ}
    {Q : I.Answer c → σ × τ → Prop} (ha : (f c x.1).1 = (g c x.2).1)
    (h : Q (f c x.1).1 ((f c x.1).2, (g c x.2).2)) :
    (ask c).Meets (pairing f g) x Q :=
  meets_ask.2 ⟨ha, moves_pairing h⟩

/-- What keeps to the `pairing` runs alike against both: the same events,
and the same value. -/
theorem Meets.pairs {f : (c : I.Call) → σ → I.Answer c × σ}
    {g : (c : I.Call) → τ → I.Answer c × τ} {p : Proc I α} {x : σ × τ}
    {Q : α → σ × τ → Prop} (h : p.Meets (pairing f g) x Q)
    (t : List (Event I)) :
    let u := p.run (noting f) (t, x.1)
    let v := p.run (noting g) (t, x.2)
    u.1 = v.1 ∧ u.2.1 = v.2.1 ∧ Q u.1 (u.2.2, v.2.2) := by
  induction p generalizing x t with
  | done a => exact ⟨rfl, rfl, h⟩
  | call c k ih =>
    obtain ⟨ha, hmove⟩ := h
    have ha : (f c x.1).1 = (g c x.2).1 := ha
    have hnext := ih (f c x.1).1
      (hmove (f c x.1).1 ((f c x.1).2, (g c x.2).2) ⟨rfl, rfl⟩)
      (t ++ [⟨c, (f c x.1).1⟩])
    rw [run_call, run_call]
    unfold noting at hnext ⊢
    dsimp only at hnext ⊢
    rw [← ha]
    exact hnext

end Uplink.Proc
