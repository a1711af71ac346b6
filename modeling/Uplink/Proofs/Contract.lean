/-
Contracts: what a program may ask for, and what it ends in.

A contract has two sides. What it *allows* binds the program: in a state,
these calls may be made. What it *moves* binds the surroundings: these
answers may come, and this becomes of the state. `Meets` says that a
program keeps its side against every surroundings that keep theirs, and
that a condition holds when it is through. It goes down the tree of the
program, so it is settled step by step, and two programs in a row meet a
contract as one does (`meets_bind`).

# Programs with a state of their own

Most programs of the library are `StateT` over a `Proc`. `Ensures` is
`Meets` for these: the condition sees the value, the program's own state
and the state of the contract. The lemmas about it open a `do` block from
the front.

# Layers

A program over one interface becomes one over a lower interface when each
call is answered by a program (`Proc.within`). If the answers keep a
relation between the two states, whatever the upper program meets carries
over (`Meets.ensures_within`). That is the one induction over programs
that statements about several layers need.
-/
import Uplink.Proofs.Run

namespace Uplink

/-- The two sides of an interface: what may be asked for in a state, and
how an answer may move it. -/
structure Contract (I : Interface) (σ : Type) where
  allows : I.Call → σ → Prop
  moves : Behaviour I σ

/-- The contract that allows everything. -/
def Behaviour.contract {I : Interface} {σ : Type} (B : Behaviour I σ) :
    Contract I σ :=
  ⟨fun _ _ => True, B⟩

/-- These calls are allowed wherever `inv` holds, and their answers keep
it. -/
def Contract.Preserves {I : Interface} {σ : Type} (C : Contract I σ)
    (P : I.Call → Prop) (inv : σ → Prop) : Prop :=
  ∀ c s, P c → inv s →
    C.allows c s ∧ ∀ r s', C.moves c s r s' → inv s'

/-- The contract of an automaton that reads the calls with their answers.
What it reads whatever the answer is allowed. -/
def Contract.reading {I : Interface} {τ : Type}
    (next : τ → Event I → Option τ) : Contract I τ :=
  ⟨fun c x => ∀ r, (next x ⟨c, r⟩).isSome = true,
    fun c x r x' => next x ⟨c, r⟩ = some x'⟩

namespace Proc

variable {I J : Interface} {σ τ ρ ε α β : Type}
variable {C : Contract I σ} {D : Contract J τ}

/-- The program asks only for what the contract allows, and the condition
holds at its end, however the surroundings keep their side. -/
def Meets (C : Contract I σ) :
    Proc I α → σ → (α → σ → Prop) → Prop
  | .done a, s, Q => Q a s
  | .call c k, s, Q =>
    C.allows c s ∧ ∀ r s', C.moves c s r s' → (k r).Meets C s' Q

-- ========================================================== composition

@[simp] theorem meets_done {a : α} {s : σ} {Q : α → σ → Prop} :
    (Proc.done a : Proc I α).Meets C s Q ↔ Q a s :=
  Iff.rfl

/-- To meet a contract with a call, the call must be allowed there, and the
rest meet it wherever the contract says that the call may lead. -/
theorem meets_call {c : I.Call} {k : I.Answer c → Proc I α} {s : σ}
    {Q : α → σ → Prop} :
    (Proc.call c k).Meets C s Q
      ↔ C.allows c s ∧ ∀ r s', C.moves c s r s' → (k r).Meets C s' Q :=
  Iff.rfl

/-- A single call `Meets` what its contract says of every answer. -/
@[simp] theorem meets_ask {c : I.Call} {s : σ}
    {Q : I.Answer c → σ → Prop} :
    (ask c).Meets C s Q
      ↔ C.allows c s ∧ ∀ r s', C.moves c s r s' → Q r s' :=
  Iff.rfl

/-- Two programs in a row meet a contract if the first leads to where the
second meets it. -/
@[simp] theorem meets_bind {p : Proc I α} {f : α → Proc I β} {s : σ}
    {Q : β → σ → Prop} :
    (p >>= f).Meets C s Q ↔ p.Meets C s fun a s' => (f a).Meets C s' Q := by
  induction p generalizing s with
  | done a => rfl
  | call c k ih =>
    rw [call_bind, meets_call, meets_call]
    constructor
    · rintro ⟨hc, h⟩
      exact ⟨hc, fun r s' hr => (ih r).1 (h r s' hr)⟩
    · rintro ⟨hc, h⟩
      exact ⟨hc, fun r s' hr => (ih r).2 (h r s' hr)⟩

/-- What a program `Meets` at its end may be relaxed. -/
theorem Meets.mono {p : Proc I α} {s : σ} {Q Q' : α → σ → Prop}
    (h : p.Meets C s Q) (hQ : ∀ a s', Q a s' → Q' a s') :
    p.Meets C s Q' := by
  induction p generalizing s with
  | done a => exact hQ a s h
  | call c k ih => exact ⟨h.1, fun r s' hr => ih r (h.2 r s' hr)⟩

/-- A `Contract` that allows more and moves less is met as well. -/
theorem Meets.weaken {D : Contract I σ} {p : Proc I α} {s : σ}
    {Q : α → σ → Prop} (h : p.Meets C s Q)
    (hallows : ∀ c s, C.allows c s → D.allows c s)
    (hmoves : ∀ c s r s', D.moves c s r s' → C.moves c s r s') :
    p.Meets D s Q := by
  induction p generalizing s with
  | done a => exact h
  | call c k ih =>
    refine ⟨hallows c s h.1, fun r s' hr => ?_⟩
    exact ih r (h.2 r s' (hmoves c s r s' hr))

/-- Two contracts that a program meets go together, where each speaks of a
part of the state. -/
theorem Meets.and {D : Contract I τ} {E : Contract I ρ} {f : ρ → σ}
    {g : ρ → τ}
    (hallows : ∀ c x, C.allows c (f x) → D.allows c (g x) → E.allows c x)
    (hmoves : ∀ c x r x', E.moves c x r x' →
      C.moves c (f x) r (f x') ∧ D.moves c (g x) r (g x'))
    {p : Proc I α} {x : ρ} {Q : α → σ → Prop} {Q' : α → τ → Prop}
    (h : p.Meets C (f x) Q) (h' : p.Meets D (g x) Q') :
    p.Meets E x fun a x' => Q a (f x') ∧ Q' a (g x') := by
  induction p generalizing x with
  | done a => exact ⟨h, h'⟩
  | call c k ih =>
    refine ⟨hallows c x h.1 h'.1, fun r x' hr => ?_⟩
    obtain ⟨hC, hD⟩ := hmoves c x r x' hr
    exact ih r (h.2 r _ hC) (h'.2 r _ hD)

-- ============================================================= soundness

/-- A run that keeps to the moves of a contract ends as `Meets` says. -/
theorem Meets.of_runs {p : Proc I α} {s s' : σ} {Q : α → σ → Prop}
    {t : List (Event I)} {a : α} (h : p.Meets C s Q)
    (hr : Runs C.moves p s t a s') : Q a s' := by
  induction hr with
  | done => exact h
  | call hB _ ih => exact ih (h.2 _ _ hB)

/-- The automaton reads every run of such a program, whatever answers. -/
theorem Meets.reads {next : τ → Event I → Option τ} {p : Proc I α}
    {x : τ} {Q : α → τ → Prop} (h : p.Meets (.reading next) x Q)
    {B : Behaviour I σ} {s s' : σ} {t : List (Event I)} {a : α}
    (hr : Runs B p s t a s') :
    ∃ x', t.foldlM next x = some x' ∧ Q a x' := by
  induction hr generalizing x with
  | done a s => exact ⟨x, rfl, h⟩
  | call _ _ ih =>
    obtain ⟨x₁, hx₁⟩ := Option.isSome_iff_exists.1 (h.1 _)
    obtain ⟨x', hx', hQ⟩ := ih (h.2 _ x₁ hx₁)
    refine ⟨x', ?_, hQ⟩
    rw [List.foldlM_cons, hx₁]
    exact hx'

/-- Whatever a run gets to ask for is allowed there. -/
theorem Meets.of_reaches {p : Proc I α} {s s' : σ} {Q : α → σ → Prop}
    {c : I.Call} (h : p.Meets C s Q) (hr : Reaches C.moves p s c s') :
    C.allows c s' := by
  induction hr with
  | here => exact h.1
  | later hB _ ih => exact ih (h.2 _ _ hB)

/-- What a program stays within, and what its answers keep, it ends
with. -/
theorem Stays.meets {P : I.Call → Prop} {inv : σ → Prop} {p : Proc I α}
    {Q : α → Prop} (hp : p.Stays P Q) (hC : C.Preserves P inv) {s : σ}
    (hs : inv s) : p.Meets C s fun a s' => Q a ∧ inv s' := by
  induction p generalizing s with
  | done a => exact ⟨hp, hs⟩
  | call c k ih =>
    obtain ⟨hc, hmove⟩ := hC c s hp.1 hs
    exact ⟨hc, fun r s' hr => ih r (hp.2 r) (hmove r s' hr)⟩

/-- A program whose calls preserve an invariant keeps it, whatever else the
contract is about. -/
theorem Asks.meets {P : I.Call → Prop} {inv : σ → Prop} {p : Proc I α}
    (hp : p.Asks P) (hC : C.Preserves P inv) {s : σ} (hs : inv s) :
    p.Meets C s fun _ s' => inv s' :=
  (Stays.meets hp hC hs).mono fun _ _ h => h.2

/-- One thing holds after a success, and another after a failure. -/
def Either (succeeded failed : Prop) : Except ε α → Prop
  | .ok _ => succeeded
  | .error _ => failed

/-- If each attempt settles the matter or leaves things as they were, so
do all of them. -/
theorem meets_retry {inv Q : σ → Prop} {pause : Nat → Proc I Unit}
    {attempt : Nat → ρ → Proc I (Except ρ α)}
    (hattempt : ∀ number known s, inv s →
      (attempt number known).Meets C s fun r s' =>
        Either (Q s') (inv s') r)
    (hpause : ∀ number s, inv s →
      (pause number).Meets C s fun _ s' => inv s')
    (budget number : Nat) (known : ρ) {s : σ} (hs : inv s) :
    (retry pause attempt budget number known).Meets C s fun r s' =>
      Either (Q s') (inv s') r := by
  induction budget generalizing number known s with
  | zero => exact hs
  | succ left ih =>
    cases left with
    | zero => exact hattempt number known s hs
    | succ left =>
      refine meets_bind.2 ((hattempt number known s hs).mono
        fun r s' hr => ?_)
      cases r with
      | ok a => exact hr
      | error known =>
        refine meets_bind.2 ((hpause number s' hr).mono fun _ s'' hs'' => ?_)
        exact ih (number + 1) known hs''

-- ====================================================== states of its own

/-- `Meets` for a program with a state of its own. -/
def Ensures (C : Contract I σ) (act : StateT ρ (Proc I) α) (m : ρ) (s : σ)
    (Q : α → ρ → σ → Prop) : Prop :=
  (act.run m).Meets C s fun x s' => Q x.1 x.2 s'

variable {m : ρ} {s : σ}

/-- An act `Ensures` what the next one needs, in the state and in the
holder's own state at once. -/
@[simp] theorem ensures_bind {act : StateT ρ (Proc I) α}
    {f : α → StateT ρ (Proc I) β} {Q : β → ρ → σ → Prop} :
    Ensures C (act >>= f) m s Q
      ↔ Ensures C act m s fun a m' s' => Ensures C (f a) m' s' Q :=
  meets_bind

@[simp] theorem ensures_get {Q : ρ → ρ → σ → Prop} :
    Ensures C (get : StateT ρ (Proc I) ρ) m s Q ↔ Q m m s :=
  Iff.rfl

/-- A change of the holder's own state is no call, and leaves the
contract's state alone. -/
@[simp] theorem ensures_modify {f : ρ → ρ} {Q : PUnit → ρ → σ → Prop} :
    Ensures C (modify f : StateT ρ (Proc I) PUnit) m s Q
      ↔ Q ⟨⟩ (f m) s :=
  Iff.rfl

/-- A program of calls alone `Ensures` what it `Meets`, with the holder's
own state as it was. -/
@[simp] theorem ensures_lift {p : Proc I α} {Q : α → ρ → σ → Prop} :
    Ensures C (StateT.lift p : StateT ρ (Proc I) α) m s Q
      ↔ p.Meets C s fun a s' => Q a m s' :=
  meets_bind

/-- One call, and what comes after it. -/
theorem ensures_call {c : I.Call} {f : I.Answer c → StateT ρ (Proc I) β}
    {Q : β → ρ → σ → Prop} :
    Ensures C (StateT.lift (ask c) >>= f) m s Q
      ↔ C.allows c s
        ∧ ∀ r s', C.moves c s r s' → Ensures C (f r) m s' Q := by
  rw [ensures_bind, ensures_lift, meets_ask]

@[simp] theorem ensures_monadLift {p : Proc I α} {Q : α → ρ → σ → Prop} :
    Ensures C (monadLift p : StateT ρ (Proc I) α) m s Q
      ↔ p.Meets C s fun a s' => Q a m s' :=
  meets_bind

/-- What an act `Ensures` may be relaxed. -/
theorem Ensures.mono {act : StateT ρ (Proc I) α}
    {Q Q' : α → ρ → σ → Prop} (h : Ensures C act m s Q)
    (hQ : ∀ a m' s', Q a m' s' → Q' a m' s') : Ensures C act m s Q' :=
  Meets.mono h fun x s' => hQ x.1 x.2 s'

/-- Two things that an act `Ensures` hold together. -/
theorem Ensures.and {act : StateT ρ (Proc I) α}
    {Q Q' : α → ρ → σ → Prop} (h : Ensures C act m s Q)
    (h' : Ensures C act m s Q') :
    Ensures C act m s fun a m' s' => Q a m' s' ∧ Q' a m' s' :=
  Meets.and (f := id) (g := id) (fun _ _ hc _ => hc)
    (fun _ _ _ _ hr => ⟨hr, hr⟩) h h'

/-- A program that can fail goes on with its second part where the first
succeeds, and is through where it fails. -/
@[simp] theorem ensures_attempt_bind
    {act : ExceptT ε (StateT ρ (Proc I)) α}
    {f : α → ExceptT ε (StateT ρ (Proc I)) β}
    {Q : Except ε β → ρ → σ → Prop} :
    Ensures C (act >>= f).run m s Q
      ↔ Ensures C act.run m s fun r m' s' =>
          match r with
          | .ok a => Ensures C (f a).run m' s' Q
          | .error e => Q (.error e) m' s' := by
  rw [ExceptT.run_bind, ensures_bind]
  constructor
  · intro h
    refine h.mono ?_
    rintro (e | a) m' s' hr
    · exact hr
    · exact hr
  · intro h
    refine h.mono ?_
    rintro (e | a) m' s' hr
    · exact hr
    · exact hr

/-- An act that cannot fail `Ensures` as an attempt what it ensures by
itself, of a success. -/
@[simp] theorem ensures_attempt_lift {act : StateT ρ (Proc I) α}
    {Q : Except ε α → ρ → σ → Prop} :
    Ensures C (ExceptT.lift act).run m s Q
      ↔ Ensures C act m s fun a m' s' => Q (.ok a) m' s' := by
  rw [ExceptT.run_lift]
  exact meets_bind

-- ================================================================ layers

/-- What each answer of a layer keeps, every program above it keeps. -/
theorem meets_within {answer : (c : I.Call) → Proc J (I.Answer c)}
    {inv : τ → Prop}
    (hanswer : ∀ c x, inv x → (answer c).Meets D x fun _ x' => inv x')
    (p : Proc I α) {x : τ} (hx : inv x) :
    (p.within answer).Meets D x fun _ x' => inv x' := by
  induction p generalizing x with
  | done a => exact hx
  | call c k ih =>
    exact meets_bind.2 ((hanswer c x hx).mono fun r x' hx' => ih r hx')

/-- If the answers of a layer move the state as the `Contract` above says,
what a program meets above it meets below. -/
theorem Meets.within {D : Contract J σ}
    {answer : (c : I.Call) → Proc J (I.Answer c)}
    (hanswer : ∀ c s, C.allows c s →
      (answer c).Meets D s fun r s' => C.moves c s r s')
    {p : Proc I α} {s : σ} {Q : α → σ → Prop} (hp : p.Meets C s Q) :
    (p.within answer).Meets D s Q := by
  induction p generalizing s with
  | done a => exact hp
  | call c k ih =>
    refine meets_bind.2 ((hanswer c s hp.1).mono fun r s' hmove => ?_)
    exact ih r (hp.2 r s' hmove)

/-- If the answers of a layer keep a relation between the states above and
below, what a program meets above it ensures below. -/
theorem Meets.ensures_within {R : σ → ρ → τ → Prop}
    {answer : (c : I.Call) → StateT ρ (Proc J) (I.Answer c)}
    (hanswer : ∀ c s m x, C.allows c s → R s m x →
      Ensures D (answer c) m x fun r m' x' =>
        ∃ s', C.moves c s r s' ∧ R s' m' x')
    {p : Proc I α} {s : σ} {m : ρ} {x : τ} {Q : α → σ → Prop}
    (hp : p.Meets C s Q) (hR : R s m x) :
    Ensures D (p.within answer) m x fun a m' x' =>
      ∃ s', Q a s' ∧ R s' m' x' := by
  induction p generalizing s m x with
  | done a => exact ⟨s, hp, hR⟩
  | call c k ih =>
    refine ensures_bind.2 ((hanswer c s m x hp.1 hR).mono ?_)
    rintro r m' x' ⟨s', hmove, hR'⟩
    exact ih r (hp.2 r s' hmove) hR'

end Proc

end Uplink
