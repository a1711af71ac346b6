/-
Runs of a program against surroundings that are left open.

A program is a tree of calls (`Proc`). What answers them is a
`Behaviour`: a relation that says which answers a call may get in a state,
and what becomes of the state with each. It need not be a function, so one
behaviour stands for every modem, every order of events and every failure
at once, and a statement about all runs is a statement about all of them.

# What a run shows

`Runs` is a whole run: the calls with their answers in order, the value,
and the state at the end. `Reaches` is a run up to a call that is about to
be made, for statements about what holds when a program gets there. Both
go down the tree, so a program that is put together from parts runs as
its parts do (`runs_bind_iff`), and no run is infinite.

A run against a function (`Proc.run`) is one of the runs against every
behaviour the function belongs to (`runs_of_run`). That is how a concrete
run is exhibited.
-/
import Uplink.Proc.Retry

namespace Uplink

/-- How surroundings may behave: in a state, a call may get an answer and
leave a state behind. -/
abbrev Behaviour (I : Interface) (σ : Type) : Type :=
  (c : I.Call) → σ → I.Answer c → σ → Prop

/-- Surroundings that leave nothing open. -/
def Behaviour.of {I : Interface} {σ : Type}
    (answer : (c : I.Call) → σ → I.Answer c × σ) : Behaviour I σ :=
  fun c s r s' => answer c s = (r, s')

/-- A call with the answer it got. -/
structure Event (I : Interface) where
  call : I.Call
  answer : I.Answer call

namespace Proc

variable {I : Interface} {σ α β : Type} {B : Behaviour I σ}

/-- A whole run: the events in order, the value and the last state. -/
inductive Runs (B : Behaviour I σ) :
    Proc I α → σ → List (Event I) → α → σ → Prop
  | done (a : α) (s : σ) : Runs B (.done a) s [] a s
  | call {c : I.Call} {k : I.Answer c → Proc I α} {s s₁ s' : σ}
      {r : I.Answer c} {t : List (Event I)} {a : α} :
      B c s r s₁ → Runs B (k r) s₁ t a s' →
      Runs B (.call c k) s (⟨c, r⟩ :: t) a s'

/-- A run that is about to make a call. -/
inductive Reaches (B : Behaviour I σ) :
    Proc I α → σ → I.Call → σ → Prop
  | here (c : I.Call) (k : I.Answer c → Proc I α) (s : σ) :
      Reaches B (.call c k) s c s
  | later {c d : I.Call} {k : I.Answer c → Proc I α} {s s₁ s' : σ}
      {r : I.Answer c} :
      B c s r s₁ → Reaches B (k r) s₁ d s' →
      Reaches B (.call c k) s d s'

-- ========================================================== composition

/-- A program that is done has one run, `Runs` with nothing in it. -/
@[simp] theorem runs_done_iff {a b : α} {s s' : σ} {t : List (Event I)} :
    Runs B (.done a) s t b s' ↔ t = [] ∧ b = a ∧ s' = s := by
  constructor
  · intro h
    cases h
    exact ⟨rfl, rfl, rfl⟩
  · rintro ⟨rfl, rfl, rfl⟩
    exact .done _ _

/-- A run of a call is the call with an answer the `Behaviour` allows, and
a run of what follows that answer. -/
theorem runs_call_iff {c : I.Call} {k : I.Answer c → Proc I α} {s s' : σ}
    {t : List (Event I)} {a : α} :
    Runs B (.call c k) s t a s'
      ↔ ∃ r s₁ t', t = ⟨c, r⟩ :: t' ∧ B c s r s₁
        ∧ Runs B (k r) s₁ t' a s' := by
  constructor
  · intro h
    cases h with
    | call hB hk => exact ⟨_, _, _, rfl, hB, hk⟩
  · rintro ⟨r, s₁, t', rfl, hB, hk⟩
    exact .call hB hk

/-- A run of two programs in a row is a run of the first and then one of
the second. -/
theorem runs_bind_iff {p : Proc I α} {f : α → Proc I β} {s s' : σ}
    {t : List (Event I)} {b : β} :
    Runs B (p >>= f) s t b s'
      ↔ ∃ t₁ t₂ a s₁, t = t₁ ++ t₂ ∧ Runs B p s t₁ a s₁
        ∧ Runs B (f a) s₁ t₂ b s' := by
  induction p generalizing s t with
  | done a =>
    constructor
    · intro h
      exact ⟨[], t, a, s, rfl, .done _ _, h⟩
    · rintro ⟨t₁, t₂, a', s₁, rfl, h₁, h₂⟩
      obtain ⟨rfl, rfl, rfl⟩ := runs_done_iff.1 h₁
      exact h₂
  | call c k ih =>
    rw [call_bind, runs_call_iff]
    constructor
    · rintro ⟨r, s₁, t', rfl, hB, h⟩
      obtain ⟨t₁, t₂, a, s₂, rfl, h₁, h₂⟩ := (ih r).1 h
      exact ⟨_, t₂, a, s₂, rfl, .call hB h₁, h₂⟩
    · rintro ⟨t₁, t₂, a, s₂, rfl, h₁, h₂⟩
      obtain ⟨r, s₁, t', rfl, hB, h₁⟩ := runs_call_iff.1 h₁
      exact ⟨r, s₁, t' ++ t₂, rfl, hB,
        (ih r).2 ⟨t', t₂, a, s₂, rfl, h₁, h₂⟩⟩

/-- Where a program can answer each call as a `Behaviour` does, it can
answer a whole run. -/
theorem exists_runs_within {J : Interface} {B' : Behaviour J σ}
    {answer : (c : I.Call) → Proc J (I.Answer c)}
    (hB : ∀ c s r s', B c s r s' → ∃ t, Runs B' (answer c) s t r s')
    {p : Proc I α} {s s' : σ} {t : List (Event I)} {a : α}
    (h : Runs B p s t a s') : ∃ t', Runs B' (p.within answer) s t' a s' := by
  induction h with
  | done a s => exact ⟨[], .done a s⟩
  | call hr _ ih =>
    obtain ⟨t₁, h₁⟩ := hB _ _ _ _ hr
    obtain ⟨t₂, h₂⟩ := ih
    exact ⟨t₁ ++ t₂, runs_bind_iff.2 ⟨t₁, t₂, _, _, rfl, h₁, h₂⟩⟩

-- ========================================================= projections

/-- What is kept besides may be forgotten: a run is one of the `Behaviour`
that each of its steps is one of. -/
theorem Runs.map {τ : Type} {B' : Behaviour I τ} (f : σ → τ)
    (hB : ∀ c s r s', B c s r s' → B' c (f s) r (f s')) {p : Proc I α}
    {s s' : σ} {t : List (Event I)} {a : α} (h : Runs B p s t a s') :
    Runs B' p (f s) t a (f s') := by
  induction h with
  | done a s => exact .done a (f s)
  | call hr _ ih => exact .call (hB _ _ _ _ hr) ih

/-- What is kept besides may be kept from the start: if it can be kept in
each step, it can be kept throughout. -/
theorem Runs.lift {τ : Type} {B' : Behaviour I τ} (f : τ → σ)
    (hB : ∀ c x r s', B c (f x) r s' → ∃ x', B' c x r x' ∧ f x' = s')
    {p : Proc I α} {s s' : σ} {t : List (Event I)} {a : α}
    (h : Runs B p s t a s') {x : τ} (hx : f x = s) :
    ∃ x', Runs B' p x t a x' ∧ f x' = s' := by
  induction h generalizing x with
  | done a s => exact ⟨x, .done a x, hx⟩
  | call hr _ ih =>
    subst hx
    obtain ⟨x₁, hr', rfl⟩ := hB _ _ _ _ hr
    obtain ⟨x', h', hx'⟩ := ih rfl
    exact ⟨x', .call hr' h', hx'⟩

-- ============================================================= outcomes

/-- Every run of the program ends with this value, and there is one. -/
def Returns (B : Behaviour I σ) (p : Proc I α) (s : σ) (a : α) : Prop :=
  (∃ t s', Runs B p s t a s') ∧ ∀ t b s', Runs B p s t b s' → b = a

theorem returns_done (a : α) (s : σ) : Returns B (.done a) s a :=
  ⟨⟨[], s, .done a s⟩, fun _ _ _ h => (runs_done_iff.1 h).2.1⟩

/-- A call that gets an answer returns what is returned after each. -/
theorem returns_call {c : I.Call} {k : I.Answer c → Proc I α} {s : σ}
    {a : α} (hB : ∃ r s₁, B c s r s₁)
    (hk : ∀ r s₁, B c s r s₁ → Returns B (k r) s₁ a) :
    Returns B (.call c k) s a := by
  constructor
  · obtain ⟨r, s₁, hr⟩ := hB
    obtain ⟨⟨t, s', h⟩, -⟩ := hk r s₁ hr
    exact ⟨_, s', .call hr h⟩
  · intro t b s' h
    obtain ⟨r, s₁, t', -, hr, h⟩ := runs_call_iff.1 h
    exact (hk r s₁ hr).2 t' b s' h

/-- Where the first part returns `a` and the second part, given `a`,
returns `b` from wherever the first one leaves off, both return `b`. -/
theorem Returns.bind {p : Proc I α} {f : α → Proc I β} {s : σ} {a : α}
    {b : β} (h : Returns B p s a) (hf : ∀ s₁, Returns B (f a) s₁ b) :
    Returns B (p >>= f) s b := by
  constructor
  · obtain ⟨t, s₁, h⟩ := h.1
    obtain ⟨t', s', h'⟩ := (hf s₁).1
    exact ⟨t ++ t', s', runs_bind_iff.2 ⟨t, t', a, s₁, rfl, h, h'⟩⟩
  · intro t b' s' h'
    obtain ⟨t₁, t₂, a', s₁, -, h₁, h₂⟩ := runs_bind_iff.1 h'
    obtain rfl := h.2 t₁ a' s₁ h₁
    exact (hf s₁).2 t₂ b' s' h₂

-- ============================================================ existence

/-- Surroundings that have an answer to everything let every program run
to its end. -/
theorem exists_runs (hB : ∀ c s, ∃ r s', B c s r s') (p : Proc I α)
    (s : σ) : ∃ t a s', Runs B p s t a s' := by
  induction p generalizing s with
  | done a => exact ⟨[], a, s, .done a s⟩
  | call c k ih =>
    obtain ⟨r, s₁, hr⟩ := hB c s
    obtain ⟨t, a, s', h⟩ := ih r s₁
    exact ⟨_, a, s', .call hr h⟩

/-- What a function answers at once is a run of every behaviour that the
function belongs to. The state of the behaviour may be a part of that of
the function. -/
theorem runs_of_run {τ : Type} (f : τ → σ)
    {answer : (c : I.Call) → τ → I.Answer c × τ}
    (hB : ∀ c x, B c (f x) (answer c x).1 (f (answer c x).2))
    (p : Proc I α) (x : τ) :
    ∃ t, Runs B p (f x) t (p.run answer x).1 (f (p.run answer x).2) := by
  induction p generalizing x with
  | done a => exact ⟨[], .done a _⟩
  | call c k ih =>
    obtain ⟨t, h⟩ := ih (answer c x).1 (answer c x).2
    exact ⟨_, .call (hB c x) h⟩

/-- Where every call has one answer, `Proc.run` is a run, and shows what it
asks for. -/
theorem runs_of_answer (answer : (c : I.Call) → σ → I.Answer c × σ)
    (p : Proc I α) (s : σ) :
    ∃ t, Runs (.of answer) p s t (p.run answer s).1 (p.run answer s).2 :=
  runs_of_run id (fun _ _ => rfl) p s

/-- Answer by a function, and note down the events. -/
def noting (answer : (c : I.Call) → σ → I.Answer c × σ) (c : I.Call)
    (s : List (Event I) × σ) : I.Answer c × List (Event I) × σ :=
  let (r, x) := answer c s.2
  (r, s.1 ++ [⟨c, r⟩], x)

/-- A program that is `run` with its calls noted down has the run that was
noted, after what was noted before. -/
theorem runs_of_noting (answer : (c : I.Call) → σ → I.Answer c × σ)
    (p : Proc I α) (s : List (Event I) × σ) :
    ∃ t, Runs (.of answer) p s.2 t (p.run (noting answer) s).1
          (p.run (noting answer) s).2.2
      ∧ (p.run (noting answer) s).2.1 = s.1 ++ t := by
  induction p generalizing s with
  | done a => exact ⟨[], .done a _, (List.append_nil _).symm⟩
  | call c k ih =>
    obtain ⟨t, h, ht⟩ := ih (answer c s.2).1 (noting answer c s).2
    refine ⟨⟨c, (answer c s.2).1⟩ :: t, .call rfl h, ?_⟩
    rw [List.append_cons]
    exact ht

/-- Noting the events down changes nothing else. -/
theorem run_noting (answer : (c : I.Call) → σ → I.Answer c × σ)
    (p : Proc I α) (s : List (Event I) × σ) :
    (p.run (noting answer) s).1 = (p.run answer s.2).1
      ∧ (p.run (noting answer) s).2.2 = (p.run answer s.2).2 := by
  induction p generalizing s with
  | done a => exact ⟨rfl, rfl⟩
  | call c k ih => exact ih _ _

/-- A program run up to the first call of some kind: the call, and the
state there. -/
def runUpTo (answer : (c : I.Call) → σ → I.Answer c × σ)
    (stop : I.Call → Bool) : Proc I α → σ → Option (I.Call × σ)
  | done _, _ => none
  | call c k, s =>
    if stop c then some (c, s)
    else (k (answer c s).1).runUpTo answer stop (answer c s).2

/-- Where a function gets to, the behaviours it belongs to get to. -/
theorem reaches_of_runUpTo {τ : Type} (f : τ → σ)
    {answer : (c : I.Call) → τ → I.Answer c × τ}
    (hB : ∀ c x, B c (f x) (answer c x).1 (f (answer c x).2))
    {stop : I.Call → Bool} {p : Proc I α} {x x' : τ} {c : I.Call}
    (h : p.runUpTo answer stop x = some (c, x')) :
    Reaches B p (f x) c (f x') ∧ stop c = true := by
  induction p generalizing x with
  | done a => cases h
  | call d k ih =>
    unfold runUpTo at h
    split at h
    next hs =>
      cases h
      exact ⟨.here _ _ _, hs⟩
    next hs =>
      obtain ⟨hr, hc⟩ := ih _ h
      exact ⟨.later (hB d x) hr, hc⟩

/-- What a program that is through ended with. -/
def value? : Proc I α → Option α
  | done a => some a
  | call .. => none

/-- A program that has a `value?` is done with it. -/
theorem eq_done_of_value? {p : Proc I α} {a : α}
    (h : p.value? = some a) : p = done a := by
  cases p with
  | done b => exact congrArg done (Option.some.inj h)
  | call c k => cases h

-- ================================================================ asking

/-- Every call the program can make, whatever it is answered, is one of
these, and every value it can end with is one of those. -/
def Stays (P : I.Call → Prop) : Proc I α → (α → Prop) → Prop
  | .done a, Q => Q a
  | .call c k, Q => P c ∧ ∀ r, (k r).Stays P Q

/-- A program in two parts stays within `P` if each of them does, the
second one after whatever the first may return. -/
theorem stays_bind {P : I.Call → Prop} {p : Proc I α} {f : α → Proc I β}
    {Q : α → Prop} {Q' : β → Prop} (hp : p.Stays P Q)
    (hf : ∀ a, Q a → (f a).Stays P Q') : (p >>= f).Stays P Q' := by
  induction p with
  | done a => exact hf a hp
  | call c k ih => exact ⟨hp.1, fun r => ih r (hp.2 r)⟩

/-- Both the calls and the values of `Stays` may be bounded less
tightly. -/
theorem Stays.mono {P P' : I.Call → Prop} {p : Proc I α}
    {Q Q' : α → Prop} (h : p.Stays P Q) (hP : ∀ c, P c → P' c)
    (hQ : ∀ a, Q a → Q' a) : p.Stays P' Q' := by
  induction p with
  | done a => exact hQ a h
  | call c k ih => exact ⟨hP c h.1, fun r => ih r (h.2 r)⟩

/-- Where each call is answered by a program, those programs are all that
is asked for. -/
theorem Stays.within {J : Interface} {P : I.Call → Prop}
    {P' : J.Call → Prop} {answer : (c : I.Call) → Proc J (I.Answer c)}
    {p : Proc I α} {Q : α → Prop} (h : p.Stays P Q)
    (hanswer : ∀ c, P c → (answer c).Stays P' fun _ => True) :
    (p.within answer).Stays P' Q := by
  induction p with
  | done a => exact h
  | call c k ih =>
    exact stays_bind (hanswer c h.1) fun r _ => ih r (h.2 r)

def Asks (P : I.Call → Prop) (p : Proc I α) : Prop :=
  p.Stays P fun _ => True

theorem asks_done {P : I.Call → Prop} (a : α) :
    (Proc.done a : Proc I α).Asks P :=
  trivial

theorem asks_ask {P : I.Call → Prop} {c : I.Call} :
    (ask c).Asks P ↔ P c :=
  ⟨fun h => h.1, fun h => ⟨h, fun _ => trivial⟩⟩

/-- What two parts `Asks` for, both of them together do. -/
theorem asks_bind {P : I.Call → Prop} {p : Proc I α} {f : α → Proc I β}
    (hp : p.Asks P) (hf : ∀ a, (f a).Asks P) : (p >>= f).Asks P :=
  stays_bind hp fun a _ => hf a

/-- Where every call is among these, so are those of the program. -/
theorem asks_of_forall {P : I.Call → Prop} (hP : ∀ c, P c)
    (p : Proc I α) : p.Asks P := by
  induction p with
  | done a => trivial
  | call c k ih => exact ⟨hP c, ih⟩

/-- A program that `Asks` for less asks for no more. -/
theorem Asks.mono {P P' : I.Call → Prop} {p : Proc I α} (h : p.Asks P)
    (hP : ∀ c, P c → P' c) : p.Asks P' :=
  Stays.mono h hP fun _ _ => trivial

/-- What each attempt and each pause of a `retry` asks for is all that the
whole of it does, whatever the budget is. -/
theorem asks_retry {P : I.Call → Prop} {pause : Nat → Proc I Unit}
    {attempt : Nat → σ → Proc I (Except σ α)}
    (hattempt : ∀ number known, (attempt number known).Asks P)
    (hpause : ∀ number, (pause number).Asks P)
    (budget number : Nat) (known : σ) :
    (retry pause attempt budget number known).Asks P := by
  induction budget generalizing number known with
  | zero => trivial
  | succ left ih =>
    cases left with
    | zero => exact hattempt number known
    | succ left =>
      refine asks_bind (hattempt number known) fun r => ?_
      cases r with
      | ok a => trivial
      | error known => exact asks_bind (hpause number) fun _ => ih _ _

/-- It gets to nothing else. -/
theorem Asks.of_reaches {P : I.Call → Prop} {p : Proc I α} {s s' : σ}
    {c : I.Call} (hp : p.Asks P) (h : Reaches B p s c s') : P c := by
  induction h with
  | here => exact hp.1
  | later _ _ ih => exact ih (hp.2 _)

/-- What a program asks for, it asks for in every run. -/
theorem Runs.mem_asks {P : I.Call → Prop} {p : Proc I α} {s s' : σ}
    {t : List (Event I)} {a : α} (h : Runs B p s t a s')
    (hp : p.Asks P) : ∀ e ∈ t, P e.call := by
  induction h with
  | done => simp
  | call _ _ ih =>
    intro e he
    rcases List.mem_cons.1 he with rfl | he
    · exact hp.1
    · exact ih (hp.2 _) e he

end Proc

end Uplink
