/-
Accounts that are kept of a program's calls.

`Meets` has the surroundings move a state, and the program must do
whatever becomes of it. Here it is the other way round. The state is an
account that is kept of the calls, for the sake of an argument: with each
call, whatever the answer is, an entry has to be found that the rules
admit, and the condition holds of the account when the program is through.
So an account may note what only the rest of the program can tell, such as
what a call is made for.

An account that can be kept above a layer can be kept below it
(`Accounts.within`).
-/
import Uplink.Proofs.Run

namespace Uplink.Proc

variable {I J : Interface} {σ ρ ε α β : Type}
variable {B : Behaviour I σ}

/-- Whatever is answered, an account can be kept of the calls, and the
condition holds at its end. -/
def Accounts (B : Behaviour I σ) : Proc I α → σ → (α → σ → Prop) → Prop
  | .done a, s, Q => Q a s
  | .call c k, s, Q => ∀ r, ∃ s', B c s r s' ∧ (k r).Accounts B s' Q

-- ========================================================== composition

/-- Two programs in a row account for what they do if the first leads to
where the second does. -/
@[simp] theorem accounts_bind {p : Proc I α} {f : α → Proc I β} {s : σ}
    {Q : β → σ → Prop} :
    (p >>= f).Accounts B s Q
      ↔ p.Accounts B s fun a s' => (f a).Accounts B s' Q := by
  induction p generalizing s with
  | done a => rfl
  | call c k ih =>
    constructor
    · intro h r
      obtain ⟨s', hB, h⟩ := h r
      exact ⟨s', hB, (ih r).1 h⟩
    · intro h r
      obtain ⟨s', hB, h⟩ := h r
      exact ⟨s', hB, (ih r).2 h⟩

/-- What a program `Accounts` for at its end may be relaxed. -/
theorem Accounts.mono {p : Proc I α} {s : σ} {Q Q' : α → σ → Prop}
    (h : p.Accounts B s Q) (hQ : ∀ a s', Q a s' → Q' a s') :
    p.Accounts B s Q' := by
  induction p generalizing s with
  | done a => exact hQ a s h
  | call c k ih =>
    intro r
    obtain ⟨s', hB, h⟩ := h r
    exact ⟨s', hB, ih r h⟩

-- =============================================================== calls

/-- A program that stays within two bounds stays within both at once. -/
theorem Stays.and {P P' : I.Call → Prop} {p : Proc I α}
    {Q Q' : α → Prop} (h : p.Stays P Q) (h' : p.Stays P' Q') :
    p.Stays (fun c => P c ∧ P' c) fun a => Q a ∧ Q' a := by
  induction p with
  | done a => exact ⟨h, h'⟩
  | call c k ih => exact ⟨⟨h.1, h'.1⟩, fun r => ih r (h.2 r) (h'.2 r)⟩

/-- Where each of its calls can be entered so that `K` still holds, so
can the program. -/
theorem Stays.accounts {P : I.Call → Prop} {K : σ → Prop}
    {p : Proc I α} {Q : α → Prop} (h : p.Stays P Q)
    (hB : ∀ c s r, P c → K s → ∃ s', B c s r s' ∧ K s') {s : σ}
    (hs : K s) : p.Accounts B s fun a s' => Q a ∧ K s' := by
  induction p generalizing s with
  | done a => exact ⟨h, hs⟩
  | call c k ih =>
    intro r
    obtain ⟨s', hc, hs'⟩ := hB c s r h.1 hs
    exact ⟨s', hc, ih r (h.2 r) hs'⟩

/-- Where each of its calls can leave the account as it is, so can the
program. -/
theorem Stays.accounts_same {P : I.Call → Prop} {p : Proc I α}
    {Q : α → Prop} {s : σ} (h : p.Stays P Q)
    (hB : ∀ c r, P c → B c s r s) :
    p.Accounts B s fun a s' => Q a ∧ s' = s := by
  have kept (c : I.Call) (s' : σ) (r : I.Answer c) (hc : P c)
      (hs : s' = s) : ∃ s'', B c s' r s'' ∧ s'' = s :=
    ⟨s, hs ▸ hB c r hc, rfl⟩
  exact h.accounts kept rfl

/-- What the rules admit is all that the program asks for, and what every
entry keeps holds at its end. -/
theorem Accounts.stays {P : I.Call → Prop} {K : σ → Prop}
    {p : Proc I α} {s : σ} {Q : α → σ → Prop} (h : p.Accounts B s Q)
    (hP : ∀ c s, K s → (∀ r, ∃ s', B c s r s') → P c)
    (hB : ∀ c s r s', K s → B c s r s' → K s') (hs : K s) :
    p.Stays P fun a => ∃ s', K s' ∧ Q a s' := by
  induction p generalizing s with
  | done a => exact ⟨s, hs, h⟩
  | call c k ih =>
    refine ⟨hP c s hs fun r => ?_, fun r => ?_⟩
    · obtain ⟨s', hc, -⟩ := h r
      exact ⟨s', hc⟩
    · obtain ⟨s', hc, h⟩ := h r
      exact ih r h (hB c s r s' hs hc)

-- ====================================================== states of its own

/-- `Accounts` for a program with a state of its own. -/
def Accounted (B : Behaviour I σ) (act : StateT ρ (Proc I) α) (m : ρ)
    (s : σ) (Q : α → ρ → σ → Prop) : Prop :=
  (act.run m).Accounts B s fun x s' => Q x.1 x.2 s'

variable {m : ρ} {s : σ}

/-- An act is `Accounted` for up to where the next one is accounted for
from. -/
@[simp] theorem accounted_bind {act : StateT ρ (Proc I) α}
    {f : α → StateT ρ (Proc I) β} {Q : β → ρ → σ → Prop} :
    Accounted B (act >>= f) m s Q
      ↔ Accounted B act m s fun a m' s' => Accounted B (f a) m' s' Q :=
  accounts_bind

@[simp] theorem accounted_get {Q : ρ → ρ → σ → Prop} :
    Accounted B (get : StateT ρ (Proc I) ρ) m s Q ↔ Q m m s :=
  Iff.rfl

@[simp] theorem accounted_set {m' : ρ} {Q : PUnit → ρ → σ → Prop} :
    Accounted B (set m' : StateT ρ (Proc I) PUnit) m s Q ↔ Q ⟨⟩ m' s :=
  Iff.rfl

/-- A program of calls alone is `Accounted` for as it `Accounts` itself,
with the holder's own state as it was. -/
@[simp] theorem accounted_lift {p : Proc I α} {Q : α → ρ → σ → Prop} :
    Accounted B (StateT.lift p : StateT ρ (Proc I) α) m s Q
      ↔ p.Accounts B s fun a s' => Q a m s' :=
  accounts_bind

@[simp] theorem accounted_monadLift {p : Proc I α}
    {Q : α → ρ → σ → Prop} :
    Accounted B (monadLift p : StateT ρ (Proc I) α) m s Q
      ↔ p.Accounts B s fun a s' => Q a m s' :=
  accounts_bind

/-- An act that cannot fail is `Accounted` for as an attempt that
succeeds. -/
@[simp] theorem accounted_attempt_lift {act : StateT ρ (Proc I) α}
    {Q : Except ε α → ρ → σ → Prop} :
    Accounted B (ExceptT.lift act).run m s Q
      ↔ Accounted B act m s fun a m' s' => Q (.ok a) m' s' := by
  rw [ExceptT.run_lift]
  exact accounts_bind

/-- What is `Accounted` for at the end of an act may be relaxed. -/
theorem Accounted.mono {act : StateT ρ (Proc I) α}
    {Q Q' : α → ρ → σ → Prop} (h : Accounted B act m s Q)
    (hQ : ∀ a m' s', Q a m' s' → Q' a m' s') : Accounted B act m s Q' :=
  Accounts.mono h fun x s' => hQ x.1 x.2 s'

/-- Whatever account is kept of a layer's calls can be kept of the
programs that answer them. -/
theorem Accounts.within {B' : Behaviour J σ}
    {answer : (c : I.Call) → StateT ρ (Proc J) (I.Answer c)}
    (hanswer : ∀ c m s (R : I.Answer c → σ → Prop),
      (∀ r, ∃ s', B c s r s' ∧ R r s') →
      Accounted B' (answer c) m s fun r _ s' => R r s')
    {p : Proc I α} {Q : α → σ → Prop} (h : p.Accounts B s Q) (m : ρ) :
    Accounted B' (p.within answer) m s fun a _ s' => Q a s' := by
  induction p generalizing s m with
  | done a => exact h
  | call c k ih =>
    refine accounted_bind.2 ((hanswer c m s _ h).mono fun r m' s' h => ?_)
    exact ih r h m'

end Uplink.Proc
