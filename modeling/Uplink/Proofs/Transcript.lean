/-
What every transcript of a program shows.

`Records` is about the calls a program makes and the answers it gets, in
order, and about nothing else: whatever the answers are, the condition
holds of the transcript and the value together. It is the statement about
all runs against all behaviours at once (`records_iff`), and like `Meets`
it goes down the tree, so two programs in a row are read one after the
other (`records_bind`).

# Retries

`retry` is where a transcript has no fixed length. What its attempts show
is put one behind the other, with a pause between any two, up to the
attempt that settles the matter, and if none does, there are as many of
them as the budget has (`records_retry_history`).
-/
import Uplink.Proc.Retry
import Uplink.Proofs.Run

namespace Uplink

/-- Surroundings about which nothing is known. -/
def Behaviour.any (I : Interface) : Behaviour I Unit :=
  fun _ _ _ _ => True

namespace Proc

variable {I J : Interface} {ρ σ ε α β : Type}

/-- The condition holds of every transcript and its value. -/
def Records : Proc I α → (List (Event I) → α → Prop) → Prop
  | .done a, Q => Q [] a
  | .call c k, Q => ∀ r, (k r).Records fun t a => Q (⟨c, r⟩ :: t) a

-- ========================================================== composition

@[simp] theorem records_done {a : α} {Q : List (Event I) → α → Prop} :
    (Proc.done a : Proc I α).Records Q ↔ Q [] a :=
  Iff.rfl

theorem records_call {c : I.Call} {k : I.Answer c → Proc I α}
    {Q : List (Event I) → α → Prop} :
    (Proc.call c k).Records Q
      ↔ ∀ r, (k r).Records fun t a => Q (⟨c, r⟩ :: t) a :=
  Iff.rfl

/-- What one call `Records` is the call with whatever it is answered. -/
@[simp] theorem records_ask {c : I.Call}
    {Q : List (Event I) → I.Answer c → Prop} :
    (ask c).Records Q ↔ ∀ r, Q [⟨c, r⟩] r :=
  Iff.rfl

/-- Two programs in a row show the transcript of the first and then that of
the second. -/
@[simp] theorem records_bind {p : Proc I α} {f : α → Proc I β}
    {Q : List (Event I) → β → Prop} :
    (p >>= f).Records Q
      ↔ p.Records fun t a => (f a).Records fun t' b => Q (t ++ t') b := by
  induction p generalizing Q with
  | done a => rfl
  | call c k ih =>
    rw [call_bind, records_call, records_call]
    constructor
    · intro h r
      exact (ih r).1 (h r)
    · intro h r
      exact (ih r).2 (h r)

/-- A condition on all transcripts of a program may be relaxed. -/
theorem Records.mono {p : Proc I α} {Q Q' : List (Event I) → α → Prop}
    (h : p.Records Q) (hQ : ∀ t a, Q t a → Q' t a) : p.Records Q' := by
  induction p generalizing Q Q' with
  | done a => exact hQ [] a h
  | call c k ih =>
    intro r
    exact ih r (h r) fun t a => hQ (⟨c, r⟩ :: t) a

/-- Two conditions that a program `Records` hold together of every
transcript. -/
theorem Records.and {p : Proc I α} {Q Q' : List (Event I) → α → Prop}
    (h : p.Records Q) (h' : p.Records Q') :
    p.Records fun t a => Q t a ∧ Q' t a := by
  induction p generalizing Q Q' with
  | done a => exact ⟨h, h'⟩
  | call c k ih => exact fun r => ih r (h r) (h' r)

-- ================================================================== runs

/-- A run is one of the transcripts. -/
theorem Records.of_runs {B : Behaviour I σ} {p : Proc I α}
    {Q : List (Event I) → α → Prop} (h : p.Records Q) {s s' : σ}
    {t : List (Event I)} {a : α} (hr : Runs B p s t a s') : Q t a := by
  induction hr generalizing Q with
  | done => exact h
  | call _ _ ih => exact ih (h _)

/-- Where some answers are taken from a sequence, one after the other, the
transcript shows that stretch of it. -/
theorem Runs.in_turn {τ : Type} {B : Behaviour I σ} {p : Proc I α}
    {s s' : σ} {t : List (Event I)} {a : α} (h : Runs B p s t a s')
    (place : σ → Nat) (seq : Nat → τ) (pick : Event I → Option τ)
    (hB : ∀ c s r s', B c s r s' →
      (pick ⟨c, r⟩ = some (seq (place s)) ∧ place s' = place s + 1)
        ∨ (pick ⟨c, r⟩ = none ∧ place s' = place s)) :
    t.filterMap pick
        = (List.range' (place s) (t.filterMap pick).length).map seq
      ∧ place s' = place s + (t.filterMap pick).length := by
  induction h with
  | done a s => exact ⟨rfl, rfl⟩
  | call hr _ ih =>
    obtain ⟨hseq, hplace⟩ := ih
    rcases hB _ _ _ _ hr with ⟨hpick, hnext⟩ | ⟨hpick, hsame⟩
    · rw [hnext] at hseq hplace
      rw [List.filterMap_cons_some hpick, List.length_cons,
        List.range'_succ, List.map_cons, ← hseq]
      exact ⟨rfl, hplace.trans (Nat.add_right_comm _ _ _)⟩
    · rw [hsame] at hseq hplace
      rw [List.filterMap_cons_none hpick]
      exact ⟨hseq, hplace⟩

/-- Every transcript is that of a run. -/
theorem records_runs (p : Proc I α) :
    p.Records fun t a => Runs (Behaviour.any I) p () t a () := by
  induction p with
  | done a => exact .done a ()
  | call c k ih =>
    intro r
    exact (ih r).mono fun t a h => .call trivial h

/-- A condition that a program `Records` is one that holds of each of its
runs, whatever the surroundings are. -/
theorem records_iff {p : Proc I α} {Q : List (Event I) → α → Prop} :
    p.Records Q ↔ ∀ t a, Runs (Behaviour.any I) p () t a () → Q t a :=
  ⟨fun h _ _ hr => h.of_runs hr, fun h => (records_runs p).mono h⟩

/-- What a program stays within is all that its transcripts show. -/
theorem Stays.records {P : I.Call → Prop} {p : Proc I α} {Q : α → Prop}
    (h : p.Stays P Q) :
    p.Records fun t a => (∀ e ∈ t, P e.call) ∧ Q a := by
  induction p with
  | done a => exact ⟨nofun, h⟩
  | call c k ih =>
    intro r
    refine (ih r (h.2 r)).mono fun t a ht => ⟨fun e he => ?_, ht.2⟩
    rcases List.mem_cons.1 he with rfl | he
    · exact h.1
    · exact ht.1 e he

/-- What holds of every value is what every program that makes these calls
may end with. -/
theorem Records.stays {p : Proc I α} {Q : α → Prop}
    (h : p.Records fun _ a => Q a) : p.Stays (fun _ => True) Q := by
  induction p with
  | done a => exact h
  | call c k ih => exact ⟨trivial, fun r => ih r (h r)⟩

-- ====================================================== states of its own

/-- `Records` for a program with a state of its own. -/
def Shows (act : StateT ρ (Proc I) α) (m : ρ)
    (Q : List (Event I) → α → ρ → Prop) : Prop :=
  (act.run m).Records fun t x => Q t x.1 x.2

variable {m : ρ}

@[simp] theorem shows_pure {a : α} {Q : List (Event I) → α → ρ → Prop} :
    Shows (pure a) m Q ↔ Q [] a m :=
  Iff.rfl

/-- What an act `Shows` it shows before what follows it, which starts from
the state the act leaves behind. -/
@[simp] theorem shows_bind {act : StateT ρ (Proc I) α}
    {f : α → StateT ρ (Proc I) β} {Q : List (Event I) → β → ρ → Prop} :
    Shows (act >>= f) m Q
      ↔ Shows act m fun t a m' =>
          Shows (f a) m' fun t' b m'' => Q (t ++ t') b m'' :=
  records_bind

@[simp] theorem shows_get {Q : List (Event I) → ρ → ρ → Prop} :
    Shows (get : StateT ρ (Proc I) ρ) m Q ↔ Q [] m m :=
  Iff.rfl

@[simp] theorem shows_set {m' : ρ}
    {Q : List (Event I) → PUnit → ρ → Prop} :
    Shows (set m' : StateT ρ (Proc I) PUnit) m Q ↔ Q [] ⟨⟩ m' :=
  Iff.rfl

@[simp] theorem shows_modify {f : ρ → ρ}
    {Q : List (Event I) → PUnit → ρ → Prop} :
    Shows (modify f : StateT ρ (Proc I) PUnit) m Q ↔ Q [] ⟨⟩ (f m) :=
  Iff.rfl

/-- A program without a state of its own leaves the state alone, and shows
what it `Records`. -/
@[simp] theorem shows_lift {p : Proc I α}
    {Q : List (Event I) → α → ρ → Prop} :
    Shows (StateT.lift p : StateT ρ (Proc I) α) m Q
      ↔ p.Records fun t a => Q t a m := by
  unfold Shows
  show (p >>= fun a => pure (a, m)).Records _ ↔ _
  rw [records_bind]
  simp

/-- One call, and what comes after it. -/
theorem shows_call {c : I.Call} {f : I.Answer c → StateT ρ (Proc I) β}
    {Q : List (Event I) → β → ρ → Prop} :
    Shows (StateT.lift (ask c) >>= f) m Q
      ↔ ∀ r, Shows (f r) m fun t => Q (⟨c, r⟩ :: t) := by
  rw [shows_bind, shows_lift, records_ask]
  rfl

/-- A condition on what an act `Shows` may be relaxed. -/
theorem Shows.mono {act : StateT ρ (Proc I) α}
    {Q Q' : List (Event I) → α → ρ → Prop} (h : Shows act m Q)
    (hQ : ∀ t a m', Q t a m' → Q' t a m') : Shows act m Q' :=
  Records.mono h fun t x => hQ t x.1 x.2

/-- Two conditions on what an act `Shows` hold together. -/
theorem Shows.and {act : StateT ρ (Proc I) α}
    {Q Q' : List (Event I) → α → ρ → Prop} (h : Shows act m Q)
    (h' : Shows act m Q') :
    Shows act m fun t a m' => Q t a m' ∧ Q' t a m' :=
  Records.and h h'

/-- What an act `Shows` is to be seen in each of its runs. -/
theorem Shows.of_runs {B : Behaviour I σ} {act : StateT ρ (Proc I) α}
    {Q : List (Event I) → α → ρ → Prop} (h : Shows act m Q) {s s' : σ}
    {t : List (Event I)} {a : α} {m' : ρ}
    (hr : Runs B (act.run m) s t (a, m') s') : Q t a m' :=
  Records.of_runs h hr

/-- Where the first part fails, it alone shows something, and its error is
that of both; where it succeeds, the second part follows. -/
@[simp] theorem shows_attempt_bind
    {act : ExceptT ε (StateT ρ (Proc I)) α}
    {f : α → ExceptT ε (StateT ρ (Proc I)) β}
    {Q : List (Event I) → Except ε β → ρ → Prop} :
    Shows (act >>= f).run m Q
      ↔ Shows act.run m fun t r m' =>
          match r with
          | .ok a => Shows (f a).run m' fun t' => Q (t ++ t')
          | .error e => Q t (.error e) m' := by
  rw [ExceptT.run_bind, shows_bind]
  constructor
  · intro h
    refine h.mono fun t r m' hr => ?_
    cases r with
    | ok a => exact hr
    | error e => exact (List.append_nil t) ▸ hr
  · intro h
    refine h.mono fun t r m' hr => ?_
    cases r with
    | ok a => exact hr
    | error e => exact shows_pure.2 ((List.append_nil t).symm ▸ hr)

/-- An act that cannot fail `Shows` as an attempt what it shows by itself,
and succeeds. -/
@[simp] theorem shows_attempt_lift {act : StateT ρ (Proc I) α}
    {Q : List (Event I) → Except ε α → ρ → Prop} :
    Shows (ExceptT.lift act).run m Q
      ↔ Shows act m fun t a m' => Q t (.ok a) m' := by
  rw [ExceptT.run_lift]
  show Shows (act >>= fun a => pure (.ok a)) m Q ↔ _
  rw [shows_bind]
  simp

/-- What the first part makes sure to ask for, both parts do. -/
theorem Shows.first {P : Event I → Prop} {act : StateT ρ (Proc I) α}
    (h : Shows act m fun t _ _ => ∃ e ∈ t, P e)
    (f : α → StateT ρ (Proc I) β) :
    Shows (act >>= f) m fun t _ _ => ∃ e ∈ t, P e := by
  refine shows_bind.2 (h.mono fun t a m' ht => ?_)
  obtain ⟨e, he, hp⟩ := ht
  exact (records_runs _).mono fun t' _ _ =>
    ⟨e, List.mem_append_left t' he, hp⟩

/-- What the second part makes sure to ask for, both parts do. -/
theorem Shows.second {P : Event I → Prop} {f : α → StateT ρ (Proc I) β}
    (h : ∀ a m, Shows (f a) m fun t _ _ => ∃ e ∈ t, P e)
    (act : StateT ρ (Proc I) α) :
    Shows (act >>= f) m fun t _ _ => ∃ e ∈ t, P e := by
  refine shows_bind.2 ((records_runs (act.run m)).mono fun t x _ => ?_)
  refine (h x.1 x.2).mono fun t' _ _ ht => ?_
  obtain ⟨e, he, hp⟩ := ht
  exact ⟨e, List.mem_append_right t he, hp⟩

-- =============================================================== retries

/-- The attempts of `retry` one by one: calls count if `counts` says so,
each attempt shows some events, each pause another, and the attempts
before the last one settled nothing. If the last one settles nothing either, there was one
for each of the budget. What is known goes by the attempts so far, those
in `seen` among them. -/
theorem records_retry_history {τ : Type} (counts : I.Call → Bool)
    (shows : τ → List (Event I)) (gap : Event I) (settles : τ → Option α)
    (inv : List τ → σ → Prop) {pause : Nat → Proc I Unit}
    {attempt : Nat → σ → Proc I (Except σ α)}
    (hattempt : ∀ number known seen, inv seen known →
      (attempt number known).Records fun t r =>
        ∃ y, t.filter (counts ·.call) = shows y
          ∧ settles y = r.toOption
          ∧ ∀ known', r = .error known' → inv (seen ++ [y]) known')
    (hpause : ∀ number, (pause number).Records fun t _ =>
      t.filter (counts ·.call) = [gap])
    (left number : Nat) (known : σ) (seen : List τ)
    (hknown : inv seen known) :
    (retry pause attempt (left + 1) number known).Records fun t r =>
      ∃ (earlier : List τ) (last : τ),
        t.filter (counts ·.call)
            = (earlier.flatMap fun y => shows y ++ [gap]) ++ shows last
          ∧ (∀ y ∈ earlier, settles y = none)
          ∧ settles last = r.toOption ∧ earlier.length ≤ left
          ∧ (settles last = none → earlier.length = left)
          ∧ ∀ known', r = .error known' →
              inv (seen ++ (earlier ++ [last])) known' := by
  -- by induction on the tries that are left; the invariant carries what
  -- is known over the failed ones
  induction left generalizing number known seen with
  | zero =>
    refine (hattempt number known seen hknown).mono fun t r h => ?_
    obtain ⟨y, ht, hr, hinv⟩ := h
    exact ⟨[], y, ht, nofun, hr, Nat.le_refl 0, fun _ => rfl, hinv⟩
  | succ left ih =>
    refine records_bind.2
      ((hattempt number known seen hknown).mono fun t r h => ?_)
    obtain ⟨y, ht, hr, hinv⟩ := h
    cases r with
    | ok a =>
      refine records_done.2 ⟨[], y, ?_, nofun, hr, Nat.zero_le _, ?_,
        nofun⟩
      · rw [List.append_nil]
        exact ht
      · intro hn
        cases hr.symm.trans hn
    | error known =>
      refine records_bind.2 ((hpause number).mono fun t' _ hp => ?_)
      refine (ih (number + 1) known (seen ++ [y]) (hinv known rfl)).mono
        fun t'' r h => ?_
      obtain ⟨earlier, last, ht'', hnone, hlast, hle, hall, hinv'⟩ := h
      refine ⟨y :: earlier, last, ?_, ?_, hlast, Nat.succ_le_succ hle,
        fun hn => congrArg (· + 1) (hall hn), fun known' hr' => ?_⟩
      · rw [List.filter_append, List.filter_append, ht, hp, ht'',
          List.flatMap_cons]
        simp only [List.append_assoc]
      · exact List.forall_mem_cons.2 ⟨hr, hnone⟩
      · rw [List.cons_append, List.append_cons]
        exact hinv' known' hr'

/-- The same where nothing is said of what is known. -/
theorem records_retry_spaced {τ : Type} (counts : I.Call → Bool)
    (shows : τ → List (Event I)) (gap : Event I) (settles : τ → Option α)
    {pause : Nat → Proc I Unit}
    {attempt : Nat → σ → Proc I (Except σ α)}
    (hattempt : ∀ number known, (attempt number known).Records fun t r =>
      ∃ y, t.filter (counts ·.call) = shows y
        ∧ settles y = r.toOption)
    (hpause : ∀ number, (pause number).Records fun t _ =>
      t.filter (counts ·.call) = [gap])
    (left number : Nat) (known : σ) :
    (retry pause attempt (left + 1) number known).Records fun t r =>
      ∃ (earlier : List τ) (last : τ),
        t.filter (counts ·.call)
            = (earlier.flatMap fun y => shows y ++ [gap]) ++ shows last
          ∧ (∀ y ∈ earlier, settles y = none)
          ∧ settles last = r.toOption ∧ earlier.length ≤ left
          ∧ (settles last = none → earlier.length = left) := by
  have unconcerned (number : Nat) (known : σ) (seen : List τ)
      (_ : True) : (attempt number known).Records fun t r =>
        ∃ y, t.filter (counts ·.call) = shows y
          ∧ settles y = r.toOption
          ∧ ∀ known', r = .error known' → True :=
    (hattempt number known).mono fun t r ⟨y, ht, hr⟩ =>
      ⟨y, ht, hr, fun _ _ => trivial⟩
  refine (records_retry_history counts shows gap settles
    (fun _ _ => True) unconcerned hpause left number known []
    trivial).mono fun t r h => ?_
  obtain ⟨earlier, last, ht, hnone, hlast, hle, hall, -⟩ := h
  exact ⟨earlier, last, ht, hnone, hlast, hle, hall⟩

end Proc

end Uplink
