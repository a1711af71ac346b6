/-
How the modem is reset when its control lines fail.

# Pulses

A pulse is four edges in a fixed order (`edges`). It stops at the first
that fails, so all there is to say of a pulse is how many of its edges
worked (`pulseShows`). A reset repeats it until one is complete, three
times at most (`Tries`). The reset is over then, and the modem is given
its time to boot, whatever the control lines did.

# Set-ups

Which calls on the control lines fail is given as a pattern over all of
them, in order, and the other answers are given by a function that learns
nothing of the control lines and of the time (`faulty`). The reset itself
leaves nothing behind (`run_hardwareReset`), so whatever the pattern is,
the set-up comes to what it would come to with lines that work
(`setUp_reset`).
-/
import Uplink.Proofs.Gsm.Reports
import Uplink.Proofs.Gsm.Steps
import Uplink.Proofs.Pairs
import Uplink.Proofs.Transcript

namespace Uplink.Gsm

open Proc (Records Shows records_ask records_runs shows_attempt_bind
  shows_attempt_lift shows_bind shows_call shows_get shows_lift shows_modify
  shows_pure settle settle_bind_of settle_get)

variable {σ : Type} {m : Manager} {fails : Nat → Bool}
variable {rest : (c : GsmCall) → σ → c.Answer × σ} {s : σ}

/-- The call drives a control line. -/
def GsmCall.drives : GsmCall → Bool
  | drive .. => true
  | _ => false

/-- The call drives this control line. -/
def GsmCall.isOn (pin : Pin) : GsmCall → Bool
  | drive pin' _ => pin' = pin
  | _ => false

/-- To build the parts drives no control line. -/
theorem GsmCall.drives_of_builds {c : GsmCall} (h : Manager.builds c) :
    c.drives = false := by
  rcases h with h | ⟨call, rfl⟩ | ⟨uart, rfl⟩
  · cases c with
    | drive => cases h
    | _ => rfl
  · rfl
  · rfl

namespace Manager

-- ================================================================= pulses

/-- An edge of a pulse. -/
structure Edge where
  pin : Pin
  high : Bool
  /-- the pause after it -/
  hold : Option Nat

/-- The edges of a pulse, in order. -/
def edges : List Edge :=
  [⟨.power, false, some 100⟩, ⟨.power, true, some 1000⟩,
   ⟨.reset, false, some 200⟩, ⟨.reset, true, none⟩]

/-- An edge that works. -/
def Edge.works (e : Edge) : List (Event Surroundings) :=
  ⟨.drive e.pin e.high, .ok ()⟩
    :: e.hold.toList.map fun ms => ⟨.modem (.pause ms), ()⟩

/-- An edge that fails. -/
def Edge.breaks (e : Edge) : Event Surroundings :=
  ⟨.drive e.pin e.high, .error .fault⟩

/-- A pulse of which so many edges work. The next one, if there is one
left, fails. -/
def pulseShows (worked : Nat) : List (Event Surroundings) :=
  (edges.take worked).flatMap Edge.works
    ++ edges[worked]?.toList.map Edge.breaks

/-- A control line that is driven works, and the pulse goes on, or it
fails, and the pulse is over. -/
theorem shows_drive {pin : Pin} {high : Bool}
    {f : Unit → ExceptT PinFault Act Unit}
    {Q : List (Event Surroundings) → Except PinFault Unit → Manager → Prop}
    (hok : Shows (f ()).run m fun t =>
      Q (⟨.drive pin high, .ok ()⟩ :: t))
    (herror : Q [⟨.drive pin high, .error .fault⟩] (.error .fault) m) :
    Shows (ExceptT.mk (ask (.drive pin high)) >>= f).run m Q := by
  refine shows_attempt_bind.2 (shows_lift.2 fun r => ?_)
  rcases r with ⟨⟨⟩⟩ | ⟨⟩
  · exact herror
  · exact hok

/-- A pulse goes on after it has held its level. -/
theorem shows_hold {ms : Nat} {f : Unit → ExceptT PinFault Act Unit}
    {Q : List (Event Surroundings) → Except PinFault Unit → Manager → Prop}
    (h : Shows (f ()).run m fun t =>
      Q (⟨.modem (.pause ms), ()⟩ :: t)) :
    Shows ((liftM (pause ms) : ExceptT PinFault Act Unit) >>= f).run m Q :=
  shows_attempt_bind.2 (shows_attempt_lift.2 (shows_lift.2 fun _ => h))

/-- A `pulse` succeeds exactly if all of its edges work. -/
theorem shows_pulse (m : Manager) :
    Shows pulse m fun t r m' => m' = m
      ∧ ∃ worked ≤ 4, t = pulseShows worked
        ∧ r = if worked = 4 then .ok () else .error .fault := by
  unfold pulse
  refine shows_drive (shows_hold (shows_drive (shows_hold (shows_drive
    (shows_hold ?_) ?_)) ?_)) ?_
  · refine shows_lift.2 fun r => ?_
    rcases r with ⟨⟨⟩⟩ | ⟨⟩
    · exact ⟨rfl, 3, by decide, rfl, rfl⟩
    · exact ⟨rfl, 4, by decide, rfl, rfl⟩
  · exact ⟨rfl, 2, by decide, rfl, rfl⟩
  · exact ⟨rfl, 1, by decide, rfl, rfl⟩
  · exact ⟨rfl, 0, by decide, rfl, rfl⟩

-- ================================================================= resets

/-- So many pulses at most, up to the first that is complete. Of each it
is said how many of its edges worked. -/
inductive Tries : Nat → List Nat → Prop
  | spent : Tries 0 []
  | complete {left : Nat} : Tries (left + 1) [4]
  | again {left worked : Nat} {later : List Nat} :
      worked < 4 → Tries left later → Tries (left + 1) (worked :: later)

/-- Nothing is logged during a pulse. -/
theorem unlogged_pulseShows {worked : Nat} (h : worked ≤ 4) :
    unlogged (pulseShows worked) = pulseShows worked :=
  match worked, h with
  | 0, _ | 1, _ | 2, _ | 3, _ | 4, _ => rfl

/-- Pulses are made as `Tries` says, and each shows its edges and no
others. -/
theorem shows_pulseUntilComplete (left number : Nat) (m : Manager) :
    Shows (pulseUntilComplete left number) m fun t _ m' => m' = m
      ∧ ∃ tried, Tries left tried
        ∧ unlogged t = tried.flatMap pulseShows := by
  induction left generalizing number m with
  | zero => exact shows_pure.2 ⟨rfl, [], .spent, rfl⟩
  | succ left ih =>
    refine shows_bind.2 ((shows_pulse m).mono fun t r m' h => ?_)
    obtain ⟨rfl, worked, hle, rfl, rfl⟩ := h
    by_cases hw : worked = 4
    · subst hw
      exact shows_pure.2 ⟨rfl, [4], .complete, rfl⟩
    · have next (line : Line) :
          Shows (log line >>= fun _ => pulseUntilComplete left (number + 1))
            m' fun t' _ m'' => m'' = m'
              ∧ ∃ tried, Tries (left + 1) tried
                ∧ unlogged (pulseShows worked ++ t')
                  = tried.flatMap pulseShows := by
        refine shows_call.2 fun _ => (ih _ m').mono fun t' _ m'' h => ?_
        obtain ⟨hm, tried, htried, ht'⟩ := h
        refine ⟨hm, worked :: tried, .again (by omega) htried, ?_⟩
        rw [unlogged_append, unlogged_pulseShows hle, List.flatMap_cons,
          ← ht']
        rfl
      rw [if_neg hw]
      dsimp only
      split
      · exact next _
      · exact next _

/-- The `hardwareReset` ends with the time to boot. -/
theorem shows_hardwareReset (m : Manager) :
    Shows hardwareReset m fun t _ m' =>
      m' = { m with recorded := .hardwareReset }
        ∧ ∃ tried, Tries 3 tried
          ∧ unlogged t = tried.flatMap pulseShows
            ++ [⟨.modem (.pause 5000), ()⟩] := by
  unfold hardwareReset
  refine shows_bind.2 (shows_modify.2 (shows_call.2 fun _ => ?_))
  refine shows_bind.2 ((shows_pulseUntilComplete _ _ _).mono
    fun t _ m' h => ?_)
  obtain ⟨rfl, tried, htried, ht⟩ := h
  refine shows_lift.2 fun _ => ⟨rfl, tried, htried, ?_⟩
  show unlogged ([⟨.modem (.log _), ()⟩] ++ (t ++ _)) = _
  rw [unlogged_append, unlogged_append, ht]
  rfl

-- ================================================================ set-ups

/-- A set-up begins with the interface, and drives no control line. -/
theorem shows_creation (m : Manager) :
    Shows build m fun t _ _ => ∃ created later,
      t = ⟨.netif .create, created⟩ :: later
        ∧ ∀ e ∈ later, e.call.drives = false := by
  have first : Shows build m fun t _ _ => ∃ created later,
      t = ⟨.netif .create, created⟩ :: later := by
    unfold build
    refine shows_bind.2 (shows_get.2 (shows_call.2 fun created => ?_))
    exact (records_runs _).mono fun t _ _ => ⟨created, t, rfl⟩
  have undriven : Shows build m fun t _ _ =>
      ∀ e ∈ t, e.call.drives = false := by
    exact (spares_build unmoved_unit m).records.mono fun t _ ht e he =>
      GsmCall.drives_of_builds (ht.1 e he).1
  refine (first.and undriven).mono fun t _ _ h => ?_
  obtain ⟨⟨created, later, rfl⟩, hlater⟩ := h
  exact ⟨created, later, rfl, fun e he =>
    hlater e (List.mem_cons_of_mem _ he)⟩

/-- What a set-up (`init`) does first, if there is something to set up. -/
theorem shows_setUp (hm : m.active = false) :
    Shows init m fun t _ _ => ∃ tried created later, Tries 3 tried
      ∧ unlogged t = tried.flatMap pulseShows
        ++ ⟨.modem (.pause 5000), ()⟩ :: ⟨.record .resetEvents, ()⟩
          :: ⟨.netif .create, created⟩ :: later
      ∧ ∀ e ∈ later, e.call.drives = false := by
  unfold init
  refine shows_bind.2 (shows_get.2 ?_)
  rw [if_neg (Bool.eq_false_iff.1 hm)]
  refine shows_call.2 fun _ => shows_bind.2 ((shows_hardwareReset m).mono
    fun t _ m' h => ?_)
  obtain ⟨-, tried, htried, ht⟩ := h
  refine shows_call.2 fun _ => (shows_creation m').mono fun t' _ _ h => ?_
  obtain ⟨created, later, rfl, hlater⟩ := h
  refine ⟨tried, created, unlogged later, htried, ?_, fun e he =>
    hlater e (List.mem_filter.1 he).1⟩
  show unlogged ([⟨.modem (.log _), ()⟩] ++ (t ++ _)) = _
  rw [unlogged_append, unlogged_append, ht, List.append_assoc]
  rfl

-- ================================================= control lines that fail

/-- The log and the time that passes do not matter to the rest. -/
def steady (rest : (c : GsmCall) → σ → c.Answer × σ) :
    (c : GsmCall) → σ → c.Answer × σ
  | .modem (.log _), s => ((), s)
  | .modem (.pause _), s => ((), s)
  | c, s => rest c s

/-- The calls on the control lines fail by a pattern, in their order. They
do not matter to the rest. -/
def faulty (fails : Nat → Bool) (rest : (c : GsmCall) → σ → c.Answer × σ) :
    (c : GsmCall) → Nat × σ → c.Answer × Nat × σ
  | .drive _ _, (n, s) =>
    (if fails n then .error .fault else .ok (), n + 1, s)
  | c, (n, s) =>
    let (r, s) := steady rest c s
    (r, n, s)

/-- What drives no control line does not see them fail. -/
theorem run_faulty {α : Type} {p : Proc Surroundings α}
    (hp : p.Asks fun c : GsmCall => c.drives = false) (n : Nat) (s : σ) :
    p.run (faulty fails rest) (n, s)
      = ((p.run (steady rest) s).1, n, (p.run (steady rest) s).2) := by
  induction p generalizing s with
  | done a => rfl
  | call c k ih =>
    have hc : faulty fails rest c (n, s)
        = ((steady rest c s).1, n, (steady rest c s).2) := by
      have hc := hp.1
      cases c with
      | drive => cases hc
      | _ => rfl
    rw [Proc.run_call, Proc.run_call, hc]
    exact ih _ (hp.2 _) _

/-- A `hardwareReset` leaves nothing behind but what the manager records of
it. -/
theorem settle_hardwareReset (fails : Nat → Bool)
    (rest : (c : GsmCall) → σ → c.Answer × σ) (m : Manager) (n : Nat)
    (s : σ) :
    ∃ n', settle (faulty fails rest) hardwareReset (m, n, s)
      = ((), { m with recorded := .hardwareReset }, n', s) := by
  have kept (c : GsmCall) (x : Nat × σ) (hc : resets c) (hx : x.2 = s) :
      (faulty fails rest c x).2.2 = s := by
    rcases hc with hc | ⟨pin, high, rfl⟩
    · cases c with
      | modem call =>
        cases call with
        | pause | log => exact hx
        | _ => cases hc
      | _ => cases hc
    · exact hx
  obtain ⟨hm, hs⟩ := Proc.Stays.run (stays_hardwareReset m)
    (f := faulty fails rest) (J := fun x => x.2 = s) kept (x := (n, s)) rfl
  exact ⟨_, Prod.ext rfl (Prod.ext hm (Prod.ext rfl hs))⟩

/-- What a set-up goes on with after the reset. -/
def afterReset : Act (Except GsmError Unit) := do
  ask (.record .resetEvents)
  build

/-- After the reset no control line is driven. -/
theorem undriven_afterReset (m : Manager) :
    (afterReset.run m).Asks fun c : GsmCall => c.drives = false := by
  have forget : Spares (fun _ => ()) (fun c : GsmCall => c.drives = false)
      (ask (.record .resetEvents)) := passive_ask rfl
  have h := forget.bind fun _ => (spares_build unmoved_unit).mono
    fun _ hc => GsmCall.drives_of_builds hc.1
  exact (h m).mono (fun _ hc => hc) fun _ _ => trivial

/-- What a set-up comes to where nothing is made of the control lines. -/
def outcome (rest : (c : GsmCall) → σ → c.Answer × σ) (m : Manager)
    (s : σ) : Except GsmError Unit × Manager × σ :=
  if m.active then (.ok (), m, s)
  else settle (steady rest) afterReset
    ({ m with recorded := .hardwareReset }, s)

/-- Whatever the control lines fail by, a set-up comes to the `outcome`
that makes nothing of them: in its result, in the manager, and in the rest
of the surroundings. -/
theorem settle_init (fails : Nat → Bool)
    (rest : (c : GsmCall) → σ → c.Answer × σ) (m : Manager) (s : σ) :
    ∃ n, settle (faulty fails rest) init (m, 0, s)
      = ((outcome rest m s).1, (outcome rest m s).2.1, n,
        (outcome rest m s).2.2) := by
  unfold init outcome
  rw [settle_get]
  by_cases hm : m.active
  · exact ⟨0, by rw [if_pos hm, if_pos hm]; rfl⟩
  · obtain ⟨n, hreset⟩ := settle_hardwareReset fails rest m 0 s
    refine ⟨n, ?_⟩
    rw [if_neg hm, if_neg hm]
    show settle (faulty fails rest)
      (hardwareReset >>= fun _ => afterReset) (m, 0, s) = _
    rw [settle_bind_of hreset]
    unfold settle
    rw [run_faulty (undriven_afterReset _)]

-- ============================================================== all of it

/-- Whether a call on a control line failed. -/
def failed? : Event Surroundings → Option Bool
  | ⟨.drive _ _, .ok _⟩ => some false
  | ⟨.drive _ _, .error _⟩ => some true
  | _ => none

/-- A set-up with these pulses. Of each it is said how many of its edges
worked. -/
structure Pulsed (fails : Nat → Bool) (tried : List Nat)
    (t : List (Event Surroundings)) : Prop where
  /-- the calls on the control lines failed by the pattern -/
  pattern : ∃ n, t.filterMap failed? = (List.range n).map fails
  /-- the pulses come first, then the time to boot, then the interface -/
  course : ∃ created later,
    unlogged t = tried.flatMap pulseShows
      ++ ⟨.modem (.pause 5000), ()⟩ :: ⟨.record .resetEvents, ()⟩
        :: ⟨.netif .create, created⟩ :: later
    ∧ ∀ e ∈ later, e.call.drives = false
  within : ∀ worked ∈ tried, worked ≤ 4
  /-- the last pulse is the first one that is complete, or the third -/
  count : tried.length = min (tried.findIdx (· = 4) + 1) 3
  /-- a complete pulse leaves both lines high -/
  levels : 4 ∈ tried → ∀ pin,
    (t.filter (·.call.isOn pin)).getLast? = some ⟨.drive pin true, .ok ()⟩

/-- No pulse has more than four edges. -/
theorem Tries.le_four {left : Nat} {tried : List Nat}
    (h : Tries left tried) : ∀ worked ∈ tried, worked ≤ 4 := by
  induction h with
  | spent => nofun
  | complete => simp
  | again hw _ ih => exact List.forall_mem_cons.2 ⟨Nat.le_of_lt hw, ih⟩

/-- Pulses are made up to the first that is complete, or until none is
left. -/
theorem Tries.length_eq {left : Nat} {tried : List Nat}
    (h : Tries left tried) :
    tried.length = min (tried.findIdx (· = 4) + 1) left := by
  induction h with
  | spent => simp
  | complete => simp
  | again hw _ ih =>
    rw [List.length_cons, List.findIdx_cons, ih]
    simp only [Nat.ne_of_lt hw, decide_false, cond_false]
    omega

/-- A complete pulse is the last one. -/
theorem Tries.eq_append {left : Nat} {tried : List Nat}
    (h : Tries left tried) (h4 : 4 ∈ tried) :
    ∃ earlier, tried = earlier ++ [4] := by
  induction h with
  | spent => cases h4
  | complete => exact ⟨[], rfl⟩
  | again hw _ ih =>
    rcases List.mem_cons.1 h4 with rfl | h4
    · exact absurd hw (Nat.lt_irrefl 4)
    · obtain ⟨earlier, rfl⟩ := ih h4
      exact ⟨_ :: earlier, rfl⟩

/-- The edges of a complete pulse are the last calls on both control lines,
and leave them high. -/
theorem levels_of_course {tried : List Nat} (htried : Tries 3 tried)
    (h4 : 4 ∈ tried) {t later : List (Event Surroundings)}
    (ht : unlogged t = tried.flatMap pulseShows ++ later)
    (hlater : ∀ e ∈ later, e.call.drives = false) (pin : Pin) :
    (t.filter (·.call.isOn pin)).getLast?
      = some ⟨.drive pin true, .ok ()⟩ := by
  obtain ⟨earlier, rfl⟩ := htried.eq_append h4
  have hlog : (unlogged t).filter (·.call.isOn pin)
      = t.filter (·.call.isOn pin) := by
    unfold unlogged
    rw [List.filter_filter]
    refine List.filter_congr fun e _ => ?_
    obtain ⟨c, r⟩ := e
    cases c with
    | modem call => rfl
    | _ => exact Bool.and_true _
  have hnone : later.filter (·.call.isOn pin) = [] := by
    refine List.filter_eq_nil_iff.2 fun e he => ?_
    have he := hlater e he
    obtain ⟨c, r⟩ := e
    cases c with
    | drive => cases he
    | _ => exact Bool.false_ne_true
  rw [← hlog, ht, List.filter_append, hnone, List.append_nil,
    List.flatMap_append, List.filter_append]
  rw [List.getLast?_append]
  cases pin <;> rfl

/-- A call on a control line takes its turn in the pattern. -/
theorem faulty_in_turn (c : GsmCall) (x : Nat × σ) (r : c.Answer)
    (x' : Nat × σ)
    (h : Behaviour.of (I := Surroundings) (faulty fails rest) c x r x') :
    (failed? ⟨c, r⟩ = some (fails x.1) ∧ x'.1 = x.1 + 1)
      ∨ (failed? ⟨c, r⟩ = none ∧ x'.1 = x.1) := by
  cases c with
  | drive pin high =>
    obtain ⟨n, s⟩ := x
    cases h
    refine .inl ⟨?_, rfl⟩
    cases fails n <;> rfl
  | _ =>
    cases h
    exact .inr ⟨rfl, rfl⟩

/-- A set-up of an inactive manager shows its pulses as `Pulsed` lists
them, from whatever pattern the control lines fail by. -/
theorem pulsed_of_runs {m' : Manager} {x x' : Nat × σ}
    {r : Except GsmError Unit} {t : List (Event Surroundings)}
    (hm : m.active = false)
    (h : Proc.Runs (.of (faulty fails rest)) (init.run m) x t (r, m') x')
    (hx : x.1 = 0) : ∃ tried, Pulsed fails tried t := by
  obtain ⟨tried, created, later, htried, ht, hlater⟩ :=
    (shows_setUp hm).of_runs h
  have hturn := (h.in_turn Prod.fst fails failed? faulty_in_turn).1
  rw [hx, ← List.range_eq_range'] at hturn
  refine ⟨tried, ⟨_, hturn⟩, ⟨created, later, ht, hlater⟩,
    htried.le_four, htried.length_eq, fun h4 pin => ?_⟩
  refine levels_of_course htried h4 ht ?_ pin
  simpa [GsmCall.drives] using hlater

/-- Whichever calls on the control lines fail, `init` comes to what it
comes to where none does, and pulses them as documented (`Pulsed`). -/
theorem setUp_reset (fails : Nat → Bool)
    (rest : (c : GsmCall) → σ → c.Answer × σ) (m : Manager) (s : σ) :
    let x := settle (Proc.noting (faulty fails rest)) init (m, [], 0, s)
    let y := settle (faulty (fun _ => false) rest) init (m, 0, s)
    x.1 = y.1 ∧ x.2.1 = y.2.1 ∧ x.2.2.2.2 = y.2.2.2
      ∧ (m.active = false → ∃ tried, Pulsed fails tried x.2.2.1) := by
  intro x y
  obtain ⟨n, hfaulty⟩ := settle_init fails rest m s
  obtain ⟨k, hworking⟩ := settle_init (fun _ => false) rest m s
  have hx := (Proc.settle_noting init m [] (0, s)).trans hfaulty
  have hy : y = _ := hworking
  rw [hy]
  refine ⟨congrArg (·.1) hx, congrArg (·.2.1) hx, congrArg (·.2.2.2) hx,
    fun hm => ?_⟩
  obtain ⟨t, hruns, ht⟩ := Proc.runs_of_noting (faulty fails rest)
    (init.run m) ([], 0, s)
  have ht : x.2.2.1 = t := ht
  rw [ht]
  exact pulsed_of_runs hm hruns rfl

/-- The reset line cannot be driven at first, and the set-up succeeds. -/
theorem setUp_reset_retried :
    let x := settle (Proc.noting (faulty (· = 2) obliging)) init
      ({ settings := .standard }, [], 0, {})
    x.1 = .ok () ∧ ∃ tried, Pulsed (· = 2) tried x.2.2.1 := by
  intro x
  obtain ⟨hvalue, -, -, htried⟩ := setUp_reset (· = 2) obliging
    { settings := .standard } {}
  exact ⟨hvalue.trans rfl, htried rfl⟩

end Manager

end Uplink.Gsm
