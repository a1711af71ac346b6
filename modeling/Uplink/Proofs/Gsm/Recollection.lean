/-
What is remembered of a connection that failed.

The manager keeps the error of the last connection, and whoever asks for
it after a connection takes it for the one that was just returned. A
connection ends in one of four places: two at the end of its course, and
two before it begins, where there is a session already or nothing is set
up. At the end of the course the error is written down or struck out. A
session that stands was confirmed by a connection that struck it out, and
no one but a connection writes it down since, so there is nothing to be
done where a session is found (`Mindful`). Where nothing is set up the
connection is refused and the refusal is not written down.

So what is remembered is what was returned wherever something is set up,
and nowhere else (`Reached.recollection`).
-/
import Uplink.Proofs.Gsm.Lifecycle
import Uplink.Proofs.Gsm.Verdict

namespace Uplink.Gsm

-- ================================================== what a course fails at

/-- No step fails for the want of a set-up. -/
theorem Step.failure_ne_notInitialized (found : Bool) (t : Transcript)
    (k : Step) : k.failure found t ≠ some .notInitialized := by
  intro h
  cases k <;> simp only [Step.failure] at h
  case registration =>
    unfold Reading.refusal at h
    split at h <;> cases h
  all_goals first | cases h | (split at h <;> cases h)

/-- The error of a `Course` is that of one of its steps. -/
theorem Course.exists_failure {D : Step → Transcript → Prop} {found : Bool}
    {ks : List Step} {t : Transcript} {r : Except GsmError Unit}
    (h : Course D found ks t r) {e : GsmError} (hr : r = .error e) :
    ∃ k ∈ ks, ∃ part, k.failure found part = some e := by
  induction h with
  | through => cases hr
  | passed _ _ _ ih =>
    obtain ⟨k, hk, part, hf⟩ := ih hr
    exact ⟨k, List.mem_cons_of_mem _ hk, part, hf⟩
  | failed _ hf =>
    cases hr
    exact ⟨_, by simp, _, hf⟩

namespace Manager

open Proc (Ensures)
open Surroundings (amid)

variable {α : Type} {m : Manager} {l : Link}

/-- The steps of a connection never fail for want of a set-up. -/
theorem stays_sequence_error (m : Manager) :
    (sequence.run.run m).Stays (fun _ => True)
      fun x => x.1 ≠ .error .notInitialized := by
  refine Proc.Records.stays (Proc.Records.mono (walks_sequence m) ?_)
  rintro t ⟨r, m'⟩ ⟨⟨body, coda, -, hc, -⟩, -, -⟩ rfl
  obtain ⟨k, -, part, hf⟩ := hc.exists_failure rfl
  exact k.failure_ne_notInitialized _ _ hf

-- ============================================================ the error

/-- What is remembered fits the link: where a session stands there is no
error, and that nothing was set up is never remembered. -/
structure Mindful (m : Manager) (l : Link) : Prop where
  standing : l.connected = true → m.lastError = none
  refused : m.lastError ≠ some .notInitialized

/-- Whatever else is asked for confirms no session. -/
theorem preserved_unconfirmed (p : Prop) :
    amid.contract.Preserves (· ≠ .record .markConnected)
      fun l => l.Coherent ∧ (l.connected = true → p) := by
  rintro call l hc ⟨hl, hp⟩
  refine ⟨trivial, fun r l' hr => ?_⟩
  by_cases hq : call.quiet = true
  · exact ⟨Link.stable_coherent.amid hq hl hr,
      (Link.stable_connected_imp p).amid hq hp hr⟩
  · have hd : l'.Down := by
      cases call with
      | record call =>
        cases call with
        | markDisconnected =>
          obtain ⟨t, hr⟩ := hr
          exact (Link.closing_meets hl).of_runs hr
        | markConnected => exact absurd rfl hc
        | _ => exact absurd rfl hq
      | _ => exact absurd rfl hq
    refine ⟨hd.coherent, fun hl' => ?_⟩
    rw [hd.disconnected] at hl'
    cases hl'

/-- What neither confirms a session nor writes an error down leaves what
is remembered as it was. -/
theorem Spares.mindful {act : Act α}
    (h : Spares lastError (· ≠ .record .markConnected) act)
    (hl : l.Coherent) (hm : m.Mindful l) :
    Ensures amid.contract act m l fun _ m' l' =>
      m'.lastError = m.lastError ∧ m'.Mindful l' := by
  refine (h.ensures (preserved_unconfirmed _) ⟨hl, hm.standing⟩).mono
    fun _ m' l' h' => ?_
  obtain ⟨he, -, hs⟩ := h'
  exact ⟨he, fun hc => he.trans (hs hc), he ▸ hm.refused⟩

/-- No report makes a manager less `Mindful`. -/
theorem stable_mindful (m : Manager) : Link.Stable m.Mindful := by
  have hs := Link.stable_connected_imp (m.lastError = none)
  exact ⟨fun l report h => ⟨hs.hear l report h.standing, h.refused⟩,
    fun l h => ⟨hs.resetEvents l h.standing, h.refused⟩⟩

/-- Where a session is found, no error is remembered. -/
theorem ensures_found (hm : m.Mindful l) :
    Ensures amid.contract (ask (.record .isConnected)) m l
      fun connected m' l' =>
        m'.Mindful l' ∧ (connected = true → m'.lastError = none) := by
  refine Proc.ensures_lift.2 (Proc.meets_ask.2 ⟨trivial, ?_⟩)
  rintro connected l' ⟨reports, hr⟩
  have hm' := (stable_mindful m).hearAll hm reports
  obtain ⟨rfl, rfl⟩ := Prod.mk.inj hr
  exact ⟨hm', hm'.standing⟩

theorem ensures_log (line : Line) (hm : m.Mindful l) :
    Ensures amid.contract (log line) m l fun _ m' l' =>
      m' = m ∧ m.Mindful l' :=
  have quiet : Spares id (fun call => call.quiet = true) (log line) :=
    passive_ask rfl
  quiet.ensures (stable_mindful m).preserved hm

/-- How a connection that starts from a link that is down may end, and
that it never says that nothing was set up. -/
theorem ensures_sequence_error (hl : l.Down) :
    Ensures amid.contract sequence.run m l fun r _ l' =>
      (∀ e, r = .error e → l'.connected = false)
        ∧ r ≠ .error .notInitialized := by
  have always : amid.contract.Preserves (fun _ => True) fun _ => True :=
    fun _ _ _ _ => ⟨trivial, fun _ _ _ => trivial⟩
  have possible : Ensures amid.contract sequence.run m l fun r _ _ =>
      r ≠ .error .notInitialized :=
    ((stays_sequence_error m).meets always trivial).mono fun _ _ h => h.1
  exact ((ensures_connecting hl).and possible).mono
    fun _ _ _ h => ⟨h.1.failed, h.2⟩

/-- A connection (`connect`) that finds nothing set up is refused and
leaves all as it was; any other is remembered for what it returned. -/
theorem ensures_connect_mindful (hc : m.Consistent l) (hm : m.Mindful l) :
    Ensures amid.contract connect m l fun r m' l' =>
      m'.Mindful l' ∧ (m.active = true → m'.lastError = errorOf r)
        ∧ (m.active = false → r = .error .notInitialized ∧ m' = m) := by
  unfold connect
  rw [Proc.ensures_bind, Proc.ensures_get]
  split
  next ha =>
    have ha : m.active = false := by simpa using ha
    rw [Proc.ensures_bind]
    refine (ensures_log _ hm).mono fun _ m' l' h => ?_
    obtain ⟨rfl, hm'⟩ := h
    exact ⟨hm', fun ht => absurd (ha.symm.trans ht) nofun,
      fun _ => ⟨rfl, rfl⟩⟩
  next ha =>
    have ha : m.active = true := by simpa using ha
    -- nothing but what is remembered at the end is left to be shown
    suffices h : Ensures amid.contract _ m l fun r m' l' =>
        m'.Mindful l' ∧ m'.lastError = errorOf r from
      h.mono fun r m' l' h' => ⟨h'.1, fun _ => h'.2,
        fun hf => absurd (hf.symm.trans ha) nofun⟩
    rw [Proc.ensures_bind]
    refine ((ensures_isConnected hc).and (ensures_found hm)).mono ?_
    rintro connected m₁ l₁ ⟨⟨rfl, -, hd⟩, hm₁, hn⟩
    cases connected with
    | true =>
      refine Proc.ensures_bind.2 ((ensures_log _ hm₁).mono ?_)
      rintro - m₂ l₂ ⟨rfl, hm₂⟩
      exact ⟨hm₂, hn rfl⟩
    | false =>
      refine (quiet_log _).before Link.stable_down (hd rfl)
        fun _ m₂ l₂ _ hl₂ => ?_
      rw [Proc.ensures_bind, ensures_enter, Proc.ensures_bind]
      refine (ensures_sequence_error hl₂).mono ?_
      rintro r m₃ l₃ ⟨hdown, hr⟩
      cases r with
      | ok =>
        have hm₃ : Mindful
            { m₃ with recorded := .connected, lastError := none } l₃ :=
          ⟨fun _ => rfl, nofun⟩
        refine Proc.ensures_bind.2 (Proc.ensures_modify.2
          (Proc.ensures_bind.2 ((ensures_log _ hm₃).mono ?_)))
        rintro - m₄ l₄ ⟨rfl, hm₄⟩
        exact ⟨hm₄, rfl⟩
      | error e =>
        refine (quiet_log _).before Link.stable_disconnected (hdown e rfl)
          fun _ m₄ l₄ _ hl₄ => ?_
        rw [Proc.ensures_bind, Proc.ensures_modify]
        refine ⟨⟨fun hc => ?_, fun he => hr ?_⟩, rfl⟩
        · rw [hl₄] at hc
          cases hc
        · cases he
          rfl

-- ======================================================= the operations

/-- A `quiet` call confirms nothing. -/
theorem ne_confirm_of_quiet {c : GsmCall} (h : c.quiet = true) :
    c ≠ .record .markConnected := by
  rintro rfl
  cases h

theorem ne_confirm_of_hangsUp {c : GsmCall} (h : hangsUp c) :
    c ≠ .record .markConnected := by
  rcases h with h | rfl | rfl
  · exact ne_confirm_of_quiet (quiet_of_silent h)
  · nofun
  · nofun

theorem ne_confirm_of_takesDown {c : GsmCall} (h : takesDown c) :
    c ≠ .record .markConnected := by
  rcases h with h | ⟨call, rfl⟩ | rfl
  · exact ne_confirm_of_hangsUp h
  · nofun
  · nofun

/-- A set-up does not show in `lastError`. -/
theorem unmoved_lastError : Unmoved lastError :=
  ⟨fun _ _ => rfl, fun _ _ => rfl⟩

/-- To set up leaves the last error and a `Mindful` manager. -/
theorem ensures_init_mindful (hc : m.Consistent l) (hm : m.Mindful l) :
    Ensures amid.contract init m l fun _ m' l' =>
      m'.lastError = m.lastError ∧ m'.Mindful l' :=
  ((spares_init unmoved_lastError).mono fun _ h =>
    ne_confirm_of_quiet (quiet_of_initializes h)).mindful hc.coherent hm

end Manager

open Manager

variable {m : Manager} {l : Link}

/-- Every operation leaves a `Mindful` manager, where manager and link were
`Consistent`. -/
theorem Operation.ensures_mindful (o : Operation) (hc : m.Consistent l)
    (hm : m.Mindful l) :
    Proc.Ensures Surroundings.amid.contract o.act m l
      fun _ m' l' => m'.Mindful l' := by
  have spared {α : Type} {act : Act α}
      (h : Spares lastError (· ≠ .record .markConnected) act) :
      Proc.Ensures Surroundings.amid.contract act m l
        fun _ m' l' => m'.Mindful l' :=
    (h.mindful hc.coherent hm).mono fun _ _ _ h => h.2
  cases o with
  | init => exact (ensures_init_mindful hc hm).mono fun _ _ _ h => h.2
  | connect => exact (ensures_connect_mindful hc hm).mono fun _ _ _ h => h.1
  | bringUp =>
    refine Proc.ensures_bind.2 (((keeps_init m l hc).and
      (ensures_init_mindful hc hm)).mono fun r m₁ l₁ h => ?_)
    -- the connection starts from where the setup left the manager
    obtain ⟨hc₁, -, hm₁⟩ := h
    cases r with
    | ok => exact (ensures_connect_mindful hc₁ hm₁).mono fun _ _ _ h => h.1
    | error e => exact hm₁
  | disconnect =>
    exact spared ((spares_disconnect unmoved_lastError.recorded).mono
      fun _ => ne_confirm_of_hangsUp)
  | deinit =>
    exact spared ((spares_deinit unmoved_lastError).mono
      fun _ => ne_confirm_of_takesDown)
  | signalStrength =>
    exact spared ((spares_signalStrength fun _ _ => rfl).mono
      fun _ h => ne_confirm_of_quiet (quiet_of_measures h))

/-- The manager is `Mindful` wherever operations and reports lead. -/
theorem Reached.mindful {settings : Config.Settings}
    (h : Reached settings m l) : m.Mindful l := by
  induction h with
  | made =>
    obtain ⟨apn, hn⟩ := Manager.new_value settings
    rw [hn]
    exact ⟨nofun, nofun⟩
  | heard report _ ih => exact (stable_mindful _).hear _ _ ih
  | operated o h hr ih =>
    exact (o.ensures_mindful h.consistent ih).of_runs hr

-- ======================================================= the last result

/-- Right after `connect`, in every history, an error is remembered
(`lastError`) if and only if it is the one that was returned, and none if
and only if the connection succeeded, exactly where something is set up.
Where nothing is, the connection is refused and what was remembered before
stays. -/
theorem Reached.recollection {settings : Config.Settings}
    (h : Reached settings m l) {t : List (Event Surroundings)}
    {r : Except GsmError Unit} {m' : Manager} {l' : Link}
    (hr : Proc.Runs Surroundings.amid (Manager.connect.run m) l t (r, m')
      l') :
    (((∀ e, m'.lastError = some e ↔ r = .error e)
        ∧ (m'.lastError = none ↔ r = .ok ())) ↔ m.active = true)
      ∧ (m.active = false → r = .error .notInitialized ∧ m' = m) := by
  obtain ⟨-, hset, hunset⟩ :=
    (ensures_connect_mindful h.consistent h.mindful).of_runs hr
  refine ⟨⟨fun hlaw => ?_, fun ha => ?_⟩, hunset⟩
  · refine Bool.of_not_eq_false fun ha => ?_
    obtain ⟨rfl, rfl⟩ := hunset ha
    exact h.mindful.refused ((hlaw.1 _).2 rfl)
  · rw [hset ha]
    cases r with
    | ok => exact ⟨fun e => ⟨nofun, nofun⟩, fun _ => rfl, fun _ => rfl⟩
    | error e =>
      refine ⟨fun e' => ?_, nofun, nofun⟩
      exact ⟨fun h => congrArg _ (Option.some.inj h),
        fun h => congrArg _ (Except.error.inj h)⟩

/-- Surroundings that deny answer as surroundings may. -/
theorem amid_denying (call : GsmCall) (l : Link) :
    Surroundings.amid call l (denying call l).1 (denying call l).2 := by
  cases call with
  | modem call => cases call <;> exact ⟨[], rfl⟩
  | _ => exact amid_obliging _ l

/-- A manager that was set up where the network turns the modem away. -/
def unwelcome : (Except GsmError Unit × Manager) × Link :=
  (Manager.init.run (Manager.new .standard).value).run denying {}

/-- The error that is returned there is the one that is remembered. -/
theorem Reached.recollection_denied : ∃ t m' l',
    Reached .standard unwelcome.1.2 unwelcome.2
      ∧ Proc.Runs Surroundings.amid
        (Manager.connect.run unwelcome.1.2) unwelcome.2 t
        (.error .registrationDenied, m') l'
      ∧ m'.lastError = some .registrationDenied := by
  have ha : unwelcome.1.2.active = true := by decide +kernel
  have hr : ((Manager.connect.run unwelcome.1.2).run denying
      unwelcome.2).1.1 = .error .registrationDenied := by decide +kernel
  have reached : Reached .standard unwelcome.1.2 unwelcome.2 := by
    obtain ⟨t, h⟩ := Proc.runs_of_run id amid_denying
      (Manager.init.run (Manager.new .standard).value) {}
    exact .operated .init .made h
  obtain ⟨t, h⟩ := Proc.runs_of_run id amid_denying
    (Manager.connect.run unwelcome.1.2) unwelcome.2
  generalize (Manager.connect.run unwelcome.1.2).run denying
    unwelcome.2 = x at hr h
  obtain ⟨⟨r, m'⟩, l'⟩ := x
  obtain rfl : r = .error .registrationDenied := hr
  exact ⟨t, m', l', reached, h,
    ((reached.recollection h).1.2 ha).1 _ |>.2 rfl⟩

/-- Before anything is set up the refusal is returned, and no error is
remembered. -/
theorem Reached.recollection_refused : ∃ t m' l',
    Reached .standard (Manager.new .standard).value {}
      ∧ Proc.Runs Surroundings.amid
        (Manager.connect.run (Manager.new .standard).value) {} t
        (.error .notInitialized, m') l'
      ∧ m'.lastError = none := by
  have refused : Proc.Runs Surroundings.amid
      (Manager.connect.run (Manager.new .standard).value) {} _
      (.error .notInitialized, (Manager.new .standard).value) {} :=
    .call (r := ()) ⟨[], rfl⟩ (.done _ _)
  exact ⟨_, _, _, .made, refused, by decide +kernel⟩

end Uplink.Gsm
