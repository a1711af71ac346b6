/-
What the manager and the record agree on between operations.

Whether the link is connected is said in several places: the manager
records how far it got, the record keeps a flag and an address, and the
network status a flag and a selector. They are written by different tasks
and at different times. `Consistent` is what they agree on whenever no
operation of the manager is under way.

# How a history is given

`Reached` has a manager made and then any operations in any order, with
reports in between. An operation is a run of its program: the modem, the
interface, the control lines and the maker of the channel answer what they
like, and reports fall before every call (`Surroundings.amid`), inside the
one call that makes several accesses as well.

# How it is shown

Most of an operation is `Passive`: it leaves alone what the manager
records of the link, and keeps every property of the record that reports
keep. What is left are the two calls that confirm a session and give one
up, and each stands in one place. `sequence_ensures` and `hangUp_ensures`
say what becomes of the link there; the operations are put together from
these.
-/
import Uplink.Proofs.Gsm.Reports
import Uplink.Proofs.Gsm.Steps

namespace Uplink.Gsm

open Modem (Session)
open Timing

-- ================================================== calls amid reports

/-- At once, with no report in between, is one way for a program of
accesses to run. -/
theorem Link.amid_of_runAll {α : Type} (p : Proc Link.Accesses α)
    (l : Link) :
    ∃ t, Proc.Runs Link.amid p l t (Link.runAll p l).value.1
      (Link.runAll p l).value.2 := by
  induction p generalizing l with
  | done a => exact ⟨[], .done a l⟩
  | call access next ih =>
    obtain ⟨t, h⟩ := ih (l.apply access).value.1 (l.apply access).value.2
    exact ⟨_, .call ⟨[], rfl⟩ h⟩

/-- A call on the record amid reports. Giving a session up (`closing`) is
several accesses, and reports may come between any two of them. -/
def RecordCall.Spans (l : Link) :
    (call : RecordCall) → call.Answer → Link → Prop
  | markDisconnected, r, l' =>
    ∃ t, Proc.Runs Link.amid Link.closing l t r l'
  | call, r, l' =>
    ∃ reports, (call.apply (l.hearAll reports)).value = (r, l')

/-- To do an operation on the record at once is one way to do it amid
reports. -/
theorem RecordCall.spans_apply (call : RecordCall) (l : Link) :
    call.Spans l (call.apply l).value.1 (call.apply l).value.2 := by
  cases call with
  | markDisconnected => exact Link.amid_of_runAll Link.closing l
  | isConnected => exact ⟨[], rfl⟩
  | markConnected => exact ⟨[], rfl⟩
  | resetEvents => exact ⟨[], rfl⟩

/-- Surroundings that answer as they like, while the record hears reports
before each call. An event that is waited for is taken from the record,
and nothing else there is touched. -/
def Surroundings.amid : Behaviour Surroundings Link :=
  fun call l r l' =>
    match call, r with
    | .record call, r => call.Spans l r l'
    | .awaitEvent _, r =>
      ∃ reports, r = (l.hearAll reports).event
        ∧ l' = (l.hearAll reports).resetEvents
    | _, _ => ∃ reports, l' = l.hearAll reports

/-- The call neither confirms a session nor gives one up. -/
def GsmCall.quiet : GsmCall → Bool
  | record .markConnected | record .markDisconnected => false
  | _ => true

/-- Across a `quiet` call the record only hears reports. -/
theorem Link.Stable.amid {P : Link → Prop} (hP : Link.Stable P)
    {call : GsmCall} (hc : call.quiet = true) {l l' : Link}
    {r : call.Answer} (h : P l) (hr : Surroundings.amid call l r l') :
    P l' := by
  cases call with
  | record call =>
    cases call with
    | isConnected =>
      obtain ⟨reports, hr⟩ := hr
      obtain ⟨rfl, rfl⟩ := Prod.mk.inj hr
      exact hP.hearAll h reports
    | resetEvents =>
      obtain ⟨reports, hr⟩ := hr
      obtain ⟨rfl, rfl⟩ := Prod.mk.inj hr
      exact hP.resetEvents _ (hP.hearAll h reports)
    | markConnected => cases hc
    | markDisconnected => cases hc
  | awaitEvent timeout =>
    obtain ⟨reports, -, rfl⟩ := hr
    exact hP.resetEvents _ (hP.hearAll h reports)
  | modem call =>
    obtain ⟨reports, rfl⟩ := hr
    exact hP.hearAll h reports
  | drive pin high =>
    obtain ⟨reports, rfl⟩ := hr
    exact hP.hearAll h reports
  | netif call =>
    obtain ⟨reports, rfl⟩ := hr
    exact hP.hearAll h reports
  | build uart =>
    obtain ⟨reports, rfl⟩ := hr
    exact hP.hearAll h reports
  | resolve host timeout =>
    obtain ⟨reports, rfl⟩ := hr
    exact hP.hearAll h reports

/-- What no report ends, `quiet` calls keep. -/
theorem Link.Stable.preserved {P : Link → Prop} (hP : Link.Stable P) :
    Surroundings.amid.contract.Preserves
      (fun call => call.quiet = true) P :=
  fun _ _ hc h => ⟨trivial, fun _ _ hr => hP.amid hc h hr⟩

namespace Manager

open Proc (Ensures)
open Surroundings (amid)

variable {α β : Type}

-- ====================================================== quiet programs

/-- A program of `quiet` calls that leaves alone what is recorded. -/
abbrev Quiet (act : Act α) : Prop :=
  Passive (fun call => call.quiet = true) act

theorem quiet_ask {call : GsmCall} (hc : call.quiet = true) :
    Quiet (ask call) :=
  passive_ask hc

theorem quiet_log (line : Line) : Quiet (log line) :=
  passive_ask rfl

theorem quiet_session (p : Proc Session α) : Quiet (session p) :=
  passive_channel (fun _ => rfl) p

/-- An act of `quiet` calls, before one that relies on what no report
ends. -/
theorem Spares.before {act : Act α} {f : α → Act β}
    (h : Spares standing (fun call => call.quiet = true) act)
    {P : Link → Prop} (hP : Link.Stable P) {m : Manager} {l : Link}
    (hl : P l) {Q : β → Manager → Link → Prop}
    (hf : ∀ a m' l', m'.standing = m.standing → P l' →
      Ensures amid.contract (f a) m' l' Q) :
    Ensures amid.contract (act >>= f) m l Q :=
  h.leads hP.preserved hl hf

theorem quiet_of_silent {c : GsmCall} (h : c.silent = true) :
    c.quiet = true := by
  cases c with
  | modem c => rfl
  | _ => cases h

/-- Before the dial nothing is confirmed or given up. -/
theorem quiet_of_prepares {c : GsmCall} (h : prepares c) :
    c.quiet = true := by
  rcases prepares_cases h with hs | ⟨_, _, -, rfl⟩ | rfl
    | ⟨_, _, rfl⟩ | rfl
  · exact quiet_of_silent hs
  · rfl
  · rfl
  · rfl
  · rfl

theorem quiet_of_aborts {c : GsmCall} (h : aborts c) :
    c.quiet = true := by
  rcases h with h | rfl | rfl
  · exact quiet_of_silent h
  · rfl
  · rfl

theorem quiet_of_resolves {c : GsmCall} (h : resolves c) :
    c.quiet = true := by
  rcases h with h | ⟨p, s, rfl⟩ | ⟨host, timeout, rfl⟩
  · exact quiet_of_silent h
  · rfl
  · rfl

theorem quiet_of_resets {c : GsmCall} (h : resets c) :
    c.quiet = true := by
  rcases h with h | ⟨pin, high, rfl⟩
  · exact quiet_of_silent h
  · rfl

theorem quiet_of_measures {c : GsmCall} (h : measures c) :
    c.quiet = true := by
  rcases h with h | rfl | rfl
  · exact quiet_of_silent h
  · rfl
  · rfl

theorem quiet_of_initializes {c : GsmCall} (h : initializes c) :
    c.quiet = true := by
  rcases h with h | (h | ⟨call, rfl⟩ | ⟨uart, rfl⟩) | rfl
  · exact quiet_of_resets h
  · exact quiet_of_silent h
  · rfl
  · rfl
  · rfl

-- ===================================================== the two verdicts

/-- A confirmation (`markConnected`) that is refused leaves the link
down. -/
theorem ensures_markConnected {m : Manager} {l : Link} (h : l.Down) :
    Ensures amid.contract (ask (.record .markConnected)) m l
      fun confirmed m' l' =>
        m' = m ∧ l'.Coherent ∧ (confirmed = false → l'.Down) := by
  refine Proc.ensures_lift.2 (Proc.meets_ask.2 ⟨trivial, ?_⟩)
  rintro confirmed l' ⟨reports, hr⟩
  have hd := Link.stable_down.hearAll h reports
  obtain ⟨rfl, rfl⟩ := Prod.mk.inj hr
  exact ⟨rfl, hd.coherent.markConnected, hd.markConnected⟩

/-- A session that is given up is down, whatever it was. -/
theorem ensures_markDisconnected {m : Manager} {l : Link}
    (h : l.Coherent) :
    Ensures amid.contract (ask (.record .markDisconnected)) m l
      fun _ m' l' => m' = m ∧ l'.Down := by
  refine Proc.ensures_lift.2 (Proc.meets_ask.2 ⟨trivial, ?_⟩)
  rintro r l' ⟨t, hr⟩
  exact ⟨rfl, (Link.closing_meets h).of_runs hr⟩

-- =========================================================== connecting

/-- How a connection that starts from a link that is down may end: the
record is `Coherent`, and a failure leaves it disconnected. -/
structure Outcome (m : Manager) (r : Except GsmError Unit)
    (m' : Manager) (l' : Link) : Prop where
  standing : m'.standing = m.standing
  coherent : l'.Coherent
  failed : ∀ e, r = .error e → l'.connected = false

/-- The session is confirmed in the last step only, and a confirmation
that is refused leaves the link down. -/
theorem ends_awaitSession {m : Manager} :
    Ends amid.contract Link.Down m (Outcome m) awaitSession := by
  have aborting (why : String) (m' : Manager) (l : Link) (hl : l.Down)
      (hm : m'.standing = m.standing) :
      Ensures amid.contract (abort why) m' l (Outcome m) := by
    have quiet : Quiet (abort why) := (passive_abort why).mono
      fun c hc => quiet_of_aborts hc
    refine (quiet.ensures Link.stable_down.preserved hl).mono
      fun r m₁ l₁ h => ?_
    obtain ⟨hm₁, hl₁⟩ := h
    exact ⟨hm₁.trans hm, hl₁.coherent, fun _ _ => hl₁.disconnected⟩
  intro m₀ l hm₀ hl
  unfold awaitSession
  rw [ExceptT.run_mk]
  refine (quiet_log _).before Link.stable_down hl fun _ m₁ l₁ hm₁ hl₁ => ?_
  have wait : Quiet (ask (.awaitEvent pppConnectTimeout)) := passive_ask rfl
  refine wait.before Link.stable_down hl₁ fun event m₂ l₂ hm₂ hl₂ => ?_
  have hm := hm₂.trans (hm₁.trans hm₀)
  rcases event with _ | info | _ | code
  · exact aborting _ m₂ l₂ hl₂ hm
  · have quiet : Quiet setUpResolvers := passive_setUpResolvers.mono
      fun c hc => quiet_of_resolves hc
    refine quiet.before Link.stable_down hl₂ fun _ m₃ l₃ hm₃ hl₃ => ?_
    rw [Proc.ensures_bind]
    refine (ensures_markConnected hl₃).mono fun confirmed m₄ l₄ h => ?_
    obtain ⟨rfl, hc, hd⟩ := h
    cases confirmed with
    | true => exact ⟨hm₃.trans hm, hc, fun _ he => nomatch he⟩
    | false => exact aborting _ m₄ l₄ (hd rfl) (hm₃.trans hm)
  · exact aborting _ m₂ l₂ hl₂ hm
  · exact aborting _ m₂ l₂ hl₂ hm

/-- From a link that is `Down`, the steps of a connection end with the link
connected where they succeed, and down again where they do not. -/
theorem ensures_connecting {m : Manager} {l : Link} (hl : l.Down) :
    Ensures amid.contract sequence.run m l (Outcome m) := by
  have failing (e : GsmError) (m' : Manager) (l' : Link)
      (hm : m'.standing = m.standing) (hl' : l'.Down) :
      Outcome m (.error e) m' l' :=
    ⟨hm, hl'.coherent, fun _ _ => hl'.disconnected⟩
  refine ensures_sequence (fun c l hc =>
    Link.stable_down.preserved c l (quiet_of_prepares hc)) ?_ failing ?_
  · have escape : (Surroundings.ofSession Steps.forceCommandMode).Asks
        fun c : GsmCall => c.quiet = true :=
      Surroundings.asks_channel (fun _ => rfl) _
    exact escape.meets Link.stable_down.preserved hl
  · have dial : Quiet (reported Steps.enterDataMode).run :=
      passive_channel_reported (fun _ => rfl) _
    exact dial.ends Link.stable_down.preserved failing
      fun _ => ends_awaitSession

-- ========================================================== consistency

/-- What the manager and the record agree on between operations. -/
structure Consistent (m : Manager) (l : Link) : Prop where
  coherent : l.Coherent
  recorded : l.connected = true → m.recorded = .connected
  setUp : m.recorded = .uninitialized ↔ m.active = false
  settled : m.recorded ≠ .hardwareReset ∧ m.recorded ≠ .connecting
  explained : m.recorded = .failed → m.lastError.isSome = true

variable {m m' : Manager} {l : Link}

/-- No report makes link and manager inconsistent. -/
theorem stable_consistent (m : Manager) : Link.Stable m.Consistent := by
  refine ⟨fun l report h => ?_, fun l h => ?_⟩
  · exact ⟨Link.stable_coherent.hear l report h.coherent,
      (Link.stable_connected_imp _).hear l report h.recorded,
      h.setUp, h.settled, h.explained⟩
  · exact ⟨Link.stable_coherent.resetEvents l h.coherent,
      h.recorded, h.setUp, h.settled, h.explained⟩

/-- Whether they are `Consistent` goes by the `standing` of the manager. -/
theorem Consistent.of_standing (h : m.Consistent l)
    (hm : m'.standing = m.standing) : m'.Consistent l := by
  obtain ⟨ha, hr, he⟩ : m'.active = m.active ∧ m'.recorded = m.recorded
      ∧ m'.lastError = m.lastError := by
    simpa [standing] using hm
  refine ⟨h.coherent, ?_, ?_, ?_, ?_⟩
  · rw [hr]; exact h.recorded
  · rw [hr, ha]; exact h.setUp
  · rw [hr]; exact h.settled
  · rw [hr, he]; exact h.explained

/-- With the link down, the manager's own part is all there is to see
to. -/
theorem Consistent.of_down (hl : l.Down)
    (ha : m.recorded = .uninitialized ↔ m.active = false)
    (hs : m.recorded ≠ .hardwareReset ∧ m.recorded ≠ .connecting)
    (he : m.recorded = .failed → m.lastError.isSome = true) :
    m.Consistent l := by
  refine ⟨hl.coherent, fun hc => ?_, ha, hs, he⟩
  rw [hl.disconnected] at hc
  cases hc

/-- A session is recorded only where something is set up. -/
theorem Consistent.active_of_recorded (h : m.Consistent l)
    (hr : m.recorded = .connected) : m.active = true := by
  by_cases ha : m.active = true
  · exact ha
  · have hu := h.setUp.2 (Bool.eq_false_iff.2 ha)
    rw [hr] at hu
    cases hu

/-- The link of an inactive manager is `Down`. -/
theorem Consistent.down_of_inactive (h : m.Consistent l)
    (ha : m.active = false) : l.Down := by
  refine ⟨h.coherent, Bool.eq_false_iff.2 fun hc => ?_⟩
  have ht := h.active_of_recorded (h.recorded hc)
  rw [ha] at ht
  cases ht

/-- The operation keeps the agreement. -/
def Keeps (act : Act α) : Prop :=
  ∀ m l, m.Consistent l →
    Ensures amid.contract act m l fun _ m' l' => m'.Consistent l'

/-- An act of `quiet` calls, which spares the `standing`, keeps manager and
link consistent. -/
theorem Spares.keeps {act : Act α}
    (h : Spares standing (fun call => call.quiet = true) act) :
    Keeps act := by
  intro m l hc
  refine (h.ensures (stable_consistent m).preserved hc).mono
    fun a m' l' ha => ?_
  exact ha.2.of_standing ha.1

theorem Keeps.bind {act : Act α} {f : α → Act β} (h : Keeps act)
    (hf : ∀ a, Keeps (f a)) : Keeps (act >>= f) := by
  intro m l hc
  rw [Proc.ensures_bind]
  exact (h m l hc).mono fun a m' l' hc' => hf a m' l' hc'

-- ======================================================= the operations

/-- A set-up that is refused leaves the manager inactive and its link
`Down`. -/
theorem ensures_refuse (stage : InitStage) (hl : l.Down)
    (ha : m.active = false) :
    Ensures amid.contract (refuse stage) m l
      fun _ m' l' => m'.Consistent l' :=
  .of_down hl ⟨fun _ => ha, fun _ => rfl⟩ ⟨nofun, nofun⟩ nofun

/-- To build the parts leaves manager and link `Consistent`, wherever it
fails. -/
theorem ensures_build (hl : l.Down) (ha : m.active = false) :
    Ensures amid.contract build m l fun _ m' l' => m'.Consistent l' := by
  -- however far it got, a set-up that is refused leaves the link down
  have refused {act : Act Unit} (hact : Quiet act) {stage : InitStage}
      {m : Manager} {l : Link} (hl : l.Down) (ha : m.active = false) :
      Ensures amid.contract (act >>= fun _ => refuse stage) m l
        fun _ m' l' => m'.Consistent l' := by
    refine hact.before Link.stable_down hl fun _ m' l' hm' hl' => ?_
    exact ensures_refuse stage hl' ((active_of_standing hm').trans ha)
  unfold build
  rw [Proc.ensures_bind, Proc.ensures_get]
  refine (quiet_ask rfl).before Link.stable_down hl
    fun created m₁ l₁ hm₁ hl₁ => ?_
  have ha₁ := (active_of_standing hm₁).trans ha
  cases created with
  | error e => exact refused (quiet_log _) hl₁ ha₁
  | ok =>
    refine (quiet_ask rfl).before Link.stable_down hl₁
      fun subscribed m₂ l₂ hm₂ hl₂ => ?_
    have ha₂ := (active_of_standing hm₂).trans ha₁
    cases subscribed with
    | error e =>
      refine (quiet_log _).before Link.stable_down hl₂
        fun _ m₃ l₃ hm₃ hl₃ => ?_
      exact refused (quiet_ask rfl) hl₃
        ((active_of_standing hm₃).trans ha₂)
    | ok =>
      refine (quiet_ask rfl).before Link.stable_down hl₂
        fun built m₃ l₃ hm₃ hl₃ => ?_
      have ha₃ := (active_of_standing hm₃).trans ha₂
      cases built with
      | error e =>
        refine (quiet_log _).before Link.stable_down hl₃
          fun _ m₄ l₄ hm₄ hl₄ => ?_
        have ha₄ := (active_of_standing hm₄).trans ha₃
        refine (quiet_ask rfl).before Link.stable_down hl₄
          fun _ m₅ l₅ hm₅ hl₅ => ?_
        exact refused (quiet_ask rfl) hl₅
          ((active_of_standing hm₅).trans ha₄)
      | ok =>
        rw [Proc.ensures_bind, Proc.ensures_modify, Proc.ensures_bind]
        have hc : Consistent { m₃ with active := true, recorded := .idle }
            l₃ :=
          .of_down hl₃ ⟨nofun, nofun⟩ ⟨nofun, nofun⟩ nofun
        exact ((quiet_log _).bind fun _ => passive_pure _).keeps _ _ hc

theorem ensures_hardwareReset (hl : l.Down) :
    Ensures amid.contract hardwareReset m l fun _ m' l' =>
      m'.active = m.active ∧ l'.Down :=
  ((stays_hardwareReset m).mono (fun _ => quiet_of_resets)
    fun _ hx => congrArg active hx).meets Link.stable_down.preserved hl

theorem keeps_init : Keeps init := by
  intro m l hc
  unfold init
  rw [Proc.ensures_bind, Proc.ensures_get]
  split
  · exact ((quiet_log _).bind fun _ => passive_pure _).keeps m l hc
  next ha =>
    have ha : m.active = false := Bool.eq_false_iff.2 ha
    refine (quiet_log _).before Link.stable_down
      (hc.down_of_inactive ha) fun _ m₁ l₁ hm₁ hl₁ => ?_
    have ha₁ := (active_of_standing hm₁).trans ha
    rw [Proc.ensures_bind]
    refine (ensures_hardwareReset hl₁).mono fun _ m₂ l₂ h₂ => ?_
    obtain ⟨ha₂, hl₂⟩ := h₂
    refine (quiet_ask rfl).before Link.stable_down hl₂
      fun _ m₃ l₃ hm₃ hl₃ => ?_
    exact ensures_build hl₃
      ((active_of_standing hm₃).trans (ha₂.trans ha₁))

/-- A link that denies to be connected is `Down`. -/
theorem ensures_isConnected (h : m.Consistent l) :
    Ensures amid.contract (ask (.record .isConnected)) m l
      fun connected m' l' =>
        m' = m ∧ m.Consistent l' ∧ (connected = false → l'.Down) := by
  refine Proc.ensures_lift.2 (Proc.meets_ask.2 ⟨trivial, ?_⟩)
  rintro connected l' ⟨reports, hr⟩
  have hc := (stable_consistent m).hearAll h reports
  obtain ⟨rfl, rfl⟩ := Prod.mk.inj hr
  exact ⟨rfl, hc, fun hd => ⟨hc.coherent, hd⟩⟩

/-- Whatever comes of it, `connect` keeps manager and link consistent. -/
theorem keeps_connect : Keeps connect := by
  intro m l hc
  unfold connect
  rw [Proc.ensures_bind, Proc.ensures_get]
  split
  · exact ((quiet_log _).bind fun _ => passive_pure _).keeps m l hc
  next ha =>
    -- from here on the manager stays active, so only the recorded state
    -- is at stake
    have ha : m.active = true := by simpa using ha
    rw [Proc.ensures_bind]
    refine (ensures_isConnected hc).mono ?_
    rintro connected m₁ l₁ ⟨rfl, hc₁, hd₁⟩
    cases connected with
    | true =>
      exact ((quiet_log _).bind fun _ => passive_pure _).keeps m₁ l₁ hc₁
    | false =>
      refine (quiet_log _).before Link.stable_down (hd₁ rfl)
        fun _ m₂ l₂ hm₂ hl₂ => ?_
      have ha₂ := (active_of_standing hm₂).trans ha
      rw [Proc.ensures_bind, ensures_enter, Proc.ensures_bind]
      refine (ensures_connecting hl₂).mono ?_
      rintro r m₃ l₃ ⟨hm₃, hl₃, he⟩
      have ha₃ := (active_of_standing hm₃).trans ha₂
      cases r with
      | ok =>
        have hc₃ : Consistent
            { m₃ with recorded := .connected, lastError := none } l₃ :=
          ⟨hl₃, fun _ => rfl, ⟨nofun, by simp [ha₃]⟩, ⟨nofun, nofun⟩,
            nofun⟩
        exact ((quiet_log _).bind fun _ => passive_pure _).keeps _ _ hc₃
      | error e =>
        refine (quiet_log _).before Link.stable_down
          ⟨hl₃, he e rfl⟩ fun _ m₄ l₄ hm₄ hl₄ => ?_
        have ha₄ := (active_of_standing hm₄).trans ha₃
        refine .of_down hl₄ ⟨nofun, ?_⟩ ⟨nofun, nofun⟩ fun _ => rfl
        simp [ha₄]

theorem keeps_bringUp : Keeps bringUp := by
  refine keeps_init.bind fun r => ?_
  cases r with
  | ok => exact keeps_connect
  | error e => exact (passive_pure _).keeps

/-- Hanging up leaves the link down, and the manager records that much;
whether anything is set up is not its matter. -/
theorem ensures_hangUp (hl : l.Coherent) :
    Ensures amid.contract hangUp m l fun _ m' l' =>
      l'.Down ∧ m'.active = m.active ∧ m'.recorded = .disconnected := by
  unfold hangUp
  refine (quiet_log _).before Link.stable_coherent hl
    fun _ m₁ l₁ hm₁ hl₁ => ?_
  refine (quiet_session _).before Link.stable_coherent hl₁
    fun r m₂ l₂ hm₂ hl₂ => ?_
  have hm := (active_of_standing hm₂).trans (active_of_standing hm₁)
  have given (m₃ : Manager) (l₃ : Link) (ha : m₃.active = m.active)
      (hl₃ : l₃.Coherent) :
      Ensures amid.contract
        (ask (.record .markDisconnected) >>= fun _ => enter .disconnected)
        m₃ l₃ fun _ m' l' =>
          l'.Down ∧ m'.active = m.active ∧ m'.recorded = .disconnected := by
    rw [Proc.ensures_bind]
    refine (ensures_markDisconnected hl₃).mono ?_
    rintro - m' l' ⟨rfl, hd⟩
    exact ⟨hd, ha, rfl⟩
  cases r with
  | ok => exact given m₂ l₂ hm hl₂
  | error e =>
    refine (quiet_log _).before Link.stable_coherent hl₂
      fun _ m₃ l₃ hm₃ hl₃ => ?_
    exact given m₃ l₃ ((active_of_standing hm₃).trans hm) hl₃

/-- After a disconnect the link is `Down`, and the manager says so. -/
theorem ensures_disconnect (hl : l.Coherent) (ha : m.active = true) :
    Ensures amid.contract disconnect m l fun _ m' l' =>
      l'.Down ∧ m'.active = true ∧ m'.recorded = .disconnected := by
  unfold disconnect
  rw [Proc.ensures_bind, Proc.ensures_get, if_pos ha, ← ha]
  exact ensures_hangUp hl

theorem keeps_disconnect : Keeps disconnect := by
  intro m l hc
  by_cases ha : m.active = true
  · refine (ensures_disconnect hc.coherent ha).mono ?_
    rintro - m' l' ⟨hd, ha', hr⟩
    refine .of_down hd ?_ ?_ ?_ <;> simp [hr, ha']
  · unfold disconnect
    rw [Proc.ensures_bind, Proc.ensures_get, if_neg ha]
    exact (quiet_log _).keeps m l hc

theorem keeps_signalStrength : Keeps signalStrength :=
  (passive_signalStrength.mono fun _ => quiet_of_measures).keeps

theorem keeps_deinit : Keeps deinit := by
  intro m l hc
  unfold deinit
  rw [Proc.ensures_bind, Proc.ensures_get]
  split
  next ha =>
    refine (quiet_log _).before Link.stable_coherent hc.coherent
      fun _ m₁ l₁ hm₁ hl₁ => ?_
    rw [Proc.ensures_bind]
    have ha₁ := (active_of_standing hm₁).trans ha
    refine (ensures_disconnect hl₁ ha₁).mono ?_
    rintro - m₂ l₂ ⟨hl₂, -, -⟩
    rw [Proc.ensures_bind, Proc.ensures_modify]
    refine (quiet_ask rfl).before Link.stable_down hl₂
      fun _ m₃ l₃ hm₃ hl₃ => ?_
    refine (quiet_ask rfl).before Link.stable_down hl₃
      fun _ m₄ l₄ hm₄ hl₄ => ?_
    refine (quiet_ask rfl).before Link.stable_down hl₄
      fun _ m₅ l₅ hm₅ hl₅ => ?_
    have ha₅ := active_of_standing (hm₅.trans (hm₄.trans hm₃))
    exact .of_down hl₅ ⟨fun _ => ha₅, fun _ => rfl⟩ ⟨nofun, nofun⟩ nofun
  · exact (quiet_log _).keeps m l hc

end Manager

-- ============================================================ histories

/-- The operations of a manager. -/
inductive Operation where
  | init
  | connect
  | bringUp
  | disconnect
  | deinit
  | signalStrength
deriving DecidableEq, Repr

abbrev Operation.Answer : Operation → Type
  | init | connect | bringUp => Except GsmError Unit
  | disconnect | deinit => Unit
  | signalStrength => Int

def Operation.act : (o : Operation) → Manager.Act o.Answer
  | init => Manager.init
  | connect => Manager.connect
  | bringUp => Manager.bringUp
  | disconnect => Manager.disconnect
  | deinit => Manager.deinit
  | signalStrength => Manager.signalStrength

/-- A manager and the record, with no operation under way, as some
history of operations and reports leads to them. -/
inductive Reached (settings : Config.Settings) : Manager → Link → Prop
  | made : Reached settings (Manager.new settings).value {}
  | heard {m : Manager} {l : Link} (report : Report) :
      Reached settings m l → Reached settings m (l.hear report)
  | operated {m m' : Manager} {l l' : Link} (o : Operation)
      {t : List (Event Surroundings)} {r : o.Answer} :
      Reached settings m l →
      Proc.Runs Surroundings.amid (o.act.run m) l t (r, m') l' →
      Reached settings m' l'

/-- Every `Operation` keeps manager and link consistent. -/
theorem Operation.keeps (o : Operation) : Manager.Keeps o.act := by
  cases o with
  | init => exact Manager.keeps_init
  | connect => exact Manager.keeps_connect
  | bringUp => exact Manager.keeps_bringUp
  | disconnect => exact Manager.keeps_disconnect
  | deinit => exact Manager.keeps_deinit
  | signalStrength => exact Manager.keeps_signalStrength

/-- A new manager has its settings, and an access point at most. -/
theorem Manager.new_value (settings : Config.Settings) :
    ∃ apn, (new settings).value = { settings, apn } := by
  unfold new
  cases settings.apnOverride with
  | none => exact ⟨{}, rfl⟩
  | some given =>
    dsimp only
    generalize Apn.Chosen.accept {} given.apn.text given.username.text
      given.password.text .configured = found
    obtain ⟨⟨accepted, apn⟩, lines⟩ := found
    cases accepted with
    | true => exact ⟨apn, rfl⟩
    | false => exact ⟨apn, rfl⟩

/-- A new manager is `Consistent` with the first record. -/
theorem Manager.consistent_new (settings : Config.Settings) :
    (new settings).value.Consistent {} := by
  obtain ⟨apn, hn⟩ := new_value settings
  rw [hn]
  exact ⟨Link.coherent_fresh, nofun, ⟨fun _ => rfl, fun _ => rfl⟩,
    ⟨nofun, nofun⟩, nofun⟩

/-- The state that is shown is the one that was recorded, but for a
session that has ended since. -/
theorem Manager.state_cases (m : Manager) (l : Link) :
    m.state l = m.recorded ∧ (m.recorded = .connected → l.connected = true)
      ∨ m.state l = .disconnected ∧ m.recorded = .connected
        ∧ l.connected = false := by
  unfold state
  by_cases hr : m.recorded = .connected
  · cases hl : l.connected with
    | true => exact .inl ⟨by simp [hr], fun _ => rfl⟩
    | false => exact .inr ⟨by simp [hr], hr, rfl⟩
  · exact .inl ⟨by simp [hr], fun h => absurd h hr⟩

/-- Manager and link are `Consistent` wherever operations and reports
lead. -/
theorem Reached.consistent {settings : Config.Settings} {m : Manager}
    {l : Link} (h : Reached settings m l) : m.Consistent l := by
  induction h with
  | made => exact Manager.consistent_new settings
  | heard report _ ih => exact (Manager.stable_consistent _).hear _ _ ih
  | operated o _ hr ih => exact (o.keeps _ _ ih).of_runs hr

/-- Between operations, whatever their order, their failures and the
reports before, during and between them (`Reached`): everybody agrees on
whether the link is connected, a connected link is set up and has an
address, the traffic goes over it only while it is connected, and what the
manager says of itself fits. -/
theorem Reached.agreement {settings : Config.Settings} {m : Manager}
    {l : Link} (h : Reached settings m l) :
    (m.state l = .connected ↔ l.connected = true)
      ∧ (l.connected = true ↔ l.status.isConnected .gsm = true)
      ∧ (l.connected = true → m.active = true ∧ l.address.isSome = true)
      ∧ (l.status.active = some .gsm → l.connected = true)
      ∧ (m.state l = .uninitialized ↔ m.active = false)
      ∧ m.state l ≠ .hardwareReset
      ∧ m.state l ≠ .connecting
      ∧ (m.state l = .failed → m.lastError.isSome = true) := by
  have hc := h.consistent
  have hflag : l.connected = true ↔ l.status.isConnected .gsm = true := by
    rw [hc.coherent.flag]
  have hup : l.connected = true →
      m.active = true ∧ l.address.isSome = true := fun hl =>
    ⟨hc.active_of_recorded (hc.recorded hl), hc.coherent.address hl⟩
  rcases m.state_cases l with ⟨hs, hl⟩ | ⟨hs, hr, hl⟩
  · rw [hs]
    exact ⟨⟨hl, hc.recorded⟩, hflag, hup, hc.coherent.selector,
      hc.setUp, hc.settled.1, hc.settled.2, hc.explained⟩
  · have ha := hc.active_of_recorded hr
    rw [hs]
    exact ⟨by simp [hl], hflag, hup, hc.coherent.selector, by simp [ha],
      nofun, nofun, nofun⟩

-- =========================================================== a session

theorem amid_obliging (call : GsmCall) (l : Link) :
    Surroundings.amid call l (obliging call l).1 (obliging call l).2 := by
  cases call with
  | record call => exact RecordCall.spans_apply call l
  | awaitEvent timeout => exact ⟨[.ipAcquired _], rfl, rfl⟩
  | modem call => cases call <;> exact ⟨[], rfl⟩
  | drive pin high => exact ⟨[], rfl⟩
  | netif call => cases call <;> exact ⟨[], rfl⟩
  | build uart => exact ⟨[], rfl⟩
  | resolve host timeout => exact ⟨[], rfl⟩

/-- What becomes of a link that is brought up there. -/
def obliged : (Except GsmError Unit × Manager) × Link :=
  (Manager.bringUp.run (Manager.new .standard).value).run obliging {}

/-- The obliged manager is reached by a set-up and a connection. -/
theorem reached_obliged : Reached .standard obliged.1.2 obliged.2 := by
  obtain ⟨t, h⟩ := Proc.runs_of_run id amid_obliging
    (Manager.bringUp.run (Manager.new .standard).value) {}
  exact .operated .bringUp .made h

/-- The agreement where there is a session. -/
theorem Reached.agreement_obliged :
    obliged.2.connected = true
      ∧ obliged.1.2.state obliged.2 = .connected
      ∧ obliged.1.2.active = true := by
  have hl : obliged.2.connected = true := by decide +kernel
  have h := reached_obliged.agreement
  exact ⟨hl, h.1.2 hl, (h.2.2.1 hl).1⟩

end Uplink.Gsm
