/-
What is built is taken down.

The interface is created, then its observer is subscribed, and only then
the channel is made; taking down goes the other way. Each of the three can
fail, and then what stood before it has to go. `Stage` is how much of it
stands, and `Stage.next` reads a call with its answer: it answers nothing
where the call is out of place.

# How it is shown

The stage goes along with the calls and needs nothing else of the
surroundings, so the operations are run against the automaton itself
(`staging`). Between operations the stage is the one that the manager
believes in (`Stage.between`), which `Brackets` says of each operation. A
set-up that fails ends where it began (`ensures_init`).
-/
import Mathlib.Control.Monad.Basic
import Uplink.Proofs.Gsm.Chronicle

namespace Uplink.Gsm

open Proc (Ensures)
open Timing

variable {α β : Type}

-- ============================================================== the stage

/-- How much of the link is built. -/
inductive Stage where
  | absent
  /-- the interface is created -/
  | created
  /-- its observer is subscribed, and a channel may be made -/
  | subscribed
deriving DecidableEq, Repr

namespace Stage

/-- The stage after a call, if the call is in its place. -/
def next : Stage → Event Surroundings → Option Stage
  | absent, ⟨.netif .create, .ok _⟩ => some created
  | absent, ⟨.netif .create, .error _⟩ => some absent
  | created, ⟨.netif .subscribe, .ok _⟩ => some subscribed
  | created, ⟨.netif .subscribe, .error _⟩ => some created
  | created, ⟨.netif .destroy, _⟩ => some absent
  | subscribed, ⟨.netif .unsubscribe, _⟩ => some created
  | subscribed, ⟨.netif (.setDns ..), _⟩ => some subscribed
  | subscribed, ⟨.netif (.setAuth ..), _⟩ => some subscribed
  | subscribed, ⟨.build _, _⟩ => some subscribed
  | _, ⟨.netif _, _⟩ => none
  | _, ⟨.build _, _⟩ => none
  | stage, _ => some stage

/-- The stage that a history leads to, if all its calls were in their
place. -/
def walk (past : List Happening) : Option Stage :=
  (Happening.calls past).foldlM next absent

/-- The stage between operations. -/
def between (active : Bool) : Stage :=
  if active then subscribed else absent

/-- The interfaces that stand. -/
def standing : Stage → Nat
  | absent => 0
  | created => 1
  | subscribed => 1

end Stage

/-- An interface was created. -/
def creates : Event Surroundings → Bool
  | ⟨.netif .create, .ok _⟩ => true
  | _ => false

/-- An interface was destroyed. -/
def destroys : Event Surroundings → Bool
  | ⟨.netif .destroy, _⟩ => true
  | _ => false

/-- In its place, a call that creates makes one interface more, and one
that destroys one less. -/
theorem Stage.next_balance {stage stage' : Stage}
    {event : Event Surroundings} (h : stage.next event = some stage') :
    stage.standing + (if creates event then 1 else 0)
      = stage'.standing + (if destroys event then 1 else 0) := by
  obtain ⟨call, answer⟩ := event
  cases call with
  | netif call =>
    cases call with
    | create | subscribe =>
      -- only where it succeeds is anything built
      cases stage <;> cases answer <;> cases h <;> rfl
    | _ =>
      cases stage <;> cases h
      rfl
  | build uart =>
    cases stage <;> cases h
    rfl
  | _ => cases stage <;> cases h <;> rfl

/-- Along calls that are in their place, creations and destructions
balance. -/
theorem Stage.walk_balance {events : List (Event Surroundings)}
    {stage stage' : Stage} (h : events.foldlM next stage = some stage') :
    stage.standing + events.countP creates
      = stage'.standing + events.countP destroys := by
  induction events generalizing stage with
  | nil =>
    cases h
    rfl
  | cons event rest ih =>
    rw [List.foldlM_cons] at h
    obtain ⟨stage₁, h₁, h⟩ := Option.bind_eq_some_iff.1 h
    have hstep := next_balance h₁
    have hrest := ih h
    rw [List.countP_cons, List.countP_cons]
    omega

-- =========================================================== the calls

/-- The call concerns neither the interface nor the channel. -/
def GsmCall.apart : GsmCall → Bool
  | netif _ => false
  | build _ => false
  | _ => true

/-- The call may be made while everything stands, and leaves it so. -/
def GsmCall.uses : GsmCall → Bool
  | netif (.setDns ..) => true
  | netif (.setAuth ..) => true
  | c => c.apart

/-- Calls that are in their place, with the stage they lead to. -/
def staging : Contract Surroundings Stage :=
  .reading Stage.next

/-- A call that stands `apart` leaves the `Stage`. -/
theorem next_apart {c : GsmCall} (hc : c.apart = true) (stage : Stage)
    (r : c.Answer) : stage.next ⟨c, r⟩ = some stage := by
  cases c with
  | netif call => cases hc
  | build uart => cases hc
  | _ => cases stage <;> rfl

/-- Any number of calls that stand `apart` leave the `Stage`. -/
theorem preserves_apart (stage : Stage) :
    staging.Preserves (fun c => c.apart = true) (· = stage) := by
  intro c s hc hs
  subst hs
  refine ⟨fun r => by rw [next_apart hc]; rfl, fun r stage' hr => ?_⟩
  exact (Option.some.inj ((next_apart hc s r).symm.trans hr)).symm

/-- Calls that use what stands leave it standing. -/
theorem preserves_uses :
    staging.Preserves (fun c => c.uses = true) (· = .subscribed) := by
  intro c s hc hs
  by_cases ha : c.apart = true
  · exact preserves_apart .subscribed c s ha hs
  · subst hs
    cases c with
    | netif call =>
      cases call with
      | setDns | setAuth =>
        exact ⟨fun _ => rfl, fun _ _ hr => (Option.some.inj hr).symm⟩
      | _ => cases hc
    | build uart => cases hc
    | _ => exact absurd rfl ha

namespace Manager

variable {m : Manager} {stage : Stage}

theorem uses_of_silent {c : GsmCall} (h : c.silent = true) :
    c.uses = true := by
  cases c with
  | modem call => rfl
  | _ => cases h

theorem uses_of_prepares {c : GsmCall} (h : prepares c) :
    c.uses = true := by
  rcases prepares_cases h with hs | ⟨_, _, -, rfl⟩ | rfl
    | ⟨_, _, rfl⟩ | rfl
  · exact uses_of_silent hs
  · rfl
  · rfl
  · rfl
  · rfl

/-- To have a session come up uses what stands. -/
theorem uses_of_concludes {c : GsmCall} (h : concludes c) :
    c.uses = true := by
  rcases h with (h | ⟨_, _, rfl⟩ | ⟨_, _, rfl⟩) | (h | rfl | rfl)
    | ⟨_, rfl⟩ | rfl
  · exact uses_of_silent h
  · rfl
  · rfl
  · exact uses_of_silent h
  · rfl
  · rfl
  · rfl
  · rfl

theorem apart_of_silent {c : GsmCall} (h : c.silent = true) :
    c.apart = true := by
  cases c with
  | modem call => rfl
  | _ => cases h

/-- A reset stands `apart`, as it comes before anything is built. -/
theorem apart_of_resets {c : GsmCall} (h : resets c) :
    c.apart = true := by
  rcases h with h | ⟨pin, high, rfl⟩
  · exact apart_of_silent h
  · rfl

/-- To read the signal stands `apart`. -/
theorem apart_of_measures {c : GsmCall} (h : measures c) :
    c.apart = true := by
  rcases h with h | rfl | rfl
  · exact apart_of_silent h
  · rfl
  · rfl

-- ====================================================== the operations

/-- The operation makes its calls in their place, and leaves built what
the manager believes in. -/
def Brackets (act : Act α) : Prop :=
  ∀ m, Ensures staging act m (.between m.active) fun _ m' stage =>
    stage = .between m'.active

/-- A program that concerns neither the interface nor the channel. -/
theorem Spares.brackets {act : Act α}
    (h : Spares active (fun c => c.apart = true) act) :
    Brackets act := by
  intro m
  refine (h.ensures (preserves_apart _) rfl).mono fun _ m' stage hs => ?_
  rw [hs.1]
  exact hs.2

theorem apart_log (line : Line) (a : α) :
    Spares active (fun c => c.apart = true)
      (log line >>= fun _ => pure a) :=
  Spares.bind (passive_ask rfl) fun _ => passive_pure a

/-- One call in its place. -/
theorem ensures_next {c : GsmCall} {Q : c.Answer → Manager → Stage → Prop}
    (h : ∀ r, ∃ stage', stage.next ⟨c, r⟩ = some stage' ∧ Q r m stage') :
    Ensures staging (ask c) m stage Q := by
  refine Proc.ensures_lift.2 (Proc.meets_ask.2 ⟨fun r => ?_, ?_⟩)
  · obtain ⟨stage', hn, -⟩ := h r
    rw [hn]
    rfl
  · intro r stage' hr
    obtain ⟨stage'', hn, hQ⟩ := h r
    obtain rfl := Option.some.inj (hn.symm.trans hr)
    exact hQ

theorem ensures_said {line : Line} {f : Unit → Act β}
    {Q : β → Manager → Stage → Prop}
    (h : Ensures staging (f ()) m stage Q) :
    Ensures staging (log line >>= f) m stage Q :=
  Proc.ensures_bind.2 (ensures_next fun _ =>
    ⟨stage, next_apart rfl stage _, h⟩)

/-- How a set-up (`init`) may end: all is built, or nothing is and the
manager is as it was. -/
structure Built (m : Manager) (r : Except GsmError Unit) (m' : Manager)
    (stage : Stage) : Prop where
  stage : stage = .between m'.active
  failed : ∀ e, r = .error e → m.active = false
    ∧ (∃ stage, e = .init stage)
    ∧ m' = { m with recorded := .uninitialized }

/-- Whatever fails, what stood before it is taken down. -/
theorem ensures_building (ha : m.active = false) :
    Ensures staging build m .absent (Built m) := by
  -- wherever it fails, what was built is taken down again
  have refused (stage : InitStage) :
      Ensures staging (refuse stage) m .absent (Built m) := by
    refine ⟨?_, fun e he => ⟨ha, ⟨stage, ?_⟩, rfl⟩⟩
    · show Stage.absent = .between m.active
      rw [ha]
      rfl
    · exact (Except.error.inj he).symm
  unfold build
  rw [Proc.ensures_bind, Proc.ensures_get, Proc.ensures_bind]
  refine ensures_next fun created => ?_
  cases created with
  | error e => exact ⟨.absent, rfl, ensures_said (refused _)⟩
  | ok =>
    refine ⟨.created, rfl, Proc.ensures_bind.2 (ensures_next
      fun subscribed => ?_)⟩
    cases subscribed with
    | error e =>
      refine ⟨.created, rfl, ensures_said (Proc.ensures_bind.2
        (ensures_next fun _ => ?_))⟩
      exact ⟨.absent, rfl, refused _⟩
    | ok =>
      refine ⟨.subscribed, rfl, Proc.ensures_bind.2 (ensures_next
        fun made => ?_)⟩
      cases made with
      | error e =>
        refine ⟨.subscribed, rfl, ensures_said (Proc.ensures_bind.2
          (ensures_next fun _ => ?_))⟩
        refine ⟨.created, rfl, Proc.ensures_bind.2
          (ensures_next fun _ => ?_)⟩
        exact ⟨.absent, rfl, refused _⟩
      | ok => exact ⟨.subscribed, rfl, ensures_said ⟨rfl, nofun⟩⟩

/-- From any stage between operations a set-up (`init`) builds all of it,
or takes down what it has built of it. -/
theorem ensures_init :
    Ensures staging init m (.between m.active) (Built m) := by
  unfold init
  rw [Proc.ensures_bind, Proc.ensures_get]
  split
  · exact ensures_said ⟨rfl, nofun⟩
  next ha =>
    have ha : m.active = false := Bool.eq_false_iff.2 ha
    rw [ha]
    refine ensures_said (Proc.ensures_bind.2 ?_)
    have reset := (stays_hardwareReset m).mono
      (fun _ => apart_of_resets) fun _ hx => hx
    refine (reset.meets (preserves_apart .absent) rfl).mono
      fun x stage hx => ?_
    obtain ⟨hm, rfl⟩ := hx
    rw [hm]
    refine Proc.ensures_bind.2 (ensures_next fun _ => ?_)
    have built := ensures_building
      (m := { m with recorded := .hardwareReset }) ha
    refine ⟨.absent, rfl, built.mono fun r m' stage h => ?_⟩
    exact ⟨h.stage, h.failed⟩

/-- A connection uses what stands. -/
theorem ensures_using :
    Ensures staging sequence.run m .subscribed fun _ m' stage =>
      m'.standing = m.standing ∧ stage = .subscribed := by
  refine ensures_sequence
    (fun c s hc => preserves_uses c s (uses_of_prepares hc)) ?_
    (fun _ _ _ hm hs => ⟨hm, hs⟩) ?_
  · have escape : (Surroundings.ofSession Steps.forceCommandMode).Asks
        fun c : GsmCall => c.uses = true :=
      Surroundings.asks_channel (fun _ => rfl) _
    exact escape.meets preserves_uses rfl
  · have dial : Passive (fun c => c.uses = true)
        (reported Steps.enterDataMode).run :=
      passive_channel_reported (fun _ => rfl) _
    refine dial.ends preserves_uses (fun _ _ _ hm hs => ⟨hm, hs⟩)
      fun _ m₁ s₁ hm₁ hs₁ => ?_
    have session := passive_awaitSession.mono fun _ => uses_of_concludes
    refine (session.ensures preserves_uses hs₁).mono fun _ m' s' h => ?_
    exact ⟨h.1.trans hm₁, h.2⟩

theorem brackets_connect : Brackets connect := by
  intro m
  unfold connect
  rw [Proc.ensures_bind, Proc.ensures_get]
  split
  · exact Spares.brackets (apart_log _ _) m
  next ha =>
    have ha : m.active = true := by simpa using ha
    rw [ha, Proc.ensures_bind]
    refine ensures_next fun connected => ⟨.subscribed, rfl, ?_⟩
    split
    · refine ensures_said ?_
      show Stage.subscribed = .between m.active
      rw [ha]
      rfl
    · refine ensures_said ?_
      rw [Proc.ensures_bind, ensures_enter, Proc.ensures_bind]
      refine ensures_using.mono fun r m₁ s₁ h => ?_
      have ha₁ : m₁.active = true := (active_of_standing h.1).trans ha
      have hs₁ : s₁ = .between m₁.active := by
        rw [h.2, ha₁]
        rfl
      cases r with
      | ok => exact ensures_said hs₁
      | error e => exact ensures_said hs₁

theorem brackets_bringUp : Brackets bringUp := by
  intro m
  refine Proc.ensures_bind.2 (ensures_init.mono fun r m₁ stage h => ?_)
  rw [h.stage]
  cases r with
  | ok => exact brackets_connect m₁
  | error e => exact rfl

/-- To disconnect stands `apart`. -/
theorem apart_disconnect :
    Spares active (fun c => c.apart = true) disconnect := by
  refine (spares_disconnect fun _ _ => rfl).mono fun c hc => ?_
  rcases hc with hc | rfl | rfl
  · exact apart_of_silent hc
  · rfl
  · rfl

/-- Taking down goes the other way, once. -/
theorem brackets_deinit : Brackets deinit := by
  intro m
  unfold deinit
  rw [Proc.ensures_bind, Proc.ensures_get]
  split
  next ha =>
    refine ensures_said (Proc.ensures_bind.2 ?_)
    refine ((apart_disconnect.ensures (preserves_apart _) rfl)).mono
      fun _ m₁ stage h => ?_
    obtain ⟨-, rfl⟩ := h
    rw [ha, Proc.ensures_bind, Proc.ensures_modify, Proc.ensures_bind]
    refine ensures_next fun _ => ⟨.created, rfl, Proc.ensures_bind.2 ?_⟩
    refine ensures_next fun _ => ⟨.absent, rfl, Proc.ensures_bind.2 ?_⟩
    exact ensures_next fun _ => ⟨.absent, rfl, rfl⟩
  · exact Spares.brackets (passive_ask rfl) m

theorem brackets_signalStrength : Brackets signalStrength := by
  refine Spares.brackets fun m => ?_
  exact (passive_signalStrength m).mono (fun _ => apart_of_measures)
    fun _ => active_of_standing

end Manager

/-- Every `Operation` makes its calls in their place. -/
theorem Operation.brackets (o : Operation) : Manager.Brackets o.act := by
  cases o with
  | init => exact fun m => Manager.ensures_init.mono fun _ _ _ h => h.stage
  | connect => exact Manager.brackets_connect
  | bringUp => exact Manager.brackets_bringUp
  | disconnect => exact Manager.apart_disconnect.brackets
  | deinit => exact Manager.brackets_deinit
  | signalStrength => exact Manager.brackets_signalStrength

-- ========================================================== whole runs

open Surroundings (chronicled)

/-- A run takes the `walk` on, if its program keeps to the stages. -/
theorem Stage.walk_run {act : Manager.Act α} {m m' : Manager}
    {s s' : Scene} {t : List (Event Surroundings)} {a : α}
    {stage : Stage} {Q : α → Manager → Stage → Prop}
    (hs : walk s.past = some stage)
    (h : Ensures staging act m stage Q)
    (hr : Proc.Runs chronicled (act.run m) s t (a, m') s') :
    ∃ stage', walk s'.past = some stage' ∧ Q a m' stage' := by
  obtain ⟨stage', ht, hQ⟩ := Proc.Meets.reads h hr
  refine ⟨stage', ?_, hQ⟩
  unfold walk at hs ⊢
  rw [Surroundings.chronicled_calls hr, List.foldlM_append, hs]
  exact ht

/-- Between operations the stage is the one that the manager believes
in. -/
theorem Chronicled.stage {settings : Config.Settings} {m : Manager}
    {s : Scene} (h : Chronicled settings m s) :
    Stage.walk s.past = some (.between m.active) := by
  induction h with
  | made =>
    obtain ⟨apn, hn⟩ := Manager.new_value settings
    rw [hn]
    rfl
  | @heard m s report _ ih =>
    show Stage.walk (s.past ++ [.heard report]) = _
    unfold Stage.walk at ih ⊢
    rw [Happening.calls_append]
    exact (congrArg (List.foldlM _ _) (List.append_nil _)).trans ih
  | operated o _ hr ih =>
    obtain ⟨stage', hw, rfl⟩ := Stage.walk_run ih (o.brackets _) hr
    exact hw

/-- To forget events after a `Report` is to forget them before it, but for
what the report tells. -/
theorem Link.hear_resetEvents (l : Link) (report : Report) :
    (l.hear report).resetEvents
      = (l.resetEvents.hear report).resetEvents := by
  cases report with
  | linkStatus code =>
    rw [hear_linkStatus, hear_linkStatus]
    split <;> rfl
  | _ => rfl

/-- Since then the record only heard reports and gave events away. -/
def Scene.Since (s s' : Scene) : Prop :=
  ∃ later, s'.past = s.past ++ later
    ∧ s'.link.resetEvents
      = (s.link.hearAll (Happening.reports later)).resetEvents

/-- What happened since a `Scene` did so whatever is reported after it. -/
theorem Scene.lasts_since (s : Scene) : Lasts s.Since := by
  rintro s' report ⟨later, hp, hl⟩
  refine ⟨later ++ [.heard report], ?_, ?_⟩
  · show s'.past ++ [.heard report] = _
    rw [hp, List.append_assoc]
  · show (s'.link.hear report).resetEvents = _
    rw [Happening.reports_append, Link.hearAll, List.foldl_append,
      Link.hear_resetEvents, hl, ← Link.hear_resetEvents]
    rfl

/-- The same for `quiet` calls. -/
theorem Scene.preserves_since (s : Scene) :
    chronicled.contract.Preserves (fun c => c.quiet = true) s.Since := by
  refine s.lasts_since.preserved (fun _ hc => hc) ?_
  rintro s' event - ⟨later, hp, hl⟩
  refine ⟨later ++ [.asked event], ?_, ?_⟩
  · show s'.past ++ [.asked event] = _
    rw [hp, List.append_assoc]
  · have hleaves : (event.call.leaves s'.link).resetEvents
        = s'.link.resetEvents := by
      unfold GsmCall.leaves
      split <;> rfl
    refine hleaves.trans (hl.trans ?_)
    rw [Happening.reports_append]
    exact congrArg (fun reports => (s.link.hearAll reports).resetEvents)
      (List.append_nil _).symm

/-- Whatever fails in whatever order of operations, the calls on the
interface are in their place (`Stage.walk`), between operations everything
stands or nothing does, as the manager believes, and as many interfaces
were created as destroyed but for the one that stands. A set-up that fails
leaves nothing built and the manager as it was, and of the record it took
an event at most. -/
theorem Chronicled.bracketed {settings : Config.Settings} {m : Manager}
    {s : Scene} (h : Chronicled settings m s) :
    Stage.walk s.past
        = some (if m.active = true then .subscribed else .absent)
      ∧ (Happening.calls s.past).countP creates
        = (Happening.calls s.past).countP destroys
          + (if m.active = true then 1 else 0)
      ∧ ∀ {t : List (Event Surroundings)} {e : GsmError} {m' : Manager}
          {s' : Scene},
          Proc.Runs chronicled (Manager.init.run m) s t (.error e, m')
            s' →
          (∃ stage, e = .init stage)
            ∧ m.active = false
            ∧ Stage.walk s'.past = some .absent
            ∧ m' = m
            ∧ m'.state s'.link = .uninitialized
            ∧ s'.link.connected = s.link.connected
            ∧ ∃ later, s'.past = s.past ++ later
              ∧ s'.link.resetEvents
                = (s.link.hearAll
                    (Happening.reports later)).resetEvents := by
  have hstage := h.stage
  refine ⟨hstage, ?_, fun {t e m' s'} hr => ?_⟩
  -- the stage is walked over the whole past, and counts what stands
  · have hb := Stage.walk_balance hstage
    have hn : (Stage.between m.active).standing
        = if m.active = true then 1 else 0 := by
      cases m.active <;> rfl
    rw [hn] at hb
    have h0 : Stage.absent.standing = 0 := rfl
    omega
  · obtain ⟨stage', hw, hbuilt⟩ :=
      Stage.walk_run hstage Manager.ensures_init hr
    obtain ⟨ha, he, hm⟩ := hbuilt.failed e rfl
    have hc := h.reached.consistent
    -- the state that a failed set-up records is the one an inactive
    -- manager is in
    have hm : m' = m := by
      rw [hm, ← hc.setUp.2 ha]
    subst hm
    have hd := hc.down_of_inactive ha
    have hnone : Stage.walk s'.past = some .absent := by
      rw [hw, hbuilt.stage, ha]
      rfl
    have quiet := Manager.only_init.mono
      fun _ => Manager.quiet_of_initializes
    obtain ⟨later, hp, hl⟩ := ((quiet.ensures s.preserves_since
      ⟨[], (List.append_nil _).symm, rfl⟩).of_runs hr).2
    have hdown : s'.link.connected = false := by
      have hconnected := congrArg Link.connected hl
      exact hconnected.trans
        (Link.stable_disconnected.hearAll hd.disconnected _)
    refine ⟨he, ha, hnone, rfl, ?_, ?_, later, hp, hl⟩
    · unfold Manager.state
      rw [hc.setUp.2 ha]
      rfl
    · rw [hdown, hd.disconnected]

-- =========================================================== a failure

/-- Surroundings in which no channel can be made. -/
def driverless : (call : GsmCall) → call.Answer
  | .build _ => .error .io
  | call => (obliging call {}).1

/-- An operation in them, or where nothing is refused; nothing is
reported. -/
def operate {α : Type} (reply : (call : GsmCall) → call.Answer)
    (act : Manager.Act α) (m : Manager) (s : Scene) :
    (α × Manager) × Scene :=
  (act.run m).run (Scene.answering (fun _ => []) reply) s

/-- To `operate` with some replies is one way in which an operation may
run. -/
theorem runs_operate {α : Type} (reply : (call : GsmCall) → call.Answer)
    (act : Manager.Act α) (m : Manager) (s : Scene) :
    ∃ t, Proc.Runs chronicled (act.run m) s t (operate reply act m s).1
      (operate reply act m s).2 :=
  Proc.runs_of_run id (Scene.chronicled_answering _ reply) _ s

/-- A manager that was set up and taken down again. -/
def retired : Manager × Scene :=
  let reply (call : GsmCall) := (obliging call {}).1
  let up := operate reply Manager.bringUp (Manager.new .standard).value {}
  let down := operate reply Manager.deinit up.1.2 up.2
  (down.1.2, down.2)

theorem chronicled_retired : Chronicled .standard retired.1 retired.2 := by
  obtain ⟨_, hup⟩ := runs_operate (fun call => (obliging call {}).1)
    Manager.bringUp (Manager.new .standard).value {}
  obtain ⟨_, hdown⟩ := runs_operate (fun call => (obliging call {}).1)
    Manager.deinit _ _
  exact .operated .deinit (.operated .bringUp .made hup) hdown

/-- The next `init` fails at the channel and leaves it at that. -/
theorem Chronicled.bracketed_driverless :
    let failed := operate driverless Manager.init retired.1 retired.2
    failed.1.1 = .error (.init .modemDriver)
      ∧ Stage.walk failed.2.past = some .absent
      ∧ failed.1.2 = retired.1
      ∧ (Happening.calls retired.2.past).countP creates = 1
      ∧ (Happening.calls failed.2.past).countP creates = 2 := by
  intro failed
  obtain ⟨t, hr⟩ :=
    runs_operate driverless Manager.init retired.1 retired.2
  obtain ⟨-, -, hinit⟩ := chronicled_retired.bracketed
  have he : failed.1.1 = .error (.init .modemDriver) := by decide +kernel
  have hr : Proc.Runs chronicled (Manager.init.run retired.1) retired.2 t
      (.error (.init .modemDriver), failed.1.2) failed.2 := by
    rw [← he]
    exact hr
  obtain ⟨-, -, hw, hm, -⟩ := hinit hr
  refine ⟨he, hw, hm, ?_, ?_⟩
  · decide +kernel
  · decide +kernel

end Uplink.Gsm
