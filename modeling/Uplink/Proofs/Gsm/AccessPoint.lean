/-
The access point, once found, is kept.

# What an operation does to it

An operation that begins with an access point sends none of the commands
of a search and ends with the same one. An operation that begins without
either ends without, whatever it asked for, or finds one: then the search
says so, and after that it is over (`Searches`). These are all ways there
are, and a sequence of programs is one of them if its parts are
(`Searches.trans`). That the three texts and the source are stored
together or not at all is what makes the middle case exact: a search in
vain leaves the choice as it was.

# Histories

What an operation does to the access point, a history does
(`Chronicled.sticks`), and nobody but an operation touches it.
-/
import Uplink.Proofs.Gsm.SetUp
import Uplink.Proofs.Gsm.Verdict

namespace Uplink.Gsm

open Modem (Session SessionCall)
open Proc (Asks Records Runs Shows)

variable {α β ε : Type}

-- =========================================================== the search

/-- The commands that a search sends. -/
def detectionCommands : List String :=
  ["AT+CGDCONT=1,\"IP\",\"\"", "AT+CGDCONT?", "AT+CIMI", "AT+COPS=3,2",
   "AT+COPS?"]

/-- The call sends one of them, whatever it takes for an answer. -/
def GsmCall.detects : GsmCall → Bool
  | modem (.exchange command ..) => command ∈ detectionCommands
  | _ => false

/-- A transcript without any of them. -/
def Transcript.Undetecting (t : Transcript) : Prop :=
  ∀ e ∈ t, e.call.detects = false

/-- What becomes of the access point in use while these calls are made. -/
inductive Searches (c : Apn.Chosen) : Transcript → Apn.Chosen → Prop
  /-- no command of a search is sent -/
  | unasked {t : Transcript} : t.Undetecting → Searches c t c
  /-- there was none, and there is none -/
  | vain {t : Transcript} : c.isDetected = false → Searches c t c
  /-- there was none; one is found, which ends the search -/
  | found {c' : Apn.Chosen} {before after : Transcript}
      (strategy : Apn.Strategy) :
      c.isDetected = false → c'.source = some strategy.source →
      c'.apn.text ≠ "" → after.Undetecting →
      Searches c (before
        ++ ⟨.modem (.log (Apn.announcement strategy c')), ()⟩ :: after) c'

theorem Transcript.Undetecting.append {t t' : Transcript}
    (h : t.Undetecting) (h' : t'.Undetecting) :
    Transcript.Undetecting (t ++ t') :=
  fun e he => (List.mem_append.1 he).elim (h e) (h' e)

namespace Searches

variable {c c' c'' : Apn.Chosen} {t t' : Transcript}

/-- What is there stays as it is, and is not searched for. -/
theorem kept (h : Searches c t c') (hc : c.isDetected = true) :
    c' = c ∧ t.Undetecting := by
  cases h with
  | unasked ht => exact ⟨rfl, ht⟩
  | vain hn => exact absurd (hc.symm.trans hn) (by decide)
  | found strategy hn => exact absurd (hc.symm.trans hn) (by decide)

/-- Where there is none afterwards, nothing has changed. -/
theorem undetected (h : Searches c t c') (hc : c'.isDetected = false) :
    c' = c := by
  cases h with
  | unasked => rfl
  | vain => rfl
  | found strategy _ hs =>
    exact absurd ((Apn.Chosen.detected_of_source hs).symm.trans hc)
      (by decide)

/-- One that was found was `announced`. -/
theorem announced (h : Searches c t c') (hc : c.isDetected = false)
    (hc' : c'.isDetected = true) :
    ∃ strategy before after,
      c'.source = some (Apn.Strategy.source strategy)
        ∧ t = before
          ++ ⟨.modem (.log (Apn.announcement strategy c')), ()⟩ :: after
        ∧ Transcript.Undetecting after := by
  cases h with
  | unasked => exact absurd (hc'.symm.trans hc) (by decide)
  | vain => exact absurd (hc'.symm.trans hc) (by decide)
  | found strategy _ hs _ hafter =>
    exact ⟨strategy, _, _, hs, rfl, hafter⟩

/-- If there was an access point before a search, there is one after it. -/
theorem named (h : Searches c t c') (hc : c.Named) : c'.Named := by
  cases h with
  | unasked => exact hc
  | vain => exact hc
  | found strategy _ _ htext => exact fun _ => htext

/-- One program after the other. -/
theorem trans (h : Searches c t c') (h' : Searches c' t' c'') :
    Searches c (t ++ t') c'' := by
  cases h with
  | unasked ht =>
    cases h' with
    | unasked ht' => exact .unasked (ht.append ht')
    | vain hn => exact .vain hn
    | found strategy hn hs htext hafter =>
      rw [← List.append_assoc]
      exact .found strategy hn hs htext hafter
  | vain hn =>
    cases h' with
    | unasked => exact .vain hn
    | vain => exact .vain hn
    | found strategy hn hs htext hafter =>
      rw [← List.append_assoc]
      exact .found strategy hn hs htext hafter
  | found strategy hn hs htext hafter =>
    obtain ⟨rfl, ht'⟩ := h'.kept (Apn.Chosen.detected_of_source hs)
    rw [List.append_assoc, List.cons_append]
    exact .found strategy hn hs htext (hafter.append ht')

end Searches

-- ========================================================= its programs

namespace Manager

/-- The program `Searches` as it should, whatever it is answered. -/
def Sticks (act : Act α) : Prop :=
  ∀ m, m.apn.Named → Shows act m fun t _ m' => Searches m.apn t m'.apn

theorem Sticks.bind {act : Act α} {f : α → Act β} (h : Sticks act)
    (hf : ∀ a, Sticks (f a)) : Sticks (act >>= f) := by
  intro m hm
  refine Proc.shows_bind.2 ((h m hm).mono fun t a m' ht => ?_)
  refine (hf a m' (ht.named hm)).mono fun t' b m'' ht' => ?_
  exact ht.trans ht'

theorem Sticks.attempt {act : Act α} (h : Sticks act) :
    Sticks (ExceptT.lift act : ExceptT ε Act α).run := by
  intro m hm
  exact Proc.shows_attempt_lift.2 (h m hm)

theorem Sticks.attempt_bind {act : ExceptT ε Act α}
    {f : α → ExceptT ε Act β} (h : Sticks act.run)
    (hf : ∀ a, Sticks (f a).run) : Sticks (act >>= f).run := by
  refine Sticks.bind h fun r => ?_
  cases r with
  | ok a => exact hf a
  | error e => exact fun m _ => .unasked nofun

/-- What leaves the access point alone and does not search `Sticks` to
it. -/
theorem Spares.sticks {P : GsmCall → Prop} {act : Act α}
    (h : Spares Manager.apn P act)
    (hP : ∀ call, P call → call.detects = false) : Sticks act := by
  intro m _
  refine (h m).records.mono fun t x hx => ?_
  show Searches m.apn t x.2.apn
  rw [hx.2]
  exact .unasked fun e he => hP _ (hx.1 e he)

theorem sticks_pure (a : α) : Sticks (pure a) :=
  fun _ _ => .unasked nofun

theorem sticks_modify {f : Manager → Manager}
    (hf : ∀ m, (f m).apn = m.apn) : Sticks (modify f) := by
  intro m _
  show Searches m.apn [] (f m).apn
  rw [hf]
  exact .unasked nofun

theorem sticks_ask {call : GsmCall} (hc : call.detects = false) :
    Sticks (ask call) :=
  Spares.sticks (passive_ask (P := fun c => c.detects = false) hc)
    fun _ h => h

theorem sticks_session {p : Proc Session α}
    (hp : p.Asks fun c => (GsmCall.modem c).detects = false) :
    Sticks (session p) :=
  Spares.sticks (passive_session (P := fun c => c.detects = false) hp)
    fun _ h => h

-- ------------------------------------------------------ the other steps

theorem detects_of_silent {call : GsmCall} (h : call.silent = true) :
    call.detects = false := by
  cases call with
  | modem call =>
    cases call with
    | exchange => cases h
    | _ => rfl
  | _ => rfl

/-- The steps that do not search and do not name an access point. -/
def unnaming : List Step :=
  Step.documented.filter (· ∉ [.accessPoint, .context])

/-- Of the steps of a connection, only those for the access point and for
the context may send a command of a search. -/
theorem detects_of_covers {k : Step} {call : GsmCall}
    (hk : k ∈ unnaming) (h : k.covers call) : call.detects = false := by
  rcases h with hs | ho
  · exact detects_of_silent hs
  cases k with
  | accessPoint => exact absurd hk (by decide)
  | context => exact absurd hk (by decide)
  | escape | signal | attach =>
    rcases ho with rfl | rfl
    · decide
    · decide
  | credentials =>
    obtain ⟨user, password, rfl⟩ := ho
    rfl
  | session =>
    rcases ho with rfl | ⟨_, _, rfl⟩ | ⟨_, rfl⟩ | rfl <;> rfl
  | look | wake | sim | registration | packetDomain | cleanUp | forget
  | dial =>
    cases ho
    decide

theorem sticks_advisory {k : Step} {p : Proc Session Unit}
    (hp : k.Within p) (hk : k ∈ unnaming) : Sticks (advisory p).run :=
  Sticks.attempt (sticks_session (hp.mono fun _ => detects_of_covers hk))

theorem sticks_fatal {k : Step} {p : Proc Session (Except GsmError α)}
    (hp : k.Within p) (hk : k ∈ unnaming) : Sticks (fatal p).run :=
  sticks_session (hp.mono fun _ => detects_of_covers hk)

theorem sticks_reported {k : Step}
    {p : Proc Session (Except GsmError Unit)} (hp : k.Within p)
    (hk : k ∈ unnaming) : Sticks (reported p).run := by
  refine (spares_reported hp).sticks fun call hc => ?_
  rcases hc with rfl | hc
  · decide
  · exact detects_of_covers hk hc

-- ------------------------------------------------- naming and searching

/-- Naming an access point is no command of a search, unless it has no
name. -/
theorem contextCommand_not_mem {apn : String} (h : apn ≠ "") :
    Steps.contextCommand apn ∉ detectionCommands := by
  have hfirst : Steps.contextCommand apn ≠ "AT+CGDCONT=1,\"IP\",\"\"" := by
    intro he
    have hl := contextCommand_length apn
    rw [he] at hl
    have h20 : "AT+CGDCONT=1,\"IP\",\"\"".length = 20 := by decide
    exact h (String.length_eq_zero_iff.1 (by omega))
  intro hm
  rcases List.mem_cons.1 hm with he | hm
  · exact hfirst he
  · have hshort : ∀ command ∈ detectionCommands.tail,
        command.length < 20 := by decide
    exact contextCommand_ne (hshort _ hm) apn rfl

theorem sticks_configureContext : Sticks configureContext := by
  intro m hm
  refine Proc.shows_bind.2 (Proc.shows_get.2 ?_)
  cases hd : m.apn.isDetected with
  | false =>
    refine shows_session.2 ((Proc.records_runs _).mono fun t _ _ => ?_)
    exact .vain hd
  | true =>
    refine sticks_session (Step.asks_configureContext ?_ fun _ => rfl) m hm
    exact decide_eq_false (contextCommand_not_mem (hm hd))

/-- A search that finds something ends with saying so. -/
theorem sticks_findAccessPoint : Sticks findAccessPoint.run := by
  intro m hm
  unfold findAccessPoint
  rw [ExceptT.run_mk, Proc.shows_bind, Proc.shows_get]
  split
  · exact ((sticks_ask rfl).bind fun _ => sticks_pure _) m hm
  next hd =>
    have hd : m.apn.isDetected = false := Bool.eq_false_iff.2 hd
    refine Proc.shows_bind.2 (Proc.shows_lift.2
      (Proc.records_ask.2 fun _ => ?_))
    refine Proc.shows_bind.2 (shows_session.2
      ((Apn.records_detect m.settings.fallbackApns m.apn).mono
        fun t x h => ?_))
    obtain ⟨result, apn⟩ := x
    have said (c : Apn.Chosen) (line : Line) :
        Searches c [⟨.modem (.log line), ()⟩] c :=
      .unasked fun e he => List.mem_singleton.1 he ▸ rfl
    -- a search in vain leaves the access point unnamed; one that finds
    -- announces it
    have searched : Searches m.apn (t.map Event.ofSession) apn := by
      rcases h with h | ⟨strategy, before, -, hs, htext, rfl⟩
      · obtain ⟨rfl, rfl⟩ := Prod.mk.inj h
        exact .vain hd
      · rw [List.map_append]
        exact .found strategy hd hs htext nofun
    refine Proc.shows_bind.2 (Proc.shows_set.2 ?_)
    cases result with
    | ok source =>
      refine Proc.shows_bind.2 (Proc.shows_lift.2
        (Proc.records_ask.2 fun _ => Proc.shows_pure.2 ?_))
      exact (said _ _).trans (searched.trans (said _ _))
    | error e =>
      refine Proc.shows_bind.2 (Proc.shows_lift.2
        (Proc.records_ask.2 fun _ => Proc.shows_pure.2 ?_))
      exact (said _ _).trans (searched.trans (said _ _))

-- -------------------------------------------------------- operations

theorem detects_of_concludes {call : GsmCall} (h : concludes call) :
    call.detects = false := by
  rcases h with (hs | ⟨_, _, rfl⟩ | ⟨_, _, rfl⟩) | (hs | rfl | rfl)
    | ⟨_, rfl⟩ | rfl
  · exact detects_of_silent hs
  · rfl
  · rfl
  · exact detects_of_silent hs
  · rfl
  · decide
  · rfl
  · rfl

theorem detects_of_initializes {call : GsmCall} (h : initializes call) :
    call.detects = false := by
  rcases h with (hs | ⟨_, _, rfl⟩) | (hs | ⟨_, rfl⟩ | ⟨_, rfl⟩) | rfl
  · exact detects_of_silent hs
  · rfl
  · exact detects_of_silent hs
  · rfl
  · rfl
  · rfl

theorem detects_of_measures {call : GsmCall} (h : measures call) :
    call.detects = false := by
  rcases h with hs | rfl | rfl
  · exact detects_of_silent hs
  · rfl
  · rfl

theorem sticks_log (line : Line) : Sticks (log line) :=
  sticks_ask rfl

theorem sticks_get : Sticks get :=
  fun _ _ => .unasked nofun

theorem sticks_enter (state : GsmState) : Sticks (enter state) :=
  sticks_modify fun _ => rfl

theorem sticks_sequence : Sticks sequence.run := by
  refine Sticks.attempt_bind
    (sticks_advisory Step.within_forceCommandMode (by decide)) fun _ => ?_
  refine Sticks.attempt_bind
    (sticks_fatal Step.within_wakeUp (by decide)) fun _ => ?_
  refine Sticks.attempt_bind ((spares_keepSignal fun _ _ => rfl).sticks
    fun _ => detects_of_covers (by decide)) fun _ => ?_
  refine Sticks.attempt_bind
    (sticks_advisory Step.within_checkSim (by decide)) fun _ => ?_
  refine Sticks.attempt_bind
    (sticks_reported Step.within_waitForRegistration (by decide))
    fun _ => ?_
  refine Sticks.attempt_bind sticks_findAccessPoint fun _ => ?_
  refine Sticks.attempt_bind
    (sticks_advisory Step.within_waitForGprs (by decide)) fun _ => ?_
  refine Sticks.attempt_bind
    (sticks_advisory Step.within_ensureAttached (by decide)) fun _ => ?_
  refine Sticks.attempt_bind sticks_configureContext.attempt fun _ => ?_
  refine Sticks.attempt_bind (passive_authenticate.sticks
    fun _ => detects_of_covers (by decide)).attempt fun _ => ?_
  refine Sticks.attempt_bind
    (sticks_advisory Step.within_deactivateContext (by decide))
    fun _ => ?_
  refine Sticks.attempt_bind (sticks_ask rfl).attempt fun _ => ?_
  refine Sticks.attempt_bind
    (sticks_reported Step.within_enterDataMode (by decide)) fun _ => ?_
  exact spares_awaitSession.sticks fun _ => detects_of_concludes

theorem sticks_init : Sticks init :=
  (spares_init ⟨fun _ _ => rfl, fun _ _ => rfl⟩).sticks
    fun _ => detects_of_initializes

theorem sticks_connect : Sticks connect := by
  refine sticks_get.bind fun m => ?_
  show Sticks (if !m.active then _ else _)
  split
  · exact (sticks_log _).bind fun _ => sticks_pure _
  · refine Sticks.bind (sticks_ask rfl) fun connected => ?_
    show Sticks (if connected then _ else _)
    split
    · exact (sticks_log _).bind fun _ => sticks_pure _
    · refine (sticks_log _).bind fun _ => ?_
      refine (sticks_enter _).bind fun _ => ?_
      refine sticks_sequence.bind fun r => ?_
      cases r with
      | ok =>
        exact Sticks.bind (sticks_modify fun _ => rfl) fun _ =>
          (sticks_log _).bind fun _ => sticks_pure _
      | error e =>
        exact (sticks_log _).bind fun _ =>
          Sticks.bind (sticks_modify fun _ => rfl) fun _ => sticks_pure _

theorem sticks_bringUp : Sticks bringUp := by
  refine sticks_init.bind fun r => ?_
  cases r with
  | ok => exact sticks_connect
  | error e => exact sticks_pure _

theorem detects_of_hangsUp {call : GsmCall} (h : hangsUp call) :
    call.detects = false := by
  rcases h with hs | rfl | rfl
  · exact detects_of_silent hs
  · rfl
  · rfl

theorem sticks_disconnect : Sticks disconnect :=
  (spares_disconnect fun _ _ => rfl).sticks fun _ => detects_of_hangsUp

theorem sticks_deinit : Sticks deinit := by
  refine (spares_deinit ⟨fun _ _ => rfl, fun _ _ => rfl⟩).sticks
    fun call hc => ?_
  rcases hc with hc | ⟨_, rfl⟩ | rfl
  · exact detects_of_hangsUp hc
  · rfl
  · rfl

theorem sticks_signalStrength : Sticks signalStrength :=
  (spares_signalStrength fun _ _ => rfl).sticks
    fun _ => detects_of_measures

end Manager

/-- Every `Operation` searches as it should. -/
theorem Operation.sticks (o : Operation) : Manager.Sticks o.act := by
  cases o with
  | init => exact Manager.sticks_init
  | connect => exact Manager.sticks_connect
  | bringUp => exact Manager.sticks_bringUp
  | disconnect => exact Manager.sticks_disconnect
  | deinit => exact Manager.sticks_deinit
  | signalStrength => exact Manager.sticks_signalStrength

-- ============================================================ histories

/-- A new manager takes a configured access point over as it is, unless
its name is empty. -/
theorem Manager.new_apn (settings : Config.Settings) :
    (∃ given, settings.apnOverride = some given ∧ given.apn.text ≠ ""
        ∧ (new settings).value.apn = ⟨given.apn, given.username,
          given.password, some .configured⟩)
      ∨ (∀ given, settings.apnOverride = some given →
          given.apn.text = "") ∧ (new settings).value.apn = {} := by
  cases ho : settings.apnOverride with
  | none =>
    refine .inr ⟨nofun, ?_⟩
    unfold new
    rw [ho]
    rfl
  | some given =>
    by_cases hg : given.apn.text = ""
    · refine .inr ⟨fun g h => Option.some_inj.1 h ▸ hg, ?_⟩
      unfold new
      rw [ho]
      dsimp only
      rw [hg, Apn.accept_nameless]
      rfl
    · refine .inl ⟨given, rfl, hg, ?_⟩
      unfold new
      rw [ho]
      dsimp only
      rw [Apn.accept_whole {} hg]
      rfl

/-- From one manager and scene to another, by operations and reports. -/
inductive Onward (m : Manager) (s : Scene) : Manager → Scene → Prop
  | here : Onward m s m s
  | heard {m' : Manager} {s' : Scene} (report : Report) :
      Onward m s m' s' → Onward m s m' (s'.hear report)
  | operated {m' m'' : Manager} {s' s'' : Scene} (o : Operation)
      {t : List (Event Surroundings)} {r : o.Answer} :
      Onward m s m' s' →
      Runs Surroundings.chronicled (o.act.run m') s' t (r, m'') s'' →
      Onward m s m'' s''

/-- A history goes on from a new manager. -/
theorem Chronicled.onward {settings : Config.Settings} {m : Manager}
    {s : Scene} (h : Chronicled settings m s) :
    Onward (Manager.new settings).value {} m s := by
  induction h with
  | made => exact .here
  | heard report _ ih => exact .heard report ih
  | operated o _ hr ih => exact .operated o ih hr

/-- What becomes of the access point goes by the calls in between. -/
theorem Onward.searches {m m' : Manager} {s s' : Scene}
    (h : Onward m s m' s') (hm : m.apn.Named) :
    ∃ t, Happening.calls s'.past = Happening.calls s.past ++ t
      ∧ Searches m.apn t m'.apn := by
  induction h with
  | here => exact ⟨[], (List.append_nil _).symm, .unasked nofun⟩
  | @heard m' s' report _ ih =>
    obtain ⟨t, hp, ht⟩ := ih
    refine ⟨t, ?_, ht⟩
    have hcalls : Happening.calls (s'.hear report).past
        = Happening.calls s'.past ++ [] :=
      Happening.calls_append _ [.heard report]
    rw [hcalls, List.append_nil, hp]
  | operated o _ hr ih =>
    obtain ⟨t, hp, ht⟩ := ih
    have ht' := (o.sticks _ (ht.named hm)).of_runs hr
    refine ⟨_, ?_, ht.trans ht'⟩
    rw [Surroundings.chronicled_calls hr, hp, List.append_assoc]

/-- Between operations an access point that counts as found (`isDetected`)
has a name, and where none was found nothing is half there. From such a
point on, whatever operations and reports follow (`Onward`), one that was
found is kept as it is and no command of a search is sent; one that is
found on the way is announced, and no command of a search is sent after
that. A configured one with a name is in use from the start. -/
theorem Chronicled.access_point {settings : Config.Settings} {m : Manager}
    {s : Scene} (h : Chronicled settings m s) :
    (m.apn.isDetected = true → m.apn.apn.text ≠ "")
      ∧ (m.apn.isDetected = false → m.apn = {})
      ∧ (∀ given, settings.apnOverride = some given →
          given.apn.text ≠ "" →
          m.apn = ⟨given.apn, given.username, given.password,
              some .configured⟩
            ∧ Transcript.Undetecting (Happening.calls s.past))
      ∧ ∀ m' s', Onward m s m' s' →
          ∃ t, Happening.calls s'.past = Happening.calls s.past ++ t
            ∧ (m.apn.isDetected = true →
                m'.apn = m.apn ∧ Transcript.Undetecting t)
            ∧ (m.apn.isDetected = false → m'.apn.isDetected = true →
                ∃ strategy before after,
                  m'.apn.source = some (Apn.Strategy.source strategy)
                    ∧ t = before ++ ⟨.modem (.log
                        (Apn.announcement strategy m'.apn)), ()⟩ :: after
                    ∧ Transcript.Undetecting after) := by
  have hnew := Manager.new_apn settings
  have hnamed₀ : (Manager.new settings).value.apn.Named := by
    rcases hnew with ⟨given, -, htext, ha⟩ | ⟨-, ha⟩
    · rw [ha]
      exact fun _ => htext
    · rw [ha]
      exact nofun
  -- the history so far, and each that goes on from it, is one search
  obtain ⟨t₀, hp₀, ht₀⟩ := h.onward.searches hnamed₀
  have hnamed := ht₀.named hnamed₀
  refine ⟨hnamed, fun hd => ?_, fun given hg htext => ?_,
    fun m' s' hon => ?_⟩
  · have ha := ht₀.undetected hd
    rcases hnew with ⟨given, -, -, hn⟩ | ⟨-, hn⟩
    · rw [ha, hn] at hd
      cases hd
    · exact ha.trans hn
  · rcases hnew with ⟨given', hg', -, hn⟩ | ⟨hempty, -⟩
    · obtain rfl : given' = given := Option.some_inj.1 (hg'.symm.trans hg)
      obtain ⟨ha, hquiet⟩ := ht₀.kept (by rw [hn]; rfl)
      rw [hp₀]
      exact ⟨ha.trans hn, hquiet⟩
    · exact absurd (hempty given hg) htext
  · obtain ⟨t, hp, ht⟩ := hon.searches hnamed
    exact ⟨t, hp, ht.kept, ht.announced⟩

/-- A modem that names no access point: one was guessed when the link was
brought up. It has been taken down, and is brought up again with the same
guess and no search. -/
theorem Chronicled.access_point_guessed :
    let again := operate (fun call => (obliging call {}).1)
      Manager.bringUp retired.1 retired.2
    retired.1.apn.source = some .genericFallback
      ∧ retired.1.apn.apn.text = "internet"
      ∧ (Happening.calls retired.2.past).countP (·.call.detects) = 8
      ∧ again.1.2.apn = retired.1.apn
      ∧ ∃ t, Happening.calls again.2.past
          = Happening.calls retired.2.past ++ t
        ∧ Transcript.Undetecting t := by
  intro again
  obtain ⟨_, hagain⟩ := runs_operate (fun call => (obliging call {}).1)
    Manager.bringUp retired.1 retired.2
  obtain ⟨-, -, -, onward⟩ := chronicled_retired.access_point
  obtain ⟨t, hp, hkept, -⟩ :=
    onward _ _ (.operated .bringUp .here hagain)
  have hd : retired.1.apn.isDetected = true := by decide +kernel
  refine ⟨?_, ?_, ?_, (hkept hd).1, t, hp, (hkept hd).2⟩
  · decide +kernel
  · decide +kernel
  · decide +kernel

end Uplink.Gsm
