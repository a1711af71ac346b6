/-
A connection begins afresh.

What earlier sessions left behind is of two kinds. The manager still has
what it recorded of them: how far it got, the last error, the last reading
of the signal. And the record of the link still has an event that nobody
took, an address that nobody cleared, and whatever is reported until a
connection forgets it, right before the dial. `connect_afresh` says that
none of this is to be seen from outside: two connections that differ in it
make the same calls, get the same answers and end in the same way.

# How it is shown

The two kinds are dealt with one after the other. The program of a
connection does not read what the manager recorded (`Manager.Oblivious`),
so with the one record of the link or the other it is the same program.
And against two records it gets the same answers (`Abreast`): before the
pending event is forgotten it only looks whether the link is connected, and
afterwards the records hear the same. They agree on the event at once, but
on the address only when one is reported (`Link.Even`). That is enough: a
session is confirmed after an address was waited for, and from then on they
agree on both (`Link.Level`).
-/
import Uplink.Proofs.Gsm.Confirmation
import Uplink.Proofs.Pairs

namespace Uplink.Gsm

open Proc (Ensures Parallel noting pairing)
open Timing

-- ============================================== what a connection reads

namespace Manager

variable {α β : Type} {m m' : Manager}

/-- The managers are set up alike. What they recorded of the link may be
anything. -/
structure Alike (m m' : Manager) : Prop where
  settings : m.settings = m'.settings
  active : m.active = m'.active
  apn : m.apn = m'.apn

/-- From managers that are `Alike`, the programs make the same calls, and
the managers are alike again. -/
def Oblivious (R : α → β → Prop) (act : Act α) (act' : Act β) : Prop :=
  ∀ m m', m.Alike m' →
    Parallel (fun x y => R x.1 y.1 ∧ x.2.Alike y.2)
      (act.run m) (act'.run m')

theorem oblivious_pure {R : α → β → Prop} {a : α} {b : β} (h : R a b) :
    Oblivious R (pure a) (pure b) :=
  fun _ _ hm => .done ⟨h, hm⟩

theorem Oblivious.bind {γ δ : Type} {R : α → β → Prop} {R' : γ → δ → Prop}
    {act : Act α} {act' : Act β} {f : α → Act γ} {f' : β → Act δ}
    (h : Oblivious R act act') (hf : ∀ a b, R a b →
      Oblivious R' (f a) (f' b)) :
    Oblivious R' (act >>= f) (act' >>= f') :=
  fun m m' hm => (h m m' hm).bind fun x y hr =>
    hf x.1 y.1 hr.1 x.2 y.2 hr.2

theorem oblivious_get : Oblivious Alike get get :=
  fun _ _ hm => .done ⟨hm, hm⟩

theorem oblivious_modify {f f' : Manager → Manager}
    (hf : ∀ m m', m.Alike m' → (f m).Alike (f' m')) :
    Oblivious Eq (modify f) (modify f') :=
  fun m m' hm => .done ⟨rfl, hf m m' hm⟩

/-- What is asked of the surroundings is not asked of the manager. -/
theorem oblivious_lift (p : Proc Surroundings α) :
    Oblivious Eq (StateT.lift p) (StateT.lift p) :=
  fun _ _ hm => (Proc.parallel_refl (fun _ => rfl) p).bind
    fun _ _ hr => .done ⟨hr, hm⟩

theorem oblivious_ask (call : GsmCall) :
    Oblivious Eq (ask call) (ask call) :=
  oblivious_lift _

/-- A conversation with the modem does not read the manager. -/
theorem oblivious_session (p : Proc Modem.Session α) :
    Oblivious Eq (session p) (session p) :=
  oblivious_lift _

/-- One thing after another, where the value is the same. -/
theorem Oblivious.next {R : β → β → Prop} {act : Act α}
    {f f' : α → Act β} (h : Oblivious Eq act act)
    (hf : ∀ a, Oblivious R (f a) (f' a)) :
    Oblivious R (act >>= f) (act >>= f') :=
  h.bind fun a b hab => by
    subst hab
    exact hf a

/-- The same, where either may fail. -/
theorem Oblivious.attempt {act : Attempt α} {f : α → Attempt β}
    (h : Oblivious Eq act.run act.run)
    (hf : ∀ a, Oblivious Eq (f a).run (f a).run) :
    Oblivious Eq (act >>= f).run (act >>= f).run := by
  rw [ExceptT.run_bind]
  refine h.next fun r => ?_
  cases r with
  | ok a => exact hf a
  | error e => exact oblivious_pure rfl

theorem Oblivious.lifted {act : Act α} (h : Oblivious Eq act act) :
    Oblivious Eq (ExceptT.lift act : Attempt α).run
      (ExceptT.lift act : Attempt α).run :=
  h.next fun _ => oblivious_pure rfl

-- ----------------------------------------------------------- the steps

theorem oblivious_reported (p : Proc Modem.Session (Except GsmError Unit)) :
    Oblivious Eq (reported p).run (reported p).run := by
  refine (oblivious_session p).next fun r => ?_
  cases r with
  | ok => exact oblivious_pure rfl
  | error e => exact (oblivious_session _).next fun _ => oblivious_pure rfl

theorem oblivious_advisory (p : Proc Modem.Session Unit) :
    Oblivious Eq (advisory p).run (advisory p).run :=
  (oblivious_session p).lifted

/-- The reading is kept, and that is all that becomes of it. -/
theorem oblivious_keepSignal :
    Oblivious Eq keepSignal.run keepSignal.run := by
  refine Oblivious.attempt (oblivious_session Steps.checkSignal)
    fun reading => ?_
  cases reading with
  | none => exact oblivious_pure rfl
  | some rssi =>
    have kept : Oblivious Eq
        (modify fun m => { m with cachedSignal := rssi })
        (modify fun m => { m with cachedSignal := rssi }) :=
      oblivious_modify fun _ _ hm => ⟨hm.settings, hm.active, hm.apn⟩
    exact kept.lifted

theorem oblivious_log (line : Line) : Oblivious Eq (log line) (log line) :=
  oblivious_ask (.modem (.log line))

theorem oblivious_findAccessPoint :
    Oblivious Eq findAccessPoint.run findAccessPoint.run := by
  unfold findAccessPoint
  rw [ExceptT.run_mk]
  refine oblivious_get.bind fun m m' hm => ?_
  have said (line : Line) (r : Except GsmError Unit) :
      Oblivious Eq (log line >>= fun _ => pure r)
        (log line >>= fun _ => pure r) :=
    (oblivious_log line).next fun _ => oblivious_pure rfl
  rw [hm.apn, hm.settings]
  by_cases hd : m'.apn.isDetected = true
  · rw [if_pos hd, if_pos hd]
    exact said _ _
  · rw [if_neg hd, if_neg hd]
    refine (oblivious_log _).next fun _ => ?_
    refine (oblivious_session _).next fun found => ?_
    obtain ⟨r, apn⟩ := found
    -- each writes back what it read, and these were alike
    refine Oblivious.bind (R := Eq) (fun _ _ _ => ?_) fun _ _ _ => ?_
    · exact .done ⟨rfl, rfl, hm.active, rfl⟩
    · cases r with
      | ok source => exact said _ _
      | error e => exact said _ _

/-- To define the context (`configureContext`) reads the access point
only. -/
theorem oblivious_configureContext :
    Oblivious Eq configureContext configureContext := by
  refine oblivious_get.bind fun m m' hm => ?_
  rw [hm.apn]
  exact oblivious_session _

theorem oblivious_authenticate :
    Oblivious Eq authenticate authenticate := by
  refine oblivious_get.bind fun m m' hm => ?_
  rw [hm.apn]
  by_cases hc : m'.apn.hasCredentials = true
  · rw [if_pos hc]
    refine (oblivious_ask _).next fun r => ?_
    cases r with
    | ok => exact oblivious_log _
    | error e => exact oblivious_log _
  · rw [if_neg hc]
    exact oblivious_pure rfl

theorem oblivious_setUpResolvers :
    Oblivious Eq setUpResolvers setUpResolvers := by
  refine oblivious_get.bind fun m m' hm => ?_
  rw [hm.settings]
  refine (oblivious_ask _).next fun r => ?_
  -- whether the resolvers were taken only decides which line is logged
  rcases r with e | _ <;>
    refine (oblivious_log _).next fun _ =>
      (oblivious_ask (.modem (.pause _))).next fun _ =>
      (oblivious_ask (.resolve _ _)).next fun found => ?_
  all_goals
    rcases found with _ | e | address <;> exact oblivious_log _

theorem oblivious_abort (why : String) :
    Oblivious Eq (abort why) (abort why) :=
  (oblivious_log _).next fun _ => (oblivious_session _).next fun _ =>
    oblivious_pure rfl

/-- The wait for a session reads nothing of what was recorded before. -/
theorem oblivious_awaitSession :
    Oblivious Eq awaitSession.run awaitSession.run := by
  unfold awaitSession
  rw [ExceptT.run_mk]
  refine (oblivious_log _).next fun _ => ?_
  refine (oblivious_ask (.awaitEvent pppConnectTimeout)).next
    fun event => ?_
  rcases event with _ | info | _ | code
  · exact oblivious_abort _
  · refine oblivious_setUpResolvers.next fun _ => ?_
    refine (oblivious_ask (.record .markConnected)).next
      fun confirmed => ?_
    cases confirmed with
    | true => exact oblivious_pure rfl
    | false => exact oblivious_abort _
  · exact oblivious_abort _
  · exact oblivious_abort _

/-- No step of a connection reads what was recorded of the link before
it. -/
theorem oblivious_sequence : Oblivious Eq sequence.run sequence.run := by
  refine (oblivious_advisory _).attempt fun _ => ?_
  refine Oblivious.attempt (oblivious_session Steps.wakeUp) fun _ => ?_
  refine oblivious_keepSignal.attempt fun _ => ?_
  refine (oblivious_advisory _).attempt fun _ => ?_
  refine (oblivious_reported _).attempt fun _ => ?_
  refine oblivious_findAccessPoint.attempt fun _ => ?_
  refine (oblivious_advisory _).attempt fun _ => ?_
  refine (oblivious_advisory _).attempt fun _ => ?_
  refine oblivious_configureContext.lifted.attempt fun _ => ?_
  refine oblivious_authenticate.lifted.attempt fun _ => ?_
  refine (oblivious_advisory _).attempt fun _ => ?_
  refine (oblivious_ask (.record .resetEvents)).lifted.attempt
    fun _ => ?_
  refine (oblivious_reported _).attempt fun _ => ?_
  exact oblivious_awaitSession

/-- A connection (`connect`) does not read what was recorded of earlier
ones. -/
theorem oblivious_connect : Oblivious Eq connect connect := by
  refine oblivious_get.bind fun m m' hm => ?_
  have said (line : Line) (r : Except GsmError Unit) :
      Oblivious Eq (log line >>= fun _ => pure r)
        (log line >>= fun _ => pure r) :=
    (oblivious_log line).next fun _ => oblivious_pure rfl
  have entered {state : GsmState} :
      Oblivious Eq (enter state) (enter state) :=
    oblivious_modify fun _ _ h => ⟨h.settings, h.active, h.apn⟩
  rw [hm.active]
  by_cases ha : (!m'.active) = true
  · rw [if_pos ha]
    exact said _ _
  · rw [if_neg ha]
    refine (oblivious_ask (.record .isConnected)).next
      fun connected => ?_
    -- both links answer alike, and so both go on or neither does
    cases connected with
    | true => exact said _ _
    | false =>
      refine (oblivious_log _).next fun _ => entered.next fun _ => ?_
      refine oblivious_sequence.next fun r => ?_
      cases r with
      | ok =>
        have kept : Oblivious Eq
            (modify fun m : Manager =>
              { m with recorded := .connected, lastError := none })
            (modify fun m =>
              { m with recorded := .connected, lastError := none }) :=
          oblivious_modify fun _ _ h => ⟨h.settings, h.active, h.apn⟩
        exact kept.next fun _ => said _ _
      | error e =>
        have kept : Oblivious Eq
            (modify fun m : Manager =>
              { m with recorded := .failed, lastError := some e })
            (modify fun m =>
              { m with recorded := .failed, lastError := some e }) :=
          oblivious_modify fun _ _ h => ⟨h.settings, h.active, h.apn⟩
        exact (oblivious_log _).next fun _ => kept.next fun _ =>
          oblivious_pure rfl

end Manager

-- ============================================== what the record tells

/-- The call forgets the event that pends. -/
def GsmCall.forgets : GsmCall → Bool
  | record .resetEvents => true
  | _ => false

/-- A connection amid surroundings with a state of their own. -/
structure Episode (ε : Type) where
  link : Link
  world : ε
  /-- the pending event was forgotten, for this connection -/
  forgotten : Bool := false

/-- Surroundings that are not the record: what they reply, what becomes of
them, and what they report before a call once the events were forgotten.
What is reported until then is none of theirs. -/
structure Outside (ε : Type) where
  reply : (c : GsmCall) → ε → c.Answer
  next : (c : GsmCall) → c.Answer → ε → ε
  reports : GsmCall → ε → List Report

namespace Outside

variable {ε : Type} (o : Outside ε)
variable (early : GsmCall → ε → List Report) (c : GsmCall)

/-- The record after what is reported before a call. Until the events are
forgotten, `early` is. -/
def heard (x : Episode ε) : Link :=
  x.link.hearAll
    (if x.forgotten then o.reports c x.world else early c x.world)

/-- The record answers for itself, and the surroundings for the rest. -/
def serve (world : ε) (l : Link) : (c : GsmCall) → c.Answer × Link
  | .record call => (call.apply l).value
  | .awaitEvent _ => (l.event, l.resetEvents)
  | c => (o.reply c world, l)

def answer (x : Episode ε) : c.Answer × Episode ε :=
  let (r, l) := o.serve x.world (o.heard early c x) c
  (r, ⟨l, o.next c r x.world, x.forgotten || c.forgets⟩)

end Outside

-- --------------------------------------------------- records side by side

/-- A relation that is kept when both records hear the same report. -/
def Link.Kept (K : Link → Link → Prop) : Prop :=
  ∀ l l' report, K l l' → K (l.hear report) (l'.hear report)

/-- The records have the same event, and the same address if it is `known`
to be, or if the event is that one came. -/
structure Link.Agree (known : Prop) (l l' : Link) : Prop where
  event : l.event = l'.event
  address : (known ∨ ∃ info, l.event = some (.ipAcquired info)) →
    l.address = l'.address

/-- The records have the same event, with its address. -/
abbrev Link.Even : Link → Link → Prop :=
  Agree False

/-- The records have the same event and the same address. -/
abbrev Link.Level : Link → Link → Prop :=
  Agree True

namespace Link

/-- What one `Report` keeps, any number of them does. -/
theorem Kept.hearAll {K : Link → Link → Prop} (hK : Kept K)
    {l l' : Link} (h : K l l') (reports : List Report) :
    K (l.hearAll reports) (l'.hearAll reports) := by
  induction reports generalizing l l' with
  | nil => exact h
  | cons r rest ih => exact ih (hK l l' r h)

/-- A report that an address came brings it along. -/
theorem kept_agree (known : Prop) : Kept (Agree known) := by
  intro l l' report h
  cases report with
  | ipAcquired info => exact ⟨rfl, fun _ => rfl⟩
  | ipLost => exact ⟨rfl, fun _ => rfl⟩
  | linkStatus code =>
    rw [hear_linkStatus, hear_linkStatus]
    by_cases hc : code = 0
    · rw [if_pos hc, if_pos hc]
      exact h
    · rw [if_neg hc, if_neg hc]
      exact ⟨rfl, fun ha => h.address (ha.imp_right nofun)⟩
  | wifi connected => exact ⟨h.event, h.address⟩
  | releaseWifi => exact ⟨h.event, h.address⟩

/-- Records without an event are `Even`. -/
theorem even_of_no_event {l l' : Link} (h : l.event = none)
    (h' : l'.event = none) : l.Even l' := by
  refine ⟨h.trans h'.symm, fun ha => ?_⟩
  rw [h] at ha
  exact ha.elim False.elim nofun

theorem event_confirm (l : Link) : (l.after .confirm).event = none := by
  rw [after_confirm]
  split <;> rfl

/-- Records that are `Level` take a confirmation alike. -/
theorem Level.confirmable {l l' : Link} (h : l.Level l') :
    l.confirmable = l'.confirmable := by
  unfold Link.confirmable lossPending
  rw [h.event, h.address (.inl trivial)]

end Link

-- ----------------------------------------------- connections side by side

/-- The surroundings are the same, and so is how far the connection is.
Once the events were forgotten, the records are related. -/
structure Abreast {ε : Type} (K : Link → Link → Prop)
    (x : Episode ε × Episode ε) : Prop where
  world : x.1.world = x.2.world
  forgotten : x.1.forgotten = x.2.forgotten
  records : x.1.forgotten = true → K x.1.link x.2.link

/-- The same, and the events were forgotten. -/
structure Abreast.Since {ε : Type} (K : Link → Link → Prop)
    (x : Episode ε × Episode ε) : Prop where
  abreast : Abreast K x
  forgotten : x.1.forgotten = true

/-- Two connections that hear other things until they forget. -/
abbrev Outside.abreast {ε : Type} (o : Outside ε)
    (early early' : GsmCall → ε → List Report) :
    Contract Surroundings (Episode ε × Episode ε) :=
  pairing (o.answer early) (o.answer early')

section

variable {ε : Type} {o : Outside ε}
variable {early early' : GsmCall → ε → List Report}
variable {K J : Link → Link → Prop} {x : Episode ε × Episode ε}

theorem Abreast.mono (h : Abreast K x) (hK : ∀ l l', K l l' → J l l') :
    Abreast J x :=
  ⟨h.world, h.forgotten, fun hf => hK _ _ (h.records hf)⟩

/-- Once the events were forgotten, the records hear the same. -/
theorem Abreast.heard (h : Abreast K x) (hK : Link.Kept K) (c : GsmCall)
    (hf : x.1.forgotten = true) :
    K (o.heard early c x.1) (o.heard early' c x.2) := by
  unfold Outside.heard
  rw [if_pos hf, if_pos (h.forgotten ▸ hf), ← h.world]
  exact hK.hearAll (h.records hf) _

/-- If a call is answered alike, the connections stay `Abreast`. -/
theorem Abreast.meets_ask (h : Abreast K x) {c : GsmCall}
    (ha : (o.serve x.1.world (o.heard early c x.1) c).1
      = (o.serve x.2.world (o.heard early' c x.2) c).1)
    (hr : (x.1.forgotten || c.forgets) = true →
      J (o.serve x.1.world (o.heard early c x.1) c).2
        (o.serve x.2.world (o.heard early' c x.2) c).2) :
    (Surroundings.ask c).Meets (o.abreast early early') x fun r x' =>
      r = (o.serve x.1.world (o.heard early c x.1) c).1 ∧ Abreast J x'
        ∧ ((x.1.forgotten || c.forgets) = true → Abreast.Since J x') := by
  have abreast : Abreast J ((o.answer early c x.1).2,
      (o.answer early' c x.2).2) := by
    refine ⟨?_, congrArg (· || c.forgets) h.forgotten, hr⟩
    exact congrArg₂ (o.next c) ha h.world
  exact Proc.meets_ask_pairing ha ⟨rfl, abreast, fun hf => ⟨abreast, hf⟩⟩

/-- A call that goes `elsewhere` than to the record is answered alike in
both, and what is reported before it keeps them `Abreast`. -/
theorem Abreast.meets_elsewhere (h : Abreast K x) (hK : Link.Kept K)
    {c : GsmCall} (hc : c.elsewhere = true) :
    (Surroundings.ask c).Meets (o.abreast early early') x fun _ x' =>
      Abreast K x' ∧ (x.1.forgotten = true → Abreast.Since K x') := by
  have served (world : ε) (l : Link) :
      o.serve world l c = (o.reply c world, l) := by
    cases c with
    | record | awaitEvent => cases hc
    | _ => rfl
  have hf : (x.1.forgotten || c.forgets) = x.1.forgotten := by
    cases c with
    | record => cases hc
    | _ => exact Bool.or_false _
  refine (h.meets_ask (J := K) ?_ ?_).mono fun r x' hx => ?_
  · rw [served, served, h.world]
  · rw [served, served, hf]
    exact h.heard hK c
  · rw [hf] at hx
    exact hx.2

/-- Calls that go `elsewhere` than to the record keep two connections
`Abreast`. -/
theorem preserves_abreast (hK : Link.Kept K) :
    (o.abreast early early').Preserves
      (fun c => c.elsewhere = true) (Abreast K) := by
  intro c x hc h
  obtain ⟨ha, hmove⟩ := h.meets_elsewhere hK hc
  exact ⟨ha, fun r x' hr => (hmove r x' hr).1⟩

/-- The same, and the events stay forgotten. -/
theorem preserves_since (hK : Link.Kept K) :
    (o.abreast early early').Preserves
      (fun c => c.elsewhere = true) (Abreast.Since K) := by
  intro c x hc h
  obtain ⟨ha, hmove⟩ := h.abreast.meets_elsewhere hK hc
  exact ⟨ha, fun r x' hr => (hmove r x' hr).2 h.forgotten⟩

-- --------------------------------------------- the calls on the record

/-- While both are disconnected, both say so. -/
theorem Abreast.meets_look (h : Abreast Link.Even x)
    (hl : x.1.link.connected = false) (hl' : x.2.link.connected = false) :
    (Surroundings.ask (.record .isConnected)).Meets
      (o.abreast early early') x fun r x' =>
        r = false ∧ Abreast Link.Even x' := by
  have hd : (o.heard early (.record .isConnected) x.1).connected = false :=
    Link.stable_disconnected.hearAll hl _
  have hd' : (o.heard early' (.record .isConnected) x.2).connected
      = false :=
    Link.stable_disconnected.hearAll hl' _
  refine (h.meets_ask (c := .record .isConnected)
    (hd.trans hd'.symm) fun hf => ?_).mono
    fun r x' hx => ⟨hx.1.trans hd, hx.2.1⟩
  exact h.heard (Link.kept_agree _) _ ((Bool.or_false _).symm.trans hf)

/-- Forgetting makes the records even, whatever they were. -/
theorem Abreast.meets_forget (h : Abreast K x) :
    (Surroundings.ask (.record .resetEvents)).Meets
      (o.abreast early early') x fun _ x' =>
        Abreast.Since Link.Even x' := by
  refine (h.meets_ask rfl fun _ => ?_).mono
    fun r x' hx => hx.2.2 (Bool.or_true _)
  exact Link.even_of_no_event rfl rfl

/-- The same event comes. If it is that of an address, the address is the
same from then on. -/
theorem Abreast.Since.meets_await (h : Abreast.Since Link.Even x)
    (timeout : Nat) :
    (Surroundings.ask (.awaitEvent timeout)).Meets
      (o.abreast early early') x fun r x' =>
        Abreast Link.Even x' ∧ ∀ info, r = some (.ipAcquired info) →
          Abreast.Since Link.Level x' := by
  have heard : (o.heard early (.awaitEvent timeout) x.1).Even
      (o.heard early' (.awaitEvent timeout) x.2) :=
    h.abreast.heard (Link.kept_agree _) _ h.forgotten
  let Addressed (l l' : Link) : Prop := ∀ info,
    (o.heard early (.awaitEvent timeout) x.1).event
      = some (.ipAcquired info) → l.Level l'
  refine (h.abreast.meets_ask (c := .awaitEvent timeout)
    (J := fun l l' => l.Even l' ∧ Addressed l l') heard.event
    fun _ => ?_).mono fun r x' hx => ?_
  · exact ⟨Link.even_of_no_event rfl rfl,
      fun info hi => ⟨rfl, fun _ => heard.address (.inr ⟨info, hi⟩)⟩⟩
  · obtain ⟨rfl, hx, hs⟩ := hx
    refine ⟨hx.mono fun _ _ h => h.1, fun info hi => ?_⟩
    have hs := hs (Bool.or_eq_true_iff.2 (.inl h.forgotten))
    exact ⟨hs.abreast.mono fun _ _ h => h.2 info hi, hs.forgotten⟩

/-- Both confirm the session, or none does. -/
theorem Abreast.Since.meets_confirm (h : Abreast.Since Link.Level x) :
    (Surroundings.ask (.record .markConnected)).Meets
      (o.abreast early early') x fun _ x' => Abreast Link.Even x' := by
  have heard : (o.heard early (.record .markConnected) x.1).Level
      (o.heard early' (.record .markConnected) x.2) :=
    h.abreast.heard (Link.kept_agree _) _ h.forgotten
  have served (world : ε) (l : Link) :
      o.serve world l (.record .markConnected)
        = (l.confirmable, l.after .confirm) := l.markConnected_value
  refine (h.abreast.meets_ask (J := Link.Even) ?_ fun _ => ?_).mono
    fun r x' hx => hx.2.1
  · rw [served, served]
    exact heard.confirmable
  · rw [served, served]
    exact Link.even_of_no_event (Link.event_confirm _)
      (Link.event_confirm _)

-- ------------------------------------------------------ the connection

namespace Manager

variable {m : Manager}

/-- A connection that is given up asks nothing of the record. -/
theorem ensures_abreast_abort (why : String)
    (h : Abreast Link.Even x) :
    Ensures (o.abreast early early') (abort why) m x
      fun _ _ x' => Abreast Link.Even x' := by
  have asked : Passive (fun c => c.elsewhere = true) (abort why) :=
    (beside_log _).bind fun _ => (beside_session _).bind fun _ =>
      passive_pure _
  exact (asked.ensures (preserves_abreast (Link.kept_agree _)) h).mono
    fun _ _ _ hx => hx.2

/-- Once the events are forgotten, a session is waited for with records
that are `Even`. -/
theorem ensures_abreast_awaitSession
    (h : Abreast.Since Link.Even x) :
    Ensures (o.abreast early early') awaitSession.run m x
      fun _ _ x' => Abreast Link.Even x' := by
  unfold awaitSession
  rw [ExceptT.run_mk]
  refine (beside_log _).leads (preserves_since (Link.kept_agree _)) h
    fun _ m₁ x₁ _ hx₁ => ?_
  refine Proc.ensures_bind.2 (Proc.ensures_lift.2
    ((hx₁.meets_await _).mono fun event x₂ hx₂ => ?_))
  obtain ⟨hx₂, addressed⟩ := hx₂
  rcases event with _ | info | _ | code
  · exact ensures_abreast_abort _ hx₂
  · have resolving : Passive (fun c => c.elsewhere = true)
        setUpResolvers :=
      passive_setUpResolvers.mono fun _ => elsewhere_of_resolves
    refine resolving.leads (preserves_since (Link.kept_agree _))
      (addressed info rfl) fun _ m₃ x₃ _ hx₃ => ?_
    refine Proc.ensures_bind.2 (Proc.ensures_lift.2
      (hx₃.meets_confirm.mono fun confirmed x₄ hx₄ => ?_))
    cases confirmed with
    | true => exact hx₄
    | false => exact ensures_abreast_abort _ hx₄
  · exact ensures_abreast_abort _ hx₂
  · exact ensures_abreast_abort _ hx₂

/-- All steps of a connection keep the two `Abreast`. -/
theorem ensures_abreast_sequence (h : Abreast Link.Even x) :
    Ensures (o.abreast early early') sequence.run m x
      fun _ _ x' => Abreast Link.Even x' := by
  have prepared : (o.abreast early early').Preserves prepares
      (Abreast Link.Even) := by
    intro c x hc hx
    rcases elsewhere_of_prepares hc with hc | rfl
    · exact preserves_abreast (Link.kept_agree _) c x hc hx
    · obtain ⟨ha, hmove⟩ := hx.meets_forget
      exact ⟨ha, fun r x' hr => (hmove r x' hr).abreast⟩
  refine ensures_preparing prepared ?_ (fun _ _ _ _ hx => hx) ?_
  · have escape : (Surroundings.ofSession Steps.forceCommandMode).Asks
        fun c : GsmCall => c.elsewhere = true :=
      Surroundings.asks_channel (fun _ => rfl) _
    exact escape.meets (preserves_abreast (Link.kept_agree _)) h
  · intro m₁ x₁ _ hx₁
    refine Proc.ensures_attempt_bind.2 (Proc.ensures_attempt_lift.2
      (Proc.ensures_lift.2 (hx₁.meets_forget.mono fun _ x₂ hx₂ => ?_)))
    have dial : Passive (fun c => c.elsewhere = true)
        (reported Steps.enterDataMode).run :=
      passive_channel_reported (fun _ => rfl) _
    refine dial.leads (preserves_since (Link.kept_agree _)) hx₂
      fun r m₃ x₃ _ hx₃ => ?_
    cases r with
    | ok => exact ensures_abreast_awaitSession hx₃
    | error e => exact hx₃.abreast

/-- Connections of one manager stay `Abreast`, whatever the records
were. -/
theorem ensures_abreast_connect (h : Abreast Link.Even x)
    (hl : x.1.link.connected = false)
    (hl' : x.2.link.connected = false) :
    Ensures (o.abreast early early') connect m x
      fun _ _ x' => Abreast Link.Even x' := by
  have ending (line : Line) {r : Except GsmError Unit} {m' : Manager}
      {x' : Episode ε × Episode ε} (hx : Abreast Link.Even x') :
      Ensures (o.abreast early early') (log line >>= fun _ => pure r)
        m' x' fun _ _ x'' => Abreast Link.Even x'' :=
    (beside_log line).leads (preserves_abreast (Link.kept_agree _)) hx
      fun _ _ _ _ hx => hx
  unfold connect
  rw [Proc.ensures_bind, Proc.ensures_get]
  by_cases ha : (!m.active) = true
  · rw [if_pos ha]
    exact ending _ h
  · rw [if_neg ha]
    refine Proc.ensures_bind.2 (Proc.ensures_lift.2
      ((h.meets_look hl hl').mono fun connected x₁ hx₁ => ?_))
    obtain ⟨rfl, hx₁⟩ := hx₁
    refine (beside_log _).leads (preserves_abreast (Link.kept_agree _)) hx₁
      fun _ m₂ x₂ _ hx₂ => ?_
    rw [Proc.ensures_bind, ensures_enter, Proc.ensures_bind]
    refine (ensures_abreast_sequence hx₂).mono fun r m₃ x₃ hx₃ => ?_
    cases r with
    | ok => exact ending _ hx₃
    | error e => exact ending _ hx₃

end Manager

/-- A connection: how it ends, and the calls it makes with their
answers. -/
def Outside.connection (o : Outside ε) (early : GsmCall → ε → List Report)
    (m : Manager) (l : Link) (world : ε) :
    (Except GsmError Unit × Manager) × List (Event Surroundings)
      × Episode ε :=
  (Manager.connect.run m).run (noting (o.answer early))
    ([], ⟨l, world, false⟩)

end

/-- Nothing of earlier sessions is resumed by `connect`: what the manager
recorded of them, the event and the address that they left in the record,
and whatever is reported until the events are forgotten may differ. The
calls with their answers, the result and what becomes of the surroundings
do not, nor what the next connection goes by. -/
theorem connect_afresh {ε : Type} (o : Outside ε)
    (early early' : GsmCall → ε → List Report) {m m' : Manager}
    {l l' : Link} (world : ε) (hm : m.Alike m')
    (hl : l.connected = false) (hl' : l'.connected = false) :
    let u := o.connection early m l world
    let v := o.connection early' m' l' world
    u.1.1 = v.1.1 ∧ u.2.1 = v.2.1 ∧ u.2.2.world = v.2.2.world
      ∧ u.1.2.Alike v.1.2 := by
  have start : Abreast Link.Even
      ((⟨l, world, false⟩, ⟨l', world, false⟩) :
        Episode ε × Episode ε) := ⟨rfl, rfl, nofun⟩
  -- first the other record, and then the other manager
  have records := (Manager.ensures_abreast_connect start hl hl' :
    Ensures (o.abreast early early') Manager.connect m _ _).pairs []
  have managers := (Manager.oblivious_connect m m' hm).run
    (noting (o.answer early')) ([], ⟨l', world, false⟩)
  obtain ⟨hr, ht, hx⟩ := records
  obtain ⟨⟨hr', hm'⟩, hs'⟩ := managers
  refine ⟨?_, ?_, ?_, ?_⟩
  · exact (congrArg Prod.fst hr).trans hr'
  · exact ht.trans (congrArg Prod.fst hs')
  · exact hx.world.trans (congrArg (·.2.world) hs')
  · exact (congrArg Prod.snd hr).symm ▸ hm'

-- ============================================================ a retry

namespace Retry

/-- Nothing is refused, and an address comes while one is waited for. -/
def outside : Outside Unit where
  reply c _ := (obliging c {}).1
  next _ _ _ := ()
  reports
    | .awaitEvent _, _ =>
      [.ipAcquired ⟨⟨10, 0, 0, 2⟩, ⟨255, 255, 255, 255⟩, ⟨10, 0, 0, 1⟩⟩]
    | _, _ => []

/-- A manager after its set-up. -/
def settled : Manager :=
  { settings := .standard, active := true, recorded := .idle }

/-- The same after a connection that failed. -/
def failed : Manager :=
  { settled with
    recorded := .failed, cachedSignal := 12, lastError := some .pppTimeout }

/-- A record with an address that nobody cleared, and a loss. -/
def stale : Link where
  address := some ⟨⟨10, 0, 0, 9⟩, ⟨255, 255, 255, 255⟩, ⟨10, 0, 0, 1⟩⟩
  event := some .ipLost

/-- PPP fails again and again. -/
def failing : GsmCall → Unit → List Report :=
  fun _ _ => [.linkStatus 5]

-- irreducible, so that they are not run wherever two terms are compared
@[irreducible] def first :=
  outside.connection (fun _ _ => []) settled {} ()

@[irreducible] def again :=
  outside.connection failing failed stale ()

end Retry

/-- A retry over what a failure left behind goes like a first attempt, and
succeeds like it. -/
theorem connect_afresh_retry :
    Retry.again.1.1 = Retry.first.1.1
      ∧ Retry.again.2.1 = Retry.first.2.1
      ∧ Retry.again.2.2.link.connected = true := by
  have hm : Retry.failed.Alike Retry.settled := ⟨rfl, rfl, rfl⟩
  have hl : Retry.stale.connected = false := rfl
  have hl' : ({} : Link).connected = false := rfl
  have h := connect_afresh Retry.outside Retry.failing (fun _ _ => []) ()
    hm hl hl'
  refine ⟨?_, ?_, by decide +kernel⟩
  · unfold Retry.again Retry.first
    exact h.1
  · unfold Retry.again Retry.first
    exact h.2.1

end Uplink.Gsm
