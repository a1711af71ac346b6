/-
Taking down, whatever the modem does.

To give a session up the modem is asked to leave data mode, and that takes
a while: it may refuse, and the IP stack may report what it likes
meanwhile. The record is cleared after that, and nothing is waited for any
more (`Surroundings.cooperative`), so what was reported is cleared as well
and nothing is reported anew (`ensures_givesUp`, `ensures_takesDown`).

# Afterwards

A manager with nothing set up stays away from the modem until a set-up
has made a channel (`Dormant`). No operation but a set-up makes one, and a
set-up that makes one succeeds. So along any later history the first write
comes behind the first channel (`Later.guarded`).
-/
import Uplink.Proofs.Gsm.Lifecycle
import Uplink.Proofs.Transcript

namespace Uplink.Gsm

open Proc (Ensures Runs Shows records_ask shows_bind shows_call shows_get
  shows_lift shows_modify)

-- ===================================================== one task at a time

/-- The call returns later, and other tasks go on meanwhile. -/
def GsmCall.waits : GsmCall → Bool
  | modem (.log _) => false
  | modem _ => true
  | awaitEvent _ => true
  | resolve .. => true
  | _ => false

/-- What becomes of the record in a call that returns at once. -/
def GsmCall.AtOnce (l : Link) :
    (call : GsmCall) → call.Answer → Link → Prop
  | .record call, r, l' => (call.apply l).value = (r, l')
  | _, _, l' => l' = l

/-- Surroundings that answer as they like, with all tasks on one executor:
the record hears reports only as long as a call is waited for. -/
def Surroundings.cooperative : Behaviour Surroundings Link :=
  fun call l r l' =>
    match call.waits with
    | true => amid call l r l'
    | false => call.AtOnce l r l'

/-- On one executor nothing happens that could not elsewhere. -/
theorem Surroundings.amid_of_cooperative {call : GsmCall} {l l' : Link}
    {r : call.Answer} (h : cooperative call l r l') :
    amid call l r l' := by
  cases call with
  | record call =>
    have hr : (call.apply l).value = (r, l') := h
    obtain ⟨rfl, rfl⟩ := Prod.mk.inj hr
    exact RecordCall.spans_apply call l
  | modem call =>
    cases call with
    | log line => exact ⟨[], h⟩
    | _ => exact h
  | awaitEvent timeout => exact h
  | resolve host timeout => exact h
  | drive pin high | netif call | build uart => exact ⟨[], h⟩

/-- Surroundings that oblige run on one executor. -/
theorem cooperative_obliging (call : GsmCall) (l : Link) :
    Surroundings.cooperative call l (obliging call l).1
      (obliging call l).2 := by
  cases call with
  | modem call =>
    cases call with
    | log line => rfl
    | _ => exact ⟨[], rfl⟩
  | netif call => cases call <;> rfl
  | awaitEvent timeout => exact ⟨[.ipAcquired _], rfl, rfl⟩
  | resolve host timeout => exact ⟨[], rfl⟩
  | record call => rfl
  | drive pin high | build uart => rfl

-- =============================================================== the link

/-- Nothing is left of a session. -/
structure Link.GivenUp (l : Link) : Prop where
  disconnected : l.connected = false
  unaddressed : l.address = none
  unpublished : l.status.isConnected .gsm = false
  unselected : l.status.active ≠ some .gsm

/-- To give a session up from a `Coherent` record, with nothing in between,
leaves nothing of it. -/
theorem Link.Coherent.givenUp {l : Link} (h : l.Coherent) :
    l.markDisconnected.value.GivenUp := by
  obtain ⟨t, hr⟩ := amid_of_runAll closing l
  have hdown := (closing_meets h).of_runs hr
  have hnone : (runAll closing l).value.2.address = none := by
    obtain ⟨status, connected, address, event⟩ := l
    cases connected <;> rfl
  refine ⟨hdown.disconnected, hnone, ?_, fun hs => ?_⟩
  · exact hdown.coherent.flag.trans hdown.disconnected
  · have hc := hdown.coherent.selector hs
    rw [hdown.disconnected] at hc
    cases hc

namespace Manager

open Surroundings (amid cooperative)

variable {m : Manager} {l : Link}

/-- Quiet calls keep the record `Coherent`. -/
theorem preserves_coherent :
    cooperative.contract.Preserves (fun c => c.quiet = true)
      Link.Coherent :=
  fun _ _ hc hl => ⟨trivial, fun _ _ hr =>
    Link.stable_coherent.amid hc hl (Surroundings.amid_of_cooperative hr)⟩

/-- Whether the modem follows or not, and whatever is reported meanwhile,
nothing is left of the session. -/
theorem ensures_givesUp (ha : m.active = true) (hl : l.Coherent) :
    Ensures cooperative.contract disconnect m l fun _ m' l' =>
      m' = { m with recorded := .disconnected } ∧ l'.GivenUp := by
  have given (m' : Manager) (hm : m' = m) (l : Link) (hl : l.Coherent) :
      Ensures cooperative.contract
        (ask (.record .markDisconnected) >>= fun _ => enter .disconnected)
        m' l fun _ m' l' =>
          m' = { m with recorded := .disconnected } ∧ l'.GivenUp := by
    subst hm
    refine Proc.ensures_call.2 ⟨trivial, fun r l' hr => ?_⟩
    obtain ⟨-, rfl⟩ := Prod.mk.inj hr
    exact ⟨rfl, hl.givenUp⟩
  have said (line : Line) :
      Spares id (fun c => c.quiet = true) (log line) :=
    passive_ask rfl
  have asked : Spares id (fun c => c.quiet = true)
      (session (Steps.switchTo .command)) :=
    passive_channel (fun _ => rfl) _
  unfold disconnect
  rw [Proc.ensures_bind, Proc.ensures_get, if_pos ha]
  refine (said _).leads preserves_coherent hl fun _ m₁ l₁ hm₁ hl₁ => ?_
  refine asked.leads preserves_coherent hl₁ fun r m₂ l₂ hm₂ hl₂ => ?_
  cases r with
  | ok => exact given m₂ (hm₂.trans hm₁) l₂ hl₂
  | error e =>
    refine (said _).leads preserves_coherent hl₂ fun _ m₃ l₃ hm₃ hl₃ => ?_
    exact given m₃ (hm₃.trans (hm₂.trans hm₁)) l₃ hl₃

/-- Nor is it when everything is taken down, and no event pends. -/
theorem ensures_takesDown (ha : m.active = true) (hl : l.Coherent) :
    Ensures cooperative.contract deinit m l fun _ m' l' =>
      m' = { m with active := false, recorded := .uninitialized }
        ∧ l'.GivenUp ∧ l'.event = none := by
  have said (line : Line) :
      Spares id (fun c => c.quiet = true) (log line) :=
    passive_ask rfl
  unfold deinit
  rw [Proc.ensures_bind, Proc.ensures_get, if_pos ha]
  refine (said _).leads preserves_coherent hl fun _ m₁ l₁ hm₁ hl₁ => ?_
  obtain rfl : m₁ = m := hm₁
  refine Proc.ensures_bind.2 ((ensures_givesUp ha hl₁).mono ?_)
  rintro - m₂ l₂ ⟨rfl, hl₂⟩
  -- none of the calls that are left is waited for
  rw [Proc.ensures_bind, Proc.ensures_modify]
  refine Proc.ensures_call.2 ⟨trivial, fun _ _ h => ?_⟩
  obtain rfl := h
  refine Proc.ensures_call.2 ⟨trivial, fun _ _ h => ?_⟩
  obtain rfl := h
  refine Proc.ensures_call.2 ⟨trivial, fun r l₃ hr => ?_⟩
  obtain ⟨-, rfl⟩ := Prod.mk.inj hr
  exact ⟨rfl, ⟨hl₂.disconnected, hl₂.unaddressed, hl₂.unpublished,
    hl₂.unselected⟩, rfl⟩

end Manager

-- ========================================================== the interface

/-- The call is one on the interface. -/
def GsmCall.onInterface : GsmCall → Bool
  | netif _ => true
  | _ => false

/-- What was asked of the interface. -/
def interfaceCalls (t : List (Event Surroundings)) :
    List (Event Surroundings) :=
  t.filter (GsmCall.onInterface ·.call)

theorem interfaceCalls_append (t t' : List (Event Surroundings)) :
    interfaceCalls (t ++ t') = interfaceCalls t ++ interfaceCalls t' :=
  List.filter_append ..

/-- To hang up makes no call on the interface. -/
theorem interfaceCalls_eq_nil {t : List (Event Surroundings)}
    (h : ∀ e ∈ t, Manager.hangsUp e.call) : interfaceCalls t = [] := by
  refine List.filter_eq_nil_iff.2 fun e he => ?_
  rcases h e he with hc | hc | hc
  · intro hon
    generalize e.call = call at hc hon
    cases call with
    | netif => cases hc
    | _ => cases hon
  · rw [hc]
    exact nofun
  · rw [hc]
    exact nofun

namespace Manager

variable {m : Manager}

/-- The observer goes first, and each of the two goes once. -/
theorem shows_takesDown (ha : m.active = true) :
    Shows deinit m fun t _ _ => interfaceCalls t
      = [⟨.netif .unsubscribe, ()⟩, ⟨.netif .destroy, ()⟩] := by
  unfold deinit
  rw [shows_bind, shows_get, if_pos ha]
  refine shows_call.2 fun _ => ?_
  refine shows_bind.2 ((only_disconnect m).records.mono fun t x ht => ?_)
  refine shows_bind.2 (shows_modify.2 ?_)
  refine shows_call.2 fun _ => ?_
  refine shows_call.2 fun _ => ?_
  refine shows_call.2 fun _ => ?_
  refine shows_modify.2 ?_
  show interfaceCalls (t ++ _) = _
  rw [interfaceCalls_append, interfaceCalls_eq_nil ht.1]
  rfl

end Manager

-- ============================================================= afterwards

/-- The call writes to the modem. -/
def GsmCall.writes : GsmCall → Bool
  | modem (.exchange ..) => true
  | modem (.switch _) => true
  | modem .quality => true
  | _ => false

/-- A channel to the modem was made. -/
def makes : Event Surroundings → Bool
  | ⟨.build _, .ok _⟩ => true
  | _ => false

/-- A channel was made. -/
def Made (t : List (Event Surroundings)) : Prop :=
  ∃ x ∈ t, makes x = true

/-- Nothing is written before a channel is made. -/
def Guarded (t : List (Event Surroundings)) : Prop :=
  ∀ before e after, t = before ++ e :: after → e.call.writes = true →
    Made before

section Transcripts

variable {t t' : List (Event Surroundings)}

theorem Made.append (h : Made t) (t' : List (Event Surroundings)) :
    Made (t ++ t') :=
  h.imp fun _ hx => ⟨List.mem_append_left t' hx.1, hx.2⟩

theorem Made.prepend (h : Made t') (t : List (Event Surroundings)) :
    Made (t ++ t') :=
  h.imp fun _ hx => ⟨List.mem_append_right t hx.1, hx.2⟩

theorem made_append (h : ∀ e ∈ t, makes e = false) :
    Made (t ++ t') ↔ Made t' := by
  refine ⟨fun ⟨x, hx, hmakes⟩ => ?_, fun h' => h'.prepend t⟩
  rcases List.mem_append.1 hx with hx | hx
  · rw [h x hx] at hmakes
    cases hmakes
  · exact ⟨x, hx, hmakes⟩

theorem made_cons {e : Event Surroundings} (h : makes e = false) :
    Made (e :: t) ↔ Made t :=
  made_append (t := [e]) (by simpa using h)

/-- Where nothing is written, nothing is written too early. -/
theorem guarded_of_unwritten (h : ∀ e ∈ t, e.call.writes = false) :
    Guarded t := by
  rintro before e after rfl he
  rw [h e (by simp)] at he
  cases he

/-- What comes behind a channel is `Guarded` by it. -/
theorem Guarded.append (h : Guarded t) (h' : Made t ∨ Guarded t') :
    Guarded (t ++ t') := by
  intro before e after hsplit he
  rcases List.append_eq_append_iff.1 hsplit with
    ⟨later, rfl, hlater⟩ | ⟨later, rfl, hlater⟩
  · rcases h' with hmade | h'
    · exact hmade.append later
    · exact (h' later e after hlater he).prepend t
  · cases later with
    | nil =>
      rw [List.append_nil] at h'
      rcases h' with hmade | h'
      · exact hmade
      · obtain ⟨x, hx, -⟩ := h' [] e after hlater.symm he
        cases hx
    | cons e' later =>
      obtain ⟨rfl, -⟩ := List.cons.inj hlater
      exact h before e later rfl he

end Transcripts

namespace Manager

variable {m : Manager}

theorem not_makes_of_resets {e : Event Surroundings}
    (h : resets e.call) : makes e = false := by
  obtain ⟨call, answer⟩ := e
  rcases h with h | ⟨pin, high, rfl⟩
  · cases call with
    | modem => rfl
    | _ => cases h
  · rfl

theorem not_writes_of_silent {c : GsmCall} (h : c.silent = true) :
    c.writes = false := by
  cases c with
  | modem call =>
    cases call with
    | pause | log => rfl
    | _ => cases h
  | _ => cases h

theorem not_writes_of_initializes {c : GsmCall} (h : initializes c) :
    c.writes = false := by
  rcases h with (h | ⟨pin, high, rfl⟩) | (h | ⟨call, rfl⟩ | ⟨uart, rfl⟩)
    | rfl
  · exact not_writes_of_silent h
  · rfl
  · exact not_writes_of_silent h
  · rfl
  · rfl
  · rfl

/-- It succeeds exactly if a channel is made, and sets nothing up if it
does not succeed. -/
theorem shows_build (ha : m.active = false) :
    Shows build m fun t r m' =>
      (r = .ok () ↔ Made t) ∧ (m'.active = true ↔ r = .ok ()) := by
  unfold build
  rw [shows_bind, shows_get]
  refine shows_call.2 fun created => ?_
  -- the channel is made last, so a set-up that fails before made none
  cases created with
  | error e =>
    refine shows_call.2 fun _ => ?_
    exact ⟨by simp [Made, makes], by simp [ha]⟩
  | ok =>
    refine shows_call.2 fun subscribed => ?_
    cases subscribed with
    | error e =>
      refine shows_call.2 fun _ => ?_
      refine shows_call.2 fun _ => ?_
      exact ⟨by simp [Made, makes], by simp [ha]⟩
    | ok =>
      refine shows_call.2 fun built => ?_
      cases built with
      | error e =>
        refine shows_call.2 fun _ => ?_
        refine shows_call.2 fun _ => ?_
        refine shows_call.2 fun _ => ?_
        exact ⟨by simp [Made, makes], by simp [ha]⟩
      | ok =>
        refine shows_bind.2 (shows_modify.2 ?_)
        refine shows_bind.2 (shows_modify.2 ?_)
        refine shows_call.2 fun _ => ?_
        exact ⟨by simp [Made, makes], by simp⟩

/-- A set-up (`init`) comes to what its last part comes to, and writes
nothing. -/
theorem shows_init (ha : m.active = false) :
    Shows init m fun t r m' =>
      (r = .ok () ↔ Made t) ∧ (m'.active = true ↔ r = .ok ())
        ∧ ∀ e ∈ t, e.call.writes = false := by
  have unwritten : Shows init m fun t _ _ =>
      ∀ e ∈ t, e.call.writes = false :=
    (only_init m).records.mono fun t _ ht e he =>
      not_writes_of_initializes (ht.1 e he)
  suffices hmade : Shows init m fun t r m' =>
      (r = .ok () ↔ Made t) ∧ (m'.active = true ↔ r = .ok ()) from
    (hmade.and unwritten).mono fun _ _ _ h => ⟨h.1.1, h.1.2, h.2⟩
  unfold init
  rw [shows_bind, shows_get, if_neg (by simp [ha])]
  refine shows_call.2 fun _ => ?_
  refine shows_bind.2 ((stays_hardwareReset m).records.mono
    fun t x ht => ?_)
  obtain ⟨hresets, hx⟩ := ht
  rw [hx]
  refine shows_call.2 fun _ => ?_
  have built := shows_build (m := { m with recorded := .hardwareReset }) ha
  refine built.mono fun t' r m' h => ?_
  -- nothing that comes before makes a channel
  rw [List.nil_append, made_cons rfl,
    made_append fun e he => not_makes_of_resets (hresets e he),
    made_cons rfl]
  exact h

/-- With nothing set up, to give a session up is a line in the log. -/
theorem shows_disconnect (ha : m.active = false) :
    Shows disconnect m fun t _ m' =>
      (∃ line, t = [⟨.modem (.log line), ()⟩]) ∧ m' = m := by
  unfold disconnect
  rw [shows_bind, shows_get, if_neg (by simp [ha])]
  exact shows_lift.2 (records_ask.2 fun _ => ⟨⟨_, rfl⟩, rfl⟩)

/-- So is to take everything down. -/
theorem shows_deinit (ha : m.active = false) :
    Shows deinit m fun t _ m' =>
      (∃ line, t = [⟨.modem (.log line), ()⟩]) ∧ m' = m := by
  unfold deinit
  rw [shows_bind, shows_get, if_neg (by simp [ha])]
  exact shows_lift.2 (records_ask.2 fun _ => ⟨⟨_, rfl⟩, rfl⟩)

end Manager

/-- Started with nothing set up, the operation writes nothing before it
has made a channel, and sets nothing up without one. -/
def Operation.Cautious (o : Operation) : Prop :=
  ∀ m, m.active = false → Shows o.act m fun t _ m' =>
    Guarded t ∧ (m'.active = true → Made t)

/-- Every operation that starts with nothing set up is `Cautious`. -/
theorem Operation.cautious (o : Operation) : o.Cautious := by
  intro m ha
  -- most operations do no more than log when nothing is set up
  have idle {t : List (Event Surroundings)} {m' : Manager}
      (ht : ∃ line, t = [⟨.modem (.log line), ()⟩]) (hm : m' = m) :
      Guarded t ∧ (m'.active = true → Made t) := by
    obtain ⟨line, rfl⟩ := ht
    refine ⟨guarded_of_unwritten (by simp [GsmCall.writes]), fun hx => ?_⟩
    rw [hm, ha] at hx
    cases hx
  cases o with
  | init =>
    refine (Manager.shows_init ha).mono fun t r m' h => ?_
    obtain ⟨hmade, hactive, hunwritten⟩ := h
    exact ⟨guarded_of_unwritten hunwritten, fun hx =>
      hmade.1 (hactive.1 hx)⟩
  | connect =>
    show Shows Manager.connect m _
    unfold Manager.connect
    rw [shows_bind, shows_get, if_pos (by simp [ha])]
    exact shows_call.2 fun _ => idle ⟨_, rfl⟩ rfl
  -- what follows the set-up may write, as the channel is made by then
  | bringUp =>
    refine shows_bind.2 ((Manager.shows_init ha).mono fun t r m' h => ?_)
    obtain ⟨hmade, hactive, hunwritten⟩ := h
    have hguarded := guarded_of_unwritten hunwritten
    cases r with
    | ok =>
      have hmade := hmade.1 rfl
      exact (Proc.records_runs _).mono fun t' _ _ =>
        ⟨hguarded.append (.inl hmade), fun _ => hmade.append t'⟩
    | error e =>
      refine Proc.shows_pure.2 ?_
      rw [List.append_nil]
      exact ⟨hguarded, fun hx => nomatch hactive.1 hx⟩
  | disconnect =>
    exact (Manager.shows_disconnect ha).mono fun _ _ _ h => idle h.1 h.2
  | deinit =>
    exact (Manager.shows_deinit ha).mono fun _ _ _ h => idle h.1 h.2
  | signalStrength =>
    show Shows Manager.signalStrength m _
    unfold Manager.signalStrength
    rw [shows_bind, shows_get, if_pos (by simp [ha])]
    refine ⟨guarded_of_unwritten nofun, fun hx => ?_⟩
    rw [ha] at hx
    cases hx

-- ============================================================ histories

/-- What operations and reports lead to from here, and the calls that they
made on the way. -/
inductive Later (m : Manager) (l : Link) :
    Manager → Link → List (Event Surroundings) → Prop
  | now : Later m l m l []
  | heard {m' : Manager} {l' : Link} {t : List (Event Surroundings)}
      (report : Report) :
      Later m l m' l' t → Later m l m' (l'.hear report) t
  | operated {m₁ m₂ : Manager} {l₁ l₂ : Link}
      {t t' : List (Event Surroundings)} (o : Operation) {r : o.Answer} :
      Later m l m₁ l₁ t →
      Runs Surroundings.amid (o.act.run m₁) l₁ t' (r, m₂) l₂ →
      Later m l m₂ l₂ (t ++ t')

/-- From a manager with nothing set up, nothing is written before a channel
is made, and nothing is set up without one. -/
theorem Later.guarded {m m' : Manager} {l l' : Link}
    {t : List (Event Surroundings)} (ha : m.active = false)
    (h : Later m l m' l' t) :
    Guarded t ∧ (m'.active = true → Made t) := by
  induction h with
  | now => exact ⟨guarded_of_unwritten nofun, fun hx => by simp [ha] at hx⟩
  | heard report _ ih => exact ih
  | @operated m₁ m₂ l₁ l₂ t t' o r _ hr ih =>
    obtain ⟨hguarded, hmade⟩ := ih
    cases ha₁ : m₁.active with
    | true =>
      have hmade := hmade ha₁
      exact ⟨hguarded.append (.inl hmade), fun _ => hmade.append t'⟩
    | false =>
      obtain ⟨hguarded', hmade'⟩ := (o.cautious m₁ ha₁).of_runs hr
      exact ⟨hguarded.append (.inr hguarded'), fun hx =>
        (hmade' hx).prepend t⟩

/-- Nothing is set up, and nothing is done before something is. -/
structure Dormant (m : Manager) : Prop where
  /-- To give a session up, or to take everything down, is a line in the
  log and nothing else. -/
  unmoved : ∀ o : Operation, o = .disconnect ∨ o = .deinit →
    ∀ {l l' : Link} {t : List (Event Surroundings)} {r : o.Answer}
      {m' : Manager},
      Runs Surroundings.cooperative (o.act.run m) l t (r, m') l' →
      (∃ line, t = [⟨.modem (.log line), ()⟩]) ∧ m' = m ∧ l' = l
  /-- Whatever follows, nothing is written to the modem before a channel
  to it is made. -/
  guarded : ∀ {l l' : Link} {t : List (Event Surroundings)}
      {m' : Manager}, Later m l m' l' t → Guarded t
  /-- A set-up succeeds exactly if it makes one. -/
  succeeds : ∀ {l l' : Link} {t : List (Event Surroundings)}
      {r : Except GsmError Unit} {m' : Manager},
      Runs Surroundings.amid (Manager.init.run m) l t (r, m') l' →
      (r = .ok () ↔ Made t)

/-- A manager that is not active is `Dormant`. -/
theorem dormant_of_inactive {m : Manager} (ha : m.active = false) :
    Dormant m := by
  have ended {α : Type} {p : Proc Surroundings α} {l l' : Link} {a : α}
      (h : Runs Surroundings.cooperative p l [] a l') : l' = l := by
    cases h
    rfl
  have said {α : Type} {p : Proc Surroundings α} {l l' : Link}
      {t : List (Event Surroundings)} {a : α}
      (h : Runs Surroundings.cooperative p l t a l')
      (ht : ∃ line, t = [⟨.modem (.log line), ()⟩]) : l' = l := by
    obtain ⟨line, rfl⟩ := ht
    cases h with
    | call hanswer hrest => exact (ended hrest).trans hanswer
  refine ⟨?_, fun h => (h.guarded ha).1, fun h =>
    ((Manager.shows_init ha).of_runs h).1⟩
  rintro o (rfl | rfl) l l' t r m' h
  · obtain ⟨ht, hm⟩ := (Manager.shows_disconnect ha).of_runs h
    exact ⟨ht, hm, said h ht⟩
  · obtain ⟨ht, hm⟩ := (Manager.shows_deinit ha).of_runs h
    exact ⟨ht, hm, said h ht⟩

/-- From wherever the manager got to, whatever it recorded last, whatever
the modem answers and whatever is reported until it does: to give the
session up leaves nothing of it, and to take everything down leaves nothing
at all. The interface loses its observer and is destroyed, once each, and
from then on the manager is `Dormant`. -/
theorem Reached.taken_down {settings : Config.Settings} {m : Manager}
    {l : Link} (h : Reached settings m l) (ha : m.active = true)
    (recorded : GsmState) :
    let m := { m with recorded }
    (∃ t m' l', Runs Surroundings.cooperative (Manager.disconnect.run m) l
        t ((), m') l')
      ∧ (∀ t m' l', Runs Surroundings.cooperative
          (Manager.disconnect.run m) l t ((), m') l' →
        l'.GivenUp ∧ m'.state l' = .disconnected ∧ m'.active = true)
      ∧ (∃ t m' l', Runs Surroundings.cooperative (Manager.deinit.run m) l
        t ((), m') l')
      ∧ ∀ t m' l', Runs Surroundings.cooperative (Manager.deinit.run m) l
          t ((), m') l' →
        l'.GivenUp ∧ l'.event = none
          ∧ m'.state l' = .uninitialized ∧ m'.active = false
          ∧ interfaceCalls t
            = [⟨.netif .unsubscribe, ()⟩, ⟨.netif .destroy, ()⟩]
          ∧ Dormant m' := by
  -- there always is a run, as surroundings that oblige are among them
  have runs (act : Manager.Act Unit) (m : Manager) :
      ∃ t m' l', Runs Surroundings.cooperative (act.run m) l t
        ((), m') l' := by
    obtain ⟨t, ⟨⟨⟩, m'⟩, l', hr⟩ := Proc.exists_runs
      (fun call l => ⟨_, _, cooperative_obliging call l⟩) (act.run m) l
    exact ⟨t, m', l', hr⟩
  have hl := h.consistent.coherent
  intro m
  have ha : m.active = true := ha
  refine ⟨runs _ m, fun t m' l' hr => ?_, runs _ m, fun t m' l' hr => ?_⟩
  · obtain ⟨rfl, hup⟩ := (Manager.ensures_givesUp ha hl).of_runs hr
    exact ⟨hup, rfl, ha⟩
  · obtain ⟨rfl, hup, hevent⟩ :=
      (Manager.ensures_takesDown ha hl).of_runs hr
    exact ⟨hup, hevent, rfl, rfl, (Manager.shows_takesDown ha).of_runs hr,
      dormant_of_inactive rfl⟩

/-- The modem does not answer the escape, and while it is waited for the
session gets another address. -/
def readdressing : (call : GsmCall) → Link → call.Answer × Link
  | .modem (.switch _), l =>
    (.error .io, l.hear (.ipAcquired
      ⟨⟨10, 0, 0, 9⟩, ⟨255, 255, 255, 255⟩, ⟨10, 0, 0, 1⟩⟩))
  | call, l => obliging call l

/-- Surroundings that bring another address while the escape is waited for
run on one executor. -/
theorem cooperative_readdressing (call : GsmCall) (l : Link) :
    Surroundings.cooperative call l (readdressing call l).1
      (readdressing call l).2 := by
  cases call with
  | modem call =>
    cases call with
    | switch mode => exact ⟨[.ipAcquired _], rfl⟩
    | _ => exact cooperative_obliging _ l
  | _ => exact cooperative_obliging _ l

/-- A link that was connected, taken down there. -/
def readdressed : (Unit × Manager) × Link :=
  (Manager.deinit.run obliged.1.2).run readdressing obliged.2

/-- A session that gets another address while it is taken down: nothing is
left of it, nor of the new address, and the manager is `Dormant`. -/
theorem Reached.taken_down_readdressed :
    obliged.2.connected = true ∧ obliged.1.2.active = true
      ∧ readdressed.2.GivenUp ∧ readdressed.2.event = none
      ∧ readdressed.1.2.state readdressed.2 = .uninitialized
      ∧ Dormant readdressed.1.2 := by
  have ha : obliged.1.2.active = true := by decide +kernel
  obtain ⟨t, hr⟩ := Proc.runs_of_run id cooperative_readdressing
    (Manager.deinit.run obliged.1.2) obliged.2
  obtain ⟨-, -, -, hdown⟩ :=
    reached_obliged.taken_down ha obliged.1.2.recorded
  obtain ⟨hup, hevent, hstate, -, -, hdormant⟩ := hdown t _ _ hr
  exact ⟨by decide +kernel, ha, hup, hevent, hstate, hdormant⟩

end Uplink.Gsm
