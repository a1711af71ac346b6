/-
WiFi beside the cellular link.

Both transports share one selector, and either may come and go while the
other is at work. What is said of WiFi is WiFi's own: its flag is what its
own reports make of it, and the selector leaves it only where WiFi gives
it up itself or a connection is confirmed.

# How it is shown

It begins with single accesses. Those of the manager and of the IP stack
leave WiFi alone, but for the one that confirms a session
(`after_beside`). So the record at any point of a history says of WiFi
what the notices of that history say (`Scene.Notified`), and of the
cellular link only the accepted confirmations count among these
(`Happening.notices`). Which operations get one accepted is read off the
calls alone (`Operation.connects_of_accepted`).
-/
import Uplink.Proofs.Gsm.Chronicle
import Uplink.Proofs.Gsm.Interleaving
import Uplink.Proofs.Network.Arrivals

namespace Uplink.Gsm

open Network (Connected Holds Notice Status Transport not_since_nil
  since_concat)
open Proc (Ensures Reaches Runs)

variable {α : Type}

-- ====================================================== single accesses

/-- What WiFi does in a report, if it is one of its own. -/
def Report.notice? : Report → Option Notice
  | .wifi true => some (.up .wifi)
  | .wifi false => some (.down .wifi)
  | .releaseWifi => some (.released .wifi)
  | .ipAcquired _ | .ipLost | .linkStatus _ => none

namespace Link

/-- The access confirms a session. -/
def Confirms (l : Link) (a : Access) : Prop :=
  a = .confirm ∧ l.confirmable = true

/-- WiFi stands as it did, though it may have given the traffic up to a
session that was confirmed. -/
structure Beside (confirmed : Prop) (l l' : Link) : Prop where
  flag : l'.status.isConnected .wifi = l.status.isConnected .wifi
  selector : l'.status.active = some .wifi
    ↔ l.status.active = some .wifi ∧ ¬ confirmed

/-- WiFi stands as it did over two spans in neither of which a session was
confirmed. -/
theorem Beside.trans {l l₁ l' : Link} (h : Beside False l l₁)
    (h' : Beside False l₁ l') : Beside False l l' := by
  refine ⟨h'.flag.trans h.flag, ?_⟩
  rw [h'.selector, h.selector]
  simp

/-- What WiFi does not do leaves it alone, but for a confirmation. -/
theorem after_beside {l : Link} {t : Task} {a : Access} (ht : t ≠ .wifi)
    (ha : t.makes a) : Beside (l.Confirms a) l (l.after a) := by
  obtain ⟨hflag, hback⟩ := after_others_wifi (l := l) ⟨t, ht, ha⟩
  refine ⟨hflag, ?_⟩
  -- of the accesses that reach the selection, a confirmation alone takes
  -- it from WiFi
  cases a with
  | confirm =>
    rw [after_confirm]
    cases hc : l.confirmable with
    | true => simp [Confirms, hc, Status.notify_up]
    | false => simp [Confirms, hc]
  | dropAddress =>
    rw [after_dropAddress]
    refine ⟨fun h => ⟨hback h, fun hc => by cases hc.1⟩, fun h => ?_⟩
    simp [Status.notify_down, h.1]
  | status access =>
    refine ⟨fun h => ⟨hback h, fun hc => by cases hc.1⟩, fun h => ?_⟩
    rw [after_status]
    cases access with
    | setFlag u connected => cases u <;> exact h.1
    | select u =>
      cases t with
      | wifi => exact absurd rfl ht
      | manager => cases u <;> exact ha.elim
      | stack number => exact ha.elim
    | deselect u =>
      cases u with
      | gsm => simp [Status.apply, h.1]
      | wifi =>
        cases t with
        | wifi => exact absurd rfl ht
        | manager => exact ha.elim
        | stack number => exact ha.elim
    | announce u connected => exact h.1
    | signal => exact h.1
  | takeConnected | clearAddress | setAddress | signal | forgetEvent
  | log =>
    exact ⟨fun h => ⟨h, fun hc => by cases hc.1⟩, And.left⟩

/-- What is said of WiFi after a `Report` of the IP stack was said
before. -/
theorem hear_beside (l : Link) {report : Report}
    (h : report.notice? = none) : Beside False l (l.hear report) := by
  have none (l : Link) (a : Access) (ha : (Task.stack 0).makes a)
      (hc : a ≠ .confirm) : Beside False l (l.after a) := by
    have hb := after_beside (l := l) (t := .stack 0) nofun ha
    exact ⟨hb.flag, hb.selector.trans (by simp [Confirms, hc])⟩
  cases report with
  | ipAcquired info =>
    exact ((none l (.log _) trivial nofun).trans
      (none _ (.setAddress info) trivial nofun)).trans
      (none _ (.signal (.ipAcquired info)) trivial nofun)
  | ipLost =>
    exact ((none l (.log _) trivial nofun).trans
      (none _ .dropAddress trivial nofun)).trans
      (none _ (.signal .ipLost) trivial nofun)
  | linkStatus code =>
    rw [hear_linkStatus]
    split
    · exact ⟨rfl, by simp⟩
    · exact none l (.signal (.linkFailed code)) trivial nofun
  | wifi connected => cases connected <;> cases h
  | releaseWifi => cases h

/-- A report of WiFi changes the status as its `Notice` does. -/
theorem hear_notice (l : Link) {report : Report} {n : Notice}
    (h : report.notice? = some n) :
    (l.hear report).status = l.status.hear n := by
  cases report with
  | wifi connected =>
    cases connected <;> cases h <;> rfl
  | releaseWifi =>
    cases h
    rfl
  | ipAcquired | ipLost | linkStatus => cases h

end Link

-- ============================================================== histories

/-- What happened to WiFi, as far as it shows in a history: its own
reports, and the accepted confirmations of the cellular link. -/
def Happening.notice? : Happening → Option Notice
  | .heard report => report.notice?
  | .asked ⟨.record .markConnected, true⟩ => some (.up .gsm)
  | .asked _ => none

def Happening.notices (past : List Happening) : List Notice :=
  past.filterMap Happening.notice?

/-- The record says of WiFi what the notices say. -/
structure Scene.Notified (s : Scene) : Prop where
  flag : s.link.status.isConnected .wifi = true
    ↔ Connected (Happening.notices s.past) .wifi
  selector : s.link.status.active = some .wifi
    ↔ Holds (Happening.notices s.past) .wifi

namespace Scene

variable {s s' : Scene}

/-- Before anything happened the record says nothing of WiFi. -/
theorem notified_fresh : ({} : Scene).Notified :=
  ⟨iff_of_false nofun not_since_nil, iff_of_false nofun not_since_nil⟩

/-- What leaves WiFi where it stood, and brings no notice, leaves the
record in accord with the notices. -/
theorem Notified.of_beside (hs : s.Notified)
    (hn : Happening.notices s'.past = Happening.notices s.past)
    (hl : Link.Beside False s.link s'.link) : s'.Notified := by
  refine ⟨?_, ?_⟩
  · rw [hl.flag, hn]
    exact hs.flag
  · rw [hl.selector, hn, hs.selector]
    simp

/-- A `Notice` that the record heard leaves it in accord with the
notices. -/
theorem Notified.hear (hs : s.Notified) {n : Notice}
    (hn : Happening.notices s'.past = Happening.notices s.past ++ [n])
    (hl : s'.link.status = s.link.status.hear n) : s'.Notified := by
  refine ⟨?_, ?_⟩
  · rw [hl, Status.hear_isConnected, hs.flag, hn]
    exact since_concat.symm
  · rw [hl, Status.hear_active, hs.selector, hn]
    exact since_concat.symm

theorem notices_concat (past : List Happening) (h : Happening) :
    Happening.notices (past ++ [h])
      = Happening.notices past ++ h.notice?.toList := by
  rw [Happening.notices, List.filterMap_append]
  cases hn : h.notice? <;> simp [Happening.notices, hn]

/-- No report brings record and notices apart. -/
theorem lasts_notified : Lasts Notified := by
  intro s report hs
  have hp := notices_concat s.past (.heard report)
  cases hn : report.notice? with
  | none =>
    refine hs.of_beside (hp.trans ?_) (s.link.hear_beside hn)
    rw [Happening.notice?, hn]
    exact List.append_nil _
  | some n =>
    refine hs.hear (hp.trans ?_) (s.link.hear_notice hn)
    rw [Happening.notice?, hn]
    rfl

/-- Giving a session up concerns WiFi at no access. -/
theorem asks_closing : Link.closing.Asks fun a : Link.Access =>
    Link.Task.manager.makes a ∧ a ≠ .confirm := by
  refine ⟨⟨trivial, nofun⟩, fun was => ⟨⟨trivial, nofun⟩, fun _ => ?_⟩⟩
  cases was with
  | true =>
    exact ⟨⟨trivial, nofun⟩, fun _ => ⟨⟨trivial, nofun⟩, fun _ =>
      ⟨⟨trivial, nofun⟩, fun _ => ⟨⟨trivial, nofun⟩, fun _ => trivial⟩⟩⟩⟩
  | false => exact ⟨⟨trivial, nofun⟩, fun _ => trivial⟩

/-- Nor does an access of the manager that confirms nothing. -/
theorem preserves_amid : Scene.amid.contract.Preserves
    (fun a => Link.Task.manager.makes a ∧ a ≠ .confirm) Notified := by
  rintro a s ⟨ha, hc⟩ hs
  refine ⟨trivial, fun r s' hr => ?_⟩
  obtain ⟨reports, hr⟩ := hr
  have hs := lasts_notified.hearAll hs reports
  obtain ⟨rfl, rfl⟩ := Prod.mk.inj hr
  have hb := Link.after_beside (l := (s.hearAll reports).link)
    (t := .manager) nofun ha
  exact hs.of_beside rfl
    ⟨hb.flag, hb.selector.trans (by simp [Link.Confirms, hc])⟩

/-- A confirmation (`markConnected`) is noted as what it was answered. -/
theorem Notified.confirm {r : Bool} (hs : s.Notified)
    (h : Surroundings.chronicled (.record .markConnected) s r s') :
    s'.Notified ∧ (r = true → s'.link.status.active = some .gsm) := by
  obtain ⟨s₁, ⟨reports, h⟩, rfl⟩ := h
  have hs := lasts_notified.hearAll hs reports
  generalize s.hearAll reports = s at hs h
  have hvalue : (RecordCall.apply s.link .markConnected).value
      = (s.link.confirmable, s.link.after .confirm) :=
    s.link.markConnected_value
  unfold take at h
  rw [hvalue] at h
  obtain ⟨rfl, rfl⟩ := Prod.mk.inj h
  have hp := notices_concat s.past
    (.asked ⟨.record .markConnected, s.link.confirmable⟩)
  cases hc : s.link.confirmable with
  | true =>
    rw [hc] at hp
    have hl : (s.link.after .confirm).status
        = s.link.status.hear (.up .gsm) := by
      rw [Link.after_confirm, if_pos hc]
      rfl
    refine ⟨hs.hear hp hl, fun _ => ?_⟩
    show (s.link.after .confirm).status.active = _
    rw [hl, Status.hear_active]
    exact .inl rfl
  | false =>
    rw [hc] at hp
    refine ⟨hs.of_beside (hp.trans (List.append_nil _)) ?_, nofun⟩
    show Link.Beside False s.link (s.link.after .confirm)
    rw [Link.after_confirm, if_neg (by simp [hc])]
    exact ⟨rfl, by simp⟩

/-- Whatever is called, and whatever it is answered. -/
theorem preserves_notified : Surroundings.chronicled.contract.Preserves
    (fun _ => True) Notified := by
  intro call s _ hs
  -- quiet calls bring no notice; of the others only the confirmation does
  by_cases hq : call.quiet = true
  · refine lasts_notified.preserved (P := fun c => c.quiet = true)
      (fun _ h => h) ?_ call s hq hs
    rintro s ⟨call, r⟩ hq hs
    have hp := notices_concat s.past (.asked ⟨call, r⟩)
    refine hs.of_beside (hp.trans ?_) ?_
    · cases call with
      | record call =>
        cases call with
        | markConnected => cases hq
        | _ => exact List.append_nil _
      | _ => exact List.append_nil _
    · have hl : (call.leaves s.link).status = s.link.status := by
        unfold GsmCall.leaves
        split <;> rfl
      refine ⟨congrArg (Status.isConnected · .wifi) hl, ?_⟩
      show (call.leaves s.link).status.active = some .wifi ↔ _
      rw [hl]
      simp
  · refine ⟨trivial, fun r s' hr => ?_⟩
    cases call with
    | record call =>
      cases call with
      | markConnected => exact (hs.confirm hr).1
      | markDisconnected =>
        obtain ⟨s₁, ⟨t, hr⟩, rfl⟩ := hr
        have hs₁ : s₁.Notified :=
          (asks_closing.meets preserves_amid hs).of_runs hr
        exact hs₁.of_beside
          ((notices_concat s₁.past _).trans (List.append_nil _))
          ⟨rfl, by simp [Scene.note]⟩
      | _ => exact absurd rfl hq
    | _ => exact absurd rfl hq

end Scene

-- ========================================================= confirmations

/-- A session was confirmed. -/
def accepts : Event Surroundings → Bool
  | ⟨.record .markConnected, confirmed⟩ => confirmed
  | _ => false

/-- Whether a session was confirmed so far goes along with the calls. -/
def accepting : Contract Surroundings Bool :=
  .reading fun accepted event => some (accepted || accepts event)

/-- Along a transcript, whether a session was confirmed is whether one of
its events says so. -/
theorem foldlM_accepts (t : List (Event Surroundings)) (b : Bool) :
    t.foldlM (fun accepted event => some (accepted || accepts event)) b
      = some (b || t.any accepts) := by
  induction t generalizing b with
  | nil => simp
  | cons event rest ih =>
    rw [List.foldlM_cons, List.any_cons, ← Bool.or_assoc]
    exact ih (b || accepts event)

/-- Calls that ask for no confirmation leave it at that. -/
theorem preserves_unaccepted : accepting.Preserves
    (fun call => call ≠ .record .markConnected) (· = false) := by
  rintro call b hc rfl
  refine ⟨fun _ => rfl, fun r b' hr => ?_⟩
  obtain rfl := Option.some.inj hr
  cases call with
  | record call =>
    cases call with
    | markConnected => exact absurd rfl hc
    | _ => rfl
  | _ => rfl

theorem ne_markConnected_of_quiet {call : GsmCall}
    (h : call.quiet = true) : call ≠ .record .markConnected := by
  rintro rfl
  cases h

/-- Only a connection (`connect`) that succeeds had its session
confirmed. -/
def Operation.Connects : (o : Operation) → o.Answer → Prop
  | .connect, r | .bringUp, r => r = .ok ()
  | _, _ => False

namespace Manager

variable {m : Manager}

theorem Spares.accepting {κ : Type} {view : Manager → κ} {act : Act α}
    (h : Spares view (fun call => call.quiet = true) act) :
    Ensures accepting act m false fun _ _ b => b = false :=
  ((h.mono fun _ => ne_markConnected_of_quiet).ensures
    preserves_unaccepted rfl).mono fun _ _ _ h => h.2

/-- The confirmation is the last thing that is asked for, and where it is
accepted the connection succeeds. -/
theorem ends_awaitSession_accepting : Ends accepting (· = false) m
    (fun r _ b => b = true → r = .ok ()) awaitSession := by
  have aborting (why : String) {m : Manager} {b : Bool} (hb : b = false) :
      Ensures accepting (abort why) m b
        fun r _ b => b = true → r = .ok () := by
    subst hb
    have quiet : Quiet (abort why) := (passive_abort why).mono
      fun _ => quiet_of_aborts
    exact quiet.accepting.mono fun _ _ b hb h => by rw [hb] at h; cases h
  intro m₀ b _ hb
  unfold awaitSession
  rw [ExceptT.run_mk, Proc.ensures_bind]
  subst hb
  refine (quiet_log _).accepting.mono fun _ m₁ b hb => ?_
  subst hb
  rw [Proc.ensures_bind]
  refine (quiet_ask rfl).accepting.mono fun event m₂ b hb => ?_
  -- only an address gets as far as the confirmation
  rcases event with _ | info | _ | code
  · exact aborting _ hb
  · subst hb
    have quiet : Quiet setUpResolvers := passive_setUpResolvers.mono
      fun _ => quiet_of_resolves
    rw [Proc.ensures_bind]
    refine quiet.accepting.mono fun _ m₃ b hb => ?_
    subst hb
    refine Proc.ensures_bind.2 (Proc.ensures_lift.2 (Proc.meets_ask.2
      ⟨fun _ => rfl, fun confirmed b hb => ?_⟩))
    have hb : confirmed = b := Option.some.inj hb
    subst hb
    cases confirmed with
    | true => exact fun _ => rfl
    | false => exact aborting _ rfl
  · exact aborting _ hb
  · exact aborting _ hb

/-- A connection (`connect`) that had its session confirmed succeeds. -/
theorem ensures_connect_accepting : Ensures accepting connect m false
    fun r _ b => b = true → r = .ok () := by
  have never {b : Bool} {p : Prop} (hb : b = false) : b = true → p :=
    fun h => by rw [hb] at h; cases h
  have said (line : Line) (a : Except GsmError Unit) (m : Manager) :
      Ensures accepting (log line >>= fun _ => pure a) m false
        fun r _ b => b = true → r = .ok () := by
    have quiet : Quiet (log line >>= fun _ => pure a) :=
      (quiet_log _).bind fun _ => passive_pure _
    exact quiet.accepting.mono fun _ _ _ hb => never hb
  unfold connect
  rw [Proc.ensures_bind, Proc.ensures_get]
  split
  · exact said _ _ m
  · rw [Proc.ensures_bind]
    refine (quiet_ask rfl).accepting.mono fun connected m₁ b hb => ?_
    subst hb
    -- a link that is connected already is not confirmed again
    cases connected with
    | true => exact said _ _ m₁
    | false =>
      refine Proc.ensures_bind.2 ((quiet_log _).accepting.mono
        fun _ m₂ b hb => ?_)
      subst hb
      rw [Proc.ensures_bind, ensures_enter, Proc.ensures_bind]
      have escape : (Surroundings.ofSession Steps.forceCommandMode).Asks
          fun call : GsmCall => call ≠ .record .markConnected :=
        Surroundings.asks_channel (fun _ => nofun) _
      have dial : Quiet (reported Steps.enterDataMode).run :=
        passive_channel_reported (fun _ => rfl) _
      have unaccepted {P : GsmCall → Prop}
          (hP : ∀ call, P call → call.quiet = true) :
          accepting.Preserves P (· = false) := fun call b hc =>
        preserves_unaccepted call b (ne_markConnected_of_quiet (hP _ hc))
      -- up to the session nothing confirms; what the wait for it comes to
      -- is the answer of the connection
      refine (ensures_sequence (unaccepted fun _ => quiet_of_prepares)
        (escape.meets preserves_unaccepted rfl)
        (fun _ _ _ _ hb => never hb)
        (dial.ends (unaccepted fun _ h => h)
          (fun _ _ _ _ hb => never hb)
          fun _ => ends_awaitSession_accepting)).mono
        fun r m₃ b hr => ?_
      cases r with
      | ok =>
        exact Proc.ensures_bind.2 (Proc.ensures_modify.2
          (Proc.ensures_bind.2 (Proc.ensures_lift.2 (Proc.meets_ask.2
            ⟨fun _ => rfl, fun _ _ _ _ => rfl⟩))))
      | error e =>
        have hb : b = false := Bool.eq_false_iff.2 fun h => nomatch hr h
        subst hb
        refine Proc.ensures_bind.2 ((quiet_log _).accepting.mono
          fun _ m₄ b hb => ?_)
        exact never hb

end Manager

/-- What was confirmed in an `Operation` was a connection that succeeds. -/
theorem Operation.ensures_accepting (o : Operation) (m : Manager) :
    Ensures accepting o.act m false fun r _ b =>
      b = true → o.Connects r := by
  -- only a connection asks for the confirmation
  have never {κ : Type} {view : Manager → κ} {P : GsmCall → Prop}
      (h : Manager.Spares view P o.act)
      (hP : ∀ call, P call → call ≠ .record .markConnected) :
      Ensures accepting o.act m false fun r _ b =>
        b = true → o.Connects r := by
    refine ((h.mono hP).ensures preserves_unaccepted rfl).mono
      fun _ _ b hb h => ?_
    rw [hb.2] at h
    cases h
  have hung (call : GsmCall) (h : Manager.hangsUp call) :
      call ≠ .record .markConnected := by
    rcases h with h | rfl | rfl
    · exact ne_markConnected_of_quiet (Manager.quiet_of_silent h)
    · exact nofun
    · exact nofun
  cases o with
  | init =>
    exact never Manager.only_init fun _ h =>
      ne_markConnected_of_quiet (Manager.quiet_of_initializes h)
  | connect => exact Manager.ensures_connect_accepting
  | bringUp =>
    have made : Ensures accepting Manager.init m false
        fun _ _ b => b = false :=
      (Manager.only_init.mono fun _ =>
        Manager.quiet_of_initializes).accepting
    refine Proc.ensures_bind.2 (made.mono fun r m' b hb => ?_)
    subst hb
    cases r with
    | ok => exact Manager.ensures_connect_accepting
    | error e => exact nofun
  | disconnect => exact never Manager.only_disconnect hung
  | deinit =>
    refine never (Manager.spares_deinit Manager.unmoved_unit)
      fun call hc => ?_
    rcases hc with hc | ⟨_, rfl⟩ | rfl
    · exact hung call hc
    · exact nofun
    · exact nofun
  | signalStrength =>
    exact never Manager.passive_signalStrength fun _ h =>
      ne_markConnected_of_quiet (Manager.quiet_of_measures h)

/-- In a run too, whoever answers. -/
theorem Operation.connects_of_accepted {σ : Type}
    {B : Behaviour Surroundings σ} {o : Operation} {m m' : Manager}
    {s s' : σ} {t : List (Event Surroundings)} {r : o.Answer}
    (h : Runs B (o.act.run m) s t (r, m') s')
    (ht : ⟨.record .markConnected, true⟩ ∈ t) : o.Connects r := by
  obtain ⟨b, hb, hr⟩ := Proc.Meets.reads (o.ensures_accepting m) h
  rw [foldlM_accepts] at hb
  refine hr ?_
  rw [← Option.some.inj hb]
  exact List.any_eq_true.2 ⟨_, ht, rfl⟩

-- ============================================================= at any time

/-- A scene of some history, between two operations or where one is about
to make a call. -/
inductive Underway (settings : Config.Settings) : Scene → Prop
  | between {m : Manager} {s : Scene} :
      Chronicled settings m s → Underway settings s
  | within {m : Manager} {s s' : Scene} {call : GsmCall} (o : Operation) :
      Chronicled settings m s →
      Reaches Surroundings.chronicled (o.act.run m) s call s' →
      Underway settings s'

/-- Between the operations of any history the record says of WiFi what the
notices say. -/
theorem Chronicled.notified {settings : Config.Settings} {m : Manager}
    {s : Scene} (h : Chronicled settings m s) : s.Notified := by
  induction h with
  | made => exact Scene.notified_fresh
  | heard report _ ih => exact Scene.lasts_notified _ report ih
  | @operated m m' s s' o t r _ hr ih =>
    have asked : (o.act.run m).Asks fun _ : GsmCall => True :=
      Proc.asks_of_forall (fun _ => trivial) _
    exact (asked.meets Scene.preserves_notified ih).of_runs hr

/-- And so it does at any moment within them. -/
theorem Underway.notified {settings : Config.Settings} {s : Scene}
    (h : Underway settings s) : s.Notified := by
  cases h with
  | between h => exact h.notified
  | @within m s s' call o h hr =>
    have kept : Contract.Preserves
        ⟨fun _ => Scene.Notified, Surroundings.chronicled⟩
        (fun _ => True) Scene.Notified :=
      fun call s hc hs => ⟨hs, (Scene.preserves_notified call s hc hs).2⟩
    have asked : (o.act.run m).Asks fun _ : GsmCall => True :=
      Proc.asks_of_forall (fun _ => trivial) _
    exact (asked.meets kept h.notified).of_reaches hr

/-- At every moment of every history, an operation `Underway` or not: the
flag of WiFi is what WiFi's own transitions make of it, and the selector is
on WiFi exactly if WiFi came up and since then neither went down nor gave
it up, nor was a session confirmed. A confirmation puts the selector on the
cellular link, and it is that of a connection which succeeds. Access by
access, whatever the interleaving, nobody but WiFi changes its flag, and
nobody takes the selector from it but a confirmation. Of any sequence of
transitions and releases, of whichever transport, the selector is on the
one that came up last, unless that went down or was released since, and
then on none. -/
theorem Underway.wifi_undisturbed {settings : Config.Settings} {s : Scene}
    (h : Underway settings s) :
    (s.link.status.isConnected .wifi = true
        ↔ Connected (Happening.notices s.past) .wifi)
      ∧ (s.link.status.active = some .wifi
        ↔ Holds (Happening.notices s.past) .wifi)
      ∧ (∀ s', Surroundings.chronicled (.record .markConnected) s true s' →
        s'.link.status.active = some .gsm)
      ∧ (∀ (o : Operation) {m m' : Manager} {s s' : Scene}
        {t : List (Event Surroundings)} {r : o.Answer},
        Runs Surroundings.chronicled (o.act.run m) s t (r, m') s' →
        ⟨.record .markConnected, true⟩ ∈ t → o.Connects r)
      ∧ (∀ (x : Link.Tasks) (t : Link.Task) {a : Link.Access}
        {k : a.Answer → Proc Link.Accesses Unit},
        x.Reached → t ≠ .wifi → x.left t = .call a k →
        (x.move t a k).link.status.isConnected .wifi
            = x.link.status.isConnected .wifi
          ∧ (x.link.status.active = some .wifi →
            (x.move t a k).link.status.active = some .wifi
              ∨ (t = .manager ∧ a = .confirm ∧ x.link.confirmable = true
                ∧ (x.move t a k).link.status.active = some .gsm)))
      ∧ ∀ notices,
        (∀ t, (Status.after notices).active = some t ↔ Holds notices t)
          ∧ ((Status.after notices).active = none
            ↔ ∀ t, ¬ Holds notices t) := by
  refine ⟨h.notified.flag, h.notified.selector, fun s' hr => ?_,
    fun o m m' s s' t r hr ht => Operation.connects_of_accepted hr ht,
    fun x t a k hx ht hleft => ?_, fun notices => ?_⟩
  · exact (h.notified.confirm hr).2 rfl
  · have hmoved := hx.sound t
    rw [hleft] at hmoved
    obtain ⟨⟨hmakes, -⟩, -⟩ := hmoved
    have hb := Link.after_beside (l := x.link) ht hmakes
    refine ⟨hb.flag, fun hw => ?_⟩
    -- of all accesses by others, a confirmation alone takes the traffic
    by_cases hc : x.link.Confirms a
    · obtain ⟨rfl, hc⟩ := hc
      have hm : t = .manager := by
        cases t with
        | manager => rfl
        | wifi | stack number => exact hmakes.elim
      refine .inr ⟨hm, rfl, hc, ?_⟩
      show (x.link.after .confirm).status.active = _
      rw [Link.after_confirm, if_pos hc, Status.notify_up]
    · exact .inl (hb.selector.2 ⟨hw, hc⟩)
  · exact ⟨fun t => Status.active_after, Network.active_eq_none⟩

-- ========================================================= side by side

/-- WiFi comes up, and the cellular link after it. -/
def joined : (Except GsmError Unit × Manager) × Scene :=
  (Manager.bringUp.run (Manager.new .standard).value).run
    (Scene.answering
      (fun
        | .awaitEvent _ => [.ipAcquired
          ⟨⟨10, 0, 0, 2⟩, ⟨255, 255, 255, 255⟩, ⟨10, 0, 0, 1⟩⟩]
        | _ => [])
      fun call => (obliging call {}).1)
    (Scene.hear {} (.wifi true))

/-- While that is given up, WiFi is lost for a moment. -/
def parted : (Unit × Manager) × Scene :=
  (Manager.disconnect.run joined.1.2).run
    (Scene.answering
      (fun
        | .modem (.switch .command) => [.wifi false, .wifi true]
        | _ => [])
      fun call => (obliging call {}).1)
    joined.2

theorem chronicled_parted : Chronicled .standard parted.1.2 parted.2 := by
  obtain ⟨_, hjoined⟩ := Proc.runs_of_run id
    (Scene.chronicled_answering _ _)
    (Manager.bringUp.run (Manager.new .standard).value) _
  obtain ⟨_, hparted⟩ := Proc.runs_of_run id
    (Scene.chronicled_answering _ _)
    (Manager.disconnect.run joined.1.2) _
  exact .operated .disconnect (.operated .bringUp
    (.heard (.wifi true) .made) hjoined) hparted

/-- The traffic goes over the cellular link while it is up, and over WiFi
where WiFi came back. -/
theorem Underway.wifi_undisturbed_parted :
    joined.2.link.status.active = some .gsm
      ∧ parted.2.link.status.isConnected .wifi = true
      ∧ parted.2.link.status.active = some .wifi := by
  obtain ⟨hflag, hselector, -⟩ :=
    (Underway.between chronicled_parted).wifi_undisturbed
  have hn : Happening.notices parted.2.past
      = [.up .wifi, .up .gsm, .down .wifi, .up .wifi] := by
    decide +kernel
  have holds : Holds (Happening.notices parted.2.past) .wifi :=
    ⟨[.up .wifi, .up .gsm, .down .wifi], [], hn, nofun⟩
  exact ⟨by decide +kernel, hflag.2 holds.connected, hselector.2 holds⟩

end Uplink.Gsm
