/-
When a connection is confirmed, and with which address.

The task that connects reads the reports of the IP stack through a single
event: each report replaces the one before, the wait for the session takes
it, and the confirmation looks at whatever is there by then. Beside it
stands the address, which every report changes on its own. `lastTold` is
what both amount to: the last report since events were forgotten that was
more than an all-clear.

# The phases of a connection

Up to the dial nothing is known of the event (`Scene.Early`). Forgetting it
makes it and `lastTold` agree, and reports keep them so (`Scene.Told`).
The wait takes the event, and from then on it may lag behind by the
acquisition that the wait saw (`Scene.Taken`), until the confirmation is
asked for and decided by `lastTold` alone. What was decided stands, as does
a wait that was in vain: `Scene.Confirmed`, `Scene.Refused`, `Scene.Vain`.
-/
import Mathlib.Control.Monad.Basic
import Uplink.Proofs.Gsm.Chronicle

namespace Uplink.Gsm

open Net (IpInfo)
open Network (Status Transport)
open Proc (Ensures)
open Timing

-- ============================================================= last told

/-- What a report tells the task that connects. A status of 0 tells it
nothing. -/
def Report.event? : Report → Option LinkEvent
  | .ipAcquired info => some (.ipAcquired info)
  | .ipLost => some .ipLost
  | .linkStatus code => if code = 0 then none else some (.linkFailed code)
  | .wifi _ => none
  | .releaseWifi => none

namespace Happening

/-- The last event told, after one thing more. -/
def remember (last : Option LinkEvent) : Happening → Option LinkEvent
  | .heard report => report.event?.or last
  | .asked ⟨.record .resetEvents, _⟩ => none
  | .asked _ => last

/-- The last event that was told since events were forgotten. -/
def lastTold (past : List Happening) : Option LinkEvent :=
  past.foldl remember none

/-- The confirmation is asked for. -/
def confirms : Happening → Bool
  | .asked ⟨.record .markConnected, _⟩ => true
  | _ => false

/-- The wait for the session is through. -/
def waits : Happening → Bool
  | .asked ⟨.awaitEvent _, _⟩ => true
  | _ => false

/-- What happened before the confirmation was asked for. -/
def untilConfirmed (past : List Happening) : List Happening :=
  past.takeWhile fun h => !h.confirms

/-- What happened from there on. -/
def sinceConfirmed (past : List Happening) : List Happening :=
  past.dropWhile fun h => !h.confirms

/-- The wait for the session took an acquisition. -/
def Acquired (past : List Happening) : Prop :=
  ∃ info, .asked ⟨.awaitEvent pppConnectTimeout,
    some (.ipAcquired info)⟩ ∈ past

variable {past : List Happening}

/-- The last event told, after one thing more. -/
theorem lastTold_append (past : List Happening) (h : Happening) :
    lastTold (past ++ [h]) = remember (lastTold past) h :=
  List.foldl_append

/-- Where no confirmation was asked for yet, all that was belongs to the
time before it. -/
theorem untilConfirmed_of_none (h : ∀ x ∈ past, x.confirms = false)
    (later : List Happening) :
    untilConfirmed (past ++ later) = past ++ untilConfirmed later :=
  List.takeWhile_append_of_pos fun x hx => by simp [h x hx]

/-- And what comes after it is to be found in what is later. -/
theorem sinceConfirmed_of_none (h : ∀ x ∈ past, x.confirms = false)
    (later : List Happening) :
    sinceConfirmed (past ++ later) = sinceConfirmed later :=
  List.dropWhile_append_of_pos fun x hx => by simp [h x hx]

/-- What comes after the confirmation is not before it. -/
theorem untilConfirmed_append (h : ∃ x ∈ past, x.confirms = true)
    (later : List Happening) :
    untilConfirmed (past ++ later) = untilConfirmed past
      ∧ sinceConfirmed (past ++ later) = sinceConfirmed past ++ later := by
  induction past with
  | nil =>
    obtain ⟨x, hx, -⟩ := h
    cases hx
  | cons y rest ih =>
    cases hy : y.confirms with
    | true => simp [untilConfirmed, sinceConfirmed, hy]
    | false =>
      have hrest : ∃ x ∈ rest, x.confirms = true := by
        obtain ⟨x, hx, hc⟩ := h
        rcases List.mem_cons.1 hx with rfl | hx
        · rw [hy] at hc
          cases hc
        · exact ⟨x, hx, hc⟩
      obtain ⟨hu, hs⟩ := ih hrest
      unfold untilConfirmed at hu ⊢
      unfold sinceConfirmed at hs ⊢
      simp [hy, hu, hs]

/-- A report, or a call that is not the wait, takes no acquisition. -/
theorem acquired_append {h : Happening} (hw : h.waits = false) :
    Acquired (past ++ [h]) ↔ Acquired past := by
  unfold Acquired
  constructor
  · rintro ⟨info, hm⟩
    rcases List.mem_append.1 hm with hm | hm
    · exact ⟨info, hm⟩
    · rw [← List.mem_singleton.1 hm] at hw
      cases hw
  · rintro ⟨info, hm⟩
    exact ⟨info, List.mem_append_left _ hm⟩

end Happening

-- ========================================================= announcements

/-- The lines by which the network status publishes that the cellular link
is up, whatever carries the traffic. -/
def announcements : List Line :=
  [none, some .wifi, some .gsm].flatMap fun active =>
    ({ active } : Status).spoken (.announce .gsm true)

def announced (line : Line) : Bool :=
  line ∈ announcements

/-- All announcements begin alike. -/
theorem announced_text {line : Line} (h : announced line = true) :
    line.text.toList.take 5 = ['G', 'S', 'M', ' ', 'c'] := by
  have all : ∀ line ∈ announcements,
      line.text.toList.take 5 = ['G', 'S', 'M', ' ', 'c'] := by decide
  exact all line (of_decide_eq_true h)

/-- What starts otherwise is not one of them. -/
theorem unannounced {line : Line} {c : Char}
    (h : line.text.toList.head? = some c) (hc : c ≠ 'G') :
    [line].countP announced = 0 := by
  have hn : announced line = false := by
    refine Bool.eq_false_iff.2 fun ha => hc ?_
    have ht := congrArg List.head? (announced_text ha)
    rw [List.head?_take, h] at ht
    exact Option.some.inj ht
  rw [List.countP_singleton, hn]
  rfl

/-- A transition is announced with the selector that it leaves. -/
theorem notify_lines (s : Status) (connected : Bool) (t : Transport) :
    ∃ active, (s.notify connected t).lines
      = ({ active } : Status).spoken (.announce t connected) := by
  cases connected <;> exact ⟨_, rfl⟩

/-- A change of the status announces the cellular link once where that
comes up, and not otherwise. -/
theorem announced_notify (s : Status) (connected : Bool)
    (t : Transport) :
    (s.notify connected t).lines.countP announced
      = if t = .gsm ∧ connected = true then 1 else 0 := by
  obtain ⟨active, h⟩ := notify_lines s connected t
  rw [h]
  rcases active with _ | _ | _ <;> cases connected <;> cases t <;> rfl

/-- No report publishes that the cellular link is up. -/
theorem Link.unannounced_tells (l : Link) (report : Report) :
    (l.tells report).countP announced = 0 := by
  -- announcements begin with another letter, or are of another transport
  cases report with
  | ipAcquired info =>
    refine unannounced (c := 'P') ?_ (by decide)
    simp only [Line.info, String.toList_append, List.head?_append]
    rfl
  | ipLost =>
    have h : l.tells .ipLost = .warn "PPP lost its IP address"
        :: ((l.status.notify false .gsm).lines ++ []) := rfl
    rw [h, List.append_nil, List.countP_cons, announced_notify]
    rfl
  | linkStatus code =>
    by_cases h : code = 0
    · subst h
      rfl
    · have h : l.tells (.linkStatus code)
          = [.warn s!"PPP link status error {code}"] := by
        simp only [tells, onLinkStatus, reporting, h, if_false]
        rfl
      rw [h]
      refine unannounced (c := 'P') ?_ (by decide)
      simp only [Line.warn, String.toList_append, List.head?_append]
      rfl
  | wifi connected =>
    have h : l.tells (.wifi connected)
        = (l.status.notify connected .wifi).lines ++ [] := rfl
    rw [h, List.append_nil, announced_notify]
    simp
  | releaseWifi => rfl

/-- A confirmation publishes it once, a refusal does not. -/
theorem Link.announced_markConnected (l : Link) :
    l.markConnected.lines.countP announced
      = if l.confirmable then 1 else 0 := by
  have h : l.markConnected.lines = (l.apply .confirm).lines ++ [] := rfl
  rw [h, List.append_nil]
  cases hc : l.confirmable with
  | false => simp only [apply, hc]; rfl
  | true =>
    have h : (l.apply .confirm).lines
        = (l.status.notify true .gsm).lines ++ [] := by
      simp only [apply, hc]
      exact List.append_nil _
    rw [h, List.append_nil, announced_notify]
    rfl

-- ====================================================== what passes by

/-- A `Report` leaves the event it tells, or else the one there was. -/
theorem Link.hear_event (l : Link) (report : Report) :
    (l.hear report).event = report.event?.or l.event := by
  cases report with
  | linkStatus code =>
    rw [hear_linkStatus]
    by_cases h : code = 0 <;> simp [Report.event?, h]
  | _ => rfl

/-- A `Report` that tells of an address brings it. -/
theorem Link.hear_address (l : Link) {report : Report} {info : IpInfo}
    (h : report.event? = some (.ipAcquired info)) :
    (l.hear report).address = some info := by
  cases report with
  | ipAcquired => cases h; rfl
  | linkStatus code =>
    by_cases hc : code = 0 <;> simp [Report.event?, hc] at h
  | _ => cases h

/-- A `Report` that tells nothing leaves the address. -/
theorem Link.hear_untold (l : Link) {report : Report}
    (h : report.event? = none) :
    (l.hear report).address = l.address := by
  cases report with
  | ipAcquired | ipLost => cases h
  | linkStatus code =>
    by_cases hc : code = 0
    · rw [hear_linkStatus, if_pos hc]
    · simp [Report.event?, hc] at h
  | wifi | releaseWifi => rfl

/-- The call goes elsewhere than to the record and its event. -/
def GsmCall.elsewhere : GsmCall → Bool
  | record _ => false
  | awaitEvent _ => false
  | _ => true

theorem quiet_of_elsewhere {c : GsmCall} (h : c.elsewhere = true) :
    c.quiet = true := by
  cases c with
  | record call => cases h
  | _ => rfl

namespace Scene

open Happening

/-- One thing happens that is neither a wait nor a confirmation, and tells
the task that connects this much. -/
structure Passes (s s' : Scene) (h : Happening)
    (told : Option LinkEvent) : Prop where
  past : s'.past = s.past ++ [h]
  unwaited : h.waits = false
  unconfirmed : h.confirms = false
  recalled : ∀ last, remember last h = told.or last
  said : s'.said.countP announced = s.said.countP announced
  link : s'.link = s.link.hearAll (reports [h])
  event : s'.link.event = told.or s.link.event
  acquired : ∀ info, told = some (.ipAcquired info) →
    s'.link.address = some info
  untold : told = none → s'.link.address = s.link.address

/-- A `Report` passes by, and tells what it tells. -/
theorem passes_hear (s : Scene) (report : Report) :
    Passes s (s.hear report) (.heard report) report.event? where
  past := rfl
  unwaited := rfl
  unconfirmed := rfl
  recalled _ := rfl
  said := by
    show (s.said ++ s.link.tells report).countP announced = _
    rw [List.countP_append, Link.unannounced_tells, Nat.add_zero]
  link := rfl
  event := s.link.hear_event report
  acquired _ h := s.link.hear_address h
  untold h := s.link.hear_untold h

/-- A call that goes `elsewhere` passes by, and tells nothing. -/
theorem passes_note (s : Scene) (event : Event Surroundings)
    (h : event.call.elsewhere = true) :
    Passes s (s.note event) (.asked event) none := by
  obtain ⟨call, answer⟩ := event
  cases call with
  | record | awaitEvent => cases h
  | _ => exact ⟨rfl, rfl, rfl, fun _ => rfl, rfl, rfl, rfl, nofun,
      fun _ => rfl⟩

/-- A property that nothing ends which passes by. -/
def Outlasts (J : Scene → Prop) : Prop :=
  ∀ s s' h told, Passes s s' h told → J s → J s'

/-- What nothing ends that passes by, no report ends. -/
theorem Outlasts.lasts {J : Scene → Prop} (hJ : Outlasts J) : Lasts J :=
  fun s report => hJ _ _ _ _ (s.passes_hear report)

/-- Nor does a call that goes `elsewhere`. -/
theorem Outlasts.preserved {J : Scene → Prop} (hJ : Outlasts J) :
    Surroundings.chronicled.contract.Preserves
      (fun call => call.elsewhere = true) J := by
  refine hJ.lasts.preserved (fun _ => quiet_of_elsewhere) ?_
  intro s event hc h
  have hl : event.call.leaves s.link = s.link := by
    obtain ⟨call, answer⟩ := event
    cases call with
    | record => cases hc
    | awaitEvent => cases hc
    | _ => rfl
  rw [hl]
  exact hJ _ _ _ _ (s.passes_note event hc) h

theorem Passes.all {s s' : Scene} {h : Happening}
    {told : Option LinkEvent} (hp : Passes s s' h told)
    {p : Happening → Bool} (hh : p h = false)
    (hs : ∀ x ∈ s.past, p x = false) : ∀ x ∈ s'.past, p x = false := by
  rw [hp.past]
  intro x hx
  rcases List.mem_append.1 hx with hx | hx
  · exact hs x hx
  · rw [List.mem_singleton.1 hx]
    exact hh

/-- The last event told, after something has passed by. -/
theorem Passes.last {s s' : Scene} {h : Happening}
    {told : Option LinkEvent} (hp : Passes s s' h told) :
    lastTold s'.past = told.or (lastTold s.past) := by
  rw [hp.past, lastTold_append, hp.recalled]

-- ============================================================ the phases

/-- The session is neither waited for nor confirmed yet. -/
structure Early (s : Scene) : Prop where
  unannounced : s.said.countP announced = 0
  unwaited : ∀ h ∈ s.past, h.waits = false
  unconfirmed : ∀ h ∈ s.past, h.confirms = false

/-- The event is the last one told, and the address goes with it. -/
structure Told (s : Scene) : Prop where
  early : s.Early
  event : s.link.event = lastTold s.past
  address : ∀ info, lastTold s.past = some (.ipAcquired info) →
    s.link.address = some info

/-- The wait took an acquisition, which may still be the last one told. -/
structure Taken (s : Scene) : Prop where
  unannounced : s.said.countP announced = 0
  unconfirmed : ∀ h ∈ s.past, h.confirms = false
  acquired : Acquired s.past
  event : ∃ last, lastTold s.past = some last
    ∧ (s.link.event = some last
      ∨ s.link.event = none ∧ last.isLoss = false)
  address : ∀ info, lastTold s.past = some (.ipAcquired info) →
    s.link.address = some info

/-- No wait took an acquisition. -/
structure Vain (s : Scene) : Prop where
  unannounced : s.said.countP announced = 0
  unacquired : ¬Acquired s.past

/-- The confirmation was asked for and refused. -/
structure Refused (s : Scene) : Prop where
  unannounced : s.said.countP announced = 0
  asked : ∃ h ∈ s.past, h.confirms = true
  told : ∀ info,
    lastTold (untilConfirmed s.past) ≠ some (.ipAcquired info)

/-- The session was confirmed, with this address. -/
structure Confirmed (info : IpInfo) (s : Scene) : Prop where
  announced : s.said.countP announced = 1
  acquired : Acquired s.past
  asked : ∃ h ∈ s.past, h.confirms = true
  told : lastTold (untilConfirmed s.past) = some (.ipAcquired info)
  link : ∃ l : Link, l.connected = true ∧ l.address = some info
    ∧ l.status.isConnected .gsm = true ∧ l.status.active = some .gsm
    ∧ s.link = l.hearAll (reports (sinceConfirmed s.past))

theorem Early.vain {s : Scene} (h : s.Early) : s.Vain := by
  refine ⟨h.unannounced, ?_⟩
  rintro ⟨info, hm⟩
  cases h.unwaited _ hm

/-- Nothing that passes by is the wait or the confirmation. -/
theorem outlasts_early : Outlasts Early := by
  intro s s' h told hp hs
  exact ⟨hp.said.trans hs.unannounced, hp.all hp.unwaited hs.unwaited,
    hp.all hp.unconfirmed hs.unconfirmed⟩

/-- What goes with the last event told keeps going with it. -/
theorem Passes.address {s s' : Scene} {h : Happening}
    {told : Option LinkEvent} (hp : Passes s s' h told)
    (ha : ∀ info, lastTold s.past = some (.ipAcquired info) →
      s.link.address = some info) (info : IpInfo)
    (hl : lastTold s'.past = some (.ipAcquired info)) :
    s'.link.address = some info := by
  rw [hp.last] at hl
  cases told with
  | none => exact (hp.untold rfl).trans (ha info hl)
  | some event => exact hp.acquired info hl

/-- Event and address stay with the last one told. -/
theorem outlasts_told : Outlasts Told := by
  intro s s' h told hp hs
  refine ⟨outlasts_early _ _ _ _ hp hs.early, ?_, hp.address hs.address⟩
  rw [hp.event, hp.last, hs.event]

theorem outlasts_taken : Outlasts Taken := by
  intro s s' h told hp hs
  refine ⟨hp.said.trans hs.unannounced,
    hp.all hp.unconfirmed hs.unconfirmed, ?_, ?_, hp.address hs.address⟩
  · rw [hp.past]
    exact (acquired_append hp.unwaited).2 hs.acquired
  · rw [hp.event, hp.last]
    cases told with
    | none => exact hs.event
    | some event => exact ⟨event, rfl, .inl rfl⟩

theorem outlasts_vain : Outlasts Vain := by
  intro s s' h told hp hs
  refine ⟨hp.said.trans hs.unannounced, ?_⟩
  rw [hp.past, acquired_append hp.unwaited]
  exact hs.unacquired

theorem Passes.asked {s s' : Scene} {h : Happening}
    {told : Option LinkEvent} (hp : Passes s s' h told)
    (hs : ∃ x ∈ s.past, x.confirms = true) :
    ∃ x ∈ s'.past, x.confirms = true := by
  obtain ⟨x, hx, hc⟩ := hs
  rw [hp.past]
  exact ⟨x, List.mem_append_left _ hx, hc⟩

theorem outlasts_refused : Outlasts Refused := by
  intro s s' h told hp hs
  refine ⟨hp.said.trans hs.unannounced, hp.asked hs.asked, ?_⟩
  rw [hp.past, (untilConfirmed_append hs.asked [h]).1]
  exact hs.told

/-- A session that was confirmed stays so, with its address. -/
theorem outlasts_confirmed (info : IpInfo) :
    Outlasts (Confirmed info) := by
  intro s s' h told hp hs
  obtain ⟨hu, hsince⟩ := untilConfirmed_append hs.asked [h]
  refine ⟨hp.said.trans hs.announced, ?_, hp.asked hs.asked, ?_, ?_⟩
  · rw [hp.past]
    exact (acquired_append hp.unwaited).2 hs.acquired
  · rw [hp.past, hu]
    exact hs.told
  · obtain ⟨l, hc, ha, hf, hactive, hl⟩ := hs.link
    refine ⟨l, hc, ha, hf, hactive, ?_⟩
    rw [hp.link, hl, hp.past, hsince]
    simp only [reports, List.filterMap_append, Link.hearAll,
      List.foldl_append]

-- ============================================== from phase to phase

/-- A call that neither waits nor `confirms` is early as well. -/
theorem Early.note {s : Scene} (hs : s.Early) (event : Event Surroundings)
    (hw : (Happening.asked event).waits = false)
    (hc : (Happening.asked event).confirms = false) (l : Link) :
    (({ s with link := l } : Scene).note event).Early := by
  refine ⟨hs.unannounced, ?_, ?_⟩
  · exact List.forall_mem_append.2 ⟨hs.unwaited, by simp [hw]⟩
  · exact List.forall_mem_append.2 ⟨hs.unconfirmed, by simp [hc]⟩

/-- Forgetting the event makes it and the last one told agree. -/
theorem Early.forget {s s' : Scene} {r : Unit} (hs : s.Early)
    (h : Surroundings.chronicled (.record .resetEvents) s r s') :
    s'.Told := by
  obtain ⟨reports, rfl⟩ := Surroundings.chronicled_quiet rfl h
  have hs := outlasts_early.lasts.hearAll hs reports
  have hl : lastTold ((s.hearAll reports).past
      ++ [.asked ⟨.record .resetEvents, r⟩]) = none :=
    lastTold_append _ _
  exact ⟨hs.note _ rfl rfl _, hl.symm, fun info h => nomatch hl.symm.trans h⟩

/-- The wait takes the last event told. If it is an acquisition the
session may be confirmed, and otherwise it was waited for in vain. -/
theorem Told.wait {s s' : Scene} {r : Option LinkEvent} (hs : s.Told)
    (h : Surroundings.chronicled (.awaitEvent pppConnectTimeout) s r s') :
    (∀ info, r = some (.ipAcquired info) → s'.Taken)
      ∧ ((∀ info, r ≠ some (.ipAcquired info)) → s'.Vain) := by
  obtain ⟨s₁, ⟨reports, rfl, rfl⟩, rfl⟩ := h
  have hs := outlasts_told.lasts.hearAll hs reports
  generalize s.hearAll reports = s at hs
  constructor
  · intro info he
    have hl : lastTold (s.past ++ [.asked ⟨.awaitEvent pppConnectTimeout,
        s.link.event⟩]) = some (.ipAcquired info) := by
      rw [lastTold_append, ← he, hs.event]
      rfl
    refine ⟨hs.early.unannounced, ?_, ?_, ⟨_, hl, .inr ⟨rfl, rfl⟩⟩, ?_⟩
    · exact List.forall_mem_append.2
        ⟨hs.early.unconfirmed, by simp [confirms]⟩
    · refine ⟨info, List.mem_append_right _ ?_⟩
      rw [← he]
      exact List.mem_singleton_self _
    · intro other ho
      -- the event the wait took is the last one told, and the address
      -- goes with it
      refine hs.address other ?_
      rw [← hs.event, he, ← hl]
      exact ho
  · intro hn
    refine ⟨hs.early.unannounced, ?_⟩
    rintro ⟨info, hm⟩
    rcases List.mem_append.1 hm with hm | hm
    · cases hs.early.unwaited _ hm
    · have he := List.mem_singleton.1 hm
      simp only [Happening.asked.injEq, Event.mk.injEq, heq_eq_eq,
        true_and] at he
      exact hn info he.symm

theorem isLoss_eq_false {event : LinkEvent} :
    event.isLoss = false ↔ ∃ info, event = .ipAcquired info := by
  cases event <;> simp [LinkEvent.isLoss]

/-- The last event told decides whether the session can be confirmed. -/
theorem Taken.confirmable_iff {s : Scene} (hs : s.Taken) :
    s.link.confirmable = true
      ↔ ∃ info, lastTold s.past = some (.ipAcquired info) := by
  obtain ⟨last, hl, he⟩ := hs.event
  have hloss : s.link.lossPending = last.isLoss := by
    unfold Link.lossPending
    rcases he with he | ⟨he, hn⟩
    · rw [he]
      rfl
    · rw [he, hn]
      rfl
  unfold Link.confirmable
  rw [hl, hloss]
  simp only [Option.some.injEq]
  constructor
  · intro h
    refine isLoss_eq_false.1 ?_
    simp only [Bool.and_eq_true, Bool.not_eq_true'] at h
    exact h.1
  · rintro ⟨info, rfl⟩
    rw [hs.address info hl]
    rfl

/-- Where a confirmation is asked for first, it parts the history there. -/
theorem untilConfirmed_asked {past : List Happening} {h : Happening}
    (hp : ∀ x ∈ past, x.confirms = false) (hc : h.confirms = true) :
    untilConfirmed (past ++ [h]) = past
      ∧ sinceConfirmed (past ++ [h]) = [h] := by
  rw [untilConfirmed_of_none hp, sinceConfirmed_of_none hp]
  simp [untilConfirmed, sinceConfirmed, hc]

/-- The confirmation decides for good. -/
theorem Taken.confirm {s s' : Scene} {r : Bool} (hs : s.Taken)
    (h : Surroundings.chronicled (.record .markConnected) s r s') :
    (r = true → ∃ info, s'.Confirmed info)
      ∧ (r = false → s'.Refused) := by
  -- reports may come before the confirmation is taken, but an acquisition
  -- that was waited for is not lost by them
  obtain ⟨s₁, ⟨heard, h⟩, rfl⟩ := h
  have hs := outlasts_taken.lasts.hearAll hs heard
  generalize s.hearAll heard = s at hs h
  have hvalue : (RecordCall.apply s.link .markConnected).value
      = (s.link.confirmable, s.link.after .confirm) :=
    s.link.markConnected_value
  have hlines : (RecordCall.apply s.link .markConnected).lines.countP
      announced = if s.link.confirmable then 1 else 0 :=
    s.link.announced_markConnected
  unfold take at h
  rw [hvalue] at h
  obtain ⟨rfl, rfl⟩ := Prod.mk.inj h
  obtain ⟨hu, hsince⟩ := untilConfirmed_asked hs.unconfirmed
    (h := .asked ⟨.record .markConnected, s.link.confirmable⟩) rfl
  have hsaid (n : Nat)
      (hn : (if s.link.confirmable then 1 else 0) = n) :
      (s.said ++ (RecordCall.apply s.link .markConnected).lines).countP
        announced = n := by
    rw [List.countP_append, hs.unannounced, hlines, hn, Nat.zero_add]
  have asked : ∃ x ∈ s.past ++ [.asked ⟨.record .markConnected,
      s.link.confirmable⟩], x.confirms = true :=
    ⟨_, List.mem_append_right _ (List.mem_singleton_self _), rfl⟩
  -- it is given exactly where the last event told is still the
  -- acquisition
  constructor
  · intro hc
    obtain ⟨info, hl⟩ := hs.confirmable_iff.1 hc
    refine ⟨info, hsaid 1 (if_pos hc), ?_, asked, ?_, ?_⟩
    · exact (acquired_append rfl).2 hs.acquired
    · exact (congrArg lastTold hu).trans hl
    · refine ⟨s.link.after .confirm, ?_, ?_, ?_, ?_, ?_⟩
      · rw [Link.after_confirm, if_pos hc]
      · rw [Link.after_confirm, if_pos hc]
        exact hs.address info hl
      · rw [Link.after_confirm, if_pos hc]
        exact Status.notify_gsm_gsm s.link.status true
      · rw [Link.after_confirm, if_pos hc, Status.notify_up]
      · show _ = Link.hearAll _ (reports (sinceConfirmed (_ ++ [_])))
        rw [hsince]
        rfl
  · intro hc
    have hc : s.link.confirmable = false := hc
    refine ⟨hsaid 0 (if_neg (by simp [hc])), asked, fun info hl => ?_⟩
    have hl : lastTold s.past = some (.ipAcquired info) :=
      (congrArg lastTold hu).symm.trans hl
    rw [hs.confirmable_iff.2 ⟨info, hl⟩] at hc
    cases hc

end Scene

-- ======================================================= the connection

namespace Manager

open Scene
open Surroundings (chronicled)

variable {m : Manager} {s : Scene}

/-- How a connection stands that is decided: confirmed, or else refused or
waited for in vain. -/
def Verdict (r : Except GsmError Unit) (s : Scene) : Prop :=
  match r with
  | .ok _ => ∃ info, s.Confirmed info
  | .error _ => s.Vain ∨ s.Refused

/-- How a connection stands stays so, once it is decided. -/
theorem outlasts_verdict (r : Except GsmError Unit) :
    Outlasts (Verdict r) := by
  intro s s' h told hp hs
  cases r with
  | ok =>
    obtain ⟨info, hs⟩ := hs
    exact ⟨info, outlasts_confirmed info _ _ _ _ hp hs⟩
  | error e =>
    exact hs.imp (outlasts_vain _ _ _ _ hp) (outlasts_refused _ _ _ _ hp)

theorem elsewhere_of_silent {c : GsmCall} (h : c.silent = true) :
    c.elsewhere = true := by
  cases c with
  | modem c => rfl
  | _ => cases h

theorem elsewhere_of_resolves {c : GsmCall} (h : resolves c) :
    c.elsewhere = true := by
  rcases h with h | ⟨p, s, rfl⟩ | ⟨host, timeout, rfl⟩
  · exact elsewhere_of_silent h
  · rfl
  · rfl

/-- Before the dial only the forgetting concerns the record. -/
theorem elsewhere_of_prepares {c : GsmCall} (h : prepares c) :
    c.elsewhere = true ∨ c = .record .resetEvents := by
  rcases prepares_cases h with hs | ⟨_, _, -, rfl⟩ | rfl
    | ⟨_, _, rfl⟩ | rfl
  · exact .inl (elsewhere_of_silent hs)
  · exact .inl rfl
  · exact .inl rfl
  · exact .inl rfl
  · exact .inr rfl

/-- A program that does not concern the record, before something that
does. -/
theorem Spares.beside {α β : Type} {act : Act α} {f : α → Act β}
    (h : Spares standing (fun call => call.elsewhere = true) act)
    {J : Scene → Prop} (hJ : Outlasts J) (hs : J s)
    {Q : β → Manager → Scene → Prop}
    (hf : ∀ a m' s', J s' → Ensures chronicled.contract (f a) m' s' Q) :
    Ensures chronicled.contract (act >>= f) m s Q :=
  h.leads hJ.preserved hs fun a m' s' _ => hf a m' s'

theorem beside_log (line : Line) :
    Passive (fun call => call.elsewhere = true) (log line) :=
  passive_ask rfl

theorem beside_session {α : Type} (p : Proc Modem.Session α) :
    Passive (fun call => call.elsewhere = true) (session p) :=
  passive_channel (fun _ => rfl) p

/-- Giving the connection up decides nothing any more. -/
theorem ensures_abandoning (why : String) (hs : s.Vain ∨ s.Refused) :
    Ensures chronicled.contract (abort why) m s
      fun r _ s => Verdict r s := by
  have lasts := outlasts_verdict (.error .pppTimeout)
  refine (beside_log _).beside lasts hs fun _ m₁ s₁ hs₁ => ?_
  refine (beside_session _).beside lasts hs₁ fun _ m₂ s₂ hs₂ => ?_
  exact hs₂

/-- From the dial on, the wait and then the confirmation decide. -/
theorem ensures_confirmation (hs : s.Told) :
    Ensures chronicled.contract awaitSession.run m s
      fun r _ s => Verdict r s := by
  unfold awaitSession
  rw [ExceptT.run_mk]
  refine (beside_log _).beside outlasts_told hs fun _ m₁ s₁ hs₁ => ?_
  refine Proc.ensures_bind.2 (Proc.ensures_lift.2
    (Proc.meets_ask.2 ⟨trivial, fun event s₂ h => ?_⟩))
  obtain ⟨taken, vain⟩ := hs₁.wait h
  rcases event with _ | info | _ | code
  · exact ensures_abandoning _ (.inl (vain nofun))
  · have resolving : Passive (fun call => call.elsewhere = true)
        setUpResolvers :=
      passive_setUpResolvers.mono fun _ => elsewhere_of_resolves
    refine resolving.beside outlasts_taken (taken info rfl)
      fun _ m₃ s₃ hs₃ => ?_
    refine Proc.ensures_bind.2 (Proc.ensures_lift.2
      (Proc.meets_ask.2 ⟨trivial, fun confirmed s₄ h => ?_⟩))
    obtain ⟨accepted, refused⟩ := hs₃.confirm h
    cases confirmed with
    | true => exact accepted rfl
    | false => exact ensures_abandoning _ (.inr (refused rfl))
  · exact ensures_abandoning _ (.inl (vain nofun))
  · exact ensures_abandoning _ (.inl (vain nofun))

/-- Before the dial a connection can only fail, and does so in vain. -/
theorem ensures_deciding (hs : s.Early) :
    Ensures chronicled.contract sequence.run m s
      fun r _ s => Verdict r s := by
  have early : chronicled.contract.Preserves prepares Early := by
    refine outlasts_early.lasts.preserved (fun _ => quiet_of_prepares) ?_
    rintro s ⟨c, r⟩ hc hs
    rcases elsewhere_of_prepares hc with hc | rfl
    · have hp := s.passes_note ⟨c, r⟩ hc
      exact hs.note _ hp.unwaited hp.unconfirmed _
    · exact hs.note _ rfl rfl _
  refine ensures_preparing early ?_ ?_ ?_
  · have escape : (Surroundings.ofSession Steps.forceCommandMode).Asks
        fun c : GsmCall => c.elsewhere = true :=
      Surroundings.asks_channel (fun _ => rfl) _
    exact escape.meets outlasts_early.preserved hs
  · exact fun e _ s' _ hs' => .inl hs'.vain
  · intro m₁ s₁ _ hs₁
    refine Proc.ensures_attempt_bind.2 (Proc.ensures_attempt_lift.2
      (Proc.ensures_lift.2 (Proc.meets_ask.2 ⟨trivial, fun _ s₂ h => ?_⟩)))
    have dial : Passive (fun call => call.elsewhere = true)
        (reported Steps.enterDataMode).run :=
      passive_channel_reported (fun _ => rfl) _
    refine dial.ends (m := m₁) outlasts_told.preserved ?_ ?_ m₁ s₂ rfl
      (hs₁.forget h)
    · exact fun e _ s' _ hs' => .inl hs'.early.vain
    · exact fun _ _ s' _ hs' => ensures_confirmation hs'

/-- From a link that is not connected, every `connect` ends as it stands:
confirmed, refused, or waited for in vain. -/
theorem ensures_connect_verdict {l : Link} (hl : l.connected = false) :
    Ensures chronicled.contract connect m { link := l }
      fun r _ s => Verdict r s := by
  have fresh : Early { link := l } := ⟨rfl, nofun, nofun⟩
  unfold connect
  rw [Proc.ensures_bind, Proc.ensures_get]
  split
  · exact (beside_log _).beside outlasts_vain fresh.vain
      fun _ m₁ s₁ hs₁ => .inl hs₁
  · refine Proc.ensures_bind.2 (Proc.ensures_lift.2
      (Proc.meets_ask.2 ⟨trivial, fun connected s₁ h => ?_⟩))
    -- no report connects the link before it is asked
    have hd : connected = false := by
      obtain ⟨reports, hr⟩ := Surroundings.amid_of_chronicled h
      rw [← (Prod.mk.inj hr).1]
      exact Link.stable_disconnected.hearAll hl reports
    obtain ⟨reports, rfl⟩ := Surroundings.chronicled_quiet rfl h
    subst hd
    have hs₁ := (outlasts_early.lasts.hearAll fresh reports).note
      ⟨.record .isConnected, false⟩ rfl rfl
      (Scene.hearAll { link := l } reports).link
    refine (beside_log _).beside outlasts_early hs₁ fun _ m₂ s₂ hs₂ => ?_
    rw [Proc.ensures_bind, ensures_enter, Proc.ensures_bind]
    refine (ensures_deciding hs₂).mono fun r m₃ s₃ hs₃ => ?_
    cases r with
    | ok =>
      exact (beside_log _).beside (outlasts_verdict (.ok ())) hs₃
        fun _ m₄ s₄ hs₄ => hs₄
    | error e =>
      exact (beside_log _).beside (outlasts_verdict (.error e)) hs₃
        fun _ m₄ s₄ hs₄ => hs₄

end Manager

/-- A report raises nothing: what says afterwards that the cellular link
is up said so before. -/
theorem Link.steady_unraised (l₀ : Link) :
    Steady Task.manager.others fun l =>
      (l.connected = true → l₀.connected = true)
        ∧ (l.status.isConnected .gsm = true →
          l₀.status.isConnected .gsm = true)
        ∧ (l.status.active = some .gsm → l₀.status.active = some .gsm) := by
  intro l a ha h
  obtain ⟨hc, hf, hs⟩ := h
  rcases after_others_manager (l := l) ha with hd | hl
  · rw [hd, after_dropAddress]
    refine ⟨nofun, fun h => ?_, fun h => ?_⟩
    · cases (Status.notify_gsm_gsm l.status false).symm.trans h
    · exact absurd h (Status.notify_down_active l.status .gsm)
  · exact ⟨fun h => hc (hl.connected ▸ h),
      fun h => hf (hl.flag.symm.trans h), fun h => hs (hl.selector h)⟩

/-- However reports fall while it runs, `connect` succeeds if and only if
the wait for the session took an acquisition (`Acquired`) and the last
event told before the confirmation was one as well (`lastTold`). Then the
address of that event is the address of the link, but for what was reported
later, and the link is published once as connected; otherwise it is not. No
report connects the link or publishes it by itself. -/
theorem connect_confirmed {m m' : Manager} {l : Link}
    {r : Except GsmError Unit} {t : List (Event Surroundings)}
    {s : Scene} (hl : l.connected = false)
    (h : Proc.Runs Surroundings.chronicled (Manager.connect.run m)
      { link := l } t (r, m') s) :
    (r = .ok () ↔ Happening.Acquired s.past
        ∧ ∃ info, Happening.lastTold (Happening.untilConfirmed s.past)
          = some (.ipAcquired info))
      ∧ (r = .ok () → ∀ info,
          Happening.lastTold (Happening.untilConfirmed s.past)
            = some (.ipAcquired info) →
          ∃ l₁ : Link, l₁.connected = true ∧ l₁.address = some info
            ∧ l₁.status.isConnected .gsm = true
            ∧ l₁.status.active = some .gsm
            ∧ s.link = l₁.hearAll
                (Happening.reports (Happening.sinceConfirmed s.past)))
      ∧ s.said.countP announced = (if r.isOk = true then 1 else 0)
      ∧ ∀ (l : Link) (report : Report),
          ((l.hear report).connected = true → l.connected = true)
            ∧ ((l.hear report).status.isConnected .gsm = true →
              l.status.isConnected .gsm = true)
            ∧ ((l.hear report).status.active = some .gsm →
              l.status.active = some .gsm)
            ∧ (l.tells report).countP announced = 0 := by
  -- a report is a few accesses, and none of those confirms
  have unraised (l : Link) (report : Report) :
      ((l.hear report).connected = true → l.connected = true)
        ∧ ((l.hear report).status.isConnected .gsm = true →
          l.status.isConnected .gsm = true)
        ∧ ((l.hear report).status.active = some .gsm →
          l.status.active = some .gsm)
        ∧ (l.tells report).countP announced = 0 := by
    obtain ⟨accesses, ha, hr⟩ := l.hear_afterAll report
    obtain ⟨hc, hf, hs⟩ :=
      l.steady_unraised.afterAll ha ⟨id, id, id⟩
    rw [hr]
    exact ⟨hc, hf, hs, l.unannounced_tells report⟩
  have hv : Manager.Verdict r s :=
    (Manager.ensures_connect_verdict hl).of_runs h
  -- how it stands is decided by then, and the two readings of the history
  -- exclude each other
  cases r with
  | ok =>
    obtain ⟨info, hv⟩ := hv
    refine ⟨⟨fun _ => ⟨hv.acquired, info, hv.told⟩, fun _ => rfl⟩, ?_,
      hv.announced, unraised⟩
    intro _ other ho
    obtain rfl : info = other := by
      simpa using hv.told.symm.trans ho
    exact hv.link
  | error e =>
    refine ⟨⟨nofun, ?_⟩, nofun, ?_, unraised⟩
    · rintro ⟨ha, info, hl⟩
      rcases hv with hv | hv
      · exact (hv.unacquired ha).elim
      · exact (hv.told info hl).elim
    · exact hv.elim (·.unannounced) (·.unannounced)

/-- The address the session comes up with. -/
def firstAddress : IpInfo :=
  ⟨⟨10, 0, 0, 2⟩, ⟨255, 255, 255, 255⟩, ⟨10, 0, 0, 1⟩⟩

/-- The address it has after it was lost for a moment. -/
def secondAddress : IpInfo :=
  ⟨⟨10, 0, 0, 7⟩, ⟨255, 255, 255, 255⟩, ⟨10, 0, 0, 1⟩⟩

/-- The address changes while the resolvers are tried. -/
def renewing : GsmCall → List Report
  | .awaitEvent _ => [.ipAcquired firstAddress]
  | .resolve .. =>
    [.ipLost, .wifi true, .ipAcquired secondAddress, .linkStatus 0]
  | _ => []

/-- What becomes of a connection then. -/
def renewed : (Except GsmError Unit × Manager) × Scene :=
  (Manager.connect.run
    { (Manager.new .standard).value with
      active := true, recorded := .idle }).run
    (Scene.answering renewing fun call => (obliging call {}).1) {}

/-- The connection stands with the address it was told last. -/
theorem connect_confirmed_renewed :
    renewed.1.1 = .ok ()
      ∧ renewed.2.link.connected = true
      ∧ renewed.2.link.address = some secondAddress
      ∧ renewed.2.said.countP announced = 1 := by
  obtain ⟨t, h⟩ := Proc.runs_of_run id
    (Scene.chronicled_answering renewing fun call => (obliging call {}).1)
    (Manager.connect.run
      { (Manager.new .standard).value with
        active := true, recorded := .idle }) {}
  obtain ⟨-, hlink, hsaid, -⟩ := connect_confirmed rfl h
  have hold : Happening.lastTold (Happening.untilConfirmed renewed.2.past)
      = some (.ipAcquired secondAddress) := by decide +kernel
  have hquiet : Happening.reports (Happening.sinceConfirmed
      renewed.2.past) = [] := by
    refine List.isEmpty_iff.1 ?_
    decide +kernel
  have hr : renewed.1.1 = .ok () := by decide +kernel
  obtain ⟨l₁, hc, ha, -, -, hl⟩ := hlink hr secondAddress hold
  have hl : renewed.2.link = l₁ := by
    refine hl.trans ?_
    show Link.hearAll l₁ (Happening.reports (Happening.sinceConfirmed
      renewed.2.past)) = l₁
    rw [hquiet]
    rfl
  refine ⟨hr, ?_, ?_, ?_⟩
  · rw [hl]; exact hc
  · rw [hl]; exact ha
  · refine hsaid.trans ?_
    show (if renewed.1.1.isOk = true then 1 else 0) = 1
    rw [hr]
    rfl

end Uplink.Gsm
