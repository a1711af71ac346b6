/-
The shared record while others report.

The record of the link is never the manager's alone. The IP stack reports
addresses and losses, and WiFi goes up and down, whenever they like: before
an operation of the manager, between two of its calls, and between two
accesses of one call. `hear` is the record after one such report and
`amid` an access with any number of reports before it.

# What holds throughout

A report is a few accesses of other tasks, with nothing in between
(`hear_afterAll`). What these accesses keep, reports keep, so that the
record is coherent throughout, and giving a session up leaves nothing
published whatever was reported meanwhile (`closing_meets`).
-/
import Uplink.Gsm.Surroundings
import Uplink.Proofs.Gsm.Accesses

namespace Uplink.Gsm

open Net (IpInfo)
open Network (Status Transport)

-- ============================================================== reports

/-- What others report to the record. Transitions of the cellular
transport are not among it: the record alone publishes these. -/
inductive Report where
  | ipAcquired (info : IpInfo)
  | ipLost
  | linkStatus (code : Int)
  /-- WiFi was connected or disconnected -/
  | wifi (connected : Bool)
  /-- WiFi gives the selector up -/
  | releaseWifi

namespace Link

/-- The record after a report. -/
def hear (l : Link) : Report → Link
  | .ipAcquired info => (l.onIpAcquired info).value
  | .ipLost => l.onIpLost.value
  | .linkStatus code => (l.onLinkStatus code).value
  | .wifi connected => (l.notify connected .wifi).value
  | .releaseWifi => l.release .wifi

def hearAll (l : Link) (reports : List Report) : Link :=
  reports.foldl hear l

/-- A status of 0 is not told, and any other is told as a failure. -/
theorem hear_linkStatus (l : Link) (code : Int) :
    l.hear (.linkStatus code)
      = if code = 0 then l
        else { l with event := some (.linkFailed code) } := by
  by_cases h : code = 0
  · subst h
    rfl
  · simp only [hear, onLinkStatus, reporting, h, if_false]
    rfl

/-- A property that no report ends, nor that an event is taken. -/
structure Stable (P : Link → Prop) : Prop where
  hear : ∀ l report, P l → P (l.hear report)
  resetEvents : ∀ l, P l → P l.resetEvents

/-- What no `Report` ends, no number of them does. -/
theorem Stable.hearAll {P : Link → Prop} (hP : Stable P) {l : Link}
    (h : P l) (reports : List Report) : P (l.hearAll reports) := by
  induction reports generalizing l with
  | nil => exact h
  | cons r rest ih => exact ih (hP.hear l r h)

/-- A `Report` is a few accesses of other tasks. -/
theorem hear_afterAll (l : Link) (report : Report) :
    ∃ accesses, (∀ a ∈ accesses, Task.manager.others a)
      ∧ l.hear report = l.afterAll accesses := by
  have stack (accesses : List Access)
      (h : ∀ a ∈ accesses, (Task.stack 0).makes a) :
      ∀ a ∈ accesses, Task.manager.others a :=
    fun a ha => ⟨.stack 0, nofun, h a ha⟩
  have wifi (accesses : List Access)
      (h : ∀ a ∈ accesses, Task.wifi.makes a) :
      ∀ a ∈ accesses, Task.manager.others a :=
    fun a ha => ⟨.wifi, nofun, h a ha⟩
  -- each report is made by a stack or by WiFi, in the accesses that it
  -- consists of
  cases report with
  | ipAcquired info =>
    refine ⟨[.log _, .setAddress info, .signal (.ipAcquired info)],
      stack _ ?_, rfl⟩
    simp [Task.makes]
  | ipLost =>
    refine ⟨[.log _, .dropAddress, .signal .ipLost], stack _ ?_, rfl⟩
    simp [Task.makes]
  | linkStatus code =>
    rw [hear_linkStatus]
    split
    · exact ⟨[], nofun, rfl⟩
    · refine ⟨[.signal (.linkFailed code)], stack _ ?_, rfl⟩
      simp [Task.makes]
  | wifi connected =>
    refine ⟨(Status.notifyAccesses connected .wifi).map .status,
      wifi _ ?_, ?_⟩
    · cases connected <;> simp [Status.notifyAccesses, Task.makes]
    · cases connected <;> rfl
  | releaseWifi =>
    refine ⟨[.status (.deselect .wifi)], wifi _ ?_, rfl⟩
    simp [Task.makes]

/-- Reports come to accesses of the tasks that are not the manager's. -/
theorem hearAll_afterAll (l : Link) (reports : List Report) :
    ∃ accesses, (∀ a ∈ accesses, Task.manager.others a)
      ∧ l.hearAll reports = l.afterAll accesses := by
  induction reports generalizing l with
  | nil => exact ⟨[], nofun, rfl⟩
  | cons report rest ih =>
    obtain ⟨first, hfirst, hr⟩ := l.hear_afterAll report
    obtain ⟨later, hlater, hrest⟩ := ih (l.hear report)
    refine ⟨first ++ later, fun a ha => ?_, ?_⟩
    · rcases List.mem_append.1 ha with ha | ha
      · exact hfirst a ha
      · exact hlater a ha
    · calc l.hearAll (report :: rest)
          = (l.hear report).afterAll later := hrest
        _ = (l.afterAll first).afterAll later := by rw [hr]
        _ = l.afterAll (first ++ later) := List.foldl_append.symm

/-- What the accesses of others keep, reports keep. -/
theorem Steady.stable {P : Link → Prop}
    (hP : Steady Task.manager.others P)
    (hreset : ∀ l, P l → P l.resetEvents) : Stable P := by
  refine ⟨fun l report h => ?_, hreset⟩
  obtain ⟨accesses, haccesses, hr⟩ := l.hear_afterAll report
  rw [hr]
  exact hP.afterAll haccesses h

theorem stable_disconnected : Stable fun l => l.connected = false :=
  steady_disconnected.stable fun _ h => h

/-- What follows from a connected link keeps following from it: a link
that is connected after a report was connected before. -/
theorem stable_connected_imp (p : Prop) :
    Stable fun l => l.connected = true → p := by
  refine ⟨fun l report h hc => ?_, fun l h => h⟩
  cases hl : l.connected with
  | true => exact h hl
  | false =>
    rw [stable_disconnected.hear l report hl] at hc
    cases hc

/-- No report breaks a record that is `Coherent`. -/
theorem stable_coherent : Stable Coherent :=
  steady_coherent.stable fun _ h => ⟨h.flag, h.address, h.selector⟩

theorem stable_down : Stable Down := by
  refine ⟨fun l report h => ?_, fun l h => ?_⟩
  · exact ⟨stable_coherent.hear l report h.coherent,
      stable_disconnected.hear l report h.disconnected⟩
  · exact ⟨stable_coherent.resetEvents l h.coherent, h.disconnected⟩

-- =============================================== confirming and closing

/-- To mark the link connected is one access, `confirm`, and says whether
it was taken. -/
theorem markConnected_value (l : Link) :
    l.markConnected.value = (l.confirmable, l.after .confirm) := by
  have h : l.markConnected.value = (l.apply .confirm).value := rfl
  rw [h, after_confirm]
  cases hc : l.confirmable with
  | false => simp only [apply, hc]; rfl
  | true => simp only [apply, hc]; rfl

/-- To mark a `Coherent` link connected leaves it coherent. -/
theorem Coherent.markConnected {l : Link} (h : l.Coherent) :
    l.markConnected.value.2.Coherent := by
  rw [markConnected_value]
  exact h.confirm

/-- A link that is `Down` stays so where the confirmation is refused. -/
theorem Down.markConnected {l : Link} (h : l.Down)
    (hr : l.markConnected.value.1 = false) :
    l.markConnected.value.2.Down := by
  refine ⟨h.coherent.markConnected, ?_⟩
  rw [markConnected_value] at hr ⊢
  have hc : l.confirmable = false := hr
  rw [after_confirm, hc]
  exact h.disconnected

/-- One access to the record, after any number of reports. -/
def amid : Behaviour Accesses Link :=
  fun access l r l' =>
    ∃ reports, ((l.hearAll reports).apply access).value = (r, l')

/-- However reports fall between its accesses, giving the session up
leaves nothing published. -/
theorem closing_meets {l : Link} (h : l.Coherent) :
    closing.Meets amid.contract l fun _ l' => l'.Down := by
  refine (closing_meets_turns h).weaken (fun _ _ _ => trivial) ?_
  rintro access l r l' ⟨reports, hr⟩
  obtain ⟨accesses, haccesses, hall⟩ := l.hearAll_afterAll reports
  rw [hall] at hr
  exact ⟨accesses, haccesses, hr⟩

/-- The access confirms nothing. -/
def Access.unconfirming : Access → Prop
  | .confirm => False
  | _ => True

/-- Only a confirmation connects the link, whatever is reported
meanwhile. -/
theorem preserves_disconnected :
    amid.contract.Preserves Access.unconfirming
      fun l => l.connected = false := by
  intro access l ha h
  refine ⟨trivial, fun r l' hr => ?_⟩
  obtain ⟨reports, hr⟩ := hr
  have hl := stable_disconnected.hearAll h reports
  cases access with
  | confirm => exact ha.elim
  | takeConnected | dropAddress =>
    obtain ⟨rfl, rfl⟩ := Prod.mk.inj hr
    rfl
  | clearAddress | setAddress info | signal event | forgetEvent
  | status access | log line =>
    obtain ⟨rfl, rfl⟩ := Prod.mk.inj hr
    exact hl

/-- To publish a state is no confirmation. -/
theorem asks_publishing (accesses : List Status.Access) :
    (publishing accesses).Asks Access.unconfirming := by
  induction accesses with
  | nil => trivial
  | cons a rest ih =>
    exact Proc.asks_bind (Proc.asks_ask.2 trivial) fun _ => ih

/-- Giving the session up disconnects a link in whatever state it is. -/
theorem closing_disconnects (l : Link) :
    closing.Meets amid.contract l fun _ l' => l'.connected = false := by
  refine Proc.meets_bind.2 (Proc.meets_ask.2 ⟨trivial, fun was l' hr => ?_⟩)
  obtain ⟨reports, hr⟩ := hr
  obtain ⟨rfl, rfl⟩ := Prod.mk.inj hr
  refine Proc.Asks.meets ?_ preserves_disconnected rfl
  refine Proc.asks_bind (Proc.asks_ask.2 trivial) fun _ => ?_
  split
  · exact asks_publishing _
  · exact asks_publishing _

end Link

-- ===================================================== a good-natured one

/-- Surroundings that answer at once and refuse nothing. -/
def obliging : (call : GsmCall) → Link → call.Answer × Link
  | .modem (.exchange ..), l => (.ok "+CREG: 0,1\r\n", l)
  | .modem (.switch _), l => (.ok (), l)
  | .modem .quality, l => (.ok ⟨20, 0⟩, l)
  | .modem (.pause _), l => ((), l)
  | .modem (.log _), l => ((), l)
  | .drive .., l => (.ok (), l)
  | .netif .create, l => (.ok (), l)
  | .netif .destroy, l => ((), l)
  | .netif .subscribe, l => (.ok (), l)
  | .netif .unsubscribe, l => ((), l)
  | .netif (.setDns ..), l => (.ok (), l)
  | .netif (.setAuth ..), l => (.ok (), l)
  | .build _, l => (.ok (), l)
  | .record call, l => (call.apply l).value
  | .awaitEvent _, l =>
    let l := l.hear (.ipAcquired
      ⟨⟨10, 0, 0, 2⟩, ⟨255, 255, 255, 255⟩, ⟨10, 0, 0, 1⟩⟩)
    (l.event, l.resetEvents)
  | .resolve .., l => (none, l)

end Uplink.Gsm
