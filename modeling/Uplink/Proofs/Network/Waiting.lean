/-
A task that waits for a connection, among tasks that report.

# The tasks

Any number of tasks report transitions of the transports. Each is in a
call or in none, and what is left of a call are the accesses it has still
to make. One task waits for a connection: it reads the flags one after the
other, and sleeps on the signal if both are down. All of them go on in any
order, one access at a time (`Vigil.Reached`), and a task that is through
may begin again.

# Why no report is missed

A flag may come up just after it was found down, and so may the other
while the first is read again. But a call raises its flag before its
signal. So a flag that was found down and is up by now has its signal
raised, or still to come (`Vigil.Sound.owed`). Taking the signal does not
break that: the flags are read again then, and none counts as found down
any more. Once nothing is being reported, a task that waits while a
transport is connected gets through by itself (`Vigil.Sound.settles`).
-/
import Mathlib.Logic.Function.Basic
import Uplink.Network.Status

namespace Uplink.Network

open Status (Access Waiter notifyAccesses)

-- =============================================================== glances

/-- What the waiting task saw of the record. -/
inductive Glance where
  | read (transport : Transport) (up : Bool)
  /-- it looked at the signal, and took it if it was raised -/
  | wait (raised : Bool)
deriving DecidableEq, Repr

/-- What a step of the waiting task sees. -/
def Status.Waiter.glances (s : Status) : Waiter → List Glance
  | readWifi => [.read .wifi (s.isConnected .wifi)]
  | readGsm => [.read .gsm (s.isConnected .gsm)]
  | poll | parked => [.wait s.changed]
  | online => []

/-- The transports whose flags were found down since the last wait. -/
def Status.Waiter.FoundDown : Waiter → Transport → Prop
  | readGsm, t => t = .wifi
  | poll, _ | parked, _ => True
  | readWifi, _ | online, _ => False

namespace Status.Waiter

variable {s : Status} {w : Waiter} {t : Transport}

/-- A flag that counts as found down after a step, and is up, counted so
before it: the flag that the step itself finds is down, and a step that
takes the signal forgets what was found. -/
theorem foundDown_of_step (hdown : (w.step s).1.FoundDown t)
    (hup : (w.step s).2.isConnected t = true) :
    w.FoundDown t ∧ (w.step s).2 = s := by
  -- a flag that this very step reads down is still down after it, so the
  -- one that is up was found down before
  cases w with
  | readWifi =>
    cases hflag : s.isConnected .wifi with
    | false =>
      simp only [step, hflag] at hdown hup
      obtain rfl : t = .wifi := hdown
      cases hflag.symm.trans hup
    | true =>
      simp only [step, hflag] at hdown
      exact hdown.elim
  | readGsm =>
    cases hflag : s.isConnected .gsm with
    | false =>
      simp only [step, hflag] at hup
      cases t with
      | wifi => exact ⟨rfl, rfl⟩
      | gsm => cases hflag.symm.trans hup
    | true =>
      simp only [step, hflag] at hdown
      exact hdown.elim
  | poll =>
    cases hchanged : s.changed with
    | false => exact ⟨trivial, by simp [step, hchanged]⟩
    | true =>
      simp only [step, hchanged] at hdown
      exact hdown.elim
  | parked =>
    cases hchanged : s.changed with
    | false => exact ⟨trivial, by simp [step, hchanged]⟩
    | true =>
      simp only [step, hchanged] at hdown
      exact hdown.elim
  | online => exact hdown.elim

/-- The waiting task gets through only by reading a flag that is up. -/
theorem online_of_step (h : (w.step s).1 = online) :
    w = online ∨ ∃ t, w.glances s = [.read t true] := by
  cases w with
  | readWifi =>
    cases hflag : s.isConnected .wifi with
    | false => simp [step, hflag] at h
    | true => exact .inr ⟨.wifi, by rw [glances, hflag]⟩
  | readGsm =>
    cases hflag : s.isConnected .gsm with
    | false => simp [step, hflag] at h
    | true => exact .inr ⟨.gsm, by rw [glances, hflag]⟩
  | poll => cases hchanged : s.changed <;> simp [step, hchanged] at h
  | parked => cases hchanged : s.changed <;> simp [step, hchanged] at h
  | online => exact .inl rfl

/-- A task that got through stays where it is. -/
theorem settle_online (left : Nat) (s : Status) :
    settle left online s = (online, s) := by
  induction left with
  | zero => rfl
  | succ left ih => exact ih

/-- With a flag up, reading both is enough. -/
theorem settle_readWifi (left : Nat) (h : s.isOnline = true) :
    (settle (left + 2) readWifi s).1 = online := by
  cases hwifi : s.isConnected .wifi with
  | true => simp [settle, step, hwifi, settle_online]
  | false =>
    have hgsm : s.isConnected .gsm = true := by
      simpa [isOnline, hwifi] using h
    simp [settle, step, hwifi, hgsm, settle_online]

/-- A task that can take the signal reads the flags again. -/
theorem settle_signalled (left : Nat) (hw : w = poll ∨ w = parked)
    (hchanged : s.changed = true) (h : s.isOnline = true) :
    (settle (left + 3) w s).1 = online := by
  have hstep : w.step s = (readWifi, { s with changed := false }) := by
    rcases hw with rfl | rfl
    · simp [step, hchanged]
    · simp [step, hchanged]
  rw [settle, hstep]
  exact settle_readWifi left h

end Status.Waiter

-- ============================================================= the tasks

/-- The calls of the tasks that report. -/
inductive Reports : List Access → Prop
  | notify (connected : Bool) (t : Transport) :
      Reports (notifyAccesses connected t)
  | release (t : Transport) : Reports [.deselect t]

/-- The record, what is left of the call of each task that reports, where
the waiting task is, and all that it saw. -/
structure Vigil where
  status : Status := {}
  left : Nat → List Access := fun _ => []
  waiter : Waiter := .readWifi
  seen : List Glance := []

namespace Vigil

/-- A task begins a call. -/
def begin (v : Vigil) (n : Nat) (call : List Access) : Vigil :=
  { v with left := Function.update v.left n call }

/-- A task makes its next access, and others are left. -/
def move (v : Vigil) (n : Nat) (a : Access) (rest : List Access) : Vigil :=
  { v with
    status := v.status.apply a
    left := Function.update v.left n rest }

/-- The waiting task goes on. -/
def watch (v : Vigil) : Vigil :=
  { v with
    status := (v.waiter.step v.status).2
    waiter := (v.waiter.step v.status).1
    seen := v.seen ++ v.waiter.glances v.status }

/-- The waiting task is through, and waits again. -/
def again (v : Vigil) : Vigil :=
  { v with waiter := .readWifi }

/-- What the tasks get to, in any order, from any record. -/
inductive Reached : Vigil → Prop
  | start (s : Status) : Reached { status := s }
  | begun {v : Vigil} {n : Nat} {call : List Access} :
      Reached v → v.left n = [] → Reports call → Reached (v.begin n call)
  | moved {v : Vigil} {n : Nat} {a : Access} {rest : List Access} :
      Reached v → v.left n = a :: rest → Reached (v.move n a rest)
  | watched {v : Vigil} : Reached v → Reached v.watch
  | again {v : Vigil} :
      Reached v → v.waiter = .online → Reached v.again

/-- A transition is being reported: the signal, which is the last access
of such a call, is still to come. -/
def Notifying (v : Vigil) : Prop :=
  ∃ n, .signal ∈ v.left n

end Vigil

-- ========================================================== the accesses

/-- Each flag that is stored is followed by the signal. -/
def Rings : List Access → Prop
  | [] => True
  | .setFlag .. :: rest => .signal ∈ rest ∧ Rings rest
  | _ :: rest => Rings rest

/-- A call that `Reports` raises its signal after its flag. -/
theorem Reports.rings {call : List Access} (h : Reports call) :
    Rings call := by
  cases h with
  | notify connected t =>
    cases connected with
    | true => simp [notifyAccesses, Rings]
    | false => simp [notifyAccesses, Rings]
  | release t => trivial

/-- What is left of a call that `Rings` still does. -/
theorem Rings.tail {a : Access} {rest : List Access}
    (h : Rings (a :: rest)) : Rings rest := by
  cases a with
  | setFlag t connected => exact h.2
  | select t => exact h
  | deselect t => exact h
  | announce t connected => exact h
  | signal => exact h

/-- An access raises the signal, or the signal still follows it, or it
changes neither a flag nor the signal. -/
theorem Rings.apply {a : Access} {rest : List Access}
    (h : Rings (a :: rest)) (s : Status) :
    (s.apply a).changed = true ∨ .signal ∈ rest
      ∨ a ≠ .signal ∧ (s.apply a).changed = s.changed
        ∧ ∀ t, (s.apply a).isConnected t = s.isConnected t := by
  cases a with
  | setFlag t connected => exact .inr (.inl h.1)
  | select t => exact .inr (.inr ⟨nofun, rfl, fun _ => rfl⟩)
  | deselect t =>
    refine .inr (.inr ⟨nofun, ?_⟩)
    by_cases ha : s.active = some t
    · rw [Status.apply, if_pos ha]
      exact ⟨rfl, fun _ => rfl⟩
    · rw [Status.apply, if_neg ha]
      exact ⟨rfl, fun _ => rfl⟩
  | announce t connected => exact .inr (.inr ⟨nofun, rfl, fun _ => rfl⟩)
  | signal => exact .inl rfl

-- ========================================================= the invariant

namespace Vigil

variable {v : Vigil} {n : Nat} {a : Access} {call rest : List Access}

/-- After a call began, the signal is still to come if the call raises it,
or if another task will. -/
theorem notifying_begin :
    (v.begin n call).Notifying
      ↔ .signal ∈ call ∨ ∃ m ≠ n, .signal ∈ v.left m :=
  Function.exists_update_iff v.left fun _ left => Access.signal ∈ left

/-- After a task moved on, the signal is still to come if the rest of its
call raises it, or if another task will. -/
theorem notifying_move :
    (v.move n a rest).Notifying
      ↔ .signal ∈ rest ∨ ∃ m ≠ n, .signal ∈ v.left m :=
  Function.exists_update_iff v.left fun _ left => Access.signal ∈ left

structure Sound (v : Vigil) : Prop where
  rings : ∀ n, Rings (v.left n)
  /-- a flag that was found down and is up has its signal raised, or to
  come -/
  owed : ∀ t, v.waiter.FoundDown t → v.status.isConnected t = true →
    v.status.changed = true ∨ v.Notifying
  /-- the waiting task is through for what it saw last -/
  glanced : v.waiter = .online →
    ∃ before t, v.seen = before ++ [.read t true]

/-- At the start nothing is being reported, and the waiting task has found
nothing down. -/
theorem sound_start (s : Status) : ({ status := s } : Vigil).Sound where
  rings _ := trivial
  owed _ h := h.elim
  glanced := nofun

/-- A task that begins a call leaves everything `Sound`: no flag is raised
yet. -/
theorem Sound.begin (h : v.Sound) (hn : v.left n = [])
    (hcall : Reports call) : (v.begin n call).Sound where
  rings := (Function.forall_update_iff v.left fun _ => Rings).2
    ⟨hcall.rings, fun m _ => h.rings m⟩
  owed t hdown hup := by
    refine (h.owed t hdown hup).imp_right fun ⟨m, hm⟩ => ?_
    refine notifying_begin.2 (.inr ⟨m, ?_, hm⟩)
    rintro rfl
    rw [hn] at hm
    cases hm
  glanced := h.glanced

/-- One access of a call does so too. If it raises a flag, the signal of
that call is still to come; if it raises the signal, nothing is owed any
more. -/
theorem Sound.move (h : v.Sound) (hn : v.left n = a :: rest) :
    (v.move n a rest).Sound := by
  have hrings : Rings (a :: rest) := hn ▸ h.rings n
  refine ⟨?_, fun t hdown hup => ?_, h.glanced⟩
  · exact (Function.forall_update_iff v.left fun _ => Rings).2
      ⟨hrings.tail, fun m _ => h.rings m⟩
  rcases hrings.apply v.status with hchanged | hrest | ⟨ha, hsame, hflags⟩
  · exact .inl hchanged
  · exact .inr (notifying_move.2 (.inl hrest))
  · -- the access does not matter: what was owed is owed still
    refine (h.owed t hdown ((hflags t).symm.trans hup)).imp hsame.trans ?_
    rintro ⟨m, hm⟩
    by_cases hmn : m = n
    · rw [hmn, hn] at hm
      have hrest := (List.mem_cons.1 hm).resolve_left ha.symm
      exact notifying_move.2 (.inl hrest)
    · exact notifying_move.2 (.inr ⟨m, hmn, hm⟩)

/-- So does a step of the waiting task, which forgets what it found down
where it takes the signal. -/
theorem Sound.watch (h : v.Sound) : v.watch.Sound := by
  refine ⟨h.rings, fun t hdown hup => ?_, fun honline => ?_⟩
  · obtain ⟨hdown, hsame⟩ := Waiter.foundDown_of_step hdown hup
    have hup : v.status.isConnected t = true := hsame ▸ hup
    exact (h.owed t hdown hup).imp_left (congrArg Status.changed hsame).trans
  · show ∃ before t, v.seen ++ v.waiter.glances v.status = _
    rcases Waiter.online_of_step honline with hw | ⟨t, ht⟩
    · rw [hw, Waiter.glances, List.append_nil]
      exact h.glanced hw
    · exact ⟨v.seen, t, by rw [ht]⟩

/-- So does a wait that begins once more. -/
theorem Sound.again (h : v.Sound) : v.again.Sound where
  rings := h.rings
  owed _ h := h.elim
  glanced := nofun

/-- Whatever order the tasks go on in, everything is `Sound`. -/
theorem Reached.sound (h : v.Reached) : v.Sound := by
  induction h with
  | start s => exact sound_start s
  | begun _ hn hcall ih => exact ih.begin hn hcall
  | moved _ hn ih => exact ih.move hn
  | watched _ ih => exact ih.watch
  | again _ _ ih => exact ih.again

/-- Where both flags were found down and one is up by now, and nothing is
being reported, the signal is raised. -/
theorem Sound.signalled (h : v.Sound) (hquiet : ¬ v.Notifying)
    (honline : v.status.isOnline = true)
    (hasleep : v.waiter = .poll ∨ v.waiter = .parked) :
    v.status.changed = true := by
  have hdown (t : Transport) : v.waiter.FoundDown t := by
    rcases hasleep with hw | hw
    · rw [hw]
      trivial
    · rw [hw]
      trivial
  rcases Bool.or_eq_true_iff.1 honline with hwifi | hgsm
  · exact (h.owed .wifi (hdown .wifi) hwifi).resolve_right hquiet
  · exact (h.owed .gsm (hdown .gsm) hgsm).resolve_right hquiet

/-- Where nothing is being reported and a transport is connected, the
waiting task gets through by itself: it finds a flag up, or the signal
raised and a flag up after that. -/
theorem Sound.settles (h : v.Sound) (hquiet : ¬ v.Notifying)
    (honline : v.status.isOnline = true) :
    (Waiter.settle Waiter.settleSteps v.waiter v.status).1 = .online := by
  cases hw : v.waiter with
  | readWifi => exact Waiter.settle_readWifi 5 honline
  | readGsm =>
    cases hgsm : v.status.isConnected .gsm with
    | true =>
      simp [Waiter.settleSteps, Waiter.settle, Waiter.step, hgsm]
    | false =>
      -- it is WiFi then, which was found down: the signal is raised
      have hwifi : v.status.isConnected .wifi = true := by
        simpa [Status.isOnline, hgsm] using honline
      have hdown : v.waiter.FoundDown .wifi := by
        rw [hw]
        rfl
      have hpoll : Waiter.readGsm.step v.status = (.poll, v.status) := by
        simp [Waiter.step, hgsm]
      rw [Waiter.settleSteps, Waiter.settle, hpoll]
      have hraised := (h.owed .wifi hdown hwifi).resolve_right hquiet
      exact Waiter.settle_signalled 3 (.inl rfl) hraised honline
  | poll =>
    have hraised := h.signalled hquiet honline (.inl hw)
    exact Waiter.settle_signalled 4 (.inl rfl) hraised honline
  | parked =>
    have hraised := h.signalled hquiet honline (.inr hw)
    exact Waiter.settle_signalled 4 (.inr rfl) hraised honline
  | online => rw [Waiter.settle_online]

/-- No report is missed, in whatever order of accesses (`Reached`). Where
the waiting task sleeps on a clear signal and nothing is being reported, no
transport is connected; and it is through only if, after its last wait, it
read a flag that was up. -/
theorem Reached.wakeful (h : v.Reached) :
    ¬ (v.waiter = .parked ∧ v.status.changed = false
        ∧ ¬ v.Notifying ∧ v.status.isOnline = true)
      ∧ (v.waiter = .online →
          ∃ before t, v.seen = before ++ [.read t true]) := by
  refine ⟨?_, h.sound.glanced⟩
  rintro ⟨hparked, hclear, hquiet, honline⟩
  have hraised := h.sound.signalled hquiet honline (.inr hparked)
  exact absurd (hclear.symm.trans hraised) nofun

/-- WiFi comes up while the flags are read: its flag is stored just after
it was found down, and the waiting task goes to sleep. -/
def crossing : Vigil :=
  ((({} : Vigil).watch.begin 0 (notifyAccesses true .wifi)).move 0
    (.setFlag .wifi true)
    [.select .wifi, .announce .wifi true, .signal]).watch.watch

/-- The call is over, and the waiting task has taken the signal. -/
def crossed : Vigil :=
  (((crossing.move 0 (.select .wifi) [.announce .wifi true, .signal]).move
    0 (.announce .wifi true) [.signal]).move 0 .signal []).watch.watch

/-- A report can cross with a wait in this way. -/
theorem reached_crossing : crossing.Reached :=
  (((Reached.start {}).watched.begun rfl (.notify true .wifi)).moved
    rfl).watched.watched

/-- The crossing can go on to this point. -/
theorem reached_crossed : crossed.Reached :=
  (((reached_crossing.moved rfl).moved rfl).moved rfl).watched.watched

/-- The task that sleeps while a report is on its way gets through when the
signal comes, and it has read a flag that is up. -/
theorem Reached.wakeful_crossed :
    (crossing.waiter = .parked ∧ crossing.status.changed = false
      ∧ crossing.status.isOnline = true ∧ crossing.Notifying)
    ∧ crossed.waiter = .online
    ∧ ∃ before t, crossed.seen = before ++ [.read t true] :=
  ⟨⟨rfl, rfl, rfl, by
      by_contra hquiet
      exact reached_crossing.wakeful.1 ⟨rfl, rfl, hquiet, rfl⟩⟩,
    rfl, reached_crossed.wakeful.2 rfl⟩

end Vigil

end Uplink.Network
