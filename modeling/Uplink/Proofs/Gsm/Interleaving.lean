/-
The tasks that touch the record, access by access.

# The tasks

Each task is in a call or in none; `Tasks.left` is what is left of it. A
task that is in no call may begin one, and a task that is in one may make
its next access, in any order (`Tasks.Reached`). The manager confirms a
session, gives one up and takes events, each when the one before is over.
WiFi reports its transitions one after the other. Of the calls that the
IP stack makes any number may be under way at once.

# What carries it

Whatever is left of a call still keeps the task to its side (`turns`),
and that survives the accesses of the others (`undisturbed`): this is all
there is to the invariant (`Tasks.Sound`). Where a call is about to go on
the record is as the task minds it, and where none is left it is as the
task leaves it.
-/
import Mathlib.Logic.Function.Basic
import Uplink.Proofs.Gsm.Accesses

namespace Uplink.Gsm.Link

open Network (Status Transport)

-- ============================================================= the tasks

/-- The calls of the tasks. -/
inductive Task.Calls : Task → Proc Accesses Unit → Prop
  | markConnected : Calls manager (confirming >>= fun _ => pure ())
  | markDisconnected : Calls manager closing
  /-- an event is taken, or forgotten -/
  | takeEvent : Calls manager (access .forgetEvent)
  | notify (connected : Bool) :
      Calls wifi (publishing (Status.notifyAccesses connected .wifi))
  | ipAcquired (number : Nat) (info : Net.IpInfo) :
      Calls (stack number) (acquiring info)
  | ipLost (number : Nat) : Calls (stack number) losing
  | linkStatus (number : Nat) (code : Int) :
      Calls (stack number) (reporting code)

/-- The record, and what is left of the call that each task is in. -/
structure Tasks where
  link : Link := {}
  left : Task → Proc Accesses Unit := fun _ => .done ()

namespace Tasks

/-- No task is in a call. -/
def Idle (s : Tasks) : Prop :=
  ∀ t, s.left t = .done ()

/-- A task begins a call. -/
def begin (s : Tasks) (t : Task) (p : Proc Accesses Unit) : Tasks :=
  { s with left := Function.update s.left t p }

/-- A task makes an access, and goes on with what it answers. -/
def move (s : Tasks) (t : Task) (a : Access)
    (k : a.Answer → Proc Accesses Unit) : Tasks :=
  { link := s.link.after a
    left := Function.update s.left t (k (s.link.apply a).value.1) }

/-- What the tasks get to, in any order. -/
inductive Reached : Tasks → Prop
  | start : Reached {}
  | begun {s : Tasks} {t : Task} {p : Proc Accesses Unit} :
      Reached s → s.left t = .done () → t.Calls p → Reached (s.begin t p)
  | moved {s : Tasks} {t : Task} {a : Access}
      {k : a.Answer → Proc Accesses Unit} :
      Reached s → s.left t = .call a k → Reached (s.move t a k)

end Tasks

-- ============================================================= the calls

/-- Reporting a transition of WiFi settles its flag before the selector,
so the selector is on WiFi only where the flag is up. -/
theorem notifying_meets (connected : Bool) (l : Link) :
    (publishing (Status.notifyAccesses connected .wifi)).Meets
      (turns .wifi) l fun _ => Task.wifi.leaves := by
  have minded (P : Link → Prop) : ∀ l, P l → Task.wifi.minds l :=
    fun _ _ => trivial
  -- what has to last is the flag where WiFi came up, and the selection
  -- where it went
  cases connected with
  | true =>
    have steady : Steady Task.wifi.others fun l => l.status.wifi = true := by
      intro l a ha h
      exact (after_others_wifi (l := l) ha).1.trans h
    have raised : (access (.status (.setFlag .wifi true))).Meets
        (turns .wifi) l fun _ l' => l'.status.wifi = true :=
      meets_turn .wifi (.status (.setFlag .wifi true)) trivial
        (steady_true _) (minded _) (fun _ _ => rfl) trivial
    have rest (l : Link) (h : l.status.wifi = true) :
        (publishing [.select .wifi, .announce .wifi true, .signal]).Meets
          (turns .wifi) l fun _ l' => l'.status.wifi = true := by
      refine meets_publishing steady (minded _) (fun a ha => ?_) h
      simp only [List.mem_cons, List.not_mem_nil, or_false] at ha
      rcases ha with rfl | rfl | rfl
      · exact ⟨trivial, fun _ h => h⟩
      · exact ⟨trivial, fun _ h => h⟩
      · exact ⟨trivial, fun _ h => h⟩
    refine Proc.meets_bind.2 (raised.mono fun _ l₁ h₁ => ?_)
    exact (rest l₁ h₁).mono fun _ _ h _ => h
  | false =>
    have steady : Steady Task.wifi.others
        fun l => l.status.active ≠ some .wifi := by
      intro l a ha h hactive
      exact h ((after_others_wifi (l := l) ha).2 hactive)
    have lowered : (access (.status (.setFlag .wifi false))).Meets
        (turns .wifi) l fun _ _ => True :=
      meets_turn .wifi (.status (.setFlag .wifi false)) trivial
        (steady_true _) (minded _) (fun _ _ => trivial) trivial
    have deselected (l : Link) :
        (access (.status (.deselect .wifi))).Meets (turns .wifi) l
          fun _ l' => l'.status.active ≠ some .wifi :=
      meets_turn .wifi (.status (.deselect .wifi)) trivial
        (steady_true _) (minded _)
        (fun _ _ ha => (Status.release_active ha).2 rfl) trivial
    have rest (l : Link) (h : l.status.active ≠ some .wifi) :
        (publishing [.announce .wifi false, .signal]).Meets (turns .wifi) l
          fun _ l' => l'.status.active ≠ some .wifi := by
      refine meets_publishing steady (minded _) (fun a ha => ?_) h
      simp only [List.mem_cons, List.not_mem_nil, or_false] at ha
      rcases ha with rfl | rfl
      · exact ⟨trivial, fun _ h => h⟩
      · exact ⟨trivial, fun _ h => h⟩
    refine Proc.meets_bind.2 (lowered.mono fun _ l₁ _ => ?_)
    refine Proc.meets_bind.2 ((deselected l₁).mono fun _ l₂ h₂ => ?_)
    exact (rest l₂ h₂).mono fun _ _ h ha => absurd ha h

/-- The IP stack makes its own accesses only, and leaves nothing to be
relied on. -/
theorem dispatched_meets {number : Nat} {p : Proc Accesses Unit}
    (hp : (Task.stack number).Calls p) (l : Link) :
    p.Meets (turns (.stack number)) l
      fun _ => (Task.stack number).leaves := by
  have kept : (turns (.stack number)).Preserves
      (Task.stack number).makes fun _ => True :=
    fun _ _ ha _ => ⟨⟨ha, trivial⟩, fun _ _ _ => trivial⟩
  have asked : p.Asks (Task.stack number).makes := by
    cases hp with
    | ipAcquired number info =>
      exact ⟨trivial, fun _ => ⟨trivial, fun _ =>
        ⟨trivial, fun _ => trivial⟩⟩⟩
    | ipLost number =>
      exact ⟨trivial, fun _ => ⟨trivial, fun _ =>
        ⟨trivial, fun _ => trivial⟩⟩⟩
    | linkStatus number code =>
      unfold reporting
      split
      · exact ⟨trivial, fun _ => trivial⟩
      · exact ⟨trivial, fun _ => ⟨trivial, fun _ => trivial⟩⟩
  exact asked.meets kept trivial

/-- A call keeps the task to its side, and leaves the record as it was
found. -/
theorem Task.Calls.meets {t : Task} {p : Proc Accesses Unit}
    (hp : t.Calls p) {l : Link} (hl : t.leaves l) :
    p.Meets (turns t) l fun _ => t.leaves := by
  -- what the manager minds of a link is its address, which is right where
  -- the link is coherent
  have found (l : Link) (h : l.Coherent) : Task.manager.minds l :=
    h.address
  cases hp with
  | markConnected =>
    have confirmed : (access .confirm).Meets (turns .manager) l
        fun _ l' => l'.Coherent :=
      meets_turn .manager .confirm trivial steady_coherent found
        (fun _ h => h.confirm) hl
    exact Proc.meets_bind.2 (confirmed.mono fun _ _ h => h)
  | markDisconnected =>
    exact (closing_meets_turns hl).mono fun _ _ h => h.coherent
  | takeEvent =>
    have taken (l : Link) (h : l.Coherent) :
        (l.after .forgetEvent).Coherent :=
      ⟨h.flag, h.address, h.selector⟩
    have forgotten : (access .forgetEvent).Meets (turns .manager) l
        fun _ l' => l'.Coherent :=
      meets_turn .manager .forgetEvent trivial steady_coherent found taken
        hl
    exact forgotten
  | notify connected => exact notifying_meets connected l
  | ipAcquired number info =>
    exact dispatched_meets (.ipAcquired number info) l
  | ipLost number => exact dispatched_meets (.ipLost number) l
  | linkStatus number code =>
    exact dispatched_meets (.linkStatus number code) l

/-- An access of another task does not matter to what is left. -/
theorem undisturbed {t : Task} {p : Proc Accesses Unit} {l : Link}
    {a : Access} (h : p.Meets (turns t) l fun _ => t.leaves)
    (ha : t.others a) :
    p.Meets (turns t) (l.after a) fun _ => t.leaves := by
  cases p with
  | done value => exact steady_leaves t l a ha h
  | call b k =>
    obtain ⟨⟨hmakes, hminds⟩, hk⟩ := h
    refine ⟨⟨hmakes, steady_minds t l a ha hminds⟩, ?_⟩
    rintro r l' ⟨before, hbefore, hr⟩
    exact hk r l' ⟨a :: before, List.forall_mem_cons.2 ⟨ha, hbefore⟩, hr⟩

-- ========================================================= the invariant

namespace Tasks

/-- What is left of each call keeps its task to its side. -/
def Sound (s : Tasks) : Prop :=
  ∀ t, (s.left t).Meets (turns t) s.link fun _ => t.leaves

/-- Before any call, with the first record, the tasks are `Sound`. -/
theorem sound_start : ({} : Tasks).Sound := by
  intro t
  cases t with
  | manager => exact coherent_fresh
  | wifi => exact nofun
  | stack number => trivial

/-- A task that is in no call may begin one. -/
theorem Sound.begin {s : Tasks} (h : s.Sound) {t : Task}
    {p : Proc Accesses Unit} (ht : s.left t = .done ()) (hp : t.Calls p) :
    (s.begin t p).Sound := by
  intro u
  by_cases hu : u = t
  · subst hu
    have hl : u.leaves s.link := by
      have hleft := h u
      rw [ht] at hleft
      exact hleft
    show Proc.Meets _ (Function.update s.left u p u) _ _
    rw [Function.update_self]
    exact hp.meets hl
  · show Proc.Meets _ (Function.update s.left t p u) _ _
    rw [Function.update_of_ne hu]
    exact h u

/-- One access of a task, in any order with those of the others, leaves the
tasks `Sound`. -/
theorem Sound.move {s : Tasks} (h : s.Sound) {t : Task} {a : Access}
    {k : a.Answer → Proc Accesses Unit} (ht : s.left t = .call a k) :
    (s.move t a k).Sound := by
  have hleft := h t
  rw [ht] at hleft
  obtain ⟨⟨hmakes, -⟩, hk⟩ := hleft
  intro u
  by_cases hu : u = t
  · subst hu
    show Proc.Meets _ (Function.update s.left u _ u) _ _
    rw [Function.update_self]
    exact hk _ _ ⟨[], nofun, rfl⟩
  · show Proc.Meets _ (Function.update s.left t _ u) _ _
    rw [Function.update_of_ne hu]
    exact undisturbed (h u) ⟨t, Ne.symm hu, hmakes⟩

/-- In every order of accesses the tasks are `Sound`. -/
theorem Reached.sound {s : Tasks} (h : s.Reached) : s.Sound := by
  induction h with
  | start => exact sound_start
  | begun _ ht hp ih => exact ih.begin ht hp
  | moved _ ht ih => exact ih.move ht

/-- Where the manager is in a call it minds the address, and where it is
in none the record is coherent. -/
theorem Sound.addressed {s : Tasks} (h : s.Sound) : s.link.Addressed := by
  have hm := h .manager
  cases hleft : s.left .manager with
  | done value =>
    rw [hleft] at hm
    exact Coherent.address hm
  | call a k =>
    rw [hleft] at hm
    exact hm.1.2

/-- Where no task is in a call, the record is as each of them leaves it. -/
theorem Sound.leaves {s : Tasks} (h : s.Sound) (hidle : s.Idle)
    (t : Task) : t.leaves s.link := by
  have ht := h t
  rw [hidle t] at ht
  exact ht

/-- However the single accesses of the `Tasks` fall: a link that is
connected has an address at every moment, and whenever no call is under way
the flags agree and the selector is on a transport that is connected. -/
theorem Reached.in_step {s : Tasks} (h : s.Reached) :
    (s.link.connected = true → s.link.address.isSome = true)
      ∧ (s.Idle →
        s.link.connected = s.link.status.isConnected .gsm
          ∧ ∀ t, s.link.status.active = some t →
            s.link.status.isConnected t = true) := by
  refine ⟨h.sound.addressed, fun hidle => ?_⟩
  have hgsm : s.link.Coherent := h.sound.leaves hidle .manager
  have hwifi := h.sound.leaves hidle .wifi
  refine ⟨hgsm.flag.symm, fun t ht => ?_⟩
  cases t with
  | wifi => exact hwifi ht
  | gsm => exact hgsm.flag.trans (hgsm.selector ht)

-- ====================================================== one interleaving

/-- The next access of a task, if it is in a call. -/
def advance (s : Tasks) (t : Task) : Tasks :=
  match s.left t with
  | .done _ => s
  | .call a k => s.move t a k

theorem Reached.advance {s : Tasks} (h : s.Reached) (t : Task) :
    (s.advance t).Reached := by
  unfold Tasks.advance
  split
  · exact h
  next heq => exact h.moved heq

/-- A session is about to be confirmed when WiFi comes up, and has raised
its flag. -/
def crossing : Tasks :=
  let s := ({} : Tasks).begin (.stack 0)
    (acquiring ⟨⟨10, 0, 0, 2⟩, ⟨255, 255, 255, 255⟩, ⟨10, 0, 0, 1⟩⟩)
  let s := ((s.advance (.stack 0)).advance (.stack 0)).advance (.stack 0)
  let s := s.begin .wifi (publishing (Status.notifyAccesses true .wifi))
  (s.advance .wifi).begin .manager (confirming >>= fun _ => pure ())

/-- The session is confirmed first, and then WiFi goes on. -/
def crossed : Tasks :=
  let s := (crossing.advance .manager).advance .wifi
  (s.advance .wifi).advance .wifi

/-- The two tasks that cross are reached by some order of accesses. -/
theorem reached_crossed : crossed.Reached := by
  have acquired : (({} : Tasks).begin (.stack 0) (acquiring _)).Reached :=
    .begun .start rfl (.ipAcquired 0
      ⟨⟨10, 0, 0, 2⟩, ⟨255, 255, 255, 255⟩, ⟨10, 0, 0, 1⟩⟩)
  have settled := ((acquired.advance (.stack 0)).advance
    (.stack 0)).advance (.stack 0)
  have raising := settled.begun rfl (.notify true)
  have confirming := (raising.advance .wifi).begun rfl .markConnected
  exact (((confirming.advance .manager).advance .wifi).advance
    .wifi).advance .wifi

theorem idle_crossed : crossed.Idle := by
  intro t
  cases t with
  | manager => rfl
  | wifi => rfl
  | stack number => cases number <;> rfl

/-- Both transports are connected in the end, and the selector is on the
one that was slower. -/
theorem Reached.in_step_crossed :
    crossed.link.connected = true
      ∧ crossed.link.status.active = some .wifi
      ∧ crossed.link.address.isSome = true
      ∧ crossed.link.status.isConnected .gsm = true
      ∧ crossed.link.status.isConnected .wifi = true := by
  obtain ⟨haddress, hidle⟩ := reached_crossed.in_step
  obtain ⟨hflag, hselector⟩ := hidle idle_crossed
  have hc : crossed.link.connected = true := rfl
  have ha : crossed.link.status.active = some .wifi := rfl
  exact ⟨hc, ha, haddress hc, hflag.symm.trans hc, hselector .wifi ha⟩

end Tasks

end Uplink.Gsm.Link
