/-
Single accesses to the shared record, and the tasks that make them.

# Who makes which

The manager confirms a session and gives it up, the IP stack stores and
drops the address, WiFi writes its own flag and takes the selector. Every
access belongs to one of these tasks (`Task.makes`), and a task may find
any number of accesses of the others between two of its own (`among`).

# What the others may do

All that follows about interleavings rests on two facts. What is not the
manager's own access either drops the session altogether or leaves the
flags of the cellular link alone (`after_others_manager`); and nobody but
WiFi raises its flag, lowers it or selects it (`after_others_wifi`). A
property that survives the accesses of the others is `Steady`.

# Giving a session up

Confirming a session and dropping it are one access each, under a lock.
Giving it up is not: `Closing` is what may still be published on the way,
and each access of `closing` narrows it down until nothing is
(`closing_meets_turns`).
-/
import Uplink.Gsm.Link
import Uplink.Proofs.Contract

namespace Uplink.Network.Status

-- ==================================================== what is published

/-- A transport that comes up is flagged and selected, and the change is
signalled. -/
theorem notify_up (s : Status) (t : Transport) :
    (s.notify true t).value
      = { s.apply (.setFlag t true) with
          active := some t, changed := true } := by
  cases t <;> rfl

/-- A transport that goes down loses its flag, and the selection if it was
its own. -/
theorem notify_down (s : Status) (t : Transport) :
    (s.notify false t).value
      = { s.apply (.setFlag t false) with
          active := if s.active = some t then none else s.active
          changed := true } := by
  have h : (s.notify false t).value
      = { (s.apply (.setFlag t false)).apply (.deselect t) with
          changed := true } := rfl
  rw [h]
  cases t with
  | wifi => by_cases ha : s.active = some .wifi <;> simp [apply, ha]
  | gsm => by_cases ha : s.active = some .gsm <;> simp [apply, ha]

/-- A notice on the cellular link sets its flag. -/
@[simp] theorem notify_gsm_gsm (s : Status) (connected : Bool) :
    (s.notify connected .gsm).value.gsm = connected := by
  cases connected with
  | false => rw [notify_down]; rfl
  | true => rw [notify_up]; rfl

/-- A notice on the cellular link leaves the flag of WiFi. -/
@[simp] theorem notify_gsm_wifi (s : Status) (connected : Bool) :
    (s.notify connected .gsm).value.wifi = s.wifi := by
  cases connected with
  | false => rw [notify_down]; rfl
  | true => rw [notify_up]; rfl

/-- A transport that goes down is not selected after it. -/
theorem notify_down_active (s : Status) (t : Transport) :
    (s.notify false t).value.active ≠ some t := by
  rw [notify_down]
  by_cases ha : s.active = some t <;> simp [ha]

/-- The cellular transport never puts the selector on WiFi. -/
theorem notify_gsm_active {s : Status} {connected : Bool}
    (h : (s.notify connected .gsm).value.active = some .wifi) :
    s.active = some .wifi := by
  cases connected with
  | false =>
    rw [notify_down] at h
    by_cases ha : s.active = some .gsm <;> simp_all
  | true => rw [notify_up] at h; simp at h

@[simp] theorem release_gsm (s : Status) (t : Transport) :
    (s.release t).gsm = s.gsm := by
  simp only [release, apply]
  split <;> rfl

@[simp] theorem release_wifi (s : Status) (t : Transport) :
    (s.release t).wifi = s.wifi := by
  simp only [release, apply]
  split <;> rfl

/-- After a release (`release`) only a transport that was selected before
can be, and not the one released. -/
theorem release_active {s : Status} {t u : Transport}
    (h : (s.release t).active = some u) : s.active = some u ∧ u ≠ t := by
  simp only [release, apply] at h
  split at h <;> simp_all

end Uplink.Network.Status

namespace Uplink.Gsm.Link

open Network (Status Transport)

-- ======================================================== single accesses

/-- The record after one access. -/
def after (l : Link) (a : Access) : Link :=
  (l.apply a).value.2

def afterAll (l : Link) (accesses : List Access) : Link :=
  accesses.foldl after l

/-- A confirmation takes the event and connects, where it may be given, and
does nothing elsewhere. -/
theorem after_confirm (l : Link) :
    l.after .confirm
      = if l.confirmable then
          { l with
            event := none, connected := true
            status := (l.status.notify true .gsm).value }
        else { l with event := none } := by
  unfold after
  cases hc : l.confirmable with
  | false => simp only [apply, hc]; rfl
  | true => simp only [apply, hc]; rfl

/-- With its address the link loses its connection. -/
theorem after_dropAddress (l : Link) :
    l.after .dropAddress
      = { l with
          address := none, connected := false
          status := (l.status.notify false .gsm).value } :=
  rfl

/-- An access to the status changes nothing else of the record. -/
@[simp] theorem after_status (l : Link) (a : Status.Access) :
    l.after (.status a) = { l with status := l.status.apply a } :=
  rfl

-- ================================================================= tasks

/-- Who makes accesses to the record. -/
inductive Task where
  /-- connects and disconnects -/
  | manager
  /-- speaks for the other transport -/
  | wifi
  /-- one of the calls that the IP stack makes, which may overlap -/
  | stack (number : Nat)
deriving DecidableEq

/-- The accesses of a task. -/
def Task.makes : Task → Access → Prop
  | manager, .confirm => True
  | manager, .takeConnected => True
  | manager, .clearAddress => True
  | manager, .forgetEvent => True
  | manager, .status (.setFlag .gsm false) => True
  | manager, .status (.deselect .gsm) => True
  | manager, .status (.announce ..) => True
  | manager, .status .signal => True
  | wifi, .status (.setFlag .wifi _) => True
  | wifi, .status (.select .wifi) => True
  | wifi, .status (.deselect .wifi) => True
  | wifi, .status (.announce ..) => True
  | wifi, .status .signal => True
  | stack _, .setAddress _ => True
  | stack _, .dropAddress => True
  | stack _, .signal _ => True
  | stack _, .log _ => True
  | _, _ => False

/-- The access is one of another task. -/
def Task.others (t : Task) (a : Access) : Prop :=
  ∃ u, u ≠ t ∧ u.makes a

/-- One access, after any number of accesses of these kinds. -/
def among (others : Access → Prop) : Behaviour Accesses Link :=
  fun a l r l' =>
    ∃ before, (∀ b ∈ before, others b)
      ∧ ((l.afterAll before).apply a).value = (r, l')

/-- A property that none of these accesses ends. -/
def Steady (others : Access → Prop) (P : Link → Prop) : Prop :=
  ∀ l a, others a → P l → P (l.after a)

/-- What no access of some kinds ends, no number of them does. -/
theorem Steady.afterAll {others : Access → Prop} {P : Link → Prop}
    (hP : Steady others P) {accesses : List Access}
    (h : ∀ a ∈ accesses, others a) {l : Link} (hl : P l) :
    P (l.afterAll accesses) := by
  induction accesses generalizing l with
  | nil => exact hl
  | cons a rest ih =>
    have hrest : ∀ b ∈ rest, others b := fun b hb =>
      h b (List.mem_cons_of_mem a hb)
    exact ih hrest (hP l a (h a List.mem_cons_self) hl)

theorem steady_true (others : Access → Prop) :
    Steady others fun _ => True :=
  fun _ _ _ _ => trivial

-- ================================================== what others may do

/-- What is said of the cellular link stands, or is less. -/
structure Leaves (l l' : Link) : Prop where
  connected : l'.connected = l.connected
  address : l.address.isSome = true → l'.address.isSome = true
  flag : l'.status.gsm = l.status.gsm
  selector : l'.status.active = some .gsm → l.status.active = some .gsm

/-- Between two accesses of the manager a session is dropped, or left
alone. -/
theorem after_others_manager {l : Link} {a : Access}
    (h : Task.manager.others a) :
    l.after a = l.after .dropAddress ∨ Leaves l (l.after a) := by
  obtain ⟨u, hu, hm⟩ := h
  -- only a stack that loses its address disconnects the link
  cases u with
  | manager => exact absurd rfl hu
  | stack number =>
    cases a with
    | setAddress info => exact .inr ⟨rfl, fun _ => rfl, rfl, id⟩
    | dropAddress => exact .inl rfl
    | signal event => exact .inr ⟨rfl, id, rfl, id⟩
    | log line => exact .inr ⟨rfl, id, rfl, id⟩
    | _ => exact hm.elim
  | wifi =>
    right
    cases a with
    | status access =>
      cases access with
      | setFlag t connected =>
        cases t with
        | wifi => exact ⟨rfl, id, rfl, id⟩
        | gsm => exact hm.elim
      | select t =>
        cases t with
        | wifi =>
          exact ⟨rfl, id, rfl, fun ha => by simp [Status.apply] at ha⟩
        | gsm => exact hm.elim
      | deselect t =>
        cases t with
        | wifi =>
          exact ⟨rfl, id, Status.release_gsm l.status .wifi,
            fun ha => (Status.release_active ha).1⟩
        | gsm => exact hm.elim
      | announce t connected => exact ⟨rfl, id, rfl, id⟩
      | signal => exact ⟨rfl, id, rfl, id⟩
    | _ => exact hm.elim

/-- Nobody else writes the flag of WiFi, or puts the selector on it. -/
theorem after_others_wifi {l : Link} {a : Access}
    (h : Task.wifi.others a) :
    (l.after a).status.wifi = l.status.wifi
      ∧ ((l.after a).status.active = some .wifi →
        l.status.active = some .wifi) := by
  obtain ⟨u, hu, hm⟩ := h
  -- who else makes accesses: the manager and the stacks, none of which
  -- takes WiFi's flag or selects it
  cases u with
  | wifi => exact absurd rfl hu
  | stack number =>
    cases a with
    | setAddress info => exact ⟨rfl, id⟩
    | dropAddress =>
      rw [after_dropAddress]
      exact ⟨Status.notify_gsm_wifi _ _, Status.notify_gsm_active⟩
    | signal event => exact ⟨rfl, id⟩
    | log line => exact ⟨rfl, id⟩
    | _ => exact hm.elim
  | manager =>
    cases a with
    | confirm =>
      rw [after_confirm]
      split
      · exact ⟨Status.notify_gsm_wifi _ _, Status.notify_gsm_active⟩
      · exact ⟨rfl, id⟩
    | takeConnected => exact ⟨rfl, id⟩
    | clearAddress => exact ⟨rfl, id⟩
    | forgetEvent => exact ⟨rfl, id⟩
    | status access =>
      cases access with
      | setFlag t connected =>
        cases t with
        | wifi => exact hm.elim
        | gsm => exact ⟨rfl, id⟩
      | select t => cases t <;> exact hm.elim
      | deselect t =>
        cases t with
        | wifi => exact hm.elim
        | gsm =>
          exact ⟨Status.release_wifi l.status .gsm,
            fun ha => (Status.release_active ha).1⟩
      | announce t connected => exact ⟨rfl, id⟩
      | signal => exact ⟨rfl, id⟩
    | _ => exact hm.elim

-- ============================================================= coherence

/-- A connected link has an address. -/
def Addressed (l : Link) : Prop :=
  l.connected = true → l.address.isSome = true

/-- The places that say whether the link is connected agree, and a link
that is connected has an address. -/
structure Coherent (l : Link) : Prop where
  flag : l.status.isConnected .gsm = l.connected
  address : l.connected = true → l.address.isSome = true
  selector : l.status.active = some .gsm → l.connected = true

/-- No session is published, anywhere. -/
structure Down (l : Link) : Prop where
  coherent : l.Coherent
  disconnected : l.connected = false

/-- The first record is `Coherent`. -/
theorem coherent_fresh : ({} : Link).Coherent :=
  ⟨rfl, by simp, by simp⟩

theorem Coherent.dropAddress (l : Link) :
    (l.after .dropAddress).Coherent := by
  rw [after_dropAddress]
  refine ⟨Status.notify_gsm_gsm _ _, fun hc => ?_, fun ha => ?_⟩
  · cases hc
  · exact absurd ha (Status.notify_down_active _ _)

/-- A record of which less is said than of a `Coherent` one is coherent
too. -/
theorem Coherent.of_leaves {l l' : Link} (h : l.Coherent)
    (hl : Leaves l l') : l'.Coherent := by
  refine ⟨?_, fun hc => ?_, fun ha => ?_⟩
  · rw [hl.connected]
    exact hl.flag.trans h.flag
  · rw [hl.connected] at hc
    exact hl.address (h.address hc)
  · rw [hl.connected]
    exact h.selector (hl.selector ha)

theorem steady_disconnected :
    Steady Task.manager.others fun l => l.connected = false := by
  intro l a ha h
  rcases after_others_manager (l := l) ha with hd | hl
  · rw [hd, after_dropAddress]
  · exact hl.connected.trans h

/-- No access of another task breaks a record that is `Coherent`. -/
theorem steady_coherent : Steady Task.manager.others Coherent := by
  intro l a ha h
  rcases after_others_manager (l := l) ha with hd | hl
  · rw [hd]
    exact .dropAddress l
  · exact h.of_leaves hl

/-- A confirmation leaves the record `Coherent`, since it is only given
where there is an address. -/
theorem Coherent.confirm {l : Link} (h : l.Coherent) :
    (l.after .confirm).Coherent := by
  rw [after_confirm]
  split
  next hc =>
    refine ⟨Status.notify_gsm_gsm _ _, fun _ => ?_, fun _ => rfl⟩
    simp only [confirmable, Bool.and_eq_true] at hc
    exact hc.2
  next => exact ⟨h.flag, h.address, h.selector⟩

-- ================================================================= turns

/-- What holds whenever a task is about to make an access. -/
def Task.minds : Task → Link → Prop
  | manager => Addressed
  | _ => fun _ => True

/-- What holds whenever a task is in no call. -/
def Task.leaves : Task → Link → Prop
  | manager => Coherent
  | wifi => fun l => l.status.active = some .wifi → l.status.wifi = true
  | stack _ => fun _ => True

/-- A task makes its own accesses, with those of the others in
between. -/
def turns (t : Task) : Contract Accesses Link where
  allows a l := t.makes a ∧ t.minds l
  moves := among t.others

/-- What a task `minds`, no other ends. -/
theorem steady_minds (t : Task) : Steady t.others t.minds := by
  cases t with
  | wifi => exact steady_true _
  | stack number => exact steady_true _
  | manager =>
    intro l a ha h
    rcases after_others_manager (l := l) ha with hd | hl
    · rw [hd]
      exact (Coherent.dropAddress l).address
    · intro hc
      rw [hl.connected] at hc
      exact hl.address (h hc)

/-- What a task leaves behind, no other ends. -/
theorem steady_leaves (t : Task) : Steady t.others t.leaves := by
  cases t with
  | manager => exact steady_coherent
  | stack number => exact steady_true _
  | wifi =>
    intro l a ha h hactive
    obtain ⟨hflag, hselector⟩ := after_others_wifi (l := l) ha
    rw [hflag]
    exact h (hselector hactive)

/-- One access of a task, from one `Steady` property to another. -/
theorem meets_turn (t : Task) {P P' : Link → Prop} (a : Access)
    (ha : t.makes a) (hP : Steady t.others P)
    (hminds : ∀ l, P l → t.minds l)
    (hstep : ∀ l, P l → P' (l.after a)) {l : Link} (h : P l) :
    (access a).Meets (turns t) l fun _ l' => P' l' := by
  refine Proc.meets_ask.2 ⟨⟨ha, hminds l h⟩, ?_⟩
  rintro r l' ⟨before, hbefore, hr⟩
  have h' := hstep _ (hP.afterAll hbefore h)
  unfold after at h'
  rw [hr] at h'
  exact h'

/-- Accesses in a row that all keep a `Steady` property. -/
theorem meets_publishing {t : Task} {P : Link → Prop}
    (hP : Steady t.others P) (hminds : ∀ l, P l → t.minds l)
    {accesses : List Status.Access}
    (h : ∀ a ∈ accesses, t.makes (.status a)
      ∧ ∀ l, P l → P (l.after (.status a)))
    {l : Link} (hl : P l) :
    (publishing accesses).Meets (turns t) l fun _ => P := by
  induction accesses generalizing l with
  | nil => exact hl
  | cons a rest ih =>
    obtain ⟨⟨hmakes, hstep⟩, hrest⟩ := List.forall_mem_cons.1 h
    refine Proc.meets_bind.2 ((meets_turn t (.status a) hmakes hP
      hminds hstep hl).mono fun _ l₁ h₁ => ?_)
    exact ih hrest h₁

-- ============================================================== closing

/-- A stage of giving the session up: it is no longer connected, and what
is still published about it is bounded by these two. -/
structure Closing (flag selector : Prop) (l : Link) : Prop where
  disconnected : l.connected = false
  flag : l.status.gsm = true → flag
  selector : l.status.active = some .gsm → selector

/-- While a session is given up, no other task undoes a stage of it. -/
theorem steady_closing (f s : Prop) :
    Steady Task.manager.others (Closing f s) := by
  intro l a ha h
  have hd := steady_disconnected l a ha h.disconnected
  rcases after_others_manager (l := l) ha with hdrop | hl
  · rw [hdrop]
    have hc := Coherent.dropAddress l
    refine ⟨rfl, fun hf => ?_, fun hs => ?_⟩
    · cases hc.flag.symm.trans hf
    · cases hc.selector hs
  · refine ⟨hd, fun hf => h.flag ?_, fun hs => h.selector ?_⟩
    · exact hl.flag.symm.trans hf
    · exact hl.selector hs

theorem Closing.addressed {f s : Prop} {l : Link} (h : l.Closing f s) :
    l.Addressed := by
  intro hc
  rw [h.disconnected] at hc
  cases hc

/-- Where all that was published is taken back, the link is `Down`. -/
theorem Closing.down {l : Link} (h : l.Closing False False) : l.Down := by
  refine ⟨⟨?_, h.addressed, fun ha => (h.selector ha).elim⟩, h.1⟩
  rw [h.disconnected]
  exact Bool.eq_false_iff.2 h.flag

/-- The flag is taken back. -/
theorem Closing.setFlag {f s : Prop} {l : Link} (h : l.Closing f s) :
    (l.after (.status (.setFlag .gsm false))).Closing False s := by
  refine ⟨h.disconnected, fun hf => ?_, h.selector⟩
  cases hf

/-- The selection is taken back. -/
theorem Closing.deselect {f s : Prop} {l : Link} (h : l.Closing f s) :
    (l.after (.status (.deselect .gsm))).Closing f False := by
  refine ⟨h.disconnected, fun hf => h.flag ?_, fun ha => ?_⟩
  · exact (Status.release_gsm l.status .gsm).symm.trans hf
  · exact (Status.release_active ha).2 rfl

/-- One access while the session is given up. -/
theorem Closing.turn {f s f' s' : Prop} (a : Access)
    (ha : Task.manager.makes a)
    (hstep : ∀ l, Closing f s l → Closing f' s' (l.after a)) {l : Link}
    (h : l.Closing f s) :
    (access a).Meets (turns .manager) l fun _ l' => l'.Closing f' s' :=
  meets_turn .manager a ha (steady_closing f s) (fun _ h => h.addressed)
    hstep h

/-- The first access of giving a session up: it says whether there was one,
and so bounds what is published. -/
theorem taking_meets_turns {l : Link} (h : l.Coherent) :
    (access .takeConnected).Meets (turns .manager) l fun was l' =>
      l'.Closing (was = true) (was = true) := by
  refine Proc.meets_ask.2 ⟨⟨trivial, h.address⟩, ?_⟩
  rintro was l' ⟨before, hbefore, hr⟩
  have h' := steady_coherent.afterAll hbefore h
  obtain ⟨rfl, rfl⟩ := Prod.mk.inj hr
  exact ⟨rfl, fun hf => h'.flag.symm.trans hf, h'.selector⟩

/-- Publishing the loss settles flag and selector, one access each. -/
theorem publishing_meets_turns {f s : Prop} {l : Link}
    (h : l.Closing f s) :
    (publishing (Status.notifyAccesses false .gsm)).Meets (turns .manager) l
      fun _ l' => l'.Closing False False := by
  refine Proc.meets_bind.2 ((Closing.turn (.status (.setFlag .gsm false))
    trivial (fun _ => Closing.setFlag) h).mono fun _ l₁ h₁ => ?_)
  refine Proc.meets_bind.2 ((Closing.turn (.status (.deselect .gsm))
    trivial (fun _ => Closing.deselect) h₁).mono fun _ l₂ h₂ => ?_)
  -- neither the announcement nor the signal touches flag or selector
  refine meets_publishing (steady_closing False False)
    (fun _ h => h.addressed) (fun a ha => ?_) h₂
  simp only [List.mem_cons, List.not_mem_nil, or_false] at ha
  rcases ha with rfl | rfl
  · exact ⟨trivial, fun _ h => h⟩
  · exact ⟨trivial, fun _ h => ⟨h.disconnected, h.flag, h.selector⟩⟩

/-- However the accesses of others fall between its own, giving the
session up leaves nothing published. -/
theorem closing_meets_turns {l : Link} (h : l.Coherent) :
    closing.Meets (turns .manager) l fun _ l' => l'.Down := by
  refine Proc.meets_bind.2 ((taking_meets_turns h).mono
    fun was l₁ h₁ => ?_)
  have cleared (l : Link) (h : l.Closing (was = true) (was = true)) :
      (l.after .clearAddress).Closing (was = true) (was = true) :=
    ⟨h.disconnected, h.flag, h.selector⟩
  refine Proc.meets_bind.2 ((Closing.turn .clearAddress trivial cleared
    h₁).mono fun _ l₂ h₂ => ?_)
  cases was with
  | true => exact (publishing_meets_turns h₂).mono fun _ _ h => h.down
  | false =>
    refine Proc.meets_bind.2 ((Closing.turn (.status (.deselect .gsm))
      trivial (fun _ => Closing.deselect) h₂).mono fun _ l₃ h₃ => ?_)
    refine Closing.down ⟨h₃.disconnected, fun hf => ?_, h₃.selector⟩
    cases h₃.flag hf

end Uplink.Gsm.Link
