/-
What is known of a session, and by whom.

The addressing of a session is kept twice: the interface keeps that of its
stack, and the record of the link what it was told. That the link is
connected is a third thing, which the record keeps besides. Different
tasks write them, and none of them in one access.

A tally is all of it at once, with what the hand-over goes by. What a call
makes of it is a function of the call and its answer (`Tally.after`,
`Stand.tally_answers`). `Tally.Joined` is what holds whenever the tasks
wait: the two addresses are one, there is one only while a session runs,
and the link is connected only while there is one. The other way round it
takes a confirmation. Whether the session that was started last had one is
remembered with the tally: it is a matter of the argument, and nobody
keeps it.
-/
import Uplink.Proofs.Board.Calm
import Uplink.Proofs.Gsm.Reports

namespace Uplink.Board

open Net (IpInfo)

@[ext]
structure Tally where
  /-- what the PPP task was told last -/
  control : Option Control
  running : Bool
  /-- the record hears what PPP reports -/
  listening : Bool
  /-- the addressing that the interface knows -/
  peer : Option IpInfo
  /-- the addressing that the record knows -/
  address : Option IpInfo
  connected : Bool
  /-- the session that was started last was confirmed -/
  confirmed : Bool

namespace Tally

/-- The tally after a call. -/
def after (t : Tally) : (c : Call) → c.Answer → Tally
  | .shared (.direct .start), _ =>
    { t with control := some .start, confirmed := false }
  | .shared (.direct .stop), _ => { t with control := some .stop }
  | .shared .takeControl, _ => { t with control := none }
  | .shared (.listen on), _ => { t with listening := on }
  | .shared (.setPeer info), _ => { t with peer := some info }
  | .shared .takePeer, _ => { t with peer := none }
  | .shared (.record .markConnected), true =>
    { t with connected := true, confirmed := true }
  | .shared (.record .markDisconnected), _ =>
    { t with connected := false, address := none }
  | .shared (.ipAcquired info), _ => { t with address := some info }
  | .shared .ipLost, _ => { t with connected := false, address := none }
  | .session (.start _), _ => { t with running := true }
  | .session .ended, _ => { t with running := false }
  | .session .stopped, _ => { t with running := false }
  | _, _ => t

/-- What an answer says about it. -/
def tells (t : Tally) : (c : Call) → c.Answer → Prop
  | .shared .takeControl, told => told = t.control
  | .shared .isListening, on => on = t.listening
  | .shared .takePeer, peer => peer = t.peer
  | .shared (.record .markConnected), confirmed =>
    confirmed = true → t.address.isSome = true
  | _, _ => True

/-- Aloof calls change nothing of what is known of a session. -/
theorem after_of_aloof {c : Call} (hc : c.aloof) (t : Tally)
    (r : c.Answer) : t.after c r = t := by
  cases c with
  | shared a =>
    obtain ⟨hs, hb⟩ := hc
    cases a with
    | direct => cases hs
    | takeControl => cases hs
    | listen => cases hb
    | setPeer => cases hb
    | takePeer => cases hb
    | ipAcquired => cases hb
    | ipLost => cases hb
    | record call =>
      cases call with
      | markConnected => cases hb
      | markDisconnected => cases hb
      | _ => rfl
    | _ => rfl
  | session call =>
    cases call with
    | start => exact hc.elim
    | ended => exact hc.elim
    | stopped => exact hc.elim
    | _ => rfl
  | _ => rfl

/-- What holds whenever the tasks wait. -/
structure Joined (t : Tally) : Prop where
  agreed : t.address = t.peer
  running : t.peer.isSome = true → t.running = true
  peer : t.connected = true → t.peer.isSome = true
  /-- no session is left unheard -/
  heard : t.running = true ∨ t.control = some .start → t.listening = true
  /-- a confirmed session loses nothing before it ends, and no other is
  about to start -/
  confirmed : t.confirmed = true → t.control ≠ some .start
    ∧ (t.running = true → t.connected = true)

/-- Whatever the PPP task is told but to start, and whether it has heard
it, makes no difference. -/
theorem Joined.told {t : Tally} (h : t.Joined) {control : Option Control}
    (hc : control ≠ some .start) :
    { t with control := control : Tally }.Joined :=
  ⟨h.agreed, h.running, h.peer,
    fun hr => h.heard (.inl (hr.resolve_right hc)),
    fun hf => ⟨hc, (h.confirmed hf).2⟩⟩

/-- The contract of a task for which only the tally matters. Something of
it is its own, and has to fit wherever the task waits. -/
def sharing {κ : Type} (held : Tally → κ) (fits : κ → Prop)
    (calls : Call → Prop) : Contract Board Tally where
  allows c t :=
    match c with
    | .await _ => t.Joined ∧ fits (held t)
    | c => calls c
  moves c t r t' :=
    match c, r with
    | .await _, _ => t'.Joined ∧ held t' = held t
    | c, r => t.tells c r ∧ t' = t.after c r

section Sharing

variable {κ : Type} {held : Tally → κ} {fits : κ → Prop}
variable {calls : Call → Prop}

/-- A call that does not wait moves the `Tally` as it tells. -/
theorem moves_sharing {c : Call} (hw : c.waits = false) {t t' : Tally}
    {r : c.Answer} (h : (sharing held fits calls).moves c t r t') :
    t.tells c r ∧ t' = t.after c r := by
  cases c with
  | await => cases hw
  | _ => exact h

/-- Aloof calls keep it `Joined`, and leave the task its own. -/
theorem preserves_aloof (hcalls : ∀ c, c.aloof → c.waits = false → calls c)
    {k : κ} (hk : fits k) :
    (sharing held fits calls).Preserves Call.aloof
      fun t => t.Joined ∧ held t = k := by
  rintro c t hc ⟨hj, rfl⟩
  by_cases hw : c.waits = false
  · have ha := hcalls c hc hw
    refine ⟨?_, fun r t' hm => ?_⟩
    · cases c with
      | await => cases hw
      | _ => exact ha
    · rw [(moves_sharing hw hm).2, after_of_aloof hc]
      exact ⟨hj, rfl⟩
  · cases c with
    | await waits => exact ⟨⟨hj, hk⟩, fun place t' hm => hm⟩
    | _ => exact absurd rfl hw

/-- A call that is not a wait moves the `Tally` as it says. -/
theorem meets_told {c : Call} {t : Tally} {Q : c.Answer → Tally → Prop}
    (hw : c.waits = false) (hc : calls c)
    (hQ : ∀ r, t.tells c r → Q r (t.after c r)) :
    (ask c).Meets (sharing held fits calls) t Q := by
  refine Proc.meets_ask.2 ⟨?_, fun r t' hm => ?_⟩
  · cases c with
    | await => cases hw
    | _ => exact hc
  · obtain ⟨hr, rfl⟩ := moves_sharing hw hm
    exact hQ r hr

end Sharing

end Tally

-- =============================================================== the floor

/-- What an argument about the session sees of the floor. -/
structure Stand where
  view : View
  /-- the session that was started last was confirmed -/
  confirmed : Bool

namespace Stand

def tally (x : Stand) : Tally where
  control := x.view.floor.shared.control
  running := x.view.floor.running
  listening := x.view.floor.shared.listening
  peer := x.view.floor.shared.peer
  address := x.view.floor.shared.link.address
  connected := x.view.floor.shared.link.connected
  confirmed := x.confirmed

def aspect : Aspect Stand where
  floor x := x.view.floor
  sound x := x.view.Sound ∧ x.tally.Joined
  follows c r x x' := x'.view.phase = x.view.phase.after c
    ∧ x'.confirmed = (x.tally.after c r).confirmed
  exists_follows c r x f :=
    ⟨⟨⟨x.view.phase.after c, f⟩, (x.tally.after c r).confirmed⟩,
      rfl, rfl, rfl⟩

variable {x x' : Stand}

/-- A session that is given up has no address. -/
theorem markDisconnected_value (l : Gsm.Link) :
    l.markDisconnected.value.address = none
      ∧ l.markDisconnected.value.connected = false := by
  obtain ⟨status, connected, address, event⟩ := l
  cases connected <;> exact ⟨rfl, rfl⟩

/-- A session that is confirmed has one, and keeps it. -/
theorem markConnected_value (l : Gsm.Link) :
    (l.markConnected.value.1 = true → l.address.isSome = true)
      ∧ l.markConnected.value.2.address = l.address
      ∧ l.markConnected.value.2.connected
        = (l.markConnected.value.1 || l.connected) := by
  rw [Gsm.Link.markConnected_value, Gsm.Link.after_confirm]
  cases hc : l.confirmable with
  | false => exact ⟨nofun, rfl, rfl⟩
  | true => exact ⟨fun _ => (Bool.and_eq_true_iff.1 hc).2, rfl, rfl⟩

/-- A report of the status of the link changes neither its address nor
whether it is connected. -/
theorem onLinkStatus_value (l : Gsm.Link) (code : Int) :
    (l.onLinkStatus code).value.address = l.address
      ∧ (l.onLinkStatus code).value.connected = l.connected := by
  have h := l.hear_linkStatus code
  rw [show (l.onLinkStatus code).value = _ from h]
  split <;> exact ⟨rfl, rfl⟩

/-- The `tally` goes with the calls. -/
theorem tally_answers {c : Call} {r : c.Answer}
    (hf : aspect.follows c r x x')
    (hr : x.view.floor.answers c r x'.view.floor) :
    x.tally.tells c r ∧ x'.tally = x.tally.after c r := by
  obtain ⟨-, hf⟩ := hf
  cases c with
  | await waits => exact hr.elim
  | shared a =>
    obtain ⟨ha, hrun⟩ := hr
    have hv : (x.view.floor.shared.apply a).value.1 = r := by rw [ha]
    have hs : x'.view.floor.shared
        = (x.view.floor.shared.apply a).value.2 := by rw [ha]
    unfold tally
    rw [hs, hrun, hf]
    -- the accesses that change the tally, or are answered from it
    cases a with
    | direct control => cases control <;> exact ⟨trivial, rfl⟩
    | takeControl => exact ⟨hv.symm, rfl⟩
    | isListening => exact ⟨hv.symm, rfl⟩
    | takePeer => exact ⟨hv.symm, rfl⟩
    | record call =>
      cases call with
      | markConnected =>
        obtain ⟨htold, haddress, hconnected⟩ :=
          markConnected_value x.view.floor.shared.link
        have hv : x.view.floor.shared.link.markConnected.value.1 = r := hv
        rw [hv] at htold hconnected
        refine ⟨htold, ?_⟩
        cases r with
        | false => exact Tally.ext rfl rfl rfl rfl haddress hconnected rfl
        | true => exact Tally.ext rfl rfl rfl rfl haddress hconnected rfl
      | markDisconnected =>
        obtain ⟨haddress, hconnected⟩ :=
          markDisconnected_value x.view.floor.shared.link
        exact ⟨trivial, Tally.ext rfl rfl rfl rfl haddress hconnected rfl⟩
      | _ => exact ⟨trivial, rfl⟩
    | linkStatus code =>
      obtain ⟨haddress, hconnected⟩ :=
        onLinkStatus_value x.view.floor.shared.link code
      exact ⟨trivial, Tally.ext rfl rfl rfl rfl haddress hconnected rfl⟩
    | _ => exact ⟨trivial, rfl⟩
  -- the session moves no more of the floor than whether it runs
  | session call =>
    have hx : x'.tally = { x.tally.after (.session call) r with
        confirmed := x'.confirmed } := by
      unfold tally
      cases call <;> rw [hr] <;> rfl
    rw [hx, hf]
    exact ⟨by cases call <;> trivial, rfl⟩
  | _ =>
    unfold tally
    rw [hr, hf]
    exact ⟨trivial, rfl⟩

end Stand

end Uplink.Board
