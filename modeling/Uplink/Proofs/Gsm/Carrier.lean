/-
Whether the modem listens to commands, and what the manager takes for it.

The signal can be read in command mode only. The manager does not ask the
channel for its mode: it takes a connected link to mean data mode, and any
other link to mean command mode. The flag of the record and the mode of the
channel are moved by different parties, so they may fall apart.

# The carrier

`Carrier` is read off a history. A dial puts the carrier on. An escape that
is acknowledged takes it off, and so does a new channel. But when the
session loses its address, or an escape is refused, the modem is left in
data mode with no session to use it: the carrier is stranded, until the
modem is brought back or a session is confirmed over the same dial.

Between operations, the channel is in command mode exactly if the carrier
is off (`Traced.mode`), and the link is connected exactly if it is on
(`Chronicled.carried`). What is left is the stranded carrier, over which
the manager sends commands that the modem takes for data.
-/
import Uplink.Proofs.Gsm.Chronicle
import Uplink.Proofs.Gsm.Dial

namespace Uplink.Gsm

open Modem (Mode Wire escapeSequence)
open Proc (Either Ensures Runs)
open Timing

-- ============================================================ the carrier

/-- What the line is held for. -/
inductive Carrier where
  /-- for commands -/
  | off
  /-- for the data of a session -/
  | on
  /-- for data, with no session -/
  | stranded
deriving DecidableEq, Repr

namespace Carrier

/-- The session is over, whatever the modem is told. -/
def lose : Carrier → Carrier
  | off => off
  | on => stranded
  | stranded => stranded

/-- The modem was told to escape, and acknowledged it or not. -/
def escape (k : Carrier) (acknowledged : Bool) : Carrier :=
  if acknowledged then off else k.lose

/-- Where commands were listened to, a dial is what puts data through. -/
def dial (k : Carrier) (connected : Bool) : Carrier :=
  if connected = true ∧ k = off then on else k

/-- A session was confirmed, or not. -/
def confirm (k : Carrier) (confirmed : Bool) : Carrier :=
  if confirmed = true ∧ k = stranded then on else k

/-- The carrier after one more thing happened. -/
def after (k : Carrier) : Happening → Carrier
  | .heard .ipLost => k.lose
  | .heard _ => k
  | .asked ⟨.modem (.exchange command ..), r⟩ =>
    if command = escapeSequence then k.escape r.isOk else k
  | .asked ⟨.modem (.switch .command), r⟩ => k.escape r.isOk
  | .asked ⟨.modem (.switch .data), r⟩ => k.dial r.isOk
  | .asked ⟨.build _, r⟩ => if r.isOk = true then off else k
  | .asked ⟨.record .markConnected, r⟩ => k.confirm r
  | .asked _ => k

/-- No `Carrier` is on after a session was lost. -/
theorem lose_ne_on (k : Carrier) : k.lose ≠ on := by
  cases k <;> exact nofun

theorem lose_eq_off_iff {k : Carrier} : k.lose = off ↔ k = off := by
  cases k <;> decide

/-- After an escape the `Carrier` is off if that was acknowledged, or if it
was off before. -/
theorem escape_eq_off_iff {k : Carrier} {acknowledged : Bool} :
    k.escape acknowledged = off ↔ acknowledged = true ∨ k = off := by
  cases acknowledged <;> cases k <;> decide

/-- A dial leaves the `Carrier` off only where it is off and the modem does
not connect. -/
theorem dial_eq_off_iff {k : Carrier} {connected : Bool} :
    k.dial connected = off ↔ connected = false ∧ k = off := by
  cases connected <;> cases k <;> decide

/-- Whether a confirmation is given has no say in whether the `Carrier` is
off. -/
theorem confirm_eq_off_iff {k : Carrier} {confirmed : Bool} :
    k.confirm confirmed = off ↔ k = off := by
  cases confirmed <;> cases k <;> decide

theorem escape_ne_on (k : Carrier) (acknowledged : Bool) :
    k.escape acknowledged ≠ on := by
  cases acknowledged with
  | true => exact nofun
  | false => exact k.lose_ne_on

end Carrier

/-- The call has nothing to do with the carrier, nor does it end a
session. -/
def GsmCall.bystands : GsmCall → Prop
  | modem (.exchange command ..) => command ≠ escapeSequence
  | modem (.switch _) => False
  | build _ => False
  | record .markConnected => False
  | record .markDisconnected => False
  | _ => True

/-- A call that `bystands` leaves the `Carrier` as it is. -/
theorem Carrier.after_bystands {e : Event Surroundings}
    (h : e.call.bystands) (k : Carrier) : k.after (.asked e) = k := by
  obtain ⟨call, r⟩ := e
  cases call with
  | modem call =>
    cases call with
    | exchange command success failure timeout => exact if_neg h
    | switch target => exact h.elim
    | quality | pause ms | log line => rfl
  | build uart => exact h.elim
  | record call =>
    cases call with
    | markConnected | markDisconnected => exact h.elim
    | isConnected | resetEvents => rfl
  | drive pin high | netif call | awaitEvent timeout
  | resolve host timeout => rfl

namespace Scene

def carrier (s : Scene) : Carrier :=
  s.past.foldl Carrier.after .off

/-- A report moves the `carrier` as it says. -/
theorem carrier_hear (s : Scene) (report : Report) :
    (s.hear report).carrier = s.carrier.after (.heard report) := by
  unfold carrier hear
  rw [List.foldl_append]
  rfl

/-- A call that is noted down moves the `carrier` as it says. -/
theorem carrier_note (s : Scene) (e : Event Surroundings) :
    (s.note e).carrier = s.carrier.after (.asked e) := by
  unfold carrier note
  rw [List.foldl_append]
  rfl

/-- No report puts the `carrier` on, or takes it off. -/
theorem carrier_hear_cases (s : Scene) (report : Report) :
    report = .ipLost ∧ (s.hear report).carrier = s.carrier.lose
      ∨ report ≠ .ipLost ∧ (s.hear report).carrier = s.carrier := by
  rw [carrier_hear]
  cases report with
  | ipLost => exact .inl ⟨rfl, rfl⟩
  | ipAcquired info | linkStatus code | wifi connected | releaseWifi =>
    exact .inr ⟨nofun, rfl⟩

/-- No report puts the `carrier` off, or on where it was off. -/
theorem off_hear (s : Scene) (report : Report) :
    (s.hear report).carrier = .off ↔ s.carrier = .off := by
  rcases s.carrier_hear_cases report with ⟨-, h⟩ | ⟨-, h⟩
  · rw [h]
    exact Carrier.lose_eq_off_iff
  · rw [h]

/-- Nor does any number of them. -/
theorem off_hearAll (s : Scene) (reports : List Report) :
    (s.hearAll reports).carrier = .off ↔ s.carrier = .off := by
  induction reports generalizing s with
  | nil => rfl
  | cons report rest ih => exact (ih (s.hear report)).trans (s.off_hear _)

end Scene

-- ============================================================== the mode

/-- Surroundings with everything written down, and a command channel that
runs over a serial line. -/
def Surroundings.traced : Behaviour Surroundings (Scene × Wired) :=
  fun call x r x' =>
    chronicled call x.1 r x'.1 ∧ wired call x.2 r x'.2

/-- A manager, a scene and a channel, with no operation under way, as some
history of operations, reports and answers of the line leads to them. -/
inductive Traced (settings : Config.Settings) :
    Manager → Scene → Wired → Prop
  | made : Traced settings (Manager.new settings).value {} ⟨.command, []⟩
  | heard {m : Manager} {s : Scene} {w : Wired} (report : Report) :
      Traced settings m s w → Traced settings m (s.hear report) w
  | operated {m m' : Manager} {s s' : Scene} {w w' : Wired}
      (o : Operation) {t : List (Event Surroundings)} {r : o.Answer} :
      Traced settings m s w →
      Runs Surroundings.traced (o.act.run m) (s, w) t (r, m') (s', w') →
      Traced settings m' s' w'

/-- The channel interprets commands exactly while the carrier is off. -/
def Follows (x : Scene × Wired) : Prop :=
  x.2.mode = .command ↔ x.1.carrier = .off

/-- A call moves the `carrier` as the reports before it and the call do. -/
theorem Scene.carrier_call {call : GsmCall} {s s' : Scene}
    {r : call.Answer} (h : Surroundings.chronicled call s r s') :
    ∃ reports, s'.carrier
      = (s.hearAll reports).carrier.after (.asked ⟨call, r⟩) := by
  obtain ⟨reports, hp⟩ := Surroundings.chronicled_past h
  refine ⟨reports, ?_⟩
  unfold carrier
  rw [hp, hearAll_past, List.foldl_append]
  rfl

/-- A call of the channel moves the mode as it moves the `Carrier`. -/
theorem follows_modem {call : Modem.SessionCall} {r : call.Answer}
    {mode mode' : Mode} {w : Wire} {k : Carrier}
    (h : Runs (Behaviour.any Modem.Serial)
      ((Modem.Channel.answer call).run mode) () w (r, mode') ())
    (hk : mode = .command ↔ k = .off) :
    mode' = .command
      ↔ k.after (.asked ⟨.modem call, r⟩) = .off := by
  have unmoved (hm : mode' = mode)
      (hb : GsmCall.bystands (.modem call)) :
      mode' = .command
        ↔ k.after (.asked ⟨.modem call, r⟩) = .off := by
    rw [hm, Carrier.after_bystands hb]
    exact hk
  -- only the escape, the dial and a new channel change what is remembered
  cases call with
  | exchange command success failure timeout =>
    have hm : mode' = if command = escapeSequence ∧ r.isOk = true
        then .command else mode :=
      ((Modem.Channel.shows_exchange command success failure timeout
        mode).of_runs h).remembered
    -- of the commands only the escape moves the carrier
    by_cases hc : command = escapeSequence
    · show _ ↔ (if command = escapeSequence then k.escape r.isOk else k)
        = .off
      rw [if_pos hc, Carrier.escape_eq_off_iff, hm, ← hk]
      cases hr : r.isOk <;> simp [hc]
    · rw [if_neg fun h => hc h.1] at hm
      exact unmoved hm hc
  | switch target =>
    cases target with
    | command =>
      have hm : mode' = if r.isOk = true then .command else mode :=
        (Modem.Channel.shows_switch_command_remembered mode).of_runs h
      show _ ↔ k.escape r.isOk = .off
      rw [Carrier.escape_eq_off_iff, hm, ← hk]
      cases hr : r.isOk <;> simp
    | data =>
      have hm : mode' = if r.isOk = true then .data else mode :=
        ((Modem.Channel.shows_switch_data mode).of_runs h).2.2.2
      show _ ↔ k.dial r.isOk = .off
      rw [Carrier.dial_eq_off_iff, hm, ← hk]
      cases hr : r.isOk <;> simp
  | quality =>
    exact unmoved ((Modem.Channel.shows_quality mode).of_runs h).2 trivial
  | pause ms =>
    have hp : Modem.Channel.plain (.pause ms) := trivial
    exact unmoved ((Modem.Channel.shows_plain hp mode).of_runs h).2 trivial
  | log line =>
    exact unmoved ((Modem.Channel.shows_log line mode).of_runs h).2 trivial

/-- The mode that is remembered after a call goes by the carrier. -/
theorem follows_call {call : GsmCall} {x x' : Scene × Wired}
    {r : call.Answer} (h : Surroundings.traced call x r x')
    (hx : Follows x) : Follows x' := by
  obtain ⟨hs, hw⟩ := h
  obtain ⟨reports, hs'⟩ := Scene.carrier_call hs
  unfold Follows at hx ⊢
  rw [hs']
  rw [← x.1.off_hearAll reports] at hx
  generalize (x.1.hearAll reports).carrier = k at hx
  -- most calls move neither the mode nor the carrier
  have unmoved (hb : call.bystands) (hm : x'.2 = x.2) :
      x'.2.mode = .command ↔ k.after (.asked ⟨call, r⟩) = .off := by
    rw [Carrier.after_bystands hb, hm]
    exact hx
  cases call with
  | modem call =>
    obtain ⟨w, hw, -⟩ := hw
    exact follows_modem hw hx
  | build uart =>
    -- a new channel starts in command mode, and off
    cases r with
    | ok =>
      have hw : x'.2 = { x.2 with mode := .command } := hw
      rw [hw]
      exact iff_of_true rfl rfl
    | error e =>
      have hw : x'.2 = x.2 := hw
      rw [hw]
      exact hx
  | record call =>
    have hw : x'.2 = x.2 := hw
    cases call with
    | markConnected =>
      show _ ↔ k.confirm r = .off
      rw [hw, Carrier.confirm_eq_off_iff]
      exact hx
    | markDisconnected =>
      rw [hw]
      exact hx
    | isConnected => exact unmoved trivial hw
    | resetEvents => exact unmoved trivial hw
  | drive pin high => exact unmoved trivial hw
  | netif call => exact unmoved trivial hw
  | awaitEvent timeout => exact unmoved trivial hw
  | resolve host timeout => exact unmoved trivial hw

/-- Between operations too, whatever they were. -/
theorem Traced.mode {settings : Config.Settings} {m : Manager} {s : Scene}
    {w : Wired} (h : Traced settings m s w) :
    w.mode = .command ↔ s.carrier = .off := by
  induction h with
  | made => exact iff_of_true rfl rfl
  | heard report _ ih => exact ih.trans (Scene.off_hear _ report).symm
  | @operated m m' s s' w w' o t r _ hr ih =>
    have keeps : Surroundings.traced.contract.Preserves
        (fun _ => True) Follows :=
      fun call x _ hx => ⟨trivial, fun r x' hr => follows_call hr hx⟩
    have asked : (o.act.run m).Asks fun _ : GsmCall => True :=
      Proc.asks_of_forall (fun _ => trivial) _
    have hx : Follows (s, w) := ih
    exact (asked.meets keeps hx).of_runs hr

/-- Forgetting the line leaves a `chronicled` history. -/
theorem Traced.chronicled {settings : Config.Settings} {m : Manager}
    {s : Scene} {w : Wired} (h : Traced settings m s w) :
    Chronicled settings m s := by
  induction h with
  | made => exact .made
  | heard report _ ih => exact .heard report ih
  | operated o _ hr ih =>
    exact .operated o ih (hr.map Prod.fst fun _ _ _ _ h => h.1)

-- ============================================================== the flag

namespace Scene

/-- The link is connected exactly while the carrier is on. -/
def Carried (s : Scene) : Prop :=
  s.link.connected = true ↔ s.carrier = .on

/-- There is no session, and no carrier for one. -/
structure Vacant (s : Scene) : Prop where
  disconnected : s.link.connected = false
  carrier : s.carrier ≠ .on

/-- The modem was dialled for a session that is not confirmed yet. -/
structure Pending (s : Scene) : Prop where
  disconnected : s.link.connected = false
  carrier : s.carrier ≠ .off

variable {s : Scene}

theorem Vacant.carried (h : s.Vacant) : s.Carried :=
  iff_of_false (Bool.eq_false_iff.1 h.disconnected) h.carrier

/-- Where the carrier goes with the link, and that is not connected, the
scene is `Vacant`. -/
theorem Carried.vacant (h : s.Carried) (hd : s.link.connected = false) :
    s.Vacant := by
  refine ⟨hd, fun hc => ?_⟩
  rw [h.2 hc] at hd
  cases hd

/-- Only the loss of the address disconnects the link. -/
theorem connected_hear {report : Report} (h : report ≠ .ipLost) :
    (s.hear report).link.connected = s.link.connected := by
  cases report with
  | ipLost => exact absurd rfl h
  | linkStatus code =>
    show (s.link.hear (.linkStatus code)).connected = _
    rw [Link.hear_linkStatus]
    split <;> rfl
  | ipAcquired info | wifi connected | releaseWifi => rfl

/-- A report moves carrier and link together. -/
theorem lasts_carried : Lasts Carried := by
  intro s report h
  unfold Carried at h ⊢
  rcases s.carrier_hear_cases report with ⟨rfl, hc⟩ | ⟨hne, hc⟩
  · rw [hc]
    exact iff_of_false nofun (Carrier.lose_ne_on _)
  · rw [hc, connected_hear hne]
    exact h

/-- No report connects the link. -/
theorem lasts_disconnected : Lasts fun s => s.link.connected = false :=
  fun s report h => Link.stable_disconnected.hear s.link report h

/-- No report puts the `carrier` on. -/
theorem lasts_unheld : Lasts fun s => s.carrier ≠ .on := by
  intro s report h
  show (s.hear report).carrier ≠ .on
  rcases s.carrier_hear_cases report with ⟨-, hc⟩ | ⟨-, hc⟩
  · rw [hc]
    exact Carrier.lose_ne_on _
  · rw [hc]
    exact h

/-- No report confirms a session, or puts the carrier off. -/
theorem lasts_pending : Lasts Pending :=
  fun s report h => ⟨lasts_disconnected s report h.disconnected,
    fun hc => h.carrier ((s.off_hear report).1 hc)⟩

end Scene

-- ================================================================= calls

/-- The call puts no carrier on, nor does it end a session. -/
def GsmCall.rests : GsmCall → Prop
  | modem (.switch .data) => False
  | record .markConnected => False
  | record .markDisconnected => False
  | _ => True

theorem GsmCall.rests_of_bystands {call : GsmCall} (h : call.bystands) :
    call.rests := by
  cases call with
  | modem call =>
    cases call with
    | switch target => exact h.elim
    | exchange | quality | pause | log => trivial
  | record call =>
    cases call with
    | markConnected | markDisconnected => exact h.elim
    | isConnected | resetEvents => trivial
  | drive | netif | build | awaitEvent | resolve => trivial

/-- A call that `rests` is `quiet`. -/
theorem GsmCall.quiet_of_rests {call : GsmCall} (h : call.rests) :
    call.quiet = true := by
  cases call with
  | record call =>
    cases call with
    | markConnected | markDisconnected => exact h.elim
    | isConnected | resetEvents => rfl
  | modem | drive | netif | build | awaitEvent | resolve => rfl

/-- A call that `rests` does not put the `Carrier` on. -/
theorem Carrier.after_rests {e : Event Surroundings} (h : e.call.rests)
    {k : Carrier} (hk : k ≠ .on) : k.after (.asked e) ≠ .on := by
  obtain ⟨call, r⟩ := e
  cases call with
  | modem call =>
    cases call with
    | exchange command success failure timeout =>
      show (if command = escapeSequence then k.escape r.isOk else k) ≠ .on
      -- of the commands only the escape sequence moves the carrier
      by_cases hc : command = escapeSequence
      · rw [if_pos hc]
        exact k.escape_ne_on _
      · rw [if_neg hc]
        exact hk
    | switch target =>
      cases target with
      | data => exact h.elim
      | command => exact k.escape_ne_on _
    | quality | pause ms | log line => exact hk
  | build uart =>
    show (if r.isOk = true then off else k) ≠ .on
    cases hr : r.isOk with
    | true => exact nofun
    | false => exact hk
  | record call =>
    cases call with
    | markConnected | markDisconnected => exact h.elim
    | isConnected | resetEvents => exact hk
  | drive pin high | netif call | awaitEvent timeout
  | resolve host timeout => exact hk

theorem GsmCall.leaves_connected (call : GsmCall) (l : Link) :
    (call.leaves l).connected = l.connected := by
  cases call with
  | record call => cases call <;> rfl
  | modem | drive | netif | build | awaitEvent | resolve => rfl

namespace Scene

open Surroundings (chronicled)

theorem preserves_disconnected :
    chronicled.contract.Preserves (fun call => call.quiet = true)
      fun s => s.link.connected = false :=
  lasts_disconnected.preserved (fun _ h => h) fun s e _ h =>
    (e.call.leaves_connected s.link).trans h

/-- Calls that bystand move neither the carrier nor the link. -/
theorem preserves_carried :
    chronicled.contract.Preserves GsmCall.bystands Carried := by
  refine lasts_carried.preserved
    (fun _ h => GsmCall.quiet_of_rests (GsmCall.rests_of_bystands h))
    fun s e hc h => ?_
  unfold Carried at h ⊢
  rw [carrier_note, Carrier.after_bystands hc]
  show (e.call.leaves s.link).connected = true ↔ _
  rw [GsmCall.leaves_connected]
  exact h

theorem preserves_pending :
    chronicled.contract.Preserves GsmCall.bystands Pending := by
  refine lasts_pending.preserved
    (fun _ h => GsmCall.quiet_of_rests (GsmCall.rests_of_bystands h))
    fun s e hc h => ⟨?_, ?_⟩
  · exact (e.call.leaves_connected s.link).trans h.disconnected
  · rw [carrier_note, Carrier.after_bystands hc]
    exact h.carrier

/-- Calls that rest do not put the `carrier` on. -/
theorem preserves_unheld :
    chronicled.contract.Preserves GsmCall.rests fun s => s.carrier ≠ .on := by
  refine lasts_unheld.preserved (fun _ => GsmCall.quiet_of_rests)
    fun s e hc h => ?_
  show (Scene.note _ e).carrier ≠ .on
  rw [carrier_note]
  exact Carrier.after_rests hc h

/-- Calls that rest keep a scene `Vacant`. -/
theorem preserves_vacant :
    chronicled.contract.Preserves GsmCall.rests Vacant := by
  intro call s hc h
  refine ⟨trivial, fun r s' hr => ⟨?_, ?_⟩⟩
  · exact (preserves_disconnected call s (GsmCall.quiet_of_rests hc)
      h.disconnected).2 r s' hr
  · exact (preserves_unheld call s hc h.carrier).2 r s' hr

variable {s s' : Scene}

/-- Whether an escape is acknowledged or not, there is no session on the
line any more. -/
theorem unheld_of_switch {r : Except Modem.ChannelError Unit}
    (h : chronicled (.modem (.switch .command)) s r s') :
    s'.carrier ≠ .on := by
  obtain ⟨reports, hc⟩ := carrier_call h
  rw [hc]
  exact Carrier.escape_ne_on _ _

/-- A dial is `Pending`, or leaves everything as it was. -/
theorem pending_of_switch {r : Except Modem.ChannelError Unit}
    (h : chronicled (.modem (.switch .data)) s r s') (hs : s.Vacant) :
    Either s'.Pending s'.Vacant r := by
  have hd : s'.link.connected = false :=
    (preserves_disconnected (.modem (.switch .data)) s rfl
      hs.disconnected).2 r s' h
  obtain ⟨reports, hc⟩ := carrier_call h
  cases r with
  | ok =>
    refine ⟨hd, ?_⟩
    rw [hc]
    intro hoff
    exact nomatch (Carrier.dial_eq_off_iff.1 hoff).1
  | error e =>
    refine ⟨hd, ?_⟩
    rw [hc]
    have hk := lasts_unheld.hearAll hs.carrier reports
    show Carrier.dial _ false ≠ .on
    unfold Carrier.dial
    rw [if_neg fun h => nomatch h.1]
    exact hk

/-- A session is confirmed over a carrier, or refused. -/
theorem carried_of_confirm {r : Bool}
    (h : chronicled (.record .markConnected) s r s') (hs : s.Pending) :
    s'.link.connected = r ∧ (r = true → s'.Carried) := by
  obtain ⟨s₁, ⟨reports, hr⟩, rfl⟩ := h
  have hp := lasts_pending.hearAll hs reports
  generalize s.hearAll reports = s₀ at hr hp
  obtain ⟨rfl, rfl⟩ := Prod.mk.inj hr
  have hv : (RecordCall.apply s₀.link .markConnected).value
      = (s₀.link.confirmable, s₀.link.after .confirm) :=
    s₀.link.markConnected_value
  have hc : (s₀.link.after .confirm).connected = s₀.link.confirmable := by
    rw [Link.after_confirm]
    cases hc : s₀.link.confirmable with
    | true => rfl
    | false => exact hp.disconnected
  rw [hv]
  refine ⟨hc, fun hconfirmed => ?_⟩
  have hconfirmed : s₀.link.confirmable = true := hconfirmed
  unfold Carried
  rw [carrier_note]
  refine iff_of_true (hc.trans hconfirmed) ?_
  show s₀.carrier.confirm s₀.link.confirmable = .on
  rw [hconfirmed]
  cases hk : s₀.carrier with
  | off => exact absurd hk hp.carrier
  | on => rfl
  | stranded => rfl

/-- A session that is given up is none. -/
theorem vacant_of_close {r : Unit}
    (h : chronicled (.record .markDisconnected) s r s')
    (hs : s.carrier ≠ .on) : s'.Vacant := by
  obtain ⟨reports, hc⟩ := carrier_call h
  refine ⟨?_, ?_⟩
  · obtain ⟨t, hr⟩ := Surroundings.amid_of_chronicled h
    exact (Link.closing_disconnects s.link).of_runs hr
  · rw [hc]
    exact lasts_unheld.hearAll hs reports

end Scene

-- ============================================================ operations

namespace Manager

open Surroundings (chronicled)

variable {m : Manager} {s : Scene}

theorem bystands_of_silent {c : GsmCall} (h : c.silent = true) :
    c.bystands := by
  obtain ⟨call, rfl, ⟨line, rfl⟩ | ⟨ms, rfl⟩⟩ := aside_of_silent h
  · trivial
  · trivial

theorem rests_of_prepares {c : GsmCall} (h : prepares c) : c.rests := by
  rcases prepares_cases h with hs | ⟨command, timeout, -, rfl⟩ | rfl
    | ⟨user, password, rfl⟩ | rfl
  · exact GsmCall.rests_of_bystands (bystands_of_silent hs)
  · trivial
  · trivial
  · trivial
  · trivial

theorem rests_of_initializes {c : GsmCall} (h : initializes c) :
    c.rests := by
  rcases h with (hs | ⟨pin, high, rfl⟩) | (hs | ⟨call, rfl⟩ | ⟨uart, rfl⟩)
    | rfl
  · exact GsmCall.rests_of_bystands (bystands_of_silent hs)
  · trivial
  · exact GsmCall.rests_of_bystands (bystands_of_silent hs)
  · trivial
  · trivial
  · trivial

/-- A program of bystanding calls keeps flag and carrier together. -/
theorem Spares.carried {α κ : Type} {view : Manager → κ} {act : Act α}
    (h : Spares view GsmCall.bystands act) (hs : s.Carried) :
    Ensures chronicled.contract act m s fun _ _ s' => s'.Carried :=
  (h.ensures Scene.preserves_carried hs).mono fun _ _ _ h => h.2

theorem logged {α : Type} (line : Line) (a : α) :
    Passive GsmCall.bystands (log line >>= fun _ => pure a) :=
  (passive_ask trivial).bind fun _ => passive_pure a

/-- A connection that is given up leaves no session behind. -/
theorem ensures_abort_vacant (why : String)
    (hs : s.link.connected = false) :
    Ensures chronicled.contract (abort why) m s fun _ _ s' =>
      s'.Vacant := by
  have first : Passive (fun c => c.quiet = true) (log (.error why)) :=
    passive_ask rfl
  refine first.leads Scene.preserves_disconnected hs
    fun _ m₁ s₁ _ hs₁ => ?_
  refine Proc.ensures_bind.2 (Proc.ensures_lift.2
    (Surroundings.meets_ofSession.2 (Proc.meets_bind.2
      (Proc.meets_ask.2 ⟨trivial, fun r s₂ hr => ?_⟩))))
  have hs₂ : s₂.Vacant :=
    ⟨(Scene.preserves_disconnected (.modem (.switch .command)) s₁ rfl
      hs₁).2 r s₂ hr, Scene.unheld_of_switch hr⟩
  have why : Steps.reportModemError.Asks
      fun c => GsmCall.rests (.modem c) :=
    asks_reportModemError trivial fun _ => trivial
  have rest (p : Proc Modem.Session Unit)
      (hp : p.Asks fun c => GsmCall.rests (.modem c)) :
      p.Meets (channelOf chronicled.contract) s₂ fun _ s' => s'.Vacant :=
    hp.meets (fun c s hc => Scene.preserves_vacant (.modem c) s hc) hs₂
  cases r with
  | ok => exact rest _ why
  | error e =>
    exact rest _ (Proc.asks_bind (Proc.asks_ask.2 trivial) fun _ => why)

/-- What comes of a dial that is `Pending`: a session over its carrier, or
none. -/
theorem ensures_awaitSession_carried (hs : s.Pending) :
    Ensures chronicled.contract awaitSession.run m s fun _ _ s' =>
      s'.Carried := by
  have given_up (why : String) (m : Manager) {s : Scene}
      (hs : s.link.connected = false) :
      Ensures chronicled.contract (abort why) m s fun _ _ s' =>
        s'.Carried :=
    (ensures_abort_vacant why hs).mono fun _ _ _ h => h.carried
  unfold awaitSession
  rw [ExceptT.run_mk]
  have first : Passive GsmCall.bystands
      (log (.info s!"Waiting up to {pppConnectTimeout / 1000} s for PPP")) :=
    passive_ask trivial
  refine first.leads Scene.preserves_pending hs fun _ m₁ s₁ _ hs₁ => ?_
  have wait : Passive GsmCall.bystands
      (ask (.awaitEvent pppConnectTimeout)) := passive_ask trivial
  refine wait.leads Scene.preserves_pending hs₁
    fun event m₂ s₂ _ hs₂ => ?_
  -- without an address the session is given up, and the carrier with it
  rcases event with _ | info | _ | code
  · exact given_up _ m₂ hs₂.disconnected
  · have resolved : Passive GsmCall.bystands setUpResolvers := by
      refine passive_setUpResolvers.mono fun c hc => ?_
      rcases hc with hc | ⟨primary, secondary, rfl⟩ | ⟨host, limit, rfl⟩
      · exact bystands_of_silent hc
      · trivial
      · trivial
    refine resolved.leads Scene.preserves_pending hs₂
      fun _ m₃ s₃ _ hs₃ => ?_
    refine Proc.ensures_bind.2 (Proc.ensures_lift.2
      (Proc.meets_ask.2 ⟨trivial, fun confirmed s₄ hr => ?_⟩))
    obtain ⟨hl, hc⟩ := Scene.carried_of_confirm hr hs₃
    cases confirmed with
    | true => exact hc rfl
    | false => exact given_up _ m₃ hl
  · exact given_up _ m₂ hs₂.disconnected
  · exact given_up _ m₂ hs₂.disconnected

/-- From the dial on, in one connection. -/
theorem ends_carried : Ends chronicled.contract Scene.Vacant m
    (fun _ _ s' => s'.Carried)
    (reported Steps.enterDataMode >>= fun _ => awaitSession) := by
  intro m' s _ hs
  have remarked : chronicled.contract.Preserves remarks Scene.Vacant := by
    intro c s hc
    refine Scene.preserves_vacant c s ?_
    rcases hc with hc | rfl
    · exact GsmCall.rests_of_bystands (bystands_of_silent hc)
    · trivial
  have said : chronicled.contract.Preserves (fun c => c.silent = true)
      Scene.Pending :=
    fun c s hc => Scene.preserves_pending c s (bystands_of_silent hc)
  refine Proc.ensures_attempt_bind.2 ((ensures_dial remarked said
    (fun s hs => ⟨trivial, fun r s' hr =>
      Scene.pending_of_switch hr hs⟩) hs).mono fun r m' s' hr => ?_)
  cases r with
  | ok => exact ensures_awaitSession_carried hr.2
  | error e => exact Scene.Vacant.carried hr.2

/-- From a scene without a session the steps of a connection end with
carrier and link together. -/
theorem ensures_sequence_carried (hs : s.Vacant) :
    Ensures chronicled.contract sequence.run m s fun _ _ s' =>
      s'.Carried := by
  have escape : (Surroundings.ofSession Steps.forceCommandMode).Asks
      GsmCall.rests := by
    refine Surroundings.asks_ofSession
      (Step.within_forceCommandMode.mono fun c hc => ?_)
    rcases hc with hc | hc | hc
    · exact GsmCall.rests_of_bystands (bystands_of_silent hc)
    · rw [hc]
      trivial
    · rw [hc]
      trivial
  exact ensures_sequence
    (fun c s hc => Scene.preserves_vacant c s (rests_of_prepares hc))
    (escape.meets Scene.preserves_vacant hs)
    (fun _ _ _ _ h => h.carried) ends_carried

/-- Whatever comes of it, `connect` leaves carrier and link together. -/
theorem ensures_connect_carried (hs : s.Carried) :
    Ensures chronicled.contract connect m s fun _ _ s' => s'.Carried := by
  unfold connect
  rw [Proc.ensures_bind, Proc.ensures_get]
  split
  · exact (logged _ _).carried hs
  · refine Proc.ensures_bind.2 (Proc.ensures_lift.2
      (Proc.meets_ask.2 ⟨trivial, fun connected s₁ hr => ?_⟩))
    have hs₁ : s₁.Carried :=
      (Scene.preserves_carried (.record .isConnected) s trivial hs).2
        connected s₁ hr
    cases connected with
    | true => exact (logged _ _).carried hs₁
    | false =>
      -- the manager goes on only where the link says it is down, and then
      -- no carrier is on
      have hd : s₁.link.connected = false := by
        obtain ⟨s₀, ⟨reports, hr⟩, rfl⟩ := hr
        obtain ⟨hd, rfl⟩ := Prod.mk.inj hr
        exact hd
      have first : Passive GsmCall.rests (log (.info "Connecting GSM")) :=
        passive_ask trivial
      refine first.leads Scene.preserves_vacant (hs₁.vacant hd)
        fun _ m₂ s₂ _ hs₂ => ?_
      rw [Proc.ensures_bind, ensures_enter, Proc.ensures_bind]
      refine (ensures_sequence_carried hs₂).mono fun r m₃ s₃ hs₃ => ?_
      cases r with
      | ok => exact (logged _ _).carried hs₃
      | error e =>
        have said : Passive GsmCall.bystands
            (log (.error ("GSM connect failed: " ++ e.message))) :=
          passive_ask trivial
        exact said.leads Scene.preserves_carried hs₃
          fun _ _ _ _ hs₄ => hs₄

theorem ensures_init_carried (hs : s.Carried)
    (hl : m.active = false → s.link.connected = false) :
    Ensures chronicled.contract init m s fun _ _ s' => s'.Carried := by
  by_cases ha : m.active = true
  · unfold init
    rw [Proc.ensures_bind, Proc.ensures_get, if_pos ha]
    exact (logged _ _).carried hs
  · have hv := hs.vacant (hl (Bool.eq_false_iff.2 ha))
    have made : Only GsmCall.rests init :=
      only_init.mono fun _ => rests_of_initializes
    exact (made.ensures Scene.preserves_vacant hv).mono
      fun _ _ _ h => h.2.carried

/-- Hanging up leaves no session behind, whatever the modem answers. -/
theorem ensures_hangUp_vacant :
    Ensures chronicled.contract hangUp m s fun _ _ s' => s'.Vacant := by
  have given {m : Manager} {s : Scene} (hs : s.carrier ≠ .on) :
      Ensures chronicled.contract
        (ask (.record .markDisconnected) >>= fun _ => enter .disconnected)
        m s fun _ _ s' => s'.Vacant :=
    Proc.ensures_bind.2 (Proc.ensures_lift.2 (Proc.meets_ask.2
      ⟨trivial, fun r s' hr => Scene.vacant_of_close hr hs⟩))
  have first : Passive (fun _ => True) (log (.info "Disconnecting GSM")) :=
    passive_ask trivial
  refine first.leads (J := fun _ => True)
    (fun _ _ _ _ => ⟨trivial, fun _ _ _ => trivial⟩) trivial
    fun _ m₁ s₁ _ _ => ?_
  refine Proc.ensures_bind.2 (Proc.ensures_lift.2
    (Surroundings.meets_ofSession.2 (Proc.meets_ask.2
      ⟨trivial, fun r s₂ hr => ?_⟩)))
  have hs₂ := Scene.unheld_of_switch hr
  cases r with
  | ok => exact given hs₂
  | error e =>
    have said : Passive GsmCall.rests (log (.warn
        ("Could not switch modem to command mode: " ++ e.message))) :=
      passive_ask trivial
    exact said.leads Scene.preserves_unheld hs₂
      fun _ _ _ _ hs₃ => given hs₃

theorem ensures_disconnect_carried (hs : s.Carried) :
    Ensures chronicled.contract disconnect m s fun _ _ s' =>
      s'.Carried := by
  unfold disconnect
  rw [Proc.ensures_bind, Proc.ensures_get]
  split
  · exact ensures_hangUp_vacant.mono fun _ _ _ h => h.carried
  · have said : Passive GsmCall.bystands
        (log (.debug "disconnect() on uninitialized GSM manager")) :=
      passive_ask trivial
    exact said.carried hs

theorem ensures_deinit_carried (hs : s.Carried) :
    Ensures chronicled.contract deinit m s fun _ _ s' => s'.Carried := by
  have asked {c : GsmCall} (hc : c.bystands) :
      Passive GsmCall.bystands (ask c) := passive_ask hc
  have cleared : Only GsmCall.bystands (do
      modify fun m : Manager => { m with active := false }
      ask (.netif .unsubscribe)
      ask (.netif .destroy)
      ask (.record .resetEvents)
      enter .uninitialized) :=
    Spares.bind (passive_modify fun _ => rfl) fun _ =>
      Spares.bind (passive_ask trivial) fun _ =>
      Spares.bind (passive_ask trivial) fun _ =>
      Spares.bind (passive_ask trivial) fun _ =>
      passive_modify fun _ => rfl
  unfold deinit
  rw [Proc.ensures_bind, Proc.ensures_get]
  split
  · have said : Passive GsmCall.bystands
        (log (.info "Deinitializing GSM manager")) := passive_ask trivial
    refine said.leads Scene.preserves_carried hs fun _ m₁ s₁ _ hs₁ => ?_
    exact Proc.ensures_bind.2 ((ensures_disconnect_carried hs₁).mono
      fun _ _ _ hs₂ => cleared.carried hs₂)
  · have said : Passive GsmCall.bystands (log
        (.debug "GSM manager not initialized, nothing to tear down")) :=
      passive_ask trivial
    exact said.carried hs

end Manager

/-- The operations keep flag and carrier together. -/
theorem Operation.carried (o : Operation) {m : Manager} {s : Scene}
    (hs : s.Carried) (hl : m.active = false → s.link.connected = false) :
    Ensures Surroundings.chronicled.contract o.act m s fun _ _ s' =>
      s'.Carried := by
  cases o with
  | init => exact Manager.ensures_init_carried hs hl
  | connect => exact Manager.ensures_connect_carried hs
  | bringUp =>
    refine Proc.ensures_bind.2 ((Manager.ensures_init_carried hs hl).mono
      fun r m' s' hs' => ?_)
    cases r with
    | ok => exact Manager.ensures_connect_carried hs'
    | error e => exact hs'
  | disconnect => exact Manager.ensures_disconnect_carried hs
  | deinit => exact Manager.ensures_deinit_carried hs
  | signalStrength =>
    have measured : Manager.Passive GsmCall.bystands
        Manager.signalStrength := by
      refine Manager.passive_signalStrength.mono fun c hc => ?_
      rcases hc with hc | rfl | rfl
      · exact Manager.bystands_of_silent hc
      · trivial
      · trivial
    exact measured.carried hs

/-- Between operations the link is connected exactly while the `carrier` is
on. -/
theorem Chronicled.carried {settings : Config.Settings} {m : Manager}
    {s : Scene} (h : Chronicled settings m s) :
    s.link.connected = true ↔ s.carrier = .on := by
  induction h with
  | made => exact iff_of_false nofun nofun
  | heard report _ ih => exact Scene.lasts_carried _ report ih
  | @operated m m' s s' o t r h hr ih =>
    have hl : m.active = false → s.link.connected = false := fun ha =>
      (h.reached.consistent.down_of_inactive ha).disconnected
    exact (o.carried ih hl).of_runs hr

end Uplink.Gsm
