/-
When a connection dials.

The channel skips a switch to a mode that it remembers already, and what
it remembers moves with the acknowledged escapes and the connected dials
only. A connection escapes first, but goes on if that is not acknowledged.
So whether it dials depends on what earlier ones left behind:
`connect_dial` says exactly when, for any line, any history and any
answers of the other surroundings.

# What is carried along

Up to the dial, nothing was dialled, and the memory tells command mode
exactly if it did at the start or an escape was acknowledged since
(`Undecided`). Every call up to there keeps this, the switch to data mode
turns it into the condition (`Decided`), and only what waits for a session
or reports it connected asks for that.
-/
import Uplink.Proofs.Gsm.Reports
import Uplink.Proofs.Gsm.Steps
import Uplink.Proofs.Modem.Wire

namespace Uplink.Gsm

open Modem (Answered Mode Serial SessionCall Wire dialCommand
  escapeSequence)
open Modem.Channel (Undialled)
open Proc (Either Ensures Runs)
open Timing

-- ===================================================== a wired channel

/-- What the channel remembers, and what the line saw. -/
structure Wired where
  mode : Mode
  wire : Wire

/-- Surroundings whose command channel runs over a serial line. The line
and everything else answer as they like; a new channel starts in command
mode. -/
def Surroundings.wired : Behaviour Surroundings Wired :=
  fun call s r s' =>
    match call, r with
    | .modem call, r =>
      ∃ w, Runs (Behaviour.any Serial)
          ((Modem.Channel.answer call).run s.mode) () w (r, s'.mode) ()
        ∧ s'.wire = s.wire ++ w
    | .build _, .ok _ => s' = { s with mode := .command }
    | _, _ => s' = s

/-- The call waits for a session, or reports it connected. -/
def GsmCall.awaits : GsmCall → Prop
  | awaitEvent _ => True
  | record .markConnected => True
  | _ => False

namespace Wired

def Dialled (s : Wired) : Prop :=
  Answered dialCommand "CONNECT" s.wire

def Escaped (s : Wired) : Prop :=
  Answered escapeSequence "OK" s.wire

/-- Nothing was dialled yet, and the memory is up to date. -/
structure Undecided (mode : Mode) (s : Wired) : Prop where
  undialled : ¬s.Dialled
  remembered : s.mode = .command ↔ mode = .command ∨ s.Escaped

/-- Whether there was a dial goes by the mode at the start and the escapes
since. -/
def Decided (mode : Mode) (s : Wired) : Prop :=
  s.Dialled ↔ mode = .command ∨ s.Escaped

variable {mode mode' : Mode} {s s' : Wired} {w : Wire}

/-- Before anything was written, nothing was dialled. -/
theorem undecided_start (mode : Mode) : Undecided mode ⟨mode, []⟩ := by
  have none (command success : String) :
      ¬Answered command success ([] : Wire) := Modem.not_answered nofun
  exact ⟨none _ _, fun h => .inl h, fun h => h.resolve_right (none _ _)⟩

/-- Calls that dial nothing keep it so. -/
theorem Undecided.undialled_step (h : s.Undecided mode)
    (hw : Undialled s.mode w s'.mode) (hs : s'.wire = s.wire ++ w) :
    s'.Undecided mode := by
  have hd : s'.Dialled ↔ s.Dialled := by
    unfold Dialled
    rw [hs, Modem.answered_append hw.fresh]
    exact or_iff_left hw.dialled
  have he : s'.Escaped ↔ s.Escaped ∨ Answered escapeSequence "OK" w := by
    unfold Escaped
    rw [hs, Modem.answered_append hw.fresh]
  refine ⟨fun h' => h.undialled (hd.1 h'), ?_⟩
  rw [he]
  by_cases hw' : Answered escapeSequence "OK" w
  · exact ⟨fun _ => .inr (.inr hw'), fun _ => hw.escaped hw'⟩
  · rw [hw.kept hw', h.remembered, or_iff_left hw']

/-- The condition does not change where the line sees neither. -/
theorem Decided.step (h : s.Decided mode)
    (hd : ¬Answered dialCommand "CONNECT" w)
    (he : ¬Answered escapeSequence "OK" w) (hf : Modem.Fresh w)
    (hs : s'.wire = s.wire ++ w) : s'.Decided mode := by
  unfold Decided Dialled Escaped
  rw [hs, Modem.answered_append hf, Modem.answered_append hf,
    or_iff_left hd, or_iff_left he]
  exact h

end Wired

-- ========================================================= up to the dial

def undials (call : SessionCall) : Prop :=
  Modem.Channel.plain call
    ∨ (∃ timeout, call = .exchange escapeSequence "OK" "ERROR" timeout)
    ∨ call = .switch .command

/-- A call that does not dial writes no dial, and what the channel
remembers goes by the escapes it saw acknowledged. -/
theorem shows_undials {call : SessionCall} (hc : undials call)
    (mode : Mode) :
    Proc.Shows (Modem.Channel.answer call) mode fun w _ mode' =>
      Undialled mode w mode' := by
  rcases hc with hc | ⟨timeout, rfl⟩ | rfl
  · exact (Modem.Channel.shows_plain hc mode).mono fun _ _ _ h => h.1
  · exact (Modem.Channel.shows_exchange_escape _ _ _).mono
      fun _ _ _ h => h.1
  · exact Modem.Channel.shows_switch_command mode

/-- The call neither dials nor waits for a session. -/
def GsmCall.approaches : GsmCall → Prop
  | modem call => undials call
  | build _ => False
  | c => ¬c.awaits

/-- A connection waits for a session where the condition holds. -/
def dialling (mode : Mode) : Contract Surroundings Wired where
  allows c s := c.awaits → s.Decided mode
  moves := Surroundings.wired

namespace Manager

variable {mode : Mode} {m : Manager} {s : Wired}

/-- Calls that only approach a session leave it `Undecided`. -/
theorem preserves_undecided :
    (dialling mode).Preserves GsmCall.approaches (Wired.Undecided mode) := by
  intro c s hc hs
  have unmoved {s' : Wired} (h : s' = s) : s'.Undecided mode := h ▸ hs
  cases c with
  | modem call =>
    refine ⟨False.elim, fun r s' hr => ?_⟩
    obtain ⟨w, hr, hw⟩ := hr
    exact hs.undialled_step ((shows_undials hc _).of_runs hr) hw
  | build uart => exact hc.elim
  | drive pin high => exact ⟨fun h => absurd h hc, fun _ _ => unmoved⟩
  | netif call => exact ⟨fun h => absurd h hc, fun _ _ => unmoved⟩
  | record call => exact ⟨fun h => absurd h hc, fun _ _ => unmoved⟩
  | awaitEvent timeout => exact ⟨fun h => absurd h hc, fun _ _ => unmoved⟩
  | resolve host timeout =>
    exact ⟨fun h => absurd h hc, fun _ _ => unmoved⟩

theorem aside_of_silent {c : GsmCall} (h : c.silent = true) :
    ∃ call, c = .modem call
      ∧ ((∃ line, call = .log line) ∨ ∃ ms, call = .pause ms) := by
  cases c with
  | modem call =>
    cases call with
    | pause ms => exact ⟨_, rfl, .inr ⟨ms, rfl⟩⟩
    | log line => exact ⟨_, rfl, .inl ⟨line, rfl⟩⟩
    | _ => cases h
  | _ => cases h

theorem approaches_of_silent {c : GsmCall} (h : c.silent = true) :
    c.approaches := by
  obtain ⟨call, rfl, ⟨line, rfl⟩ | ⟨ms, rfl⟩⟩ := aside_of_silent h
  · exact .inl trivial
  · exact .inl trivial

/-- A command that is not the escape neither dials nor escapes. -/
theorem approaches_query {command : String} {timeout : Nat}
    (hc : command ≠ escapeSequence) :
    (GsmCall.query command timeout).approaches :=
  .inl ⟨hc, by decide⟩

theorem approaches_of_prepares {c : GsmCall} (h : prepares c) :
    c.approaches := by
  rcases prepares_cases h with hs | ⟨command, timeout, hc, rfl⟩ | rfl
    | ⟨user, password, rfl⟩ | rfl
  · exact approaches_of_silent hs
  · exact .inl ⟨hc, by decide⟩
  · exact .inl trivial
  · exact not_false
  · exact not_false

theorem approaches_of_escape {c : GsmCall} (h : Step.escape.covers c) :
    c.approaches := by
  rcases h with hs | rfl | rfl
  · exact approaches_of_silent hs
  · exact .inr (.inl ⟨_, rfl⟩)
  · exact .inr (.inr rfl)

-- ========================================================== from the dial

/-- Calls that resolve leave it `Decided`. -/
theorem preserves_decided :
    (dialling mode).Preserves resolves (Wired.Decided mode) := by
  intro c s hc hs
  refine ⟨fun _ => hs, fun r s' hr => ?_⟩
  rcases hc with hc | ⟨primary, secondary, rfl⟩ | ⟨host, timeout, rfl⟩
  · obtain ⟨call, rfl, hcall⟩ := aside_of_silent hc
    obtain ⟨w, hr, hw⟩ := hr
    obtain ⟨hf, hn⟩ :=
      (Modem.Channel.shows_aside s.mode hcall).of_runs hr
    exact hs.step (hn _ _) (hn _ _) hf hw
  · obtain rfl : s' = s := hr
    exact hs
  · obtain rfl : s' = s := hr
    exact hs

/-- The `switch` to data mode decides it. -/
theorem switch_decides {s s' : Wired} {r : Except Modem.ChannelError Unit}
    (h : s.Undecided mode)
    (hr : Surroundings.wired (.modem (.switch .data)) s r s') :
    Either (s'.Decided mode) (s'.Undecided mode) r := by
  obtain ⟨w, hr, hw⟩ := hr
  obtain ⟨hf, he, hd, hm⟩ :=
    (Modem.Channel.shows_switch_data s.mode).of_runs hr
  have dialled : s'.Dialled ↔ s.mode = .command ∧ r.isOk = true := by
    unfold Wired.Dialled
    rw [hw, Modem.answered_append hf, hd]
    exact or_iff_right h.undialled
  have escaped : s'.Escaped ↔ s.Escaped := by
    unfold Wired.Escaped
    rw [hw, Modem.answered_append hf]
    exact or_iff_left he
  cases r with
  | ok =>
    show s'.Decided mode
    unfold Wired.Decided
    rw [dialled, escaped, h.remembered]
    exact and_iff_left rfl
  | error e =>
    have hm : s'.mode = s.mode := hm
    refine ⟨fun h' => (nomatch (dialled.1 h').2), ?_⟩
    rw [hm, escaped]
    exact h.remembered

/-- Calls that do not wait for a session may be made in any state. -/
theorem preserves_nothing :
    (dialling mode).Preserves (fun c => ¬c.awaits) fun _ => True :=
  fun _ _ hc _ => ⟨fun h => absurd h hc, fun _ _ _ => trivial⟩

theorem not_awaits_of_silent {c : GsmCall} (h : c.silent = true) :
    ¬c.awaits := by
  obtain ⟨call, rfl, -⟩ := aside_of_silent h
  exact not_false

theorem ensures_aborting (why : String) :
    Ensures (dialling mode) (abort why) m s fun _ _ _ => True := by
  have asked : Passive (fun c => ¬c.awaits) (abort why) := by
    refine (passive_abort why).mono fun c hc => ?_
    rcases hc with hc | rfl | rfl
    · exact not_awaits_of_silent hc
    · exact not_false
    · exact not_false
  exact (asked.ensures preserves_nothing trivial).mono fun _ _ _ _ => trivial

/-- A session may be waited for, once it is `Decided` whether there was a
dial. -/
theorem ensures_awaiting (hs : s.Decided mode) :
    Ensures (dialling mode) awaitSession.run m s fun _ _ _ => True := by
  unfold awaitSession
  rw [ExceptT.run_mk]
  have first : Passive resolves
      (log (.info s!"Waiting up to {pppConnectTimeout / 1000} s for PPP")) :=
    passive_ask (.inl rfl)
  refine first.leads preserves_decided hs fun _ m₁ s₁ _ hs₁ => ?_
  refine Proc.ensures_bind.2 (Proc.ensures_lift.2
    (Proc.meets_ask.2 ⟨fun _ => hs₁, fun event s₂ hr => ?_⟩))
  obtain rfl : s₂ = s₁ := hr
  rcases event with _ | info | _ | code
  · exact ensures_aborting _
  · refine passive_setUpResolvers.leads preserves_decided hs₁
      fun _ m₃ s₃ _ hs₃ => ?_
    refine Proc.ensures_bind.2 (Proc.ensures_lift.2
      (Proc.meets_ask.2 ⟨fun _ => hs₃, fun confirmed s₄ _ => ?_⟩))
    cases confirmed with
    | true => trivial
    | false => exact ensures_aborting _
  · exact ensures_aborting _
  · exact ensures_aborting _

/-- From the dial on the condition holds, or nothing is waited for. -/
theorem ends_dialling (hs : s.Undecided mode) :
    Ensures (dialling mode)
      (reported Steps.enterDataMode >>= fun _ => awaitSession).run m s
      fun _ _ _ => True := by
  have remarked : (dialling mode).Preserves remarks
      (Wired.Undecided mode) := by
    intro c s hc
    refine preserves_undecided c s ?_
    rcases hc with hc | rfl
    · exact approaches_of_silent hc
    · exact approaches_query (by decide)
  have logged : (dialling mode).Preserves (fun c => c.silent = true)
      (Wired.Decided mode) :=
    fun c s hc => preserves_decided c s (.inl hc)
  have allowed : ¬GsmCall.awaits (.modem (.switch .data)) := not_false
  refine Proc.ensures_attempt_bind.2 ((ensures_dial remarked logged
    (fun s hs => ⟨fun h => absurd h allowed,
      fun r s' hr => switch_decides hs hr⟩) hs).mono
    fun r m' s' hr => ?_)
  cases r with
  | ok => exact ensures_awaiting hr.2
  | error e => trivial

/-- A connection (`connect`), from a channel in any mode, waits for a
session only where it is decided whether there was a dial. -/
theorem ensures_connect (m : Manager) (mode : Mode) :
    Ensures (dialling mode) connect m ⟨mode, []⟩ fun _ _ _ => True := by
  -- a line in the log waits for no session
  have logged (line : Line) {β : Type} (f : Act β) (m : Manager)
      (s : Wired) (hf : ∀ m s, Ensures (dialling mode) f m s
        fun _ _ _ => True) :
      Ensures (dialling mode) (log line >>= fun _ => f) m s
        fun _ _ _ => True := by
    have quiet : Passive (fun c => ¬c.awaits) (log line) :=
      passive_ask (not_awaits_of_silent rfl)
    exact quiet.leads preserves_nothing trivial fun _ m' s' _ _ => hf m' s'
  have undecided := Wired.undecided_start mode
  unfold connect
  rw [Proc.ensures_bind, Proc.ensures_get]
  split
  · exact logged _ _ m _ fun _ _ => trivial
  · have look : Passive GsmCall.approaches
        (ask (.record .isConnected)) := passive_ask not_false
    refine look.leads preserves_undecided undecided
      fun connected m₁ s₁ _ hs₁ => ?_
    cases connected with
    | true => exact logged _ _ m₁ s₁ fun _ _ => trivial
    | false =>
      have first : Passive GsmCall.approaches
          (log (.info "Connecting GSM")) :=
        passive_ask (approaches_of_silent rfl)
      refine first.leads preserves_undecided hs₁ fun _ m₂ s₂ _ hs₂ => ?_
      rw [Proc.ensures_bind, ensures_enter, Proc.ensures_bind]
      -- the escape leaves it undecided, the dial decides it
      have walked : Ensures (dialling mode) sequence.run
          { m₂ with recorded := .connecting } s₂ fun _ _ _ => True := by
        refine ensures_sequence (fun c s hc =>
          preserves_undecided c s (approaches_of_prepares hc)) ?_
          (fun _ _ _ _ _ => trivial) fun m₃ s₃ _ hs₃ => ?_
        · have escape : (Surroundings.ofSession
              Steps.forceCommandMode).Asks GsmCall.approaches :=
            Surroundings.asks_ofSession (Step.within_forceCommandMode.mono
              fun c => approaches_of_escape)
          exact escape.meets preserves_undecided hs₂
        · exact ends_dialling hs₃
      refine walked.mono fun r m₃ s₃ _ => ?_
      cases r with
      | ok => exact logged _ _ _ s₃ fun _ _ => trivial
      | error e => exact logged _ _ m₃ s₃ fun _ _ => trivial

end Manager

/-- Whenever `connect` gets to wait for a session, or to report it
connected, it has dialled itself and was connected for it exactly if the
channel remembered command mode when it began, or acknowledged an escape
since. -/
theorem connect_dial {m : Manager} {mode : Mode} {c : GsmCall} {s : Wired}
    (h : Proc.Reaches Surroundings.wired (Manager.connect.run m)
      ⟨mode, []⟩ c s)
    (hc : c.awaits) :
    Answered dialCommand "CONNECT" s.wire
      ↔ mode = .command ∨ Answered escapeSequence "OK" s.wire :=
  (Manager.ensures_connect m mode).of_reaches h hc

-- ======================================================== a deaf modem

/-- A line to a modem that obeys every command, but does not hear an
escape. What is kept is whether that was put out last. -/
def deaf : (c : Modem.SerialCall) → Bool → c.Answer × Bool
  | .write content, _ =>
    (true, content = escapeSequence.toUTF8.toList)
  | .flush, escaping => (true, escaping)
  | .listen collector _, escaping =>
    (if escaping then none
      else some (.accepted
        ("+CREG: 0,1\r\n" ++ String.ofList collector.success)),
      escaping)
  | .pause _, escaping => ((), escaping)
  | .log _, escaping => ((), escaping)

structure Trial where
  wired : Wired
  escaping : Bool := false
  link : Link := {}

namespace Trial

/-- Surroundings with a channel over that line, which else refuse
nothing. -/
def answer : (c : GsmCall) → Trial → c.Answer × Trial
  | .modem call, x =>
    let ((r, mode), wire, escaping) :=
      ((Modem.Channel.answer call).run x.wired.mode).run
        (Proc.noting deaf) (x.wired.wire, x.escaping)
    (r, { x with wired := ⟨mode, wire⟩, escaping })
  | .build uart, x =>
    let (r, link) := obliging (.build uart) x.link
    (r, { x with wired := { x.wired with mode := .command }, link })
  | c, x =>
    let (r, link) := obliging c x.link
    (r, { x with link })

/-- The surroundings of a `Trial` are among those whose channel runs over a
line. -/
theorem wired_answer (c : GsmCall) (x : Trial) :
    Surroundings.wired c x.wired (answer c x).1 (answer c x).2.wired := by
  cases c with
  | modem call =>
    obtain ⟨w, h, hw⟩ := Proc.runs_of_noting deaf
      ((Modem.Channel.answer call).run x.wired.mode)
      (x.wired.wire, x.escaping)
    exact ⟨w, (Proc.records_runs _).of_runs h, hw⟩
  | build uart => rfl
  | drive pin high => rfl
  | netif call => rfl
  | record call => rfl
  | awaitEvent timeout => rfl
  | resolve host timeout => rfl

def first : (Except GsmError Unit × Manager) × Trial :=
  (Manager.bringUp.run (Manager.new .standard).value).run answer
    { wired := ⟨.command, []⟩ }

/-- The `first` connection is one such run. -/
theorem runs_first :
    ∃ t, Proc.Runs Surroundings.wired
      (Manager.bringUp.run (Manager.new .standard).value)
      ⟨.command, []⟩ t first.1 first.2.wired := by
  unfold first
  exact Proc.runs_of_run wired wired_answer _ { wired := ⟨.command, []⟩ }

def confirms : GsmCall → Bool
  | .record .markConnected => true
  | _ => false

theorem awaits_of_confirms {c : GsmCall} (h : confirms c = true) :
    c.awaits := by
  unfold confirms at h
  split at h
  · trivial
  · cases h

/-- The address is lost, and the manager connects again while the channel
remembers this mode. -/
def next (mode : Mode) : Option (GsmCall × Trial) :=
  (Manager.connect.run first.1.2).runUpTo answer confirms
    { wired := ⟨mode, []⟩, link := first.2.link.hear .ipLost }

/-- In the connection after the loss of the address, a session is waited
for. -/
theorem reaches_next {mode : Mode} (h : (next mode).isSome = true) :
    ∃ c x, next mode = some (c, x) ∧ c.awaits
      ∧ Proc.Reaches Surroundings.wired (Manager.connect.run first.1.2)
          ⟨mode, []⟩ c x.wired := by
  obtain ⟨⟨c, x⟩, hx⟩ := Option.isSome_iff_exists.1 h
  obtain ⟨hr, hc⟩ := Proc.reaches_of_runUpTo Trial.wired wired_answer hx
  exact ⟨c, x, hx, awaits_of_confirms hc, hr⟩

/-- The bytes of a dial go out. -/
def dials (e : Event Serial) : Bool :=
  match e.call with
  | .write content => content = dialCommand.toUTF8.toList
  | _ => false

theorem dials_dial :
    dials ⟨.write dialCommand.toUTF8.toList, true⟩ = true :=
  decide_eq_true rfl

end Trial

/-- Where the channel remembers command mode, the `next` connection
dials. -/
theorem connect_dial_remembered :
    ∃ c s, Proc.Reaches Surroundings.wired
        (Manager.connect.run Trial.first.1.2) ⟨.command, []⟩ c s
      ∧ c.awaits ∧ Answered dialCommand "CONNECT" s.wire := by
  obtain ⟨c, x, -, hc, h⟩ := Trial.reaches_next
    (show (Trial.next .command).isSome = true by decide +kernel)
  exact ⟨c, x.wired, h, hc, (connect_dial h hc).2 (.inl rfl)⟩

/-- After a session whose end the modem did not tell the channel, a
connection gets as far on the dial of the one before. -/
theorem connect_dial_skipped :
    ∃ m s t, Proc.Runs Surroundings.wired
        (Manager.bringUp.run (Manager.new .standard).value)
        ⟨.command, []⟩ t (.ok (), m) s
      ∧ ∃ c s', Proc.Reaches Surroundings.wired
            (Manager.connect.run m) ⟨s.mode, []⟩ c s'
          ∧ c.awaits ∧ ¬Answered dialCommand "CONNECT" s'.wire := by
  have brought : Trial.first.1.1.isOk = true := by decide +kernel
  have remembered : Trial.first.2.wired.mode = .data := by decide +kernel
  have undialled : (Trial.next .data).all (fun y =>
      y.2.wired.wire.all fun e => !Trial.dials e) = true := by
    decide +kernel
  obtain ⟨c, x, hx, hc, hr⟩ := Trial.reaches_next
    (show (Trial.next .data).isSome = true by decide +kernel)
  obtain ⟨t, h⟩ := Trial.runs_first
  rw [hx] at undialled
  generalize Trial.first = y at h hr brought remembered
  obtain ⟨⟨r, m⟩, z⟩ := y
  cases r with
  | error e => cases brought
  | ok _ =>
    refine ⟨m, z.wired, t, h, c, x.wired, remembered ▸ hr, hc,
      fun ha => ?_⟩
    have he := List.all_eq_true.1 undialled _ ha.written
    rw [Trial.dials_dial] at he
    cases he

end Uplink.Gsm
