/-
Advisory steps never decide a connection.

Most steps of a connection are advisory: what they ask is logged and the
connection goes on. Here the modem is a stream of answers for each thing
that it can be asked (`Stream`), and two modems are compared that differ
in the streams of the advisory steps as they like (`Concur`). Both
connections return the same, find the same access point and leave the
same record behind (`connect_advice`).

# What must not leak

An advisory step may ask more or fewer times, take more or less time, and
read whatever it likes; but its answers come from streams of its own, its
pauses end before the modem is dialled, and reports come with the dial
and with the waits after it. So the progress of the two connections agrees
on the record, on the waits, and on how far the other streams are
(`Progress.Alike`): a call of a deciding step gets the same answer in
both, and one of an advisory step leaves that agreement alone.
-/
import Mathlib.Control.Monad.Basic
import Uplink.Proofs.Gsm.Lifecycle
import Uplink.Proofs.Pairs

namespace Uplink.Gsm

open Modem (ChannelError Mode Response SessionCall SignalQuality)
open Net (Address)
open Proc (Aside Coupled Shared)
open Timing

-- ============================================================== streams

/-- What can be asked, each with a stream of answers of its own. -/
inductive Stream where
  | command (text : String)
  | switch (mode : Mode)
  | quality
  | setAuth
  | setDns
  | resolve
deriving DecidableEq

abbrev Stream.Answer : Stream → Type
  | command _ => Except ChannelError Response
  | switch _ => Except ChannelError Unit
  | quality => Except ChannelError SignalQuality
  | setAuth => Except NetifError Unit
  | setDns => Except NetifError Unit
  | resolve => Option (Except NetifError Address)

/-- The answers of all streams, in order. -/
abbrev Replies : Type :=
  (k : Stream) → Nat → k.Answer

/-- What others report when the modem is dialled, and during the waits
after that. -/
structure Incidents where
  onDial : Nat → List Report
  onWait : Nat → List Report

/-- The record, how often each stream was asked, and the waits that have
passed since the modem was dialled. -/
structure Progress where
  link : Link
  asked : Stream → Nat := fun _ => 0
  waits : Option Nat := none

namespace Progress

/-- The next answer of a stream. -/
def draw (s : Progress) (replies : Replies) (k : Stream) :
    k.Answer × Progress :=
  (replies k (s.asked k),
    { s with asked := fun j => if j = k then s.asked j + 1
                               else s.asked j })

/-- A wait; before the dial nothing is reported during it. -/
def wait (s : Progress) (incidents : Incidents) : Progress :=
  match s.waits with
  | none => s
  | some n =>
    { s with
      link := s.link.hearAll (incidents.onWait n), waits := some (n + 1) }

def dial (s : Progress) (incidents : Incidents) : Progress :=
  { s with
    link := s.link.hearAll (incidents.onDial (s.asked (.switch .data)))
    waits := some (s.waits.getD 0) }

/-- Surroundings that answer from the streams. What a connection does not
ask for is granted. -/
def answer (incidents : Incidents) (replies : Replies) :
    (call : GsmCall) → Progress → call.Answer × Progress
  | .modem (.exchange command ..), s => s.draw replies (.command command)
  | .modem (.switch .command), s => s.draw replies (.switch .command)
  | .modem (.switch .data), s =>
    (s.dial incidents).draw replies (.switch .data)
  | .modem .quality, s => s.draw replies .quality
  | .modem (.pause _), s => ((), s.wait incidents)
  | .modem (.log _), s => ((), s)
  | .netif (.setAuth ..), s => s.draw replies .setAuth
  | .netif (.setDns ..), s => s.draw replies .setDns
  | .resolve .., s => (s.wait incidents).draw replies .resolve
  | .awaitEvent _, s =>
    let s := s.wait incidents
    (s.link.event, { s with link := s.link.resetEvents })
  | .record call, s =>
    let (r, link) := (call.apply s.link).value
    (r, { s with link })
  | .drive .., s => (.ok (), s)
  | .netif .create, s => (.ok (), s)
  | .netif .destroy, s => ((), s)
  | .netif .subscribe, s => (.ok (), s)
  | .netif .unsubscribe, s => ((), s)
  | .build _, s => (.ok (), s)

end Progress

-- ====================================================== what may differ

/-- The commands of the advisory steps, but for the one that defines the
context. -/
def advisoryCommands : List String :=
  [Modem.escapeSequence, "AT+CFUN?", "AT+CPIN?", "AT+CGREG?", "AT+CGATT?",
   "AT+CGATT=1", "AT+CGACT=0,1", "AT+CEER"]

/-- The streams of the advisory steps. The command that defines the
context is one of them wherever no search for an access point sends it: a
search clears the context with the empty name, which it never finds. -/
def Stream.advisory (cached : Bool) : Stream → Prop
  | command text =>
    text ∈ advisoryCommands
      ∨ ∃ apn, text = Steps.contextCommand apn
        ∧ (apn ≠ "" ∨ cached = true)
  | switch mode => mode = .command
  | quality => False
  | setAuth => True
  | setDns => True
  | resolve => True

/-- The signal was read, and there is none. -/
def unheard : Except ChannelError SignalQuality → Bool
  | .ok reading => reading.rssi = rssiNoSignal
  | .error _ => false

/-- Two modems that differ in the `advisory` streams at most. Of the signal
they say alike whether there is none. -/
structure Concur (cached : Bool) (F G : Replies) : Prop where
  deciding : ∀ k, ¬k.advisory cached → k ≠ .quality → F k = G k
  signal : ∀ n, unheard (F .quality n) = unheard (G .quality n)

/-- Two connections agree on the record, on the waits, and on how far the
deciding streams are. -/
structure Progress.Alike (cached : Bool) (x y : Progress) : Prop where
  link : x.link = y.link
  waits : x.waits = y.waits
  asked : ∀ k, ¬k.advisory cached → x.asked k = y.asked k

namespace Progress

variable {cached : Bool} {x y : Progress} {incidents : Incidents}

theorem Alike.refl (x : Progress) : x.Alike cached x :=
  ⟨rfl, rfl, fun _ _ => rfl⟩

theorem Alike.symm (h : x.Alike cached y) : y.Alike cached x :=
  ⟨h.link.symm, h.waits.symm, fun k hk => (h.asked k hk).symm⟩

/-- Connections that are `Alike` still are after the same wait. -/
theorem Alike.wait (h : x.Alike cached y) :
    (x.wait incidents).Alike cached (y.wait incidents) := by
  unfold Progress.wait
  rw [← h.waits]
  cases hw : x.waits with
  | none => exact h
  | some n => exact ⟨by rw [h.link], rfl, h.asked⟩

/-- Before the dial a wait changes nothing. -/
theorem wait_undialled (h : x.waits = none) :
    x.wait incidents = x := by
  unfold wait
  rw [h]

/-- Connections that are `Alike` still are after the dial. -/
theorem Alike.dial (h : x.Alike cached y) :
    (x.dial incidents).Alike cached (y.dial incidents) := by
  have hn : x.asked (.switch .data) = y.asked (.switch .data) :=
    h.asked _ nofun
  refine ⟨?_, ?_, h.asked⟩
  · show x.link.hearAll _ = y.link.hearAll _
    rw [h.link, hn]
  · show some (x.waits.getD 0) = some (y.waits.getD 0)
    rw [h.waits]

/-- Connections that are `Alike` still are after both drew from one stream,
whatever they drew. -/
theorem Alike.draw (h : x.Alike cached y) (F G : Replies) (k : Stream) :
    (x.draw F k).2.Alike cached (y.draw G k).2 := by
  refine ⟨h.link, h.waits, fun j hj => ?_⟩
  show (if j = k then _ else _) = if j = k then _ else _
  rw [h.asked j hj]

/-- An `advisory` stream is not counted. -/
theorem Alike.draw_left (h : x.Alike cached y) (F : Replies) {k : Stream}
    (hk : k.advisory cached) : (x.draw F k).2.Alike cached y := by
  refine ⟨h.link, h.waits, fun j hj => ?_⟩
  have hne : j ≠ k := fun he => hj (he ▸ hk)
  exact (if_neg hne).trans (h.asked j hj)

end Progress

-- ================================================================= calls

/-- The call is one of an `advisory` step: only its answer matters, and
that comes from a stream of its own. -/
def GsmCall.advises (cached : Bool) : GsmCall → Prop
  | modem (.exchange command ..) => (Stream.command command).advisory cached
  | modem (.switch mode) => mode = .command
  | modem (.log _) => True
  | netif (.setAuth ..) => True
  | netif (.setDns ..) => True
  | _ => False

/-- The call is answered alike in both connections. -/
def GsmCall.binds (cached : Bool) : GsmCall → Prop
  | modem (.exchange command ..) =>
    ¬(Stream.command command).advisory cached
  | modem (.switch mode) => mode = .data
  | modem (.pause _) => True
  | modem (.log _) => True
  | awaitEvent _ => True
  | record _ => True
  | _ => False

/-- The two connections agree, and so do the managers in this way; before
the dial no wait is counted. -/
def Agree (cached : Bool) (M : Manager → Manager → Prop)
    (undialled : Prop) (s s' : Manager × Progress) : Prop :=
  M s.1 s'.1 ∧ s.2.Alike cached s'.2 ∧ (undialled → s.2.waits = none)

section Calls

open Progress (answer)

variable {cached : Bool} {F G : Replies} {incidents : Incidents}
variable {M : Manager → Manager → Prop} {undialled : Prop} {c : GsmCall}

/-- A call that `binds` is answered alike in both connections, and leaves
them agreed. -/
theorem shared_of_binds (hFG : Concur cached F G) (hc : c.binds cached)
    (hd : undialled → c ≠ .modem (.switch .data)) :
    Shared (I := Surroundings) (answer incidents F) (answer incidents G)
      (Agree cached M undialled) c := by
  rintro m m' x y ⟨hm, h, hw⟩
  -- a stream that decides is as far in both, and gives both the same
  have next {k : Stream} {x y : Progress} (h : x.Alike cached y)
      (hk : ¬k.advisory cached) (hq : k ≠ .quality) :
      (x.draw F k).1 = (y.draw G k).1 := by
    show F k (x.asked k) = G k (y.asked k)
    rw [hFG.deciding k hk hq, h.asked k hk]
  cases c with
  | modem call =>
    cases call with
    | exchange command success failure timeout =>
      exact ⟨next h hc nofun, hm, h.draw F G _, hw⟩
    -- only the dial of the modem starts the waits
    | switch mode =>
      obtain rfl : mode = .data := hc
      have hk : ¬(Stream.switch .data).advisory cached := nofun
      refine ⟨next h.dial hk nofun, hm, h.dial.draw F G _, fun hu => ?_⟩
      exact absurd rfl (hd hu)
    | pause ms =>
      refine ⟨rfl, hm, h.wait, fun hu => ?_⟩
      show (x.wait incidents).waits = none
      rw [Progress.wait_undialled (hw hu)]
      exact hw hu
    | log line => exact ⟨rfl, hm, h, hw⟩
    | quality => exact hc.elim
  | awaitEvent timeout =>
    have hl : (x.wait incidents).Alike cached (y.wait incidents) := h.wait
    refine ⟨congrArg Link.event hl.link, hm, ⟨?_, hl.waits, hl.asked⟩,
      fun hu => ?_⟩
    · exact congrArg Link.resetEvents hl.link
    · show (x.wait incidents).waits = none
      rw [Progress.wait_undialled (hw hu)]
      exact hw hu
  | record call =>
    have hl : call.apply x.link = call.apply y.link := by rw [h.link]
    refine ⟨?_, hm, ⟨?_, h.waits, h.asked⟩, hw⟩
    · show (call.apply x.link).value.1 = _
      rw [hl]
      rfl
    · show (call.apply x.link).value.2 = _
      rw [hl]
      rfl
  | drive => exact hc.elim
  | netif => exact hc.elim
  | build => exact hc.elim
  | resolve => exact hc.elim

/-- An advisory call stays on its own side. -/
theorem aside_of_advises (hc : c.advises cached) :
    Aside (I := Surroundings) (answer incidents F) (answer incidents G)
      (Agree cached M undialled) c := by
  rintro m m' x y ⟨hm, h, hw⟩
  have drawn {k : Stream} (hk : k.advisory cached) :
      Agree cached M undialled (m, (x.draw F k).2) (m', y)
        ∧ Agree cached M undialled (m, x) (m', (y.draw G k).2) :=
    ⟨⟨hm, h.draw_left F hk, hw⟩, hm, (h.symm.draw_left G hk).symm, hw⟩
  cases c with
  | modem call =>
    cases call with
    | exchange command success failure timeout => exact drawn hc
    | switch mode =>
      obtain rfl : mode = .command := hc
      exact drawn rfl
    | log line => exact ⟨⟨hm, h, hw⟩, hm, h, hw⟩
    | quality => exact hc.elim
    | pause ms => exact hc.elim
  | netif call =>
    cases call with
    | setAuth => exact drawn trivial
    | setDns => exact drawn trivial
    | _ => exact hc.elim
  | _ => exact hc.elim

/-- Before the dial, neither does a `pause` disturb the other side. -/
theorem aside_pause (hu : undialled) (ms : Nat) :
    Aside (I := Surroundings) (answer incidents F) (answer incidents G)
      (Agree cached M undialled) (.modem (.pause ms)) := by
  rintro m m' x y ⟨hm, h, hw⟩
  have hx : x.wait incidents = x := Progress.wait_undialled (hw hu)
  have hy : y.wait incidents = y :=
    Progress.wait_undialled (h.waits.symm.trans (hw hu))
  refine ⟨?_, ?_⟩
  · show Agree cached M undialled (m, x.wait incidents) (m', y)
    rw [hx]
    exact ⟨hm, h, hw⟩
  · show Agree cached M undialled (m, x) (m', y.wait incidents)
    rw [hy]
    exact ⟨hm, h, hw⟩

end Calls

-- ======================================================= whose calls

section Steps

variable {cached : Bool} {c : GsmCall}

/-- What an advisory step may do before the dial. -/
def GsmCall.idles (cached : Bool) (c : GsmCall) : Prop :=
  c.advises cached ∨ ∃ ms, c = .modem (.pause ms)

theorem idles_of_silent (h : c.silent = true) : c.idles cached := by
  cases c with
  | modem call =>
    cases call with
    | pause ms => exact .inr ⟨ms, rfl⟩
    | log line => exact .inl trivial
    | _ => cases h
  | _ => cases h

theorem binds_of_silent (h : c.silent = true) : c.binds cached := by
  cases c with
  | modem call =>
    cases call with
    | pause ms => trivial
    | log line => trivial
    | _ => cases h
  | _ => cases h

/-- The steps whose calls are all advisory. -/
theorem idles_of_covers {k : Step}
    (hk : k ∈ [.escape, .sim, .packetDomain, .attach, .cleanUp])
    (h : k.covers c) : c.idles cached := by
  rcases h with h | h
  · exact idles_of_silent h
  · have command {text : String} {timeout : Nat}
        (ht : text ∈ advisoryCommands) :
        (GsmCall.query text timeout).idles cached :=
      .inl (.inl ht)
    cases k with
    | escape =>
      rcases h with rfl | rfl
      · exact command (by decide)
      · exact .inl rfl
    | sim =>
      rw [show c = .query "AT+CPIN?" queryTimeout from h]
      exact command (by decide)
    | packetDomain =>
      rw [show c = .query "AT+CGREG?" queryTimeout from h]
      exact command (by decide)
    | attach =>
      rcases h with rfl | rfl
      · exact command (by decide)
      · exact command (by decide)
    | cleanUp =>
      rw [show c = .query "AT+CGACT=0,1" contextDeactivateTimeout from h]
      exact command (by decide)
    | _ => exact absurd hk (by decide)

/-- A short command that is not in the list belongs to a step that
decides. -/
theorem deciding_of_short {text : String}
    (ht : text ∉ advisoryCommands) (hl : text.length < 20) :
    ¬(Stream.command text).advisory cached := by
  rintro (h | ⟨apn, rfl, -⟩)
  · exact ht h
  · exact contextCommand_ne hl apn rfl

/-- The steps whose calls all decide. -/
theorem binds_of_covers {k : Step} (hk : k ∈ [.wake, .registration, .dial])
    (h : k.covers c) : c.binds cached := by
  rcases h with h | h
  · exact binds_of_silent h
  · cases k with
    | wake =>
      rw [show c = .query "AT" probeTimeout from h]
      exact deciding_of_short (by decide) (by decide)
    | registration =>
      rw [show c = .query "AT+CREG?" queryTimeout from h]
      exact deciding_of_short (by decide) (by decide)
    | dial =>
      rw [show c = .modem (.switch .data) from h]
      exact rfl
    | _ => exact absurd hk (by decide)

/-- Where an access point is searched for, the command that clears the
context decides. -/
theorem binds_of_accessPoint (h : Step.accessPoint.covers c) :
    c.binds false := by
  rcases h with h | h | h | h | h | h
  · exact binds_of_silent h
  · rw [h]
    rintro (hm | ⟨apn, ha, hne | hf⟩)
    · exact absurd hm (by decide)
    · have hl := contextCommand_length apn
      rw [← ha] at hl
      have h20 : "AT+CGDCONT=1,\"IP\",\"\"".length = 20 := by decide
      have h0 : apn.length = 0 := by omega
      exact hne (String.length_eq_zero_iff.1 h0)
    · cases hf
  · rw [h]
    exact deciding_of_short (by decide) (by decide)
  · rw [h]
    exact deciding_of_short (by decide) (by decide)
  · rw [h]
    exact deciding_of_short (by decide) (by decide)
  · rw [h]
    exact deciding_of_short (by decide) (by decide)

end Steps

-- ======================================================= two connections

namespace Manager

open Progress (answer)

/-- The managers are the same but for the last reading of the signal. -/
def Like (m m' : Manager) : Prop :=
  ∃ signal, m' = { m with cachedSignal := signal }

/-- They have not searched for an access point yet. -/
def Unsearched (cached : Bool) (m m' : Manager) : Prop :=
  m.Like m' ∧ m.apn.isDetected = cached

variable {α : Type} {cached : Bool} {F G : Replies}
variable {incidents : Incidents} {M : Manager → Manager → Prop}
variable {undialled : Prop} {act act' : Act α}

/-- The two connections, as they get from one agreement to another. -/
abbrev InStep (incidents : Incidents) (F G : Replies)
    (S S' : Manager × Progress → Manager × Progress → Prop)
    (act act' : Act α) (R : α → α → Prop) : Prop :=
  Coupled (I := Surroundings) (answer incidents F) (answer incidents G)
    S S' act act' R

/-- Advisory programs may be two different ones. -/
theorem inStep_advising
    (h : Spares id (fun c => c.advises cached) act)
    (h' : Spares id (fun c => c.advises cached) act') :
    InStep incidents F G (Agree cached M undialled)
      (Agree cached M undialled) act act' fun _ _ => True :=
  Proc.coupled_apart
    (fun m => (h m).mono (fun _ => aside_of_advises) fun _ hx => hx)
    (fun m => (h' m).mono (fun _ => aside_of_advises) fun _ hx => hx)

/-- Two advisory steps, each before the dial, leave the connections agreed,
whatever either does. -/
theorem inStep_idling (h : Spares id (fun c => c.idles cached) act)
    (h' : Spares id (fun c => c.idles cached) act') :
    InStep incidents F G (Agree cached M True) (Agree cached M True)
      act act' fun _ _ => True := by
  have aside (c : GsmCall) (hc : c.idles cached) :
      Aside (I := Surroundings) (answer incidents F) (answer incidents G)
        (Agree cached M True) c := by
    rcases hc with hc | ⟨ms, rfl⟩
    · exact aside_of_advises hc
    · exact aside_pause trivial ms
  exact Proc.coupled_apart
    (fun m => (h m).mono aside fun _ hx => hx)
    (fun m => (h' m).mono aside fun _ hx => hx)

/-- A program that decides keeps in step with itself. -/
theorem inStep_binding (hFG : Concur cached F G)
    {p : Proc Surroundings α}
    (hp : p.Asks fun c : GsmCall => c.binds cached
      ∧ (undialled → c ≠ .modem (.switch .data))) :
    InStep incidents F G (Agree cached M undialled)
      (Agree cached M undialled) (StateT.lift p) (StateT.lift p) Eq :=
  Proc.coupled_lift (hp.mono fun _ hc => shared_of_binds hFG hc.1 hc.2)

/-- Whatever is logged. -/
theorem inStep_log (line line' : Line) :
    InStep incidents F G (Agree cached M undialled)
      (Agree cached M undialled) (log line) (log line') fun _ _ => True :=
  inStep_advising (passive_ask trivial) (passive_ask trivial)

-- ------------------------------------------------------ before the dial

/-- An `advisory` step before the dial. -/
theorem inStep_advisory {k : Step} {p : Proc Modem.Session Unit}
    (hp : k.Within p)
    (hk : k ∈ [.escape, .sim, .packetDomain, .attach, .cleanUp]) :
    InStep incidents F G (Agree cached M True) (Agree cached M True)
      (advisory p).run (advisory p).run Eq := by
  have h : Spares id (fun c => c.idles cached) (session p) :=
    passive_session (hp.mono fun _ => idles_of_covers hk)
  exact (inStep_idling h h).attempt_lift

theorem ne_dial_of_covers {k : Step} {c : GsmCall}
    (hk : k ∈ [.wake, .registration]) (h : k.covers c) :
    c ≠ .modem (.switch .data) := by
  rintro rfl
  rcases h with h | h
  · cases h
  · cases k with
    | wake => cases h
    | registration => cases h
    | _ => exact absurd hk (by decide)

theorem inStep_wakeUp (hFG : Concur cached F G) :
    InStep incidents F G (Agree cached M True) (Agree cached M True)
      (fatal Steps.wakeUp).run (fatal Steps.wakeUp).run Eq :=
  inStep_binding hFG (Surroundings.asks_ofSession
    (Step.within_wakeUp.mono fun _ hc =>
      ⟨binds_of_covers (by decide) hc,
        fun _ => ne_dial_of_covers (by decide) hc⟩))

/-- The diagnosis is advisory. -/
theorem inStep_reportModemError :
    InStep incidents F G (Agree cached M undialled)
      (Agree cached M undialled) (session Steps.reportModemError)
      (session Steps.reportModemError) fun _ _ => True := by
  have asked : Spares id (fun c => c.advises cached)
      (session Steps.reportModemError) :=
    passive_session (asks_reportModemError (.inl (by decide))
      fun _ => trivial)
  exact inStep_advising asked asked

/-- A step that decides, with the diagnosis after it. -/
theorem inStep_reported (hFG : Concur cached F G)
    {p : Proc Modem.Session (Except GsmError Unit)}
    (hp : p.Asks fun c => GsmCall.binds cached (.modem c)
      ∧ (undialled → GsmCall.modem c ≠ .modem (.switch .data))) :
    InStep incidents F G (Agree cached M undialled)
      (Agree cached M undialled) (reported p).run (reported p).run Eq := by
  have step : InStep incidents F G (Agree cached M undialled)
      (Agree cached M undialled) (session p) (session p) Eq :=
    inStep_binding hFG (Surroundings.asks_ofSession hp)
  refine step.bind fun r r' hr => ?_
  subst hr
  cases r with
  | ok => exact Proc.coupled_pure rfl fun _ _ hs => hs
  | error e =>
    exact inStep_reportModemError.bind fun _ _ _ =>
      Proc.coupled_pure rfl fun _ _ hs => hs

/-- Registration is waited for (`waitForRegistration`) alike, and fails
alike. -/
theorem inStep_registration (hFG : Concur cached F G) :
    InStep incidents F G (Agree cached M True) (Agree cached M True)
      (reported Steps.waitForRegistration).run
      (reported Steps.waitForRegistration).run Eq :=
  inStep_reported hFG (Step.within_waitForRegistration.mono fun _ hc =>
    ⟨binds_of_covers (by decide) hc,
      fun _ => ne_dial_of_covers (by decide) hc⟩)

-- --------------------------------------------------------- the signal

/-- What a reading of the signal decides. -/
def ruling : Except ChannelError SignalQuality →
    Except GsmError (Option Int)
  | .ok reading =>
    if reading.rssi = rssiNoSignal then .error .noSignal
    else .ok (some reading.rssi)
  | .error _ => .ok none

/-- Whatever is said of a reading, that is what comes of it. -/
theorem readSignal_eq :
    ∃ rest, Steps.readSignal
        = Proc.ask (I := Modem.Session) .quality >>= rest
      ∧ ∀ r, ∃ line, rest r
        = Modem.Session.log line >>= fun _ => pure (ruling r) := by
  refine ⟨_, rfl, fun r => ?_⟩
  cases r with
  | error e => exact ⟨_, rfl⟩
  | ok reading =>
    obtain ⟨rssi, ber⟩ := reading
    dsimp only [ruling]
    split
    · exact ⟨_, rfl⟩
    · split
      · exact ⟨_, rfl⟩
      · exact ⟨_, rfl⟩

/-- The strength is forgotten, the decision is not. -/
theorem ruling_map (r : Except ChannelError SignalQuality) :
    (ruling r).map (fun _ => ())
      = if unheard r = true then .error .noSignal else .ok () := by
  cases r with
  | error e => rfl
  | ok reading =>
    unfold ruling unheard
    by_cases h : reading.rssi = rssiNoSignal <;> simp [h, Except.map]

/-- Two readings of the signal agree on whether there is none. -/
theorem inStep_quality (hFG : Concur cached F G) :
    InStep incidents F G (Agree cached M undialled)
      (Agree cached M undialled)
      (session (Proc.ask (I := Modem.Session) .quality))
      (session (Proc.ask (I := Modem.Session) .quality))
      fun r r' => unheard r = unheard r' := by
  rintro ⟨m, x⟩ ⟨m', y⟩ ⟨hm, h, hw⟩
  have hn : x.asked .quality = y.asked .quality := h.asked _ id
  refine ⟨?_, hm, h.draw F G .quality, hw⟩
  show unheard (F .quality (x.asked .quality))
    = unheard (G .quality (y.asked .quality))
  rw [hn]
  exact hFG.signal _

/-- Both find that there is no signal, or neither does. -/
theorem inStep_checkSignal (hFG : Concur cached F G) :
    InStep incidents F G (Agree cached M undialled)
      (Agree cached M undialled) (session Steps.checkSignal)
      (session Steps.checkSignal)
      fun r r' => r.map (fun _ => ()) = r'.map fun _ => () := by
  have told : Spares id (fun c => c.advises cached)
      (session Steps.reportFunctionality) :=
    passive_session (Step.asks_reportFunctionality (.inl (by decide))
      fun _ => trivial)
  obtain ⟨rest, hrest, hline⟩ := readSignal_eq
  unfold Steps.checkSignal
  rw [session_bind, hrest, session_bind]
  refine (inStep_advising told told).bind fun _ _ _ => ?_
  refine (inStep_quality hFG).bind fun r r' hr => ?_
  obtain ⟨line, hl⟩ := hline r
  obtain ⟨line', hl'⟩ := hline r'
  rw [hl, hl', session_bind, session_bind]
  have said (line : Line) : Spares id (fun c => c.advises cached)
      (session (Modem.Session.log line)) :=
    passive_session (Proc.asks_ask.2 trivial)
  refine (inStep_advising (said line) (said line')).bind fun _ _ _ => ?_
  refine Proc.coupled_pure ?_ fun _ _ hs => hs
  rw [ruling_map, ruling_map, hr]

theorem Unsearched.measured {m m' : Manager}
    (h : m.Unsearched cached m') (a b : Int) :
    Unsearched cached { m with cachedSignal := a }
      { m' with cachedSignal := b } := by
  obtain ⟨⟨signal, rfl⟩, hc⟩ := h
  exact ⟨⟨b, rfl⟩, hc⟩

/-- The signal ends both connections or neither; what was read is all that
may differ after it. -/
theorem inStep_keepSignal (hFG : Concur cached F G) :
    InStep incidents F G (Agree cached (Unsearched cached) True)
      (Agree cached (Unsearched cached) True) keepSignal.run
      keepSignal.run Eq := by
  unfold keepSignal
  rw [ExceptT.run_bind]
  refine (inStep_checkSignal hFG).bind fun r r' hr => ?_
  cases r with
  | error e =>
    cases r' with
    | error e' =>
      cases hr
      exact Proc.coupled_pure rfl fun _ _ hs => hs
    | ok v' => cases hr
  | ok v =>
    cases r' with
    | error e' => cases hr
    | ok v' =>
      rintro ⟨m, x⟩ ⟨m', y⟩ ⟨hm, h, hw⟩
      -- what is not kept anew is kept as it was
      cases v <;> cases v' <;>
        exact ⟨rfl, hm.measured _ _, h, hw⟩

-- -------------------------------------------------- the access point

/-- Both have the access point that one has already, or find the same. -/
theorem inStep_findAccessPoint (hFG : Concur cached F G) :
    InStep incidents F G (Agree cached (Unsearched cached) True)
      (Agree cached Like True) findAccessPoint.run findAccessPoint.run
      Eq := by
  have logged (line : Line) (r : Except GsmError Unit) :
      InStep incidents F G (Agree cached Like True)
        (Agree cached Like True) (log line >>= fun _ => pure r)
        (log line >>= fun _ => pure r) Eq :=
    (inStep_log line line).bind fun _ _ _ =>
      Proc.coupled_pure rfl fun _ _ hs => hs
  unfold findAccessPoint
  rw [ExceptT.run_mk]
  rintro ⟨m, x⟩ ⟨m', y⟩ ⟨⟨hlike, hc⟩, h, hw⟩
  obtain ⟨signal, rfl⟩ := id hlike
  rw [Proc.settle_get, Proc.settle_get]
  dsimp only
  by_cases hd : m.apn.isDetected = true
  · rw [if_pos hd, if_pos hd]
    exact logged _ _ _ _ ⟨hlike, h, hw⟩
  · rw [if_neg hd, if_neg hd]
    have hf : cached = false := hc.symm.trans (Bool.eq_false_iff.2 hd)
    subst hf
    have detected : InStep incidents F G (Agree false Like True)
        (Agree false Like True)
        (session (Apn.detect m.settings.fallbackApns m.apn))
        (session (Apn.detect m.settings.fallbackApns m.apn)) Eq := by
      refine inStep_binding hFG (Surroundings.asks_ofSession
        ((Step.within_detect _ _).mono fun c hc =>
          ⟨binds_of_accessPoint hc, fun _ => ?_⟩))
      rintro ⟨⟩
      rcases hc with hc | hc | hc | hc | hc | hc <;> cases hc
    refine ((inStep_log _ _).bind fun _ _ _ => detected.bind
      fun found found' hfound => ?_) _ _ ⟨hlike, h, hw⟩
    subst hfound
    obtain ⟨result, apn⟩ := found
    -- what is written back is the manager that was read first
    have written : InStep incidents F G (Agree false Like True)
        (Agree false Like True)
        (set { m with apn } : Act PUnit)
        (set { m with apn, cachedSignal := signal } : Act PUnit)
        fun _ _ => True := by
      rintro ⟨_, x⟩ ⟨_, y⟩ ⟨-, h, hw⟩
      exact ⟨trivial, ⟨signal, rfl⟩, h, hw⟩
    refine written.bind fun _ _ _ => ?_
    cases result with
    | ok source => exact logged _ _
    | error e => exact logged _ _

/-- The command that defines the context is advisory, or else the same in
both. -/
theorem inStep_configureContext (hFG : Concur cached F G) :
    InStep incidents F G (Agree cached Like True)
      (Agree cached Like True) configureContext configureContext
      fun _ _ => True := by
  rintro ⟨m, x⟩ ⟨m', y⟩ ⟨hm, h, hw⟩
  obtain ⟨signal, rfl⟩ := id hm
  unfold configureContext
  rw [Proc.settle_get, Proc.settle_get]
  by_cases ha : (Stream.command (Steps.contextCommand
      m.apn.apn.text)).advisory cached
  · have asked : Spares id (fun c => c.advises cached)
        (session (Steps.configureContext m.apn.apn.text)) :=
      passive_session (Step.asks_configureContext ha fun _ => trivial)
    exact inStep_advising asked asked _ _ ⟨hm, h, hw⟩
  · have asked : (Steps.configureContext m.apn.apn.text).Asks fun c =>
        GsmCall.binds cached (.modem c)
          ∧ (True → GsmCall.modem c ≠ .modem (.switch .data)) :=
      Step.asks_configureContext ⟨ha, nofun⟩ fun _ => ⟨trivial, nofun⟩
    exact ((inStep_binding hFG (Surroundings.asks_ofSession asked)).mono
      (fun _ _ hs => hs) (fun _ _ _ => trivial) fun _ _ hs => hs) _ _
      ⟨hm, h, hw⟩

theorem inStep_authenticate :
    InStep incidents F G (Agree cached M True) (Agree cached M True)
      authenticate authenticate fun _ _ => True := by
  have asked : Spares id (fun c => c.idles cached) authenticate := by
    refine passive_authenticate.mono fun c hc => ?_
    rcases hc with hc | ⟨user, password, rfl⟩
    · exact idles_of_silent hc
    · exact .inl trivial
  exact inStep_idling asked asked

/-- A single call that decides. -/
theorem inStep_ask (hFG : Concur cached F G) (c : GsmCall)
    (hc : c.binds cached)
    (hd : undialled → c ≠ .modem (.switch .data)) :
    InStep incidents F G (Agree cached M undialled)
      (Agree cached M undialled) (ask c) (ask c) Eq :=
  inStep_binding hFG (Proc.asks_ask.2 ⟨hc, hd⟩)

-- ------------------------------------------------------- from the dial on

theorem inStep_dial (hFG : Concur cached F G) :
    InStep incidents F G (Agree cached M False) (Agree cached M False)
      (reported Steps.enterDataMode).run (reported Steps.enterDataMode).run
      Eq :=
  inStep_reported hFG (Step.within_enterDataMode.mono fun _ hc =>
    ⟨binds_of_covers (by decide) hc, False.elim⟩)

/-- The trial of the resolvers takes its time, whatever comes of it. -/
theorem inStep_resolve (host : String) (timeout : Nat) :
    InStep incidents F G (Agree cached M False) (Agree cached M False)
      (ask (.resolve host timeout)) (ask (.resolve host timeout))
      fun _ _ => True := by
  rintro ⟨m, x⟩ ⟨m', y⟩ ⟨hm, h, -⟩
  exact ⟨trivial, hm, h.wait.draw F G .resolve, False.elim⟩

theorem inStep_setUpResolvers (hFG : Concur cached F G) :
    InStep incidents F G (Agree cached Like False)
      (Agree cached Like False) setUpResolvers setUpResolvers
      fun _ _ => True := by
  rintro ⟨m, x⟩ ⟨m', y⟩ ⟨hm, h, hw⟩
  obtain ⟨signal, rfl⟩ := id hm
  unfold setUpResolvers
  rw [Proc.settle_get, Proc.settle_get]
  dsimp only
  have set : Spares id (fun c => c.advises cached)
      (ask (.netif (.setDns m.settings.dns.primary
        m.settings.dns.secondary))) :=
    passive_ask trivial
  refine (show InStep incidents F G (Agree cached Like False)
      (Agree cached Like False) _ _ fun _ _ => True from
    (inStep_advising set set).bind fun r r' _ => ?_) _ _ ⟨hm, h, hw⟩
  -- either way a line is logged, and then the trial is made
  rcases r with e | _ <;> rcases r' with e' | _ <;>
    refine (inStep_log _ _).bind fun _ _ _ =>
      (inStep_ask hFG (.modem (.pause _)) trivial nofun).bind fun _ _ _ =>
      (inStep_resolve _ _).bind fun found found' _ => ?_
  all_goals
    rcases found with _ | e | address <;>
      rcases found' with _ | e' | address' <;>
      exact inStep_log _ _

/-- A connection is given up for the same reason. -/
theorem inStep_abort (why : String) :
    InStep incidents F G (Agree cached M undialled)
      (Agree cached M undialled) (abort why) (abort why) Eq := by
  have asked : Spares id (fun c => c.advises cached)
      (session Steps.abortDataSession) :=
    passive_session (asks_abortDataSession rfl (.inl (by decide))
      fun _ => trivial)
  exact (inStep_log _ _).bind fun _ _ _ =>
    (inStep_advising asked asked).bind fun _ _ _ =>
    Proc.coupled_pure rfl fun _ _ hs => hs

/-- The session is waited for alike, and comes to the same. -/
theorem inStep_awaitSession (hFG : Concur cached F G) :
    InStep incidents F G (Agree cached Like False)
      (Agree cached Like False) awaitSession.run awaitSession.run Eq := by
  unfold awaitSession
  rw [ExceptT.run_mk]
  refine (inStep_log _ _).bind fun _ _ _ => ?_
  refine (inStep_ask hFG (.awaitEvent _) trivial nofun).bind
    fun event event' he => ?_
  subst he
  rcases event with _ | info | _ | code
  · exact inStep_abort _
  · refine (inStep_setUpResolvers hFG).bind fun _ _ _ => ?_
    refine (inStep_ask hFG (.record .markConnected) trivial nofun).bind
      fun confirmed confirmed' hc => ?_
    subst hc
    cases confirmed with
    | true => exact Proc.coupled_pure rfl fun _ _ hs => hs
    | false => exact inStep_abort _
  · exact inStep_abort _
  · exact inStep_abort _

-- ---------------------------------------------------- the whole of it

/-- What is agreed on before the dial and before the search is agreed on
after them. -/
theorem agree_later (s s' : Manager × Progress)
    (h : Agree cached Like True s s') : Agree cached Like False s s' :=
  ⟨h.1, h.2.1, False.elim⟩

/-- Once the search is over, the managers agree on the access point, and
the waits count. -/
theorem agree_searched (s s' : Manager × Progress)
    (h : Agree cached (Unsearched cached) True s s') :
    Agree cached Like False s s' :=
  ⟨h.1.1, h.2.1, False.elim⟩

/-- All steps of a connection, in both: they come to the same. -/
theorem inStep_sequence (hFG : Concur cached F G) :
    InStep incidents F G (Agree cached (Unsearched cached) True)
      (Agree cached Like False) sequence.run sequence.run Eq := by
  refine (inStep_advisory Step.within_forceCommandMode (by decide)).attempt
    ?_ agree_searched
  refine (inStep_wakeUp hFG).attempt ?_ agree_searched
  refine (inStep_keepSignal hFG).attempt ?_ agree_searched
  refine (inStep_advisory Step.within_checkSim (by decide)).attempt ?_
    agree_searched
  refine (inStep_registration hFG).attempt ?_ agree_searched
  refine (inStep_findAccessPoint hFG).attempt ?_ agree_later
  refine (inStep_advisory Step.within_waitForGprs (by decide)).attempt ?_
    agree_later
  refine (inStep_advisory Step.within_ensureAttached (by decide)).attempt
    ?_ agree_later
  refine (inStep_configureContext hFG).attempt_lift.attempt ?_ agree_later
  refine inStep_authenticate.attempt_lift.attempt ?_ agree_later
  refine (inStep_advisory Step.within_deactivateContext
    (by decide)).attempt ?_ agree_later
  have forget : InStep incidents F G (Agree cached Like True)
      (Agree cached Like False) (ask (.record .resetEvents))
      (ask (.record .resetEvents)) Eq :=
    (inStep_ask hFG (.record .resetEvents) trivial nofun).mono
      (fun _ _ hs => hs) (fun _ _ hr => hr) agree_later
  refine forget.attempt_lift.attempt ?_ fun _ _ hs => hs
  exact (inStep_dial hFG).attempt (inStep_awaitSession hFG)
    fun _ _ hs => hs

/-- What is recorded is recorded in both. -/
theorem inStep_modify (M' : Manager → Manager → Prop)
    {change : Manager → Manager}
    (h : ∀ m m', M m m' → M' (change m) (change m')) :
    InStep incidents F G (Agree cached M undialled)
      (Agree cached M' undialled) (modify change : Act PUnit)
      (modify change : Act PUnit) fun _ _ => True := by
  rintro ⟨m, x⟩ ⟨m', y⟩ ⟨hm, hp⟩
  exact ⟨trivial, h m m' hm, hp⟩

/-- Two connections come to the same, and leave managers that differ in the
last reading of the signal at most. -/
theorem inStep_connect (hFG : Concur cached F G) :
    InStep incidents F G (Agree cached (Unsearched cached) True)
      (Agree cached Like False) connect connect Eq := by
  -- what follows the last step is logged and recorded alike
  have ended (line : Line) (r : Except GsmError Unit) {M : _} {u : Prop}
      (hM : ∀ s s', Agree cached M u s s' → Agree cached Like False s s') :
      InStep incidents F G (Agree cached M u) (Agree cached Like False)
        (log line >>= fun _ => pure r) (log line >>= fun _ => pure r) Eq :=
    (inStep_log line line).bind fun _ _ _ => Proc.coupled_pure rfl hM
  rintro ⟨m, x⟩ ⟨m', y⟩ ⟨hm, h, hw⟩
  obtain ⟨⟨signal, rfl⟩, hc⟩ := id hm
  unfold connect
  rw [Proc.settle_get, Proc.settle_get]
  dsimp only
  split
  · exact ended _ _ agree_searched _ _ ⟨hm, h, hw⟩
  · refine ((inStep_ask hFG (.record .isConnected) trivial nofun).bind
      fun connected connected' he => ?_) _ _ ⟨hm, h, hw⟩
    subst he
    cases connected with
    | true => exact ended _ _ agree_searched
    | false =>
      refine (inStep_log _ _).bind fun _ _ _ => ?_
      refine (inStep_modify (Unsearched cached) ?_).bind
        fun _ _ _ => ?_
      · rintro _ _ ⟨⟨signal, rfl⟩, hc⟩
        exact ⟨⟨signal, rfl⟩, hc⟩
      · refine (inStep_sequence hFG).bind fun r r' hr => ?_
        subst hr
        cases r with
        | ok =>
          refine (inStep_modify Like ?_).bind fun _ _ _ =>
            ended _ _ fun _ _ hs => hs
          rintro _ _ ⟨signal, rfl⟩
          exact ⟨signal, rfl⟩
        | error e =>
          refine (inStep_log _ _).bind fun _ _ _ =>
            (inStep_modify Like ?_).bind fun _ _ _ =>
              Proc.coupled_pure rfl fun _ _ hs => hs
          rintro _ _ ⟨signal, rfl⟩
          exact ⟨signal, rfl⟩

end Manager

/-- Two connections that start alike, with modems that `Concur`, so that
they differ only in what the advisory steps are answered: whatever these
answers are, both return the same, and end with the same access point and
the same record of the link. The managers differ in the signal strength at
most. -/
theorem connect_advice {m : Manager} {l : Link} (incidents : Incidents)
    {F G : Replies} (hFG : Concur m.apn.isDetected F G) :
    let one := (Manager.connect.run m).run
      (Progress.answer incidents F) { link := l }
    let two := (Manager.connect.run m).run
      (Progress.answer incidents G) { link := l }
    one.1.1 = two.1.1
      ∧ one.1.2.apn = two.1.2.apn
      ∧ one.2.link = two.2.link
      ∧ ∃ signal, two.1.2 = { one.1.2 with cachedSignal := signal } := by
  intro one two
  have inStep : Manager.InStep incidents F G _ _ Manager.connect
      Manager.connect Eq := Manager.inStep_connect hFG
  obtain ⟨hr, hlike, halike, -⟩ :=
    inStep (m, { link := l }) (m, { link := l })
      ⟨⟨⟨m.cachedSignal, rfl⟩, rfl⟩, .refl _, fun _ => rfl⟩
  obtain ⟨signal, hm⟩ := hlike
  refine ⟨hr, ?_, halike.link, signal, hm⟩
  exact (congrArg Manager.apn hm).symm

/-- A modem that grants whatever it is asked. -/
def willing : Replies
  | .command _, _ => .ok "+CREG: 0,1\r\n"
  | .switch _, _ => .ok ()
  | .quality, _ => .ok ⟨20, 0⟩
  | .setAuth, _ => .ok ()
  | .setDns, _ => .ok ()
  | .resolve, _ => none

/-- One that grants no more than what decides. -/
def grudging : Replies
  | .command text, _ =>
    if text ∈ advisoryCommands ∨ text = Steps.contextCommand "internet"
    then .error .io
    else .ok "+CREG: 0,1\r\n"
  | .switch .command, _ => .error (.modeSwitch .command)
  | .switch .data, _ => .ok ()
  | .quality, _ => .error .io
  | .setAuth, _ => .error .auth
  | .setDns, _ => .error .dns
  | .resolve, _ => some (.error .resolve)

/-- The two modems, one that grants everything and one that grants what
decides only, `Concur`. -/
theorem concur_grudging : Concur false willing grudging := by
  refine ⟨fun k hk hq => ?_, fun n => rfl⟩
  cases k with
  | command text =>
    have hn : ¬(text ∈ advisoryCommands
        ∨ text = Steps.contextCommand "internet") := by
      rintro (hm | rfl)
      · exact hk (.inl hm)
      · exact hk (.inr ⟨"internet", rfl, .inl (by decide)⟩)
    exact funext fun n => (if_neg hn).symm
  | switch mode =>
    cases mode with
    | command => exact absurd rfl hk
    | data => rfl
  | quality => exact absurd rfl hq
  | setAuth | setDns | resolve => exact absurd trivial hk

/-- The address comes while the session is waited for. -/
def arriving : Incidents where
  onDial _ := []
  onWait
    | 0 => [.ipAcquired
        ⟨⟨10, 0, 0, 2⟩, ⟨255, 255, 255, 255⟩, ⟨10, 0, 0, 1⟩⟩]
    | _ => []

/-- Both connections succeed, and leave a connected link. -/
theorem connect_advice_grudging :
    let m : Manager := { (Manager.new .standard).value with
      active := true, recorded := .idle }
    let two := (Manager.connect.run m).run
      (Progress.answer arriving grudging) { link := {} }
    two.1.1 = .ok () ∧ two.2.link.connected = true
      ∧ two.1.2.apn.apn.text = "internet" := by
  intro m two
  obtain ⟨hr, ha, hl, -⟩ := connect_advice (m := m) (l := {}) arriving
    concur_grudging
  refine ⟨?_, ?_, ?_⟩
  · rw [← hr]
    decide +kernel
  · rw [← hl]
    decide +kernel
  · rw [← ha]
    decide +kernel

end Uplink.Gsm
