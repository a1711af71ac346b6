/-
Where the bytes go that come in around a dial.

A read of the line belongs to the port that asked for it. The answer to a
dial is collected from the port of the command channel, and the session
that the dial starts has a fresh port of its own. So the line is handed
over between two reads, and never within one.

# The read that completes CONNECT

The dial is connected with the first read after which the token is there
(`ensures_switch_data`). All that this read brought stays on the side of
the command channel: some of it was heard along with the token, and the
others wait in the port, where the next exchange hears them first
(`ensures_exchange`). The session gets the reads behind it, each byte once
and in order (`meets_supervise`). So nothing that follows the line of the
token is lost to the session exactly if that read ends with it or before
(`Uart.handed_over`).
-/
import Mathlib.Data.List.Basic
import Uplink.Board.HandOver
import Uplink.Board.Ppp
import Uplink.Proofs.Board.Calm
import Uplink.Proofs.Board.Listening
import Uplink.Proofs.Modem.Wire

namespace Uplink.Board

open Modem (Collector Mode Response Serial SerialCall asciiText)
open Modem.Channel (ensures_ask)
open Proc (Asks Ensures Meets Runs asks_ask asks_bind asks_done meets_bind
  meets_call)

variable {α : Type}

-- ================================================================ the line

/-- A serial line: what its next reads will bring, and what its two sides
hold of those that were made. -/
structure Uart where
  incoming : List (List UInt8)
  /-- the port of the command channel, with the answer it collects -/
  command : Listening
  session : Port := {}
  /-- what the port of the session has handed out -/
  delivered : List UInt8 := []

/-- Whoever waits for this reads the line meanwhile. -/
def Wait.transfers : Wait → Bool
  | bytes _ => true
  | verdict => true
  | _ => false

namespace Uart

def port (u : Uart) : Side → Port
  | .command => u.command.port
  | .session => u.session

/-- A side waits and reads the line until it has what it waits for, or
gives up; `came` says which. -/
def Awaits (u : Uart) (came : Bool) : Wait → Uart → Prop
  | .verdict, u' =>
    ∃ reads rest l, u.incoming = reads ++ rest
      ∧ u.command.run (reads.map .bytes) = (l, [])
      ∧ l.verdict.isSome = came
      ∧ u' = { u with incoming := rest, command := l }
  | .bytes side, u' =>
    ∃ reads rest port, u.incoming = reads ++ rest
      ∧ (u.port side).fill (reads.map .bytes)
        = (if came then .ready else .starved, port, [])
      ∧ u' = match side with
        | .command =>
          { u with incoming := rest, command := { u.command with port } }
        | .session => { u with incoming := rest, session := port }
  | _, u' => u' = u

/-- A wait ends with what has the place. If the line is read meanwhile,
what is waited for comes then, or does not. -/
def Wakes (u : Uart) (waits : List Wait) (place : Nat) (u' : Uart) : Prop :=
  match waits.find? Wait.transfers with
  | none => u' = u
  | some w => u.Awaits (waits[place]? = some w) w u'

/-- The calls on the line, which are answered at once. -/
def answer (u : Uart) : (call : LineCall) → call.Answer × Uart
  | .attach .command =>
    ((), { u with command := { u.command with port := {} } })
  | .attach .session => ((), { u with session := {}, delivered := [] })
  | .isSpent side => ((u.port side).isSpent, u)
  | .write content => (some content.length, u)
  | .flush => (true, u)
  | .peek side => (some (u.port side).rest, u)
  | .read .command most =>
    let (content, port) := u.command.port.read most
    (some content, { u with command := { u.command with port } })
  | .read .session most =>
    let (content, port) := u.session.read most
    (some content,
      { u with session := port, delivered := u.delivered ++ content })
  | .consume .command count =>
    let port := u.command.port.consume count
    ((), { u with command := { u.command with port } })
  | .consume .session count =>
    ((), { u with
      session := u.session.consume count
      delivered := u.delivered ++ u.session.rest.take count })
  | .listen collector =>
    let l := Listening.start u.command.port collector
    (l.verdict.isSome, { u with command := l })
  | .verdict =>
    (u.command.verdict,
      { u with command := { u.command with verdict := none } })

end Uart

/-- A board on which bytes come in by some reads. Whether others go out,
and all else, is left open. -/
def serial : Behaviour Board Uart :=
  fun c u r u' =>
    match c, r with
    | .await waits, place => u.Wakes waits place u'
    | .line (.write _), _ => u' = u
    | .line .flush, _ => u' = u
    | .line call, r => (r, u') = u.answer call
    | _, _ => u' = u

-- ================================================== the command channel

namespace Uart

/-- The command channel hears some of what its port and the next `n` reads
hold, and the rest stays in its port. Before the last of the reads the
token was not there. -/
structure Passes (token : List Char) (u : Uart) (n : Nat)
    (heard : List UInt8) (u' : Uart) : Prop where
  incoming : u'.incoming = u.incoming.drop n
  whole : heard ++ u'.command.port.rest
    = u.command.port.rest ++ (u.incoming.take n).flatten
  missing : ∀ k < n, u.command.port.rest ++ (u.incoming.take k).flatten ≠ [] →
    Text.contains token (asciiText
      (u.command.port.rest ++ (u.incoming.take k).flatten)) = false

/-- The line as the command channel sees it, which begins each answer
anew: what it collects it was given, and in an answer of success the token
is there. -/
def collecting : Contract Serial Uart where
  allows c _ :=
    match c with
    | .listen collector _ => collector.heard = []
    | _ => True
  moves c u r u' :=
    match c, r with
    | .listen collector _, verdict =>
      ∃ n heard, u.Passes collector.success n heard u'
        ∧ ∀ response, verdict = some (.accepted response) →
            response.toList = asciiText heard
              ∧ Text.contains collector.success (asciiText heard) = true
    | _, _ => u' = u

end Uart

open Uart (collecting)

/-- Programs that only put bytes out leave the line's other direction
alone. -/
theorem meets_puts {p : Proc Board α} (hp : p.Asks Call.puts) (u : Uart) :
    p.Meets serial.contract u fun _ u' => u' = u := by
  refine hp.meets (fun c s hc hs => ⟨trivial, fun r s' hr => ?_⟩) rfl
  subst hs
  cases c with
  | await waits =>
    obtain rfl : waits = [.turn] := hc
    exact hr
  | line call =>
    cases call with
    | write => exact hr
    | flush => exact hr
    | _ => exact hc.elim
  | _ => exact hc.elim

/-- Nothing comes over the line in a `pause`. -/
theorem meets_pause (milliseconds : Nat) (u : Uart) :
    (pause milliseconds).Meets serial.contract u fun _ u' => u' = u := by
  refine meets_call.2 ⟨trivial, ?_⟩
  rintro timer _ rfl
  refine meets_call.2 ⟨trivial, ?_⟩
  rintro place _ rfl
  rfl

/-- What is collected from the port and some reads, the command channel
heard of them. -/
theorem Uart.passes_of_heard {u : Uart} {token : List Char}
    {reads rest : List (List UInt8)} {l : Listening} {heard : List UInt8}
    (hsplit : u.incoming = reads ++ rest)
    (h : l.Heard token (u.command.port.rest ++ reads.flatten) heard)
    (hmissing : ∀ k < reads.length,
      u.command.port.rest ++ (reads.take k).flatten ≠ [] →
        Text.contains token (asciiText
          (u.command.port.rest ++ (reads.take k).flatten)) = false)
    (verdict : Option Modem.Verdict) :
    u.Passes token reads.length heard
      { u with incoming := rest, command := { l with verdict } } := by
  refine ⟨?_, ?_, fun k hk => ?_⟩
  · rw [hsplit, List.drop_left]
  · rw [hsplit, List.take_left]
    exact h.whole
  · rw [hsplit, List.take_append_of_le_length hk.le]
    exact hmissing k hk

/-- An answer is collected from what the port holds, and then read by
read until it is settled or the time is over. -/
theorem meets_listen (collector : Collector) (timer : Timer) (u : Uart)
    (hc : collector.heard = []) :
    (race (.timer timer) (Line.listen collector)).Meets serial.contract u
      fun r u' => ∃ n heard, u.Passes collector.success n heard u'
        ∧ ∀ response, r.join = some (.accepted response) →
            response.toList = asciiText heard
              ∧ Text.contains collector.success (asciiText heard)
                = true := by
  obtain ⟨heard, h, ha⟩ := Listening.heard_start u.command.port collector hc
  have begun : (Listening.start u.command.port collector).Heard
      collector.success
      (u.command.port.rest ++ ([] : List (List UInt8)).flatten) heard := by
    rwa [List.flatten_nil, List.append_nil]
  unfold Line.listen
  rw [race_ask_bind rfl]
  refine meets_call.2 ⟨trivial, ?_⟩
  rintro settled _ ⟨⟩
  cases hsettled : (Listening.start u.command.port collector).verdict.isSome
    with
  | true =>
    refine meets_call.2 ⟨trivial, ?_⟩
    rintro verdict _ ⟨⟩
    exact ⟨0, heard, Uart.passes_of_heard rfl begun nofun none,
      fun response hr => h.accepted response hr⟩
  | false =>
    -- wait for the line
    refine meets_call.2 ⟨trivial, ?_⟩
    rintro place _ rfl
    show Meets _ (if place < 1 then _ else _) _ _
    split
    · -- wait for the answer
      refine meets_call.2 ⟨trivial, ?_⟩
      rintro place _ ⟨reads, rest, l, hsplit, hrun, hcame, rfl⟩
      obtain ⟨heard', h', -, hmissing⟩ := h.run ha hrun
      have passes := Uart.passes_of_heard (u := u) hsplit h' hmissing
      show Meets _ (if place < 1 then _ else _) _ _
      split
      · refine meets_call.2 ⟨trivial, ?_⟩
        rintro verdict _ ⟨⟩
        exact ⟨_, heard', passes none,
          fun response hr => h'.accepted response hr⟩
      · exact ⟨_, heard', passes l.verdict, nofun⟩
    · exact ⟨0, heard, Uart.passes_of_heard rfl begun nofun _, nofun⟩

/-- The board answers the command channel as such a line does. -/
theorem meets_answer (call : SerialCall) (u : Uart)
    (ha : collecting.allows call u) :
    (Line.answer call).Meets serial.contract u
      fun r u' => collecting.moves call u r u' := by
  cases call with
  | write content => exact meets_puts (Line.asks_writeAll _ _) u
  | flush => exact meets_puts Line.asks_flush u
  | listen collector timeout =>
    refine meets_bind.2 (meets_call.2 ⟨trivial, ?_⟩)
    rintro timer _ rfl
    exact meets_listen collector timer _ ha
  | pause milliseconds => exact meets_pause _ u
  | log line =>
    refine meets_call.2 ⟨trivial, ?_⟩
    rintro ⟨⟩ _ rfl
    rfl

/-- What an exchange that succeeds was told: it heard some of what its
port and the next `n` reads hold. -/
def Uart.Tells (u : Uart) (success : String) (response : Response)
    (n : Nat) (heard : List UInt8) (u' : Uart) : Prop :=
  u.Passes success.toList n heard u'
    ∧ response.toList = asciiText heard
    ∧ Text.contains success.toList (asciiText heard) = true

-- ============================================================= exchanges

namespace HandOver

variable {u : Uart} {mode : Mode}

/-- To put bytes out (`writeAll`) takes nothing from the line. -/
theorem ensures_writeAll (pieces : List (List UInt8)) :
    Ensures collecting (Modem.Channel.writeAll pieces) mode u
      fun _ _ u' => u' = u := by
  induction pieces with
  | nil => rfl
  | cons piece rest ih =>
    refine Proc.ensures_bind.2 (ensures_ask.2 ⟨trivial, ?_⟩)
    rintro (_ | _) _ rfl
    · rfl
    · exact ih

/-- A command that is sent takes nothing from the line. -/
theorem ensures_transmit (command : String) :
    Ensures collecting (Modem.Channel.transmit command) mode u
      fun _ _ u' => u' = u := by
  have hrest : Ensures collecting (do
      if ← Modem.Channel.writeAll (Modem.Channel.pieces command)
      then Modem.Channel.ask .flush else pure false) mode u
      fun _ _ u' => u' = u := by
    refine Proc.ensures_bind.2 ((ensures_writeAll _).mono ?_)
    rintro (_ | _) mode _ rfl
    · rfl
    · exact ensures_ask.2 ⟨trivial, fun _ _ hr => hr⟩
  unfold Modem.Channel.transmit
  split
  · refine Proc.ensures_bind.2 (ensures_ask.2 ⟨trivial, ?_⟩)
    rintro _ _ rfl
    exact hrest
  · exact hrest

/-- An `exchange` that succeeds was told its response by some `n` reads. -/
theorem ensures_exchange_collecting (command success failure : String)
    (timeout : Nat) :
    Ensures collecting
      (Modem.Channel.exchange command success failure timeout) mode u
      fun r _ u' => ∀ response, r = .ok response →
        ∃ n heard, u.Tells success response n heard u' := by
  unfold Modem.Channel.exchange
  refine Proc.ensures_bind.2 (ensures_ask.2 ⟨trivial, ?_⟩)
  rintro _ _ rfl
  refine Proc.ensures_bind.2 ((ensures_transmit command).mono ?_)
  rintro (_ | _) mode _ rfl
  · exact fun _ => nofun
  · refine Proc.ensures_bind.2 (ensures_ask.2 ⟨rfl, ?_⟩)
    rintro verdict u' ⟨n, heard, passes, told⟩
    rcases verdict with _ | (response | response | _ | _)
    · exact fun _ => nofun
    · refine Proc.ensures_bind.2 (ensures_ask.2 ⟨trivial, ?_⟩)
      rintro _ _ rfl
      have tells := And.intro passes (told response rfl)
      split
      · rintro _ ⟨⟩
        exact ⟨n, heard, tells⟩
      · rintro _ ⟨⟩
        exact ⟨n, heard, tells⟩
    · refine Proc.ensures_bind.2 (ensures_ask.2 ⟨trivial, ?_⟩)
      exact fun _ _ _ _ => nofun
    · exact fun _ => nofun
    · exact fun _ => nofun

/-- What the channel ensures where it collects, it ensures on the board. -/
theorem ensures_channel_serial {act : Modem.Channel.Act α}
    {Q : α → Mode → Uart → Prop} (h : Ensures collecting act mode u Q) :
    Ensures serial.contract (channel act) mode u Q :=
  Meets.within meets_answer h

/-- Whatever command it is: an `exchange` that succeeds was told so by what
its port and the next reads hold. -/
theorem ensures_exchange_serial (command success failure : String)
    (timeout : Nat) :
    Ensures serial.contract (exchange command success failure timeout)
      mode u fun r _ u' => ∀ response, r = .ok response →
        ∃ n heard, u.Tells success response n heard u' := by
  have plain : Ensures serial.contract
      (channel (Modem.Channel.exchange command success failure timeout))
      mode u fun r _ u' => ∀ response, r = .ok response →
        ∃ n heard, u.Tells success response n heard u' :=
    ensures_channel_serial (ensures_exchange_collecting _ _ _ _)
  unfold exchange
  rw [Proc.ensures_bind, Proc.ensures_get]
  split
  · refine Proc.ensures_bind.2 (Proc.ensures_monadLift.2 ?_)
    -- ending the session is done by signals
    refine meets_call.2 ⟨trivial, ?_⟩
    rintro _ _ rfl
    refine meets_call.2 ⟨trivial, ?_⟩
    rintro _ _ rfl
    refine meets_call.2 ⟨trivial, ?_⟩
    rintro _ _ rfl
    exact plain
  · exact plain

/-- A dial is connected by the first read with which the token is there. -/
theorem ensures_switch_data_serial :
    Ensures serial.contract (switch .data) .command u fun r _ u' =>
      r = .ok () → ∃ response n heard,
        u.Tells "CONNECT" response n heard u' := by
  have dialled : Ensures collecting (Modem.Channel.switch .data) .command u
      fun r _ u' => r = .ok () → ∃ response n heard,
        u.Tells "CONNECT" response n heard u' := by
    refine Proc.ensures_bind.2 (Proc.ensures_get.2 ?_)
    refine Proc.ensures_bind.2 ((ensures_exchange_collecting _ _ _ _).mono
      fun r mode u' hr => ?_)
    cases r with
    | ok response => exact fun _ => ⟨response, hr response rfl⟩
    | error e =>
      refine Proc.ensures_bind.2 (ensures_ask.2 ⟨trivial, ?_⟩)
      exact fun _ _ _ => nofun
  refine Proc.ensures_bind.2 ((ensures_channel_serial dialled).mono
    fun r mode u' hr => ?_)
  cases r with
  | ok =>
    refine Proc.ensures_bind.2 (Proc.ensures_monadLift.2 ?_)
    refine meets_call.2 ⟨trivial, ?_⟩
    rintro _ _ rfl
    refine meets_call.2 ⟨trivial, ?_⟩
    rintro _ _ rfl
    exact hr
  | error e => exact nofun

end HandOver

-- ============================================================== sessions

namespace Uart

/-- The bytes of a session: those its port handed out, those it holds, and
those that are to come. -/
def forSession (u : Uart) : List UInt8 :=
  u.delivered ++ u.session.rest ++ u.incoming.flatten

end Uart

/-- The call takes nothing from the port of the command channel, and the
port of the session stays the same. -/
def Call.keepsPorts : Call → Prop
  | await waits => .verdict ∉ waits ∧ .bytes .command ∉ waits
  | line (.attach _) => False
  | line (.read side _) => side = .session
  | line (.consume side _) => side = .session
  | line (.listen _) => False
  | line .verdict => False
  | _ => True

theorem Call.keepsPorts_of_session {c : Call} (hc : c.ofSession) :
    c.keepsPorts := by
  cases c with
  | await waits => exact hc.2
  | line call =>
    cases call with
    | read => exact hc
    | attach => exact hc
    | consume => exact hc.elim
    | listen => exact hc
    | verdict => exact hc
    | _ => trivial
  | _ => trivial

/-- What such a call takes from the line, the port of the session has or
has handed out. -/
theorem preserves_forSession (l : Listening) (bytes : List UInt8) :
    serial.contract.Preserves Call.keepsPorts fun u =>
      u.command = l ∧ u.forSession = bytes := by
  rintro c u hc hu
  refine ⟨trivial, fun r u' hr => ?_⟩
  obtain ⟨rfl, rfl⟩ := hu
  have same (h : u' = u) :
      u'.command = u.command ∧ u'.forSession = u.forSession := h ▸ ⟨rfl, rfl⟩
  cases c with
  | await waits =>
    have hr : u.Wakes waits r u' := hr
    unfold Uart.Wakes at hr
    cases hw : waits.find? Wait.transfers with
    | none =>
      rw [hw] at hr
      exact same hr
    -- only the session's own wait for bytes may read the line
    | some w =>
      rw [hw] at hr
      have hm := List.mem_of_find?_eq_some hw
      have ht := List.find?_some hw
      cases w with
      | verdict => exact absurd hm hc.1
      | bytes side =>
        cases side with
        | command => exact absurd hm hc.2
        | session =>
          obtain ⟨reads, rest, port, hsplit, hfill, rfl⟩ := hr
          refine ⟨rfl, ?_⟩
          show u.delivered ++ port.rest ++ rest.flatten = u.forSession
          have hrest : port.rest = u.session.rest ++ reads.flatten :=
            Port.rest_of_fill hfill
          rw [hrest, Uart.forSession, hsplit, List.flatten_append]
          simp only [List.append_assoc]
      | _ => cases ht
  | line call =>
    cases call with
    | attach => exact hc.elim
    | listen => exact hc.elim
    | verdict => exact hc.elim
    -- what is read moves from the port to what was delivered
    | read side most =>
      obtain rfl : side = .session := hc
      obtain ⟨-, rfl⟩ := Prod.mk.inj hr
      refine ⟨rfl, ?_⟩
      show u.delivered ++ (u.session.read most).1
        ++ (u.session.read most).2.rest ++ u.incoming.flatten = _
      rw [List.append_assoc u.delivered, Port.read_append]
      rfl
    | consume side count =>
      obtain rfl : side = .session := hc
      obtain ⟨-, rfl⟩ := Prod.mk.inj hr
      refine ⟨rfl, ?_⟩
      show u.delivered ++ u.session.rest.take count
        ++ (u.session.consume count).rest ++ u.incoming.flatten = _
      rw [Port.rest_consume, List.append_assoc u.delivered,
        List.take_append_drop]
      rfl
    | isSpent => exact same (Prod.mk.inj hr).2
    | peek => exact same (Prod.mk.inj hr).2
    | write => exact same hr
    | flush => exact same hr
  | _ => exact same hr

namespace Ppp

/-- A session gets all that comes in from its start on, each byte once and
in order, and takes nothing from the port of the command channel. -/
theorem meets_supervise_serial (u : Uart) :
    supervise.Meets serial.contract u fun _ u' =>
      u'.command = u.command ∧ u'.forSession = u.incoming.flatten := by
  refine meets_call.2 ⟨trivial, ?_⟩
  rintro _ _ rfl
  refine meets_call.2 ⟨trivial, ?_⟩
  rintro credentials u rfl
  show ((race .control (runSession credentials)).bind _).Meets _ _ _
  unfold runSession
  rw [race_ask_bind rfl]
  refine meets_call.2 ⟨trivial, ?_⟩
  rintro _ _ ⟨⟩
  -- once attached, all that a session and its end ask for keeps to its
  -- own port
  refine Asks.meets (P := Call.keepsPorts) ?_
    (preserves_forSession u.command u.incoming.flatten) ⟨rfl, rfl⟩
  have asked {c : Call} (hc : c.keepsPorts) : (ask c).Asks Call.keepsPorts :=
    asks_ask.2 hc
  refine asks_bind (asks_race (fun waits hw => ?_) ?_) fun r => ?_
  · simpa [Call.keepsPorts] using hw
  · refine asks_bind (asked trivial) fun steps => ?_
    refine asks_bind (asked trivial) fun e => ?_
    cases e with
    | some e =>
      exact asks_bind (asks_done e) fun e =>
        asks_bind (asked trivial) fun _ => trivial
    | none =>
      refine asks_bind ((asks_goThrough steps).mono
        fun _ => Call.keepsPorts_of_session) fun e => ?_
      exact asks_bind (asked trivial) fun _ => trivial
  · have ended : onEnd.Asks Call.keepsPorts :=
      asks_onEnd trivial fun _ _ _ => trivial
    cases r with
    | some e =>
      refine asks_bind (asked trivial) fun _ => ?_
      refine asks_bind (asked trivial) fun listening => ?_
      cases listening with
      | true => exact asks_bind (asked trivial) fun _ => ended
      | false => exact ended
    | none =>
      refine asks_bind (asked trivial) fun control => ?_
      refine asks_bind (asked trivial) fun _ => ?_
      cases control with
      | some control => exact asks_bind (asked trivial) fun _ => ended
      | none => exact ended

end Ppp

-- ========================================================= the hand-over

/-- With `n` reads, and no fewer, a token is there after what a port
held. -/
structure Completes (token : List Char) (held : List UInt8)
    (reads : List (List UInt8)) (n : Nat) : Prop where
  there : Text.contains token
    (asciiText (held ++ (reads.take n).flatten)) = true
  missing : ∀ k < n, Text.contains token
    (asciiText (held ++ (reads.take k).flatten)) = false

/-- A response of success to a dial is complete with its last read and not
before. -/
theorem Uart.Tells.completes {u u' : Uart} {response : Response} {n : Nat}
    {heard : List UInt8} (h : u.Tells "CONNECT" response n heard u') :
    Completes "CONNECT".toList u.command.port.rest u.incoming n := by
  obtain ⟨passes, -, there⟩ := h
  refine ⟨?_, fun k hk => ?_⟩
  · rw [← passes.whole, Modem.asciiText_append]
    exact Text.contains_append _ there
  · by_cases hne : u.command.port.rest ++ (u.incoming.take k).flatten = []
    · rw [hne]
      rfl
    · exact passes.missing k hk hne

/-- What is cut off in front is no more than `head` exactly if all that
follows `head` is left. -/
theorem suffix_iff_prefix {front back head payload : List α}
    (h : front ++ back = head ++ payload) :
    payload <:+ back ↔ front <+: head := by
  constructor
  · rintro ⟨more, rfl⟩
    rw [← List.append_assoc] at h
    exact ⟨more, List.append_cancel_right h⟩
  · rintro ⟨more, rfl⟩
    rw [List.append_assoc] at h
    exact ⟨more, (List.append_cancel_left h).symm⟩

namespace Uart

/-- A dial is connected on a line whose bytes come in by any reads, and the
session that it starts runs. The read that completes CONNECT stays with the
command channel as a whole: what it was not told of it, it hears first in
its next `exchange`. All reads behind it are the session's, each byte once
and in order. So of the bytes behind `head`, the line of the token, none is
lost to the session exactly if that read ends within `head`. -/
theorem handed_over {u u₁ u₂ : Uart} {head payload : List UInt8}
    {mode : Mode} {t t' : List (Event Board)}
    (hbytes : u.incoming.flatten = head ++ payload)
    (hdial : Runs serial ((HandOver.switch .data).run .command) u t
      (.ok (), mode) u₁)
    (hsession : Runs serial Ppp.supervise u₁ t' () u₂) :
    ∃ n heard,
      Completes "CONNECT".toList u.command.port.rest u.incoming n
        ∧ heard ++ u₂.command.port.rest
          = u.command.port.rest ++ (u.incoming.take n).flatten
        ∧ u₂.forSession = (u.incoming.drop n).flatten
        ∧ (payload <:+ u₂.forSession
          ↔ (u.incoming.take n).flatten <+: head)
        ∧ ∀ command success failure timeout mode mode' response u₃ t,
          Runs serial ((HandOver.exchange command success failure
            timeout).run mode) u₂ t (.ok response, mode') u₃ →
          ∃ m heard', response.toList = asciiText heard'
            ∧ heard' ++ u₃.command.port.rest
              = u₂.command.port.rest ++ (u₂.incoming.take m).flatten := by
  obtain ⟨response, n, heard, tells⟩ :=
    HandOver.ensures_switch_data_serial.of_runs hdial rfl
  obtain ⟨hcommand, hsession⟩ :=
    (Ppp.meets_supervise_serial u₁).of_runs hsession
  have hdrop : u₂.forSession = (u.incoming.drop n).flatten := by
    rw [hsession, tells.1.incoming]
  -- the reads up to the verdict are the channel's, the rest the session's
  have hsplit : (u.incoming.take n).flatten ++ u₂.forSession
      = head ++ payload := by
    rw [hdrop, ← List.flatten_append, List.take_append_drop, hbytes]
  refine ⟨n, heard, tells.completes, ?_, hdrop, suffix_iff_prefix hsplit,
    fun command success failure timeout mode mode' response u₃ t hr => ?_⟩
  · rw [hcommand]
    exact tells.1.whole
  · obtain ⟨m, heard', tells'⟩ :=
      (HandOver.ensures_exchange_serial command success failure
        timeout).of_runs hr response rfl
    exact ⟨m, heard', tells'.2.1, tells'.1.whole⟩

-- ====================================================== two ways to read

/-- The next read, if it is needed and there is one. -/
def next (u : Uart) (needed : Bool) : List (List UInt8) :=
  if needed then u.incoming.take 1 else []

/-- A side that waits is given the next read, if it needs any. -/
def giveOne (u : Uart) : Wait → Bool × Uart
  | .verdict =>
    let reads := u.next u.command.verdict.isNone
    let command := (u.command.run (reads.map .bytes)).1
    (command.verdict.isSome,
      { u with incoming := u.incoming.drop reads.length, command })
  | .bytes side =>
    let reads := u.next (u.port side).isSpent
    let (filled, port, _) := (u.port side).fill (reads.map .bytes)
    let incoming := u.incoming.drop reads.length
    (filled = .ready,
      match side with
      | .command => { u with incoming, command := { u.command with port } }
      | .session => { u with incoming, session := port })
  | _ => (false, u)

/-- A wait ends with the place of what came; who waits for bytes in vain
gives up. No session is ended by the peer. -/
def wake (u : Uart) (waits : List Wait) : Nat × Uart :=
  match waits.find? Wait.transfers with
  | none => (waits.findIdx (· ≠ .sessionEnd), u)
  | some w =>
    let (came, u) := u.giveOne w
    (if came then waits.idxOf w else waits.length, u)

/-- A board on which a session goes by some steps, and each wait for bytes
takes one read. -/
def respond (steps : List SessionStep) (c : Call) (u : Uart) :
    c.Answer × Uart :=
  match c with
  | .await waits => u.wake waits
  | .line call => u.answer call
  | .session (.start _) => (steps, u)
  | _ => (default, u)

/-- The `next` read, and what is left after it. -/
theorem next_append (u : Uart) (needed : Bool) :
    u.incoming = u.next needed ++ u.incoming.drop (u.next needed).length := by
  cases needed with
  | false => rfl
  | true =>
    unfold next
    cases u.incoming <;> rfl

/-- A collector that is given the `next` read takes it whole. -/
theorem run_next (u : Uart) :
    (u.command.run ((u.next u.command.verdict.isNone).map .bytes)).2
      = [] := by
  unfold next
  cases h : u.command.verdict with
  | some v => rfl
  | none =>
    cases u.incoming with
    | nil => rfl
    | cons content later => simp [Listening.run, h]

/-- A port that is spent is `ready` with the next read, or else
`starved`. -/
theorem fill_next (u : Uart) (side : Side) :
    ∃ came port, (u.port side).fill
        ((u.next (u.port side).isSpent).map .bytes)
      = (if came = true then .ready else .starved, port, []) := by
  unfold next
  cases h : (u.port side).isSpent with
  | false => exact ⟨true, u.port side, by simp [Port.fill, h]⟩
  | true =>
    cases u.incoming with
    | nil => exact ⟨false, u.port side, by simp [Port.fill, h]⟩
    | cons content later =>
      refine ⟨!(Port.refill content).isSpent, Port.refill content, ?_⟩
      cases hc : (Port.refill content).isSpent <;>
        simp [Port.fill, h, hc]

/-- To give one read to who waits is one way in which a `Wait` can end. -/
theorem awaits_giveOne (u : Uart) {w : Wait} (hw : w.transfers = true) :
    u.Awaits (u.giveOne w).1 w (u.giveOne w).2 := by
  cases w with
  | verdict =>
    exact ⟨_, _, _, u.next_append _, Prod.ext rfl u.run_next, rfl, rfl⟩
  | bytes side =>
    obtain ⟨came, port, hfill⟩ := u.fill_next side
    refine ⟨_, _, port, u.next_append (u.port side).isSpent, ?_, ?_⟩
    · rw [giveOne, hfill]
      cases came <;> rfl
    · rw [giveOne, hfill]
  | _ => cases hw

/-- The same for a list of waits: `wake` is one way in which they can
end. -/
theorem wakes_wake (u : Uart) (waits : List Wait) :
    u.Wakes waits (u.wake waits).1 (u.wake waits).2 := by
  unfold Wakes wake
  cases hw : waits.find? Wait.transfers with
  | none => rfl
  | some w =>
    have place : decide (waits[if (u.giveOne w).1 = true
        then waits.idxOf w else waits.length]? = some w)
          = (u.giveOne w).1 := by
      cases (u.giveOne w).1 with
      | true =>
        have hm := List.mem_of_find?_eq_some hw
        simp [List.getElem?_idxOf hm]
      | false => simp
    dsimp only
    rw [place]
    exact u.awaits_giveOne (List.find?_some hw)

/-- It is one of the boards on which bytes come in. -/
theorem serial_respond (steps : List SessionStep) (c : Call) (u : Uart) :
    serial c u (respond steps c u).1 (respond steps c u).2 := by
  cases c with
  | await waits => exact u.wakes_wake waits
  | line call => cases call <;> rfl
  | session call => cases call <;> rfl
  | _ => rfl

/-- The line with which a modem connects. -/
def connectLine : List UInt8 :=
  "\r\nCONNECT\r\n".toUTF8.toList

/-- A line whose next reads bring this, with nothing in its ports. -/
def bringing (incoming : List (List UInt8)) : Uart where
  incoming
  command := { port := {}, collector := ⟨[], [], []⟩ }

/-- A board on which a session reads once. -/
def readingOnce : (c : Call) → Uart → c.Answer × Uart :=
  respond [.receive 256, .finish .terminated]

/-- A dial on such a line. -/
def dialled (reads : List (List UInt8)) :
    (Except Modem.ChannelError Unit × Mode) × Uart :=
  ((HandOver.switch .data).run .command).run readingOnce (bringing reads)

/-- The session after it. -/
def served (reads : List (List UInt8)) : Uart :=
  (Ppp.supervise.run readingOnce (dialled reads).2).2

/-- What comes of a program under `readingOnce` comes of some run of it on
the `serial` board. -/
theorem runs_readingOnce {p : Proc Board (α × Mode)} {u : Uart} {a : α}
    (h : (p.run readingOnce u).1.1 = a) :
    ∃ t mode, Runs serial p u t (a, mode) (p.run readingOnce u).2 := by
  obtain ⟨t, hr⟩ := Proc.runs_of_run id (serial_respond _) p u
  subst h
  exact ⟨t, _, hr⟩

/-- A session that runs after the dial, and reads once. -/
theorem runs_served (reads : List (List UInt8)) :
    ∃ t, Runs serial Ppp.supervise (dialled reads).2 t () (served reads) :=
  Proc.runs_of_run id (serial_respond _) Ppp.supervise (dialled reads).2

/-- Where the line of the token is read alone, the session gets all that
follows. -/
theorem handed_over_whole :
    let reads := [connectLine, [126, 255, 125], [35]]
    (∃ t mode, Runs serial ((HandOver.switch .data).run .command)
        (bringing reads) t (.ok (), mode) (dialled reads).2)
      ∧ (∃ t, Runs serial Ppp.supervise (dialled reads).2 t ()
        (served reads))
      ∧ [126, 255, 125, 35] <:+ (served reads).forSession
      ∧ ∃ n, Completes "CONNECT".toList [] reads n
        ∧ (reads.take n).flatten <+: connectLine := by
  intro reads
  have connected : (dialled reads).1.1 = .ok () := by decide +kernel
  obtain ⟨t, mode, hdial⟩ := runs_readingOnce connected
  obtain ⟨t', hsession⟩ := runs_served reads
  have hbytes : (bringing reads).incoming.flatten
      = connectLine ++ [126, 255, 125, 35] := by decide +kernel
  obtain ⟨n, heard, hn, -, -, hall, -⟩ :=
    handed_over hbytes hdial hsession
  have whole : [126, 255, 125, 35] <:+ (served reads).forSession := by
    decide +kernel
  exact ⟨⟨t, mode, hdial⟩, ⟨t', hsession⟩, whole, n, hn, hall.1 whole⟩

/-- Many bytes follow the line of the token in the same read. Those that
the dial hears along with it nobody gets, the next ones are taken for the
answer to a command, and the session gets only what is read after them. -/
theorem handed_over_cut :
    let first := List.replicate 60 126
    let reads := [connectLine ++ first, [255, 125, 35],
      "\r\nOK\r\n".toUTF8.toList]
    (∃ t mode, Runs serial ((HandOver.switch .data).run .command)
        (bringing reads) t (.ok (), mode) (dialled reads).2)
      ∧ (∃ t, Runs serial Ppp.supervise (dialled reads).2 t ()
        (served reads))
      ∧ (served reads).delivered = [255, 125, 35]
      ∧ ∃ t mode u, Runs serial
          ((HandOver.exchange "AT" "OK" "ERROR" 500).run .command)
          (served reads) t (.ok "~~~~~~~\r\nOK\r\n", mode) u := by
  intro first reads
  have connected : (dialled reads).1.1 = .ok () := by decide +kernel
  have answered : (((HandOver.exchange "AT" "OK" "ERROR" 500).run
      .command).run readingOnce (served reads)).1.1
        = .ok "~~~~~~~\r\nOK\r\n" := by decide +kernel
  obtain ⟨t, mode, hr⟩ := runs_readingOnce answered
  exact ⟨runs_readingOnce connected, runs_served reads,
    by decide +kernel, t, mode, _, hr⟩

end Uart

end Uplink.Board
