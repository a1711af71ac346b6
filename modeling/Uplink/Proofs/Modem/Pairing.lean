/-
Whose answer a response is made of.

A serial line hands out its bytes in the order in which they came, and
keeps what nobody reads. An exchange stops reading when its answer is
settled, and its time may run out before the answer comes. Either way
bytes are left on the line, and the channel reads them in its next
exchange: nothing tells it which command they belong to.

# Stale bytes

`Inbox` divides what waits on the line at the moment a command goes out.
What waited then is stale, what comes from then on is fresh. Stale bytes
are read first. So they make up the start of a response, and it has none
of them only if there was no text among all that waited
(`exchange_pairing`); the channel does not empty the line on its own.
-/
import Uplink.Proofs.Contract
import Uplink.Proofs.Modem.Collecting
import Uplink.Proofs.Modem.Wire

namespace Uplink.Modem

open Proc (Ensures Runs)

/-- It takes all these readings to come to the verdict, or they do not
settle the matter. -/
def Collector.Takes (c : Collector) (readings : List Reading) :
    Option Verdict → Prop
  | some v => c.run readings = (.inl v, [])
  | none => ∃ c', c.run readings = (.inr c', [])

/-- What comes in on a line, from the last command on that went out. -/
structure Inbox where
  /-- waited when the command went out, and still does -/
  stale : List UInt8 := []
  /-- came since then, and waits -/
  fresh : List UInt8 := []
  /-- waited when the command went out, and was read since then -/
  staleRead : List UInt8 := []
  /-- came since then, and was read -/
  freshRead : List UInt8 := []

namespace Inbox

variable {x y : Inbox} {content : List UInt8}

/-- What can be read, in order. -/
def waiting (x : Inbox) : List UInt8 :=
  x.stale ++ x.fresh

/-- More bytes come. -/
def deliver (x : Inbox) (more : List UInt8) : Inbox :=
  { x with fresh := x.fresh ++ more }

/-- A command goes out. -/
def renew (x : Inbox) : Inbox :=
  { stale := x.waiting }

/-- So many bytes are read. -/
def read (x : Inbox) (count : Nat) : Inbox where
  stale := x.stale.drop count
  fresh := x.fresh.drop (count - x.stale.length)
  staleRead := x.staleRead ++ x.stale.take count
  freshRead := x.freshRead ++ x.fresh.take (count - x.stale.length)

/-- A line on which bytes come in at any time, during every call and after
it took effect. A collector is given some of those that wait, in pieces of
any size, and the line may fail or be closed in between. -/
def line : Behaviour Serial Inbox
  | .flush, x, went, y =>
    ∃ more, y = (if went = true then x.renew else x).deliver more
  | .listen collector _, x, verdict, y =>
    ∃ more readings, readings.flatMap Reading.content
        <+: (x.deliver more).waiting
      ∧ y = (x.deliver more).read
        (readings.flatMap Reading.content).length
      ∧ collector.Takes readings verdict
  | _, x, _, y => ∃ more, y = x.deliver more

theorem waiting_deliver (more : List UInt8) :
    (x.deliver more).waiting = x.waiting ++ more :=
  (List.append_assoc _ _ _).symm

/-- What is read first is what waited first. -/
theorem read_prefix (h : content <+: x.waiting)
    (hs : x.staleRead = []) (hf : x.freshRead = []) :
    content
      = (x.read content.length).staleRead
        ++ (x.read content.length).freshRead := by
  rw [List.prefix_iff_eq_take] at h
  rw [waiting, List.take_append] at h
  rw [read, hs, hf, List.nil_append, List.nil_append]
  exact h

/-- Of the `stale` bytes none is lost. -/
theorem stale_read (hs : x.staleRead = []) (count : Nat) :
    (x.read count).staleRead ++ (x.read count).stale = x.stale := by
  rw [read, hs, List.nil_append, List.take_append_drop]

/-- While a `stale` byte waits, no fresh one is read. -/
theorem stale_of_fresh (hf : x.freshRead = []) {count : Nat}
    (h : (x.read count).freshRead ≠ []) : (x.read count).stale = [] := by
  rw [read, hf, List.nil_append] at h
  have hc : x.stale.length < count := by
    by_contra hle
    rw [Nat.sub_eq_zero_of_le (Nat.le_of_not_lt hle), List.take_zero] at h
    exact h rfl
  exact List.drop_eq_nil_of_le hc.le

end Inbox

-- ============================================================ responses

/-- A response made of what was read since its command went out, the
`stale` bytes first. -/
structure Sourced (x : Inbox) (response : Response) (y : Inbox) :
    Prop where
  made : response.toList = asciiText y.staleRead ++ asciiText y.freshRead
  /-- what waited when the command was begun is stale -/
  older : x.waiting <+: y.staleRead ++ y.stale
  ordered : y.freshRead ≠ [] → y.stale = []

/-- Where a response came from does not change when more is delivered. -/
theorem Sourced.deliver {x y : Inbox} {response : Response}
    (h : Sourced x response y) (more : List UInt8) :
    Sourced x response (y.deliver more) :=
  ⟨h.made, h.older, h.ordered⟩

/-- It has nothing of the `stale` bytes if there is no text among them. -/
theorem Sourced.fresh_iff {x y : Inbox} {response : Response}
    (h : Sourced x response y) :
    asciiText y.staleRead = []
      ↔ response = "" ∨ asciiText (y.staleRead ++ y.stale) = [] := by
  rw [asciiText_append, List.append_eq_nil_iff]
  constructor
  · intro hs
    by_cases hf : y.freshRead = []
    · left
      have hm := h.made
      rw [hs, hf] at hm
      exact String.toList_inj.1 hm
    · right
      rw [h.ordered hf]
      exact ⟨hs, rfl⟩
  · rintro (rfl | ⟨hs, -⟩)
    · exact (List.append_eq_nil_iff.1 h.made.symm).1
    · exact hs

/-- The text that an exchange hands back, if it does. -/
def responseOf : Except ChannelError Response → Option Response
  | .ok response => some response
  | .error (.errorResponse response) => some response
  | .error _ => none

/-- The text of a verdict. -/
def Verdict.response? : Verdict → Option Response
  | accepted response => some response
  | refused response => some response
  | overflow => none
  | broken => none

/-- A `Verdict` that reads to the end returns all of the text as the
response. -/
theorem Collector.response_of_run {c : Collector} {readings : List Reading}
    {v : Verdict} {response : Response} (hc : c.heard = [])
    (h : c.run readings = (.inl v, []))
    (hv : v.response? = some response) :
    response.toList = textOf readings := by
  obtain ⟨read, last, rfl, hlast, -⟩ := run_inl h
  rcases hlast with ⟨-, rfl⟩ | ⟨-, hlast⟩
  · cases hv
  · rw [hc, List.nil_append] at hlast
    unfold verdict? at hlast
    split at hlast
    · cases hlast
      cases hv
    · split at hlast
      · cases hlast
        cases hv
        exact String.toList_ofList
      · split at hlast
        · cases hlast
          cases hv
          exact String.toList_ofList
        · cases hlast

namespace Channel

variable {x y : Inbox} {mode : Mode}

/-- While a command is written, what waits is only added to. -/
theorem ensures_writeAll (pieces : List (List UInt8)) :
    Ensures Inbox.line.contract (writeAll pieces) mode x
      fun _ _ y => x.waiting <+: y.waiting := by
  induction pieces generalizing x with
  | nil => exact List.prefix_rfl
  | cons piece rest ih =>
    refine Proc.ensures_bind.2 (ensures_ask.2 ⟨trivial, ?_⟩)
    rintro went y ⟨more, rfl⟩
    have hx : x.waiting <+: (x.deliver more).waiting := by
      rw [Inbox.waiting_deliver]
      exact List.prefix_append _ _
    cases went with
    | false => exact hx
    | true => exact ih.mono fun _ _ _ h => hx.trans h

/-- What waited before a command is `stale` when it is out, and nothing is
read yet. -/
theorem ensures_transmit (command : String) :
    Ensures Inbox.line.contract (transmit command) mode x
      fun went _ y => went = true → x.waiting <+: y.stale
        ∧ y.staleRead = [] ∧ y.freshRead = [] := by
  have hrest {x : Inbox} : Ensures Inbox.line.contract (do
      if ← writeAll (pieces command) then ask .flush else pure false)
      mode x fun went _ y => went = true → x.waiting <+: y.stale
        ∧ y.staleRead = [] ∧ y.freshRead = [] := by
    refine Proc.ensures_bind.2 ((ensures_writeAll _).mono ?_)
    rintro (_ | _) mode y hw
    · exact nofun
    · refine ensures_ask.2 ⟨trivial, ?_⟩
      rintro went z ⟨more, rfl⟩ rfl
      exact ⟨hw, rfl, rfl⟩
  unfold transmit
  by_cases hc : command = escapeSequence
  · rw [if_pos hc]
    refine Proc.ensures_bind.2 (ensures_ask.2 ⟨trivial, ?_⟩)
    rintro _ y ⟨more, rfl⟩
    refine hrest.mono fun went _ z h hwent => ?_
    obtain ⟨hz, hread⟩ := h hwent
    rw [Inbox.waiting_deliver] at hz
    exact ⟨(List.prefix_append _ _).trans hz, hread⟩
  · rw [if_neg hc]
    exact hrest

/-- Every response of an `exchange` is taken from the front of what waits,
which is `Sourced`. -/
theorem ensures_exchange (command success failure : String)
    (timeout : Nat) :
    Ensures Inbox.line.contract (exchange command success failure timeout)
      mode x fun r _ y => ∀ response, responseOf r = some response →
        Sourced x response y := by
  unfold exchange log
  refine Proc.ensures_bind.2 (ensures_ask.2 ⟨trivial, ?_⟩)
  rintro _ x₁ ⟨more, rfl⟩
  refine Proc.ensures_bind.2 ((ensures_transmit _).mono ?_)
  rintro (_ | _) mode y hy
  · exact fun _ => nofun
  · obtain ⟨hstale, hs, hf⟩ := hy rfl
    rw [Inbox.waiting_deliver] at hstale
    refine Proc.ensures_bind.2 (ensures_ask.2 ⟨trivial, ?_⟩)
    rintro verdict z ⟨more', readings, hprefix, rfl, hv⟩
    have hs' : (y.deliver more').staleRead = [] := hs
    have hf' : (y.deliver more').freshRead = [] := hf
    -- whatever the verdict, its text is what was read, and what was stale
    -- comes first in it
    have sourced (v : Verdict) (response : Response)
        (hrun : (⟨success.toList, failure.toList, []⟩ : Collector).run
          readings = (.inl v, []))
        (hresponse : v.response? = some response) :
        Sourced x response ((y.deliver more').read
          (readings.flatMap Reading.content).length) := by
      refine ⟨?_, ?_, Inbox.stale_of_fresh hf'⟩
      · rw [Collector.response_of_run rfl hrun hresponse,
          ← asciiText_append, ← Inbox.read_prefix hprefix hs' hf']
        rfl
      · rw [Inbox.stale_read hs']
        exact (List.prefix_append _ _).trans hstale
    rcases verdict with _ | (response | response | _ | _)
    · exact fun _ => nofun
    · refine Proc.ensures_bind.2 (ensures_ask.2 ⟨trivial, ?_⟩)
      rintro _ z ⟨more'', rfl⟩
      have hz := (sourced _ response hv rfl).deliver more''
      by_cases hc : command = escapeSequence
      · rw [if_pos hc]
        rintro _ ⟨⟩
        exact hz
      · rw [if_neg hc]
        rintro _ ⟨⟩
        exact hz
    · refine Proc.ensures_bind.2 (ensures_ask.2 ⟨trivial, ?_⟩)
      rintro _ z ⟨more'', rfl⟩ _ ⟨⟩
      exact (sourced _ response hv rfl).deliver more''
    · exact fun _ => nofun
    · exact fun _ => nofun

/-- Whatever came before it on the line, a response of `exchange` is what
was read since its command went out, and it is made of what came since then
exactly if there was no text among what waited. -/
theorem exchange_pairing {command success failure : String}
    {timeout : Nat} {mode mode' : Mode} {x y : Inbox}
    {t : List (Event Serial)} {r : Except ChannelError Response}
    {response : Response}
    (h : Runs Inbox.line
      ((exchange command success failure timeout).run mode) x t (r, mode')
      y)
    (hr : responseOf r = some response) :
    Sourced x response y
      ∧ (asciiText y.staleRead = []
        ↔ response = "" ∨ asciiText (y.staleRead ++ y.stale) = []) := by
  have hy : Sourced x response y :=
    (ensures_exchange command success failure timeout).of_runs h response
      hr
  exact ⟨hy, hy.fresh_iff⟩

-- ================================================= a line that repeats

/-- The line that says OK. -/
def okLine : List UInt8 := "\r\nOK\r\n".toUTF8.toList

/-- Each command that goes out is answered by two OKs, and they are read
one by one. -/
def repeating : (c : SerialCall) → Inbox → c.Answer × Inbox
  | .write _, x => (true, x)
  | .flush, x => (true, x.renew.deliver (okLine ++ okLine))
  | .listen collector _, x =>
    let piece := x.waiting.take okLine.length
    (match (collector.run [.bytes piece]).1 with
      | .inl v => some v
      | .inr _ => none,
      x.read piece.length)
  | .pause _, x => ((), x)
  | .log _, x => ((), x)

theorem line_repeating (c : SerialCall) (x : Inbox) :
    Inbox.line c x (repeating c x).1 (repeating c x).2 := by
  have none_came : x = x.deliver [] := by
    unfold Inbox.deliver
    rw [List.append_nil]
  cases c with
  | write content => exact ⟨[], none_came⟩
  | flush => exact ⟨okLine ++ okLine, rfl⟩
  | listen collector timeout =>
    refine ⟨[], [.bytes (x.waiting.take okLine.length)], ?_, ?_, ?_⟩
    · rw [← none_came, List.flatMap_singleton]
      exact List.take_prefix _ _
    · rw [← none_came, List.flatMap_singleton]
      rfl
    · unfold repeating
      dsimp only
      cases ht : collector.take (.bytes (x.waiting.take okLine.length)) with
      | inl v =>
        have hrun : collector.run [.bytes (x.waiting.take okLine.length)]
            = (.inl v, []) := Collector.run_cons_of_inl ht
        rw [hrun]
        exact hrun
      | inr c =>
        have hrun : collector.run [.bytes (x.waiting.take okLine.length)]
            = (.inr c, []) := Collector.run_cons_of_inr ht
        rw [hrun]
        exact ⟨c, hrun⟩
  | pause ms => exact ⟨[], none_came⟩
  | log text => exact ⟨[], none_came⟩

/-- On an empty line, the response is the answer to the command. -/
theorem exchange_pairing_first :
    ∃ t r mode y,
      Runs Inbox.line ((exchange "AT" "OK" "ERROR" 500).run .command) {} t
          (r, mode) y
        ∧ responseOf r = some "\r\nOK\r\n"
        ∧ Sourced {} "\r\nOK\r\n" y ∧ asciiText y.staleRead = [] := by
  obtain ⟨t, h⟩ := Proc.runs_of_run id line_repeating
    ((exchange "AT" "OK" "ERROR" 500).run .command) {}
  have hr : responseOf (((exchange "AT" "OK" "ERROR" 500).run
      .command).run repeating {}).1.1 = some "\r\nOK\r\n" := by
    decide +kernel
  obtain ⟨hy, hfresh⟩ := exchange_pairing h hr
  exact ⟨t, _, _, _, h, hr, hy, hfresh.2 (.inr (by decide +kernel))⟩

/-- Two commands in a row. -/
def pair : Act (Except ChannelError Response) := do
  let _ ← exchange "AT" "OK" "ERROR" 500
  exchange "AT+CPIN?" "OK" "ERROR" 500

/-- The response to the second command is what the first one left: no byte
of it came after that command went out. -/
theorem exchange_pairing_shifted :
    ∃ t r mode y, Runs Inbox.line (pair.run .command) {} t (r, mode) y
      ∧ responseOf r = some "\r\nOK\r\n"
      ∧ y.staleRead = okLine ∧ y.freshRead = [] := by
  obtain ⟨t, h⟩ := Proc.runs_of_run id line_repeating (pair.run .command)
    {}
  exact ⟨t, _, _, _, h, by decide +kernel, by decide +kernel,
    by decide +kernel⟩

end Channel

end Uplink.Modem
