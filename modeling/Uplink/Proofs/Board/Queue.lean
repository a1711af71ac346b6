/-
The ports of the line as queues.

Two sides read one line, each through a port of its own. What a side does
with its port is to read, to look at what there is, and to skip some of it,
in any order and by any amounts. Each of these takes some bytes out of the
port and may have had the line read (`Uart.Use`). None of them loses or
doubles anything: what a side was handed, with what its port holds behind
it, is what the line was read for it (`Uart.Used.account`), and the buffer
never holds more than it has room for (`Port.Within`).

# Never nothing

The command channel takes a read of no bytes for the end of the line. A
port is spent exactly if nothing is left in it (`Port.Within.isSpent_iff`),
and then it has the line read first. So nobody with room for something is
handed nothing. To listen is a row of reads with something in each, and it
does not break off (`Uart.meets_listen_pieces`).

# The sum

To skip, a machine adds before it compares. The amounts for which a word
has no room for the sum are the only ones that are not skipped, and there
are such amounts as soon as the first byte of the buffer was handed out
(`Port.consume?_isSome_iff`). A read has room for its own sum
(`Port.Within.consume?_read`).
-/
import Mathlib.Logic.Function.Basic
import Uplink.Proofs.Board.Crossing
import Uplink.Proofs.Modem.Exits

namespace Uplink.Board

open Modem (Collector Reading Verdict)
open Proc (Meets Runs meets_ask meets_bind meets_call runs_bind_iff)

-- ================================================================= ports

namespace Port

variable {p p' : Port} {reads : List (List UInt8)}

/-- What was handed out lies within what is held, and this within the
buffer. -/
structure Within (p : Port) : Prop where
  start : p.start ≤ p.held.length
  held : p.held.length ≤ portCapacity

/-- A port filled with no more than it can hold is within its bounds. -/
theorem within_refill {content : List UInt8}
    (h : content.length ≤ portCapacity) : (refill content).Within :=
  ⟨Nat.zero_le _, h⟩

/-- To consume bytes keeps a port within its bounds, however many are asked
for. -/
theorem Within.consume (h : p.Within) (count : Nat) :
    (p.consume count).Within :=
  ⟨Nat.min_le_right _ _, h.held⟩

/-- A port asks for more exactly if nothing is left in it. -/
theorem Within.isSpent_iff (h : p.Within) :
    p.isSpent = true ↔ p.rest = [] := by
  refine ⟨rest_of_isSpent, fun hr => decide_eq_true ?_⟩
  exact Nat.le_antisymm h.start (List.drop_eq_nil_iff.1 hr)

/-- A port within its bounds that is not spent has bytes left. -/
theorem Within.rest_ne_nil (h : p.Within) (hs : p.isSpent = false) :
    p.rest ≠ [] := by
  intro hr
  rw [h.isSpent_iff.2 hr] at hs
  cases hs

/-- A `read` of at least one byte from such a port is not empty. -/
theorem Within.read_ne_nil (h : p.Within) (hs : p.isSpent = false)
    {most : Nat} (hm : 0 < most) : (p.read most).1 ≠ [] := by
  intro hr
  rcases List.take_eq_nil_iff.1 hr with rfl | hr
  · exact Nat.lt_irrefl 0 hm
  · exact h.rest_ne_nil hs hr

-- =============================================================== filling

/-- A port that is not spent is ready without a read. -/
theorem fill_ready (hs : p.isSpent = false) :
    p.fill ([].map .bytes) = (.ready, p, []) := by
  rw [List.map_nil, fill, hs]
  rfl

/-- One read with something in it is enough. -/
theorem fill_spent (hs : p.isSpent = true) {content : List UInt8}
    (hc : content ≠ []) :
    p.fill ([content].map .bytes) = (.ready, refill content, []) := by
  have hr : (refill content).isSpent = false := by
    refine decide_eq_false fun h => hc ?_
    exact List.length_eq_zero_iff.1 h.symm
  rw [List.map_singleton, fill, hs, fill, hr]
  rfl

/-- A port that has something to hand out reads nothing. -/
theorem eq_of_fill (hs : p.isSpent = false)
    (h : p.fill (reads.map .bytes) = (.ready, p', [])) :
    reads = [] ∧ p' = p := by
  cases reads with
  | nil =>
    rw [fill_ready hs] at h
    cases h
    exact ⟨rfl, rfl⟩
  | cons content later =>
    rw [List.map_cons, fill, hs] at h
    cases h

/-- A port that was ready without a read was not spent. -/
theorem isSpent_of_fill (h : p.fill (reads.map .bytes) = (.ready, p', [])) :
    p'.isSpent = false := by
  induction reads generalizing p with
  | nil =>
    rw [List.map_nil, fill] at h
    split at h
    · cases h
    next hs =>
      cases h
      exact eq_false_of_ne_true hs
  | cons content later ih =>
    rw [List.map_cons, fill] at h
    split at h
    · exact ih h
    · cases h

/-- A port stays within its bounds as it is filled by reads that are. -/
theorem Within.fill (hp : p.Within)
    (hm : ∀ content ∈ reads, content.length ≤ portCapacity)
    {filled : Filled} (h : p.fill (reads.map .bytes) = (filled, p', [])) :
    p'.Within := by
  induction reads generalizing p with
  | nil =>
    obtain rfl : p = p' := congrArg (·.2.1) h
    exact hp
  | cons content later ih =>
    obtain ⟨hc, hm⟩ := List.forall_mem_cons.1 hm
    rw [List.map_cons, Port.fill] at h
    split at h
    · exact ih (within_refill hc) hm h
    · cases h

-- ============================================================== skipping

/-- Where `consume?` has an answer it is that of `consume`. -/
theorem eq_consume_of_consume? {count : Nat}
    (h : p.consume? count = some p') : p' = p.consume count := by
  unfold consume? at h
  split at h
  · exact (Option.some_inj.1 h).symm
  · cases h

/-- Every amount that a word holds can be skipped exactly if nothing of the
buffer was handed out. -/
theorem consume?_isSome_iff :
    (∀ count < USize.size, (p.consume? count).isSome = true)
      ↔ p.start = 0 := by
  have hpos : 0 < USize.size := USize.size_pos
  constructor
  · intro h
    have hlast := h (USize.size - 1) (Nat.sub_lt hpos Nat.one_pos)
    unfold consume? at hlast
    split at hlast
    · omega
    · cases hlast
  · intro h count hc
    unfold consume?
    rw [h, Nat.zero_add, if_pos hc]
    rfl

/-- The capacity of a port is far below what an index can count to. -/
theorem portCapacity_lt : portCapacity < USize.size :=
  Nat.lt_of_lt_of_le (by decide) USize.le_size

/-- What a `read` skips itself has room in a word. -/
theorem Within.consume?_read (h : p.Within) (most : Nat) :
    p.consume? (p.read most).1.length = some (p.read most).2 := by
  have hread : (p.read most).1.length ≤ p.rest.length :=
    List.length_take_le' most p.rest
  have hrest : p.rest.length = p.held.length - p.start :=
    List.length_drop
  have hroom := portCapacity_lt
  have hstart := h.start
  have hheld := h.held
  exact if_pos (by omega)

end Port

-- ============================================================== one line

namespace Uart

variable {u v w : Uart} {side : Side} {reads : List (List UInt8)} {p : Port}

/-- Such a board on which nobody goes on before something came that was
waited for. -/
def waking : Behaviour Board Uart :=
  fun c u r u' => serial c u r u' ∧
    match c, r with
    | .await waits, place => place < waits.length
    | _, _ => True

/-- One side has read the line, and its port became `p`. The port of the
other side is as it was. -/
structure Turns (u : Uart) (side : Side) (reads : List (List UInt8))
    (p : Port) (u' : Uart) : Prop where
  incoming : u.incoming = reads ++ u'.incoming
  ports : u'.port = Function.update u.port side p

/-- The ports of a line are those of its two sides. -/
theorem port_ext {ports : Side → Port}
    (hc : u.port .command = ports .command)
    (hs : u.port .session = ports .session) : u.port = ports := by
  funext side
  cases side with
  | command => exact hc
  | session => exact hs

/-- After a turn the port of the side is the one the turn left. -/
theorem Turns.own (h : u.Turns side reads p v) : v.port side = p := by
  rw [h.ports, Function.update_self]

/-- What is done with a `Port` that was filled leaves the line alone. -/
theorem Turns.trans {q : Port} (h : u.Turns side reads p v)
    (h' : v.Turns side [] q w) : u.Turns side reads q w := by
  refine ⟨h.incoming.trans (congrArg _ h'.incoming), ?_⟩
  rw [h'.ports, h.ports, Function.update_idem]

/-- To do nothing is a turn without reads. -/
theorem turns_self (u : Uart) (side : Side) :
    u.Turns side [] (u.port side) u :=
  ⟨rfl, (Function.update_eq_self side u.port).symm⟩

/-- The line after such a turn, in which all but `rest` was read. -/
def turned (u : Uart) (rest : List (List UInt8)) (p : Port) : Side → Uart
  | .command =>
    { u with incoming := rest, command := { u.command with port := p } }
  | .session => { u with incoming := rest, session := p }

/-- A line `turned` by some reads of a side has made that turn. -/
theorem turns_turned {rest : List (List UInt8)}
    (h : u.incoming = reads ++ rest) (side : Side) (p : Port) :
    u.Turns side reads p (u.turned rest p side) := by
  cases side with
  | command => exact ⟨h, port_ext rfl rfl⟩
  | session => exact ⟨h, port_ext rfl rfl⟩

/-- A `read` that is answered takes no more bytes from the line. -/
theorem answer_read (hp : u.port side = p) (most : Nat) :
    (u.answer (.read side most)).1 = some (p.read most).1
      ∧ u.Turns side [] (p.read most).2
        (u.answer (.read side most)).2 := by
  subst hp
  cases side with
  | command => exact ⟨rfl, rfl, port_ext rfl rfl⟩
  | session => exact ⟨rfl, rfl, port_ext rfl rfl⟩

/-- To consume is a turn without reads. -/
theorem turns_consume (u : Uart) (side : Side) (count : Nat) :
    u.Turns side [] ((u.port side).consume count)
      (u.answer (.consume side count)).2 := by
  cases side with
  | command => exact ⟨rfl, port_ext rfl rfl⟩
  | session => exact ⟨rfl, port_ext rfl rfl⟩

-- ================================================= what the programs do

/-- The reads that a side makes until its port has something to hand out,
and what the port is then. -/
def Fills (u : Uart) (side : Side) (reads : List (List UInt8))
    (p : Port) : Prop :=
  (u.port side).fill (reads.map .bytes) = (.ready, p, [])

/-- Whoever waits for bytes until they come takes such a turn. -/
theorem wakes_bytes_iff :
    u.Wakes [.bytes side] 0 v ↔ ∃ reads rest p, u.incoming = reads ++ rest
      ∧ u.Fills side reads p ∧ v = u.turned rest p side := by
  have came : decide ([Wait.bytes side][0]? = some (.bytes side)) = true :=
    decide_eq_true rfl
  show u.Awaits (decide ([Wait.bytes side][0]? = some (.bytes side)))
    (.bytes side) v ↔ _
  rw [came]
  cases side <;> rfl

/-- A side that waits for bytes is filled by some reads, and that is its
turn. -/
theorem meets_fill (u : Uart) (side : Side) :
    (Line.fill side).Meets waking.contract u fun _ u' =>
      ∃ reads p, u.Fills side reads p ∧ u.Turns side reads p u' := by
  refine meets_bind.2 (meets_call.2 ⟨trivial, ?_⟩)
  intro spent u' ⟨hr, _⟩
  obtain ⟨rfl, rfl⟩ := Prod.mk.inj hr
  cases hs : (u'.port side).isSpent with
  | false => exact ⟨[], _, Port.fill_ready hs, u'.turns_self side⟩
  | true =>
    refine meets_bind.2 (meets_call.2 ⟨trivial, ?_⟩)
    intro place v ⟨hr, _⟩
    obtain rfl : v = u' := hr
    refine meets_call.2 ⟨trivial, ?_⟩
    intro place w ⟨hr, hplace⟩
    obtain rfl : place = 0 := Nat.lt_one_iff.1 hplace
    obtain ⟨reads, rest, p, hsplit, hfill, rfl⟩ := wakes_bytes_iff.1 hr
    exact ⟨reads, p, hfill, turns_turned hsplit side p⟩

/-- A `read` gives the bytes its port begins with once it is filled, and
leaves the rest there. -/
theorem meets_read (u : Uart) (side : Side) (most : Nat) :
    (Line.read side most).Meets waking.contract u fun r u' =>
      ∃ reads p, u.Fills side reads p ∧ r = some (p.read most).1
        ∧ u.Turns side reads (p.read most).2 u' := by
  refine meets_bind.2 ((u.meets_fill side).mono ?_)
  intro _ v ⟨reads, p, hfill, hv⟩
  refine meets_ask.2 ⟨trivial, ?_⟩
  intro r w ⟨hr, _⟩
  have hr : (r, w) = v.answer (.read side most) := by
    cases side <;> exact hr
  obtain ⟨rfl, rfl⟩ := Prod.ext_iff.1 hr
  obtain ⟨hanswer, hw⟩ := answer_read hv.own most
  exact ⟨reads, p, hfill, hanswer, hv.trans hw⟩

/-- A `peek` gives all its port holds once it is filled, and leaves it
there. -/
theorem meets_peek (u : Uart) (side : Side) :
    (Line.peek side).Meets waking.contract u fun r u' =>
      ∃ reads p, u.Fills side reads p ∧ r = some p.rest
        ∧ u.Turns side reads p u' := by
  refine meets_bind.2 ((u.meets_fill side).mono ?_)
  intro _ v ⟨reads, p, hfill, hv⟩
  refine meets_ask.2 ⟨trivial, ?_⟩
  intro r w ⟨hr, _⟩
  obtain ⟨rfl, rfl⟩ := Prod.mk.inj hr
  refine ⟨reads, p, hfill, ?_, hv⟩
  rw [hv.own]

/-- A `consume` takes bytes off its port, and the line brings nothing. -/
theorem meets_consume (u : Uart) (side : Side) (count : Nat) :
    (ask (.line (.consume side count))).Meets waking.contract u
      fun _ u' => u.Turns side [] ((u.port side).consume count) u' := by
  refine meets_ask.2 ⟨trivial, ?_⟩
  intro r w ⟨hr, _⟩
  have hr : (r, w) = u.answer (.consume side count) := by
    cases side <;> exact hr
  obtain ⟨-, rfl⟩ := Prod.ext_iff.1 hr
  exact u.turns_consume side count

/-- A side is through as soon as the line brings what its port needs. -/
theorem runs_fill {rest : List (List UInt8)}
    (hfill : u.Fills side reads p) (hsplit : u.incoming = reads ++ rest) :
    ∃ t v, Runs waking (Line.fill side) u t () v
      ∧ u.Turns side reads p v := by
  have begun : waking (.line (.isSpent side)) u (u.port side).isSpent u :=
    ⟨rfl, trivial⟩
  cases hs : (u.port side).isSpent with
  | false =>
    rw [hs] at begun
    obtain ⟨rfl, rfl⟩ := Port.eq_of_fill hs hfill
    exact ⟨_, u, .call begun (.done () u), u.turns_self side⟩
  | true =>
    rw [hs] at begun
    have turn : waking (.await [.turn]) u 0 u := ⟨rfl, Nat.one_pos⟩
    have came : waking (.await [.bytes side]) u 0 (u.turned rest p side) :=
      ⟨wakes_bytes_iff.2 ⟨reads, rest, p, hsplit, hfill, rfl⟩, Nat.one_pos⟩
    exact ⟨_, _, .call begun (.call turn (.call came (.done () _))),
      turns_turned hsplit side p⟩

/-- Where some reads fill the port, a `read` runs. -/
theorem runs_read {rest : List (List UInt8)} (hfill : u.Fills side reads p)
    (hsplit : u.incoming = reads ++ rest) (most : Nat) :
    ∃ t v, Runs waking (Line.read side most) u t (some (p.read most).1) v
      ∧ u.Turns side reads (p.read most).2 v := by
  obtain ⟨t, v, hr, hv⟩ := runs_fill hfill hsplit
  obtain ⟨hanswer, hw⟩ := answer_read hv.own most
  have asked : waking (.line (.read side most)) v
      (some (p.read most).1) (v.answer (.read side most)).2 := by
    refine ⟨?_, trivial⟩
    rw [← hanswer]
    cases side <;> rfl
  exact ⟨_, _, runs_bind_iff.2 ⟨t, _, (), v, rfl, hr, .call asked
    (.done _ _)⟩, hv.trans hw⟩

/-- Where some reads fill the port, a `peek` runs. -/
theorem runs_peek {rest : List (List UInt8)} (hfill : u.Fills side reads p)
    (hsplit : u.incoming = reads ++ rest) :
    ∃ t v, Runs waking (Line.peek side) u t (some p.rest) v
      ∧ u.Turns side reads p v := by
  obtain ⟨t, v, hr, hv⟩ := runs_fill hfill hsplit
  have asked : waking (.line (.peek side)) v (some p.rest) v := by
    refine ⟨?_, trivial⟩
    rw [← hv.own]
    rfl
  exact ⟨_, _, runs_bind_iff.2 ⟨t, _, (), v, rfl, hr, .call asked
    (.done _ _)⟩, hv⟩

/-- A `consume` always runs. -/
theorem runs_consume (u : Uart) (side : Side) (count : Nat) :
    ∃ t v, Runs waking (ask (.line (.consume side count))) u t () v
      ∧ u.Turns side [] ((u.port side).consume count) v := by
  have asked : waking (.line (.consume side count)) u ()
      (u.answer (.consume side count)).2 := by
    refine ⟨?_, trivial⟩
    cases side <;> rfl
  exact ⟨_, _, .call asked (.done () _), u.turns_consume side count⟩

-- ================================================================= uses

/-- One use of a port: whose it is, what the line was read for it, and what
was taken out. -/
structure Use where
  side : Side
  reads : List (List UInt8) := []
  taken : List UInt8 := []

/-- How a port is used: a side reads, looks at what there is, or skips some
of it. -/
inductive Uses : Uart → Use → Uart → Prop
  | read {u v : Uart} (side : Side) (most : Nat)
      {reads : List (List UInt8)} {content : List UInt8}
      {t : List (Event Board)} :
      Runs waking (Line.read side most) u t (some content) v →
      u.incoming = reads ++ v.incoming →
      Uses u { side, reads, taken := content } v
  | peek {u v : Uart} (side : Side) {reads : List (List UInt8)}
      {content : List UInt8} {t : List (Event Board)} :
      Runs waking (Line.peek side) u t (some content) v →
      u.incoming = reads ++ v.incoming →
      Uses u { side, reads } v
  | consume {u v : Uart} (side : Side) (count : Nat) {p : Port}
      {t : List (Event Board)} :
      (u.port side).consume? count = some p →
      Runs waking (ask (.line (.consume side count))) u t () v →
      Uses u { side, taken := (u.port side).rest.take count } v

/-- A history of uses. What else happens on the board in between leaves the
line and both ports alone. -/
inductive Used : Uart → List Use → Uart → Prop
  | start (u : Uart) : Used u [] u
  | use {u v w : Uart} {x : Use} {uses : List Use} :
      Uses u x v → Used v uses w → Used u (x :: uses) w
  | aside {u v w : Uart} {uses : List Use} :
      v.incoming = u.incoming → v.port = u.port → Used v uses w →
      Used u uses w

/-- Uses of the line can follow one another. -/
theorem Used.trans {uses more : List Use} (h : Used u uses v)
    (h' : Used v more w) : Used u (uses ++ more) w := by
  induction h with
  | start => exact h'
  | use hx _ ih => exact .use hx (ih h')
  | aside hi hp _ ih => exact .aside hi hp (ih h')

/-- Only the line and its ports count. -/
theorem Used.beside {uses : List Use} (h : Used u uses v)
    (hi : w.incoming = v.incoming) (hp : w.port = v.port) :
    Used u uses w := by
  have hw := h.trans (.aside hi hp (.start w))
  rwa [List.append_nil] at hw

/-- What a side was handed in a history, in order. -/
def handed (side : Side) (uses : List Use) : List UInt8 :=
  (uses.filter (·.side = side)).flatMap Use.taken

/-- The reads of the line that a side made in a history. -/
def brought (side : Side) (uses : List Use) : List (List UInt8) :=
  (uses.filter (·.side = side)).flatMap Use.reads

/-- The line brings something with each read, and no more than a buffer has
room for; and both ports are within theirs. -/
structure Sound (u : Uart) : Prop where
  reads : ∀ content ∈ u.incoming,
    content ≠ [] ∧ content.length ≤ portCapacity
  within : ∀ side, (u.port side).Within

variable {x : Use} {uses : List Use}

/-- On a `Sound` line a port is filled within its bounds. -/
theorem Fills.within {rest : List (List UInt8)} (h : u.Fills side reads p)
    (hu : u.Sound) (hsplit : u.incoming = reads ++ rest) : p.Within := by
  refine (hu.within side).fill (fun content hc => ?_) h
  refine (hu.reads content ?_).2
  rw [hsplit]
  exact List.mem_append_left rest hc

/-- What a side is given it finds in its port or has it read, and what it
leaves stays in the port. -/
theorem Uses.turns (h : Uses u x v) (hu : u.Sound) :
    ∃ p, u.Turns x.side x.reads p v ∧ p.Within
      ∧ x.taken ++ p.rest = (u.port x.side).rest ++ x.reads.flatten := by
  cases h with
  | read side most hr hsplit =>
    obtain ⟨reads', p, hfill, hcontent, hv⟩ :=
      (u.meets_read side most).of_runs hr
    obtain rfl := List.append_cancel_right (hsplit.symm.trans hv.incoming)
    obtain rfl := Option.some_inj.1 hcontent
    refine ⟨_, hv, (hfill.within hu hsplit).consume _, ?_⟩
    rw [Port.read_append, Port.rest_of_fill hfill]
  | peek side hr hsplit =>
    obtain ⟨reads', p, hfill, -, hv⟩ := (u.meets_peek side).of_runs hr
    obtain rfl := List.append_cancel_right (hsplit.symm.trans hv.incoming)
    exact ⟨p, hv, hfill.within hu hsplit, Port.rest_of_fill hfill⟩
  | consume side count hp hr =>
    have hv := (u.meets_consume side count).of_runs hr
    refine ⟨_, hv, (hu.within side).consume count, ?_⟩
    rw [Port.rest_consume, List.take_append_drop, List.flatten_nil,
      List.append_nil]

/-- A turn that leaves its port within its bounds leaves the line
`Sound`. -/
theorem Turns.sound (h : u.Turns side reads p v) (hu : u.Sound)
    (hp : p.Within) : v.Sound := by
  constructor
  · intro content hc
    refine hu.reads content ?_
    rw [h.incoming]
    exact List.mem_append_right reads hc
  · intro s
    rw [h.ports]
    rcases eq_or_ne s side with rfl | hs
    · rwa [Function.update_self]
    · rw [Function.update_of_ne hs]
      exact hu.within s

/-- What a history comes to. -/
structure Account (u : Uart) (uses : List Use) (v : Uart) : Prop where
  sound : v.Sound
  /-- each read of the line was made for one use -/
  reads : u.incoming = uses.flatMap Use.reads ++ v.incoming
  /-- what a side was handed and what its port holds is what the port held
  first and what was read for it -/
  whole : ∀ side, handed side uses ++ (v.port side).rest
    = (u.port side).rest ++ (brought side uses).flatten

/-- One more use before others that are accounted for is accounted for. -/
theorem Account.use (hu : u.Sound) (hx : Uses u x v)
    (h : v.Sound → v.Account uses w) : u.Account (x :: uses) w := by
  obtain ⟨p, hv, hp, hwhole⟩ := hx.turns hu
  have h := h (hv.sound hu hp)
  refine ⟨h.sound, ?_, fun side => ?_⟩
  · rw [hv.incoming, h.reads, List.flatMap_cons, List.append_assoc]
  · have later := h.whole side
    rcases eq_or_ne x.side side with rfl | hs
    · rw [hv.own] at later
      simp only [handed, brought, decide_true, List.filter_cons_of_pos,
        List.flatMap_cons, List.flatten_append, List.append_assoc]
      rw [← List.append_assoc _ x.reads.flatten, ← hwhole,
        List.append_assoc]
      exact congrArg _ later
    · rw [hv.ports, Function.update_of_ne hs.symm] at later
      simpa only [handed, brought, hs, decide_false, Bool.false_eq_true,
        not_false_eq_true, List.filter_cons_of_neg] using later

/-- Whatever use is made of a `Sound` line is accounted for. -/
theorem Used.account (h : Used u uses v) (hu : u.Sound) :
    u.Account uses v := by
  induction h with
  | start u => exact ⟨hu, rfl, fun _ => (List.append_nil _).symm⟩
  | use hx _ ih => exact Account.use hu hx ih
  | aside hi hp _ ih =>
    have hv := ih ⟨hi ▸ hu.reads, hp ▸ hu.within⟩
    exact ⟨hv.sound, hi ▸ hv.reads, hp ▸ hv.whole⟩

end Uart

-- ============================================================= listening

namespace Listening

variable {l l' : Listening}

/-- Read one piece and hear it. -/
def hearPiece (l : Listening) : Listening :=
  let (piece, port) := l.port.read pieceSize
  match l.collector.take (.bytes piece) with
  | .inl verdict => { l with port, verdict := some verdict }
  | .inr collector => { l with port, collector }

/-- The listening goes on: the answer is open, and the port has a piece. -/
def GoesOn (l : Listening) : Prop :=
  l.verdict = none ∧ l.port.isSpent = false

/-- To hear a piece leaves the port without it. -/
theorem hearPiece_port (l : Listening) :
    l.hearPiece.port = (l.port.read pieceSize).2 := by
  unfold hearPiece
  dsimp only
  split <;> rfl

/-- Where the channel does not go on, there is nothing to `drain`. -/
theorem drain_stopped (h : ¬l.GoesOn) (left : Nat) : drain left l = l := by
  cases left with
  | zero => rfl
  | succ left =>
    refine if_pos ?_
    rw [Bool.or_eq_true]
    by_contra hstop
    rw [not_or, Bool.not_eq_true, Bool.not_eq_true,
      Option.isSome_eq_false_iff, Option.isNone_iff_eq_none] at hstop
    exact h hstop

/-- To `drain` a port is to hear one piece after the other. -/
theorem drain_succ (h : l.GoesOn) (left : Nat) :
    drain (left + 1) l = drain left l.hearPiece := by
  have hstop : ¬(l.verdict.isSome || l.port.isSpent) = true := by
    rw [h.1, h.2]
    exact nofun
  rw [drain, if_neg hstop, hearPiece]
  dsimp only
  cases l.collector.take (.bytes (l.port.read pieceSize).1) with
  | inl verdict =>
    symm
    refine drain_stopped (fun hgo => ?_) left
    exact Option.some_ne_none verdict hgo.1
  | inr collector => rfl

/-- Only a piece with nothing in it breaks an answer off. -/
theorem take_ne_broken (c : Collector) {piece : List UInt8}
    (hpiece : piece ≠ []) : c.take (.bytes piece) ≠ .inl .broken := by
  intro hbroken
  rcases c.take_cases (.bytes piece) with ⟨hnone, -⟩ | ⟨-, hhear⟩
  · exact hpiece hnone
  · rw [hhear, Collector.hear_eq] at hbroken
    split at hbroken
    next v hv =>
      cases hbroken
      exact Collector.verdict?_eq_some_iff.1 hv
    next => cases hbroken

/-- While the channel goes on, the next piece is not empty. -/
theorem GoesOn.piece_ne_nil (h : l.GoesOn) (hp : l.port.Within) :
    (l.port.read pieceSize).1 ≠ [] :=
  hp.read_ne_nil h.2 (Nat.succ_pos 63)

/-- While the channel goes on, no piece it hears breaks the channel. -/
theorem GoesOn.verdict_hearPiece (h : l.GoesOn) (hp : l.port.Within) :
    l.hearPiece.verdict ≠ some .broken := by
  unfold hearPiece
  dsimp only
  split
  next verdict ht =>
    intro hv
    cases hv
    exact take_ne_broken _ (h.piece_ne_nil hp) ht
  next =>
    show l.verdict ≠ _
    rw [h.1]
    exact nofun

/-- What every piece keeps, the draining of a port keeps. -/
theorem drain_keeps (inv : Listening → Prop)
    (hpiece : ∀ l, l.GoesOn → inv l → inv l.hearPiece) (left : Nat)
    (hl : inv l) : inv (drain left l) := by
  induction left generalizing l with
  | zero => exact hl
  | succ left ih =>
    by_cases hgo : l.GoesOn
    · rw [drain_succ hgo]
      exact ih (hpiece l hgo hl)
    · rwa [drain_stopped hgo]

/-- Enough pieces leave an answer open only where the port is spent. -/
theorem drain_spent (hp : l.port.Within) {left : Nat}
    (h : l.port.rest.length ≤ left) : ¬(drain left l).GoesOn := by
  induction left generalizing l with
  | zero =>
    intro hgo
    exact hp.rest_ne_nil hgo.2 (List.length_eq_zero_iff.1 (Nat.le_zero.1 h))
  | succ left ih =>
    by_cases hgo : l.GoesOn
    · rw [drain_succ hgo]
      have hlen := congrArg List.length (l.port.read_append pieceSize)
      have hpos : 0 < (l.port.read pieceSize).1.length :=
        List.length_pos_iff.2 (hgo.piece_ne_nil hp)
      rw [List.length_append] at hlen
      refine ih ?_ ?_
      · rw [hearPiece_port]
        exact hp.consume _
      · rw [hearPiece_port]
        omega
    · rwa [drain_stopped hgo]

end Listening

namespace Uart

variable {u v w : Uart} {reads rest : List (List UInt8)} {p : Port}
variable {l l' : Listening}

/-- Reads of the command channel, of one piece each, with something in
it. -/
def Pieces (uses : List Use) : Prop :=
  ∀ x ∈ uses, x.side = .command ∧ x.taken ≠ []
    ∧ x.taken.length ≤ pieceSize

/-- By such reads the listening came from one line to another, and it did
not break off. -/
structure Listened (u v : Uart) : Prop where
  pieces : ∃ uses, Used u uses v ∧ Pieces uses
  unbroken : v.command.verdict ≠ some .broken

/-- After the channel has listened the line is still `Sound`. -/
theorem Listened.sound (h : u.Listened v) (hu : u.Sound) : v.Sound := by
  obtain ⟨uses, hused, -⟩ := h.pieces
  exact (hused.account hu).sound

/-- One piece is read as a read of the port reads it. -/
theorem Listened.piece (h : u.Listened v) (hu : u.Sound)
    (hsplit : v.incoming = reads ++ rest) (hfill : v.Fills .command reads p)
    (hv : v.command.verdict = none) :
    u.Listened { v with
      incoming := rest
      command := Listening.hearPiece { v.command with port := p } } := by
  have hp := hfill.within (h.sound hu) hsplit
  have hgo : Listening.GoesOn { v.command with port := p } :=
    ⟨hv, Port.isSpent_of_fill hfill⟩
  refine ⟨?_, hgo.verdict_hearPiece hp⟩
  obtain ⟨uses, hused, hpieces⟩ := h.pieces
  obtain ⟨t, w, hr, hw⟩ := runs_read hfill hsplit pieceSize
  have hin : rest = w.incoming :=
    List.append_cancel_left (hsplit.symm.trans hw.incoming)
  have one := Used.use (.read .command pieceSize hr hw.incoming) (.start w)
  refine ⟨_, (hused.trans one).beside hin ?_, ?_⟩
  · rw [hw.ports]
    exact port_ext (Listening.hearPiece_port _) rfl
  · intro x hx
    rcases List.mem_append.1 hx with hx | hx
    · exact hpieces x hx
    · obtain rfl := List.mem_singleton.1 hx
      exact ⟨rfl, hgo.piece_ne_nil hp, List.length_take_le pieceSize p.rest⟩

/-- So is all that a port holds. -/
theorem Listened.drain (h : u.Listened { v with command := l })
    (hu : u.Sound) (left : Nat) :
    u.Listened { v with command := Listening.drain left l } := by
  refine Listening.drain_keeps
    (fun l => u.Listened { v with command := l }) ?_ left h
  intro l hgo hl
  exact hl.piece hu (List.nil_append v.incoming).symm
    (Port.fill_ready hgo.2) hgo.1

/-- So is what the line brings while the answer is open. -/
theorem Listened.run
    (h : u.Listened { v with incoming := reads ++ rest, command := l })
    (hu : u.Sound) (hgo : ¬l.GoesOn)
    (hr : l.run (reads.map .bytes) = (l', [])) :
    u.Listened { v with incoming := rest, command := l' } := by
  induction reads generalizing l with
  | nil =>
    obtain rfl : l = l' := congrArg (·.1) hr
    exact h
  | cons content later ih =>
    rw [List.map_cons, Listening.run] at hr
    split at hr
    next => cases hr
    next hopen =>
      rw [Bool.not_eq_true, Option.isSome_eq_false_iff,
        Option.isNone_iff_eq_none] at hopen
      have hspent : l.port.isSpent = true := by
        by_contra hs
        exact hgo ⟨hopen, eq_false_of_ne_true hs⟩
      obtain ⟨hne, hroom⟩ :=
        (h.sound hu).reads content List.mem_cons_self
      obtain ⟨n, hn⟩ := Nat.exists_eq_succ_of_ne_zero
        (mt List.length_eq_zero_iff.1 hne)
      have hfill := Port.fill_spent hspent hne
      have hgo : Listening.GoesOn { l with port := Port.refill content } :=
        ⟨hopen, Port.isSpent_of_fill hfill⟩
      refine ih ?_ ?_ hr
      · rw [Listening.take, hn, Listening.drain_succ hgo]
        exact Listened.drain (v := { v with incoming := later ++ rest })
          (h.piece hu rfl hfill hopen) hu n
      · exact Listening.drain_spent (Port.within_refill hroom) le_rfl

/-- To `listen` is to read pieces with something in them until the answer
is settled. A line that stays up breaks no answer off. -/
theorem meets_listen_pieces (collector : Collector) (timeout : Nat)
    (hu : u.Sound) :
    (Line.answer (.listen collector timeout)).Meets waking.contract u
      fun r v => r ≠ some .broken
        ∧ ∃ uses, Used u uses v ∧ Pieces uses := by
  have fresh : u.Listened
      { u with command := { port := u.command.port, collector } } :=
    ⟨⟨[], (Used.start u).beside rfl (port_ext rfl rfl), nofun⟩, nofun⟩
  have begun := fresh.drain hu u.command.port.held.length
  have hgo : ¬(Listening.start u.command.port collector).GoesOn :=
    Listening.drain_spent (l := { port := u.command.port, collector })
      (hu.within .command) Port.rest_length_le
  -- the answer is taken away, which the ports do not see
  have told {v : Uart} (h : u.Listened v) (verdict : Option Verdict) :
      ∃ uses, Used u uses { v with command := { v.command with verdict } }
        ∧ Pieces uses := by
    obtain ⟨uses, hused, hpieces⟩ := h.pieces
    exact ⟨uses, hused.beside rfl (port_ext rfl rfl), hpieces⟩
  refine meets_bind.2 (meets_call.2 ⟨trivial, ?_⟩)
  intro timer v ⟨hr, _⟩
  obtain rfl : u = v := Eq.symm hr
  show (race (.timer timer) (Line.listen collector)).Meets _ _ _
  unfold Line.listen
  rw [race_ask_bind rfl]
  refine meets_call.2 ⟨trivial, ?_⟩
  intro settled v ⟨hr, _⟩
  obtain ⟨rfl, rfl⟩ := Prod.mk.inj hr
  cases (Listening.start u.command.port collector).verdict.isSome with
  | true =>
    refine meets_call.2 ⟨trivial, ?_⟩
    intro verdict v ⟨hr, _⟩
    obtain ⟨rfl, rfl⟩ := Prod.mk.inj hr
    exact ⟨begun.unbroken, told begun none⟩
  | false =>
    -- wait for the line
    refine meets_call.2 ⟨trivial, ?_⟩
    intro place v ⟨hr, _⟩
    obtain rfl : v = _ := hr
    show Meets _ (if place < 1 then _ else _) _ _
    split
    · -- wait for the answer
      refine meets_call.2 ⟨trivial, ?_⟩
      intro place v ⟨⟨reads, rest, l, hsplit, hrun, _, hv⟩, _⟩
      rw [show u.incoming = reads ++ rest from hsplit] at begun
      subst hv
      have heard := Listened.run begun hu hgo hrun
      show Meets _ (if place < 1 then _ else _) _ _
      split
      · refine meets_call.2 ⟨trivial, ?_⟩
        intro verdict v ⟨hr, _⟩
        obtain ⟨rfl, rfl⟩ := Prod.mk.inj hr
        exact ⟨heard.unbroken, told heard none⟩
      · exact ⟨nofun, told heard l.verdict⟩
    · exact ⟨nofun, told begun _⟩

-- ========================================================= the whole law

/-- A side that finds something in its port, or to be read, has what it
needs. -/
theorem exists_fills (hu : u.Sound) {side : Side}
    (h : (u.port side).rest ≠ [] ∨ u.incoming ≠ []) :
    ∃ reads rest p, u.Fills side reads p ∧ u.incoming = reads ++ rest := by
  cases hs : (u.port side).isSpent with
  | false => exact ⟨[], u.incoming, _, Port.fill_ready hs, rfl⟩
  | true =>
    have hne := h.resolve_left fun h => h (Port.rest_of_isSpent hs)
    obtain ⟨content, later, hin⟩ := List.exists_cons_of_ne_nil hne
    have hc := (hu.reads content (by rw [hin]; exact List.mem_cons_self)).1
    exact ⟨[content], later, _, Port.fill_spent hs hc, hin⟩

/-- What a history of uses leaves behind, and what a next use comes to. -/
structure Lossless (u : Uart) (uses : List Use) (v : Uart) : Prop where
  /-- what was handed out lies within what is held, and this within the
  buffer -/
  bounds : ∀ side, (v.port side).start ≤ (v.port side).held.length
    ∧ (v.port side).held.length ≤ portCapacity
  /-- each read of the line was made for one use -/
  reads : u.incoming = uses.flatMap Use.reads ++ v.incoming
  /-- what a side was handed is the start of what was read for it, and its
  port holds the others -/
  queue : ∀ side,
    handed side uses ++ (v.port side).rest = (brought side uses).flatten
  /-- so for a side that has the line to itself, it is the start of all
  that the line brings -/
  alone : ∀ side, (∀ x ∈ uses, x.side = side) →
    handed side uses ++ (v.port side).rest ++ v.incoming.flatten
      = u.incoming.flatten
  /-- whoever has room for something is handed something, and to skip that
  is no sum without an answer -/
  read : ∀ side most t r w, Runs waking (Line.read side most) v t r w →
    ∃ content reads p, r = some content ∧ content.length ≤ most
      ∧ (0 < most → content ≠ []) ∧ v.Fills side reads p
      ∧ p.consume? content.length = some (w.port side)
  /-- whoever looks sees all that there is, which is something -/
  peek : ∀ side t r w, Runs waking (Line.peek side) v t r w →
    r = some (w.port side).rest ∧ (w.port side).rest ≠ []
  /-- whoever skips gets past these bytes, or past all -/
  consume : ∀ side count p, (v.port side).consume? count = some p →
    p.rest = (v.port side).rest.drop count
      ∧ ∃ t w, Runs waking (ask (.line (.consume side count))) v t () w
        ∧ w.port side = p
  /-- both are through where there is something to be handed out -/
  answered : ∀ side, (v.port side).rest ≠ [] ∨ v.incoming ≠ [] →
    (∀ most, ∃ t content w,
        Runs waking (Line.read side most) v t (some content) w)
      ∧ ∃ t content w, Runs waking (Line.peek side) v t (some content) w
  /-- an answer is listened for by more uses of this kind, and the line
  never seems to end -/
  listen : ∀ collector timeout t r w,
    Runs waking (Line.answer (.listen collector timeout)) v t r w →
    r ≠ some .broken ∧ ∃ more, Used u (uses ++ more) w ∧ Pieces more
  /-- every amount can be skipped exactly where nothing of the buffer was
  handed out -/
  skips : ∀ side,
    (∀ count < USize.size, ((v.port side).consume? count).isSome = true)
      ↔ (v.port side).start = 0

/-- If a side is alone on the line, all reads were brought to it. -/
theorem brought_of_alone {uses : List Use} {side : Side}
    (h : ∀ x ∈ uses, x.side = side) :
    brought side uses = uses.flatMap Use.reads := by
  unfold brought
  rw [List.filter_eq_self.2 fun x hx => decide_eq_true (h x hx)]

/-- Two fresh ports lose and double nothing, however they are used
(`Lossless`), on a line whose reads bring something each and no more than a
buffer has room for. -/
theorem Used.lossless {uses : List Use} (h : Used u uses v)
    (hfresh : ∀ side, u.port side = {})
    (hreads : ∀ content ∈ u.incoming,
      content ≠ [] ∧ content.length ≤ portCapacity) :
    Lossless u uses v := by
  have hu : u.Sound := by
    refine ⟨hreads, fun side => ?_⟩
    rw [hfresh side]
    exact ⟨le_rfl, Nat.zero_le _⟩
  have account := h.account hu
  have hv := account.sound
  -- what a side was handed, and what is left to it, is what was brought
  -- to it: everything below rests on this
  have queue (side : Side) : handed side uses ++ (v.port side).rest
      = (brought side uses).flatten := by
    rw [account.whole side, hfresh side]
    rfl
  constructor
  case bounds => exact fun side => ⟨(hv.within side).1, (hv.within side).2⟩
  case reads => exact account.reads
  case queue => exact queue
  case alone =>
    intro side halone
    rw [queue side, brought_of_alone halone, account.reads,
      List.flatten_append]
  case read =>
    intro side most t r w hr
    obtain ⟨reads, p, hfill, rfl, hw⟩ := (v.meets_read side most).of_runs hr
    have hp := hfill.within hv hw.incoming
    have hsome : 0 < most → (p.read most).1 ≠ [] :=
      hp.read_ne_nil (Port.isSpent_of_fill hfill)
    refine ⟨_, reads, p, rfl, List.length_take_le most p.rest, hsome,
      hfill, ?_⟩
    rw [hw.own]
    exact hp.consume?_read most
  case peek =>
    intro side t r w hr
    obtain ⟨reads, p, hfill, rfl, hw⟩ := (v.meets_peek side).of_runs hr
    rw [hw.own]
    exact ⟨rfl, (hfill.within hv hw.incoming).rest_ne_nil
      (Port.isSpent_of_fill hfill)⟩
  case consume =>
    intro side count p hp
    obtain rfl := Port.eq_consume_of_consume? hp
    obtain ⟨t, w, hr, hw⟩ := v.runs_consume side count
    exact ⟨Port.rest_consume count, t, w, hr, hw.own⟩
  case answered =>
    intro side hsome
    obtain ⟨reads, rest, p, hfill, hsplit⟩ := exists_fills hv hsome
    refine ⟨fun most => ?_, ?_⟩
    · obtain ⟨t, w, hr, -⟩ := runs_read hfill hsplit most
      exact ⟨t, _, w, hr⟩
    · obtain ⟨t, w, hr, -⟩ := runs_peek hfill hsplit
      exact ⟨t, _, w, hr⟩
  case listen =>
    intro collector timeout t r w hr
    obtain ⟨hr, more, hmore, hpieces⟩ :=
      (meets_listen_pieces collector timeout hv).of_runs hr
    exact ⟨hr, more, h.trans hmore, hpieces⟩
  case skips => exact fun side => Port.consume?_isSome_iff

/-- Two bytes are read, then more is skipped than there is, and for the
next byte the line is read again. -/
theorem Used.lossless_refilled :
    let u := bringing [[1, 2, 3], [4, 5]]
    let uses : List Use :=
      [{ side := .session, reads := [[1, 2, 3]], taken := [1, 2] },
        { side := .session, taken := [3] },
        { side := .session, reads := [[4, 5]], taken := [4] }]
    (∀ side, u.port side = {})
      ∧ (∀ content ∈ u.incoming,
        content ≠ [] ∧ content.length ≤ portCapacity)
      ∧ ∃ v, Used u uses v ∧ Lossless u uses v
        ∧ (v.port .session).rest = [5] := by
  intro u uses
  have hfresh (side : Side) : u.port side = {} := by cases side <;> rfl
  have hreads : ∀ content ∈ u.incoming,
      content ≠ [] ∧ content.length ≤ portCapacity := by decide
  -- the first read
  have filled : u.Fills .session [[1, 2, 3]] (Port.refill [1, 2, 3]) := rfl
  obtain ⟨t₁, u₁, hr₁, h₁⟩ := runs_read filled rfl 2
  have split : [[1, 2, 3]] ++ [[4, 5]] = [[1, 2, 3]] ++ u₁.incoming :=
    h₁.incoming
  have later : [[4, 5]] = u₁.incoming := List.append_cancel_left split
  -- the skip
  have room : (u₁.port .session).consume? 7 = some ⟨[1, 2, 3], 3⟩ := by
    rw [h₁.own]
    exact if_pos (Nat.lt_trans (by decide) Port.portCapacity_lt)
  have taken : (u₁.port .session).rest.take 7 = [3] := by
    rw [h₁.own]
    rfl
  obtain ⟨t₂, u₂, hr₂, h₂⟩ := u₁.runs_consume .session 7
  -- the second read
  have refilled : u₂.Fills .session [[4, 5]] (Port.refill [4, 5]) := by
    rw [Fills, h₂.own, h₁.own]
    rfl
  obtain ⟨t₃, v, hr₃, h₃⟩ := runs_read refilled
    (h₂.incoming.symm.trans later.symm) 1
  have used : Used u uses v :=
    .use (.read .session 2 hr₁ h₁.incoming)
      (.use (taken ▸ .consume .session 7 room hr₂)
        (.use (.read .session 1 hr₃ h₃.incoming) (.start v)))
  refine ⟨hfresh, hreads, v, used, used.lossless hfresh hreads, ?_⟩
  rw [h₃.own]
  rfl

/-- Not every amount can be skipped: behind the first of four bytes, the
largest that a word holds has no answer. -/
theorem Used.lossless_no_room :
    ∃ v, Used (bringing [[97, 98, 99, 100], [101, 102]])
        [{ side := .command, reads := [[97, 98, 99, 100]], taken := [97] }] v
      ∧ (v.port .command).rest = [98, 99, 100]
      ∧ USize.size - 1 < USize.size
      ∧ (v.port .command).consume? (USize.size - 1) = none := by
  have filled : (bringing [[97, 98, 99, 100], [101, 102]]).Fills .command
      [[97, 98, 99, 100]] (Port.refill [97, 98, 99, 100]) := rfl
  obtain ⟨t, v, hr, hv⟩ := runs_read filled rfl 1
  have hpos : 0 < USize.size := USize.size_pos
  refine ⟨v, .use (.read .command 1 hr hv.incoming) (.start v), ?_,
    Nat.sub_lt hpos Nat.one_pos, ?_⟩
  · rw [hv.own]
    rfl
  · rw [hv.own]
    refine if_neg ?_
    show ¬1 + (USize.size - 1) < USize.size
    omega

end Uart

end Uplink.Board
