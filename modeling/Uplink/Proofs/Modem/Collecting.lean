/-
What an answer comes to, and what its pieces have to do with it.

A collector looks for its tokens after each piece, and counts what it
keeps within one. So it sees the answer only where a piece ends
(`Collector.run_inl`, `Collector.run_inr`), and what lies between a token
and the end of its piece counts as well: a token of success behind one of
failure, or one character too many.

# Where pieces end

`Collector.outcomeAt` is what the first bytes of an answer come to when a
piece ends there. Once it is anything it stays something
(`Collector.outcomeAt_isSome`), and a piece ends at most `pieceSize - 1`
bytes later. How an answer is cut does not matter exactly if the first
outcome stays the same over all the ends that a piece can have from there
on (`Collector.Firm`, `Collector.outcomeIn_eq_iff`). An answer that can
be kept whole, with one kind of token in it, is of that sort
(`Collector.firm_of_plain`).
-/
import Mathlib.Data.List.Defs
import Mathlib.Order.Nat
import Uplink.Board.Port
import Uplink.Modem.Channel
import Uplink.Proofs.Pairs

namespace Uplink.Modem

open Board (pieceSize)
open Proc (settle)

-- ============================================================= readings

/-- The bytes of a reading. -/
def Reading.content : Reading → List UInt8
  | .bytes content => content
  | .closed => []
  | .fault => []

/-- What a collector hears of some readings. -/
def textOf (readings : List Reading) : List Char :=
  asciiText (readings.flatMap Reading.content)

/-- Bytes are read as text one by one, so `asciiText` goes over a cut. -/
theorem asciiText_append (bytes more : List UInt8) :
    asciiText (bytes ++ more) = asciiText bytes ++ asciiText more := by
  simp [asciiText]

@[simp] theorem textOf_nil : textOf [] = [] :=
  rfl

theorem textOf_cons (reading : Reading) (rest : List Reading) :
    textOf (reading :: rest)
      = asciiText reading.content ++ textOf rest := by
  unfold textOf
  rw [List.flatMap_cons, asciiText_append]

/-- The text of readings in a row is that of the first and then that of the
others. -/
theorem textOf_append (readings more : List Reading) :
    textOf (readings ++ more) = textOf readings ++ textOf more := by
  unfold textOf
  rw [List.flatMap_append, asciiText_append]

/-- What is read in pieces is heard as if it were read at once. -/
theorem textOf_bytes (pieces : List (List UInt8)) :
    textOf (pieces.map .bytes) = asciiText pieces.flatten := by
  unfold textOf
  rw [List.flatMap_map]
  show asciiText (pieces.flatMap id) = _
  rw [List.flatMap_id]

-- ============================================================= verdicts

namespace Collector

variable {c c' : Collector} {readings rest : List Reading} {v : Verdict}
variable {text : List Char}

/-- The verdict on a text, if it settles the matter. -/
def verdict? (c : Collector) (text : List Char) : Option Verdict :=
  if responseCapacity < text.length then some .overflow
  else if Text.contains c.success text then
    some (.accepted (String.ofList text))
  else if c.isRefused text then some (.refused (String.ofList text))
  else none

/-- To `hear` a piece is to ask for a verdict on all of the text so far,
and to keep the text where there is none. -/
theorem hear_eq (c : Collector) (piece : List UInt8) :
    c.hear piece = match c.verdict? (c.heard ++ asciiText piece) with
      | some v => .inl v
      | none => .inr { c with heard := c.heard ++ asciiText piece } := by
  unfold hear verdict?
  dsimp only
  split
  · rfl
  · split
    · rfl
    · split <;> rfl

/-- An error that shows does not vanish when more comes in. -/
theorem isRefused_append (h : c.isRefused text = true)
    (more : List Char) : c.isRefused (text ++ more) = true := by
  unfold isRefused at h ⊢
  rw [Bool.or_eq_true, Bool.and_eq_true] at h ⊢
  exact h.imp (fun h => ⟨h.1, Text.contains_append more h.2⟩)
    (Text.contains_append more)

/-- What settled the matter would have settled it with more behind it,
though perhaps in another way. -/
theorem verdict?_append (h : (c.verdict? text).isSome = true)
    (more : List Char) : (c.verdict? (text ++ more)).isSome = true := by
  unfold verdict? at h ⊢
  by_cases hl : responseCapacity < (text ++ more).length
  · rw [if_pos hl]
    rfl
  · have hn : ¬responseCapacity < text.length := by
      rw [List.length_append] at hl
      omega
    rw [if_neg hn] at h
    rw [if_neg hl]
    split
    · rfl
    next hs =>
      rw [if_neg fun hc => hs (Text.contains_append more hc)] at h
      have hr : c.isRefused text = true := by
        by_contra hr
        rw [if_neg hr] at h
        cases h
      rw [if_pos (isRefused_append hr more)]
      rfl

/-- A `Reading` either breaks the collecting off or is heard. -/
theorem take_cases (c : Collector) (reading : Reading) :
    reading.content = [] ∧ c.take reading = .inl .broken
      ∨ reading.content ≠ [] ∧ c.take reading = c.hear reading.content := by
  cases reading with
  | bytes content =>
    cases content with
    | nil => exact .inl ⟨rfl, rfl⟩
    | cons b more => exact .inr ⟨nofun, rfl⟩
  | closed => exact .inl ⟨rfl, rfl⟩
  | fault => exact .inl ⟨rfl, rfl⟩

/-- A `Reading` that settles the matter leaves all others unread. -/
theorem run_cons_of_inl {reading : Reading}
    (h : c.take reading = .inl v) :
    c.run (reading :: rest) = (.inl v, rest) := by
  rw [run, h]

/-- A reading that does not is taken, and the `run` goes on with the
others. -/
theorem run_cons_of_inr {reading : Reading}
    (h : c.take reading = .inr c') :
    c.run (reading :: rest) = c'.run rest := by
  rw [run, h]

/-- A matter that is settled was settled by the verdict on all that was
heard up to there, unless the reading broke off; before the last reading
it was open. -/
theorem run_inl (h : c.run readings = (.inl v, rest)) :
    ∃ read last, readings = read ++ last :: rest
      ∧ (last.content = [] ∧ v = .broken
        ∨ last.content ≠ []
          ∧ c.verdict? (c.heard ++ textOf (read ++ [last])) = some v)
      ∧ (read ≠ [] → c.verdict? (c.heard ++ textOf read) = none) := by
  -- by induction on the readings; those before the last are heard
  induction readings generalizing c with
  | nil => cases h
  | cons reading later ih =>
    rcases c.take_cases reading with ⟨he, ht⟩ | ⟨he, ht⟩
    · rw [run_cons_of_inl ht] at h
      cases h
      exact ⟨[], reading, rfl, .inl ⟨he, rfl⟩, nofun⟩
    · rw [hear_eq] at ht
      cases hv : c.verdict? (c.heard ++ asciiText reading.content) with
      | some w =>
        rw [hv] at ht
        rw [run_cons_of_inl ht] at h
        cases h
        refine ⟨[], reading, rfl, .inr ⟨he, ?_⟩, nofun⟩
        rw [List.nil_append, textOf_cons, textOf_nil, List.append_nil]
        exact hv
      | none =>
        rw [hv] at ht
        rw [run_cons_of_inr ht] at h
        obtain ⟨read, last, rfl, hlast, hread⟩ := ih h
        refine ⟨reading :: read, last, rfl, ?_, fun _ => ?_⟩
        · refine hlast.imp id fun hl => ⟨hl.1, ?_⟩
          rw [List.cons_append, textOf_cons, ← List.append_assoc]
          exact hl.2
        · rw [textOf_cons, ← List.append_assoc]
          cases read with
          | nil =>
            rw [textOf_nil, List.append_nil]
            exact hv
          | cons => exact hread nofun

/-- A matter that is open is open with all that was heard. -/
theorem run_inr (h : c.run readings = (.inr c', rest)) :
    rest = [] ∧ c' = { c with heard := c.heard ++ textOf readings }
      ∧ (readings ≠ [] →
        c.verdict? (c.heard ++ textOf readings) = none) := by
  -- by induction on the readings, none of which settled it
  induction readings generalizing c with
  | nil =>
    cases h
    refine ⟨rfl, ?_, fun h => absurd rfl h⟩
    rw [textOf_nil, List.append_nil]
  | cons reading later ih =>
    rcases c.take_cases reading with ⟨-, ht⟩ | ⟨-, ht⟩
    · rw [run_cons_of_inl ht] at h
      cases h
    · rw [hear_eq] at ht
      cases hv : c.verdict? (c.heard ++ asciiText reading.content) with
      | some w =>
        rw [hv] at ht
        rw [run_cons_of_inl ht] at h
        cases h
      | none =>
        rw [hv] at ht
        rw [run_cons_of_inr ht] at h
        obtain ⟨hrest, hc', hlater⟩ := ih h
        rw [textOf_cons, ← List.append_assoc]
        refine ⟨hrest, hc', fun _ => ?_⟩
        cases later with
        | nil =>
          rw [textOf_nil, List.append_nil]
          exact hv
        | cons => exact hlater nofun

end Collector

-- ============================================================= outcomes

/-- What an exchange comes to, whatever the modem says besides. -/
inductive Outcome where
  | accepted
  | refused
  | overflow
  | timeout
  /-- the line failed, or was closed -/
  | broken
deriving DecidableEq, Repr

def Verdict.outcome : Verdict → Outcome
  | accepted _ => .accepted
  | refused _ => .refused
  | overflow => .overflow
  | broken => .broken

/-- Where an answer is not settled, the time runs out. -/
def Collector.outcome : Verdict ⊕ Collector → Outcome
  | .inl v => v.outcome
  | .inr _ => .timeout

/-- The outcome that an exchange returns; of the errors of a channel it
knows those below only. -/
def outcomeOf : Except ChannelError Response → Outcome
  | .ok _ => .accepted
  | .error (.errorResponse _) => .refused
  | .error .overflow => .overflow
  | .error (.timeout _) => .timeout
  | .error _ => .broken

namespace Collector

variable {c : Collector} {bytes : List UInt8} {m n k : Nat}

/-- The outcome if a piece ends behind the first `n` bytes, and none ended
before that settled the matter. -/
def outcomeAt (c : Collector) (bytes : List UInt8) (n : Nat) :
    Option Outcome :=
  (c.verdict? (asciiText (bytes.take n))).map Verdict.outcome

/-- The first end of a piece that can settle the matter. -/
structure Settles (c : Collector) (bytes : List UInt8) (n : Nat) :
    Prop where
  pos : 0 < n
  within : n ≤ bytes.length
  settled : (c.outcomeAt bytes n).isSome = true
  open_before : ∀ k, 0 < k → k < n → c.outcomeAt bytes k = none

/-- What settles the matter first does so in the same way as all that can
be read along with it. -/
def Firm (c : Collector) (bytes : List UInt8) : Prop :=
  ∀ n k, c.Settles bytes n → k < pieceSize → n + k ≤ bytes.length →
    c.outcomeAt bytes (n + k) = c.outcomeAt bytes n

/-- Once there is a verdict on the first `n` bytes, there is one on more of
them. -/
theorem outcomeAt_isSome (h : (c.outcomeAt bytes n).isSome = true)
    (hn : n ≤ m) : (c.outcomeAt bytes m).isSome = true := by
  unfold outcomeAt at h ⊢
  rw [Option.isSome_map] at h ⊢
  obtain ⟨more, hm⟩ := List.take_prefix_take_left (l := bytes) hn
  rw [← hm, asciiText_append]
  exact c.verdict?_append h _

/-- If the matter can be settled, some end of a piece is the first that
does. -/
theorem exists_settles (h : (c.outcomeAt bytes n).isSome = true)
    (hpos : 0 < n) (hn : n ≤ bytes.length) :
    ∃ m, m ≤ n ∧ c.Settles bytes m := by
  classical
  have he : ∃ m, 0 < m ∧ (c.outcomeAt bytes m).isSome = true :=
    ⟨n, hpos, h⟩
  obtain ⟨hm, hs⟩ := Nat.find_spec he
  have hle : Nat.find he ≤ n := Nat.find_min' he ⟨hpos, h⟩
  refine ⟨Nat.find he, hle, hm, hle.trans hn, hs, fun k hk hlt => ?_⟩
  have hnot := Nat.find_min he hlt
  exact Option.not_isSome_iff_eq_none.1 fun hsome => hnot ⟨hk, hsome⟩

-- ================================================================= cuts

/-- The bytes cut into what some reads bring. -/
structure Cut (bytes : List UInt8) (pieces : List (List UInt8)) :
    Prop where
  whole : pieces.flatten = bytes
  sizes : ∀ piece ∈ pieces, piece ≠ [] ∧ piece.length ≤ pieceSize

/-- What the collector makes of the pieces. -/
def outcomeIn (c : Collector) (pieces : List (List UInt8)) : Outcome :=
  outcome (c.run (pieces.map .bytes)).1

variable {pieces : List (List UInt8)}

/-- However the bytes are cut: the outcome is the one at the end of some
piece before which the matter was open, or the matter is open at the
end. -/
theorem Cut.outcomeIn_cases (h : Cut bytes pieces) (hc : c.heard = []) :
    (∃ m n, m < n ∧ n ≤ m + pieceSize ∧ n ≤ bytes.length
        ∧ c.outcomeAt bytes n = some (c.outcomeIn pieces)
        ∧ (0 < m → c.outcomeAt bytes m = none))
      ∨ c.outcomeIn pieces = .timeout
        ∧ (bytes ≠ [] → c.outcomeAt bytes bytes.length = none) := by
  obtain ⟨rfl, hsizes⟩ := h
  unfold outcomeIn outcomeAt
  cases hr : c.run (pieces.map .bytes) with
  | mk r rest =>
    cases r with
    -- all pieces were read, and the last left it open
    | inr c' =>
      right
      obtain ⟨-, -, hopen⟩ := run_inr hr
      rw [hc, List.nil_append, textOf_bytes] at hopen
      refine ⟨rfl, fun hne => ?_⟩
      have hp : pieces.map Reading.bytes ≠ [] := by
        intro he
        rw [List.map_eq_nil_iff.1 he] at hne
        exact hne rfl
      rw [List.take_length, hopen hp]
      rfl
    -- the piece that settled it begins where the bytes still left it open
    | inl v =>
      left
      obtain ⟨read, last, hsplit, hlast, hread⟩ := run_inl hr
      obtain ⟨before, later, rfl, rfl, hlater⟩ :=
        List.map_eq_append_iff.1 hsplit
      obtain ⟨piece, after, rfl, rfl, -⟩ := List.map_eq_cons_iff.1 hlater
      obtain ⟨hne, hsize⟩ := hsizes piece (by simp)
      have hv := hlast.resolve_left fun h => hne h.1
      have htext : textOf (before.map .bytes ++ [.bytes piece])
          = asciiText (before.flatten ++ piece) := by
        rw [textOf_append, textOf_bytes, textOf_cons, textOf_nil,
          List.append_nil, asciiText_append]
        rfl
      rw [hc, List.nil_append, htext] at hv
      rw [hc, List.nil_append, textOf_bytes] at hread
      have hbytes : (before ++ piece :: after).flatten
          = before.flatten ++ piece ++ after.flatten := by simp
      have hpos : 0 < piece.length := List.length_pos_iff.2 hne
      rw [hbytes]
      refine ⟨before.flatten.length, (before.flatten ++ piece).length,
        ?_, ?_, ?_, ?_, fun hm => ?_⟩
      · rw [List.length_append]
        omega
      · rw [List.length_append]
        omega
      · simp only [List.length_append]
        omega
      · rw [List.take_left, hv.2]
        rfl
      · have hb : before.map Reading.bytes ≠ [] := by
          intro he
          rw [List.map_eq_nil_iff.1 he] at hm
          exact Nat.lt_irrefl 0 hm
        rw [List.append_assoc, List.take_left, hread hb]
        rfl

/-- What settles the matter first decides, but for the rest of its
piece. -/
theorem Cut.outcomeIn_of_settles (h : Cut bytes pieces)
    (hc : c.heard = []) (hn : c.Settles bytes n) :
    ∃ k, k < pieceSize ∧ n + k ≤ bytes.length
      ∧ c.outcomeAt bytes (n + k) = some (c.outcomeIn pieces) := by
  rcases h.outcomeIn_cases hc with ⟨m, q, hlt, hsize, hq, hs, hopen⟩
    | ⟨-, hopen⟩
  · have hnq : n ≤ q := by
      by_contra hlt'
      rw [hn.open_before q (by omega) (by omega)] at hs
      cases hs
    have hmn : m < n := by
      by_contra hle
      have hm := outcomeAt_isSome hn.settled (by omega : n ≤ m)
      rw [hopen (by have := hn.pos; omega)] at hm
      cases hm
    obtain ⟨k, rfl⟩ := Nat.exists_eq_add_of_le hnq
    exact ⟨k, by omega, hq, hs⟩
  · have hne : bytes ≠ [] := by
      rintro rfl
      exact absurd (hn.pos.trans_le hn.within) (Nat.lt_irrefl 0)
    have hs := outcomeAt_isSome hn.settled hn.within
    rw [hopen hne] at hs
    cases hs

/-- Where nothing settles the matter, the time runs out. -/
theorem Cut.outcomeIn_of_open (h : Cut bytes pieces) (hc : c.heard = [])
    (hn : ∀ n, ¬c.Settles bytes n) : c.outcomeIn pieces = .timeout := by
  rcases h.outcomeIn_cases hc with ⟨m, q, hlt, -, hq, hs, -⟩ | ⟨ht, -⟩
  · have hsome : (c.outcomeAt bytes q).isSome = true := by
      rw [hs]
      rfl
    obtain ⟨n, -, h⟩ := exists_settles hsome (by omega) hq
    exact absurd h (hn n)
  · exact ht

-- ---------------------------------------------------- a cut of one's choice

/-- The bytes one by one, but for one piece from `m` to `n`. -/
def cutAt (bytes : List UInt8) (m n : Nat) : List (List UInt8) :=
  (bytes.take m).map ([·]) ++ (bytes.take n).drop m
    :: (bytes.drop n).map ([·])

/-- Bytes one at a time are the bytes. -/
theorem flatten_singles (bytes : List UInt8) :
    (bytes.map ([·])).flatten = bytes := by
  induction bytes with
  | nil => rfl
  | cons b rest ih => simpa using ih

/-- To cut at two places no farther apart than a piece is long is a
`Cut`. -/
theorem cut_cutAt (hmn : m < n) (hn : n ≤ bytes.length)
    (hsize : n ≤ m + pieceSize) : Cut bytes (cutAt bytes m n) := by
  have hlength : ((bytes.take n).drop m).length = n - m := by
    rw [List.length_drop, List.length_take, Nat.min_eq_left hn]
  refine ⟨?_, fun piece hp => ?_⟩
  · have hm : bytes.take m = (bytes.take n).take m := by
      rw [List.take_take, Nat.min_eq_left hmn.le]
    unfold cutAt
    rw [List.flatten_append, List.flatten_cons, flatten_singles,
      flatten_singles, hm, ← List.append_assoc, List.take_append_drop,
      List.take_append_drop]
  · have single {bytes : List UInt8} (h : piece ∈ bytes.map ([·])) :
        piece ≠ [] ∧ piece.length ≤ pieceSize := by
      obtain ⟨b, -, rfl⟩ := List.mem_map.1 h
      exact ⟨nofun, by simp [pieceSize]⟩
    rcases List.mem_append.1 hp with hp | hp
    · exact single hp
    · rcases List.mem_cons.1 hp with rfl | hp
      · refine ⟨fun he => ?_, by omega⟩
        rw [he] at hlength
        simp at hlength
        omega
      · exact single hp

/-- Where every `Reading` leaves the matter open, so do all of them. -/
theorem run_open {readings : List Reading}
    (h : ∀ read last, read ++ [last] <+: readings → last.content ≠ []
      ∧ c.verdict? (c.heard ++ textOf (read ++ [last])) = none) :
    c.run readings
      = (.inr { c with heard := c.heard ++ textOf readings }, []) := by
  cases hr : c.run readings with
  | mk r rest =>
    cases r with
    | inr c' =>
      obtain ⟨rfl, rfl, -⟩ := run_inr hr
      rfl
    | inl v =>
      obtain ⟨read, last, rfl, hlast, -⟩ := run_inl hr
      obtain ⟨hne, hopen⟩ := h read last ⟨rest, by simp⟩
      rcases hlast with ⟨he, -⟩ | ⟨-, hv⟩
      · exact absurd he hne
      · rw [hopen] at hv
        cases hv

/-- Readings that leave the matter open are followed by the others. -/
theorem run_append {c' : Collector} {readings : List Reading}
    (h : c.run readings = (.inr c', [])) (more : List Reading) :
    c.run (readings ++ more) = c'.run more := by
  induction readings generalizing c with
  | nil =>
    cases h
    rfl
  | cons reading later ih =>
    cases ht : c.take reading with
    | inl v =>
      rw [run_cons_of_inl ht] at h
      cases h
    | inr c₁ =>
      rw [run_cons_of_inr ht] at h
      rw [List.cons_append, run_cons_of_inr ht]
      exact ih h

/-- Bytes that are read one by one leave the matter open, if it is open
behind each of them. -/
theorem run_singles (hc : c.heard = [])
    (hopen : ∀ k, 0 < k → k ≤ bytes.length →
      c.outcomeAt bytes k = none) :
    c.run ((bytes.map ([·])).map .bytes)
      = (.inr { c with heard := asciiText bytes }, []) := by
  have htext : textOf ((bytes.map ([·])).map .bytes) = asciiText bytes := by
    rw [textOf_bytes, flatten_singles]
  rw [run_open, hc, List.nil_append, htext]
  intro read last hp
  have hmem : last ∈ (bytes.map ([·])).map Reading.bytes :=
    hp.subset (by simp)
  have hk := hp.length_le
  rw [List.prefix_iff_eq_take.1 hp, hc, List.nil_append]
  rw [List.length_append, List.length_singleton] at hk ⊢
  rw [List.length_map, List.length_map] at hk
  constructor
  · obtain ⟨piece, hpiece, rfl⟩ := List.mem_map.1 hmem
    obtain ⟨b, -, rfl⟩ := List.mem_map.1 hpiece
    exact nofun
  · rw [← List.map_take, ← List.map_take, textOf_bytes, flatten_singles]
    exact Option.map_eq_none_iff.1
      (hopen (read.length + 1) (by omega) hk)

/-- With the matter open up to a piece, that piece decides it. -/
theorem outcomeIn_cutAt (hc : c.heard = []) (hmn : m < n)
    (hn : n ≤ bytes.length) {o : Outcome}
    (ho : c.outcomeAt bytes n = some o)
    (hopen : ∀ k, 0 < k → k ≤ m → c.outcomeAt bytes k = none) :
    c.outcomeIn (cutAt bytes m n) = o := by
  -- byte by byte nothing is settled up to the last piece
  have hfirst : c.run (((bytes.take m).map ([·])).map .bytes)
      = (.inr { c with heard := asciiText (bytes.take m) }, []) := by
    refine run_singles hc fun k hk hkm => ?_
    rw [List.length_take] at hkm
    have hle : k ≤ m := by omega
    unfold outcomeAt
    rw [List.take_take, Nat.min_eq_left hle]
    exact hopen k hk hle
  have hne : (bytes.take n).drop m ≠ [] := by
    rw [Ne, List.drop_eq_nil_iff, List.length_take]
    omega
  have htext : asciiText (bytes.take m)
      ++ asciiText ((bytes.take n).drop m) = asciiText (bytes.take n) := by
    rw [← asciiText_append, ← Nat.min_eq_left hmn.le, ← List.take_take,
      Nat.min_eq_left hmn.le, List.take_append_drop]
  obtain ⟨v, hv, rfl⟩ := Option.map_eq_some_iff.1 ho
  have ht := ((take_cases { c with heard := asciiText (bytes.take m) }
    (.bytes ((bytes.take n).drop m))).resolve_left fun h => hne h.1).2
  rw [hear_eq] at ht
  dsimp only [Reading.content] at ht
  have hv' : { c with heard := asciiText (bytes.take m) }.verdict?
      (asciiText (bytes.take n)) = some v := hv
  rw [htext, hv'] at ht
  unfold outcomeIn cutAt
  rw [List.map_append, run_append hfirst, List.map_cons,
    run_cons_of_inl ht]
  rfl

/-- It does not matter how the bytes are cut, exactly if what settles the
matter first is `Firm`. -/
theorem outcomeIn_eq_iff (hc : c.heard = []) :
    (∀ pieces pieces', Cut bytes pieces → Cut bytes pieces' →
      c.outcomeIn pieces = c.outcomeIn pieces') ↔ c.Firm bytes := by
  constructor
  · intro h n k hn hk hle
    have hpos := hn.pos
    obtain ⟨o, ho⟩ := Option.isSome_iff_exists.1 hn.settled
    obtain ⟨o', ho'⟩ := Option.isSome_iff_exists.1
      (outcomeAt_isSome hn.settled (Nat.le_add_right n k))
    have hopen : ∀ q, 0 < q → q ≤ n - 1 → c.outcomeAt bytes q = none :=
      fun q hq hqn => hn.open_before q hq (by omega)
    have hone := outcomeIn_cutAt hc (m := n - 1) (by omega) hn.within ho
      hopen
    have hmany := outcomeIn_cutAt hc (m := n - 1) (by omega) hle ho' hopen
    have heq := h _ _
      (cut_cutAt (m := n - 1) (by omega) hn.within (by omega))
      (cut_cutAt (m := n - 1) (n := n + k) (by omega) hle (by omega))
    rw [hone, hmany] at heq
    rw [ho, ho', heq]
  · intro h pieces pieces' hp hp'
    by_cases hs : ∃ n, c.Settles bytes n
    · obtain ⟨n, hn⟩ := hs
      obtain ⟨k, hk, hle, ho⟩ := hp.outcomeIn_of_settles hc hn
      obtain ⟨k', hk', hle', ho'⟩ := hp'.outcomeIn_of_settles hc hn
      rw [h n k hn hk hle] at ho
      rw [h n k' hn hk' hle'] at ho'
      exact Option.some.inj (ho.symm.trans ho')
    · have hs := not_exists.1 hs
      rw [hp.outcomeIn_of_open hc hs, hp'.outcomeIn_of_open hc hs]

/-- An answer that can be kept whole, and in which one kind of token stands
at most, is `Firm`. -/
theorem firm_of_plain
    (hlength : (asciiText bytes).length ≤ responseCapacity)
    (htoken : Text.contains c.success (asciiText bytes) = false
      ∨ c.isRefused (asciiText bytes) = false) :
    c.Firm bytes := by
  -- whatever piece settles it, it is accepted exactly if the whole answer
  -- holds the token
  have settled (n : Nat) (h : (c.outcomeAt bytes n).isSome = true) :
      c.outcomeAt bytes n
        = some (if Text.contains c.success (asciiText bytes) = true
            then .accepted else .refused) := by
    have hsplit : asciiText bytes
        = asciiText (bytes.take n) ++ asciiText (bytes.drop n) := by
      rw [← asciiText_append, List.take_append_drop]
    have hn : ¬responseCapacity < (asciiText (bytes.take n)).length := by
      rw [hsplit, List.length_append] at hlength
      omega
    unfold outcomeAt verdict? at h ⊢
    rw [if_neg hn] at h ⊢
    by_cases hs : Text.contains c.success (asciiText (bytes.take n)) = true
    · have hall : Text.contains c.success (asciiText bytes) = true := by
        rw [hsplit]
        exact Text.contains_append _ hs
      rw [if_pos hs, if_pos hall]
      rfl
    · rw [if_neg hs] at h ⊢
      by_cases hr : c.isRefused (asciiText (bytes.take n)) = true
      · have hall : c.isRefused (asciiText bytes) = true := by
          rw [hsplit]
          exact isRefused_append hr _
        have hnot : Text.contains c.success (asciiText bytes) = false := by
          rw [hall] at htoken
          exact htoken.resolve_right nofun
        rw [if_pos hr, if_neg (by rw [hnot]; exact nofun)]
        rfl
      · rw [if_neg hr] at h
        cases h
  intro n k hn _ _
  rw [settled n hn.settled, settled (n + k)
    (outcomeAt_isSome hn.settled (Nat.le_add_right n k))]

end Collector

-- ============================================================ exchanges

/-- A line that takes whatever is written, and on which all that there is
to read can be read at once. -/
def queued : (c : SerialCall) → List Reading → c.Answer × List Reading
  | .write _, readings => (true, readings)
  | .flush, readings => (true, readings)
  | .listen collector _, readings =>
    match collector.run readings with
    | (.inl v, rest) => (some v, rest)
    | (.inr _, rest) => (none, rest)
  | .pause _, readings => ((), readings)
  | .log _, readings => ((), readings)

namespace Channel

variable {mode : Mode} {readings : List Reading}

/-- A call takes what is queued, as `queued` answers it. -/
theorem settle_ask (call : SerialCall) :
    settle queued (ask call) (mode, readings)
      = ((queued call readings).1, mode, (queued call readings).2) :=
  rfl

/-- Writing reads nothing, so what is `queued` stays. -/
theorem settle_writeAll (pieces : List (List UInt8)) :
    settle queued (writeAll pieces) (mode, readings)
      = (true, mode, readings) := by
  induction pieces with
  | nil => rfl
  | cons piece rest ih =>
    unfold writeAll
    rw [Proc.settle_bind_of (settle_ask _)]
    exact ih

/-- Sending a command reads nothing either. -/
theorem settle_transmit (command : String) :
    settle queued (transmit command) (mode, readings)
      = (true, mode, readings) := by
  have hrest : settle queued (do
      if ← writeAll (pieces command) then ask .flush else pure false)
      (mode, readings) = (true, mode, readings) := by
    rw [Proc.settle_bind_of (settle_writeAll _)]
    rfl
  unfold transmit
  by_cases hc : command = escapeSequence
  · rw [if_pos hc, Proc.settle_bind_of (settle_ask _)]
    exact hrest
  · rw [if_neg hc]
    exact hrest

/-- What an exchange comes to where these readings lie on the line. -/
def outcomeOn (command success failure : String) (timeout : Nat)
    (mode : Mode) (readings : List Reading) : Outcome :=
  outcomeOf
    (settle queued (exchange command success failure timeout)
      (mode, readings)).1

/-- What an exchange returns, from how collecting its answer ended. -/
def returned (timeout : Nat) :
    Verdict ⊕ Collector → Except ChannelError Response
  | .inl (.accepted response) => .ok response
  | .inl (.refused response) => .error (.errorResponse response)
  | .inl .overflow => .error .overflow
  | .inl .broken => .error .io
  | .inr _ => .error (.timeout timeout)

/-- The `exchange` returns what the collector makes of the readings, and
leaves those that the collector leaves. -/
theorem settle_exchange (command success failure : String)
    (timeout : Nat) (mode : Mode) (readings : List Reading) :
    let ended := settle queued (exchange command success failure timeout)
      (mode, readings)
    let collected :=
      (⟨success.toList, failure.toList, []⟩ : Collector).run readings
    ended.1 = returned timeout collected.1 ∧ ended.2.2 = collected.2 := by
  dsimp only
  unfold exchange log
  rw [Proc.settle_bind_of (settle_ask _),
    Proc.settle_bind_of (settle_transmit command), if_pos rfl,
    Proc.settle_bind_of (settle_ask _)]
  dsimp only [queued]
  cases hrun : (⟨success.toList, failure.toList, []⟩ : Collector).run
      readings with
  | mk r rest =>
    rcases r with (response | response | _ | _) | c'
    · dsimp only
      rw [Proc.settle_bind_of (settle_ask _)]
      by_cases hc : command = escapeSequence
      · rw [if_pos hc]
        exact ⟨rfl, rfl⟩
      · rw [if_neg hc]
        exact ⟨rfl, rfl⟩
    · exact ⟨rfl, rfl⟩
    · exact ⟨rfl, rfl⟩
    · exact ⟨rfl, rfl⟩
    · obtain ⟨rfl, -⟩ := Collector.run_inr hrun
      exact ⟨rfl, rfl⟩

/-- So its outcome is the `Collector`'s. -/
theorem outcomeOn_eq (command success failure : String) (timeout : Nat)
    (mode : Mode) (readings : List Reading) :
    outcomeOn command success failure timeout mode readings
      = Collector.outcome
        ((⟨success.toList, failure.toList, []⟩ : Collector).run
          readings).1 := by
  unfold outcomeOn
  rw [(settle_exchange command success failure timeout mode readings).1]
  cases (⟨success.toList, failure.toList, []⟩ : Collector).run readings with
  | mk r rest => rcases r with (_ | _ | _ | _) | _ <;> rfl

/-- How an answer is cut does not matter if it can be kept whole and one
kind of token stands in it at most. -/
theorem outcomeOn_plain {success failure : String} {bytes : List UInt8}
    {pieces pieces' : List (List UInt8)}
    (hlength : (asciiText bytes).length ≤ responseCapacity)
    (htoken : Text.contains success.toList (asciiText bytes) = false
      ∨ (⟨success.toList, failure.toList, []⟩ : Collector).isRefused
        (asciiText bytes) = false)
    (hp : Collector.Cut bytes pieces) (hp' : Collector.Cut bytes pieces')
    (command : String) (timeout : Nat) :
    outcomeOn command success failure timeout mode (pieces.map .bytes)
      = outcomeOn command success failure timeout mode
        (pieces'.map .bytes) := by
  rw [outcomeOn_eq, outcomeOn_eq]
  exact (Collector.outcomeIn_eq_iff rfl).2
    (Collector.firm_of_plain hlength htoken) _ _ hp hp'

/-- How the bytes of an answer are cut does not matter, exactly if what
settles it first is `Firm`. -/
theorem exchange_outcome_iff (command success failure : String)
    (timeout : Nat) (mode : Mode) (bytes : List UInt8) :
    (∀ pieces pieces', Collector.Cut bytes pieces →
      Collector.Cut bytes pieces' →
        outcomeOn command success failure timeout mode
            (pieces.map .bytes)
          = outcomeOn command success failure timeout mode
            (pieces'.map .bytes))
      ↔ (⟨success.toList, failure.toList, []⟩ : Collector).Firm bytes := by
  rw [← Collector.outcomeIn_eq_iff rfl]
  simp only [outcomeOn_eq]
  rfl

/-- Signs, an OK before there are too many of them, and more signs. -/
def longAnswer : List UInt8 :=
  List.replicate 244 46 ++ [79, 75] ++ List.replicate 14 46

/-- Read in pieces of 64 bytes, the `longAnswer` is one of success; read in
pieces of 52, it is too long, although the OK was not. -/
theorem exchange_outcome_cut :
    Collector.Cut longAnswer (longAnswer.toChunks 64)
      ∧ Collector.Cut longAnswer (longAnswer.toChunks 52)
      ∧ outcomeOn "AT" "OK" "ERROR" 500 .command
          ((longAnswer.toChunks 64).map .bytes) = .accepted
      ∧ outcomeOn "AT" "OK" "ERROR" 500 .command
          ((longAnswer.toChunks 52).map .bytes) = .overflow := by
  refine ⟨⟨by decide +kernel, by decide +kernel⟩,
    ⟨by decide +kernel, by decide +kernel⟩, ?_, ?_⟩
  · rw [outcomeOn_eq]
    decide +kernel
  · rw [outcomeOn_eq]
    decide +kernel

end Channel

end Uplink.Modem
