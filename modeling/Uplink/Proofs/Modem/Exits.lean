/-
The five ends of an exchange, and what each leaves on the line.

What is heard of the first `k` readings is `heardIn readings k`: their
ASCII bytes, in the order in which they came and with nothing in between.
The collector looks at the whole of it after every reading. So it comes to
a verdict at the first `k` that allows one (`Collector.run_settled_iff`),
and to none only if there is no such `k` (`Collector.run_unsettled_iff`).
Before the first reading nothing is looked for, not even an empty
token.
-/
import Mathlib.Data.Nat.Order.Lemmas
import Uplink.Proofs.Modem.Collecting

namespace Uplink.Modem

open Proc (settle)

-- ================================================================ texts

/-- What is heard of the first `k` readings. -/
def heardIn (readings : List Reading) (k : Nat) : List Char :=
  textOf (readings.take k)

/-- The first `k` readings are there, and each brings bytes. -/
structure Data (readings : List Reading) (k : Nat) : Prop where
  within : k ≤ readings.length
  bytes : ∀ reading ∈ readings.take k, reading.content ≠ []

/-- A token of failure stands in the text. An empty one does not count. -/
def Fails (failure : String) (text : List Char) : Prop :=
  failure.toList ≠ [] ∧ failure.toList <:+: text
    ∨ genericFailure <:+: text

/-- Behind none of the readings before the `k`th a token stood in what was
heard. -/
def Undecided (success failure : String) (readings : List Reading)
    (k : Nat) : Prop :=
  ∀ j, 0 < j → j < k → ¬success.toList <:+: heardIn readings j
    ∧ ¬Fails failure (heardIn readings j)

section Texts

variable {readings rest : List Reading} {last : Reading} {j k : Nat}

/-- What is heard in fewer readings is a prefix of what is heard in
more. -/
theorem prefix_heardIn (h : j ≤ k) :
    heardIn readings j <+: heardIn readings k := by
  obtain ⟨more, hmore⟩ := List.take_prefix_take_left (l := readings) h
  unfold heardIn
  rw [← hmore, textOf_append]
  exact List.prefix_append ..

/-- So it is no longer. -/
theorem length_heardIn (h : j ≤ k) {n : Nat}
    (hk : (heardIn readings k).length ≤ n) :
    (heardIn readings j).length ≤ n :=
  (prefix_heardIn h).length_le.trans hk

/-- The next reading is heard behind the others. -/
theorem heardIn_succ (h : readings.drop k = last :: rest) :
    heardIn readings (k + 1)
      = heardIn readings k ++ asciiText last.content := by
  unfold heardIn
  rw [List.take_add, h, textOf_append]
  show _ ++ textOf [last] = _
  rw [textOf_cons, textOf_nil, List.append_nil]

theorem data_zero : Data readings 0 :=
  ⟨Nat.zero_le _, nofun⟩

/-- Where the first readings all brought bytes, fewer of them did too. -/
theorem Data.mono (h : Data readings k) (hjk : j ≤ k) :
    Data readings j :=
  ⟨hjk.trans h.within, fun reading hreading =>
    h.bytes reading ((List.take_subset_take_left _ hjk) hreading)⟩

/-- One reading more brings data if it is not empty. -/
theorem data_succ_iff (h : readings.drop k = last :: rest) :
    Data readings (k + 1) ↔ Data readings k ∧ last.content ≠ [] := by
  have hlength := congrArg List.length h
  rw [List.length_drop, List.length_cons] at hlength
  have htake : readings.take (k + 1) = readings.take k ++ [last] := by
    rw [List.take_add, h]
    rfl
  constructor
  · intro hd
    refine ⟨hd.mono k.le_succ, hd.bytes last ?_⟩
    rw [htake]
    exact List.mem_append_right _ (List.mem_singleton_self last)
  · rintro ⟨hd, hne⟩
    refine ⟨by omega, fun reading hreading => ?_⟩
    rw [htake] at hreading
    rcases List.mem_append.1 hreading with hmem | hmem
    · exact hd.bytes reading hmem
    · obtain rfl := List.mem_singleton.1 hmem
      exact hne

end Texts

-- ============================================================= verdicts

namespace Collector

variable {c c' : Collector} {readings rest : List Reading}
variable {text : List Char} {response : Response} {v : Verdict} {k : Nat}

/-- What has to hold of a text for a verdict on it. -/
def Warrants (c : Collector) (text : List Char) : Verdict → Prop
  | .accepted response => response.toList = text
    ∧ text.length ≤ responseCapacity
    ∧ Text.contains c.success text = true
  | .refused response => response.toList = text
    ∧ text.length ≤ responseCapacity
    ∧ Text.contains c.success text = false ∧ c.isRefused text = true
  | .overflow => responseCapacity < text.length
  | .broken => False

/-- The collector gives exactly the verdict that the text `Warrants`. -/
theorem verdict?_eq_some_iff :
    c.verdict? text = some v ↔ c.Warrants text v := by
  have same (response : Response) :
      String.ofList text = response ↔ response.toList = text :=
    ⟨fun h => by rw [← h, String.toList_ofList],
      fun h => by rw [← h, String.ofList_toList]⟩
  unfold verdict?
  by_cases hlong : responseCapacity < text.length
  · rw [if_pos hlong]
    cases v <;> simp [Warrants, hlong]
  · have hshort := Nat.not_lt.1 hlong
    rw [if_neg hlong]
    by_cases hsuccess : Text.contains c.success text = true
    · rw [if_pos hsuccess]
      cases v <;> simp [Warrants, hshort, hsuccess, same]
    · rw [if_neg hsuccess]
      by_cases hrefused : c.isRefused text = true
      · rw [if_pos hrefused]
        cases v <;> simp [Warrants, hshort, hsuccess, hrefused, same]
      · rw [if_neg hrefused]
        cases v <;> simp [Warrants, hshort, hsuccess, hrefused]

/-- It gives none where the text fits and holds neither token. -/
theorem verdict?_eq_none_iff :
    c.verdict? text = none ↔ text.length ≤ responseCapacity
      ∧ Text.contains c.success text = false
      ∧ c.isRefused text = false := by
  unfold verdict?
  by_cases hlong : responseCapacity < text.length
  · rw [if_pos hlong]
    simp [hlong]
  · rw [if_neg hlong]
    cases Text.contains c.success text <;> cases c.isRefused text <;>
      simp [Nat.not_lt.1 hlong]

-- ================================================================= runs

/-- Behind each of the first `k` readings the matter is open. -/
structure Waits (c : Collector) (readings : List Reading) (k : Nat) :
    Prop where
  data : Data readings k
  unsettled : ∀ j, 0 < j → j ≤ k →
    c.verdict? (c.heard ++ heardIn readings j) = none

theorem waits_zero : c.Waits readings 0 :=
  ⟨data_zero, fun _ hpos hle => absurd hpos (by omega)⟩

/-- A matter that is open goes on with the readings that are left. -/
theorem Waits.run_eq (h : c.Waits readings k) :
    c.run readings
      = ({ c with heard := c.heard ++ heardIn readings k } : Collector).run
        (readings.drop k) := by
  have hopen : c.run (readings.take k)
      = (.inr { c with heard := c.heard ++ heardIn readings k }, []) := by
    refine run_open fun read last hp => ?_
    have hlength := hp.length_le
    rw [List.length_append, List.length_singleton,
      List.length_take_of_le h.data.within] at hlength
    refine ⟨h.data.bytes last (hp.subset (by simp)), ?_⟩
    rw [List.prefix_iff_eq_take.1 hp, List.take_take,
      List.length_append, List.length_singleton, Nat.min_eq_left hlength]
    exact h.unsettled _ (Nat.succ_pos _) hlength
  have happend := run_append hopen (readings.drop k)
  rw [List.take_append_drop] at happend
  exact happend

/-- The matter is open up to the end, or up to a `Reading` that ends the
line or settles it. -/
theorem exists_waits (c : Collector) (readings : List Reading) :
    c.Waits readings readings.length
      ∨ ∃ k last rest, c.Waits readings k ∧ readings.drop k = last :: rest
        ∧ (last.content = [] ∨ last.content ≠ [] ∧
          ∃ v, c.verdict? (c.heard ++ heardIn readings (k + 1)) = some v)
      := by
  by_cases hall : c.Waits readings readings.length
  · exact .inl hall
  right
  obtain ⟨k, hwaits, hnext⟩ :=
    Nat.exists_not_and_succ_of_not_zero_of_exists
      (p := fun k => ¬c.Waits readings k) (not_not.2 waits_zero) ⟨_, hall⟩
  have hwaits := not_not.1 hwaits
  have hlt : k < readings.length := by
    refine lt_of_le_of_ne hwaits.data.within ?_
    rintro rfl
    exact hall hwaits
  refine ⟨k, readings[k], _, hwaits, List.drop_eq_getElem_cons hlt, ?_⟩
  rcases eq_or_ne readings[k].content [] with hnone | hbytes
  · exact .inl hnone
  refine .inr ⟨hbytes, Option.ne_none_iff_exists'.1 fun hv => hnext ?_⟩
  refine ⟨(data_succ_iff (List.drop_eq_getElem_cons hlt)).2
    ⟨hwaits.data, hbytes⟩, fun j hpos hj => ?_⟩
  rcases Nat.le_succ_iff.1 hj with hj | rfl
  · exact hwaits.unsettled j hpos hj
  · exact hv

/-- An empty reading after an open text breaks the line off, and the
readings after it stay. -/
theorem Waits.run_eq_broken {last : Reading} (h : c.Waits readings k)
    (hdrop : readings.drop k = last :: rest) (hlast : last.content = []) :
    c.run readings = (.inl .broken, rest) := by
  rw [h.run_eq, hdrop]
  exact run_cons_of_inl ((take_cases _ last).resolve_right
    fun hne => hne.1 hlast).2

/-- A `Reading` that brings a verdict about ends the run with it. -/
theorem Waits.run_eq_settled {last : Reading} (h : c.Waits readings k)
    (hdrop : readings.drop k = last :: rest) (hlast : last.content ≠ [])
    (hv : c.verdict? (c.heard ++ heardIn readings (k + 1)) = some v) :
    c.run readings = (.inl v, rest) := by
  rw [heardIn_succ hdrop, ← List.append_assoc] at hv
  rw [h.run_eq, hdrop]
  refine run_cons_of_inl ?_
  rw [((take_cases _ last).resolve_left fun he => hlast he.1).2, hear_eq]
  have hv' : ({ c with heard := c.heard ++ heardIn readings k } :
      Collector).verdict? (c.heard ++ heardIn readings k
        ++ asciiText last.content) = some v := hv
  rw [hv']

/-- A run through readings none of which settles the matter has heard all
of them. -/
theorem Waits.run_eq_open (h : c.Waits readings readings.length) :
    c.run readings
      = (.inr { c with heard := c.heard ++ textOf readings }, []) := by
  rw [h.run_eq, List.drop_length, heardIn, List.take_length]
  rfl

/-- How a run ends, from what it is a run of. -/
inductive Ends (c : Collector) (readings : List Reading) :
    (Verdict ⊕ Collector) → List Reading → Prop
  | broken {k : Nat} {last : Reading} {rest : List Reading} :
      c.Waits readings k → readings.drop k = last :: rest →
      last.content = [] → Ends c readings (.inl .broken) rest
  | settled {k : Nat} {last : Reading} {rest : List Reading}
      {v : Verdict} :
      c.Waits readings k → readings.drop k = last :: rest →
      last.content ≠ [] →
      c.verdict? (c.heard ++ heardIn readings (k + 1)) = some v →
      Ends c readings (.inl v) rest
  | unsettled :
      c.Waits readings readings.length →
      Ends c readings (.inr { c with heard := c.heard ++ textOf readings })
        []

/-- A run ends as `Ends` describes. -/
theorem Ends.run_eq {r : Verdict ⊕ Collector}
    (h : c.Ends readings r rest) : c.run readings = (r, rest) := by
  cases h with
  | broken hwaits hdrop hlast => exact hwaits.run_eq_broken hdrop hlast
  | settled hwaits hdrop hlast hv =>
    exact hwaits.run_eq_settled hdrop hlast hv
  | unsettled hwaits => exact hwaits.run_eq_open

/-- That is the only way in which it ends, so `Ends` and `run` say the
same. -/
theorem run_eq_iff {r : Verdict ⊕ Collector} :
    c.run readings = (r, rest) ↔ c.Ends readings r rest := by
  refine ⟨fun h => ?_, Ends.run_eq⟩
  rcases c.exists_waits readings with hwaits
    | ⟨k, last, rest', hwaits, hdrop, hlast | ⟨hlast, v, hv⟩⟩
  · have hends := Ends.unsettled hwaits
    cases h.symm.trans hends.run_eq
    exact hends
  · have hends := Ends.broken hwaits hdrop hlast
    cases h.symm.trans hends.run_eq
    exact hends
  · have hends := Ends.settled hwaits hdrop hlast hv
    cases h.symm.trans hends.run_eq
    exact hends

-- =============================================================== tokens

/-- A collector that has not heard anything. -/
def awaiting (success failure : String) : Collector :=
  ⟨success.toList, failure.toList, []⟩

variable {success failure : String}

/-- A collector that has heard nothing refuses exactly the texts that
`Fails` describes. -/
theorem isRefused_awaiting :
    (awaiting success failure).isRefused text = true
      ↔ Fails failure text := by
  unfold isRefused Fails
  rw [Bool.or_eq_true, Bool.and_eq_true, Text.contains_iff,
    Text.contains_iff, Bool.not_eq_true', List.isEmpty_eq_false_iff]
  rfl

/-- It waits through readings that all bring data, leave the matter
`Undecided`, and fit. -/
theorem waits_awaiting_iff :
    (awaiting success failure).Waits readings k
      ↔ Data readings k ∧ Undecided success failure readings (k + 1)
        ∧ (heardIn readings k).length ≤ responseCapacity := by
  have unsettled (j : Nat) :
      (awaiting success failure).verdict? ([] ++ heardIn readings j) = none
        ↔ (heardIn readings j).length ≤ responseCapacity
          ∧ ¬success.toList <:+: heardIn readings j
          ∧ ¬Fails failure (heardIn readings j) := by
    rw [List.nil_append, verdict?_eq_none_iff, ← isRefused_awaiting,
      ← Text.contains_iff, Bool.not_eq_true, Bool.not_eq_true]
    rfl
  constructor
  · rintro ⟨hdata, hopen⟩
    refine ⟨hdata, fun j hpos hj => ?_, ?_⟩
    · exact ((unsettled j).1 (hopen j hpos (Nat.le_of_lt_succ hj))).2
    · rcases Nat.eq_zero_or_pos k with rfl | hpos
      · exact Nat.zero_le _
      · exact ((unsettled k).1 (hopen k hpos le_rfl)).1
  · rintro ⟨hdata, hopen, hlength⟩
    refine ⟨hdata, fun j hpos hj => (unsettled j).2 ⟨?_, ?_⟩⟩
    · exact length_heardIn hj hlength
    · exact hopen j hpos (Nat.lt_succ_of_le hj)

/-- The first reading that allows a verdict settles the matter. -/
theorem run_settled_iff (hv : v ≠ .broken) :
    (awaiting success failure).run readings = (.inl v, rest)
      ↔ ∃ k, 0 < k ∧ Data readings k
        ∧ Undecided success failure readings k
        ∧ (∀ j < k, (heardIn readings j).length ≤ responseCapacity)
        ∧ (awaiting success failure).Warrants (heardIn readings k) v
        ∧ rest = readings.drop k := by
  rw [run_eq_iff]
  constructor
  · intro h
    cases h with
    | broken => exact absurd rfl hv
    | @settled k last _ _ hwaits hdrop hlast hverdict =>
      obtain ⟨hdata, hopen, hlength⟩ := waits_awaiting_iff.1 hwaits
      refine ⟨k + 1, k.succ_pos, (data_succ_iff hdrop).2 ⟨hdata, hlast⟩,
        hopen, fun j hj => ?_, verdict?_eq_some_iff.1 hverdict, ?_⟩
      · exact length_heardIn (Nat.le_of_lt_succ hj) hlength
      · rw [← List.drop_drop, hdrop]
        rfl
  · rintro ⟨k, hpos, hdata, hopen, hlength, hwarrants, rfl⟩
    obtain ⟨k, rfl⟩ := Nat.exists_eq_add_of_le' hpos
    have hdrop :=
      List.drop_eq_getElem_cons (Nat.lt_of_succ_le hdata.within)
    obtain ⟨hdata, hlast⟩ := (data_succ_iff hdrop).1 hdata
    exact .settled
      (waits_awaiting_iff.2 ⟨hdata, hopen, hlength k k.lt_succ_self⟩)
      hdrop hlast (verdict?_eq_some_iff.2 hwarrants)

/-- An exchange is accepted by the first readings whose text holds the
success token, if none before decided it and the text fits. -/
theorem run_accepted_iff :
    (awaiting success failure).run readings
        = (.inl (.accepted response), rest)
      ↔ ∃ k, 0 < k ∧ Data readings k
        ∧ Undecided success failure readings k
        ∧ response.toList = heardIn readings k
        ∧ (heardIn readings k).length ≤ responseCapacity
        ∧ success.toList <:+: heardIn readings k
        ∧ rest = readings.drop k := by
  refine (run_settled_iff (by simp)).trans (exists_congr fun k => ⟨?_, ?_⟩)
  · rintro ⟨hpos, hdata, hopen, -, ⟨htext, hlength, hs⟩, hrest⟩
    exact ⟨hpos, hdata, hopen, htext, hlength, Text.contains_iff.1 hs,
      hrest⟩
  · rintro ⟨hpos, hdata, hopen, htext, hlength, hs, hrest⟩
    exact ⟨hpos, hdata, hopen, fun j hj => length_heardIn hj.le hlength,
      ⟨htext, hlength, Text.contains_iff.2 hs⟩, hrest⟩

/-- It is refused by the first whose text holds an error and not the
success token, under the same conditions. -/
theorem run_refused_iff :
    (awaiting success failure).run readings
        = (.inl (.refused response), rest)
      ↔ ∃ k, 0 < k ∧ Data readings k
        ∧ Undecided success failure readings k
        ∧ response.toList = heardIn readings k
        ∧ (heardIn readings k).length ≤ responseCapacity
        ∧ ¬success.toList <:+: heardIn readings k
        ∧ Fails failure (heardIn readings k)
        ∧ rest = readings.drop k := by
  refine (run_settled_iff (by simp)).trans (exists_congr fun k => ⟨?_, ?_⟩)
  · rintro ⟨hpos, hdata, hopen, -, ⟨htext, hlength, hs, hf⟩, hrest⟩
    exact ⟨hpos, hdata, hopen, htext, hlength,
      fun h => Bool.eq_false_iff.1 hs (Text.contains_iff.2 h),
      isRefused_awaiting.1 hf, hrest⟩
  · rintro ⟨hpos, hdata, hopen, htext, hlength, hs, hf, hrest⟩
    exact ⟨hpos, hdata, hopen, fun j hj => length_heardIn hj.le hlength,
      ⟨htext, hlength,
        Bool.eq_false_iff.2 fun h => hs (Text.contains_iff.1 h),
        isRefused_awaiting.2 hf⟩, hrest⟩

/-- The line gives out where the matter is open. -/
theorem run_broken_iff :
    (awaiting success failure).run readings = (.inl .broken, rest)
      ↔ ∃ k last, Data readings k
        ∧ Undecided success failure readings (k + 1)
        ∧ (heardIn readings k).length ≤ responseCapacity
        ∧ readings.drop k = last :: rest ∧ last.content = [] := by
  rw [run_eq_iff]
  constructor
  · intro h
    cases h with
    | broken hwaits hdrop hlast =>
      obtain ⟨hdata, hopen, hlength⟩ := waits_awaiting_iff.1 hwaits
      exact ⟨_, _, hdata, hopen, hlength, hdrop, hlast⟩
    | settled _ _ _ hverdict =>
      exact (verdict?_eq_some_iff.1 hverdict).elim
  · rintro ⟨k, last, hdata, hopen, hlength, hdrop, hlast⟩
    exact .broken (waits_awaiting_iff.2 ⟨hdata, hopen, hlength⟩) hdrop
      hlast

/-- The matter is open behind the last reading. -/
theorem run_unsettled_iff :
    (∃ c', (awaiting success failure).run readings = (.inr c', rest))
      ↔ Data readings readings.length
        ∧ Undecided success failure readings (readings.length + 1)
        ∧ (heardIn readings readings.length).length ≤ responseCapacity
        ∧ rest = [] := by
  simp only [run_eq_iff]
  constructor
  · rintro ⟨c', h⟩
    cases h with
    | unsettled hwaits =>
      obtain ⟨hdata, hopen, hlength⟩ := waits_awaiting_iff.1 hwaits
      exact ⟨hdata, hopen, hlength, rfl⟩
  · rintro ⟨hdata, hopen, hlength, rfl⟩
    exact ⟨_, .unsettled (waits_awaiting_iff.2 ⟨hdata, hopen, hlength⟩)⟩

end Collector

-- ============================================================ exchanges

namespace Channel

open Collector (awaiting)

/-- What an exchange returns and leaves unread, from the tokens, its
timeout and the readings. -/
structure Exits (success failure : String) (timeout : Nat)
    (readings : List Reading) (r : Except ChannelError Response)
    (rest : List Reading) : Prop where
  /-- The token of success came first, in a text that could be kept. -/
  accepted_iff : ∀ response left, r = .ok response ∧ rest = left
    ↔ ∃ k, 0 < k ∧ Data readings k
      ∧ Undecided success failure readings k
      ∧ response.toList = heardIn readings k
      ∧ (heardIn readings k).length ≤ 256
      ∧ success.toList <:+: heardIn readings k
      ∧ left = readings.drop k
  /-- A token of failure came first, without that of success. -/
  refused_iff : ∀ response left,
    r = .error (.errorResponse response) ∧ rest = left
      ↔ ∃ k, 0 < k ∧ Data readings k
        ∧ Undecided success failure readings k
        ∧ response.toList = heardIn readings k
        ∧ (heardIn readings k).length ≤ 256
        ∧ ¬success.toList <:+: heardIn readings k
        ∧ Fails failure (heardIn readings k)
        ∧ left = readings.drop k
  /-- The text outgrew what is kept before any token came. -/
  overflow_iff : ∀ left, r = .error .overflow ∧ rest = left
    ↔ ∃ k, 0 < k ∧ Data readings k
      ∧ Undecided success failure readings k
      ∧ (∀ j < k, (heardIn readings j).length ≤ 256)
      ∧ 256 < (heardIn readings k).length
      ∧ left = readings.drop k
  /-- The line was closed or failed before any of this. -/
  io_iff : ∀ left, r = .error .io ∧ rest = left
    ↔ ∃ k last, Data readings k
      ∧ Undecided success failure readings (k + 1)
      ∧ (heardIn readings k).length ≤ 256
      ∧ readings.drop k = last :: left ∧ last.content = []
  /-- There was no more to read before any of this. -/
  timeout_iff : ∀ ms left, r = .error (.timeout ms) ∧ rest = left
    ↔ Data readings readings.length
      ∧ Undecided success failure readings (readings.length + 1)
      ∧ (heardIn readings readings.length).length ≤ 256
      ∧ ms = timeout ∧ left = []
  /-- There is no other way out. -/
  complete : (∃ response, r = .ok response)
    ∨ (∃ response, r = .error (.errorResponse response))
    ∨ r = .error .overflow ∨ r = .error .io
    ∨ ∃ ms, r = .error (.timeout ms)

variable {timeout : Nat} {r : Verdict ⊕ Collector}

/-- Each `Verdict` is returned in a way of its own. -/
theorem returned_eq_iff {v : Verdict} :
    returned timeout r = returned timeout (.inl v) ↔ r = .inl v := by
  rcases r with (_ | _ | _ | _) | _ <;> cases v <;> simp [returned]

/-- A timeout is returned exactly where the matter is open at the end, and
with the time that was given. -/
theorem returned_eq_timeout_iff {ms : Nat} :
    returned timeout r = .error (.timeout ms)
      ↔ (∃ c, r = .inr c) ∧ ms = timeout := by
  rcases r with (_ | _ | _ | _) | _ <;> simp [returned, eq_comm]

/-- Whatever is on the line once the command has gone out: an `exchange`
ends in one of five ways, and each of them exactly where the readings say
so. It takes from the line what it read, and returns all of it. -/
theorem exchange_exits (command success failure : String) (timeout : Nat)
    (mode : Mode) (readings : List Reading) :
    let ended := settle queued (exchange command success failure timeout)
      (mode, readings)
    Exits success failure timeout readings ended.1 ended.2.2 := by
  obtain ⟨hreturned, hrest⟩ :=
    settle_exchange command success failure timeout mode readings
  dsimp only at hreturned hrest ⊢
  rw [hreturned, hrest]
  change Exits _ _ _ _
    (returned timeout ((awaiting success failure).run readings).1)
    ((awaiting success failure).run readings).2
  rcases hrun : (awaiting success failure).run readings with ⟨r, rest⟩
  -- the answer determines the verdict it came from
  have settled_iff (v : Verdict) (left : List Reading) :
      returned timeout r = returned timeout (.inl v) ∧ rest = left
        ↔ (awaiting success failure).run readings = (.inl v, left) := by
    rw [returned_eq_iff, hrun, Prod.mk.injEq]
  refine ⟨fun response left => ?accepted, fun response left => ?refused,
    fun left => ?overflow, fun left => ?io, fun ms left => ?timeout,
    ?complete⟩
  case accepted =>
    exact (settled_iff _ _).trans Collector.run_accepted_iff
  case refused =>
    exact (settled_iff _ _).trans Collector.run_refused_iff
  case overflow =>
    exact (settled_iff .overflow _).trans
      (Collector.run_settled_iff (by simp))
  case io =>
    exact (settled_iff .broken _).trans Collector.run_broken_iff
  case timeout =>
    rw [returned_eq_timeout_iff]
    constructor
    · rintro ⟨⟨⟨c, rfl⟩, rfl⟩, rfl⟩
      obtain ⟨hdata, hopen, hlength, rfl⟩ :=
        Collector.run_unsettled_iff.1 ⟨c, hrun⟩
      exact ⟨hdata, hopen, hlength, rfl, rfl⟩
    · rintro ⟨hdata, hopen, hlength, rfl, rfl⟩
      obtain ⟨c, hc⟩ :=
        Collector.run_unsettled_iff.2 ⟨hdata, hopen, hlength, rfl⟩
      obtain ⟨rfl, rfl⟩ := Prod.mk.inj (hrun.symm.trans hc)
      exact ⟨⟨⟨c, rfl⟩, rfl⟩, rfl⟩
  case complete =>
    rcases r with (_ | _ | _ | _) | _ <;> simp [returned]

/-- A token may be cut in two, with noise between the parts. What comes
after the reading that completes it stays on the line. -/
example :
    (settle queued (exchange "AT" "OK" "ERROR" 500)
      (.command, [.bytes [79], .bytes [200, 75, 33], .bytes [46]]))
      = (.ok "OK!", .command, [.bytes [46]]) := by
  decide +kernel

end Channel

end Uplink.Modem
