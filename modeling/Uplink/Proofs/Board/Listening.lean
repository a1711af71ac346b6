/-
What is heard of the bytes that a port was given.

A port hands out what it was given, in order (`Port.read_append`), and
whoever listens to it takes whole pieces. So of the bytes that a port was
given some are heard, and the others stay in the port
(`Listening.Heard`). As long as the answer is open nothing stays, so the
first read with which the token of success is there settles it
(`Heard.run`).
-/
import Uplink.Proofs.Modem.Collecting

namespace Uplink.Board

open Modem (Collector Reading Verdict asciiText)

-- ================================================================= ports

namespace Port

variable {p : Port}

@[simp] theorem rest_refill (content : List UInt8) :
    (refill content).rest = content :=
  rfl

/-- A port that is spent has no bytes left. -/
theorem rest_of_isSpent (h : p.isSpent = true) : p.rest = [] := by
  have hs : p.start = p.held.length := of_decide_eq_true h
  exact List.drop_eq_nil_of_le hs.ge

/-- What is left of a port is no longer than what it held. -/
theorem rest_length_le : p.rest.length ≤ p.held.length := by
  rw [rest, List.length_drop]
  exact Nat.sub_le _ _

/-- To consume bytes is to drop them from what is left. -/
theorem rest_consume (count : Nat) :
    (p.consume count).rest = p.rest.drop count := by
  unfold consume rest
  rw [List.drop_drop]
  rcases Nat.le_total (p.start + count) p.held.length with h | h
  · rw [Nat.min_eq_left h]
  · rw [Nat.min_eq_right h, List.drop_length, List.drop_eq_nil_of_le h]

/-- What is handed out is what comes first, and the others stay. -/
theorem read_append (most : Nat) :
    (p.read most).1 ++ (p.read most).2.rest = p.rest := by
  show p.rest.take most ++ (p.consume (p.rest.take most).length).rest
    = p.rest
  rw [rest_consume, List.length_take]
  rcases Nat.le_total most p.rest.length with h | h
  · rw [Nat.min_eq_left h, List.take_append_drop]
  · rw [Nat.min_eq_right h, List.drop_length, List.append_nil,
      List.take_of_length_le h]

/-- A `Port` that needed all of these reads holds all that they brought. -/
theorem rest_of_fill {reads : List (List UInt8)} {filled : Filled}
    {p' : Port} (h : p.fill (reads.map .bytes) = (filled, p', [])) :
    p'.rest = p.rest ++ reads.flatten := by
  induction reads generalizing p with
  | nil =>
    obtain rfl : p = p' := congrArg (·.2.1) h
    rw [List.flatten_nil, List.append_nil]
  | cons content later ih =>
    rw [List.map_cons, fill] at h
    split at h
    next hs =>
      rw [ih h, rest_refill, rest_of_isSpent hs, List.flatten_cons,
        List.nil_append]
    next => cases h

end Port

-- ============================================================= listening

/-- A text is accepted as it stands, and only if the token is in it. -/
theorem accepted_of_verdict? {c : Collector} {text : List Char}
    {response : Modem.Response}
    (h : c.verdict? text = some (.accepted response)) :
    response.toList = text ∧ Text.contains c.success text = true := by
  unfold Collector.verdict? at h
  split at h
  · cases h
  · split at h
    next hs =>
      cases h
      exact ⟨String.toList_ofList, hs⟩
    next =>
      split at h <;> cases h

/-- While there is no verdict the token has not come. -/
theorem missing_of_verdict? {c : Collector} {text : List Char}
    (h : c.verdict? text = none) :
    Text.contains c.success text = false := by
  cases hs : Text.contains c.success text with
  | false => rfl
  | true =>
    unfold Collector.verdict? at h
    rw [hs] at h
    split at h <;> cases h

namespace Listening

/-- The listening was given these bytes through its port and heard so many
of them, and looks for this token of success. -/
structure Heard (token : List Char) (bytes heard : List UInt8)
    (l : Listening) : Prop where
  whole : heard ++ l.port.rest = bytes
  asked : l.collector.success = token
  noted : l.verdict = none → l.collector.heard = asciiText heard
  /-- what is heard without the token being there leaves the answer open -/
  missing : l.verdict = none → heard ≠ [] →
    Text.contains token (asciiText heard) = false
  accepted : ∀ response, l.verdict = some (.accepted response) →
    response.toList = asciiText heard
      ∧ Text.contains token (asciiText heard) = true

/-- Who has no answer yet has heard all there is. -/
def Attends (l : Listening) : Prop :=
  l.verdict = none → l.port.rest = []

variable {token : List Char} {bytes heard : List UInt8} {l l' : Listening}

/-- Where nothing was ignored and there is no `verdict` yet, all bytes were
heard. -/
theorem Heard.of_attends (h : Heard token bytes heard l) (ha : l.Attends)
    (hv : l.verdict = none) : heard = bytes := by
  have hw := h.whole
  rwa [ha hv, List.append_nil] at hw

/-- One piece is heard: it settles the answer, or is something and leaves
it open. -/
theorem Heard.hear (h : Heard token bytes heard l) (hopen : l.verdict = none)
    {piece : List UInt8} {port : Port}
    (whole : heard ++ piece ++ port.rest = bytes) :
    match l.collector.take (.bytes piece) with
    | .inl v => Heard token bytes (heard ++ piece)
        { l with port, verdict := some v }
    | .inr collector => piece ≠ [] ∧ Heard token bytes (heard ++ piece)
        { l with port, collector } := by
  -- an empty piece breaks the exchange off
  rcases l.collector.take_cases (.bytes piece) with ⟨hp, ht⟩ | ⟨hp, ht⟩
  · rw [ht]
    exact ⟨whole, h.asked, nofun, nofun, nofun⟩
  · rw [Collector.hear_eq, h.noted hopen, ← Modem.asciiText_append] at ht
    rw [ht]
    cases hv : l.collector.verdict? (asciiText (heard ++ piece)) with
    | some v =>
      have settled : Heard token bytes (heard ++ piece)
          { l with port, verdict := some v } := by
        refine ⟨whole, h.asked, nofun, nofun, fun response hr => ?_⟩
        obtain rfl := Option.some_inj.1 hr
        rw [← h.asked]
        exact accepted_of_verdict? hv
      simpa [Reading.content, hv] using settled
    | none =>
      have goes_on : Heard token bytes (heard ++ piece)
          { l with port, collector := { l.collector with
            heard := asciiText (heard ++ piece) } } := by
        refine ⟨whole, h.asked, fun _ => rfl, fun _ _ => ?_, ?_⟩
        · rw [← h.asked]
          exact missing_of_verdict? hv
        · intro response hr
          cases hopen.symm.trans hr
      simpa [Reading.content, hv] using And.intro hp goes_on

/-- What the port holds is heard piece by piece. -/
theorem Heard.drain (h : Heard token bytes heard l) (left : Nat) :
    ∃ heard', Heard token bytes heard' (drain left l)
      ∧ (l.port.rest.length ≤ left → (drain left l).Attends) := by
  induction left generalizing heard l with
  | zero =>
    exact ⟨heard, h, fun hl _ => List.length_eq_zero_iff.1
      (Nat.le_zero.1 hl)⟩
  | succ left ih =>
    unfold Listening.drain
    split
    next hstop =>
      refine ⟨heard, h, fun _ hv => ?_⟩
      rw [hv] at hstop
      exact Port.rest_of_isSpent hstop
    next hstop =>
      have hopen : l.verdict = none := by
        rw [Bool.or_eq_true, not_or] at hstop
        simpa using hstop.1
      have happ := l.port.read_append pieceSize
      cases hr : l.port.read pieceSize with
      | mk piece port =>
      rw [hr] at happ
      have whole : heard ++ piece ++ port.rest = bytes := by
        rw [List.append_assoc, happ, h.whole]
      have hear := h.hear hopen whole
      dsimp only
      cases ht : l.collector.take (.bytes piece) with
      | inl v =>
        rw [ht] at hear
        exact ⟨_, hear, fun _ => nofun⟩
      | inr collector =>
        rw [ht] at hear
        obtain ⟨heard', h', ha⟩ := ih hear.2
        refine ⟨heard', h', fun hl => ha ?_⟩
        have hlen : piece.length + port.rest.length
            = l.port.rest.length := by
          rw [← happ, List.length_append]
        -- a piece that leaves the matter open is not empty, so the rest
        -- shrinks
        have hpos : 0 < piece.length := List.length_pos_iff.2 hear.1
        show port.rest.length ≤ left
        omega

/-- What the `Port` holds is heard first. -/
theorem heard_start (port : Port) (c : Collector) (hc : c.heard = []) :
    ∃ heard, Heard c.success port.rest heard (start port c)
      ∧ (start port c).Attends := by
  have begun : Heard c.success port.rest [] { port, collector := c } :=
    ⟨rfl, rfl, fun _ => hc, fun _ h => absurd rfl h, nofun⟩
  obtain ⟨heard, h, ha⟩ := begun.drain port.held.length
  exact ⟨heard, h, ha Port.rest_length_le⟩

/-- While the answer is open, a read is given to the port. -/
theorem Heard.take (h : Heard token bytes heard l) (ha : l.Attends)
    (hv : l.verdict = none) (content : List UInt8) :
    ∃ heard', Heard token (bytes ++ content) heard'
        (l.take (.bytes content))
      ∧ (l.take (.bytes content)).Attends := by
  obtain rfl := h.of_attends ha hv
  have given : Heard token (heard ++ content) heard
      { l with port := Port.refill content } :=
    ⟨rfl, h.asked, h.noted, h.missing, h.accepted⟩
  obtain ⟨heard', h', ha'⟩ := given.drain content.length
  exact ⟨heard', h', ha' le_rfl⟩

/-- All of these reads are needed: they bring what is heard and what stays
in the port, and before the last of them the token was not there. -/
theorem Heard.run {reads : List (List UInt8)}
    (h : Heard token bytes heard l) (ha : l.Attends)
    (hr : l.run (reads.map .bytes) = (l', [])) :
    ∃ heard', Heard token (bytes ++ reads.flatten) heard' l' ∧ l'.Attends
      ∧ ∀ k < reads.length, bytes ++ (reads.take k).flatten ≠ [] →
          Text.contains token
            (asciiText (bytes ++ (reads.take k).flatten)) = false := by
  -- by induction on the reads; while it goes on without a verdict, all
  -- bytes were heard
  induction reads generalizing bytes heard l with
  | nil =>
    obtain rfl : l = l' := congrArg (·.1) hr
    refine ⟨heard, ?_, ha, fun k hk => absurd hk (Nat.not_lt_zero k)⟩
    rwa [List.flatten_nil, List.append_nil]
  | cons content later ih =>
    rw [List.map_cons, Listening.run] at hr
    split at hr
    next => cases hr
    next hopen =>
      have hv : l.verdict = none := by
        rw [Bool.not_eq_true, Option.isSome_eq_false_iff,
          Option.isNone_iff_eq_none] at hopen
        exact hopen
      obtain ⟨heard₁, h₁, ha₁⟩ := h.take ha hv content
      obtain ⟨heard', h', ha', hopen'⟩ := ih h₁ ha₁ hr
      rw [List.append_assoc, ← List.flatten_cons] at h'
      refine ⟨heard', h', ha', fun k hk hne => ?_⟩
      cases k with
      | zero =>
        rw [List.take_zero, List.flatten_nil, List.append_nil] at hne ⊢
        obtain rfl := h.of_attends ha hv
        exact h.missing hv hne
      | succ k =>
        rw [List.take_succ_cons, List.flatten_cons,
          ← List.append_assoc] at hne ⊢
        exact hopen' k (Nat.lt_of_succ_lt_succ hk) hne

end Listening

end Uplink.Board
