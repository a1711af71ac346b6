/-
What a selection does to its two links, and what it ends with.

Nothing is known of the links: whether one is up may change between any
two looks at it, and bringing one up may fail as it likes. What a
selection asks them is its transcript without the log, and that has one of
two forms (`Course`). Either an attempt on the preferred link succeeds,
and nothing comes after it. Or all attempts on it fail, and one on the
fallback decides. How often what is asked, and what is returned, is read
off the form (`Course.selection`).
-/
import Mathlib.Data.List.Basic
import Mathlib.Data.List.Pairwise
import Uplink.Network.Selection
import Uplink.Proofs.Transcript

namespace Uplink.Network

open Proc (records_ask records_bind records_done)

-- ============================================================ transcripts

/-- The call is not one on the log. -/
def LinkCall.counts : LinkCall → Bool
  | log _ => false
  | _ => true

/-- What was asked of the links and the clock. -/
def traffic (t : List (Event Links)) : List (Event Links) :=
  t.filter (LinkCall.counts ·.call)

/-- What is asked in two stretches is asked in both together. -/
theorem traffic_append (t t' : List (Event Links)) :
    traffic (t ++ t') = traffic t ++ traffic t' :=
  List.filter_append ..

/-- A link was seen up, or brought up. -/
def CameUp (role : Role) (t : List (Event Links)) : Prop :=
  ⟨.isUp role, true⟩ ∈ t ∨ ⟨.bringUp role, .ok ()⟩ ∈ t

/-- The event concerns a link. -/
def Concerns (role : Role) (e : Event Links) : Prop :=
  e.call = .isUp role ∨ e.call = .bringUp role

section Transcripts

variable {role : Role} {t t' : List (Event Links)}

/-- Whether a link came up is seen without the log. -/
theorem cameUp_traffic : CameUp role (traffic t) ↔ CameUp role t := by
  unfold CameUp traffic
  rw [List.mem_filter, List.mem_filter]
  simp [LinkCall.counts]

/-- A link came up in two stretches if it did in one of them. -/
theorem cameUp_append :
    CameUp role (t ++ t') ↔ CameUp role t ∨ CameUp role t' := by
  unfold CameUp
  rw [List.mem_append, List.mem_append]
  exact or_or_or_comm

end Transcripts

-- =============================================================== attempts

/-- What an attempt on a link comes to. -/
inductive Attempt where
  /-- the link was up -/
  | found
  /-- it was not, and was brought up -/
  | raised
  | failed (why : String)

namespace Attempt

def succeeds : Attempt → Bool
  | found => true
  | raised => true
  | failed _ => false

/-- What is asked of the link. -/
def shows (role : Role) : Attempt → List (Event Links)
  | found => [⟨.isUp role, true⟩]
  | raised => [⟨.isUp role, false⟩, ⟨.bringUp role, .ok ()⟩]
  | failed why => [⟨.isUp role, false⟩, ⟨.bringUp role, .error why⟩]

/-- The answer of an attempt that settles the matter. -/
def settles (x : Attempt) : Option Unit :=
  if x.succeeds then some () else none

variable {x : Attempt} {role other : Role}

theorem settles_eq_none_iff : x.settles = none ↔ x.succeeds = false := by
  unfold settles
  cases x.succeeds <;> simp

/-- An attempt asks for nothing but its own link. -/
theorem concerns_of_mem {e : Event Links} (h : e ∈ x.shows role) :
    Concerns role e := by
  cases x with
  | found =>
    obtain rfl := List.mem_singleton.1 h
    exact .inl rfl
  | raised | failed why =>
    rcases List.mem_cons.1 h with rfl | h
    · exact .inl rfl
    · obtain rfl := List.mem_singleton.1 h
      exact .inr rfl

/-- An attempt brings its own link up if it succeeds, and no other. -/
theorem cameUp_shows :
    CameUp other (x.shows role) ↔ other = role ∧ x.succeeds = true := by
  cases x <;> simp [CameUp, shows, succeeds, eq_comm]

end Attempt

/-- One `Attempt` is a look at the link, and a try to bring it up if it was
down; it settles the matter if the link is up afterwards. -/
theorem records_attemptLink (role : Role) (transport : Transport)
    (budget number : Nat) (known : Unit) :
    (attemptLink role transport budget number known).Records fun t r =>
      ∃ x : Attempt, traffic t = x.shows role
        ∧ x.settles = r.toOption := by
  refine records_bind.2 (records_ask.2 fun up => ?_)
  cases up with
  | true => exact records_done.2 ⟨.found, rfl, rfl⟩
  | false =>
    refine records_bind.2 (records_ask.2 fun raised => ?_)
    cases raised with
    | ok => exact records_done.2 ⟨.raised, rfl, rfl⟩
    | error why =>
      exact records_bind.2 (records_ask.2 fun _ =>
        records_done.2 ⟨.failed why, rfl, rfl⟩)

/-- Attempts on a link, with a pause between any two of them. -/
def paced (role : Role) (pause : Nat) (earlier : List Attempt)
    (last : Attempt) : List (Event Links) :=
  (earlier.flatMap fun x => x.shows role ++ [⟨.pause pause, ()⟩])
    ++ last.shows role

section Paced

variable {role other : Role} {pause : Nat}
variable {earlier : List Attempt} {last : Attempt}

/-- While attempts fail, nothing comes up. -/
theorem not_cameUp_failing (hfailed : ∀ x ∈ earlier, x.succeeds = false) :
    ¬CameUp other
      (earlier.flatMap fun x => x.shows role ++ [⟨.pause pause, ()⟩]) := by
  induction earlier with
  | nil => exact fun h => h.elim nofun nofun
  | cons x rest ih =>
    obtain ⟨hx, hrest⟩ := List.forall_mem_cons.1 hfailed
    rw [List.flatMap_cons, cameUp_append, cameUp_append,
      Attempt.cameUp_shows, hx]
    simp only [Bool.false_eq_true, and_false, false_or]
    rintro (h | h)
    · simp [CameUp] at h
    · exact ih hrest h

/-- After attempts of which all but the last failed, the link is up exactly
if the last one succeeded. -/
theorem cameUp_paced (hfailed : ∀ x ∈ earlier, x.succeeds = false) :
    CameUp other (paced role pause earlier last)
      ↔ other = role ∧ last.succeeds = true := by
  unfold paced
  rw [cameUp_append, Attempt.cameUp_shows]
  exact or_iff_right (not_cameUp_failing hfailed)

/-- An attempt concerns its link alone. -/
theorem not_concerns_paced (hne : other ≠ role) {e : Event Links}
    (he : e ∈ paced role pause earlier last) : ¬Concerns other e := by
  have shown {x : Attempt} (hx : e ∈ x.shows role) :
      ¬Concerns other e := by
    rintro (h | h) <;> rcases x.concerns_of_mem hx with h' | h' <;>
      cases h.symm.trans h' <;> exact hne rfl
  rcases List.mem_append.1 he with he | he
  · obtain ⟨x, -, he⟩ := List.mem_flatMap.1 he
    rcases List.mem_append.1 he with he | he
    · exact shown he
    · obtain rfl := List.mem_singleton.1 he
      exact nofun
  · exact shown he

end Paced

/-- Trying a link is attempts with a `pause` between any two, up to the
first that succeeds or to the end of the budget. -/
theorem records_tryLink (role : Role) (transport : Transport)
    (left pause : Nat) :
    (tryLink role transport (left + 1) pause).Records fun t up =>
      ∃ earlier last, traffic t = paced role pause earlier last
        ∧ (∀ x ∈ earlier, x.succeeds = false) ∧ up = last.succeeds
        ∧ earlier.length ≤ left
        ∧ (up = false → earlier.length = left) := by
  refine records_bind.2 ((Proc.records_retry_spaced LinkCall.counts
    (Attempt.shows role) ⟨.pause pause, ()⟩ Attempt.settles
    (records_attemptLink role transport (left + 1))
    (fun _ => records_ask.2 fun _ => rfl) left 1 ()).mono fun t r h => ?_)
  obtain ⟨earlier, last, ht, hfailed, hlast, hle, hall⟩ := h
  have hfailed : ∀ x ∈ earlier, x.succeeds = false := fun x hx =>
    Attempt.settles_eq_none_iff.1 (hfailed x hx)
  -- the last attempt is the one that came up, or one more that failed
  cases r with
  | ok =>
    refine records_done.2 ⟨earlier, last, ?_, hfailed, ?_, hle, nofun⟩
    · rw [List.append_nil]
      exact ht
    · cases hsucceeds : last.succeeds with
      | true => rfl
      | false =>
        rw [Attempt.settles_eq_none_iff.2 hsucceeds] at hlast
        cases hlast
  | error =>
    refine records_done.2 ⟨earlier, last, ?_, hfailed, ?_, hle,
      fun _ => hall hlast⟩
    · rw [List.append_nil]
      exact ht
    · exact (Attempt.settles_eq_none_iff.1 hlast).symm

-- ============================================================= selections

/-- The two forms that a selection has. -/
inductive Course (preferred fallback : Transport) :
    List (Event Links) → Except SelectionError Transport → Prop
  | preferred {earlier : List Attempt} {last : Attempt} :
      (∀ x ∈ earlier, x.succeeds = false) →
      earlier.length < wifiAttempts → last.succeeds = true →
      Course preferred fallback (paced .preferred wifiPause earlier last)
        (.ok preferred)
  | fallback {earlier : List Attempt} {last x : Attempt} :
      (∀ x ∈ earlier, x.succeeds = false) →
      earlier.length + 1 = wifiAttempts → last.succeeds = false →
      Course preferred fallback
        (paced .preferred wifiPause earlier last ++ x.shows .fallback)
        (if x.succeeds then .ok fallback else .error .noTransport)

/-- Every selection is a `Course`, whatever the links do. -/
theorem records_selectTransport (preferred fallback : Transport) :
    (selectTransport preferred fallback).Records fun t r =>
      Course preferred fallback (traffic t) r := by
  refine records_bind.2 ((records_tryLink .preferred preferred 2
    wifiPause).mono fun t up h => ?_)
  obtain ⟨earlier, last, ht, hfailed, rfl, hle, hall⟩ := h
  cases hlast : last.succeeds with
  | true =>
    refine records_bind.2 (records_ask.2 fun _ => records_done.2 ?_)
    rw [traffic_append, ht]
    exact (List.append_nil _).symm ▸
      .preferred hfailed (Nat.lt_succ_of_le hle) hlast
  | false =>
    have hlength : earlier.length + 1 = wifiAttempts :=
      congrArg (· + 1) (hall hlast)
    refine records_bind.2 (records_ask.2 fun _ => records_bind.2
      ((records_tryLink .fallback fallback 0 0).mono fun t' up h => ?_))
    obtain ⟨_, x, ht', -, rfl, hnone, -⟩ := h
    obtain rfl := List.eq_nil_of_length_eq_zero (Nat.le_zero.1 hnone)
    have hcourse : Course preferred fallback (traffic t ++ traffic t')
        (if x.succeeds then .ok fallback else .error .noTransport) := by
      rw [ht, ht']
      exact .fallback hfailed hlength hlast
    -- what is logged before and after the last attempt does not count
    cases hx : x.succeeds with
    | true =>
      rw [if_pos hx] at hcourse
      refine records_bind.2 (records_ask.2 fun _ => records_done.2 ?_)
      simp only [traffic_append]
      exact (List.append_nil (traffic t')).symm ▸ hcourse
    | false =>
      rw [if_neg (by simp [hx])] at hcourse
      refine records_done.2 ?_
      simp only [traffic_append]
      exact (List.append_nil (traffic t')).symm ▸ hcourse

-- =============================================================== outcomes

/-- The second event does not bring a link up that the first one saw
up. -/
def Spares (e e' : Event Links) : Prop :=
  ∀ role, e = ⟨.isUp role, true⟩ → e'.call ≠ .bringUp role

/-- What a selection comes to. -/
structure Selection (preferred fallback : Transport)
    (t : List (Event Links)) (r : Except SelectionError Transport) :
    Prop where
  /-- The preferred transport is returned if its link came up. Two links of
  one transport cannot be told apart by what is returned. -/
  preferred_iff : r = .ok preferred
    ↔ CameUp .preferred t ∨ fallback = preferred ∧ CameUp .fallback t
  /-- It comes up in one of three attempts, and nothing follows that
  one. -/
  settled : CameUp .preferred t → ∃ earlier last,
    traffic t = paced .preferred 2000 earlier last
      ∧ (∀ x ∈ earlier, x.succeeds = false) ∧ last.succeeds = true
      ∧ earlier.length + 1 ≤ 3
  /-- The fallback is then neither looked at nor brought up. -/
  untouched : CameUp .preferred t → ∀ e ∈ t, ¬Concerns .fallback e
  /-- Otherwise it was brought up three times, with two pauses in between,
  and the fallback is attempted once and at once. -/
  exhausted : ¬CameUp .preferred t → ∃ why₁ why₂ why₃, ∃ x : Attempt,
    traffic t = paced .preferred 2000 [.failed why₁, .failed why₂]
      (.failed why₃) ++ x.shows .fallback
  fallback_iff : ¬CameUp .preferred t →
    (r = .ok fallback ↔ CameUp .fallback t)
  none_iff : ¬CameUp .preferred t →
    (r = .error .noTransport ↔ ¬CameUp .fallback t)
  /-- No link is brought up that was seen up. -/
  spares : t.Pairwise Spares

/-- What comes before a link came up spares everything. -/
theorem spares_append {t t' : List (Event Links)}
    (ht : ∀ role, ¬CameUp role t) (ht' : t'.Pairwise Spares) :
    (t ++ t').Pairwise Spares := by
  have unseen {e : Event Links} (he : e ∈ t) (e' : Event Links) :
      Spares e e' := by
    rintro role rfl
    exact absurd (.inl he) (ht role)
  exact List.pairwise_append.2
    ⟨List.pairwise_of_forall_mem_list fun e he e' _ => unseen he e', ht',
      fun e he e' _ => unseen he e'⟩

/-- Within an `Attempt` nothing is asked after the link is up. -/
theorem Attempt.spares_shows (x : Attempt) (role : Role) :
    (x.shows role).Pairwise Spares := by
  cases x <;> simp [shows, Spares]

/-- An `Attempt` that does not succeed failed, and for a reason. -/
theorem Attempt.eq_failed {x : Attempt} (h : x.succeeds = false) :
    ∃ why, x = .failed why := by
  cases x with
  | failed why => exact ⟨why, rfl⟩
  | found | raised => cases h

namespace Course

variable {preferred fallback : Transport} {t : List (Event Links)}
variable {r : Except SelectionError Transport}

/-- A link that is seen up is the last thing that is asked for. -/
theorem spares (h : Course preferred fallback t r) :
    t.Pairwise Spares := by
  cases h with
  | preferred hfailed _ _ =>
    exact spares_append (fun _ => not_cameUp_failing hfailed)
      (Attempt.spares_shows _ _)
  | fallback hfailed _ hlast =>
    refine spares_append (fun role h => ?_) (Attempt.spares_shows _ _)
    have hup := ((cameUp_paced hfailed).1 h).2
    rw [hlast] at hup
    cases hup

/-- What a `Selection` does and returns is read off its `Course`. -/
theorem selection {t : List (Event Links)}
    (h : Course preferred fallback (traffic t) r) :
    Selection preferred fallback t r := by
  have hspares : t.Pairwise Spares := by
    refine (List.pairwise_filter.1 h.spares).imp fun {e e'} hs => ?_
    rintro role rfl
    by_cases hlog : LinkCall.counts e'.call = true
    · exact hs rfl hlog role rfl
    · exact fun he => hlog (by rw [he]; rfl)
  -- what is said of the attempts concerns the traffic alone
  generalize ht : traffic t = asked at h
  cases h with
  | @preferred earlier last hfailed hlength hlast =>
    have hup : CameUp .preferred t := by
      rw [← cameUp_traffic, ht, cameUp_paced hfailed]
      exact ⟨rfl, hlast⟩
    exact {
      preferred_iff := iff_of_true rfl (.inl hup)
      settled := fun _ =>
        ⟨earlier, last, ht, hfailed, hlast, Nat.succ_le_of_lt hlength⟩
      untouched := fun _ e he hc => by
        have hmem : e ∈ traffic t := by
          refine List.mem_filter.2 ⟨he, ?_⟩
          rcases hc with hc | hc <;> rw [hc] <;> rfl
        rw [ht] at hmem
        exact not_concerns_paced (by decide) hmem hc
      exhausted := fun hdown => absurd hup hdown
      fallback_iff := fun hdown => absurd hup hdown
      none_iff := fun hdown => absurd hup hdown
      spares := hspares }
  | @fallback earlier last x hfailed hlength hlast =>
    have hdown : ¬CameUp .preferred t := by
      rw [← cameUp_traffic, ht, cameUp_append, cameUp_paced hfailed,
        Attempt.cameUp_shows, hlast]
      simp
    have hup : CameUp .fallback t ↔ x.succeeds = true := by
      rw [← cameUp_traffic, ht, cameUp_append, cameUp_paced hfailed,
        Attempt.cameUp_shows]
      simp
    have hreturned : (if x.succeeds then .ok fallback
        else .error .noTransport : Except SelectionError Transport)
          = .ok fallback ↔ x.succeeds = true := by
      cases x.succeeds <;> simp
    exact {
      preferred_iff := by
        rw [hup]
        cases x.succeeds <;> simp [hdown]
      settled := fun h => absurd h hdown
      untouched := fun h => absurd h hdown
      -- three attempts failed: two before the last, and the last
      exhausted := fun _ => by
        obtain ⟨x₁, x₂, rfl⟩ := List.length_eq_two.1
          (Nat.succ.inj hlength)
        obtain ⟨why₁, rfl⟩ := Attempt.eq_failed (hfailed x₁ (by simp))
        obtain ⟨why₂, rfl⟩ := Attempt.eq_failed (hfailed x₂ (by simp))
        obtain ⟨why₃, rfl⟩ := Attempt.eq_failed hlast
        exact ⟨why₁, why₂, why₃, x, ht⟩
      fallback_iff := fun _ => hreturned.trans hup.symm
      none_iff := fun _ => by
        rw [hup]
        cases x.succeeds <;> simp
      spares := hspares }

end Course

/-- However the links behave, as long as they answer: the preferred
transport is returned if its link is seen up or brought up in one of three
attempts (`CameUp`), and the fallback is then left alone. Otherwise the
three attempts have failed, with a pause between any two of them, the
fallback is attempted once, and what comes of that is returned. -/
theorem selectTransport_selection {σ : Type} {B : Behaviour Links σ}
    (hB : ∀ call s, ∃ answer s', B call s answer s')
    (preferred fallback : Transport) (s : σ) :
    (∃ t r s', Proc.Runs B (selectTransport preferred fallback) s t r s')
      ∧ ∀ t r s',
        Proc.Runs B (selectTransport preferred fallback) s t r s' →
        Selection preferred fallback t r :=
  ⟨Proc.exists_runs hB _ s, fun _ _ _ h =>
    ((records_selectTransport preferred fallback).of_runs h).selection⟩

/-- A preferred link that cannot be brought up, and comes up on its own in
the second pause. -/
def waking : (call : LinkCall) → Nat → call.Answer × Nat
  | .isUp .preferred, pauses => (decide (pauses = 2), pauses)
  | .isUp .fallback, pauses => (false, pauses)
  | .bringUp _, pauses => (.error "down", pauses)
  | .pause _, pauses => ((), pauses + 1)
  | .log _, pauses => ((), pauses)

/-- A preferred link that comes up at the second attempt is selected, and
the fallback is never asked. -/
theorem selectTransport_selection_waking :
    ∃ t, Proc.Runs (.of waking) (selectTransport .wifi .gsm) 0 t
        (.ok .wifi) 2
      ∧ Selection .wifi .gsm t (.ok .wifi)
      ∧ ∀ e ∈ t, ¬Concerns .fallback e := by
  obtain ⟨t, h⟩ :=
    Proc.runs_of_answer waking (selectTransport .wifi .gsm) 0
  have hrun : (selectTransport .wifi .gsm).run waking 0
      = (.ok .wifi, 2) := rfl
  rw [hrun] at h
  obtain ⟨-, hall⟩ := selectTransport_selection (B := .of waking)
    (fun call s => ⟨_, _, rfl⟩) .wifi .gsm 0
  have hselection := hall t _ _ h
  have hup : CameUp .preferred t :=
    (hselection.preferred_iff.1 rfl).resolve_right
      fun hsame => nomatch hsame.1
  exact ⟨t, h, hselection, hselection.untouched hup⟩

end Uplink.Network
