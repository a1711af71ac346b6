/-
What a search for the access point ends with.

A search changes the choice once or not at all (`Concluded`). Where a
strategy finds something that is accepted, the choice has a name and that
strategy for its source, a line says so, and the search is over; where
none does, the choice is what it was, whatever was asked in between. That
holds because a choice is accepted as a whole (`accept_cases`).
-/
import Uplink.Proofs.Gsm.Steps
import Uplink.Proofs.Transcript

namespace Uplink.Apn

open Modem (Session)
open Proc (Records records_ask records_bind records_done records_runs)

variable {α : Type}

-- ============================================================ the choice

/-- A choice that counts as found has a name. -/
def Chosen.Named (c : Chosen) : Prop :=
  c.isDetected = true → c.apn.text ≠ ""

/-- A choice that has a source counts as detected. -/
theorem Chosen.detected_of_source {c : Chosen} {source : Source}
    (h : c.source = some source) : c.isDetected = true := by
  rw [isDetected, h]
  rfl

/-- A choice is made of texts that fit as they are, the name not
empty. -/
theorem Chosen.of_texts {apn username password : String} {source : Source}
    {c : Chosen} (h : ofTexts? apn username password source = some c) :
    c.source = some source ∧ c.apn.text ≠ "" := by
  unfold ofTexts? at h
  split at h
  · cases h
  next hne =>
    simp only [Option.bind_eq_bind, Option.bind_eq_some_iff] at h
    obtain ⟨name, hname, _, _, _, _, h⟩ := h
    cases h
    refine ⟨rfl, fun he => hne ?_⟩
    unfold Bounded.ofString? at hname
    split at hname
    · cases hname
      exact String.isEmpty_iff.2 he
    · cases hname

/-- A choice that is accepted is there as a whole, and one that is not
changes nothing. -/
theorem accept_cases (c : Chosen) (apn username password : String)
    (source : Source) :
    (c.accept apn username password source).value = (false, c)
      ∨ ∃ chosen : Chosen,
          (c.accept apn username password source).value = (true, chosen)
            ∧ chosen.source = some source ∧ chosen.apn.text ≠ "" := by
  unfold Chosen.accept
  cases h : Chosen.ofTexts? apn username password source with
  | none =>
    left
    dsimp only
    split <;> rfl
  | some chosen => exact .inr ⟨chosen, rfl, Chosen.of_texts h⟩

/-- Texts that fit are taken as they are, if there is a name. -/
theorem accept_whole (c : Chosen) {apn : Name} (h : apn.text ≠ "")
    (username password : Credential) (source : Source) :
    c.accept apn.text username.text password.text source
      = pure (true, ⟨apn, username, password, some source⟩) := by
  have ht : Chosen.ofTexts? apn.text username.text password.text source
      = some ⟨apn, username, password, some source⟩ := by
    simp [Chosen.ofTexts?, h]
  unfold Chosen.accept
  rw [ht]

/-- A choice without a name is never accepted, and nothing changes. -/
theorem accept_nameless (c : Chosen) (username password : String)
    (source : Source) :
    c.accept "" username password source = pure (false, c) :=
  rfl

-- ============================================================ the search

/-- The line that says what was found, and how. -/
def announcement (strategy : Strategy) (chosen : Chosen) : Line :=
  .info s!"APN detected via {strategy.label}: {chosen.apn.text}"

/-- What a search shows and ends with: it was in vain, or its last line
announces what it found. -/
def Concluded (c : Chosen) (t : List (Event Session))
    (x : Except DetectionError Source × Chosen) : Prop :=
  x = (.error .exhausted, c)
    ∨ ∃ strategy before, x.1 = .ok (Strategy.source strategy)
        ∧ x.2.source = some strategy.source ∧ x.2.apn.text ≠ ""
        ∧ t = before ++ [⟨.log (announcement strategy x.2), ()⟩]

section

variable {c : Chosen} {t : List (Event Session)}
variable {x : Except DetectionError Source × Chosen}

/-- Whatever was asked before a search that is `Concluded` does not matter
to how it is. -/
theorem Concluded.after (before : List (Event Session))
    (h : Concluded c t x) : Concluded c (before ++ t) x := by
  rcases h with rfl | ⟨strategy, first, hr, hs, htext, rfl⟩
  · exact .inl rfl
  · exact .inr ⟨strategy, before ++ first, hr, hs, htext, by simp⟩

end

/-- Speaking hands on what was reached. -/
theorem records_speak (spoken : Spoken α) :
    (Session.speak spoken).Records fun _ a => a = spoken.value := by
  obtain ⟨a, lines⟩ := spoken
  induction lines with
  | nil => exact records_done.2 rfl
  | cons line rest ih =>
    rw [Gsm.Step.speak_cons]
    exact records_bind.2 (records_ask.2 fun _ => ih)

/-- One `Strategy` after the other, up to the first that is accepted. -/
theorem records_tryStrategies (guesses : List Name) (c : Chosen)
    (strategies : List Strategy) :
    (tryStrategies guesses c strategies).Records (Concluded c) := by
  induction strategies with
  | nil => exact records_bind.2 (records_ask.2 fun _ => .inl rfl)
  | cons strategy rest ih =>
    refine records_bind.2 (records_ask.2 fun _ => ?_)
    refine records_bind.2 ((records_runs _).mono fun t found _ => ?_)
    cases found with
    | none =>
      refine records_bind.2 (records_ask.2 fun _ => ?_)
      exact ih.mono fun t' x h => ((h.after _).after t).after _
    | some found =>
      refine records_bind.2 ((records_speak _).mono fun t' after h => ?_)
      subst h
      rcases accept_cases c found.apn.text found.username found.password
        strategy.source with hr | ⟨chosen, hr, hs, htext⟩
      · rw [hr]
        exact ih.mono fun t'' x h => ((h.after t').after t).after _
      · rw [hr]
        refine records_bind.2 (records_ask.2 fun _ => ?_)
        have said : Concluded c ([] ++ [⟨.log (announcement strategy
            chosen), ()⟩]) (.ok strategy.source, chosen) :=
          .inr ⟨strategy, [], rfl, hs, htext, rfl⟩
        exact ((said.after t').after t).after _

/-- Every search for the access point is `Concluded`, whatever the modem
answers. -/
theorem records_detect (guesses : List Name) (c : Chosen) :
    (detect guesses c).Records (Concluded c) :=
  records_bind.2 (records_ask.2 fun _ =>
    (records_tryStrategies guesses c _).mono fun _ _ h => h.after _)

end Uplink.Apn
