/-
What came last in a history.

A history is a list, the first event first. `Latest kind made` says that
one of the events that are `made` happened, and no event of the `kind`
since. Where all that is made is of the kind, the last event of the kind
is one of those. The next event settles it, or leaves it as it was
(`latest_concat`), which is how it is carried along a history.
-/
import Mathlib.Data.List.Induction

namespace Uplink

variable {α : Type} {kind made : α → Prop} {history : List α} {x : α}

def Latest (kind made : α → Prop) (history : List α) : Prop :=
  ∃ before x later, history = before ++ x :: later ∧ made x
    ∧ ∀ y ∈ later, ¬kind y

/-- Nothing is the `Latest` of an empty history. -/
theorem not_latest_nil : ¬Latest kind made [] := by
  rintro ⟨before, x, later, h, -⟩
  exact absurd h.symm (List.append_ne_nil_of_right_ne_nil _ nofun)

/-- After one more entry, the `Latest` of its kind is that entry, or else
the one before it if the entry is of another kind. -/
theorem latest_concat :
    Latest kind made (history ++ [x])
      ↔ made x ∨ (Latest kind made history ∧ ¬kind x) := by
  constructor
  · rintro ⟨before, y, later, h, hy, hl⟩
    rcases List.eq_nil_or_concat later with rfl | ⟨later, last, rfl⟩
    · obtain rfl : x = y :=
        List.singleton_inj.1 (List.append_inj_right' h rfl)
      exact .inl hy
    · rw [List.concat_eq_append] at h hl
      rw [← List.cons_append, ← List.append_assoc] at h
      obtain ⟨hh, hlast⟩ := List.append_inj' h rfl
      obtain rfl : x = last := List.singleton_inj.1 hlast
      refine .inr ⟨⟨before, y, later, hh, hy, fun z hz => ?_⟩, ?_⟩
      · exact hl z (List.mem_append_left _ hz)
      · exact hl x (List.mem_append_right _ (List.mem_singleton_self x))
  · rintro (hx | ⟨⟨before, y, later, rfl, hy, hl⟩, hx⟩)
    · exact ⟨history, x, [], rfl, hx, nofun⟩
    · refine ⟨before, y, later ++ [x], by simp, hy, fun z hz => ?_⟩
      rcases List.mem_append.1 hz with hz | hz
      · exact hl z hz
      · exact List.mem_singleton.1 hz ▸ hx

/-- Two events that came last, each of a kind that the other is of too,
are one. -/
theorem Latest.meet {kind' made' : α → Prop}
    (h : Latest kind made history) (h' : Latest kind' made' history)
    (hm : ∀ x, made x → kind' x) (hm' : ∀ x, made' x → kind x) :
    ∃ x, made x ∧ made' x := by
  induction history using List.reverseRecOn with
  | nil => exact absurd h not_latest_nil
  | append_singleton history x ih =>
    rcases latest_concat.1 h with hx | ⟨h, hx⟩
    · rcases latest_concat.1 h' with hx' | ⟨-, hx'⟩
      · exact ⟨x, hx, hx'⟩
      · exact absurd (hm x hx) hx'
    · rcases latest_concat.1 h' with hx' | ⟨h', -⟩
      · exact absurd (hm' x hx') hx
      · exact ih h h'

end Uplink
