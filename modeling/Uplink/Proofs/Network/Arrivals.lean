/-
What the transports did, and what the record makes of it.

The record forgets: of everything it was told, two flags and a selector
are left. Here it is read against the whole history. Each part turns out
to say that something happened and was not undone since (`Since`), and
they differ in what undoes it.

- A transport is connected if it came up and has not gone down since.
- It carries the traffic if it came up, and since then no other came up
  and it neither went down nor was released.

So the one that carries the traffic is connected (`Holds.connected`). One
that is connected need not carry anything, and then nobody may: another
came up after it and went down again.
-/
import Uplink.Proofs.Gsm.Accesses
import Uplink.Proofs.History

namespace Uplink.Network

-- ============================================================ histories

/-- What the record is told about a transport. -/
inductive Notice where
  | up (transport : Transport)
  | down (transport : Transport)
  /-- it gives the traffic up, and stays connected if it was -/
  | released (transport : Transport)
deriving DecidableEq, Repr

/-- The record after a notice. -/
def Status.hear (s : Status) : Notice → Status
  | .up t => (s.notify true t).value
  | .down t => (s.notify false t).value
  | .released t => s.release t

/-- The record after a history. -/
def Status.after (notices : List Notice) : Status :=
  notices.foldl Status.hear {}

/-- One `Notice` more is heard by the record that the others left. -/
theorem Status.after_concat (notices : List Notice) (n : Notice) :
    Status.after (notices ++ [n]) = (Status.after notices).hear n := by
  simp [Status.after]

/-- Something happened, and nothing undid it since. -/
def Since (made : Notice) (undoes : Notice → Prop)
    (notices : List Notice) : Prop :=
  ∃ before later, notices = before ++ made :: later
    ∧ ∀ n ∈ later, ¬ undoes n

section

variable {made n : Notice} {undoes : Notice → Prop}
variable {notices : List Notice}

/-- It is a matter of what came last. -/
theorem since_iff_latest :
    Since made undoes notices ↔ Latest undoes (· = made) notices := by
  constructor
  · rintro ⟨before, later, h, hl⟩
    exact ⟨before, made, later, h, rfl, hl⟩
  · rintro ⟨before, _, later, h, rfl, hl⟩
    exact ⟨before, later, h, hl⟩

/-- Nothing was made by an empty history. -/
theorem not_since_nil : ¬ Since made undoes [] :=
  fun h => not_latest_nil (since_iff_latest.1 h)

/-- The latest notice settles it, or leaves it as it was. -/
theorem since_concat :
    Since made undoes (notices ++ [n])
      ↔ n = made ∨ (Since made undoes notices ∧ ¬ undoes n) := by
  rw [since_iff_latest, since_iff_latest, latest_concat]

/-- A part of the record that each notice makes, undoes or leaves alone
tells whether it was made and not undone since. -/
theorem after_iff_since {P : Status → Prop} (hfirst : ¬ P {})
    (hhear : ∀ s n, P (s.hear n) ↔ n = made ∨ (P s ∧ ¬ undoes n)) :
    P (.after notices) ↔ Since made undoes notices := by
  induction notices using List.reverseRecOn with
  | nil => exact iff_of_false hfirst not_since_nil
  | append_singleton notices n ih =>
    rw [Status.after_concat, hhear, since_concat, ih]

end

-- ============================================================= the record

/-- A transport came up, and has not gone down since. -/
def Connected (notices : List Notice) (t : Transport) : Prop :=
  Since (.up t) (· = .down t) notices

/-- The notice takes the traffic from a transport. -/
def Notice.Displaces (t : Transport) : Notice → Prop
  | up _ => True
  | down u => u = t
  | released u => u = t

/-- A transport came up, and nothing took the traffic from it since. -/
def Holds (notices : List Notice) (t : Transport) : Prop :=
  Since (.up t) (Notice.Displaces t) notices

namespace Status

/-- After a `Notice` a transport is up if the notice says so, or if it was
before and the notice does not say that it went down. -/
theorem hear_isConnected (s : Status) (n : Notice) (t : Transport) :
    (s.hear n).isConnected t = true
      ↔ n = .up t ∨ (s.isConnected t = true ∧ ¬ n = .down t) := by
  cases n with
  | up u =>
    rw [hear, notify_up]
    cases u <;> cases t <;> simp [isConnected, apply]
  | down u =>
    rw [hear, notify_down]
    cases u <;> cases t <;> simp [isConnected, apply]
  | released u =>
    have h : (s.release u).isConnected t = s.isConnected t := by
      rw [release, apply]
      split <;> rfl
    simp [hear, h]

/-- After a `Notice` a transport is selected if it is what came up, or if
it was selected before and the notice does not displace it. -/
theorem hear_active (s : Status) (n : Notice) (t : Transport) :
    (s.hear n).active = some t
      ↔ n = .up t ∨ (s.active = some t ∧ ¬ n.Displaces t) := by
  cases n with
  | up u => simp [hear, notify_up, Notice.Displaces]
  | down u =>
    rw [hear, notify_down]
    by_cases ha : s.active = some u
    · simp [ha, Notice.Displaces]
    · simp only [ha, Notice.Displaces]
      grind
  | released u =>
    by_cases ha : s.active = some u
    · simp [hear, release, apply, ha, Notice.Displaces]
    · simp only [hear, release, apply, if_neg ha, Notice.Displaces]
      grind

/-- The flags are those of the last notices: `Connected` says it of every
history. -/
theorem isConnected_after {notices : List Notice} {t : Transport} :
    (after notices).isConnected t = true ↔ Connected notices t :=
  after_iff_since (P := fun s => s.isConnected t = true)
    (by cases t <;> nofun) fun s n => hear_isConnected s n t

/-- The selector holds a transport exactly if the history says so, by
`Holds`. -/
theorem active_after {notices : List Notice} {t : Transport} :
    (after notices).active = some t ↔ Holds notices t :=
  after_iff_since (P := fun s => s.active = some t) nofun
    fun s n => hear_active s n t

end Status

/-- A transport that holds the selector is connected. -/
theorem Holds.connected {notices : List Notice} {t : Transport}
    (h : Holds notices t) : Connected notices t := by
  obtain ⟨before, later, rfl, hl⟩ := h
  refine ⟨before, later, rfl, fun n hn hd => hl n hn ?_⟩
  rw [hd]
  exact rfl

/-- The selector is empty exactly if no transport holds it. -/
theorem active_eq_none {notices : List Notice} :
    (Status.after notices).active = none ↔ ∀ t, ¬ Holds notices t := by
  rw [Option.eq_none_iff_forall_ne_some]
  exact forall_congr' fun t => not_congr Status.active_after

end Uplink.Network
