/-
Scripts: what a bench part does, one item for each time it is asked.

The last item of a script repeats for ever. An empty script has nothing
to say at all, and whoever plays it says what that means.
-/

namespace Uplink.Bench

/-- A list of items whose last one repeats. -/
structure Script (α : Type) where
  items : List α

namespace Script

variable {α : Type}

/-- The item whose turn it is, and the script from then on. -/
def next (s : Script α) : Option α × Script α :=
  match s.items with
  | [] => (none, s)
  | [last] => (some last, s)
  | item :: rest => (some item, ⟨rest⟩)

/-- The item whose turn it is, or what stands in for it. -/
def nextOr (s : Script α) (standIn : α) : α × Script α :=
  let (item, rest) := s.next
  (item.getD standIn, rest)

/-- An empty script. -/
def silent : Script α :=
  ⟨[]⟩

end Script

/-- A list of items that are each played once. -/
def playOnce {α : Type} : List α → Option α × List α
  | [] => (none, [])
  | item :: rest => (some item, rest)

end Uplink.Bench
