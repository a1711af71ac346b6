/-
Hooks: what happens on the bench because something else did.

Each part of the bench reports what it sees as one event, a line of text.
A hook waits for an event of its own, counts its occurrences, and acts at
one of them or at all. The actions run at once, inside of whatever made
the event happen.
-/

namespace Uplink.Bench

/-- Actions tied to the occurrences of one event. -/
structure Hook (α : Type) where
  event : String
  /-- the occurrence to act at, counted from 1; 0 acts at all of them -/
  nth : Nat
  actions : List α
  /-- the occurrences so far -/
  seen : Nat := 0

namespace Hook

variable {α : Type}

/-- The hook after an event. -/
def note (event : String) (h : Hook α) : Hook α :=
  if h.event = event then { h with seen := h.seen + 1 } else h

/-- The hook acts at this event, its own count included. -/
def isDue (event : String) (h : Hook α) : Bool :=
  h.event = event && (h.nth = 0 || h.nth = h.seen)

/-- The hooks after an event, and the actions that are due, those of the
first hook first. -/
def noteAll (event : String) (hooks : List (Hook α)) :
    List (Hook α) × List α :=
  let hooks := hooks.map (note event)
  (hooks, (hooks.filter (isDue event)).flatMap (·.actions))

end Hook

end Uplink.Bench
