/-
Trying again: a bounded number of attempts with a pause between them.

Waking the modem, waiting for registration, reading the subscriber
identity, dialling, joining WiFi, asking a time server: each of them is
`retry` with its own attempt, budget and pause. What an attempt learnt
although it did not settle the matter is handed to the next one, and is
the answer when the budget runs out.

The pause stands *between* attempts: none follows the last one, whether
it settled the matter or not.
-/
import Uplink.Proc

namespace Uplink.Proc

variable {I : Interface} {α σ : Type}

/-- Make up to `budget` attempts, numbered from `number` on. An attempt
settles the matter with `.ok`; `.error` says what is known so far. -/
def retry (pause : Nat → Proc I Unit)
    (attempt : Nat → σ → Proc I (Except σ α)) :
    (budget number : Nat) → σ → Proc I (Except σ α)
  | 0, _, known => pure (.error known)
  | 1, number, known => attempt number known
  | left + 2, number, known => do
    match ← attempt number known with
    | .ok a => pure (.ok a)
    | .error known =>
      pause number
      retry pause attempt (left + 1) (number + 1) known

end Uplink.Proc
