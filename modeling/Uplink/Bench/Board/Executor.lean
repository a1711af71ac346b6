/-
The executor: who runs, and when time passes.

Computing takes no time. Whoever can go on does, the task with the lowest
number first, each until it waits for something that has not come about.
When nobody can go on, the clock moves to the next instant at which
something happens. That may be where it stands already: a timer that was
set to no time at all goes off then, after what else is due.

A call from outside is task 0, the foreground. It is driven until it is
done and nobody else can go on at that instant, or up to a limit; a call
that is not done by then is dropped.
-/
import Uplink.Bench.Board.Answer

namespace Uplink.Bench.Rig

open Board (Job Wait)

variable {α : Type}

-- ================================================================= tasks

/-- What a task waits for. -/
def waitsOf : Proc Board α → List Wait
  | .call (.await alternatives) _ => alternatives
  | _ => []

/-- The rest of a task, if it can go on. -/
def wake (number : Nat) : Proc Board α → Act (Option (Proc Board α))
  | .call (.await alternatives) next => do
    modify fun r => { r with running := number }
    pure ((← poll true alternatives).map next)
  | p => do
    modify fun r => { r with running := number }
    pure (some p)

/-- More rounds than any task goes through without waiting. -/
def roundsAtOnce : Nat := 100

/-- Let a task go on, one round after the other, until it waits. -/
def goOn : (rounds : Nat) → Running → Act Running
  | 0, t => pure t
  | rounds + 1, t => do
    match ← t.rest.advance answer with
    | .inr rest => pure { t with rest }
    | .inl job => goOn rounds (.start job)

/-- Let the first of these tasks go on that can. Answers whether there was
one. -/
def stirFirst : (places : List Nat) → Act Bool
  | [] => pure false
  | place :: rest => do
    match (← get).tasks[place]? with
    | none => pure false
    | some t =>
      match ← wake (place + 1) t.rest with
      | none => stirFirst rest
      | some left =>
        let t ← goOn roundsAtOnce { t with rest := left }
        modify fun r => { r with tasks := r.tasks.set place t }
        pure true

def stir : Act Bool := do
  stirFirst (List.range (← get).tasks.length)

-- ================================================================== time

/-- When something that is waited for can come about by itself. -/
def instantOf (r : Rig) : Wait → Option Nat
  | .timer t => some t.due
  | .moment time => some time
  | .bytes _ => r.serial.nextArrival? r.clock
  | .verdict => r.serial.nextArrival? r.clock
  | .datagram =>
    match r.socket.inbox with
    | (time, _) :: _ => some time
    | [] => none
  | _ => none

/-- The next instant at which something happens. -/
def nextInstant? (r : Rig) (foreground : List Wait) : Option Nat :=
  let waits := foreground ++ r.tasks.flatMap fun t => waitsOf t.rest
  (waits.filterMap r.instantOf ++ r.timeline.map (·.1)).min?

-- =============================================================== driving

/-- Drive a call up to a limit. Answers what it brought, if it was done by
then. `left` bounds the steps of the executor. -/
def drive (limit : Nat) :
    (left : Nat) → α ⊕ Proc Board α → Act (Option α)
  | 0, _ => pure none
  | left + 1, .inl a => do
    if ← stir then drive limit left (.inl a) else pure (some a)
  | left + 1, .inr p => do
    match ← wake 0 p with
    | some p => drive limit left (← p.advance answer)
    | none =>
      if ← stir then drive limit left (.inr p)
      else
        match (← get).nextInstant? (waitsOf p) with
        | some time =>
          if time ≤ limit then
            moveClock time
            drive limit left (.inr p)
          else giveUp
        | none => giveUp
where
  /-- Drop the call at the limit. -/
  giveUp : Act (Option α) := do
    modify fun r =>
      { r with
        clock := limit
        holder := if r.holder = some 0 then none else r.holder }
    pure none

/-- More steps than any trial takes. -/
def stepsAtMost : Nat := 1000000000

/-- How long a call may take, in milliseconds. -/
def callLimit : Nat := 3600000

/-- Drive a call for at most an hour. -/
def call (p : Proc Board α) : Act (Option α) := do
  let r ← get
  drive (r.clock + micros callLimit) stepsAtMost (.inr p)

/-- Let some milliseconds pass, and everything happen that falls into
them: the foreground waits for nothing, and is given up at the end. -/
def sleep (milliseconds : Nat) : Act Unit := do
  let limit := (← get).clock + micros milliseconds
  let _ ← drive limit stepsAtMost (.inr (Board.await []))

end Uplink.Bench.Rig
