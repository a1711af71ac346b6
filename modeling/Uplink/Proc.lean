/-
Programs that ask their surroundings for things.

Everything the library does to a modem, a clock or an IP stack is written
as a program (`Proc`) over an interface: the list of calls it may make,
and what each call answers. A program is a finite tree. It holds no
state of the outside and starts nothing by itself, so the same program

* runs on a bench, where each call is answered at once (`Proc.run`);
* runs as one of several tasks on a board, where a call may have to wait
  (`Proc.advance` stops in front of a call that is not answered yet and
  hands back the rest of the program);
* is turned into a program over a lower interface (`Proc.within`), as the
  modem's command channel becomes bytes on a serial line;
* is what a statement about *every* modem speaks of: the surroundings are
  a variable, and the program is the thing that stays.

No loop of the library is unbounded here. A program that polls carries
its budget; what has no budget, such as reading until an answer is
complete, is a single call, and the side that owns the bytes folds over
them.
-/
import Uplink.Log

namespace Uplink

/-- The calls a program may make, and the answer each of them gets. -/
structure Interface where
  Call : Type
  Answer : Call → Type

/-- A program over `I` that ends with a value of `α`. -/
inductive Proc (I : Interface) (α : Type) : Type where
  | done (value : α)
  | call (request : I.Call) (next : I.Answer request → Proc I α)

namespace Proc

variable {I J : Interface} {α β γ σ : Type}

-- ========================================================= composition

/-- Run the first program, then the one its value selects. -/
protected def bind : Proc I α → (α → Proc I β) → Proc I β
  | done a, f => f a
  | call c k, f => call c fun r => (k r).bind f

instance : Monad (Proc I) where
  pure := done
  bind := Proc.bind

/-- The program that makes one call and returns its answer. -/
def ask (request : I.Call) : Proc I (I.Answer request) :=
  call request done

@[simp] theorem pure_eq_done (a : α) : (pure a : Proc I α) = done a :=
  rfl

@[simp] theorem done_bind (a : α) (f : α → Proc I β) :
    done a >>= f = f a :=
  rfl

@[simp] theorem call_bind (c : I.Call) (k : I.Answer c → Proc I α)
    (f : α → Proc I β) :
    call c k >>= f = call c fun r => k r >>= f :=
  rfl

@[simp] theorem ask_bind (c : I.Call) (f : I.Answer c → Proc I β) :
    ask c >>= f = call c f :=
  rfl

theorem bind_done (p : Proc I α) : p >>= done = p := by
  induction p with
  | done a => rfl
  | call c k ih => simp [ih]

theorem bind_assoc (p : Proc I α) (f : α → Proc I β) (g : β → Proc I γ) :
    p >>= f >>= g = p >>= fun a => f a >>= g := by
  induction p with
  | done a => rfl
  | call c k ih => simp [ih]

instance : LawfulMonad (Proc I) :=
  LawfulMonad.mk' _ bind_done (fun _ _ => rfl) bind_assoc

-- ============================================================== running

/-- Answer every call in the monad `m`. -/
def within {m : Type → Type} [Monad m]
    (answer : (c : I.Call) → m (I.Answer c)) : Proc I α → m α
  | done a => pure a
  | call c k => do (k (← answer c)).within answer

/-- Run to the end against surroundings that answer at once. -/
def run (answer : (c : I.Call) → σ → I.Answer c × σ) :
    Proc I α → σ → α × σ
  | done a, s => (a, s)
  | call c k, s =>
    let (r, s) := answer c s
    (k r).run answer s

/-- Run up to the first call that is not answered yet. What is left is
the program from that call on, so that it can be asked again. -/
def advance (answer : (c : I.Call) → σ → Option (I.Answer c) × σ) :
    Proc I α → σ → (α ⊕ Proc I α) × σ
  | done a, s => (.inl a, s)
  | call c k, s =>
    match answer c s with
    | (some r, s) => (k r).advance answer s
    | (none, s) => (.inr (call c k), s)

@[simp] theorem run_done (answer : (c : I.Call) → σ → I.Answer c × σ)
    (a : α) (s : σ) : (done a).run answer s = (a, s) :=
  rfl

@[simp] theorem run_call (answer : (c : I.Call) → σ → I.Answer c × σ)
    (c : I.Call) (k : I.Answer c → Proc I α) (s : σ) :
    (call c k).run answer s = (k (answer c s).1).run answer (answer c s).2 :=
  rfl

theorem run_bind (answer : (c : I.Call) → σ → I.Answer c × σ)
    (p : Proc I α) (f : α → Proc I β) (s : σ) :
    (p >>= f).run answer s
      = (f (p.run answer s).1).run answer (p.run answer s).2 := by
  induction p generalizing s with
  | done a => rfl
  | call c k ih => simp [ih]

end Proc

end Uplink
