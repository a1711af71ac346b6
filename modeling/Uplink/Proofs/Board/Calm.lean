/-
Programs of the board that leave the hand-over alone.

Most of what a task does is neither about the two signals nor about where
a session begins and ends. These programs may wait, for anything but the
end of a session, and they stay calm when they are given a limit, or given
up for another reason: one alternative more at each of its waits is all
that this does to a program. Nearly all of them are aloof besides: they
change nothing of what is known of a session.
-/
import Uplink.Board.Ppp
import Uplink.Proofs.Board.Tasks

namespace Uplink.Board

open Proc (Asks Runs asks_ask asks_bind runs_call_iff runs_done_iff)

variable {α β : Type} {guard : Wait} {p : Proc Board α}

/-- There is an answer to every call. -/
instance (c : Call) : Inhabited c.Answer :=
  match c with
  | .log _ => ⟨()⟩
  | .now => ⟨(0 : UInt64)⟩
  | .timer _ => ⟨(⟨0, 0⟩ : Timer)⟩
  | .await _ => ⟨(0 : Nat)⟩
  | .shared a => ⟨(({} : Shared).apply a).value.1⟩
  | .line call =>
    match call with
    | .attach _ | .consume .. => ⟨()⟩
    | .isSpent _ | .flush | .listen _ => ⟨false⟩
    | .write _ => ⟨(none : Option Nat)⟩
    | .peek _ | .read .. => ⟨(none : Option (List UInt8))⟩
    | .verdict => ⟨(none : Option Modem.Verdict)⟩
  | .stack _ call =>
    match call with
    | .configure _ | .receive _ => ⟨()⟩
    | .config => ⟨(none : Option StackConfig)⟩
    | .resolve _ => ⟨(⟨.never, none⟩ : Pending (Option (List Net.Address)))⟩
    | .bind _ | .send .. => ⟨false⟩
    | .received => ⟨(.error .fault : Except ReceiveFault Time.Delivery)⟩
  | .wifi call =>
    match call with
    | .configure .. => ⟨(.ok () : Except WifiFault Unit)⟩
    | .start | .connect =>
      ⟨(⟨.never, .ok ()⟩ : Pending (Except WifiFault Unit))⟩
    | .join => ⟨()⟩
    | .isConnected => ⟨false⟩
  | .session call =>
    match call with
    | .start _ => ⟨([] : List SessionStep)⟩
    | .takeEnd => ⟨(none : Option SessionError)⟩
    | .up | .received _ | .ended | .stopped => ⟨()⟩
  | .drive .. => ⟨()⟩
  | .setUp call =>
    match call with
    | .random => ⟨(0 : UInt32)⟩
    | .radio | .wifi | .line _ => ⟨false⟩
    | .network .. | .wire .. | .claim _ | .drive _ => ⟨()⟩
  | .spawn _ => ⟨()⟩

/-- The program makes `calm` calls only. -/
def Calm (p : Proc Board α) : Prop :=
  p.Asks Call.calm

/-- An access that is not to a signal is `Calm`. -/
theorem calm_shared {a : Shared.Access} (h : a.signals = false) :
    Calm (shared a) :=
  asks_ask.2 h

/-- The access changes what is known of a session: who hears of it, and
its address. -/
def Shared.Access.binds : Access → Bool
  | listen _ => true
  | setPeer _ => true
  | takePeer => true
  | record .markConnected => true
  | record .markDisconnected => true
  | ipAcquired _ => true
  | ipLost => true
  | _ => false

/-- The access leaves the credentials of the sessions to come as they
are. -/
def Shared.Access.keyless : Access → Bool
  | setCredentials _ => false
  | _ => true

/-- The call is `calm`, and changes nothing of what is known of a
session. -/
def Call.aloof : Call → Prop
  | shared a => a.signals = false ∧ a.binds = false
  | c => c.calm

theorem Call.calm_of_aloof {c : Call} (h : c.aloof) : c.calm := by
  cases c with
  | shared a => exact h.1
  | _ => exact h

/-- The program makes `aloof` calls only. -/
def Aloof (p : Proc Board α) : Prop :=
  p.Asks Call.aloof

/-- Aloof programs are `Calm`. -/
theorem Aloof.calm (h : Aloof p) : Calm p :=
  Proc.Asks.mono h fun _ => Call.calm_of_aloof

/-- An access is `Aloof` if it neither signals nor `binds`. -/
theorem aloof_shared {a : Shared.Access} (hs : a.signals = false)
    (hb : a.binds = false) : Aloof (shared a) :=
  asks_ask.2 ⟨hs, hb⟩

theorem aloof_awaitOne {w : Wait} (h : w ≠ .stopped) :
    Aloof (awaitOne w) := by
  refine asks_bind (asks_ask.2 fun hw => ?_) fun _ => trivial
  exact h (List.mem_singleton.1 hw).symm

theorem aloof_pause (milliseconds : Nat) : Aloof (pause milliseconds) :=
  asks_bind (asks_ask.2 trivial) fun _ => aloof_awaitOne nofun

theorem aloof_settle (pending : Pending α) : Aloof pending.settle := by
  unfold Pending.settle
  split
  · trivial
  · exact asks_bind (aloof_awaitOne nofun) fun _ => trivial
  · exact asks_bind (asks_ask.2 nofun) fun _ => trivial

-- ============================================================= guards

/-- Only waits are guarded. -/
theorem race_call {c : Call} (hc : c.waits = false)
    (next : c.Answer → Proc Board α) :
    race guard (.call c next)
      = .call c fun answer => race guard (next answer) := by
  cases c with
  | await => cases hc
  | _ => rfl

/-- A guard does not interfere with a call that does not wait. -/
theorem preempt_call {c : Call} (hc : c.waits = false)
    (next : c.Answer → Proc Board α) :
    preempt guard (.call c next)
      = .call c fun answer => preempt guard (next answer) := by
  cases c with
  | await => cases hc
  | _ => rfl

/-- A guard adds nothing but an alternative to each wait. -/
theorem asks_race {P : Call → Prop}
    (hP : ∀ waits, P (.await waits) → P (.await (waits ++ [guard])))
    (h : p.Asks P) : (race guard p).Asks P := by
  induction p with
  | done a => trivial
  | call c k ih =>
    obtain ⟨hc, hk⟩ := h
    by_cases hw : c.waits = false
    · rw [race_call hw]
      exact ⟨hc, fun r => ih r (hk r)⟩
    · cases c with
      | await waits =>
        refine ⟨hP waits hc, fun place => ?_⟩
        show Proc.Stays _ (if place < waits.length then _ else _) _
        split
        · exact ih place (hk place)
        · trivial
      | _ => exact absurd rfl hw

/-- Under a guard a program asks for what it asked for, where its waits may
have the guard put first. -/
theorem asks_preempt {P : Call → Prop}
    (hP : ∀ waits, P (.await waits) → P (.await (guard :: waits)))
    (h : p.Asks P) : (preempt guard p).Asks P := by
  induction p with
  | done a => trivial
  | call c k ih =>
    obtain ⟨hc, hk⟩ := h
    by_cases hw : c.waits = false
    · rw [preempt_call hw]
      exact ⟨hc, fun r => ih r (hk r)⟩
    · cases c with
      | await waits =>
        rw [preempt]
        refine ⟨hP waits hc, fun place => ?_⟩
        cases place with
        | zero => trivial
        | succ place => exact ih place (hk place)
      | _ => exact absurd rfl hw

/-- A guard goes through a program as it goes through its parts. -/
theorem race_bind {guard : Wait} (p : Proc Board α)
    (f : α → Proc Board β) :
    race guard (p >>= f)
      = race guard p >>= fun r =>
          r.elim (pure none) fun a => race guard (f a) := by
  induction p with
  | done a => rfl
  | call c k ih =>
    rw [Proc.call_bind]
    by_cases hw : c.waits = false
    · rw [race_call hw, race_call hw, Proc.call_bind]
      congr 1
      funext r
      exact ih r
    · cases c with
      | await waits =>
        show Proc.call _ _ = Proc.call _ _
        congr 1
        funext place
        show (if place < waits.length then _ else _)
          = (if place < waits.length then _ else _) >>= _
        split
        · exact ih place
        · rfl
      | _ => exact absurd rfl hw

/-- A `race` goes through a call that does not wait. -/
theorem race_ask_bind {guard : Wait} {c : Call} (hc : c.waits = false)
    (f : c.Answer → Proc Board α) :
    race guard (ask c >>= f)
      = Proc.call c fun answer => race guard (f answer) :=
  race_call hc _

/-- A program that comes to its end under a guard does so without. -/
theorem runs_race {σ : Type} {B : Behaviour Board σ}
    (hB : ∀ waits s place s', place < waits.length →
      B (.await (waits ++ [guard])) s place s' →
      B (.await waits) s place s')
    {s s' : σ} {t : List (Event Board)} {a : α}
    (h : Runs B (race guard p) s t (some a) s') :
    ∃ t', Runs B p s t' a s' ∧ ∀ e ∈ t', e.call.waits = false → e ∈ t := by
  induction p generalizing s t with
  | done b =>
    rw [race] at h
    obtain ⟨rfl, hb, rfl⟩ := runs_done_iff.1 h
    cases hb
    exact ⟨[], .done a _, fun _ he => absurd he List.not_mem_nil⟩
  | call c k ih =>
    by_cases hw : c.waits = false
    · rw [race_call hw] at h
      obtain ⟨r, s₁, t₁, rfl, hr, hnext⟩ := runs_call_iff.1 h
      obtain ⟨t', hruns, hmem⟩ := ih r hnext
      refine ⟨_, .call hr hruns, fun e he hw' => ?_⟩
      rcases List.mem_cons.1 he with rfl | he
      · exact List.mem_cons_self
      · exact List.mem_cons_of_mem _ (hmem e he hw')
    · cases c with
      | await waits =>
        obtain ⟨place, s₁, t₁, rfl, hr, hnext⟩ := runs_call_iff.1 h
        -- the guard is the last to be waited for: had it ended the wait,
        -- there would be no answer
        by_cases hplace : place < waits.length
        · rw [if_pos hplace] at hnext
          obtain ⟨t', hruns, hmem⟩ := ih place hnext
          refine ⟨_, .call (hB _ _ _ _ hplace hr) hruns, fun e he hw' => ?_⟩
          rcases List.mem_cons.1 he with rfl | he
          · cases hw'
          · exact List.mem_cons_of_mem _ (hmem e he hw')
        · rw [if_neg hplace] at hnext
          cases (runs_done_iff.1 hnext).2.1
      | _ => exact absurd rfl hw

/-- And where a program can come to its end, it can do so under a guard. -/
theorem exists_runs_race {σ : Type} {B : Behaviour Board σ} (guard : Wait)
    (hB : ∀ waits s place s', B (.await waits) s place s' →
      place < waits.length ∧ B (.await (waits ++ [guard])) s place s')
    {s s' : σ} {t : List (Event Board)} {a : α} (h : Runs B p s t a s') :
    ∃ t', Runs B (race guard p) s t' (some a) s' := by
  induction h with
  | done a s =>
    rw [race]
    exact ⟨[], .done _ _⟩
  | @call c k s s₁ s' r t a hr _ ih =>
    obtain ⟨t', hruns⟩ := ih
    by_cases hw : c.waits = false
    · rw [race_call hw]
      exact ⟨_, .call hr hruns⟩
    · cases c with
      | await waits =>
        obtain ⟨hplace, hr⟩ := hB waits s r s₁ hr
        refine ⟨_, runs_call_iff.2 ⟨r, s₁, t', rfl, hr, ?_⟩⟩
        rw [if_pos hplace]
        exact hruns
      | _ => exact absurd rfl hw

theorem aloof_race (hg : guard ≠ .stopped) (h : Aloof p) :
    Aloof (race guard p) := by
  refine asks_race (fun waits hc hm => ?_) h
  rcases List.mem_append.1 hm with hm | hm
  · exact hc hm
  · exact hg (List.mem_singleton.1 hm).symm

theorem aloof_limit (milliseconds : Nat) (h : Aloof p) :
    Aloof (limit milliseconds p) :=
  asks_bind (asks_ask.2 trivial) fun _ => aloof_race nofun h

-- ================================================================ the line

/-- Bytes are put out. -/
def Call.puts : Call → Prop
  | await waits => waits = [.turn]
  | line (.write _) => True
  | line .flush => True
  | _ => False

/-- A side takes bytes from its port. -/
def Call.takes (side : Side) : Call → Prop
  | await waits => waits = [.turn] ∨ waits = [.bytes side]
  | line (.isSpent s) => s = side
  | line (.read s _) => s = side
  | _ => False

theorem Call.aloof_of_puts {c : Call} (hc : c.puts) : c.aloof := by
  cases c with
  | await waits =>
    obtain rfl : waits = [.turn] := hc
    exact fun h => nomatch List.mem_singleton.1 h
  | line => trivial
  | _ => exact hc.elim

theorem Call.aloof_of_takes {side : Side} {c : Call}
    (hc : c.takes side) : c.aloof := by
  cases c with
  | await waits =>
    rcases (hc : waits = [.turn] ∨ waits = [.bytes side]) with rfl | rfl
    · exact fun h => nomatch List.mem_singleton.1 h
    · exact fun h => nomatch List.mem_singleton.1 h
  | line => trivial
  | _ => exact hc.elim

namespace Line

/-- All that `writeAll` asks for is to put bytes out. -/
theorem asks_writeAll (left : Nat) (content : List UInt8) :
    (writeAll left content).Asks Call.puts := by
  induction left generalizing content with
  | zero =>
    cases content with
    | nil => trivial
    | cons => trivial
  | succ left ih =>
    cases content with
    | nil => trivial
    | cons b rest =>
      have written : (write (b :: rest)).Asks Call.puts :=
        asks_bind (asks_bind (asks_ask.2 rfl) fun _ => trivial)
          fun _ => asks_ask.2 trivial
      refine asks_bind written fun count => ?_
      cases count with
      | none => trivial
      | some count => exact ih _

theorem asks_flush : flush.Asks Call.puts :=
  asks_bind (asks_bind (asks_ask.2 rfl) fun _ => trivial)
    fun _ => asks_ask.2 trivial

/-- All that a `read` asks for is to take bytes from its side. -/
theorem asks_read (side : Side) (most : Nat) :
    (read side most).Asks (Call.takes side) := by
  have filled : (fill side).Asks (Call.takes side) := by
    refine asks_bind (asks_ask.2 rfl) fun spent => ?_
    cases spent with
    | true =>
      exact asks_bind (asks_bind (asks_ask.2 (.inl rfl)) fun _ => trivial)
        fun _ => asks_bind (asks_ask.2 (.inr rfl)) fun _ => trivial
    | false => trivial
  exact asks_bind filled fun _ => asks_ask.2 rfl

theorem aloof_listen (collector : Modem.Collector) :
    Aloof (listen collector) := by
  refine asks_bind (asks_ask.2 trivial) fun settled => ?_
  cases settled with
  | true => exact asks_ask.2 trivial
  | false =>
    exact asks_bind (aloof_awaitOne nofun) fun _ =>
      asks_bind (aloof_awaitOne nofun) fun _ => asks_ask.2 trivial

/-- The command channel uses the line and nothing else. -/
theorem aloof_answer (call : Modem.SerialCall) :
    Aloof (answer call) := by
  cases call with
  | write content =>
    exact (asks_writeAll _ _).mono fun _ => Call.aloof_of_puts
  | flush => exact asks_flush.mono fun _ => Call.aloof_of_puts
  | listen collector timeout =>
    exact asks_bind (aloof_limit _ (aloof_listen _)) fun _ => trivial
  | pause milliseconds => exact aloof_pause _
  | log line => exact asks_ask.2 trivial

end Line

-- =============================================================== sessions

/-- What a PPP session asks for once it has begun. On the line it keeps to
its own side, and the next session is not its matter. -/
def Call.ofSession : Call → Prop
  | log _ => True
  | timer _ => True
  | await waits =>
    .stopped ∉ waits ∧ .verdict ∉ waits ∧ .bytes .command ∉ waits
  | shared a => a.signals = false ∧ a.keyless = true
  | line (.isSpent side) => side = .session
  | line (.read side _) => side = .session
  | line (.write _) => True
  | line .flush => True
  | stack _ (.configure _) => True
  | session .up => True
  | session (.received _) => True
  | session .takeEnd => True
  | _ => False

namespace Call

variable {c : Call}

theorem ofSession_of_puts (hc : c.puts) : c.ofSession := by
  cases c with
  | await waits =>
    obtain rfl : waits = [.turn] := hc
    simp [ofSession]
  | line call =>
    cases call with
    | write => trivial
    | flush => trivial
    | _ => exact hc.elim
  | _ => exact hc.elim

theorem ofSession_of_takes (hc : c.takes .session) : c.ofSession := by
  cases c with
  | await waits =>
    rcases (hc : waits = [.turn] ∨ waits = [.bytes .session])
      with rfl | rfl
    · simp [ofSession]
    · simp [ofSession]
  | line call =>
    cases call with
    | isSpent => exact hc
    | read => exact hc
    | _ => exact hc.elim
  | _ => exact hc.elim

/-- What a session asks for is `calm`. -/
theorem calm_of_session (hc : c.ofSession) : c.calm := by
  cases c with
  | await waits => exact hc.1
  | shared a => exact hc.1
  | session call =>
    cases call with
    | start => exact hc
    | ended => exact hc
    | stopped => exact hc
    | _ => trivial
  | _ => trivial

end Call

namespace Ppp

/-- What is asked for when a session comes up: a line of the log, a
configuration of the stack, and accesses to no signal and to no
credentials. -/
theorem asks_onUp {P : Call → Prop} (hlog : ∀ line, P (.log line))
    (hstack : ∀ config, P (.stack .ppp (.configure config)))
    (hshared : ∀ a : Shared.Access, a.signals = false →
      a.keyless = true → P (.shared a))
    (address peer : Option Net.Address) :
    (onUp address peer).Asks P := by
  unfold onUp
  split
  · exact asks_ask.2 (hlog _)
  · refine asks_bind (asks_ask.2 (hstack _)) fun _ => ?_
    refine asks_bind (asks_ask.2 (hshared _ rfl rfl)) fun _ => ?_
    refine asks_bind (asks_ask.2 (hshared _ rfl rfl)) fun listening => ?_
    cases listening with
    | true => exact asks_ask.2 (hshared _ rfl rfl)
    | false => trivial

theorem asks_send (content : List UInt8) :
    (send content).Asks Call.puts := by
  refine asks_bind (Line.asks_writeAll _ _) fun sent => ?_
  cases sent with
  | true => exact Line.asks_flush
  | false => trivial

theorem asks_follow (steps : List SessionStep) :
    (follow steps).Asks Call.ofSession := by
  induction steps with
  | nil =>
    exact asks_bind (asks_ask.2 ⟨nofun, nofun, nofun⟩) fun _ => trivial
  | cons step rest ih =>
    cases step with
    | wait milliseconds =>
      refine asks_bind (asks_ask.2 trivial) fun timer => ?_
      refine asks_bind (asks_bind (asks_ask.2 ?_) fun _ => trivial)
        fun _ => ih
      simp [Call.ofSession]
    | up address peer =>
      refine asks_bind (asks_ask.2 trivial) fun _ => ?_
      refine asks_bind (asks_onUp ?_ ?_ ?_ address peer) fun _ => ih
      · exact fun _ => trivial
      · exact fun _ => trivial
      · exact fun _ ha hk => ⟨ha, hk⟩
    | send content =>
      refine asks_bind ((asks_send _).mono
        fun _ => Call.ofSession_of_puts) fun sent => ?_
      cases sent with
      | true => exact ih
      | false => trivial
    | receive most =>
      refine asks_bind ((Line.asks_read _ _).mono
        fun _ => Call.ofSession_of_takes) fun received => ?_
      cases received with
      | none => trivial
      | some content => exact asks_bind (asks_ask.2 trivial) fun _ => ih
    | finish e => trivial

theorem asks_goThrough (steps : List SessionStep) :
    (goThrough steps).Asks Call.ofSession := by
  have guarded (waits : List Wait) (h : (Call.await waits).ofSession) :
      (Call.await (.sessionEnd :: waits)).ofSession := by
    simpa [Call.ofSession] using h
  refine asks_bind (asks_preempt guarded (asks_follow steps)) fun e => ?_
  rcases e with _ | _ | e
  · exact asks_bind (asks_ask.2 trivial) fun _ => trivial
  · exact asks_bind (asks_ask.2 trivial) fun _ => trivial
  · trivial

/-- What a session does leaves the hand-over alone; where it begins and
ends is not its matter. -/
theorem calm_goThrough (steps : List SessionStep) :
    Calm (goThrough steps) :=
  (asks_goThrough steps).mono fun _ => Call.calm_of_session

/-- Nobody waits while the stack is told that the session is over. -/
theorem asks_onEnd {P : Call → Prop}
    (hstack : P (.stack .ppp (.configure none)))
    (hshared : ∀ a : Shared.Access, a.signals = false →
      a.keyless = true → P (.shared a)) :
    onEnd.Asks P := by
  refine asks_bind (asks_ask.2 hstack) fun _ => ?_
  refine asks_bind (asks_ask.2 (hshared _ rfl rfl)) fun before => ?_
  refine asks_bind (asks_ask.2 (hshared _ rfl rfl)) fun listening => ?_
  cases listening with
  | false => trivial
  | true =>
    cases before with
    | none => trivial
    | some info => exact asks_ask.2 (hshared _ rfl rfl)

-- ========================================================= the interface

/-- To set resolvers (`setDns`) is to look at the peer and to configure the
stack. -/
theorem asks_setDns {P : Call → Prop} (hpeer : P (.shared .peer))
    (hstack : ∀ config, P (.stack .ppp (.configure config)))
    (primary secondary : Net.Address) :
    (setDns primary secondary).Asks P := by
  refine asks_bind (asks_ask.2 hpeer) fun peer => ?_
  cases peer with
  | none => trivial
  | some info => exact asks_bind (asks_ask.2 (hstack _)) fun _ => trivial

theorem aloof_setDns (primary secondary : Net.Address) :
    Aloof (setDns primary secondary) :=
  asks_setDns ⟨rfl, rfl⟩ (fun _ => trivial) primary secondary

/-- To set credentials (`setAuth`) is at most one access. -/
theorem asks_setAuth {P : Call → Prop}
    (hshared : ∀ credentials, P (.shared (.setCredentials credentials)))
    (username password : String) :
    (setAuth username password).Asks P := by
  unfold setAuth
  split
  · trivial
  · exact asks_bind (asks_ask.2 (hshared _)) fun _ => trivial

/-- To set credentials is `Aloof`, as they are only of use to a session to
come. -/
theorem aloof_setAuth (username password : String) :
    Aloof (setAuth username password) :=
  asks_setAuth (fun _ => ⟨rfl, rfl⟩) username password

theorem aloof_resolve (host : String) : Aloof (resolve host) := by
  refine asks_bind (asks_ask.2 trivial) fun pending => ?_
  refine asks_bind (aloof_settle pending) fun found => ?_
  split
  · trivial
  · trivial

end Ppp

end Uplink.Board
