/-
What the command channel puts on the line, and what its memory follows.

# Answered commands

`Answered` is about the line alone: a command was put out whole, bytes and
line end, and the answer that was collected next holds the token of
success. Every call of the channel starts with a line of the log or with a
pause, or puts nothing on the line at all. So no command is put together
from the ends of two calls (`answered_append`), and what the line shows of
a command can be told call by call.

# The memory

The channel remembers the mode, and only two commands ever move it: the
escape, where it is acknowledged, and the dial, where it is connected. For
each call of the channel there is one lemma that says which of the two the
line shows, and what is remembered afterwards.
-/
import Uplink.Modem.Channel
import Uplink.Proofs.Contract
import Uplink.Proofs.Transcript

namespace Uplink.Modem

open Proc (Records Shows)

-- ==================================================== answered commands

/-- What a line saw, in order. -/
abbrev Wire : Type :=
  List (Event Serial)

/-- A command goes out whole. -/
def sent (command : String) : Wire :=
  (Channel.pieces command).map (fun piece => ⟨.write piece, true⟩)
    ++ [⟨.flush, true⟩]

/-- An answer is collected in which the token of success stands. -/
def heard (success failure : String) (timeout : Nat)
    (response : Response) : Event Serial :=
  ⟨.listen ⟨success.toList, failure.toList, []⟩ timeout,
    some (.accepted response)⟩

/-- The command went out, and its answer was that it succeeded. -/
def Answered (command success : String) (w : Wire) : Prop :=
  ∃ failure timeout response,
    sent command ++ [heard success failure timeout response] <:+: w

/-- Nothing of a command stands at the start. -/
def Fresh : Wire → Prop
  | [] => True
  | e :: _ => (∃ line, e.call = .log line) ∨ ∃ ms, e.call = .pause ms

/-- Two stretches of a `Wire` that are `Fresh` are so together. -/
theorem Fresh.append {w w' : Wire} (h : Fresh w) (h' : Fresh w') :
    Fresh (w ++ w') := by
  cases w with
  | nil => exact h'
  | cons e rest => exact h

/-- A command is made of writes, one flush and one answer. -/
theorem call_of_mem_sent {command success failure : String}
    {timeout : Nat} {response : Response} {e : Event Serial}
    (he : e ∈ sent command ++ [heard success failure timeout response]) :
    (∀ line, e.call ≠ .log line) ∧ ∀ ms, e.call ≠ .pause ms := by
  unfold sent at he
  rw [List.append_assoc] at he
  rcases List.mem_append.1 he with he | he
  · obtain ⟨piece, -, rfl⟩ := List.mem_map.1 he
    exact ⟨nofun, nofun⟩
  · rcases List.mem_cons.1 he with rfl | he
    · exact ⟨nofun, nofun⟩
    · obtain rfl := List.mem_singleton.1 he
      exact ⟨nofun, nofun⟩

/-- No command is put together from the ends of two calls. -/
theorem answered_append {command success : String} {w w' : Wire}
    (h : Fresh w') :
    Answered command success (w ++ w')
      ↔ Answered command success w ∨ Answered command success w' := by
  constructor
  · intro ha
    obtain ⟨failure, timeout, response, hi⟩ := ha
    rcases List.infix_append_iff.1 hi with hi | hi | ⟨l₁, l₂, hl, h₁, h₂⟩
    · exact .inl ⟨failure, timeout, response, hi⟩
    · exact .inr ⟨failure, timeout, response, hi⟩
    · left
      cases l₂ with
      | nil =>
        rw [List.append_nil] at hl
        exact ⟨failure, timeout, response, hl ▸ h₁.isInfix⟩
      | cons e rest =>
        obtain ⟨rest', rfl⟩ := h₂
        have he : e ∈ l₁ ++ e :: rest := by simp
        rw [← hl] at he
        obtain ⟨hlog, hpause⟩ := call_of_mem_sent he
        rcases h with ⟨line, h⟩ | ⟨ms, h⟩
        · exact absurd h (hlog line)
        · exact absurd h (hpause ms)
  · intro ha
    rcases ha with ⟨f, n, response, hi⟩ | ⟨f, n, response, hi⟩
    · exact ⟨f, n, response, List.infix_append_of_infix_left hi⟩
    · exact ⟨f, n, response, List.infix_append_of_infix_right hi⟩

/-- The answer itself was collected. -/
theorem Answered.mem {command success : String} {w : Wire}
    (h : Answered command success w) :
    ∃ failure timeout response,
      heard success failure timeout response ∈ w := by
  obtain ⟨failure, timeout, response, hi⟩ := h
  exact ⟨failure, timeout, response, hi.subset (by simp)⟩

/-- The bytes of the command went out. -/
theorem Answered.written {command success : String} {w : Wire}
    (h : Answered command success w) :
    ⟨.write command.toUTF8.toList, true⟩ ∈ w := by
  obtain ⟨failure, timeout, response, hi⟩ := h
  refine hi.subset (List.mem_append_left _ (List.mem_append_left _ ?_))
  unfold Channel.pieces
  split
  · exact List.mem_cons_self
  · exact List.mem_cons_self

/-- Where no answer is collected, no command is answered. -/
theorem not_answered {command success : String} {w : Wire}
    (h : ∀ e ∈ w, ∀ collector timeout response,
      e ≠ ⟨.listen collector timeout, some (.accepted response)⟩) :
    ¬Answered command success w := by
  intro ha
  obtain ⟨failure, timeout, response, hm⟩ := ha.mem
  exact h _ hm _ _ _ rfl

-- ========================================================== one exchange

namespace Channel

/-- One call on the serial line leaves the remembered mode alone. -/
theorem shows_ask {call : SerialCall} {mode : Mode}
    {Q : Wire → call.Answer → Mode → Prop} :
    Shows (ask call) mode Q ↔ ∀ r, Q [⟨call, r⟩] r mode :=
  Proc.shows_lift

/-- So it does where a `Contract` binds the line. -/
theorem ensures_ask {σ : Type} {C : Contract Serial σ} {call : SerialCall}
    {mode : Mode} {s : σ} {Q : call.Answer → Mode → σ → Prop} :
    Proc.Ensures C (ask call) mode s Q
      ↔ C.allows call s ∧ ∀ r s', C.moves call s r s' → Q r mode s' := by
  unfold ask
  rw [Proc.ensures_lift, Proc.meets_ask]

/-- Of the pieces, either all go out or not. -/
theorem shows_writeAll (pieces : List (List UInt8)) (mode : Mode) :
    Shows (writeAll pieces) mode fun w went mode' =>
      mode' = mode
        ∧ (∀ e ∈ w, ∃ piece ok, e = ⟨.write piece, ok⟩)
        ∧ (went = true →
          w = pieces.map fun piece => ⟨.write piece, true⟩) := by
  induction pieces with
  | nil => exact ⟨rfl, nofun, fun _ => rfl⟩
  | cons piece rest ih =>
    refine Proc.shows_bind.2 (shows_ask.2 fun ok => ?_)
    cases ok with
    | false =>
      refine Proc.shows_pure.2 ⟨rfl, fun e he => ?_, nofun⟩
      obtain rfl := List.mem_singleton.1 he
      exact ⟨piece, false, rfl⟩
    | true =>
      refine ih.mono fun w went mode' h => ?_
      obtain ⟨hmode, hw, hall⟩ := h
      refine ⟨hmode, fun e he => ?_, fun hwent => ?_⟩
      · rcases List.mem_cons.1 he with rfl | he
        · exact ⟨piece, true, rfl⟩
        · exact hw e he
      · rw [hall hwent]
        rfl

/-- A command goes out whole, with the silence before an escape, or no
answer is waited for. -/
theorem shows_transmit (command : String) (mode : Mode) :
    Shows (transmit command) mode fun w went mode' =>
      mode' = mode
        ∧ (∀ e ∈ w, ∀ collector timeout,
          e.call ≠ .listen collector timeout)
        ∧ (went = true → w = (if command = escapeSequence then
            [⟨.pause escapeGuard, ()⟩] else []) ++ sent command) := by
  -- all that a command has over the others is the guard before an escape
  have rest : Shows (do
      if ← writeAll (pieces command) then ask .flush else pure false)
      mode fun w went mode' =>
        mode' = mode
          ∧ (∀ e ∈ w, ∀ collector timeout,
            e.call ≠ .listen collector timeout)
          ∧ (went = true → w = sent command) := by
    refine Proc.shows_bind.2 ((shows_writeAll _ _).mono
      fun w ok mode' h => ?_)
    obtain ⟨rfl, hw, hall⟩ := h
    have writes (e : Event Serial) (he : e ∈ w) (collector : Collector)
        (timeout : Nat) : e.call ≠ .listen collector timeout := by
      obtain ⟨piece, ok, rfl⟩ := hw e he
      exact nofun
    cases ok with
    | false =>
      refine Proc.shows_pure.2 ⟨rfl, ?_, nofun⟩
      rw [List.append_nil]
      exact writes
    | true =>
      refine shows_ask.2 fun ok => ⟨rfl, fun e he => ?_, fun hok => ?_⟩
      · rcases List.mem_append.1 he with he | he
        · exact writes e he
        · obtain rfl := List.mem_singleton.1 he
          exact nofun
      · rw [hall rfl, hok]
        rfl
  unfold transmit
  by_cases hc : command = escapeSequence
  · rw [if_pos hc]
    refine Proc.shows_bind.2 (shows_ask.2 fun _ => ?_)
    refine rest.mono fun w went mode' h => ?_
    obtain ⟨hmode, hw, hall⟩ := h
    refine ⟨hmode, fun e he => ?_, fun hwent => ?_⟩
    · rcases List.mem_cons.1 he with rfl | he
      · exact nofun
      · exact hw e he
    · rw [hall hwent, if_pos hc]
  · rw [if_neg hc]
    rw [if_neg hc]
    exact rest

/-- What one exchange shows of the two commands that move the memory, and
what it remembers. -/
structure Exchanged (command success : String) (mode : Mode) (w : Wire)
    (r : Except ChannelError Response) (mode' : Mode) : Prop where
  fresh : Fresh w
  remembered : mode'
    = if command = escapeSequence ∧ r.isOk = true then .command else mode
  answered : r.isOk = true → Answered command success w
  dialled : Answered dialCommand "CONNECT" w →
    success = "CONNECT" ∧ r.isOk = true
  escaped : ∀ {token}, Answered escapeSequence token w →
    command = escapeSequence ∧ r.isOk = true

/-- Another command, whose answer stands last, is not taken for an
escape. -/
theorem not_answered_escape {command success failure token : String}
    {timeout : Nat} {response : Response} {first last : Line}
    (hc : command ≠ escapeSequence) :
    ¬Answered escapeSequence token (⟨.log first, ()⟩ :: (sent command
      ++ [heard success failure timeout response, ⟨.log last, ()⟩])) := by
  intro ha
  obtain ⟨f, n, r, hi⟩ := ha
  -- an escape has no line end, and goes out right before its answer
  have hline : escapeSequence.toUTF8.toList ≠ [13] := by decide +kernel
  have hp : pieces command = [command.toUTF8.toList, [13]] := if_neg hc
  have he : pieces escapeSequence = [escapeSequence.toUTF8.toList] :=
    if_pos rfl
  unfold sent heard at hi
  rw [hp, he] at hi
  simp [List.infix_cons_iff] at hi
  exact hline hi.1

/-- Without an answer nothing is shown, and nothing forgotten. -/
theorem exchanged_error {command success : String} {mode : Mode}
    {w : Wire} {e : ChannelError} (hf : Fresh w)
    (hw : ∀ e ∈ w, ∀ collector timeout response,
      e ≠ ⟨.listen collector timeout, some (.accepted response)⟩) :
    Exchanged command success mode w (.error e) mode := by
  refine ⟨hf, ?_, nofun, fun ha => absurd ha (not_answered hw),
    fun ha => absurd ha (not_answered hw)⟩
  exact (if_neg fun h => nomatch h.2).symm

/-- With one, it is that command that was answered. -/
theorem exchanged_ok {command success failure : String} {timeout : Nat}
    {response : Response} {first last : Line} {mode mode' : Mode}
    (hm : mode' = if command = escapeSequence then .command else mode) :
    Exchanged command success mode
      (⟨.log first, ()⟩ :: ((if command = escapeSequence then
        [⟨.pause escapeGuard, ()⟩] else []) ++ sent command
        ++ [heard success failure timeout response, ⟨.log last, ()⟩]))
      (.ok response) mode' := by
  refine ⟨.inl ⟨first, rfl⟩, ?_, fun _ => ?_, fun ha => ⟨?_, rfl⟩,
    fun ha => ⟨?_, rfl⟩⟩
  · by_cases hc : command = escapeSequence
    · rw [hm, if_pos hc, if_pos ⟨hc, rfl⟩]
    · rw [hm, if_neg hc, if_neg fun h => hc h.1]
  · refine ⟨failure, timeout, response, ?_⟩
    refine ⟨⟨.log first, ()⟩ :: (if command = escapeSequence then
      [⟨.pause escapeGuard, ()⟩] else []), [⟨.log last, ()⟩], ?_⟩
    simp [List.append_assoc]
  · -- the one answer in it is to this command
    obtain ⟨f, n, r, hm⟩ := ha.mem
    have hs : "CONNECT".toList = success.toList := by
      by_cases hc : command = escapeSequence <;>
        simp [hc, sent, heard] at hm
      · exact hm.1.1.1
      · exact hm.1.1.1
    exact (String.toList_inj.1 hs).symm
  · by_cases hc : command = escapeSequence
    · exact hc
    · rw [if_neg hc] at ha
      exact absurd ha (not_answered_escape hc)

/-- An `exchange` shows what `Exchanged` lists, and leaves the mode that it
says behind. -/
theorem shows_exchange (command success failure : String) (timeout : Nat)
    (mode : Mode) :
    Shows (exchange command success failure timeout) mode
      (Exchanged command success mode) := by
  refine Proc.shows_bind.2 (shows_ask.2 fun _ => ?_)
  refine Proc.shows_bind.2 ((shows_transmit command mode).mono
    fun w went mode' h => ?_)
  obtain ⟨rfl, hw, hall⟩ := h
  have first : Fresh (⟨.log (.trace ("AT> " ++ command)), ()⟩ :: w) :=
    .inl ⟨_, rfl⟩
  -- nothing before the answer is one, and neither is what is logged of it
  have unanswered (e : Event Serial)
      (he : e ∈ (⟨.log (.trace ("AT> " ++ command)), ()⟩ :: w : Wire))
      (collector : Collector) (timeout : Nat) :
      e.call ≠ .listen collector timeout := by
    rcases List.mem_cons.1 he with rfl | he
    · exact nofun
    · exact hw e he collector timeout
  have none_accepted (w' : Wire) (hw' : ∀ e ∈ w', ∀ collector timeout
      response, e ≠ ⟨.listen collector timeout, some (.accepted response)⟩)
      (e : Event Serial) (he : e ∈ (⟨.log (.trace ("AT> " ++ command)),
        ()⟩ :: w : Wire) ++ w') (collector : Collector) (timeout : Nat)
      (response : Response) :
      e ≠ ⟨.listen collector timeout, some (.accepted response)⟩ := by
    rcases List.mem_append.1 he with he | he
    · rintro rfl
      exact unanswered _ he collector timeout rfl
    · exact hw' e he collector timeout response
  cases went with
  | false =>
    refine Proc.shows_pure.2 (exchanged_error first ?_)
    exact none_accepted [] nofun
  | true =>
    refine Proc.shows_bind.2 (shows_ask.2 fun verdict => ?_)
    rcases verdict with _ | ⟨response⟩ | ⟨response⟩ | _ | _
    · refine Proc.shows_pure.2 (exchanged_error first ?_)
      refine none_accepted _ fun e he => ?_
      obtain rfl := List.mem_singleton.1 he
      exact nofun
    · refine Proc.shows_bind.2 (shows_ask.2 fun _ => ?_)
      rw [hall rfl]
      by_cases hc : command = escapeSequence
      · rw [if_pos hc]
        refine Proc.shows_bind.2 (Proc.shows_set.2 (Proc.shows_pure.2 ?_))
        exact exchanged_ok (if_pos hc).symm
      · rw [if_neg hc]
        exact Proc.shows_pure.2 (exchanged_ok (if_neg hc).symm)
    · refine Proc.shows_bind.2 (shows_ask.2 fun _ =>
        Proc.shows_pure.2 (exchanged_error first ?_))
      refine none_accepted _ fun e he => ?_
      rcases List.mem_cons.1 he with rfl | he
      · exact nofun
      · obtain rfl := List.mem_singleton.1 he
        exact nofun
    · refine Proc.shows_pure.2 (exchanged_error first ?_)
      refine none_accepted _ fun e he => ?_
      obtain rfl := List.mem_singleton.1 he
      exact nofun
    · refine Proc.shows_pure.2 (exchanged_error first ?_)
      refine none_accepted _ fun e he => ?_
      obtain rfl := List.mem_singleton.1 he
      exact nofun

/-- These bytes are put out, or an attempt at it is made. -/
def writes (content : List UInt8) (e : Event Serial) : Prop :=
  e.call = .write content

/-- To write something is to show that it is written. -/
theorem shows_ask_writes (content : List UInt8) (mode : Mode) :
    Shows (ask (.write content)) mode fun w _ _ =>
      ∃ e ∈ w, writes content e :=
  shows_ask.2 fun _ => ⟨_, List.mem_singleton_self _, rfl⟩

/-- Whatever comes of it, a command is put out. -/
theorem shows_transmit_writes (command : String) (mode : Mode) :
    Shows (transmit command) mode fun w _ _ =>
      ∃ e ∈ w, writes command.toUTF8.toList e := by
  have hp : ∃ more, pieces command = command.toUTF8.toList :: more := by
    unfold pieces
    split
    · exact ⟨_, rfl⟩
    · exact ⟨_, rfl⟩
  obtain ⟨more, hp⟩ := hp
  have rest (mode : Mode) : Shows (do
      if ← writeAll (pieces command) then ask .flush else pure false)
      mode fun w _ _ => ∃ e ∈ w, writes command.toUTF8.toList e := by
    rw [hp]
    exact ((shows_ask_writes _ mode).first _).first _
  unfold transmit
  by_cases hc : command = escapeSequence
  · rw [if_pos hc]
    exact Proc.Shows.second (fun _ => rest) _
  · rw [if_neg hc]
    exact rest mode

/-- Reading the quality writes its command on the line. -/
theorem shows_quality_writes (mode : Mode) :
    Shows quality mode fun w _ _ =>
      ∃ e ∈ w, writes "AT+CSQ".toUTF8.toList e := by
  refine Proc.Shows.first ?_ _
  refine Proc.Shows.second (fun _ mode => ?_) _
  exact (shows_transmit_writes "AT+CSQ" mode).first _

-- ============================================================ the calls

/-- Nothing was dialled, and the memory follows the escapes. -/
structure Undialled (mode : Mode) (w : Wire) (mode' : Mode) : Prop where
  fresh : Fresh w
  dialled : ¬Answered dialCommand "CONNECT" w
  escaped : Answered escapeSequence "OK" w → mode' = .command
  kept : ¬Answered escapeSequence "OK" w → mode' = mode

theorem undialled_nil (mode : Mode) : Undialled mode [] mode :=
  ⟨trivial, not_answered nofun, fun ha => absurd ha (not_answered nofun),
    fun _ => rfl⟩

/-- Two stretches in which nothing was dialled are one. -/
theorem Undialled.append {mode mode' mode'' : Mode} {w w' : Wire}
    (h : Undialled mode w mode') (h' : Undialled mode' w' mode'') :
    Undialled mode (w ++ w') mode'' := by
  refine ⟨h.fresh.append h'.fresh, fun hd => ?_, fun he => ?_,
    fun he => ?_⟩
  · rcases (answered_append h'.fresh).1 hd with hd | hd
    · exact h.dialled hd
    · exact h'.dialled hd
  · by_cases he' : Answered escapeSequence "OK" w'
    · exact h'.escaped he'
    · have hw := ((answered_append h'.fresh).1 he).resolve_right he'
      rw [h'.kept he', h.escaped hw]
  · have hboth := not_or.1 fun h => he ((answered_append h'.fresh).2 h)
    rw [h'.kept hboth.2, h.kept hboth.1]

/-- A line of the log or a `pause` is no answer. -/
theorem not_answered_single {e : Event Serial}
    (he : (∃ line, e.call = .log line) ∨ ∃ ms, e.call = .pause ms)
    (command success : String) : ¬Answered command success [e] := by
  intro ha
  obtain ⟨f, n, r, hm⟩ := ha.mem
  rw [List.mem_singleton] at hm
  subst hm
  rcases he with ⟨line, he⟩ | ⟨ms, he⟩ <;> cases he

theorem undialled_single {e : Event Serial} (mode : Mode)
    (he : (∃ line, e.call = .log line) ∨ ∃ ms, e.call = .pause ms) :
    Undialled mode [e] mode :=
  ⟨he, not_answered_single he _ _,
    fun ha => absurd ha (not_answered_single he _ _), fun _ => rfl⟩

/-- An exchange that does not look for a connection dials nothing: from one
mode it stays there, or an escape leads it to command mode. -/
theorem Exchanged.undialled {command success : String} {mode mode' : Mode}
    {w : Wire} {r : Except ChannelError Response}
    (h : Exchanged command success mode w r mode')
    (hs : success ≠ "CONNECT")
    (he : command = escapeSequence → success = "OK") :
    Undialled mode w mode' := by
  refine ⟨h.fresh, fun hd => hs (h.dialled hd).1, fun ha => ?_,
    fun ha => ?_⟩
  · rw [h.remembered, if_pos (h.escaped ha)]
  · rw [h.remembered, if_neg]
    intro hc
    have ha' := h.answered hc.2
    rw [hc.1, he hc.1] at ha'
    exact ha ha'

/-- The escape is remembered if it was acknowledged. -/
theorem shows_exchange_escape (failure : String) (timeout : Nat)
    (mode : Mode) :
    Shows (exchange escapeSequence "OK" failure timeout) mode
      fun w r mode' => Undialled mode w mode'
        ∧ mode' = if r.isOk = true then .command else mode := by
  refine (shows_exchange _ _ _ _ _).mono fun w r mode' h => ?_
  refine ⟨h.undialled (by decide) fun _ => rfl, ?_⟩
  rw [h.remembered]
  by_cases hr : r.isOk = true
  · rw [if_pos hr, if_pos ⟨rfl, hr⟩]
  · rw [if_neg hr, if_neg fun h => hr h.2]

/-- Any other command moves nothing. -/
theorem shows_exchange_other {command success : String}
    (hc : command ≠ escapeSequence) (hs : success ≠ "CONNECT")
    (failure : String) (timeout : Nat) (mode : Mode) :
    Shows (exchange command success failure timeout) mode
      fun w _ mode' => Undialled mode w mode' ∧ mode' = mode := by
  refine (shows_exchange _ _ _ _ _).mono fun w r mode' h => ?_
  refine ⟨h.undialled hs fun h => absurd h hc, ?_⟩
  rw [h.remembered, if_neg fun h => hc h.1]

/-- Logging dials nothing and leaves the mode alone. -/
theorem shows_log (line : Line) (mode : Mode) :
    Shows (log line) mode fun w _ mode' =>
      Undialled mode w mode' ∧ mode' = mode :=
  shows_ask.2 fun _ => ⟨undialled_single mode (.inl ⟨line, rfl⟩), rfl⟩

/-- The log and the pauses answer no command. -/
theorem shows_aside {call : SessionCall} (mode : Mode)
    (hc : (∃ line, call = .log line) ∨ ∃ ms, call = .pause ms) :
    Shows (answer call) mode fun w _ _ =>
      Fresh w ∧ ∀ command success, ¬Answered command success w := by
  rcases hc with ⟨line, rfl⟩ | ⟨ms, rfl⟩
  · exact shows_ask.2 fun _ =>
      ⟨.inl ⟨line, rfl⟩, not_answered_single (.inl ⟨line, rfl⟩)⟩
  · exact shows_ask.2 fun _ =>
      ⟨.inr ⟨clampWait ms, rfl⟩,
        not_answered_single (.inr ⟨clampWait ms, rfl⟩)⟩

/-- Reading the quality does so as well. -/
theorem shows_quality (mode : Mode) :
    Shows quality mode fun w _ mode' =>
      Undialled mode w mode' ∧ mode' = mode := by
  refine Proc.shows_bind.2 ((shows_exchange_other (by decide) (by decide)
    _ _ _).mono fun w r mode' h => ?_)
  cases r with
  | ok response =>
    dsimp only
    split
    · refine Proc.shows_pure.2 ?_
      rw [List.append_nil]
      exact h
    · refine Proc.shows_pure.2 ?_
      rw [List.append_nil]
      exact h
  | error e =>
    refine Proc.shows_pure.2 ?_
    rw [List.append_nil]
    exact h

/-- The call does not move the memory. -/
def plain : SessionCall → Prop
  | .exchange command success .. =>
    command ≠ escapeSequence ∧ success ≠ "CONNECT"
  | .switch _ => False
  | _ => True

/-- So does every call of the channel that is `plain`. -/
theorem shows_plain {call : SessionCall} (hc : plain call) (mode : Mode) :
    Shows (answer call) mode fun w _ mode' =>
      Undialled mode w mode' ∧ mode' = mode := by
  cases call with
  | exchange command success failure timeout =>
    exact shows_exchange_other hc.1 hc.2 _ _ _
  | switch target => exact hc.elim
  | quality => exact shows_quality mode
  | pause ms =>
    exact shows_ask.2 fun _ =>
      ⟨undialled_single mode (.inr ⟨clampWait ms, rfl⟩), rfl⟩
  | log line => exact shows_log line mode

/-- A `switch` to command mode is an escape, if it is anything. -/
theorem shows_switch_command (mode : Mode) :
    Shows (switch .command) mode fun w _ mode' =>
      Undialled mode w mode' := by
  unfold switch
  refine Proc.shows_bind.2 (Proc.shows_get.2 ?_)
  by_cases hm : mode = .command
  · rw [if_pos hm]
    exact Proc.shows_pure.2 (undialled_nil mode)
  · rw [if_neg hm]
    -- the line is hung up only where the escape was answered
    refine Proc.shows_bind.2 ((shows_exchange_escape _ _ _).mono
      fun w r mode' h => ?_)
    obtain ⟨h, hmode⟩ := h
    cases r with
    | ok response =>
      refine Proc.shows_bind.2 ((shows_exchange_other (by decide)
        (by decide) _ _ _).mono fun w' r' mode'' h' => ?_)
      obtain ⟨h', rfl⟩ := h'
      obtain rfl : mode'' = .command := hmode
      cases r' with
      | ok response =>
        refine Proc.shows_bind.2 (Proc.shows_set.2 (Proc.shows_pure.2 ?_))
        rw [List.append_nil, List.append_nil]
        exact h.append h'
      | error e =>
        refine Proc.shows_bind.2 ((shows_log _ _).mono
          fun w'' _ mode h'' => ?_)
        obtain ⟨h'', rfl⟩ := h''
        refine Proc.shows_bind.2 (Proc.shows_set.2 (Proc.shows_pure.2 ?_))
        rw [List.append_nil, List.append_nil]
        exact h.append (h'.append h'')
    | error e =>
      refine Proc.shows_bind.2 ((shows_log _ _).mono
        fun w' _ mode'' h' => Proc.shows_pure.2 ?_)
      rw [List.append_nil]
      exact h.append h'.1

/-- What a `switch` to command mode remembers goes by its answer. -/
theorem shows_switch_command_remembered (mode : Mode) :
    Shows (switch .command) mode fun _ r mode' =>
      mode' = if r.isOk = true then .command else mode := by
  unfold switch
  refine Proc.shows_bind.2 (Proc.shows_get.2 ?_)
  by_cases hm : mode = .command
  · rw [if_pos hm]
    exact Proc.shows_pure.2 hm
  · rw [if_neg hm]
    refine Proc.shows_bind.2 ((shows_exchange_escape _ _ _).mono
      fun w r mode' h => ?_)
    cases r with
    | ok response =>
      refine Proc.shows_bind.2 ((shows_exchange hangUpCommand _ _ _ _).mono
        fun w' r' mode'' _ => ?_)
      cases r' with
      | ok response =>
        exact Proc.shows_bind.2 (Proc.shows_set.2 (Proc.shows_pure.2 rfl))
      | error e =>
        refine Proc.shows_bind.2 (shows_ask.2 fun _ => ?_)
        exact Proc.shows_bind.2 (Proc.shows_set.2 (Proc.shows_pure.2 rfl))
    | error e =>
      exact Proc.shows_bind.2 (shows_ask.2 fun _ =>
        Proc.shows_pure.2 h.2)

/-- A `switch` to data mode is a dial, unless the channel remembers that it
was made. -/
theorem shows_switch_data (mode : Mode) :
    Shows (switch .data) mode fun w r mode' =>
      Fresh w ∧ ¬Answered escapeSequence "OK" w
        ∧ (Answered dialCommand "CONNECT" w
          ↔ mode = .command ∧ r.isOk = true)
        ∧ mode' = if r.isOk = true then .data else mode := by
  unfold switch
  refine Proc.shows_bind.2 (Proc.shows_get.2 ?_)
  -- where data mode is remembered nothing is dialled at all
  by_cases hm : mode = .data
  · rw [if_pos hm]
    refine Proc.shows_pure.2 ⟨trivial, not_answered nofun, ?_, hm⟩
    rw [hm]
    exact ⟨fun hd => absurd hd (not_answered nofun), fun h => nomatch h.1⟩
  · rw [if_neg hm]
    have hm : mode = .command := by
      cases mode with
      | data => exact absurd rfl hm
      | command => rfl
    refine Proc.shows_bind.2 ((shows_exchange _ _ _ _ _).mono
      fun w r mode' h => ?_)
    have unescaped : ¬Answered escapeSequence "OK" w := fun ha =>
      absurd (h.escaped ha).1 (by decide)
    cases r with
    | ok response =>
      refine Proc.shows_bind.2 (Proc.shows_set.2 (Proc.shows_pure.2 ?_))
      rw [List.append_nil, List.append_nil]
      exact ⟨h.fresh, unescaped,
        ⟨fun _ => ⟨hm, rfl⟩, fun _ => h.answered rfl⟩, rfl⟩
    -- a dial that failed was not answered, and its line in the log is no
    -- answer to it either
    | error e =>
      refine Proc.shows_bind.2 (shows_ask.2 fun _ => Proc.shows_pure.2 ?_)
      have logged : Fresh [⟨.log (.warn ("Dial failed: " ++ e.message)),
        ()⟩] := .inl ⟨_, rfl⟩
      have undialled : ¬Answered dialCommand "CONNECT" w := fun hd =>
        nomatch (h.dialled hd).2
      rw [List.append_nil]
      refine ⟨h.fresh.append logged, fun ha => ?_, ⟨fun hd => ?_,
        fun hr => nomatch hr.2⟩, ?_⟩
      · rcases (answered_append logged).1 ha with ha | ha
        · exact unescaped ha
        · exact not_answered_single logged _ _ ha
      · rcases (answered_append logged).1 hd with hd | hd
        · exact absurd hd undialled
        · exact absurd hd (not_answered_single logged _ _)
      · rw [h.remembered, if_neg fun h => nomatch h.2]
        rfl

end Channel

end Uplink.Modem
