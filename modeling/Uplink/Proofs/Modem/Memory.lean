/-
What the channel remembers, over any sequence of calls.

The mode is written in two places, and each call is several exchanges that
can fail at any byte. What it comes to does not depend on any of that: the
channel remembers data mode exactly if the last switch that the line shows
is a dial that was connected, and not an escape that was acknowledged
(`Served.tracked`).

# How a history is given

A `Visit` is one call with what the line saw of it. `Served` has a new
channel serve any calls, one after the other, on any line. What switches
the modem is told by the line alone: a dial counts if CONNECT answered it,
an escape if the token did that its sender asked for, and nothing else
does.
-/
import Uplink.Proofs.History
import Uplink.Proofs.Modem.Wire

namespace Uplink.Modem

open Proc (Runs Shows)

variable {σ : Type} {B : Behaviour Serial σ}

-- ============================================================ histories

/-- A call on the channel, with what the line saw of it. -/
structure Visit where
  call : SessionCall
  before : Mode
  wire : Wire
  answer : call.Answer
  after : Mode

/-- What a channel that was made in command mode served so far, what it
remembers, and where that leaves the line. -/
inductive Served (B : Behaviour Serial σ) : List Visit → Mode → σ → Prop
  | made (s : σ) : Served B [] .command s
  | called {history : List Visit} {mode mode' : Mode} {s s' : σ}
      {call : SessionCall} {w : Wire} {r : call.Answer} :
      Served B history mode s →
      Runs B ((Channel.answer call).run mode) s w (r, mode') s' →
      Served B (history ++ [⟨call, mode, w, r, mode'⟩]) mode' s'

namespace Visit

/-- A switch to data mode dialled, and was connected. -/
def dials (v : Visit) : Prop :=
  v.call = .switch .data ∧ Answered dialCommand "CONNECT" v.wire

/-- An escape was acknowledged, to whoever sent it. -/
def escapes (v : Visit) : Prop :=
  (∃ success failure timeout,
      v.call = .exchange escapeSequence success failure timeout
        ∧ Answered escapeSequence success v.wire)
    ∨ v.call = .switch .command ∧ Answered escapeSequence "OK" v.wire

/-- The modem was switched. -/
def switches (v : Visit) : Prop :=
  v.dials ∨ v.escapes

/-- To have switched to data mode is to have had the dial command answered
with a connection. -/
theorem switches_data {before after : Mode} {w : Wire}
    {r : Except ChannelError Unit} :
    switches ⟨.switch .data, before, w, r, after⟩
      ↔ Answered dialCommand "CONNECT" w := by
  constructor
  · rintro (⟨-, ha⟩ | ⟨_, _, _, hc, -⟩ | ⟨hc, -⟩)
    · exact ha
    · cases hc
    · cases hc
  · exact fun ha => .inl ⟨rfl, ha⟩

/-- To have switched to command mode is to have had the escape
acknowledged. -/
theorem switches_command {before after : Mode} {w : Wire}
    {r : Except ChannelError Unit} :
    switches ⟨.switch .command, before, w, r, after⟩
      ↔ Answered escapeSequence "OK" w := by
  constructor
  · rintro (⟨hc, -⟩ | ⟨_, _, _, hc, -⟩ | ⟨-, ha⟩)
    · cases hc
    · cases hc
    · exact ha
  · exact fun ha => .inr (.inr ⟨rfl, ha⟩)

/-- The memory goes where the modem was switched to. -/
structure Follows (v : Visit) : Prop where
  dialled : v.dials → v.after = .data
  escaped : v.escapes → v.after = .command
  kept : ¬v.switches → v.after = v.before

/-- Data mode is remembered after a connected dial, and where it was with
the modem not switched since. -/
theorem Follows.after_eq_data_iff {v : Visit} (h : v.Follows) :
    v.after = .data ↔ v.dials ∨ v.before = .data ∧ ¬v.switches := by
  by_cases hd : v.dials
  · exact iff_of_true (h.dialled hd) (.inl hd)
  · by_cases he : v.escapes
    · rw [h.escaped he]
      exact iff_of_false nofun fun hn => (hn.resolve_left hd).2 (.inr he)
    · have hn : ¬v.switches := fun hs => hs.elim hd he
      rw [h.kept hn]
      exact ⟨fun hb => .inr ⟨hb, hn⟩, fun hb => (hb.resolve_left hd).1⟩

end Visit

-- ============================================================= each call

namespace Channel

/-- Where the mode holds, the line is left alone. -/
theorem shows_switch_same (mode : Mode) :
    Shows (switch mode) mode fun w r mode' =>
      w = [] ∧ r = .ok () ∧ mode' = mode := by
  unfold switch
  refine Proc.shows_bind.2 (Proc.shows_get.2 ?_)
  rw [if_pos rfl]
  exact Proc.shows_pure.2 ⟨rfl, rfl, rfl⟩

/-- However a `switch` fails, it says no more than which one it was. -/
theorem shows_switch_error (target mode : Mode) :
    Shows (switch target) mode fun _ r _ =>
      ∀ e, r = .error e → e = .modeSwitch target := by
  unfold switch
  refine Proc.shows_bind.2 (Proc.shows_get.2 ?_)
  by_cases hm : mode = target
  · rw [if_pos hm]
    exact Proc.shows_pure.2 nofun
  · rw [if_neg hm]
    cases target with
    | data =>
      refine Proc.shows_bind.2 ((shows_exchange _ _ _ _ _).mono
        fun w r mode' _ => ?_)
      cases r with
      | ok response =>
        exact Proc.shows_bind.2 (Proc.shows_set.2
          (Proc.shows_pure.2 nofun))
      | error e =>
        refine Proc.shows_bind.2 (shows_ask.2 fun _ =>
          Proc.shows_pure.2 ?_)
        rintro _ ⟨⟩
        rfl
    | command =>
      refine Proc.shows_bind.2 ((shows_exchange _ _ _ _ _).mono
        fun w r mode' _ => ?_)
      cases r with
      | ok response =>
        -- whatever the hang-up is answered, it is logged at most
        refine Proc.shows_bind.2 ((shows_exchange _ _ _ _ _).mono
          fun w' r' mode'' _ => ?_)
        cases r' with
        | ok response =>
          exact Proc.shows_bind.2 (Proc.shows_set.2
            (Proc.shows_pure.2 nofun))
        | error e =>
          exact Proc.shows_bind.2 (shows_ask.2 fun _ =>
            Proc.shows_bind.2 (Proc.shows_set.2 (Proc.shows_pure.2 nofun)))
      | error e =>
        refine Proc.shows_bind.2 (shows_ask.2 fun _ =>
          Proc.shows_pure.2 ?_)
        rintro _ ⟨⟩
        rfl

/-- An escape from data mode is acknowledged exactly if the `switch`
succeeds, however the hang-up behind it ends. -/
theorem shows_switch_command_acknowledged :
    Shows (switch .command) .data fun w r _ =>
      r.isOk = true ↔ Answered escapeSequence "OK" w := by
  refine ((shows_switch_command .data).and
    (shows_switch_command_remembered .data)).mono fun w r mode' h => ?_
  obtain ⟨h, hm⟩ := h
  constructor
  · intro hr
    by_contra he
    rw [if_pos hr] at hm
    cases hm.symm.trans (h.kept he)
  · intro he
    by_contra hr
    rw [if_neg hr] at hm
    cases hm.symm.trans (h.escaped he)

end Channel

namespace Visit

open Channel

/-- An `exchange` is followed in the mode it leaves behind: an escape that
is acknowledged leads to command mode, and nothing else changes it. -/
theorem follows_exchange (command success failure : String)
    (timeout : Nat) (mode : Mode) :
    Shows (exchange command success failure timeout) mode
      fun w r mode' => Follows
        ⟨.exchange command success failure timeout, mode, w, r, mode'⟩ := by
  refine (shows_exchange _ _ _ _ _).mono fun w r mode' h => ?_
  refine ⟨fun hd => (nomatch hd.1), fun he => ?_, fun hn => ?_⟩
  · rcases he with ⟨_, _, _, -, ha⟩ | ⟨hc, -⟩
    · exact h.remembered.trans (if_pos (h.escaped ha))
    · cases hc
  · refine h.remembered.trans (if_neg ?_)
    rintro ⟨rfl, hr⟩
    exact hn (.inr (.inl ⟨success, failure, timeout, rfl, h.answered hr⟩))

/-- A `switch` is followed in the mode it leaves behind, which is the
target exactly where the modem went along. -/
theorem follows_switch (target mode : Mode) :
    Shows (switch target) mode fun w r mode' =>
      Follows ⟨.switch target, mode, w, r, mode'⟩ := by
  cases target with
  | data =>
    refine (shows_switch_data mode).mono fun w r mode' h => ?_
    obtain ⟨-, -, hd, hm⟩ := h
    refine ⟨fun h => ?_, fun h => ?_, fun hn => ?_⟩
    · exact hm.trans (if_pos (hd.1 h.2).2)
    · rcases h with ⟨_, _, _, hc, -⟩ | ⟨hc, -⟩ <;> cases hc
    · -- a switch that succeeded without a dial was none
      by_cases hr : r.isOk = true
      · refine (hm.trans (if_pos hr)).trans ?_
        cases mode with
        | data => rfl
        | command => exact absurd ⟨rfl, hd.2 ⟨rfl, hr⟩⟩ fun h => hn (.inl h)
      · exact hm.trans (if_neg hr)
  | command =>
    refine (shows_switch_command mode).mono fun w r mode' h => ?_
    refine ⟨fun h => (nomatch h.1), fun he => ?_, fun hn => ?_⟩
    · rcases he with ⟨_, _, _, hc, -⟩ | ⟨-, ha⟩
      · cases hc
      · exact h.escaped ha
    · exact h.kept fun ha => hn (.inr (.inr ⟨rfl, ha⟩))

/-- So is every call of the channel's interface. -/
theorem follows_answer (call : SessionCall) (mode : Mode) :
    Shows (Channel.answer call) mode fun w r mode' =>
      Follows ⟨call, mode, w, r, mode'⟩ := by
  have aside {call : SessionCall} (hc : plain call)
      (hx : ∀ command success failure timeout,
        call ≠ .exchange command success failure timeout) :
      Shows (Channel.answer call) mode fun w r mode' =>
        Follows ⟨call, mode, w, r, mode'⟩ := by
    refine (shows_plain hc mode).mono fun w r mode' h => ?_
    refine ⟨fun hd => ?_, fun he => ?_, fun _ => h.2⟩
    · obtain ⟨rfl, -⟩ : call = _ ∧ _ := hd
      exact hc.elim
    · rcases he with ⟨_, _, _, he, -⟩ | ⟨he, -⟩
      · exact absurd he (hx _ _ _ _)
      · obtain rfl : call = _ := he
        exact hc.elim
  cases call with
  | exchange command success failure timeout =>
    exact follows_exchange _ _ _ _ _
  | switch target => exact follows_switch target mode
  | quality => exact aside trivial nofun
  | pause ms => exact aside trivial nofun
  | log line => exact aside trivial nofun

/-- What a switch makes of the mode goes by its answer. -/
structure Obeys (target before : Mode) (w : Wire)
    (r : Except ChannelError Unit) (after : Mode) : Prop where
  reached : r = .ok () → after = target
  refused : ∀ e, r = .error e → e = .modeSwitch target ∧ after = before
  /-- where the mode holds, nothing is put out, read or waited for -/
  free : before = target → r = .ok () ∧ w = []
  /-- elsewhere it is up to the modem, and to nothing behind its answer -/
  switched : before ≠ target →
    (r = .ok () ↔ switches ⟨.switch target, before, w, r, after⟩)

/-- What a `switch` from one mode to the other has to show for it. -/
theorem obeys_of_answered {target before after : Mode} {w : Wire}
    {r : Except ChannelError Unit} (hne : before ≠ target)
    (hafter : after = if r.isOk = true then target else before)
    (herror : ∀ e, r = .error e → e = .modeSwitch target)
    (hswitched : r.isOk = true
      ↔ switches ⟨.switch target, before, w, r, after⟩) :
    Obeys target before w r after := by
  have hok : r = .ok () ↔ r.isOk = true := by
    cases r with
    | ok => exact iff_of_true rfl rfl
    | error e => exact iff_of_false nofun nofun
  refine ⟨fun hr => ?_, fun e he => ⟨herror e he, ?_⟩,
    fun h => absurd h hne, fun _ => hok.trans hswitched⟩
  · exact hafter.trans (if_pos (hok.1 hr))
  · rw [he] at hafter
    exact hafter

/-- A switch keeps to what `Visit.Obeys` asks of it, from whichever mode it
starts. -/
theorem obeys_switch (target mode : Mode) :
    Shows (switch target) mode (Obeys target mode) := by
  -- a switch to where the channel is writes nothing
  by_cases hm : mode = target
  · subst hm
    refine (shows_switch_same mode).mono fun w r mode' h => ?_
    obtain ⟨rfl, rfl, rfl⟩ := h
    exact ⟨fun _ => rfl, nofun, fun _ => ⟨rfl, rfl⟩, fun h => absurd rfl h⟩
  · have answered : Shows (switch target) mode fun w r mode' =>
        mode' = (if r.isOk = true then target else mode)
          ∧ (r.isOk = true
            ↔ switches ⟨.switch target, mode, w, r, mode'⟩) := by
      cases target with
      | data =>
        have hc : mode = .command := by
          cases mode with
          | data => exact absurd rfl hm
          | command => rfl
        refine (shows_switch_data mode).mono fun w r mode' h => ?_
        obtain ⟨-, -, hd, hmode⟩ := h
        rw [switches_data, hd]
        exact ⟨hmode, (and_iff_right hc).symm⟩
      | command =>
        obtain rfl : mode = .data := by
          cases mode with
          | data => rfl
          | command => exact absurd rfl hm
        refine ((shows_switch_command_remembered .data).and
          shows_switch_command_acknowledged).mono fun w r mode' h => ?_
        rw [switches_command]
        exact h
    exact ((shows_switch_error target mode).and answered).mono
      fun w r mode' h => obeys_of_answered hm h.2.1 h.1 h.2.2

end Visit

/-- Whatever a channel is called for and whatever its line does (`Served`):
it remembers data mode exactly if the last switch of the modem was a dial
that was connected; and a switch ends in the mode it names or leaves the
mode alone and says which switch failed, is free where the mode holds, and
elsewhere succeeds exactly if its dial or its escape was answered. -/
theorem Served.tracked {history : List Visit} {mode : Mode} {s : σ}
    (h : Served B history mode s) :
    (mode = .data ↔ Latest Visit.switches Visit.dials history)
      ∧ ∀ target before w r after,
        ⟨.switch target, before, w, r, after⟩ ∈ history →
          Visit.Obeys target before w r after := by
  induction h with
  | made s => exact ⟨iff_of_false nofun not_latest_nil, nofun⟩
  | @called history mode mode' s s' call w r _ hr ih =>
    have hv := (Visit.follows_answer call mode).of_runs hr
    obtain ⟨htracked, hobeyed⟩ := ih
    constructor
    · rw [latest_concat, ← htracked]
      exact hv.after_eq_data_iff
    · intro target before w' r' after hmem
      rcases List.mem_append.1 hmem with hmem | hmem
      · exact hobeyed target before w' r' after hmem
      · cases List.mem_singleton.1 hmem
        exact (Visit.obeys_switch target mode).of_runs hr

-- ======================================================== a curt modem

/-- A line on which every command goes out, and every answer is the token
asked for, but that a hang-up is not answered at all. It keeps the command
that it saw last. -/
def curt : (c : SerialCall) → List UInt8 → c.Answer × List UInt8
  | .write content, last => (true, if content = [13] then last else content)
  | .flush, last => (true, last)
  | .listen collector _, last =>
    (if last = hangUpCommand.toUTF8.toList then none
      else some (.accepted (String.ofList collector.success)), last)
  | .pause _, last => ((), last)
  | .log _, last => ((), last)

/-- One call more, answered by a function, is one `Visit` more of the
history. -/
theorem Served.goes_on {answer : (c : SerialCall) → σ → c.Answer × σ}
    {history : List Visit} {mode mode' : Mode} {s s' : σ}
    (h : Served (.of answer) history mode s) (call : SessionCall)
    {r : call.Answer} (hr : ((Channel.answer call).run mode).run answer s
      = ((r, mode'), s')) :
    ∃ w, Served (.of answer) (history ++ [⟨call, mode, w, r, mode'⟩]) mode'
      s' := by
  obtain ⟨w, h'⟩ :=
    Proc.runs_of_answer answer ((Channel.answer call).run mode) s
  rw [hr] at h'
  exact ⟨w, .called h h'⟩

/-- Into data mode, out of it with no answer to the hang-up, and into it
again. -/
theorem Served.tracked_curt :
    ∃ history s w, Served (.of curt) history .data s
      ∧ Latest Visit.switches Visit.dials history
      ∧ ⟨.switch .command, .data, w, .ok (), .command⟩ ∈ history
      ∧ Answered escapeSequence "OK" w := by
  let dialled := dialCommand.toUTF8.toList
  let hungUp := hangUpCommand.toUTF8.toList
  have made : Served (.of curt) [] .command [] := .made []
  have first : ((Channel.answer (.switch .data)).run .command).run curt []
      = ((.ok (), .data), dialled) := by decide +kernel
  have back : ((Channel.answer (.switch .command)).run .data).run curt
      dialled = ((.ok (), .command), hungUp) := by decide +kernel
  have again : ((Channel.answer (.switch .data)).run .command).run curt
      hungUp = ((.ok (), .data), dialled) := by decide +kernel
  obtain ⟨w₁, h₁⟩ := made.goes_on (.switch .data) first
  obtain ⟨w₂, h₂⟩ := h₁.goes_on (.switch .command) back
  obtain ⟨w₃, h₃⟩ := h₂.goes_on (.switch .data) again
  obtain ⟨htracked, hobeyed⟩ := h₃.tracked
  have hmem := List.mem_append_left
    [(⟨.switch .data, .command, w₃, .ok (), .data⟩ : Visit)]
    (List.mem_append_right
      [(⟨.switch .data, .command, w₁, .ok (), .data⟩ : Visit)]
      (List.mem_singleton_self
        (⟨.switch .command, .data, w₂, .ok (), .command⟩ : Visit)))
  have hescaped := (hobeyed _ _ _ _ _ hmem).switched nofun
  exact ⟨_, _, w₂, h₃, htracked.1 rfl, hmem,
    Visit.switches_command.1 (hescaped.1 rfl)⟩

end Uplink.Modem
