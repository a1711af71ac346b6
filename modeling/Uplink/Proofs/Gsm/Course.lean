/-
The documented order of a connection, read off its transcript.

# The steps

Of what the calls of a step answer, `Step.failure` reads whether the step
ends the connection, and with which error. Most steps never do: they are
advisory.

# The verdict

`verdict` is the error of the first step that fails, and success if none
does. It looks at the transcript alone, so it can be compared with what a
connection returns.

`Course` is a transcript that keeps to the order: the part of each step
shows calls of that step only, and nothing follows the part of a step that
fails. Since no two steps that can fail share a call, a step reads the
same off its own part and off the whole, and the result of a course is
the verdict over all of it (`Course.whole`).
-/
import Mathlib.Data.List.Forall2
import Uplink.Proofs.Apn.Strategies
import Uplink.Proofs.Gsm.Steps

namespace Uplink.Gsm

open Manager (unlogged unlogged_append)
open Modem.Reply (Registration)
open Timing

abbrev Transcript : Type :=
  List (Event Surroundings)

/-- The calls of a transcript, but for the log. -/
def Transcript.calls (t : Transcript) : List GsmCall :=
  (unlogged t).map (·.call)

/-- The step that the answer to a call may end. -/
def GsmCall.decides : GsmCall → Option Step
  | modem (.exchange command ..) =>
    if command = "AT" then some .wake
    else if command = "AT+CREG?" then some .registration
    else none
  | modem .quality => some .signal
  | modem (.switch .data) => some .dial
  | awaitEvent _ => some .session
  | record .markConnected => some .session
  | _ => none

-- =========================================================== the answers

namespace Reading

/-- The modem took the command, or followed into the mode. -/
def accepted : Event Surroundings → Option Unit
  | ⟨.modem (.exchange ..), .ok _⟩ => some ()
  | ⟨.modem (.switch _), .ok _⟩ => some ()
  | _ => none

/-- The reading was taken, and there is no signal. -/
def noSignal : Event Surroundings → Bool
  | ⟨.modem .quality, .ok reading⟩ => reading.rssi == 99
  | _ => false

def decision : Event Surroundings → Option Registration
  | ⟨.modem (.exchange ..), .ok response⟩ =>
    (Modem.Reply.registration? response "+CREG:").filter fun state =>
      state.isRegistered || state == .denied
  | _ => none

def acquired : Event Surroundings → Bool
  | ⟨.awaitEvent _, some (.ipAcquired _)⟩ => true
  | _ => false

def confirmed : Event Surroundings → Bool
  | ⟨.record .markConnected, answer⟩ => answer
  | _ => false

end Reading

-- =========================================================== the verdict

/-- The answers that decide whether a step fails. -/
def Transcript.of (t : Transcript) (k : Step) : Transcript :=
  t.filter (·.call.decides = some k)

/-- The error that a decision on registration, or the want of one, ends
the connection with, if it does. -/
def Reading.refusal : Option Registration → Option GsmError
  | none => some .registrationTimeout
  | some .denied => some .registrationDenied
  | some _ => none

/-- The error a step ends the connection with, if it does; `found` says
whether there is an access point once it was looked for. -/
def Step.failure (found : Bool) (t : Transcript) :
    Step → Option GsmError
  | wake =>
    if ((t.of wake).findSome? Reading.accepted).isSome then none
    else some .modemUnresponsive
  | signal =>
    if (t.of signal).any Reading.noSignal then some .noSignal else none
  | registration =>
    Reading.refusal ((t.of registration).findSome? Reading.decision)
  | accessPoint => if found then none else some .apnDetectionFailed
  | dial =>
    if ((t.of dial).findSome? Reading.accepted).isSome then none
    else some .dataModeFailed
  | session =>
    if (t.of session).any Reading.acquired
        && (t.of session).any Reading.confirmed then none
    else some .pppTimeout
  | _ => none

/-- The modem is unresponsive if it took none of the commands to wake
it. -/
theorem Step.failure_wake {found : Bool} {t : Transcript} :
    wake.failure found t
      = if ((t.of wake).findSome? Reading.accepted).isSome then none
        else some .modemUnresponsive :=
  rfl

/-- There is no signal if the reading says so. -/
theorem Step.failure_signal {found : Bool} {t : Transcript} :
    signal.failure found t
      = if (t.of signal).any Reading.noSignal then some .noSignal
        else none :=
  rfl

/-- Registration fails by the first answer that decides, or for want of
one. -/
theorem Step.failure_registration {found : Bool} {t : Transcript} :
    registration.failure found t
      = Reading.refusal
          ((t.of registration).findSome? Reading.decision) :=
  rfl

/-- Data mode fails if the modem took no `dial`. -/
theorem Step.failure_dial {found : Bool} {t : Transcript} :
    dial.failure found t
      = if ((t.of dial).findSome? Reading.accepted).isSome then none
        else some .dataModeFailed :=
  rfl

/-- PPP times out unless an address was acquired and the session
confirmed. -/
theorem Step.failure_session {found : Bool} {t : Transcript} :
    session.failure found t
      = if (t.of session).any Reading.acquired
            && (t.of session).any Reading.confirmed then none
        else some .pppTimeout :=
  rfl

/-- The first failure among these steps, in this order. -/
def verdict (steps : List Step) (found : Bool) (t : Transcript) :
    Except GsmError Unit :=
  match steps.findSome? (Step.failure found t) with
  | none => .ok ()
  | some e => .error e

/-- The steps up to the first that fails. -/
def walked (found : Bool) (t : Transcript) : List Step → List Step
  | [] => []
  | k :: rest =>
    if (k.failure found t).isSome then [k] else k :: walked found t rest

def errorOf {α : Type} : Except GsmError α → Option GsmError
  | .ok _ => none
  | .error e => some e

/-- What is asked for after a failure. -/
def diagnosis : Except GsmError Unit → List GsmCall
  | .error .registrationDenied => [.errorReport]
  | .error .registrationTimeout => [.errorReport]
  | .error .dataModeFailed => [.errorReport]
  | .error .pppTimeout => [.modem (.switch .command), .errorReport]
  | _ => []

-- =============================================================== reading

theorem Transcript.of_append (t t' : Transcript) (k : Step) :
    (t ++ t').of k = t.of k ++ t'.of k :=
  List.filter_append t t'

theorem Transcript.calls_append (t t' : Transcript) :
    Transcript.calls (t ++ t') = t.calls ++ t'.calls := by
  unfold Transcript.calls
  rw [unlogged_append, List.map_append]

/-- The log decides nothing, so what a step reads is there without
it. -/
theorem Transcript.of_unlogged (t : Transcript) (k : Step) :
    Transcript.of (unlogged t) k = t.of k := by
  unfold Transcript.of unlogged
  rw [List.filter_filter]
  refine List.filter_congr fun e _ => ?_
  obtain ⟨call, answer⟩ := e
  cases call with
  | modem call =>
    cases call with
    | log line => rfl
    | exchange | switch | quality | pause => exact Bool.and_true _
  | drive | netif | build | record | awaitEvent | resolve =>
    exact Bool.and_true _

/-- Whether a step fails depends on the answers it reads. -/
theorem Step.failure_congr {found : Bool} {t t' : Transcript} {k : Step}
    (h : t.of k = t'.of k) : k.failure found t = k.failure found t' := by
  cases k with
  | wake => rw [failure_wake, failure_wake, h]
  | signal => rw [failure_signal, failure_signal, h]
  | registration => rw [failure_registration, failure_registration, h]
  | dial => rw [failure_dial, failure_dial, h]
  | session => rw [failure_session, failure_session, h]
  | _ => rfl

/-- `Step.failure` reads a transcript without its log just the same. -/
theorem Step.failure_unlogged (k : Step) (found : Bool) (t : Transcript) :
    k.failure found (unlogged t) = k.failure found t :=
  failure_congr (t.of_unlogged k)

/-- The answer to the definition of the context decides nothing. -/
theorem decides_context (apn : String) (timeout : Nat) :
    (GsmCall.query (Steps.contextCommand apn) timeout).decides = none := by
  simp only [GsmCall.query, GsmCall.decides]
  rw [if_neg (contextCommand_ne (by decide) apn),
    if_neg (contextCommand_ne (by decide) apn)]

/-- A step owns no call that may end another. -/
theorem Step.decides_of_owns {k : Step} {c : GsmCall} (h : k.owns c) :
    c.decides = none ∨ c.decides = some k := by
  cases k with
  | look => subst h; exact .inl rfl
  | escape => rcases h with rfl | rfl <;> exact .inl (by decide)
  | wake => subst h; exact .inr (by decide)
  | signal =>
    rcases h with rfl | rfl
    · exact .inl (by decide)
    · exact .inr rfl
  | sim => subst h; exact .inl (by decide)
  | registration => subst h; exact .inr (by decide)
  | accessPoint =>
    rcases h with rfl | rfl | rfl | rfl | rfl <;> exact .inl (by decide)
  | packetDomain => subst h; exact .inl (by decide)
  | attach => rcases h with rfl | rfl <;> exact .inl (by decide)
  | context =>
    obtain ⟨apn, rfl⟩ := h
    exact .inl (decides_context apn contextTimeout)
  | credentials => obtain ⟨user, password, rfl⟩ := h; exact .inl rfl
  | cleanUp => subst h; exact .inl (by decide)
  | forget => subst h; exact .inl rfl
  | dial => subst h; exact .inr rfl
  | session =>
    rcases h with rfl | ⟨p, s, rfl⟩ | ⟨host, rfl⟩ | rfl
    · exact .inr rfl
    · exact .inl rfl
    · exact .inl rfl
    · exact .inr rfl

def GsmCall.command? : GsmCall → Option String
  | modem (.exchange command ..) => some command
  | _ => none

/-- The request for the reason of a failure is part of no step. -/
theorem Step.not_owns_errorReport (k : Step) : ¬k.owns .errorReport := by
  intro h
  have hc {c : GsmCall} (h : GsmCall.errorReport = c) :
      c.command? = some "AT+CEER" := h ▸ rfl
  cases k with
  | look => cases hc h
  | escape => rcases h with h | h <;> exact absurd (hc h) (by decide)
  | wake => exact absurd (hc h) (by decide)
  | signal => rcases h with h | h <;> exact absurd (hc h) (by decide)
  | sim => exact absurd (hc h) (by decide)
  | registration => exact absurd (hc h) (by decide)
  | accessPoint =>
    rcases h with h | h | h | h | h <;> exact absurd (hc h) (by decide)
  | packetDomain => exact absurd (hc h) (by decide)
  | attach => rcases h with h | h <;> exact absurd (hc h) (by decide)
  | context =>
    obtain ⟨apn, h⟩ := h
    exact contextCommand_ne (by decide) apn (Option.some.inj (hc h))
  | credentials => obtain ⟨user, password, h⟩ := h; cases hc h
  | cleanUp => exact absurd (hc h) (by decide)
  | forget => cases hc h
  | dial => cases hc h
  | session =>
    rcases h with h | ⟨p, s, h⟩ | ⟨host, h⟩ | h <;> cases hc h

theorem GsmCall.decides_of_silent {c : GsmCall} (h : c.silent = true) :
    c.decides = none := by
  cases c with
  | modem c =>
    cases c with
    | log line => rfl
    | pause ms => rfl
    | _ => cases h
  | _ => cases h

theorem GsmCall.silent_of_isLog {c : GsmCall} (h : c.isLog = true) :
    c.silent = true := by
  cases c with
  | modem c =>
    cases c with
    | log line => rfl
    | _ => cases h
  | _ => cases h

/-- The events are those of one step, logging and pausing apart. -/
def Transcript.OwnedBy (t : Transcript) (k : Step) : Prop :=
  ∀ e ∈ t, k.covers e.call

theorem Transcript.ownedBy_nil (k : Step) : OwnedBy [] k :=
  nofun

theorem Transcript.ownedBy_cons {e : Event Surroundings} {t : Transcript}
    {k : Step} :
    OwnedBy (e :: t) k
      ↔ k.covers e.call ∧ t.OwnedBy k :=
  List.forall_mem_cons

theorem Transcript.ownedBy_append {t t' : Transcript} {k : Step} :
    OwnedBy (t ++ t') k ↔ t.OwnedBy k ∧ t'.OwnedBy k :=
  List.forall_mem_append

/-- A step reads nothing off the part of another. -/
theorem Transcript.OwnedBy.of_eq_nil {t : Transcript} {j k : Step}
    (h : t.OwnedBy j) (hjk : j ≠ k) : t.of k = [] := by
  refine List.filter_eq_nil_iff.2 fun e he => ?_
  have hd : e.call.decides = none ∨ e.call.decides = some j := by
    rcases h e he with hs | ho
    · exact .inl (GsmCall.decides_of_silent hs)
    · exact Step.decides_of_owns ho
  rcases hd with hd | hd
  · simp [hd]
  · simp [hd, hjk]

-- =============================================================== courses

/-- A transcript in the parts of these steps, up to the first that fails,
and what the connection comes to. -/
inductive Course (D : Step → Transcript → Prop) (found : Bool) :
    List Step → Transcript → Except GsmError Unit → Prop
  | through : Course D found [] [] (.ok ())
  | passed {k : Step} {ks : List Step} {part rest : Transcript}
      {r : Except GsmError Unit} :
      D k part → k.failure found part = none → Course D found ks rest r →
      Course D found (k :: ks) (part ++ rest) r
  | failed {k : Step} {ks : List Step} {part : Transcript}
      {e : GsmError} :
      D k part → k.failure found part = some e →
      Course D found (k :: ks) part (.error e)

namespace Course

variable {D D' : Step → Transcript → Prop} {found : Bool}
variable {ks : List Step} {t : Transcript} {r : Except GsmError Unit}

/-- A `Course` stays one if less is asked of its parts. -/
theorem mono (h : Course D found ks t r)
    (hD : ∀ k ∈ ks, ∀ part, D k part → D' k part) :
    Course D' found ks t r := by
  induction h with
  | through => exact .through
  | passed hk hf _ ih =>
    refine .passed (hD _ (by simp) _ hk) hf (ih fun k hk => ?_)
    exact hD k (List.mem_cons_of_mem _ hk)
  | failed hk hf => exact .failed (hD _ (by simp) _ hk) hf

/-- A step that was not gone through has decided nothing. -/
theorem of_eq_nil (h : Course D found ks t r)
    (hD : ∀ k ∈ ks, ∀ part, D k part → part.OwnedBy k) {k : Step}
    (hk : k ∉ ks) : t.of k = [] := by
  induction h with
  | through => rfl
  | @passed j ks part rest r hj hf h ih =>
    have hne : k ≠ j := List.ne_of_not_mem_cons hk
    have hks : k ∉ ks := List.not_mem_of_not_mem_cons hk
    rw [Transcript.of_append, (hD j (by simp) part hj).of_eq_nil hne.symm,
      ih (fun k hk => hD k (List.mem_cons_of_mem _ hk)) hks]
    rfl
  | @failed j ks part e hj hf =>
    have hne : k ≠ j := List.ne_of_not_mem_cons hk
    exact (hD j (by simp) part hj).of_eq_nil hne.symm

/-- What comes to pass in the parts is the `verdict` over the whole, and
the parts are those of the steps up to the one that decides; what follows
them is not read. -/
theorem whole (h : Course D found ks t r) (hn : ks.Nodup)
    (hD : ∀ k ∈ ks, ∀ part, D k part → part.OwnedBy k) {coda : Transcript}
    (hcoda : ∀ k, coda.of k = []) (before : Transcript)
    (hbefore : ∀ k ∈ ks, before.of k = []) :
    r = verdict ks found (before ++ t ++ coda)
      ∧ ∃ parts, t = parts.flatten
        ∧ List.Forall₂ D (walked found (before ++ t ++ coda) ks) parts := by
  induction h generalizing before with
  | through => exact ⟨rfl, [], rfl, .nil⟩
  | @passed k ks part rest r hk hf h ih =>
    obtain ⟨hks, hn⟩ := List.nodup_cons.1 hn
    have hD' : ∀ k ∈ ks, ∀ part, D k part → part.OwnedBy k :=
      fun k hk => hD k (List.mem_cons_of_mem _ hk)
    -- no other step shares the deciding calls of this one, so what
    -- decides it in the whole transcript is what did so in its part
    have hread : (before ++ (part ++ rest) ++ coda).of k = part.of k := by
      rw [Transcript.of_append, Transcript.of_append, Transcript.of_append,
        hcoda, hbefore k (by simp), h.of_eq_nil hD' hks]
      simp
    have hnone : k.failure found (before ++ (part ++ rest) ++ coda)
        = none := (Step.failure_congr hread).trans hf
    -- nor did this step make any of the later ones
    have hpart : ∀ j ∈ ks, (before ++ part).of j = [] := by
      intro j hj
      have hjk : k ≠ j := by
        rintro rfl
        exact hks hj
      rw [Transcript.of_append, hbefore j (List.mem_cons_of_mem _ hj),
        (hD k (by simp) part hk).of_eq_nil hjk]
      rfl
    obtain ⟨hr, parts, ht, hparts⟩ := ih hn hD' _ hpart
    rw [List.append_assoc before part rest] at hr hparts
    refine ⟨?_, part :: parts, ?_, ?_⟩
    · rw [hr, verdict, verdict, List.findSome?_cons, hnone]
    · rw [List.flatten_cons, ← ht]
    · rw [walked, hnone]
      exact .cons hk hparts
  | @failed k ks part e hk hf =>
    have hread : (before ++ part ++ coda).of k = part.of k := by
      rw [Transcript.of_append, Transcript.of_append, hcoda,
        hbefore k (by simp)]
      simp
    have hsome : k.failure found (before ++ part ++ coda) = some e :=
      (Step.failure_congr hread).trans hf
    refine ⟨?_, [part], by simp, ?_⟩
    · rw [verdict, List.findSome?_cons, hsome]
    · rw [walked, hsome]
      exact .cons hk .nil

end Course

/-- What `OwnedBy` a step asks for is what the step owns, and nothing
else but pauses. -/
theorem Transcript.OwnedBy.of_mem_calls {t : Transcript} {k : Step}
    (h : t.OwnedBy k) {c : GsmCall} (hc : c ∈ t.calls) : k.covers c := by
  obtain ⟨e, he, rfl⟩ := List.mem_map.1 hc
  exact h e (List.mem_filter.1 he).1

/-- The reason of a failure is asked for in no part of a course. -/
theorem errorReport_not_mem_parts {D : Step → Transcript → Prop}
    (hD : ∀ k part, D k part → part.OwnedBy k) {ks : List Step}
    {parts : List Transcript} (h : List.Forall₂ D ks parts) :
    .errorReport ∉ Transcript.calls parts.flatten := by
  intro hmem
  induction h with
  | nil => cases hmem
  | @cons k part ks parts hk _ ih =>
    rw [List.flatten_cons, Transcript.calls_append] at hmem
    rcases List.mem_append.1 hmem with hpart | hrest
    · rcases (hD k part hk).of_mem_calls hpart with hsilent | howns
      · cases hsilent
      · exact k.not_owns_errorReport howns
    · exact ih hrest

end Uplink.Gsm
