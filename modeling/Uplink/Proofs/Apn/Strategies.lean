/-
Which strategy finds the access point, and what is asked for on the way.

# What a strategy does

`Strategy.Goes` says of each strategy what it shows, command by command,
and what it offers on the strength of the answers. The log is left out;
the pauses are not. How a strategy goes on is decided by what it was
answered so far, so no transcript can be read in two ways
(`Strategy.Goes.unique`).

# What a search does

A `Search` is the strategies in their order, up to the first whose offer
fits: a name that is not empty and not too long. It is put together from
what its strategies show and from nothing else, and reads a transcript in
one way only as well. What a search ends with is the offer that won, as
it was made, or that there was none (`Outcome`).

What the directory offers always fits, its names as well as its
credentials, and so does a guess. What the modem offers may be too long,
and then it is passed over like nothing.
-/
import Mathlib.Data.Option.Basic
import Uplink.Proofs.Apn.Search

namespace Uplink.Apn

open Modem (Session SessionCall Response ChannelError)
open Proc (Records records_ask records_bind records_done)

-- ============================================================== offers

/-- What a strategy comes up with: a name, and the credentials for it. -/
structure Offer where
  apn : String
  username : String
  password : String

namespace Offer

/-- A name alone. -/
def ofName (apn : String) : Offer :=
  ⟨apn, "", ""⟩

def ofRecord (r : Record) : Offer :=
  ⟨r.apn, r.username, r.password⟩

/-- The name can be taken. -/
def Fits (o : Offer) : Prop :=
  o.apn ≠ "" ∧ o.apn.utf8ByteSize ≤ nameCapacity

/-- The credentials can be taken. -/
def Short (o : Offer) : Prop :=
  o.username.utf8ByteSize ≤ credentialCapacity
    ∧ o.password.utf8ByteSize ≤ credentialCapacity

/-- What there is to be accepted of an offer. -/
def candidate? (o : Offer) : Option Candidate :=
  (Bounded.ofString? nameCapacity o.apn).map fun apn =>
    ⟨apn, o.username, o.password⟩

end Offer

-- ============================================================== events

/-- What a command was answered. -/
abbrev Reply : Type :=
  Except ChannelError Response

/-- What can be read off an answer, if there is one. -/
def Reply.read (reply : Reply) (reader : Response → Option String) :
    Option String :=
  reply.toOption.bind reader

def answered (command : String) (timeout : Nat) (reply : Reply) :
    Event Session :=
  ⟨.exchange command "OK" "ERROR" timeout, reply⟩

/-- The first context is emptied. -/
def clearing : Reply → Event Session :=
  answered "AT+CGDCONT=1,\"IP\",\"\"" contextSetTimeout

/-- The contexts are listed. -/
def listing : Reply → Event Session :=
  answered "AT+CGDCONT?" contextReadTimeout

/-- The identity of the subscriber is asked for. -/
def identifying : Reply → Event Session :=
  answered "AT+CIMI" identityTimeout

/-- The SIM is given some time. -/
def settling : Event Session :=
  ⟨.pause identityPause, ()⟩

/-- The operator is to be given as a number. -/
def formatting : Reply → Event Session :=
  answered "AT+COPS=3,2" operatorTimeout

/-- The operator is asked for. -/
def naming : Reply → Event Session :=
  answered "AT+COPS?" operatorTimeout

def isLog : SessionCall → Bool
  | .log _ => true
  | _ => false

/-- A transcript but for the log. -/
def unlogged (t : List (Event Session)) : List (Event Session) :=
  t.filter fun e => !isLog e.call

theorem unlogged_append (t t' : List (Event Session)) :
    unlogged (t ++ t') = unlogged t ++ unlogged t' :=
  List.filter_append t t'

-- ========================================================== strategies

/-- What a strategy shows, and what it offers. The identity is asked for
until it is given, and three times at most. -/
inductive Strategy.Goes (guesses : List Name) :
    Strategy → List (Event Session) → Option Offer → Prop
  | refused (e : ChannelError) :
      Goes guesses moduleAutoDetect [clearing (.error e)] none
  | cleared (response : Response) (reply : Reply) :
      Goes guesses moduleAutoDetect
        [clearing (.ok response), listing reply]
        ((reply.read Modem.Reply.firstContextName?).map .ofName)
  | listed (reply : Reply) :
      Goes guesses simRead [listing reply]
        ((reply.read Modem.Reply.anyContextName?).map .ofName)
  | identified {earlier : List Reply} {last : Reply} :
      (∀ reply ∈ earlier, reply.read Modem.Reply.identity? = none) →
      earlier.length < identityAttempts →
      (last.read Modem.Reply.identity? = none →
        earlier.length + 1 = identityAttempts) →
      Goes guesses imsiLookup
        ((earlier.flatMap fun reply => [identifying reply, settling])
          ++ [identifying last])
        (((last.read Modem.Reply.identity?).bind lookUpSubscriber?).map
          .ofRecord)
  | named (format reply : Reply) :
      Goes guesses operatorLookup [formatting format, naming reply]
        (((reply.read Modem.Reply.operatorCode?).bind lookUpNetwork?).map
          .ofRecord)
  | guessed :
      Goes guesses genericFallback []
        ((guesses.find? (!·.isEmpty)).map fun name => .ofName name.text)

variable {guesses : List Name} {k : Strategy}
variable {part part' rest rest' t : List (Event Session)}
variable {o o' : Option Offer}

/-- Speaking is logged and nothing else. -/
theorem records_speak_unlogged {α : Type} (spoken : Spoken α) :
    (Session.speak spoken).Records fun t a =>
      unlogged t = [] ∧ a = spoken.value := by
  obtain ⟨a, lines⟩ := spoken
  induction lines with
  | nil => exact records_done.2 ⟨rfl, rfl⟩
  | cons line rest ih =>
    rw [Gsm.Step.speak_cons]
    exact records_bind.2 (records_ask.2 fun _ => ih)

/-- What a strategy finds is what it offers, unless that is too long. -/
def Finds (guesses : List Name) (k : Strategy)
    (t : List (Event Session)) (found : Option Candidate) : Prop :=
  ∃ o, k.Goes guesses (unlogged t) o ∧ found = o.bind Offer.candidate?

/-- Whatever the directory has is offered, once the key was logged. -/
theorem records_lookUp (line : Line) (found : Option Record) :
    (Session.log line >>= fun _ =>
      match found with
      | none => pure none
      | some r => Session.speak (Candidate.ofRecord? r)
      : Proc Session (Option Candidate)).Records fun t a =>
        unlogged t = []
          ∧ a = (found.map Offer.ofRecord).bind Offer.candidate? := by
  refine records_bind.2 (records_ask.2 fun _ => ?_)
  cases found with
  | none => exact records_done.2 ⟨rfl, rfl⟩
  | some r => exact records_speak_unlogged _

/-- What the modem names is the offer of a name without credentials. -/
theorem bind_bare (name : Option String) :
    name.bind Candidate.bare?
      = (name.map Offer.ofName).bind Offer.candidate? := by
  cases name <;> rfl

/-- One request for the identity settles the matter if it is given. -/
theorem records_askIdentity (number : Nat) (known : Unit) :
    (askIdentity number known).Records fun t r =>
      ∃ reply : Reply, unlogged t = [identifying reply]
        ∧ reply.read Modem.Reply.identity? = r.toOption := by
  refine records_bind.2 (records_ask.2 fun reply => ?_)
  cases reply with
  | error e =>
    exact records_bind.2 (records_ask.2 fun _ =>
      records_done.2 ⟨.error e, rfl, rfl⟩)
  | ok response =>
    dsimp only
    split
    next identity h => exact records_done.2 ⟨.ok response, rfl, h⟩
    next h =>
      exact records_bind.2 (records_ask.2 fun _ =>
        records_done.2 ⟨.ok response, rfl, h⟩)

/-- Emptying the first context and listing what the modem put there is the
first strategy, and finds what `Finds` says. -/
theorem records_moduleAutoDetect (guesses : List Name) :
    moduleAutoDetect.Records (Finds guesses .moduleAutoDetect) := by
  refine records_bind.2 (records_ask.2 fun reply => ?_)
  cases reply with
  | error e =>
    exact records_bind.2 (records_ask.2 fun _ =>
      records_done.2 ⟨none, .refused e, rfl⟩)
  | ok response =>
    refine records_bind.2 (records_ask.2 fun reply => ?_)
    have goes : Strategy.Goes guesses _ _ _ := .cleared response reply
    cases reply with
    | error e => exact records_done.2 ⟨_, goes, rfl⟩
    | ok contexts => exact records_done.2 ⟨_, goes, bind_bare _⟩

/-- Listing the contexts that the SIM came with is the second. -/
theorem records_simRead (guesses : List Name) :
    simRead.Records (Finds guesses .simRead) := by
  refine records_bind.2 (records_ask.2 fun reply => ?_)
  have goes : Strategy.Goes guesses _ _ _ := .listed reply
  cases reply with
  | error e =>
    exact records_bind.2 (records_ask.2 fun _ =>
      records_done.2 ⟨_, goes, rfl⟩)
  | ok response => exact records_done.2 ⟨_, goes, bind_bare _⟩

/-- Asking for the subscriber's identity, up to three times, and looking
its network up in the directory is the third. -/
theorem records_imsiLookup (guesses : List Name) :
    imsiLookup.Records (Finds guesses .imsiLookup) := by
  refine records_bind.2 ((Proc.records_retry_spaced (!isLog ·)
    (fun reply => [identifying reply]) settling
    (Reply.read · Modem.Reply.identity?) records_askIdentity
    (fun _ => records_ask.2 fun _ => rfl) 2 1 ()).mono fun t r h => ?_)
  obtain ⟨earlier, last, ht, hnone, hlast, hle, hall⟩ := h
  have ht : unlogged t
      = (earlier.flatMap fun reply => [identifying reply, settling])
        ++ [identifying last] := ht
  have goes : Strategy.Goes guesses _ _ _ := .identified hnone
    (Nat.lt_succ_of_le hle) fun h => congrArg (· + 1) (hall h)
  rw [← ht, hlast] at goes
  cases r with
  | error => exact records_done.2 ⟨_, (List.append_nil t).symm ▸ goes, rfl⟩
  | ok identity =>
    refine (records_lookUp _ _).mono fun t' found h => ?_
    obtain ⟨ht', rfl⟩ := h
    refine ⟨_, ?_, rfl⟩
    rw [unlogged_append, ht', List.append_nil]
    exact goes

/-- Asking for the operator as a number and looking that up is the
fourth. -/
theorem records_operatorLookup (guesses : List Name) :
    operatorLookup.Records (Finds guesses .operatorLookup) := by
  refine records_bind.2 (records_ask.2 fun format => ?_)
  have named (reply : Reply) : Strategy.Goes guesses _ _ _ :=
    .named format reply
  -- whether the format was taken only decides whether that is logged
  cases format
  case' error e => refine records_bind.2 (records_ask.2 fun _ => ?_)
  all_goals
    refine records_bind.2 (records_ask.2 fun reply => ?_)
    have goes := named reply
    cases reply with
    | error e => exact records_done.2 ⟨_, goes, rfl⟩
    | ok response =>
      have hread : Reply.read (.ok response) Modem.Reply.operatorCode?
          = Modem.Reply.operatorCode? response := rfl
      rw [hread] at goes
      dsimp only
      split
      next hnone =>
        rw [hnone] at goes
        exact records_done.2 ⟨_, goes, rfl⟩
      next code hsome =>
        rw [hsome] at goes
        refine (records_lookUp _ _).mono fun t' found h => ?_
        obtain ⟨ht', rfl⟩ := h
        refine ⟨_, ?_, rfl⟩
        simp only [unlogged_append, ht', List.append_nil]
        exact goes

/-- Taking the first guess that is not empty is the last, and asks for
nothing. -/
theorem records_genericFallback (guesses : List Name) :
    (genericFallback guesses).Records (Finds guesses .genericFallback) := by
  unfold genericFallback
  have goes : Strategy.Goes guesses _ _ _ := .guessed
  split
  next hnone =>
    rw [hnone] at goes
    exact records_done.2 ⟨_, goes, rfl⟩
  next apn hsome =>
    rw [hsome] at goes
    exact records_bind.2 (records_ask.2 fun _ =>
      records_done.2 ⟨_, goes, rfl⟩)

/-- Each strategy of `Strategy.find` goes as `Strategy.Goes` lists it, and
finds what it offers. -/
theorem records_find (guesses : List Name) (k : Strategy) :
    (k.find guesses).Records (Finds guesses k) := by
  cases k with
  | moduleAutoDetect => exact records_moduleAutoDetect guesses
  | simRead => exact records_simRead guesses
  | imsiLookup => exact records_imsiLookup guesses
  | operatorLookup => exact records_operatorLookup guesses
  | genericFallback => exact records_genericFallback guesses

-- ============================================================ uniqueness

theorem identifying_inj {reply reply' : Reply}
    (h : identifying reply = identifying reply') : reply = reply' := by
  cases h
  rfl

/-- Where a row of requests ends can be told from the answers: at the
first that gives the identity, or when there have been enough. -/
theorem requests_unique {n : Nat} {earlier earlier' : List Reply}
    {last last' : Reply}
    (hnone : ∀ reply ∈ earlier, reply.read Modem.Reply.identity? = none)
    (hle : earlier.length ≤ n)
    (hall : last.read Modem.Reply.identity? = none → earlier.length = n)
    (hnone' : ∀ reply ∈ earlier', reply.read Modem.Reply.identity? = none)
    (hle' : earlier'.length ≤ n)
    (hall' : last'.read Modem.Reply.identity? = none →
      earlier'.length = n)
    (he : (earlier.flatMap fun reply => [identifying reply, settling])
        ++ identifying last :: rest
      = (earlier'.flatMap fun reply => [identifying reply, settling])
        ++ identifying last' :: rest') : last = last' ∧ rest = rest' := by
  -- both lists end with the first answer that can be read, or together
  -- when the requests are used up
  induction earlier generalizing earlier' n with
  | nil =>
    cases earlier' with
    | nil =>
      obtain ⟨hlast, hrest⟩ := List.cons.inj he
      exact ⟨identifying_inj hlast, hrest⟩
    | cons reply earlier' =>
      obtain rfl := identifying_inj (List.cons.inj he).1
      have hn := hall (hnone' last (by simp))
      rw [← hn] at hle'
      exact absurd hle' (Nat.not_succ_le_zero _)
  | cons reply earlier ih =>
    cases earlier' with
    | nil =>
      obtain rfl := identifying_inj (List.cons.inj he).1
      have hn := hall' (hnone reply (by simp))
      rw [← hn] at hle
      exact absurd hle (Nat.not_succ_le_zero _)
    | cons reply' earlier' =>
      have hrest := (List.cons.inj (List.cons.inj he).2).2
      cases n with
      | zero => exact absurd hle (Nat.not_succ_le_zero _)
      | succ n =>
        refine ih (fun r hr => hnone r (List.mem_cons_of_mem _ hr))
          (Nat.le_of_succ_le_succ hle) (fun h => Nat.succ.inj (hall h))
          (fun r hr => hnone' r (List.mem_cons_of_mem _ hr))
          (Nat.le_of_succ_le_succ hle') (fun h => Nat.succ.inj (hall' h))
          hrest

/-- What a strategy shows can be read in one way only, whatever comes
after it. -/
theorem Strategy.Goes.unique (h : k.Goes guesses part o)
    (h' : k.Goes guesses part' o') (he : part ++ rest = part' ++ rest') :
    o = o' ∧ rest = rest' := by
  cases h with
  | refused e =>
    cases h' with
    | refused e' => exact ⟨rfl, (List.cons.inj he).2⟩
    | cleared => cases (List.cons.inj he).1
  | cleared response reply =>
    cases h' with
    | refused => cases (List.cons.inj he).1
    | cleared =>
      cases he
      exact ⟨rfl, rfl⟩
  | listed reply =>
    cases h' with
    | listed =>
      cases he
      exact ⟨rfl, rfl⟩
  -- the requests are repeated until one is answered, so their number is
  -- not fixed by the form alone
  | identified hnone hle hall =>
    cases h' with
    | identified hnone' hle' hall' =>
      simp only [List.append_assoc, List.singleton_append] at he
      obtain ⟨rfl, hrest⟩ := requests_unique hnone
        (Nat.le_of_lt_succ hle) (fun h => Nat.succ.inj (hall h)) hnone'
        (Nat.le_of_lt_succ hle') (fun h => Nat.succ.inj (hall' h)) he
      exact ⟨rfl, hrest⟩
  | named format reply =>
    cases h' with
    | named =>
      cases he
      exact ⟨rfl, rfl⟩
  | guessed =>
    cases h' with
    | guessed => exact ⟨rfl, he⟩

-- ========================================================== what fits

instance : DecidablePred Offer.Fits :=
  fun _ => inferInstanceAs (Decidable (_ ∧ _))

instance : DecidablePred Offer.Short :=
  fun _ => inferInstanceAs (Decidable (_ ∧ _))

/-- Whatever the `directory` has can be taken as it is. -/
theorem fits_of_mem_directory {r : Record} (h : r ∈ directory) :
    (Offer.ofRecord r).Fits ∧ (Offer.ofRecord r).Short := by
  have hall : ∀ r ∈ directory,
      (Offer.ofRecord r).Fits ∧ (Offer.ofRecord r).Short := by
    decide +kernel
  exact hall r h

/-- What is found for a network is in the `directory`. -/
theorem mem_of_lookUpNetwork {id : String} {r : Record}
    (h : lookUpNetwork? id = some r) : r ∈ directory := by
  unfold lookUpNetwork? at h
  split at h
  · rcases (Option.orElse_eq_some _ _ _).1 h with h | ⟨-, h⟩
    · exact List.mem_of_find?_eq_some h
    · exact List.mem_of_find?_eq_some h
  · cases h

/-- What is found for a subscriber is in the `directory`. -/
theorem mem_of_lookUpSubscriber {identity : String} {r : Record}
    (h : lookUpSubscriber? identity = some r) : r ∈ directory := by
  unfold lookUpSubscriber? at h
  dsimp only at h
  split at h
  · split at h
    · exact mem_of_lookUpNetwork h
    · rcases (Option.orElse_eq_some _ _ _).1 h with h | ⟨-, h⟩
      · exact mem_of_lookUpNetwork h
      · exact mem_of_lookUpNetwork h
  · cases h

variable {offer : Offer}

/-- Only what the modem itself calls a context may be too long. -/
theorem Strategy.Goes.fits (h : k.Goes guesses part (some offer))
    (hk : k ≠ .moduleAutoDetect ∧ k ≠ .simRead) : offer.Fits := by
  generalize ho : some offer = o at h
  cases h with
  | refused | cleared => exact absurd rfl hk.1
  | listed => exact absurd rfl hk.2
  | identified =>
    obtain ⟨r, hr, rfl⟩ := Option.map_eq_some_iff.1 ho.symm
    obtain ⟨identity, -, hr⟩ := Option.bind_eq_some_iff.1 hr
    exact (fits_of_mem_directory (mem_of_lookUpSubscriber hr)).1
  | named =>
    obtain ⟨r, hr, rfl⟩ := Option.map_eq_some_iff.1 ho.symm
    obtain ⟨code, -, hr⟩ := Option.bind_eq_some_iff.1 hr
    exact (fits_of_mem_directory (mem_of_lookUpNetwork hr)).1
  | guessed =>
    obtain ⟨name, hname, rfl⟩ := Option.map_eq_some_iff.1 ho.symm
    have hne : name.isEmpty = false := by
      simpa using List.find?_some hname
    refine ⟨fun he => ?_, name.fits⟩
    have := String.isEmpty_iff.2 he
    exact absurd (hne.symm.trans this) nofun

theorem Offer.short_ofName (apn : String) : (ofName apn).Short :=
  ⟨Nat.zero_le _, Nat.zero_le _⟩

/-- The credentials of every offer are short enough to be kept. -/
theorem Strategy.Goes.short (h : k.Goes guesses part (some offer)) :
    offer.Short := by
  generalize ho : some offer = o at h
  cases h with
  | refused => cases ho
  | cleared | listed | guessed =>
    obtain ⟨name, -, rfl⟩ := Option.map_eq_some_iff.1 ho.symm
    exact Offer.short_ofName _
  | identified =>
    obtain ⟨r, hr, rfl⟩ := Option.map_eq_some_iff.1 ho.symm
    obtain ⟨identity, -, hr⟩ := Option.bind_eq_some_iff.1 hr
    exact (fits_of_mem_directory (mem_of_lookUpSubscriber hr)).2
  | named =>
    obtain ⟨r, hr, rfl⟩ := Option.map_eq_some_iff.1 ho.symm
    obtain ⟨code, -, hr⟩ := Option.bind_eq_some_iff.1 hr
    exact (fits_of_mem_directory (mem_of_lookUpNetwork hr)).2

/-- Guesses are only of no use where none of them has a name. -/
theorem guesses_empty_iff :
    (∀ offer, (guesses.find? (!·.isEmpty)).map
        (fun name => Offer.ofName name.text) = some offer → ¬offer.Fits)
      ↔ ∀ name ∈ guesses, name.isEmpty = true := by
  cases hfind : guesses.find? (!·.isEmpty) with
  | none =>
    refine iff_of_true nofun fun name hname => ?_
    simpa using List.find?_eq_none.1 hfind name hname
  | some name =>
    have goes : Strategy.Goes guesses _ _ _ := .guessed
    rw [hfind] at goes
    refine iff_of_false (fun h => h _ rfl (goes.fits (by decide))) ?_
    intro hempty
    have hne := List.find?_some hfind
    rw [hempty name (List.mem_of_find?_eq_some hfind)] at hne
    cases hne

-- ============================================================ searches

/-- The strategies in this order, up to the first whose offer `Fits`: what
they show, and which one it was. -/
inductive Search (guesses : List Name) : List Strategy →
    List (Event Session) → Option (Strategy × Offer) → Prop
  | exhausted : Search guesses [] [] none
  | won {k : Strategy} {ks : List Strategy} {part : List (Event Session)}
      {offer : Offer} :
      k.Goes guesses part (some offer) → offer.Fits →
      Search guesses (k :: ks) part (some (k, offer))
  | passed {k : Strategy} {ks : List Strategy}
      {part rest : List (Event Session)} {o : Option Offer}
      {winner : Option (Strategy × Offer)} :
      k.Goes guesses part o → (∀ offer, o = some offer → ¬offer.Fits) →
      Search guesses ks rest winner →
      Search guesses (k :: ks) (part ++ rest) winner

variable {ks ks' : List Strategy}
variable {winner winner' : Option (Strategy × Offer)}

/-- What a `Search` shows says who won, whatever comes after it. -/
theorem Search.unique {t' : List (Event Session)}
    (h : Search guesses ks t winner) (h' : Search guesses ks t' winner')
    (he : t ++ rest = t' ++ rest') : winner = winner' ∧ rest = rest' := by
  induction h generalizing t' with
  | exhausted =>
    cases h' with
    | exhausted => exact ⟨rfl, he⟩
  | won hk hfits =>
    cases h' with
    | won hk' hfits' =>
      obtain ⟨ho, hrest⟩ := hk.unique hk' he
      rw [Option.some.inj ho]
      exact ⟨rfl, hrest⟩
    | passed hk' hnone _ =>
      rw [List.append_assoc] at he
      obtain ⟨rfl, -⟩ := hk.unique hk' he
      exact absurd hfits (hnone _ rfl)
  | passed hk hnone _ ih =>
    rw [List.append_assoc] at he
    cases h' with
    | won hk' hfits =>
      obtain ⟨rfl, -⟩ := hk.unique hk' he
      exact absurd hfits (hnone _ rfl)
    | passed hk' _ h' =>
      rw [List.append_assoc] at he
      exact ih h' (hk.unique hk' he).2

/-- A `Search` goes on where the one before it was in vain. -/
theorem Search.append {first second : List (Event Session)}
    (h : Search guesses ks first none)
    (h' : Search guesses ks' second winner) :
    Search guesses (ks ++ ks') (first ++ second) winner := by
  generalize hnone : (none : Option (Strategy × Offer)) = w at h
  induction h with
  | exhausted => exact h'
  | won => cases hnone
  | passed hk hno _ ih =>
    rw [List.append_assoc]
    exact .passed hk hno (ih hnone)

/-- A `Search` in vain was in vain up to any of its strategies, and from
there on. -/
theorem Search.split (h : Search guesses (ks ++ ks') t none) :
    ∃ first second, t = first ++ second
      ∧ Search guesses ks first none ∧ Search guesses ks' second none := by
  induction ks generalizing t with
  | nil => exact ⟨[], t, rfl, .exhausted, h⟩
  | cons k ks ih =>
    cases h with
    | passed hk hno h =>
      obtain ⟨first, second, rfl, h₁, h₂⟩ := ih h
      exact ⟨_, second, (List.append_assoc ..).symm,
        .passed hk hno h₁, h₂⟩

/-- The guesses come last, and nothing is asked for them: a `Search` is in
vain where one through the others is, and there is nothing to guess. -/
theorem Search.exhausted_iff :
    Search guesses Strategy.all t none
      ↔ Search guesses Strategy.all.dropLast t none
        ∧ ∀ name ∈ guesses, name.isEmpty = true := by
  constructor
  · intro h
    have h : Search guesses
        (Strategy.all.dropLast ++ [.genericFallback]) t none := h
    obtain ⟨first, second, rfl, hothers, hguess⟩ := h.split
    cases hguess with
    | passed hk hnone hover =>
      cases hover
      cases hk
      rw [List.append_nil, List.append_nil]
      exact ⟨hothers, guesses_empty_iff.1 hnone⟩
  · rintro ⟨h, hempty⟩
    have guess : Search guesses [.genericFallback] ([] ++ []) none :=
      .passed .guessed (guesses_empty_iff.2 hempty) .exhausted
    have hall := h.append guess
    rw [List.append_nil, List.append_nil] at hall
    exact hall

/-- The strategy was reached there, and offered this. -/
def Offered (guesses : List Name) (t : List (Event Session))
    (k : Strategy) (offer : Offer) : Prop :=
  ∃ before after first part rest, Strategy.all = before ++ k :: after
    ∧ t = first ++ (part ++ rest) ∧ Search guesses before first none
    ∧ k.Goes guesses part (some offer)

/-- What is offered and `Fits` wins, and is the last thing asked for. -/
theorem Offered.wins (h : Offered guesses t k offer) (hfits : offer.Fits)
    (hs : Search guesses Strategy.all t winner) :
    winner = some (k, offer) := by
  obtain ⟨before, after, first, part, rest, hall, rfl, hbefore, hk⟩ := h
  have hwon : Search guesses (before ++ k :: after) (first ++ part)
      (some (k, offer)) := hbefore.append (.won hk hfits)
  have he : first ++ (part ++ rest) ++ [] = first ++ part ++ rest := by
    simp
  rw [hall] at hs
  exact (hs.unique hwon he).1

-- =========================================================== detection

/-- What a search ends with: the offer that won, as it was made, or else
what there was before. -/
def Outcome (c : Chosen) (x : Except DetectionError Source × Chosen) :
    Option (Strategy × Offer) → Prop
  | none => x = (.error .exhausted, c)
  | some (k, offer) =>
    x.1 = .ok k.source ∧ x.2.source = some k.source
      ∧ x.2.apn.text = offer.apn ∧ x.2.username.text = offer.username
      ∧ x.2.password.text = offer.password

/-- An offer that `Fits` is taken as it is. -/
theorem accept_offer (c : Chosen) (hfits : offer.Fits)
    (hshort : offer.Short) (source : Source) :
    ∃ found chosen, offer.candidate? = some found
      ∧ c.accept found.apn.text found.username found.password source
        = pure (true, chosen)
      ∧ chosen.source = some source ∧ chosen.apn.text = offer.apn
      ∧ chosen.username.text = offer.username
      ∧ chosen.password.text = offer.password := by
  obtain ⟨apn, username, password⟩ := offer
  have hne : (⟨apn, hfits.2⟩ : Name).text ≠ "" := hfits.1
  refine ⟨⟨⟨apn, hfits.2⟩, username, password⟩, _, ?_,
    accept_whole c hne ⟨username, hshort.1⟩ ⟨password, hshort.2⟩ source,
    rfl, rfl, rfl, rfl⟩
  exact congrArg (Option.map _) (dif_pos hfits.2)

/-- An offer that does not fit comes to nothing. -/
theorem accept_misfit (c : Chosen) (hfits : ¬offer.Fits)
    {found : Candidate} (hfound : offer.candidate? = some found)
    (source : Source) :
    c.accept found.apn.text found.username found.password source
      = pure (false, c) := by
  obtain ⟨apn, hapn, rfl⟩ := Option.map_eq_some_iff.1 hfound
  unfold Bounded.ofString? at hapn
  split at hapn
  next hsize =>
    cases hapn
    have hempty : offer.apn = "" :=
      Decidable.byContradiction fun hne => hfits ⟨hne, hsize⟩
    dsimp only
    rw [hempty]
    exact accept_nameless c _ _ source
  · cases hapn

/-- Trying some strategies is a `Search` through these, and ends with its
`Outcome`. -/
theorem records_searched (guesses : List Name) (c : Chosen)
    (ks : List Strategy) :
    (tryStrategies guesses c ks).Records fun t x =>
      ∃ winner, Search guesses ks (unlogged t) winner
        ∧ Outcome c x winner := by
  induction ks with
  | nil =>
    exact records_bind.2 (records_ask.2 fun _ =>
      records_done.2 ⟨none, .exhausted, rfl⟩)
  | cons k ks ih =>
    refine records_bind.2 (records_ask.2 fun _ => ?_)
    refine records_bind.2 ((records_find guesses k).mono
      fun part found h => ?_)
    obtain ⟨o, hk, rfl⟩ := h
    -- a strategy without an offer that fits hands the search on to the
    -- next
    have passing (hno : ∀ offer, o = some offer → ¬offer.Fits)
        {before t' : List (Event Session)} (hbefore : unlogged before = [])
        {x : Except DetectionError Source × Chosen} :
        (∃ winner, Search guesses ks (unlogged t') winner
          ∧ Outcome c x winner) →
        ∃ winner, Search guesses (k :: ks)
          (unlogged (part ++ (before ++ t'))) winner
          ∧ Outcome c x winner := by
      rintro ⟨winner, hs, hx⟩
      refine ⟨winner, ?_, hx⟩
      rw [unlogged_append, unlogged_append, hbefore]
      exact .passed hk hno hs
    cases o with
    | none =>
      refine records_bind.2 (records_ask.2 fun _ => ?_)
      exact ih.mono fun t' x h => passing nofun rfl h
    | some offer =>
      rw [Option.bind_some]
      by_cases hfits : offer.Fits
      · obtain ⟨found, chosen, hfound, haccept, htaken⟩ :=
          accept_offer c hfits hk.short k.source
        rw [hfound]
        refine records_bind.2 ((records_speak_unlogged _).mono
          fun said after h => ?_)
        obtain ⟨hsaid, rfl⟩ := h
        rw [haccept]
        refine records_bind.2 (records_ask.2 fun _ =>
          records_done.2 ⟨some (k, offer), ?_, rfl, htaken⟩)
        show Search guesses (k :: ks) (unlogged (part ++ (said ++ _))) _
        rw [unlogged_append, unlogged_append, hsaid]
        have won : Search guesses (k :: ks) (unlogged part) _ :=
          .won hk hfits
        exact (List.append_nil (unlogged part)).symm ▸ won
      -- an offer too long for its buffer counts as none
      · have hno (offer' : Offer) (h : some offer = some offer') :
            ¬offer'.Fits := Option.some.inj h ▸ hfits
        cases hfound : offer.candidate? with
        | none =>
          refine records_bind.2 (records_ask.2 fun _ => ?_)
          exact ih.mono fun t' x h => passing hno rfl h
        | some found =>
          refine records_bind.2 ((records_speak_unlogged _).mono
            fun said after h => ?_)
          obtain ⟨hsaid, rfl⟩ := h
          rw [accept_misfit c hfits hfound]
          exact ih.mono fun t' x h => passing hno hsaid h

/-- What `detect` shows but for the log is a `Search` through all
strategies, and it ends with the outcome of that. -/
theorem records_detected (guesses : List Name) (c : Chosen) :
    (detect guesses c).Records fun t x =>
      ∃ winner, Search guesses Strategy.all (unlogged t) winner
        ∧ Outcome c x winner :=
  records_bind.2 (records_ask.2 fun _ => records_searched guesses c _)

/-- If there was no choice before the search, there is one after it
exactly where the search succeeds. -/
theorem Outcome.isDetected_eq {c : Chosen}
    {x : Except DetectionError Source × Chosen}
    {winner : Option (Strategy × Offer)} (h : Outcome c x winner)
    (hc : c.isDetected = false) :
    x.2.isDetected = x.1.isOk := by
  cases winner with
  | none =>
    obtain rfl : x = (.error .exhausted, c) := h
    exact hc
  | some found =>
    obtain ⟨hresult, hsource, -⟩ := h
    rw [Chosen.detected_of_source hsource, hresult]
    rfl

/-- Whatever the modem answers, the strategies are gone through in their
order, up to the first whose offer `Fits`, and what is asked for is what
they ask for and nothing else (`Search`). The offer is taken as it was
made; if there is none, the choice stays what it was. That is so exactly
where the first four offer nothing that fits and there is nothing to guess.
What the directory has for a network always wins. -/
theorem detect_first {σ : Type} {B : Behaviour Session σ}
    {c : Chosen} {x : Except DetectionError Source × Chosen} {s s' : σ}
    (h : Proc.Runs B (detect guesses c) s t x s') :
    ∃ winner, Search guesses Strategy.all (unlogged t) winner
      ∧ Outcome c x winner
      ∧ (x.1 = .error .exhausted
        ↔ Search guesses Strategy.all.dropLast (unlogged t) none
          ∧ ∀ name ∈ guesses, name.isEmpty = true)
      ∧ ∀ k offer, Offered guesses (unlogged t) k offer →
        k = .imsiLookup ∨ k = .operatorLookup →
        winner = some (k, offer) := by
  obtain ⟨winner, hs, hx⟩ := (records_detected guesses c).of_runs h
  refine ⟨winner, hs, hx, ?_, fun k offer hk hdirectory => ?_⟩
  · rw [← Search.exhausted_iff]
    constructor
    · intro he
      cases winner with
      | none => exact hs
      | some w => cases he.symm.trans hx.1
    · intro hnone
      obtain ⟨rfl, -⟩ := hs.unique hnone (Eq.refl (unlogged t ++ []))
      exact congrArg Prod.fst hx
  · refine hk.wins ?_ hs
    obtain ⟨_, _, _, _, _, _, _, _, goes⟩ := hk
    refine goes.fits ?_
    rcases hdirectory with rfl | rfl <;> decide

/-- A modem with nothing in its contexts, whose SIM gives its identity
when it is asked again. -/
def lateSim (call : SessionCall) (asked : Nat) : call.Answer × Nat :=
  match call with
  | .exchange command .. =>
    if command = "AT+CGDCONT?" then (.ok "\r\nOK\r\n", asked)
    else if command = "AT+CIMI" then
      if asked = 0 then (.error (.timeout identityTimeout), asked + 1)
      else (.ok "\r\n410041234567890\r\n\r\nOK\r\n", asked + 1)
    else (.error .io, asked)
  | .switch _ => (.ok (), asked)
  | .quality => (.error .io, asked)
  | .pause _ | .log _ => ((), asked)

/-- Its network is found in the directory. -/
theorem detect_first_late : ∃ t c,
    Proc.Runs (.of lateSim) (detect [] {}) 0 t (.ok .imsiLookup, c) 2
      ∧ c.apn.text = "zonginternet"
      ∧ ∃ winner, Search [] Strategy.all (unlogged t) winner
        ∧ Outcome {} (.ok .imsiLookup, c) winner := by
  have hr : ((detect [] {}).run lateSim 0).1.1.toOption
        = some .imsiLookup
      ∧ ((detect [] {}).run lateSim 0).1.2.apn.text = "zonginternet"
      ∧ ((detect [] {}).run lateSim 0).2 = 2 := by decide +kernel
  obtain ⟨t, h⟩ := Proc.runs_of_answer lateSim (detect [] {}) 0
  generalize (detect [] {}).run lateSim 0 = x at hr h
  obtain ⟨⟨_ | source, c⟩, asked⟩ := x
  · cases hr.1
  obtain ⟨hsource, htext, rfl⟩ := hr
  obtain rfl : source = .imsiLookup := Option.some.inj hsource
  obtain ⟨winner, hs, hx, -⟩ := detect_first h
  exact ⟨t, c, h, htext, winner, hs, hx⟩

end Uplink.Apn
