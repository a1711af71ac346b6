/-
The credentials that a session is started with.

They go from the link over the interface to the PPP task, by way of a
place that is written and never cleared. The task reads them in the turn
in which it hears that it is to start a session (`Tasks.starts_iff`). So
it is enough that whoever tells it to start has set the right ones, and
that they stay.

# How it is shown

The link's account of its calls (`Pledge`) is one of its calls on the
board as well (`Cellular.accounts_operate`). In between turns the account
is what the place holds, and where the PPP task is told to start it is
bound to an access point (`Pledge.Stands`). That access point is what the
operation under way ends with, and all later ones: every turn of either
task keeps the pledge and goes on with the account
(`Tasks.From.pledged`), and a bound pledge stays bound
(`pledging_bound`).
-/
import Uplink.Proofs.Board.Pledge
import Uplink.Proofs.Board.Restart

namespace Uplink.Board

open Apn (Chosen)
open Gsm (GsmCall Manager Operation)
open Proc (Accounted Accounts Asks Reaches accounted_bind
  accounted_monadLift accounts_bind asks_ask asks_bind)

variable {α : Type} {x x' : Pledge} {f f' : Floor}

-- ================================================================ accounts

/-- What the calls of a task make of a pledge. -/
def pledging : Behaviour Board Pledge :=
  fun c x _ x' =>
    match c with
    | .shared (.direct .start) => x.Begins x'
    | .shared (.setCredentials credentials) => x.Sets credentials x'
    | _ => x' = x

/-- The call neither sets credentials nor has a session begin, nor begins
one. -/
def Call.plain : Call → Bool
  | shared (.direct .start) => false
  | shared (.setCredentials _) => false
  | session (.start _) => false
  | _ => true

theorem Call.plain_shared {a : Shared.Access} (hs : a.signals = false)
    (hk : a.keyless = true) : (shared a).plain = true := by
  cases a with
  | direct => cases hs
  | setCredentials => cases hk
  | _ => rfl

/-- The program makes `plain` calls only. -/
def Plain (p : Proc Board α) : Prop :=
  p.Asks fun c : Call => c.plain = true

/-- Plain calls leave the pledge as it is. -/
theorem pledging_of_plain {c : Call} (hc : c.plain = true) {r : c.Answer} :
    pledging c x r x' ↔ x' = x := by
  cases c with
  | shared a =>
    cases a with
    | direct control =>
      cases control with
      | start => cases hc
      | stop => exact Iff.rfl
    | setCredentials => cases hc
    | _ => exact Iff.rfl
  | _ => exact Iff.rfl

/-- Plain programs leave the account as it is. -/
theorem Plain.accounts {p : Proc Board α} (h : Plain p) :
    p.Accounts pledging x fun _ x' => x' = x :=
  (Proc.Stays.accounts_same h fun _ _ hc =>
    (pledging_of_plain hc).2 rfl).mono fun _ _ => And.right

/-- In a program of `Plain` calls no session is ever started. -/
theorem Plain.not_starts {p : Proc Board α} (h : Plain p)
    {credentials : Credentials} :
    ¬ Reaches Floor.answers p f (.session (.start credentials)) f' :=
  fun hr => nomatch h.of_reaches hr

-- ========================================================== plain programs

theorem plain_awaitOne (w : Wait) : Plain (awaitOne w) :=
  asks_bind (asks_ask.2 rfl) fun _ => trivial

theorem plain_race {guard : Wait} {p : Proc Board α} (h : Plain p) :
    Plain (race guard p) :=
  asks_race (fun _ _ => rfl) h

theorem plain_limit (milliseconds : Nat) {p : Proc Board α}
    (h : Plain p) : Plain (limit milliseconds p) :=
  asks_bind (asks_ask.2 rfl) fun _ => plain_race h

theorem Call.plain_of_puts {c : Call} (hc : c.puts) : c.plain = true := by
  cases c with
  | shared => exact hc.elim
  | session => exact hc.elim
  | _ => rfl

theorem Call.plain_of_session {c : Call} (hc : c.ofSession) :
    c.plain = true := by
  cases c with
  | shared a => exact plain_shared hc.1 hc.2
  | session call =>
    cases call with
    | start => exact hc.elim
    | _ => rfl
  | _ => rfl

/-- Every answer of the line is given by a `Plain` program. -/
theorem Line.plain_answer (call : Modem.SerialCall) :
    Plain (answer call) := by
  cases call with
  | write content =>
    exact (asks_writeAll _ _).mono fun _ => Call.plain_of_puts
  | flush => exact asks_flush.mono fun _ => Call.plain_of_puts
  | listen collector timeout =>
    have listened : Plain (Line.listen collector) := by
      refine asks_bind (asks_ask.2 rfl) fun settled => ?_
      cases settled with
      | true => exact asks_ask.2 rfl
      | false =>
        exact asks_bind (plain_awaitOne _) fun _ =>
          asks_bind (plain_awaitOne _) fun _ => asks_ask.2 rfl
    exact asks_bind (plain_limit _ listened) fun _ => trivial
  | pause milliseconds =>
    exact asks_bind (asks_ask.2 rfl) fun _ => plain_awaitOne _
  | log line => exact asks_ask.2 rfl

namespace HandOver

theorem plain_channel (act : Modem.Channel.Act α) (mode : Modem.Mode) :
    Plain ((channel act).run mode) :=
  Proc.Stays.within
    (Proc.asks_of_forall (P := fun _ => True) (fun _ => trivial) _)
    fun c _ => Line.plain_answer c

theorem plain_stopSession : Plain stopSession :=
  asks_bind (asks_ask.2 rfl) fun _ =>
    asks_bind (plain_awaitOne _) fun _ => asks_ask.2 rfl

/-- Only a dial has a session begin. -/
theorem plain_answer {call : Modem.SessionCall}
    (hc : call ≠ .switch .data) (mode : Modem.Mode) :
    Plain ((answer call).run mode) :=
  asks_answer plain_stopSession plain_channel hc mode

end HandOver

namespace Cellular

variable {parts : Parts}

/-- A program of the channel moves the mode, and nothing else. -/
theorem run_modem (act : HandOver.Act α) (parts : Parts) :
    (modem act).run parts = act.run parts.mode >>= fun x =>
      pure (x.1, { parts with mode := x.2 }) := by
  show (act.run parts.mode >>= fun x => pure (x, parts)) >>= _ = _
  rw [Proc.bind_assoc]
  rfl

/-- An act of the modem's side changes the `Pledge` as its program on the
board does. -/
theorem accounted_modem {act : HandOver.Act α} {R : α → Pledge → Prop}
    (h : Accounted pledging act parts.mode x fun r _ x' => R r x') :
    Accounted pledging (modem act) parts x fun r _ x' => R r x' := by
  unfold Accounted
  rw [run_modem, accounts_bind]
  exact h

theorem plain_build (uart : Config.Uart) :
    Plain ((build uart).run parts) := by
  have made : Plain (StateT.run (do
      ask (.line (.attach .command))
      modify fun p => { p with mode := .command }
      pure (.ok ()) : Act (Except Modem.ChannelError Unit)) parts) :=
    asks_bind (asks_bind (asks_ask.2 rfl) fun _ => trivial) fun _ => trivial
  show Plain (StateT.run (if _ then _ else _ : Act _) parts)
  split
  · exact asks_bind (asks_bind (asks_ask.2 rfl) fun _ => trivial)
      fun _ => made
  · exact made

/-- Of the calls on the interface, only that for credentials is not
`Plain`. -/
theorem plain_interface {call : Gsm.NetifCall}
    (hc : (GsmCall.netif call).keyless = true) :
    Plain ((Ppp.answer call).run parts) := by
  have access {a : Shared.Access} (ha : (Call.shared a).plain = true) :
      Plain (shared a) := asks_ask.2 ha
  cases call with
  | create => trivial
  | destroy =>
    have configured : Plain (Ppp.configure none) := asks_ask.2 rfl
    exact asks_bind (asks_bind configured fun _ => trivial) fun _ =>
      asks_bind (asks_bind (access rfl) fun _ => trivial) fun _ => trivial
  | subscribe =>
    show Plain (StateT.run (if parts.created then _ else _ : Ppp.Act _)
      parts)
    split
    · exact asks_bind (asks_bind (access rfl) fun _ => trivial)
        fun _ => trivial
    · trivial
  | unsubscribe => exact asks_bind (access rfl) fun _ => trivial
  | setDns primary secondary =>
    have resolved : Plain (Ppp.setDns primary secondary) :=
      Ppp.asks_setDns (P := fun c => c.plain = true) rfl (fun _ => rfl)
        _ _
    exact asks_bind resolved fun _ => trivial
  | setAuth => cases hc

theorem plain_resolve (host : String) : Plain (Ppp.resolve host) := by
  have settled {α : Type} (pending : Pending α) : Plain pending.settle := by
    unfold Pending.settle
    split
    · trivial
    · exact asks_bind (plain_awaitOne _) fun _ => trivial
    · exact asks_bind (asks_ask.2 rfl) fun _ => trivial
  refine asks_bind (asks_ask.2 rfl) fun pending => ?_
  refine asks_bind (settled pending) fun found => ?_
  split
  · trivial
  · trivial

/-- What is neither the dial nor about credentials, `Plain` calls
answer. -/
theorem plain_answer {c : GsmCall} (hc : c.aside) :
    Plain ((answer c).run parts) := by
  obtain ⟨hk, hd⟩ := hc
  cases c with
  | modem call =>
    have dialled : call ≠ .switch .data := by
      rintro rfl
      exact hd rfl
    show Plain ((modem _).run parts)
    rw [run_modem]
    exact asks_bind (HandOver.plain_answer dialled _) fun _ => trivial
  | drive pin high =>
    exact asks_bind (asks_bind (asks_ask.2 rfl) fun _ => trivial)
      fun _ => trivial
  | netif call => exact plain_interface hk
  | build uart => exact plain_build uart
  | record call => exact asks_bind (asks_ask.2 rfl) fun _ => trivial
  | awaitEvent timeout =>
    have taken : Plain takeEvent :=
      asks_bind (plain_awaitOne _) fun _ => asks_ask.2 rfl
    exact asks_bind (asks_bind (plain_limit _ taken) fun _ => trivial)
      fun _ => trivial
  | resolve host timeout =>
    exact asks_bind (plain_limit _ (plain_resolve host)) fun _ => trivial

/-- The account of the link's calls is one of its calls on the board. A
dial has a session begin after the line is in data mode, and credentials
that are taken are set. -/
theorem accounted_answer (c : GsmCall) (R : c.Answer → Pledge → Prop)
    (h : ∀ r, ∃ x', Gsm.pledging c x r x' ∧ R r x') :
    Accounted pledging (answer c) parts x fun r _ x' => R r x' := by
  have aside (hc : c.aside) :
      Accounted pledging (answer c) parts x fun r _ x' => R r x' := by
    refine (plain_answer hc).accounts.mono fun r x' hx => ?_
    obtain ⟨x'', hx'', hr⟩ := h r.1
    obtain rfl := (Gsm.pledging_of_aside hc).1 hx''
    exact hx ▸ hr
  -- credentials and the dial are all that concerns the pledge
  by_cases hk : c.keyless = true
  · by_cases hd : c = .modem (.switch .data)
    · subst hd
      show Accounted pledging (modem (HandOver.switch .data)) parts x _
      refine accounted_modem ?_
      unfold HandOver.switch
      refine accounted_bind.2 ((HandOver.plain_channel _ _).accounts.mono
        fun y x' hx => ?_)
      obtain ⟨r, mode⟩ := y
      subst hx
      obtain ⟨x'', hx'', hr⟩ := h r
      cases r with
      | ok => exact fun _ => ⟨x', rfl, fun _ => ⟨x'', hx'', hr⟩⟩
      | error e =>
        obtain rfl : x'' = x' := hx''
        exact hr
    · exact aside ⟨hk, hd⟩
  · cases c with
    | netif call =>
      cases call with
      | setAuth username password =>
        refine accounted_monadLift.2 ?_
        obtain ⟨x', ⟨credentials, taken, hx'⟩, hr⟩ := h (.ok ())
        unfold Ppp.setAuth
        rw [taken]
        exact fun _ => ⟨x', hx', hr⟩
      | _ => exact absurd rfl hk
    | _ => exact absurd rfl hk

/-- Every operation takes a pledge that `Fits` the access point to one that
fits the access point after it. -/
theorem accounts_operate (o : Operation) {m : Manager}
    (hx : x.Fits m.apn) :
    (operate o m parts).Accounts pledging x fun y x' =>
      x'.Fits y.1.apn :=
  accounts_bind.2 (Accounts.within
    (fun c _ _ R h => accounted_answer c R h) (o.honours m x hx) parts)

end Cellular

-- ================================================================== turns

/-- The place holds what the pledge says, and where the PPP task is told to
start, the pledge is bound. -/
structure Pledge.Stands (x : Pledge) (f : Floor) : Prop where
  holds : f.shared.credentials = x.credentials
  bound : f.shared.control = some .start →
    ∃ apn found, x = .bound apn found

/-- A pledge that `Stands` on a floor still does after each call that is
accounted for. -/
theorem Pledge.Stands.answers {c : Call} {r : c.Answer}
    (hx : x.Stands f) (hp : pledging c x r x') (h : f.answers c r f') :
    x'.Stands f' := by
  cases c with
  | await => exact h.elim
  | shared a =>
    have hs : f'.shared = (f.shared.apply a).value.2 := by rw [h.1]
    obtain ⟨s', running'⟩ := f'
    obtain rfl : s' = _ := hs
    -- only the start and new credentials move the pledge; after a stop
    -- nobody is told to start
    cases a with
    | direct control =>
      cases control with
      | start =>
        cases hp with
        | first found => exact ⟨hx.holds, fun _ => ⟨_, found, rfl⟩⟩
        | again => exact ⟨hx.holds, fun _ => ⟨_, _, rfl⟩⟩
      | stop =>
        obtain rfl : x' = x := hp
        exact ⟨hx.holds, nofun⟩
    | takeControl =>
      obtain rfl : x' = x := hp
      exact ⟨hx.holds, nofun⟩
    | setCredentials credentials =>
      cases hp with
      | free before =>
        refine ⟨rfl, fun h => ?_⟩
        obtain ⟨_, _, hb⟩ := hx.bound h
        cases hb
      | bound hc => exact ⟨hc, hx.bound⟩
    | _ =>
      obtain rfl : x' = x := hp
      exact ⟨hx.holds, hx.bound⟩
  | session call =>
    obtain rfl : x' = x := hp
    cases call <;> (obtain rfl := h; exact ⟨hx.holds, hx.bound⟩)
  | _ =>
    obtain rfl : x' = x := hp
    obtain rfl : f' = f := h
    exact hx

/-- Once a pledge is bound, it stays so. -/
theorem pledging_bound {apn : Chosen} {found : apn.isDetected = true}
    {c : Call} {r : c.Answer}
    (h : pledging c (.bound apn found) r x') : x' = .bound apn found := by
  by_cases hc : c.plain = true
  · exact (pledging_of_plain hc).1 h
  · cases c with
    | shared a =>
      cases a with
      | direct control =>
        cases control with
        | start =>
          cases h
          rfl
        | stop => exact absurd rfl hc
      | setCredentials =>
        cases h
        rfl
      | _ => exact absurd rfl hc
    | session => exact h
    | _ => exact absurd rfl hc

/-- In a `Turn` the account goes on, and what its entries keep is kept. -/
theorem Turn.accounts {K : Pledge → Prop}
    (hinv : ∀ {c : Call} {r : c.Answer} {x x'}, K x →
      pledging c x r x' → K x')
    {p p' : Proc Board α} {Q : α → Pledge → Prop} (h : Turn p f p' f')
    (hp : p.Accounts pledging x Q) (hi : K x) (hx : x.Stands f) :
    ∃ x', K x' ∧ x'.Stands f' ∧ p'.Accounts pledging x' Q := by
  induction h generalizing x with
  | done => exact ⟨x, hi, hx, hp⟩
  | waits => exact ⟨x, hi, hx, hp⟩
  | call hr _ ih =>
    obtain ⟨x₁, hc, hp⟩ := hp _
    exact ih hp (hinv hi hc) (hx.answers hc hr)

-- =========================================================== the PPP task

/-- The call neither sets credentials nor has a session begin. -/
def Call.obeys (c : Call) : Prop :=
  c.plain = true ∨ ∃ credentials, c = .session (.start credentials)

theorem Call.pledging_of_obeys {c : Call} (hc : c.obeys) (x : Pledge)
    (r : c.Answer) : pledging c x r x := by
  rcases hc with hc | ⟨_, rfl⟩
  · exact (pledging_of_plain hc).2 rfl
  · rfl

/-- Who `obeys` changes nothing about it in its turns. -/
theorem Turn.obeys {p p' : Proc Board α} (h : Turn p f p' f')
    (hp : p.Asks Call.obeys) (hx : x.Stands f) :
    x.Stands f' ∧ p'.Asks Call.obeys := by
  induction h with
  | done => exact ⟨hx, hp⟩
  | waits => exact ⟨hx, hp⟩
  | call hr _ ih =>
    exact ih (hp.2 _) (hx.answers (Call.pledging_of_obeys hp.1 x _) hr)

namespace Ppp

theorem plain_closeUp (ended : Option SessionError) :
    Plain (closeUp ended) := by
  have told : Plain onEnd :=
    asks_onEnd rfl fun _ => Call.plain_shared
  have stopped : Plain (shared .signalStopped) := asks_ask.2 rfl
  cases ended with
  | some e =>
    refine asks_bind (asks_bind (asks_ask.2 rfl) fun _ =>
      asks_bind (asks_ask.2 rfl) fun listening => ?_) fun _ => stopped
    cases listening with
    | true => exact asks_bind (asks_ask.2 rfl) fun _ => told
    | false => exact told
  | none =>
    refine asks_bind (asks_bind (asks_ask.2 rfl) fun control =>
      asks_bind (asks_ask.2 rfl) fun _ => ?_) fun _ => stopped
    cases control with
    | some control => exact asks_bind (asks_ask.2 rfl) fun _ => told
    | none => exact told

theorem plain_inSession {left : Proc Board SessionError}
    (h : left.Asks Call.ofSession) : Plain (inSession left) := by
  have rest : Plain (remainder left) :=
    asks_bind (h.mono fun _ => Call.plain_of_session) fun _ =>
      asks_bind (asks_ask.2 rfl) fun _ => trivial
  exact asks_bind (plain_race rest) plain_closeUp

/-- A session that has just been started. -/
def begun (steps : List SessionStep) : Proc Board Unit :=
  .call (.session .takeEnd) fun
    | some e => inSession (.done e)
    | none => inSession (goThrough steps)

/-- Told to start, the task reads the credentials and starts a session with
them, without waiting. -/
theorem supervise_eq :
    (supervise >>= fun _ => shared .signalStopped)
      = .call (.log (.info "PPP session starting")) fun _ =>
        .call (.shared .credentials) fun credentials =>
        .call (.line (.attach .session)) fun _ =>
        .call (.session (.start credentials)) begun := by
  have closes : (supervise >>= fun _ => shared .signalStopped)
      = log (.info "PPP session starting") >>= fun _ =>
        shared .credentials >>= fun credentials =>
        race .control (runSession credentials) >>= closeUp := by
    show ((log _ >>= fun _ => shared .credentials >>= fun credentials =>
      race .control (runSession credentials) >>= afterwards)
        >>= fun _ => shared .signalStopped) = _
    simp only [Proc.bind_assoc]
    rfl
  rw [closes]
  refine congrArg (Proc.call _) (funext fun _ => congrArg (Proc.call _)
    (funext fun credentials => congrArg (Proc.call _) (funext fun _ =>
    congrArg (Proc.call _) (funext fun steps => congrArg (Proc.call _)
    (funext fun e => ?_)))))
  cases e with
  | some e => rfl
  | none => rfl

/-- Once a session has begun, all that is left of it is `Plain`. -/
theorem plain_begun (steps : List SessionStep) : Plain (begun steps) := by
  refine ⟨rfl, fun e => ?_⟩
  cases e with
  | some e => exact plain_inSession (Proc.asks_done e)
  | none => exact plain_inSession (asks_goThrough steps)

/-- So it starts one with these exactly if they are set. -/
theorem reaches_start_iff (credentials : Credentials) (f : Floor) :
    (∃ f', Reaches Floor.answers
        (supervise >>= fun _ => shared .signalStopped) f
        (.session (.start credentials)) f')
      ↔ credentials = f.shared.credentials := by
  rw [supervise_eq]
  constructor
  · rintro ⟨f', hr⟩
    cases hr with | later hlog hr =>
    cases hr with | later hread hr =>
    cases hr with | later hattach hr =>
    cases hr with
    | here =>
      obtain rfl := hlog
      exact (Prod.mk.inj hread.1).1.symm
    | later _ hr => exact ((plain_begun _).not_starts hr).elim
  · rintro rfl
    -- the line and the port answer nothing
    exact ⟨f, .later (r := ()) rfl (.later ⟨rfl, rfl⟩
      (.later (r := ()) rfl (.here _ _ _)))⟩

/-- In a session the task starts none. -/
theorem plain_woken {waits waits' : List Wait}
    {k : Nat → Proc Board SessionError} {k' : Nat → Proc Board Unit}
    (h : (Proc.call (I := Board) (.await waits) k).Asks Call.ofSession)
    (hq : inSession (.call (.await waits) k) = .call (.await waits') k')
    (place : Nat) : Plain (k' place) := by
  obtain ⟨next, hnext, hgo, hhear⟩ := inSession_await waits k
  rw [hnext] at hq
  cases hq
  by_cases hplace : place < waits.length
  · rw [hgo _ hplace]
    exact plain_inSession (h.2 _)
  · rw [hhear _ (Nat.not_lt.1 hplace)]
    exact plain_closeUp none

/-- One `round` of the PPP task, as the calls it begins with. -/
theorem round_eq :
    round = .call (.await [.control]) fun _ =>
      .call (.shared .takeControl) fun
        | some .start => supervise >>= fun _ => shared .signalStopped
        | _ => shared .signalStopped := by
  refine congrArg (Proc.call _) (funext fun _ => congrArg (Proc.call _)
    (funext fun told => ?_))
  match told with
  | some .start => rfl
  | some .stop => rfl
  | none => rfl

/-- Nothing in a `round` sets credentials or has a session begin. -/
theorem asks_round : round.Asks Call.obeys := by
  rw [round_eq]
  refine ⟨.inl rfl, fun _ => ⟨.inl rfl, fun told => ?_⟩⟩
  match told with
  | some .start =>
    dsimp only
    rw [supervise_eq]
    refine ⟨.inl rfl, fun _ => ⟨.inl rfl, fun credentials =>
      ⟨.inl rfl, fun _ => ⟨.inr ⟨credentials, rfl⟩, fun steps => ?_⟩⟩⟩⟩
    exact Proc.Asks.mono (plain_begun steps) fun _ => .inl
  | some .stop => exact asks_ask.2 (.inl rfl)
  | none => exact asks_ask.2 (.inl rfl)

end Ppp

/-- In its next turn the PPP task starts a session with these
credentials. -/
inductive Tasks.Starts (t : Tasks) (credentials : Credentials) : Prop
  | woken {waits : List Wait} {k : Nat → Proc Board Unit} {place : Nat}
      {w : Wait} {f : Floor} :
      t.ppp = .call (.await waits) k → waits[place]? = some w →
      t.floor.ready w →
      Reaches Floor.answers (k place) t.floor (.session (.start credentials))
        f → Starts t credentials

/-- It starts one where it waits to be told and is told to, with the
credentials that are set there and then. -/
theorem Tasks.starts_iff {t : Tasks} (h : Ppp.Waits t.ppp t.floor)
    {credentials : Credentials} :
    t.Starts credentials ↔ t.ppp = Ppp.round
      ∧ t.floor.shared.control = some .start
      ∧ credentials = t.floor.shared.credentials := by
  have stopped : Plain (shared .signalStopped) := asks_ask.2 rfl
  constructor
  · intro hs
    cases hs with | @woken waits k place w f hq _ _ hr =>
    generalize t.ppp = q at h hq ⊢
    -- a session starts in no turn but that in which the PPP task is at
    -- the beginning of a round, and is told to
    cases h with
    | idle =>
      refine ⟨rfl, ?_⟩
      rw [Ppp.round_eq] at hq
      cases hq
      cases hr with | @later _ _ _ _ f₁ _ told htold hr =>
      obtain rfl : t.floor.shared.control = told :=
        (Prod.mk.inj htold.1).1
      obtain rfl := Floor.eq_accessed htold
      cases hc : t.floor.shared.control with
      | none =>
        rw [hc] at hr
        exact (stopped.not_starts hr).elim
      | some told =>
        rw [hc] at hr
        cases told with
        | stop => exact (stopped.not_starts hr).elim
        | start =>
          have starts := Ppp.reaches_start_iff credentials
            (t.floor.accessed .takeControl)
          exact ⟨rfl, starts.1 ⟨f, hr⟩⟩
    -- in a session every call that is left is plain
    | session hl hleft _ =>
      subst hl
      exact ((Ppp.plain_woken hleft hq place).not_starts hr).elim
  · rintro ⟨hq, hc, rfl⟩
    rw [Ppp.round_eq] at hq
    have ready : t.floor.ready .control := by
      show t.floor.shared.control.isSome = true
      rw [hc]
      rfl
    have heard : t.floor.answers (.shared .takeControl) (some .start)
        (t.floor.accessed .takeControl) := ⟨congrArg (·, _) hc, rfl⟩
    obtain ⟨f, starts⟩ :=
      (Ppp.reaches_start_iff _ (t.floor.accessed .takeControl)).2 rfl
    exact .woken hq List.getElem?_cons_zero ready (.later heard starts)

-- ============================================================ whole turns

/-- The access is neither to a signal nor to the credentials. -/
def Shared.Access.unkeyed (a : Shared.Access) : Prop :=
  a.signals = false ∧ a.keyless = true

/-- No session runs, and no credentials were ever set. -/
def Tasks.Blank (t : Tasks) : Prop :=
  t.Still ∧ t.floor.shared.credentials = {}

/-- The pledge `Stands`, and both tasks go on so that it will. -/
structure Tasks.Pledged (t : Tasks) (x : Pledge) : Prop where
  stands : x.Stands t.floor
  manager : t.manager.Accounts pledging x fun y x' => x'.Fits y.1.apn
  ppp : t.ppp.Asks Call.obeys

/-- Where no credentials were ever set, the pledge is free. -/
theorem Tasks.Blank.pledged {t : Tasks} (h : t.Blank) :
    t.Pledged (.free {}) := by
  obtain ⟨⟨m, parts, hm, hp, still⟩, blank⟩ := h
  refine ⟨⟨blank, fun hc => absurd hc still.unstarted⟩, ?_, ?_⟩
  · rw [hm]
    exact .inl rfl
  · rw [hp]
    exact Ppp.asks_round

/-- Wherever turns lead, there is a `Pledge` that stands, and it has come
about from the one at the start. -/
theorem Tasks.From.pledged {start : Tasks → Prop}
    {other : Shared.Access → Prop} {K : Pledge → Prop}
    (hstart : ∀ t, start t → ∃ x, K x ∧ t.Pledged x)
    (hother : ∀ a, other a → a.unkeyed)
    (hinv : ∀ {c : Call} {r : c.Answer} {x x'}, K x →
      pledging c x r x' → K x')
    {t : Tasks} (h : Tasks.From start other t) :
    ∃ x, K x ∧ t.Pledged x := by
  -- by induction on the turns; the manager's are accounted for, and those
  -- of the PPP task obey
  induction h with
  | start hs => exact hstart _ hs
  | operated o _ ht ih =>
    obtain ⟨x, hi, stands, fits, ppp⟩ := ih
    obtain ⟨x', hi', stands', manager'⟩ :=
      ht.accounts hinv (Cellular.accounts_operate o fits) hi stands
    exact ⟨x', hi', stands', manager', ppp⟩
  | @managed _ _ _ _ _ place _ _ _ _ _ ht ih =>
    obtain ⟨x, hi, stands, manager, ppp⟩ := ih
    obtain ⟨x, rfl, next⟩ := manager place
    obtain ⟨x', hi', stands', manager'⟩ := ht.accounts hinv next hi stands
    exact ⟨x', hi', stands', manager', ppp⟩
  | @served _ _ _ _ _ place _ p _ _ _ ht ih =>
    obtain ⟨x, hi, stands, manager, ppp⟩ := ih
    obtain ⟨stands', ppp'⟩ := ht.obeys (ppp.2 place) stands
    refine ⟨x, hi, stands', manager, ?_⟩
    cases p with
    | done => exact Ppp.asks_round
    | call => exact ppp'
  | @shared t a _ ha ih =>
    obtain ⟨x, hi, stands, manager, ppp⟩ := ih
    obtain ⟨hs, hk⟩ := hother a ha
    have accessed : t.floor.answers (.shared a)
        (t.floor.shared.apply a).value.1 (t.floor.accessed a) :=
      ⟨rfl, rfl⟩
    have obeys : (Call.shared a).obeys := .inl (Call.plain_shared hs hk)
    exact ⟨x, hi, stands.answers (Call.pledging_of_obeys obeys x _)
      accessed, manager, ppp⟩

/-- From a bound pledge on, whatever the manager is at, it is left with the
access point that the pledge is bound to. -/
theorem Tasks.Pledged.kept {apn : Chosen} {found : apn.isDetected = true}
    {t : Tasks} (h : t.Pledged (.bound apn found)) {t' : Tasks}
    (h' : Tasks.From (· = t) Shared.Access.unkeyed t') :
    t'.manager.Stays (fun _ => True) fun x => x.1.apn = apn := by
  have start (u : Tasks) (hu : u = t) :
      ∃ x, x = .bound apn found ∧ u.Pledged x := ⟨_, rfl, hu ▸ h⟩
  have bound {c : Call} {r : c.Answer} {x x' : Pledge}
      (hx : x = .bound apn found) (hc : pledging c x r x') :
      x' = .bound apn found := by
    subst hx
    exact pledging_bound hc
  obtain ⟨x, rfl, pledged⟩ := h'.pledged start (fun _ => id) bound
  refine (pledged.manager.stays (P := fun _ => True)
    (fun _ _ _ _ => trivial) (fun _ _ _ _ => bound) rfl).mono
    (fun _ => id) fun y hy => ?_
  obtain ⟨_, rfl, fits⟩ := hy
  exact Eq.symm fits

/-- If the call gives the interface credentials, it takes them. -/
def Ppp.Takes : GsmCall → Prop
  | .netif (.setAuth username password) =>
    (setAuth username password).Stays (fun _ => True) (· = .ok ())
  | _ => True

/-- It takes those of every `Operation`. -/
theorem Ppp.takes_operation (o : Operation) (m : Manager) :
    (o.act.run m).Asks Takes := by
  have taken (c : GsmCall) (x : Pledge) (_ : True)
      (h : ∀ r, ∃ x', Gsm.pledging c x r x') : Takes c := by
    cases c with
    | netif call =>
      cases call with
      | setAuth username password =>
        obtain ⟨_, credentials, htaken, -⟩ := h (.ok ())
        show (setAuth username password).Stays _ _
        unfold setAuth
        rw [htaken]
        exact ⟨trivial, fun _ => rfl⟩
      | _ => trivial
    | _ => trivial
  exact Proc.Stays.mono (Accounts.stays (o.honours m (.free {}) (.inl rfl))
    taken (fun _ _ _ _ _ _ => trivial) trivial) (fun _ => id)
    fun _ _ => trivial

/-- Whenever the PPP task `Starts` a session, it does so with the user name
and the password of the access point that was found, or with empty ones if
that has no user. That access point is the one that the manager is left
with by what it is doing then, and by everything that it does later. The
interface refuses none of the credentials that it is given. -/
theorem Tasks.From.session_credentials {t : Tasks}
    (h : Tasks.From Tasks.Blank Shared.Access.unkeyed t) :
    (∀ credentials, t.Starts credentials →
      ∃ apn : Chosen, apn.isDetected = true
        ∧ credentials = (if apn.hasCredentials
          then ⟨apn.username, apn.password⟩ else ⟨.empty, .empty⟩)
        ∧ ∀ t', Tasks.From (· = t) Shared.Access.unkeyed t' →
          t'.manager.Stays (fun _ => True) fun x => x.1.apn = apn)
      ∧ ∀ (o : Operation) (m : Manager), (o.act.run m).Asks Ppp.Takes := by
  refine ⟨fun credentials hs => ?_, Ppp.takes_operation⟩
  obtain ⟨x, -, pledged⟩ := h.pledged (K := fun _ => True)
    (fun _ ht => ⟨_, trivial, ht.pledged⟩) (fun _ => id)
    (fun _ _ => trivial)
  have waits : Ppp.Waits t.ppp t.floor :=
    (h.mono (fun _ => And.left) fun _ => And.left).waits
  obtain ⟨-, told, rfl⟩ := (Tasks.starts_iff waits).1 hs
  obtain ⟨apn, found, rfl⟩ := pledged.stands.bound told
  exact ⟨apn, found, pledged.stands.holds, fun _ => pledged.kept⟩

-- ============================================================== a session

/-- The PPP task has been told to start, for an access point with a
user. -/
def Tasks.told : Tasks :=
  let m : Manager :=
    { settings := .standard
      apn :=
        { username := ⟨"user", by decide⟩, password := ⟨"secret", by decide⟩
          source := some .configured } }
  let parts : Parts := { wiring := Config.Settings.standard.uart }
  let first := turn Call.obliged (operate .bringUp m parts) ⟨{}, false⟩
  (goOn Call.obliged)^[38] ⟨first.1, Ppp.round, first.2⟩

/-- The tasks of `Tasks.told` can come about in some order of turns. -/
theorem Tasks.from_told :
    Tasks.From Tasks.Blank Shared.Access.unkeyed Tasks.told :=
  have still : Tasks.Still ⟨.done (_, _), Ppp.round, ⟨{}, false⟩⟩ :=
    ⟨_, _, rfl, rfl, rfl, nofun⟩
  ((Tasks.From.start ⟨still, rfl⟩).operated .bringUp
    (turn_turn Call.obliged _ _)).goes Call.obliged 38

/-- From there a session starts with the user's credentials. -/
theorem Tasks.told_starts :
    Tasks.told.Starts ⟨⟨"user", by decide⟩, ⟨"secret", by decide⟩⟩ := by
  have waits : Ppp.Waits Tasks.told.ppp Tasks.told.floor :=
    (Tasks.from_told.mono (fun _ => And.left) fun _ => And.left).waits
  have idle : Tasks.told.floor.running = false := by decide +kernel
  have told : Tasks.told.floor.shared.control = some .start := by
    decide +kernel
  have given : Tasks.told.floor.shared.credentials
      = ⟨⟨"user", by decide⟩, ⟨"secret", by decide⟩⟩ := by decide +kernel
  exact (Tasks.starts_iff waits).2
    ⟨waits.round_of_idle idle, told, given.symm⟩

/-- The user is that of the access point that the manager has from then
on. -/
theorem Tasks.From.session_credentials_told :
    ∃ apn : Chosen, apn.username.text = "user"
      ∧ apn.password.text = "secret"
      ∧ ∀ t', Tasks.From (· = Tasks.told) Shared.Access.unkeyed t' →
        t'.manager.Stays (fun _ => True) fun x => x.1.apn = apn := by
  obtain ⟨apn, -, given, kept⟩ :=
    Tasks.from_told.session_credentials.1 _ Tasks.told_starts
  split at given
  next =>
    obtain ⟨hu, hp⟩ := Credentials.mk.inj given
    exact ⟨apn, hu ▸ rfl, hp ▸ rfl, kept⟩
  next => exact absurd given (by decide)

end Uplink.Board
