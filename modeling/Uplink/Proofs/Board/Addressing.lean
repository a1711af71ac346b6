/-
The addressing of the stack over PPP.

Two tasks write it, in four places: a session that comes up gives the
stack its address, the link adds its resolvers later, and all of it goes
with the end of the session or with the interface. The peer is noted down
beside it, and whoever sets resolvers goes by that note.

# Histories

None of these moves waits before it is through (`Move.brief`), so that the
two tasks make them one after another, in whatever order (`Past`). What the
stack then has is what came last in the history (`Told`): the address that
a session brought and that nothing has ended, with the resolvers that were
set since, or with none. So the note never speaks of another session than
the stack does, and resolvers that come too late for a session find no
note to be set for.
-/
import Uplink.Proofs.Board.Calm
import Uplink.Proofs.History

namespace Uplink.Board

open Gsm (NetifCall)
open Net (Address IpInfo)
open Proc (Asks Ensures Meets Runs asks_ask asks_bind ensures_bind
  ensures_get ensures_monadLift meets_ask meets_bind)

variable {α : Type}

-- ============================================================= the ground

/-- What is shared, and the addressing of the stack over PPP. -/
structure Ground where
  shared : Shared := {}
  config : Option StackConfig := none

/-- The access leaves the note of the peer alone. -/
def Shared.Access.sparesPeer : Access → Bool
  | setPeer _ => false
  | takePeer => false
  | _ => true

namespace Ground

variable {g g' : Ground}

def accessed (g : Ground) (a : Shared.Access) : Ground :=
  { g with shared := (g.shared.apply a).value.2 }

/-- What a call is answered while nobody waits. -/
def answers : Behaviour Board Ground :=
  fun c g r g' =>
    match c, r with
    | .await _, _ => False
    | .shared a, r =>
      (g.shared.apply a).value = (r, g'.shared) ∧ g'.config = g.config
    | .stack .ppp (.configure config), _ => g' = { g with config }
    | _, _ => g' = g

/-- The note of the peer, and what the stack has. -/
def addressing (g : Ground) : Option IpInfo × Option StackConfig :=
  (g.shared.peer, g.config)

/-- An access that `sparesPeer` leaves the addressing as it is. -/
theorem addressing_accessed {a : Shared.Access} (h : a.sparesPeer = true) :
    (g.accessed a).addressing = g.addressing := by
  cases a with
  | setPeer => cases h
  | takePeer => cases h
  | _ => rfl

/-- An access is answered from what is shared, and with nothing else
changed. -/
theorem answers_shared {a : Shared.Access} {r : a.Answer} :
    answers (.shared a) g r g'
      ↔ r = (g.shared.apply a).value.1 ∧ g' = g.accessed a := by
  constructor
  · rintro ⟨h, hc⟩
    have hs : g'.shared = (g.shared.apply a).value.2 := by rw [h]
    refine ⟨by rw [h], ?_⟩
    show g' = ⟨_, g.config⟩
    rw [← hs, ← hc]
  · rintro ⟨rfl, rfl⟩
    exact ⟨rfl, rfl⟩

/-- One way for the surroundings to answer. -/
def turn : (c : Call) → Ground → c.Answer × Ground
  | .shared a, g => ((g.shared.apply a).value.1, g.accessed a)
  | .stack .ppp (.configure config), g => ((), { g with config })
  | _, g => (default, g)

/-- What `turn` gives is an answer the ground can give. -/
theorem answers_turn {c : Call} (hc : c.waits = false) (g : Ground) :
    answers c g (turn c g).1 (turn c g).2 := by
  cases c with
  | await => cases hc
  | shared a => exact ⟨rfl, rfl⟩
  | stack k call => cases k <;> cases call <;> rfl
  | _ => rfl

/-- Who does not wait gets through. -/
theorem runs_turn {p : Proc Board α}
    (hp : p.Asks fun c : Call => c.waits = false) (g : Ground) :
    ∃ t, Runs answers p g t (p.run turn g).1 (p.run turn g).2 := by
  induction p generalizing g with
  | done a => exact ⟨[], .done a g⟩
  | call c k ih =>
    obtain ⟨t, h⟩ := ih (turn c g).1 (hp.2 _) (turn c g).2
    exact ⟨_, .call (answers_turn hp.1 g) h⟩

end Ground

variable {g : Ground}

/-- An access on the `Ground` comes to one thing only. -/
theorem meets_shared {a : Shared.Access} {Q : a.Answer → Ground → Prop} :
    (shared a).Meets Ground.answers.contract g Q
      ↔ Q (g.shared.apply a).value.1 (g.accessed a) := by
  constructor
  · intro h
    exact h.2 _ _ (Ground.answers_shared.2 ⟨rfl, rfl⟩)
  · refine fun h => ⟨trivial, fun r g' hr => ?_⟩
    obtain ⟨rfl, rfl⟩ := Ground.answers_shared.1 hr
    exact h

namespace Ppp

/-- To configure the stack over PPP is to replace its configuration. -/
theorem meets_configure {config : Option StackConfig}
    {Q : Unit → Ground → Prop} :
    (configure config).Meets Ground.answers.contract g Q
      ↔ Q () { g with config } := by
  refine ⟨fun h => h.2 () _ rfl, fun h => ⟨trivial, fun _ g' hr => ?_⟩⟩
  obtain rfl : g' = { g with config } := hr
  exact h

-- ============================================================== the moves

/-- What the link has the interface do, and what a session comes to. -/
inductive Move where
  | asked (call : NetifCall)
  | up (address peer : Option Address)
  | ended

abbrev Move.Answer : Move → Type
  | asked call => call.Answer
  | up .. => Unit
  | ended => Unit

abbrev Moves : Interface :=
  ⟨Move, Move.Answer⟩

namespace Move

def act : (m : Move) → Act m.Answer
  | asked call => answer call
  | up address peer => onUp address peer
  | ended => onEnd

/-- What a move makes of the note and the stack. -/
def after : Move → Option IpInfo × Option StackConfig →
    Option IpInfo × Option StackConfig
  | asked .destroy, _ => (none, none)
  | asked (.setDns primary secondary), (some info, _) =>
    (some info, some (stackConfig info [primary, secondary]))
  | up (some ip) peer, _ =>
    let info : IpInfo := ⟨ip, Address.hostMask, peer.getD ip⟩
    (some info, some (stackConfig info []))
  | ended, _ => (none, none)
  | _, x => x

/-- What its answer says of the note. -/
def tells : (m : Move) → m.Answer → Option IpInfo → Prop
  | asked (.setDns ..), r, none => r = .error .noInterface
  | asked (.setDns ..), r, some _ => r = .ok ()
  | _, _, _ => True

/-- Nobody waits in the middle of a `Move`. -/
theorem brief (m : Move) (parts : Parts) :
    (m.act.run parts).Asks fun c : Call => c.waits = false := by
  have access (a : Shared.Access) :
      (shared a).Asks fun c : Call => c.waits = false := asks_ask.2 rfl
  -- what the interface does is access after access, and none of them
  -- waits
  have lifted {α : Type} {p : Proc Board α}
      (hp : p.Asks fun c : Call => c.waits = false) :
      ((monadLift p : Act α).run parts).Asks
        fun c : Call => c.waits = false :=
    asks_bind hp fun _ => trivial
  cases m with
  | asked call =>
    cases call with
    | create => trivial
    | destroy =>
      refine asks_bind (lifted (asks_ask.2 rfl)) fun _ => ?_
      exact asks_bind (lifted (access _)) fun _ => trivial
    | subscribe =>
      show ((if parts.created then _ else _ : Act _).run parts).Asks _
      split
      · exact asks_bind (lifted (access _)) fun _ => trivial
      · trivial
    | unsubscribe => exact lifted (access _)
    | setDns primary secondary =>
      refine lifted (asks_setDns ?_ (fun _ => rfl) primary secondary)
      rfl
    | setAuth username password =>
      exact lifted (asks_setAuth (fun _ => rfl) username password)
  | up address peer =>
    exact lifted (asks_onUp (fun _ => rfl) (fun _ => rfl)
      (fun _ _ _ => rfl) address peer)
  | ended => exact lifted (asks_onEnd rfl fun _ _ _ => rfl)

/-- What a `Move` comes to, and what it answers. -/
theorem ensures_act (m : Move) (parts : Parts) :
    Ensures Ground.answers.contract m.act parts g fun r _ g' =>
      m.tells r g.shared.peer ∧ g'.addressing = m.after g.addressing := by
  obtain ⟨s, config⟩ := g
  cases m with
  | asked call =>
    cases call with
    | create => exact ⟨trivial, rfl⟩
    | destroy =>
      refine ensures_bind.2 (ensures_monadLift.2 (meets_configure.2 ?_))
      refine ensures_bind.2 (ensures_monadLift.2 (meets_shared.2 ?_))
      exact ⟨trivial, rfl⟩
    | subscribe =>
      refine ensures_bind.2 (ensures_get.2 ?_)
      split
      · refine ensures_bind.2 (ensures_monadLift.2 (meets_shared.2 ?_))
        exact ⟨trivial, rfl⟩
      · exact ⟨trivial, rfl⟩
    | unsubscribe =>
      exact ensures_monadLift.2 (meets_shared.2 ⟨trivial, rfl⟩)
    -- resolvers are only taken where a peer is noted
    | setDns primary secondary =>
      refine ensures_monadLift.2 (meets_bind.2 (meets_shared.2 ?_))
      cases hp : s.peer with
      | none =>
        rw [show (s.apply .peer).value.1 = none from hp]
        simp only [tells, Ground.addressing, hp]
        exact ⟨rfl, Prod.ext hp rfl⟩
      | some info =>
        rw [show (s.apply .peer).value.1 = some info from hp]
        simp only [tells, Ground.addressing, hp]
        exact meets_bind.2 (meets_configure.2 ⟨rfl, Prod.ext hp rfl⟩)
    | setAuth username password =>
      refine ensures_monadLift.2 ?_
      unfold setAuth
      split
      · exact ⟨trivial, rfl⟩
      · exact meets_bind.2 (meets_shared.2 ⟨trivial, rfl⟩)
  | up address peer =>
    refine ensures_monadLift.2 ?_
    cases address with
    | none => exact ⟨trivial, fun _ _ h => ⟨trivial, congrArg _ h⟩⟩
    | some ip =>
      refine meets_bind.2 (meets_configure.2 ?_)
      refine meets_bind.2 (meets_shared.2 ?_)
      refine meets_bind.2 (meets_shared.2 ?_)
      split
      · exact meets_shared.2 ⟨trivial, Ground.addressing_accessed rfl⟩
      · exact ⟨trivial, rfl⟩
  | ended =>
    refine ensures_monadLift.2 (meets_bind.2 (meets_configure.2 ?_))
    refine meets_bind.2 (meets_shared.2 (meets_bind.2 (meets_shared.2 ?_)))
    split
    · split
      · exact meets_shared.2 ⟨trivial, Ground.addressing_accessed rfl⟩
      · exact ⟨trivial, rfl⟩
    · exact ⟨trivial, rfl⟩

end Move

-- ========================================================== the histories

/-- What the moves and others have come to, from where no session is up.
Others leave the note alone. -/
inductive Past : List (Event Moves) → Parts → Ground → Prop
  | made {parts : Parts} {g : Ground} :
      g.shared.peer = none → g.config = none → Past [] parts g
  | moved {history : List (Event Moves)} {parts parts' : Parts}
      {g g' : Ground} {t : List (Event Board)} (m : Move) {r : m.Answer} :
      Past history parts g →
      Runs Ground.answers (m.act.run parts) g t (r, parts') g' →
      Past (history ++ [⟨m, r⟩]) parts' g'
  | shared {history : List (Event Moves)} {parts : Parts} {g : Ground}
      (a : Shared.Access) :
      Past history parts g → a.sparesPeer = true →
      Past history parts (g.accessed a)

/-- A session comes up with these addresses. -/
def brings (info : IpInfo) : Event Moves → Prop
  | ⟨.up (some ip) peer, _⟩ => info = ⟨ip, Address.hostMask, peer.getD ip⟩
  | _ => False

/-- A session comes up. -/
def raises (e : Event Moves) : Prop :=
  ∃ info, brings info e

/-- The session is over, or the interface is. -/
def ends : Event Moves → Prop
  | ⟨.ended, _⟩ => True
  | ⟨.asked .destroy, _⟩ => True
  | _ => False

/-- Resolvers are set. -/
def resolves (primary secondary : Address) : Event Moves → Prop
  | ⟨.asked (.setDns first second), .ok ()⟩ =>
    first = primary ∧ second = secondary
  | _ => False

/-- There is another peer than before, or none any more. -/
def binds (e : Event Moves) : Prop :=
  raises e ∨ ends e

/-- There are other resolvers than before, or none yet. -/
def shapes (e : Event Moves) : Prop :=
  raises e ∨ ∃ primary secondary, resolves primary secondary e

/-- What the history says of the note and the stack. -/
def Told (history : List (Event Moves)) :
    Option IpInfo × Option StackConfig → Prop
  | (none, config) => config = none
  | (some info, config) =>
    Latest binds (brings info) history
      ∧ ∃ resolvers, config = some (stackConfig info resolvers)
        ∧ (resolvers = [] ∧ Latest shapes raises history
          ∨ ∃ primary secondary, resolvers = [primary, secondary]
            ∧ Latest shapes (resolves primary secondary) history)

variable {history : List (Event Moves)} {parts : Parts}

/-- What is neither makes no difference. -/
theorem Told.aside {x : Option IpInfo × Option StackConfig}
    {e : Event Moves} (h : Told history x) (hb : ∀ info, ¬brings info e)
    (he : ¬ends e)
    (hr : ∀ primary secondary, ¬resolves primary secondary e) :
    Told (history ++ [e]) x := by
  have binds : ¬binds e := fun h => h.elim (fun ⟨info, h⟩ => hb info h) he
  have shapes : ¬shapes e := fun h =>
    h.elim (fun ⟨info, h⟩ => hb info h) fun ⟨p, s, h⟩ => hr p s h
  obtain ⟨peer, config⟩ := x
  cases peer with
  | none => exact h
  | some info =>
    obtain ⟨hinfo, resolvers, rfl, hl⟩ := h
    refine ⟨latest_concat.2 (.inr ⟨hinfo, binds⟩), resolvers, rfl, ?_⟩
    rcases hl with ⟨rfl, hl⟩ | ⟨primary, secondary, rfl, hl⟩
    · exact .inl ⟨rfl, latest_concat.2 (.inr ⟨hl, shapes⟩)⟩
    · exact .inr ⟨primary, secondary, rfl,
        latest_concat.2 (.inr ⟨hl, shapes⟩)⟩

/-- So it goes from one `Move` to the next. -/
theorem Told.moved {x : Option IpInfo × Option StackConfig} {m : Move}
    {r : m.Answer} (h : Told history x) (hr : m.tells r x.1) :
    Told (history ++ [⟨m, r⟩]) (m.after x) := by
  obtain ⟨peer, config⟩ := x
  cases m with
  | asked call =>
    cases call with
    | destroy => rfl
    | setDns primary secondary =>
      cases peer with
      | none =>
        obtain rfl : r = .error .noInterface := hr
        exact h.aside nofun nofun nofun
      | some info =>
        -- resolvers set while there is a peer are the latest thing to
        -- shape the configuration
        obtain rfl : r = .ok () := hr
        let e : Event Moves := ⟨.asked (.setDns primary secondary), .ok ()⟩
        have hb : ¬binds e := by
          rintro (⟨info, h⟩ | h)
          · exact h
          · exact h
        have set : Latest shapes (resolves primary secondary)
            (history ++ [e]) := latest_concat.2 (.inl ⟨rfl, rfl⟩)
        exact ⟨latest_concat.2 (.inr ⟨h.1, hb⟩), _, rfl,
          .inr ⟨primary, secondary, rfl, set⟩⟩
    | _ => exact h.aside nofun nofun nofun
  | up address peer =>
    cases address with
    | none => exact h.aside nofun nofun nofun
    | some ip =>
      exact ⟨latest_concat.2 (.inl rfl), [], rfl,
        .inl ⟨rfl, latest_concat.2 (.inl ⟨_, rfl⟩)⟩⟩
  | ended => rfl

/-- The note and the stack go together. -/
theorem Told.isSome_iff {x : Option IpInfo × Option StackConfig}
    (h : Told history x) : x.2.isSome = true ↔ x.1.isSome = true := by
  obtain ⟨peer, config⟩ := x
  cases peer with
  | none =>
    obtain rfl : config = none := h
    exact Iff.rfl
  | some info =>
    obtain ⟨-, resolvers, rfl, -⟩ := h
    exact Iff.rfl

/-- What the `Ground` holds is what its history says of it, by induction on
the history. -/
theorem Past.told {g : Ground} (h : Past history parts g) :
    Told history g.addressing := by
  induction h with
  | made hp hc =>
    unfold Ground.addressing
    rw [hp, hc]
    rfl
  | @moved _ parts _ g _ _ m _ _ hr ih =>
    obtain ⟨ha, hg⟩ := (m.ensures_act parts).of_runs hr
    rw [hg]
    exact ih.moved ha
  | shared a _ ha ih =>
    rw [Ground.addressing_accessed ha]
    exact ih

/-- A session that is over has left no peer. -/
theorem Past.over {g : Ground} (h : Past history parts g)
    (ho : Latest raises ends history) : g.shared.peer = none := by
  have told := h.told
  unfold Ground.addressing at told
  cases hp : g.shared.peer with
  | none => rfl
  | some info =>
    rw [hp] at told
    obtain ⟨⟨m, r⟩, he, hb⟩ :=
      ho.meet told.1 (fun _ => .inr) fun _ h => ⟨info, h⟩
    cases m with
    | asked call => exact hb.elim
    | up address peer => exact he.elim
    | ended => exact hb.elim

/-- Resolvers for no session are refused, and change nothing. -/
theorem runs_setDns_iff {g g' : Ground} (hp : g.shared.peer = none)
    {primary secondary : Address} {parts' : Parts} {t : List (Event Board)}
    {r : Except Gsm.NetifError Unit} :
    Runs Ground.answers ((answer (.setDns primary secondary)).run parts) g
        t (r, parts') g'
      ↔ t = [⟨.shared .peer, (none : Option IpInfo)⟩]
        ∧ r = .error .noInterface ∧ parts' = parts ∧ g' = g := by
  constructor
  · intro h
    cases h with | @call _ _ _ g₁ _ peer _ _ hm h =>
    obtain ⟨hr, rfl⟩ := Ground.answers_shared.1 hm
    obtain rfl : peer = none := hr.trans hp
    cases h
    exact ⟨rfl, rfl, rfl, rfl⟩
  · rintro ⟨rfl, rfl, rfl, rfl⟩
    exact .call (Ground.answers_shared.2 ⟨hp.symm, rfl⟩) (.done _ _)

/-- The stack has an address if and only if a `peer` is noted down. It is
the address of a session that came up and that nothing has ended, and of
the resolvers there are either none, none having been set since, or the two
that were set last. Once a session is over, and until another comes up,
resolvers are refused, and setting them changes nothing. Nobody waits in
the middle of a move, and every move can be made. -/
theorem Past.stack_addressed {g : Ground} (h : Past history parts g) :
    (g.config.isSome = true ↔ g.shared.peer.isSome = true)
      ∧ (∀ info, g.shared.peer = some info →
        Latest binds (brings info) history
          ∧ ∃ resolvers, g.config = some {
              address := ⟨info.ip, 32⟩
              gateway := some info.gateway
              resolvers }
            ∧ (resolvers = [] ∧ Latest shapes raises history
              ∨ ∃ primary secondary, resolvers = [primary, secondary]
                ∧ Latest shapes (resolves primary secondary) history))
      ∧ (Latest raises ends history →
        ∀ primary secondary t r parts' g',
          Runs Ground.answers
              ((answer (.setDns primary secondary)).run parts) g
              t (r, parts') g'
            ↔ t = [⟨.shared .peer, (none : Option IpInfo)⟩]
              ∧ r = .error .noInterface ∧ parts' = parts ∧ g' = g)
      ∧ ∀ (m : Move) parts,
        ((m.act.run parts).Asks fun c : Call => c.waits = false)
          ∧ ∀ g, ∃ t x g',
            Runs Ground.answers (m.act.run parts) g t x g' := by
  have told := h.told
  refine ⟨told.isSome_iff, fun info hp => ?_, fun ho _ _ _ _ _ _ => ?_,
    fun m parts => ?_⟩
  · unfold Ground.addressing at told
    rw [hp] at told
    exact told
  · exact runs_setDns_iff (h.over ho)
  · refine ⟨m.brief parts, fun g => ?_⟩
    obtain ⟨t, hr⟩ := Ground.runs_turn (m.brief parts) g
    exact ⟨t, _, _, hr⟩

-- =========================================================== one session

/-- Make a move, and note it down. -/
def go (x : List (Event Moves) × Parts × Ground) (m : Move) :
    List (Event Moves) × Parts × Ground :=
  let y := (m.act.run x.2.1).run Ground.turn x.2.2
  (x.1 ++ [⟨m, y.1.1⟩], y.1.2, y.2)

/-- Moves made in a row by `go` keep to a `Past`. -/
theorem Past.goes {x : List (Event Moves) × Parts × Ground}
    (h : Past x.1 x.2.1 x.2.2) (ms : List Move) :
    Past (ms.foldl go x).1 (ms.foldl go x).2.1 (ms.foldl go x).2.2 := by
  induction ms generalizing x with
  | nil => exact h
  | cons m ms ih =>
    obtain ⟨t, hr⟩ := Ground.runs_turn (m.brief x.2.1) x.2.2
    exact ih (.moved m h hr)

/-- A session that comes up and gets its resolvers, after which it is set
up as it should be; and the same session when it is over. -/
theorem Past.stack_addressed_over :
    let info : IpInfo :=
      ⟨⟨10, 64, 12, 7⟩, Address.hostMask, ⟨10, 64, 64, 64⟩⟩
    let moves : List Move :=
      [.asked .create, .up (some info.ip) (some info.gateway),
        .asked (.setDns ⟨8, 8, 8, 8⟩ ⟨1, 1, 1, 1⟩)]
    let parts : Parts := { wiring := Config.Settings.standard.uart }
    let x := moves.foldl go ([], parts, {})
    let y := go x .ended
    Past x.1 x.2.1 x.2.2
      ∧ (∃ resolvers, x.2.2.config = some {
          address := ⟨info.ip, 32⟩
          gateway := some info.gateway
          resolvers })
      ∧ Past y.1 y.2.1 y.2.2
      ∧ ∀ primary secondary, ∃ t,
        Runs Ground.answers
          ((answer (.setDns primary secondary)).run y.2.1) y.2.2
          t (.error .noInterface, y.2.1) y.2.2 := by
  intro info moves parts x y
  have made : Past [] parts {} := .made rfl rfl
  have hx : Past x.1 x.2.1 x.2.2 := made.goes moves
  have hy : Past y.1 y.2.1 y.2.2 := hx.goes [.ended]
  obtain ⟨resolvers, hc, -⟩ := (hx.stack_addressed.2.1 info rfl).2
  have ended : Latest raises ends y.1 := latest_concat.2 (.inl trivial)
  refine ⟨hx, ⟨resolvers, hc⟩, hy, fun primary secondary => ?_⟩
  exact ⟨[⟨.shared .peer, (none : Option IpInfo)⟩],
    (hy.stack_addressed.2.2.1 ended _ _ _ _ _ _).2 ⟨rfl, rfl, rfl, rfl⟩⟩

end Ppp

end Uplink.Board
