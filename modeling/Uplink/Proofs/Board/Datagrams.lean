/-
Datagrams from anybody, and the one that counts.

# One buffer

Everything that comes in on the port of an exchange is put into one
buffer: what strangers sent, and then the reply. A stray leaves its bytes
there, but the buffer keeps its length (`run_strays`), and the reply is
what stands before its own length (`run_genuine`). The packet that is
read is cut there, so it is the datagram that came from the peer, whatever
the buffer held before.

# Any surroundings

`delivers` leaves everything open but the socket and the resolver: which
transport carries the traffic, how long anything takes, and whether the
stack does what it is asked for. Where two sockets hold queues that are
`Twins`, each step that the one makes possible the other does, with
answers that differ in nothing but the bytes behind the packet. So every
run of a query on the one is followed by a run on the other
(`strays_without_influence`).
-/
import Uplink.Proofs.Board.Routing
import Uplink.Proofs.Pairs
import Uplink.Proofs.Time.Exchange

namespace Uplink.Board

open Net (Address Endpoint)
open Time (Delivery SntpError SyncedClock clockOf ntpPort packetLength
  readReply replyTimeout)
open Proc (Akin Alike Runs alike_ask_bind exists_runs_within
  runs_bind_iff runs_call_iff runs_done_iff)

variable {α β : Type}

-- ============================================================ one buffer

/-- The datagram can be received, and fits a buffer of this length. -/
def Datagram.Fits (capacity : Nat) (d : Datagram) : Prop :=
  ∃ content, d.content = some content ∧ content.length ≤ capacity

namespace Receiver

variable {r : Receiver} {d : Datagram} {later : List Datagram}

/-- A stray leaves its bytes in the buffer. -/
theorem take_stray (hd : d.sender ≠ r.peer)
    (hfit : d.Fits r.buffer.length) :
    ∃ buffer, buffer.length = r.buffer.length
      ∧ r.take d = .inr { r with buffer } := by
  obtain ⟨content, hc, hle⟩ := hfit
  refine ⟨content ++ r.buffer.drop content.length, ?_, ?_⟩
  · rw [List.length_append, List.length_drop]
    omega
  · unfold take
    rw [hc]
    dsimp only
    rw [if_neg (Nat.not_lt.2 hle), if_neg hd]

/-- However many strays there are, nothing is settled by them. -/
theorem run_strays {strays : List Datagram}
    (hs : ∀ d ∈ strays, d.sender ≠ r.peer)
    (hfit : ∀ d ∈ strays, d.Fits r.buffer.length)
    (later : List Datagram) :
    ∃ buffer, buffer.length = r.buffer.length
      ∧ r.run (strays ++ later) = run { r with buffer } later := by
  induction strays generalizing r with
  | nil => exact ⟨r.buffer, rfl, rfl⟩
  | cons d strays ih =>
    obtain ⟨hd, hs⟩ := List.forall_mem_cons.1 hs
    obtain ⟨hdfit, hfit⟩ := List.forall_mem_cons.1 hfit
    obtain ⟨buffer, hlen, htake⟩ := take_stray hd hdfit
    obtain ⟨buffer', hlen', hrun⟩ := ih (r := { r with buffer }) hs
      fun e he => hlen ▸ hfit e he
    refine ⟨buffer', hlen'.trans hlen, ?_⟩
    rw [List.cons_append, run, htake]
    exact hrun

/-- The first datagram from the peer ends the wait, if it can be received
and fits. -/
theorem run_genuine {content : List UInt8} (hd : d.sender = r.peer)
    (hc : d.content = some content)
    (hfit : content.length ≤ r.buffer.length) :
    r.run (d :: later)
      = (.inl (.ok ⟨content.length,
          content ++ r.buffer.drop content.length⟩), later) := by
  rw [run, take, hc]
  dsimp only
  rw [if_neg (Nat.not_lt.2 hfit), if_pos hd]

/-- The first datagram from the peer settles the matter. -/
theorem run_first {strays : List Datagram} {content : List UInt8}
    (hs : ∀ d ∈ strays, d.sender ≠ r.peer) (hd : d.sender = r.peer)
    (hfit : ∀ e ∈ strays ++ d :: later, e.Fits r.buffer.length)
    (hc : d.content = some content) :
    ∃ tail, r.run (strays ++ d :: later)
      = (.inl (.ok ⟨content.length, content ++ tail⟩), later) := by
  obtain ⟨hsfit, hdfit⟩ := List.forall_mem_append.1 hfit
  obtain ⟨buffer, hlen, hrun⟩ := run_strays hs hsfit (d :: later)
  obtain ⟨_, hc', hle⟩ := hdfit d List.mem_cons_self
  obtain rfl := Option.some.inj (hc.symm.trans hc')
  rw [hrun, run_genuine (r := { r with buffer }) hd hc (hlen ▸ hle)]
  exact ⟨_, rfl⟩

/-- Where there is none, nothing comes of it. -/
theorem run_find_none {queue : List Datagram}
    (hfit : ∀ d ∈ queue, d.Fits r.buffer.length)
    (hnone : queue.find? (·.sender = r.peer) = none) :
    ∃ buffer, r.run queue = (.inr { r with buffer }, []) := by
  obtain ⟨buffer, -, hrun⟩ := run_strays
    (fun d hd => by simpa using List.find?_eq_none.1 hnone d hd) hfit []
  exact ⟨buffer, (List.append_nil queue).symm ▸ hrun⟩

end Receiver

-- ======================================================== any surroundings

/-- A socket: what comes in, and who waits for it. -/
structure Mailbox where
  queue : List Datagram
  receiver : Option Receiver := none

namespace Mailbox

/-- What the wait comes to, and what is left in the queue, if it is
over. -/
def settled (box : Mailbox) :
    Option (Except ReceiveFault Delivery × List Datagram) :=
  match box.receiver with
  | none => none
  | some r =>
    match r.run box.queue with
    | (.inl result, later) => some (result, later)
    | (.inr _, _) => none

variable {peer : Endpoint} {capacity : Nat} {queue : List Datagram}

/-- Datagrams that fit a buffer of this capacity fit that of a receiver
that has just begun to wait. -/
theorem fits_awaiting (hfit : ∀ d ∈ queue, d.Fits capacity) :
    ∀ d ∈ queue, d.Fits (Receiver.awaiting peer capacity).buffer.length := by
  unfold Receiver.awaiting
  rwa [List.length_replicate]

/-- With strays first and then a `Datagram` from the peer, the wait comes
to that datagram, and leaves what is behind it. -/
theorem settled_of_first {strays later : List Datagram} {d : Datagram}
    {content : List UInt8} (hs : ∀ e ∈ strays, e.sender ≠ peer)
    (hd : d.sender = peer)
    (hfit : ∀ e ∈ strays ++ d :: later, e.Fits capacity)
    (hc : d.content = some content) :
    ∃ tail, settled ⟨strays ++ d :: later, some (.awaiting peer capacity)⟩
      = some (.ok ⟨content.length, content ++ tail⟩, later) := by
  obtain ⟨tail, hrun⟩ := Receiver.run_first
    (r := .awaiting peer capacity) hs hd (fits_awaiting hfit) hc
  refine ⟨tail, ?_⟩
  unfold settled
  dsimp only
  rw [hrun]

/-- The wait comes to the first datagram from the peer, wherever in the
queue it is. -/
theorem settled_of_find {d : Datagram}
    (hfit : ∀ d ∈ queue, d.Fits capacity)
    (hd : queue.find? (·.sender = peer) = some d) :
    ∃ content tail later, d.content = some content
      ∧ content.length ≤ capacity
      ∧ settled ⟨queue, some (.awaiting peer capacity)⟩
        = some (.ok ⟨content.length, content ++ tail⟩, later) := by
  obtain ⟨content, hc, hle⟩ := hfit d (List.mem_of_find?_eq_some hd)
  obtain ⟨hsender, strays, later, rfl, hs⟩ :=
    List.find?_eq_some_iff_append.1 hd
  obtain ⟨tail, hsettled⟩ := settled_of_first
    (fun e he => by simpa using hs e he) (by simpa using hsender) hfit hc
  exact ⟨content, tail, later, hc, hle, hsettled⟩

/-- A wait is over where the first datagram from the peer is there. -/
theorem find_of_settled {result : Except ReceiveFault Delivery}
    {later : List Datagram} (hfit : ∀ d ∈ queue, d.Fits capacity)
    (h : settled ⟨queue, some (.awaiting peer capacity)⟩
      = some (result, later)) :
    ∃ d content tail, queue.find? (·.sender = peer) = some d
      ∧ d.content = some content ∧ content.length ≤ capacity
      ∧ result = .ok ⟨content.length, content ++ tail⟩ := by
  cases hd : queue.find? (·.sender = peer) with
  | none =>
    obtain ⟨buffer, hrun⟩ := Receiver.run_find_none
      (r := .awaiting peer capacity) (fits_awaiting hfit) hd
    unfold settled at h
    dsimp only at h
    rw [hrun] at h
    cases h
  | some d =>
    obtain ⟨content, tail, later', hc, hle, hsettled⟩ :=
      settled_of_find hfit hd
    cases h.symm.trans hsettled
    exact ⟨d, content, tail, rfl, hc, hle, rfl⟩

end Mailbox

/-- A resolver that finds these addresses, and a socket that gets whole
datagrams in their order. All else is left open. -/
def delivers (hosts : String → Option (List Address)) :
    Behaviour Board Mailbox :=
  fun c box r box' =>
    match c, r with
    | .await waits, place =>
      (∃ w, waits[place]? = some w
        ∧ (w = .datagram → box.settled.isSome = true)) ∧ box' = box
    | .stack _ (.resolve host), pending =>
      pending.value = hosts host ∧ box' = box
    | .stack _ (.receive receiver), _ =>
      box' = { box with receiver := some receiver }
    | .stack _ .received, result =>
      ∃ later, box.settled = some (result, later) ∧ box' = ⟨later, none⟩
    | _, _ => box' = box

/-- The stack is not to be had, does not find the host, or does not do
what it is asked for. -/
inductive Refused : Event Board → Prop
  | idle {status : Network.Status} : status.active = none →
      Refused ⟨.shared .status, status⟩
  | unknown {k : Stack} {host : String}
      {pending : Pending (Option (List Address))} :
      (∀ address others, pending.value ≠ some (address :: others)) →
      Refused ⟨.stack k (.resolve host), pending⟩
  | bind {k : Stack} {port : Nat} : Refused ⟨.stack k (.bind port), false⟩
  | send {k : Stack} {peer : Endpoint} {content : List UInt8} :
      Refused ⟨.stack k (.send peer content), false⟩

/-- The first datagram from where the server is found has this content. -/
def Genuine (hosts : String → Option (List Address)) (server : String)
    (queue : List Datagram) (content : List UInt8) : Prop :=
  ∃ address others d, hosts server = some (address :: others)
    ∧ queue.find? (·.sender = ⟨address, ntpPort⟩) = some d
    ∧ d.content = some content

section

variable {hosts : String → Option (List Address)} {box box' : Mailbox}
variable {t : List (Event Board)} {queue : List Datagram}
variable {server : String} {request content : List UInt8}
variable {r : Except SntpError Delivery}

/-- One `Wait` that is not for datagrams leaves the socket as it is. -/
theorem runs_awaitOne {w : Wait} {u : Unit}
    (h : Runs (delivers hosts) (awaitOne w) box t u box') : box' = box := by
  obtain ⟨place, _, t, rfl, ⟨-, rfl⟩, hrest⟩ := runs_call_iff.1 h
  exact (runs_done_iff.1 hrest).2.2

/-- The answer of the resolver may take its time. -/
theorem runs_settle {pending : Pending α} {a : α}
    (h : Runs (delivers hosts) pending.settle box t a box') :
    a = pending.value ∧ box' = box := by
  unfold Pending.settle at h
  split at h
  · exact (runs_done_iff.1 h).2
  · obtain ⟨_, _, _, _, -, hwait, hrest⟩ := runs_bind_iff.1 h
    obtain rfl := runs_awaitOne hwait
    exact (runs_done_iff.1 hrest).2
  · obtain ⟨_, _, t, rfl, ⟨-, rfl⟩, hrest⟩ := runs_call_iff.1 h
    exact (runs_done_iff.1 hrest).2

/-- A guard takes nothing away from what is waited for besides. -/
theorem delivers_guarded {guard : Wait} {waits : List Wait} {place : Nat}
    (hplace : place < waits.length)
    (h : delivers hosts (.await (waits ++ [guard])) box place box') :
    delivers hosts (.await waits) box place box' := by
  obtain ⟨⟨w, hw, hsettled⟩, rfl⟩ := h
  rw [List.getElem?_append_left hplace] at hw
  exact ⟨⟨w, hw, hsettled⟩, rfl⟩

/-- A guard behind some waits lets each of them end as it could. -/
theorem guarded_delivers {guard : Wait} {waits : List Wait} {place : Nat}
    (h : delivers hosts (.await waits) box place box') :
    place < waits.length
      ∧ delivers hosts (.await (waits ++ [guard])) box place box' := by
  obtain ⟨⟨w, hw, hsettled⟩, rfl⟩ := h
  have hplace := (List.getElem?_eq_some_iff.1 hw).1
  refine ⟨hplace, ⟨w, ?_, hsettled⟩, rfl⟩
  rwa [List.getElem?_append_left hplace]

namespace Sntp

/-- A packet that fits is the content of its datagram. -/
theorem packet_eq (hfit : content.length ≤ packetLength)
    (tail : List UInt8) :
    (⟨content.length, content ++ tail⟩ : Delivery).packet = content := by
  unfold Delivery.packet
  rw [Nat.min_eq_left hfit, List.take_left]

/-- What is asked of an address is refused, or answered by the first
datagram from there. -/
theorem runs_ask {k : Stack} {address : Address}
    (hfit : ∀ d ∈ box.queue, d.Fits packetLength)
    (h : Runs (delivers hosts) (ask k address request packetLength) box t r
      box') :
    (r = .error .transport ∧ ∃ e ∈ t, Refused e)
      ∨ ∃ d content tail,
        box.queue.find? (·.sender = ⟨address, ntpPort⟩) = some d
        ∧ d.content = some content ∧ content.length ≤ packetLength
        ∧ r = .ok ⟨content.length, content ++ tail⟩ := by
  obtain ⟨bound, _, t, rfl, rfl, hbound⟩ := runs_call_iff.1 h
  cases bound with
  | false =>
    obtain ⟨-, rfl, -⟩ := runs_done_iff.1 hbound
    exact .inl ⟨rfl, _, List.mem_cons_self, .bind⟩
  | true =>
    obtain ⟨sent, _, t, rfl, rfl, hsent⟩ := runs_call_iff.1 hbound
    cases sent with
    | false =>
      obtain ⟨-, rfl, -⟩ := runs_done_iff.1 hsent
      exact .inl ⟨rfl, _, List.mem_cons_of_mem _ List.mem_cons_self, .send⟩
    | true =>
      obtain ⟨⟨⟩, _, t, rfl, rfl, hposted⟩ := runs_call_iff.1 hsent
      obtain ⟨_, _, _, _, rfl, hwait, hover⟩ :=
        (runs_bind_iff (p := awaitOne .datagram)).1 hposted
      obtain rfl := runs_awaitOne hwait
      obtain ⟨result, _, t, rfl, ⟨later, hsettled, -⟩, hend⟩ :=
        runs_call_iff.1 hover
      obtain ⟨d, content, tail, hd, hc, hle, rfl⟩ :=
        Mailbox.find_of_settled hfit hsettled
      obtain ⟨-, rfl, -⟩ := runs_done_iff.1 hend
      exact .inr ⟨d, content, tail, hd, hc, hle, rfl⟩

/-- An `exchange` is refused, or takes the reply. -/
theorem runs_exchange (hfit : ∀ d ∈ box.queue, d.Fits packetLength)
    (h : Runs (delivers hosts) (exchange server request packetLength) box t
      r box') :
    (r = .error .transport ∧ ∃ e ∈ t, Refused e)
      ∨ ∃ content delivery, Genuine hosts server box.queue content
        ∧ r = .ok delivery ∧ delivery.length = content.length
        ∧ delivery.packet = content := by
  rw [exchange_eq] at h
  obtain ⟨status, _, t, rfl, rfl, hstatus⟩ := runs_call_iff.1 h
  cases hactive : status.active with
  | none =>
    rw [hactive] at hstatus
    obtain ⟨-, rfl, -⟩ := runs_done_iff.1 hstatus
    exact .inl ⟨rfl, _, List.mem_cons_self, .idle hactive⟩
  | some transport =>
    rw [hactive] at hstatus
    obtain ⟨pending, _, t, rfl, ⟨hvalue, rfl⟩, hresolved⟩ :=
      runs_call_iff.1 hstatus
    obtain ⟨t₁, t₂, found, _, rfl, hsettle, hfound⟩ :=
      (runs_bind_iff (p := pending.settle)).1 hresolved
    obtain ⟨rfl, rfl⟩ := runs_settle hsettle
    have unknown (hv : ∀ address others,
        pending.value ≠ some (address :: others)) :
        ∃ e ∈ (⟨_, status⟩ : Event Board) :: ⟨_, pending⟩ :: (t₁ ++ t₂),
          Refused e :=
      ⟨_, List.mem_cons_of_mem _ List.mem_cons_self, .unknown hv⟩
    -- a host without an address is as good as unknown
    rcases hp : pending.value with _ | _ | ⟨address, others⟩
    · rw [hp] at hfound
      exact .inl ⟨(runs_done_iff.1 hfound).2.1, unknown (by simp [hp])⟩
    · rw [hp] at hfound
      exact .inl ⟨(runs_done_iff.1 hfound).2.1, unknown (by simp [hp])⟩
    · rw [hp] at hfound
      obtain ⟨⟨⟩, _, t₂, rfl, rfl, hasked⟩ := runs_call_iff.1 hfound
      rcases runs_ask hfit hasked with ⟨rfl, e, he, href⟩ | hreply
      · refine .inl ⟨rfl, e, ?_, href⟩
        simp [he]
      · obtain ⟨d, content, tail, hd, hc, hle, rfl⟩ := hreply
        exact .inr ⟨content, _,
          ⟨address, others, d, hvalue.symm.trans hp, hd, hc⟩, rfl, rfl,
          packet_eq hle tail⟩

/-- Where the reply is in the queue, asking can come to it. -/
theorem exists_runs_ask (hosts : String → Option (List Address))
    (k : Stack) (request : List UInt8) {address : Address} {d : Datagram}
    (hfit : ∀ d ∈ box.queue, d.Fits packetLength)
    (hd : box.queue.find? (·.sender = ⟨address, ntpPort⟩) = some d)
    (hc : d.content = some content) :
    content.length ≤ packetLength ∧ ∃ t tail box',
      Runs (delivers hosts) (ask k address request packetLength) box t
        (.ok ⟨content.length, content ++ tail⟩) box' := by
  obtain ⟨_, tail, later, hc', hle, hsettled⟩ :=
    Mailbox.settled_of_find hfit hd
  obtain rfl := Option.some.inj (hc.symm.trans hc')
  let delivery : Delivery := ⟨content.length, content ++ tail⟩
  let waiting : Mailbox :=
    ⟨box.queue, some (.awaiting ⟨address, ntpPort⟩ packetLength)⟩
  -- the genuine datagram is in the queue, so the wait for one ends
  have ended : waiting.settled.isSome = true := by
    rw [hsettled]
    rfl
  have hwait : Runs (delivers hosts) (awaitOne .datagram) waiting
      [⟨.await [.datagram], (0 : Nat)⟩] () waiting :=
    .call ⟨⟨.datagram, rfl, fun _ => ended⟩, rfl⟩ (.done _ _)
  have received : delivers hosts (.stack k .received) waiting
      (.ok delivery) ⟨later, none⟩ := ⟨later, hsettled, rfl⟩
  refine ⟨hle, ⟨.stack k (.bind localPort), true⟩
    :: ⟨.stack k (.send ⟨address, ntpPort⟩ request), true⟩
    :: ⟨.stack k (.receive (.awaiting ⟨address, ntpPort⟩ packetLength)), ()⟩
    :: ([⟨.await [.datagram], (0 : Nat)⟩]
      ++ [⟨.stack k .received, .ok delivery⟩]),
    tail, ⟨later, none⟩, ?_⟩
  refine .call rfl ?_
  refine .call rfl ?_
  refine .call rfl ?_
  refine (runs_bind_iff (p := awaitOne .datagram)).2
    ⟨_, _, (), waiting, rfl, hwait, ?_⟩
  exact runs_call_iff.2 ⟨_, _, _, rfl, received, .done _ _⟩

/-- And so can an `exchange`. -/
theorem exists_runs_exchange (request : List UInt8)
    (hfit : ∀ d ∈ box.queue, d.Fits packetLength)
    (hgenuine : Genuine hosts server box.queue content) :
    content.length ≤ packetLength ∧ ∃ t tail box',
      Runs (delivers hosts) (exchange server request packetLength) box t
        (.ok ⟨content.length, content ++ tail⟩) box' := by
  obtain ⟨address, others, d, hhosts, hd, hc⟩ := hgenuine
  obtain ⟨hle, t, tail, box', hask⟩ :=
    exists_runs_ask hosts (.ofTransport .wifi) request hfit hd hc
  let online : Network.Status := { active := some .wifi }
  let found : Pending (Option (List Address)) :=
    ⟨.now, some (address :: others)⟩
  rw [exchange_eq]
  exact ⟨hle, _, tail, box', .call (r := online) rfl
    (.call (r := found) ⟨hhosts.symm, rfl⟩ (.call (r := ()) rfl hask))⟩

/-- A `query` comes to nothing in time, is refused, or reads the reply and
nothing else. -/
theorem runs_query {r : Except SntpError SyncedClock}
    (hfit : ∀ d ∈ box.queue, d.Fits packetLength)
    (h : Runs (delivers hosts) ((Time.query server).within answer) box t r
      box') :
    r = .error .timeout
      ∨ (r = .error .transport ∧ ∃ e ∈ t, Refused e)
      ∨ ∃ content t₁ t₂ sentAt receivedAt,
        Genuine hosts server box.queue content
        ∧ t = ⟨.now, sentAt⟩ :: (t₁ ++ ⟨.now, receivedAt⟩ :: t₂)
        ∧ r = (readReply content).map fun reply =>
            clockOf reply sentAt receivedAt := by
  obtain ⟨sentAt, _, t, rfl, rfl, hsent⟩ := runs_call_iff.1 h
  obtain ⟨t₁, t₂, outcome, _, rfl, hlimit, hrest⟩ := (runs_bind_iff
    (p := limit replyTimeout
      (exchange server Time.request packetLength))).1 hsent
  rcases outcome with _ | outcome
  · exact .inl (runs_done_iff.1 hrest).2.1
  · obtain ⟨timer, _, t₁, rfl, rfl, hrace⟩ := runs_call_iff.1 hlimit
    obtain ⟨t', hexchange, hmem⟩ :=
      runs_race (fun _ _ _ _ => delivers_guarded) hrace
    rcases runs_exchange hfit hexchange with ⟨rfl, e, he, href⟩ | hreply
    · refine .inr (.inl ⟨(runs_done_iff.1 hrest).2.1, e, ?_, href⟩)
      have he' := hmem e he (by cases href <;> rfl)
      simp [he']
    · obtain ⟨content, delivery, hgenuine, rfl, -, hpacket⟩ := hreply
      obtain ⟨receivedAt, _, t₂, rfl, rfl, hread⟩ := runs_call_iff.1 hrest
      refine .inr (.inr ⟨content, _, _, sentAt, receivedAt, hgenuine, rfl, ?_⟩)
      rw [← hpacket]
      cases hr : readReply delivery.packet with
      | error e =>
        simp only [Proc.bind, hr] at hread
        exact (runs_done_iff.1 hread).2.1
      | ok reply =>
        simp only [Proc.bind, hr] at hread
        obtain ⟨_, _, _, -, -, hend⟩ := runs_call_iff.1 hread
        exact (runs_done_iff.1 hend).2.1

/-- And it can come to read the reply, at any time. -/
theorem exists_runs_query (hfit : ∀ d ∈ box.queue, d.Fits packetLength)
    (hgenuine : Genuine hosts server box.queue content)
    (sentAt receivedAt : UInt64) :
    ∃ t box', Runs (delivers hosts) ((Time.query server).within answer) box t
      ((readReply content).map fun reply =>
        clockOf reply sentAt receivedAt) box' := by
  obtain ⟨hle, t, tail, box', hexchange⟩ :=
    exists_runs_exchange Time.request hfit hgenuine
  obtain ⟨t₁, hrace⟩ := exists_runs_race (.timer ⟨0, 0⟩)
    (fun _ _ _ _ => guarded_delivers) hexchange
  let answered : Behaviour Time.Servers Mailbox :=
    fun c s r s' => ∃ t, Runs (delivers hosts) (answer c) s t r s'
  have exchanged : answered (.exchange server Time.request replyTimeout)
      box (some (.ok ⟨content.length, content ++ tail⟩)) box' :=
    ⟨_, runs_call_iff.2 ⟨(⟨0, 0⟩ : Timer), box, t₁, rfl, rfl, hrace⟩⟩
  obtain ⟨t, hquery⟩ := Time.exists_runs_query exchanged
    (fun _ _ => ⟨_, .call rfl (.done _ _)⟩)
    (fun _ _ => ⟨_, .call rfl (.done _ _)⟩) sentAt receivedAt
  obtain ⟨t', hruns⟩ := exists_runs_within (fun _ _ _ _ h => h) hquery
  rw [packet_eq hle tail] at hruns
  exact ⟨t', box', hruns⟩

end Sntp

end

-- ================================================================== twins

/-- What two exchanges come to, but for what is in the buffer behind the
packet. -/
def Agree {ε : Type} : Except ε Delivery → Except ε Delivery → Prop
  | .ok d, .ok d' => d.length = d'.length ∧ d.packet = d'.packet
  | .error e, .error e' => e = e'
  | _, _ => False

/-- What two sockets answer, but for what is in the buffer behind the
packet. -/
def Matching (hosts : String → Option (List Address)) :
    (c : Call) → c.Answer → c.Answer → Prop
  | .stack _ (.resolve host), pending, pending' =>
    pending' = pending ∧ pending.value = hosts host
  | .stack _ .received, result, result' => Agree result result'
  | _, r, r' => r' = r

/-- The call may be made in an exchange with this peer. -/
def Call.exchanges (peer : Endpoint) : Call → Prop
  | stack _ (.receive r) => r = .awaiting peer packetLength
  | _ => True

/-- The queues differ in nothing but the strays before the first datagram
from the peer. -/
def Twins (peer : Endpoint) (queue queue' : List Datagram) : Prop :=
  ∃ strays strays' d later, queue = strays ++ d :: later
    ∧ queue' = strays' ++ d :: later
    ∧ (∀ e ∈ strays ++ strays', e.sender ≠ peer) ∧ d.sender = peer

section

variable {hosts : String → Option (List Address)} {peer : Endpoint}
variable {P : Call → Prop}
variable {A : (c : Call) → c.Answer → c.Answer → Prop}

theorem Agree.refl {ε : Type} (r : Except ε Delivery) : Agree r r := by
  cases r with
  | error e => exact rfl
  | ok d => exact ⟨rfl, rfl⟩

/-- Programs that are `Alike` are so under a guard. -/
theorem alike_race {guard : Wait} {R : α → β → Prop} {p : Proc Board α}
    {q : Proc Board β}
    (hP : ∀ waits, P (.await waits) → P (.await (waits ++ [guard])))
    (hA : ∀ waits (place place' : Nat),
      A (.await (waits ++ [guard])) place place' →
      place' = place ∧ A (.await waits) place place)
    (h : Alike (I := Board) P A R p q) :
    Alike (I := Board) P A (Option.Rel R) (race guard p) (race guard q) := by
  induction h with
  | done hr => exact .done (.some hr)
  | @call c k k' hc _ ih =>
    by_cases hw : c.waits = false
    · rw [race_call hw, race_call hw]
      exact .call hc ih
    · cases c with
      | await waits =>
        refine .call (hP waits hc) fun place place' hplace => ?_
        obtain ⟨rfl, hA⟩ := hA waits place place' hplace
        show Alike (I := Board) P A _ (if place' < waits.length then _ else _)
          (if place' < waits.length then _ else _)
        split
        · exact ih place' place' hA
        · exact .done .none
      | _ => exact absurd rfl hw

/-- A wait for an answer ends with that answer on both sides. -/
theorem alike_settle (pending : Pending α) :
    Alike (I := Board) (Call.exchanges peer) (Matching hosts)
      (fun a b => a = pending.value ∧ b = pending.value)
      pending.settle pending.settle := by
  unfold Pending.settle
  split
  · exact .done ⟨rfl, rfl⟩
  · exact .call trivial fun _ _ _ => .done ⟨rfl, rfl⟩
  · exact .call trivial fun _ _ _ => .done ⟨rfl, rfl⟩

namespace Sntp

/-- Two sockets that answer `Alike` but for what is behind the packet make
two runs of `ask` alike in the same sense: the number of bytes received,
and the packet, are the same. -/
theorem alike_ask {k : Stack} {address : Address}
    {request : List UInt8} :
    Alike (Call.exchanges ⟨address, ntpPort⟩) (Matching hosts) Agree
      (ask k address request packetLength)
      (ask k address request packetLength) := by
  refine alike_ask_bind trivial fun _ bound h => ?_
  obtain rfl := h
  cases bound with
  | false => exact .done rfl
  | true =>
    refine alike_ask_bind trivial fun _ sent h => ?_
    obtain rfl := h
    cases sent with
    | false => exact .done rfl
    | true =>
      refine alike_ask_bind rfl fun _ _ _ => ?_
      refine alike_ask_bind trivial fun _ _ h => ?_
      refine alike_ask_bind trivial fun result result' h => ?_
      rcases result with ⟨⟨⟩⟩ | delivery
      · rcases result' with ⟨⟨⟩⟩ | delivery'
        · exact .done rfl
        · exact h.elim
      · rcases result' with ⟨⟨⟩⟩ | delivery'
        · exact h.elim
        · exact .done h

/-- The same for a whole `exchange`, from the look-up of the server on. -/
theorem alike_exchange {server : String} {request : List UInt8}
    {address : Address} {others : List Address}
    (hhosts : hosts server = some (address :: others)) :
    Alike (Call.exchanges ⟨address, ntpPort⟩) (Matching hosts) Agree
      (exchange server request packetLength)
      (exchange server request packetLength) := by
  rw [exchange_eq]
  refine .call trivial fun _ status h => ?_
  obtain rfl := h
  cases status.active with
  | none => exact .done rfl
  | some transport =>
    refine alike_ask_bind trivial fun _ pending h => ?_
    obtain ⟨rfl, hvalue⟩ := h
    refine (alike_settle pending).bind fun found _ h => ?_
    obtain ⟨rfl, rfl⟩ := h
    rw [hvalue, hhosts]
    exact alike_ask_bind trivial fun _ _ _ => alike_ask

/-- What a `query` reads is the packet. -/
theorem alike_query {server : String} {address : Address}
    {others : List Address}
    (hhosts : hosts server = some (address :: others)) :
    Alike (Call.exchanges ⟨address, ntpPort⟩) (Matching hosts) Eq
      ((Time.query server).within answer)
      ((Time.query server).within answer) := by
  refine alike_ask_bind trivial fun _ sentAt h => ?_
  obtain rfl := h
  -- the limit on the exchange ends both or neither
  have limited : Alike (Call.exchanges ⟨address, ntpPort⟩)
      (Matching hosts) (Option.Rel Agree)
      (limit replyTimeout (exchange server Time.request packetLength))
      (limit replyTimeout (exchange server Time.request packetLength)) := by
    refine alike_ask_bind trivial fun _ timer h => ?_
    obtain rfl := h
    exact alike_race (fun _ _ => trivial) (fun _ _ _ h => ⟨h, rfl⟩)
      (alike_exchange hhosts)
  refine Alike.bind limited fun outcome outcome' h => ?_
  cases h with
  | none => exact .done rfl
  | @some result result' h =>
    rcases result with e | delivery
    · rcases result' with e' | delivery'
      · obtain rfl : e = e' := h
        exact .done rfl
      · exact h.elim
    · rcases result' with e' | delivery'
      · exact h.elim
      · obtain ⟨-, hpacket⟩ := h
        refine alike_ask_bind trivial fun _ receivedAt h => ?_
        obtain rfl := h
        simp only [Proc.bind, hpacket]
        cases readReply delivery'.packet with
        | error e => exact .done rfl
        | ok reply => exact .call trivial fun _ _ _ => .done rfl

end Sntp

/-- The two sockets stand alike: nobody waits, or an exchange with this
peer, for the first datagram of two queues that are `Twins`; or that is
over, and what is left is the same. -/
def Abreast (peer : Endpoint) (box box' : Mailbox) : Prop :=
  box' = box
    ∨ (box'.receiver = box.receiver
      ∧ (∀ r, box.receiver = some r → r = .awaiting peer packetLength)
      ∧ Twins peer box.queue box'.queue
      ∧ (∀ d ∈ box.queue, d.Fits packetLength)
      ∧ ∀ d ∈ box'.queue, d.Fits packetLength)

/-- An answer matches itself. -/
theorem matching_self {c : Call} {box box' : Mailbox} {r : c.Answer}
    (h : delivers hosts c box r box') : Matching hosts c r r := by
  cases c with
  | stack k call =>
    cases call with
    | resolve host => exact ⟨rfl, h.1⟩
    | received => exact Agree.refl r
    | _ => exact rfl
  | _ => exact rfl

/-- Of queues that are `Twins` the same delivery comes, but for what is
behind the packet, and the same is left. -/
theorem Twins.settled {queue queue' : List Datagram}
    (h : Twins peer queue queue')
    (hfit : ∀ d ∈ queue, d.Fits packetLength)
    (hfit' : ∀ d ∈ queue', d.Fits packetLength) :
    ∃ delivery delivery' later,
      Mailbox.settled ⟨queue, some (.awaiting peer packetLength)⟩
          = some (.ok delivery, later)
        ∧ Mailbox.settled ⟨queue', some (.awaiting peer packetLength)⟩
          = some (.ok delivery', later)
        ∧ delivery.length = delivery'.length
        ∧ delivery.packet = delivery'.packet := by
  obtain ⟨strays, strays', d, later, rfl, rfl, hs, hd⟩ := h
  obtain ⟨hs, hs'⟩ := List.forall_mem_append.1 hs
  obtain ⟨content, hc, hle⟩ :=
    hfit d (List.mem_append_right _ List.mem_cons_self)
  obtain ⟨tail, hsettled⟩ := Mailbox.settled_of_first hs hd hfit hc
  obtain ⟨tail', hsettled'⟩ := Mailbox.settled_of_first hs' hd hfit' hc
  exact ⟨_, _, later, hsettled, hsettled', rfl,
    (Sntp.packet_eq hle tail).trans (Sntp.packet_eq hle tail').symm⟩

/-- What one socket can answer, the other can. -/
theorem Abreast.follow {c : Call} {box box' x : Mailbox} {r : c.Answer}
    (hc : c.exchanges peer) (hx : Abreast peer box x)
    (h : delivers hosts c box r box') :
    ∃ r' x', delivers hosts c x r' x' ∧ Matching hosts c r r'
      ∧ Abreast peer box' x' := by
  rcases hx with rfl | hx
  · exact ⟨r, box', h, matching_self h, .inl rfl⟩
  -- a wait is over in one queue exactly where it is in the other, and the
  -- delivery is of one datagram
  obtain ⟨queue, receiver⟩ := box
  obtain ⟨queue', receiver'⟩ := x
  obtain ⟨hreceiver, hpeer, htwins, hfit, hfit'⟩ := hx
  obtain rfl : receiver' = receiver := hreceiver
  have same : Abreast peer ⟨queue, receiver'⟩ ⟨queue', receiver'⟩ :=
    .inr ⟨rfl, hpeer, htwins, hfit, hfit'⟩
  cases c with
  | await waits =>
    obtain ⟨⟨w, hw, hsettled⟩, rfl⟩ := h
    refine ⟨r, _, ⟨⟨w, hw, fun hd => ?_⟩, rfl⟩, rfl, same⟩
    cases receiver' with
    | none => cases hsettled hd
    | some receiver =>
      obtain rfl := hpeer receiver rfl
      obtain ⟨_, _, _, -, hsettled', -⟩ := htwins.settled hfit hfit'
      exact hsettled' ▸ rfl
  | stack k call =>
    cases call with
    | resolve host =>
      obtain ⟨hvalue, rfl⟩ := h
      exact ⟨r, _, ⟨hvalue, rfl⟩, ⟨rfl, hvalue⟩, same⟩
    | receive receiver =>
      obtain rfl : receiver = .awaiting peer packetLength := hc
      obtain rfl := h
      refine ⟨r, _, rfl, rfl, .inr ⟨rfl, fun r hr => ?_, htwins, hfit, hfit'⟩⟩
      exact (Option.some.inj hr).symm
    -- twins settle for the same datagram, and leave the same behind it
    | received =>
      obtain ⟨later, hsettled, rfl⟩ := h
      cases receiver' with
      | none => cases hsettled
      | some receiver =>
        obtain rfl := hpeer receiver rfl
        obtain ⟨delivery, delivery', later', hbox, hx, hsame⟩ :=
          htwins.settled hfit hfit'
        cases hbox.symm.trans hsettled
        exact ⟨.ok delivery', _, ⟨_, hx, rfl⟩, hsame, .inl rfl⟩
    | _ =>
      obtain rfl := h
      exact ⟨r, _, rfl, rfl, same⟩
  | _ =>
    obtain rfl := h
    exact ⟨r, _, rfl, rfl, same⟩

end

/-- What the strays in a queue do not change. -/
structure Undisturbed (hosts : String → Option (List Address))
    (server : String) (queue : List Datagram) : Prop where
  /-- an exchange is refused, or it returns the length of the first
  datagram from the server, with that datagram in the buffer -/
  exchange : ∀ request t r box',
    Runs (delivers hosts) (Sntp.exchange server request packetLength)
        ⟨queue, none⟩ t r box' →
      (r = .error .transport ∧ ∃ e ∈ t, Refused e)
        ∨ ∃ content delivery, Genuine hosts server queue content
          ∧ r = .ok delivery ∧ delivery.length = content.length
          ∧ delivery.packet = content
  /-- nothing keeps it from that -/
  returns : ∀ request content, Genuine hosts server queue content →
    ∃ t tail box',
      Runs (delivers hosts) (Sntp.exchange server request packetLength)
        ⟨queue, none⟩ t (.ok ⟨content.length, content ++ tail⟩) box'
  /-- a query reads that datagram or none -/
  query : ∀ t r box',
    Runs (delivers hosts) ((Time.query server).within Sntp.answer)
        ⟨queue, none⟩ t r box' →
      r = .error .timeout
        ∨ (r = .error .transport ∧ ∃ e ∈ t, Refused e)
        ∨ ∃ content t₁ t₂ sentAt receivedAt,
          Genuine hosts server queue content
          ∧ t = ⟨.now, sentAt⟩ :: (t₁ ++ ⟨.now, receivedAt⟩ :: t₂)
          ∧ r = (readReply content).map fun reply =>
              clockOf reply sentAt receivedAt
  /-- and nothing keeps it from that, at any time -/
  reads : ∀ content, Genuine hosts server queue content →
    ∀ sentAt receivedAt, ∃ t box',
      Runs (delivers hosts) ((Time.query server).within Sntp.answer)
        ⟨queue, none⟩ t ((readReply content).map fun reply =>
          clockOf reply sentAt receivedAt) box'
  /-- had there been other strays before that datagram, every answer but
  the bytes behind the packet could be the same, and so is what comes of
  it -/
  strays : ∀ address others queue',
    hosts server = some (address :: others) →
    Twins ⟨address, ntpPort⟩ queue queue' →
    (∀ d ∈ queue', d.Fits packetLength) →
    (∀ request t r box',
      Runs (delivers hosts) (Sntp.exchange server request packetLength)
          ⟨queue, none⟩ t r box' →
        ∃ t' r' box'',
          Runs (delivers hosts) (Sntp.exchange server request packetLength)
            ⟨queue', none⟩ t' r' box''
          ∧ List.Forall₂ (Akin (Matching hosts)) t t' ∧ Agree r r')
    ∧ ∀ t r box',
      Runs (delivers hosts) ((Time.query server).within Sntp.answer)
          ⟨queue, none⟩ t r box' →
        ∃ t' box'',
          Runs (delivers hosts) ((Time.query server).within Sntp.answer)
            ⟨queue', none⟩ t' r box''
          ∧ List.Forall₂ (Akin (Matching hosts)) t t'

/-- Strays never influence the clock that a `query` sets
(`Undisturbed`). -/
theorem strays_without_influence
    (hosts : String → Option (List Address)) (server : String)
    {queue : List Datagram} (hfit : ∀ d ∈ queue, d.Fits packetLength) :
    Undisturbed hosts server queue where
  exchange _ _ _ _ h := Sntp.runs_exchange hfit h
  returns request _ h := (Sntp.exists_runs_exchange request hfit h).2
  query _ _ _ h := Sntp.runs_query hfit h
  reads _ h sentAt receivedAt :=
    Sntp.exists_runs_query hfit h sentAt receivedAt
  strays address others queue' hhosts htwins hfit' := by
    have abreast : Abreast ⟨address, ntpPort⟩ ⟨queue, none⟩
        ⟨queue', none⟩ := .inr ⟨rfl, nofun, htwins, hfit, hfit'⟩
    refine ⟨fun request t r box' h => ?_, fun t r box' h => ?_⟩
    · obtain ⟨t', r', box'', hruns, ht, hr, -⟩ :=
        (Sntp.alike_exchange hhosts).runs
          (fun _ _ _ _ _ hc hx h => hx.follow hc h) abreast h
      exact ⟨t', r', box'', hruns, ht, hr⟩
    · obtain ⟨t', r', box'', hruns, ht, rfl, -⟩ :=
        (Sntp.alike_query hhosts).runs
          (fun _ _ _ _ _ hc hx h => hx.follow hc h) abreast h
      exact ⟨t', box'', hruns, ht⟩

/-- A stray that fills the buffer, and a reply that is cut short. -/
def crowd : List Datagram :=
  [⟨⟨⟨10, 0, 0, 66⟩, ntpPort⟩, some (List.replicate 48 0x24)⟩,
   ⟨⟨⟨10, 0, 0, 1⟩, ntpPort⟩, some (List.replicate 20 0x24)⟩]

/-- What the stray left behind the reply does not make it any longer. -/
theorem strays_without_influence_short :
    let hosts : String → Option (List Address) :=
      fun _ => some [⟨10, 0, 0, 1⟩]
    Undisturbed hosts "pool.ntp.org" crowd ∧ ∃ t box',
      Runs (delivers hosts)
        ((Time.query "pool.ntp.org").within Sntp.answer) ⟨crowd, none⟩ t
        (.error (.shortPacket 20)) box' := by
  intro hosts
  have hfit : ∀ d ∈ crowd, d.Fits packetLength := by
    simp [crowd, Datagram.Fits, packetLength]
  have h := strays_without_influence hosts "pool.ntp.org" hfit
  refine ⟨h, ?_⟩
  exact h.reads (List.replicate 20 0x24) ⟨_, _, _, rfl, rfl, rfl⟩ 0 0

end Uplink.Board
