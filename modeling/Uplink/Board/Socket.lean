/-
Datagrams, and the wait for one from a given peer.

Whoever sends a request over UDP takes what comes back on the same port,
and anybody can send something there. A receiver puts one datagram after
the other into its buffer and stops at the first from the peer it asked.
A stray leaves nothing but bytes behind that the next datagram overwrites
or that its length excludes.
-/
import Uplink.Net.Address
import Uplink.Time.Sync

namespace Uplink.Board

open Net (Endpoint)
open Time (Delivery)

/-- What the IP stack has for a socket. -/
structure Datagram where
  sender : Endpoint
  /-- the bytes, unless they could not be received -/
  content : Option (List UInt8)
deriving DecidableEq, Repr

/-- A datagram could not be received, or did not fit the buffer. -/
inductive ReceiveFault where
  | fault
deriving DecidableEq, Repr

/-- A wait for a datagram from one peer. -/
structure Receiver where
  peer : Endpoint
  buffer : List UInt8
deriving DecidableEq, Repr

namespace Receiver

/-- Wait for a peer, with an empty buffer of some size. -/
def awaiting (peer : Endpoint) (capacity : Nat) : Receiver :=
  ⟨peer, List.replicate capacity 0⟩

/-- Take one datagram in. -/
def take (r : Receiver) (d : Datagram) :
    Except ReceiveFault Delivery ⊕ Receiver :=
  match d.content with
  | none => .inl (.error .fault)
  | some content =>
    if r.buffer.length < content.length then .inl (.error .fault)
    else
      let buffer := content ++ r.buffer.drop content.length
      if d.sender = r.peer then .inl (.ok ⟨content.length, buffer⟩)
      else .inr { r with buffer }

/-- Take datagrams in until one is from the peer or none is left, and
return those that were not needed. -/
def run (r : Receiver) :
    List Datagram →
      (Except ReceiveFault Delivery ⊕ Receiver) × List Datagram
  | [] => (.inr r, [])
  | d :: rest =>
    match r.take d with
    | .inl result => (.inl result, rest)
    | .inr r => r.run rest

end Receiver

end Uplink.Board
