/-
Trials of the stored configuration, on a store that can be damaged, and
of the state of the whole device.
-/
import Uplink.App
import Uplink.Config.Blob

namespace Uplink.Bench.Trial

open Config (ConfigError Settings Stored)

-- ================================================================= store

/-- A store that can be made to fail. -/
structure Shelf where
  blobs : List (String × List UInt8) := []
  readFault : Option ConfigError := none
  writeFault : Option ConfigError := none
  /-- the length that reads claim instead of the true one -/
  claimed : Option Nat := none
  journal : List Line := []

namespace Shelf

/-- What is kept under a key. -/
def find? (s : Shelf) (key : String) : Option (List UInt8) :=
  s.blobs.lookup key

/-- Forget what is kept under a key. -/
def erase (s : Shelf) (key : String) : Shelf :=
  { s with blobs := s.blobs.filter (·.1 ≠ key) }

/-- Keep something under a key. -/
def put (s : Shelf) (key : String) (blob : List UInt8) : Shelf :=
  { s.erase key with blobs := (key, blob) :: (s.erase key).blobs }

/-- A blob in a buffer, if it is not too long for it. -/
def copy (s : Shelf) (blob : List UInt8) (capacity : Nat) :
    Except ConfigError Stored :=
  if capacity < blob.length then .error .tooLarge
  else
    let blank := List.replicate (capacity - blob.length) 0
    .ok ⟨s.claimed.getD blob.length, blob ++ blank⟩

/-- The store's side of a call. -/
def answer : (call : Config.StoreCall) → StateM Shelf call.Answer
  | .read key capacity => do
    let s ← get
    match s.readFault, s.find? key with
    | some e, _ => pure (.error e)
    | none, none => pure (.error .notFound)
    | none, some blob => pure (s.copy blob capacity)
  | .write key content => do
    let s ← get
    match s.writeFault with
    | some e => pure (.error e)
    | none =>
      set (s.put key content)
      pure (.ok ())
  | .log line => modify fun s => { s with journal := line :: s.journal }

/-- Change the blob of the configuration, if there is one. -/
def damage (s : Shelf) (f : List UInt8 → List UInt8) : Shelf :=
  match s.find? Config.blobKey with
  | some blob => s.put Config.blobKey (f blob)
  | none => s

end Shelf

/-- One use of the store, or a change behind its back. -/
inductive StoreStep where
  | standard
  | save (s : Settings)
  | load
  | tryLoad
  | put (key : String) (blob : List UInt8)
  | remove (key : String)
  | cut (length : Nat)
  | poke (index : Nat) (byte : UInt8)
  | blob
  | failRead (e : Option ConfigError)
  | failWrite (e : Option ConfigError)
  | claimLength (length : Nat)

inductive StoreResult where
  | settings (s : Settings)
  | failed (e : ConfigError)
  | done
  | existed (yes : Bool)
  | blob (content : Option (List UInt8))
  | nothing

def StoreStep.perform : StoreStep → StateM Shelf StoreResult
  | .standard => pure (.settings .standard)
  | .save s => do
    match ← (Config.save s).within Shelf.answer with
    | .ok () => pure .done
    | .error e => pure (.failed e)
  | .load => do
    pure (.settings (← Config.load.within Shelf.answer))
  | .tryLoad => do
    match ← Config.tryLoad.within Shelf.answer with
    | .ok s => pure (.settings s)
    | .error e => pure (.failed e)
  | .put key content => do
    modify (·.put key content)
    pure .nothing
  | .remove key => do
    let existed := ((← get).find? key).isSome
    modify (·.erase key)
    pure (.existed existed)
  | .cut length => do
    modify (·.damage (·.take length))
    pure .nothing
  | .poke index byte => do
    modify (·.damage (·.set index byte))
    pure .nothing
  | .blob => do pure (.blob ((← get).find? Config.blobKey))
  | .failRead e => do
    modify fun s => { s with readFault := e }
    pure .nothing
  | .failWrite e => do
    modify fun s => { s with writeFault := e }
    pure .nothing
  | .claimLength length => do
    modify fun s => { s with claimed := some length }
    pure .nothing

/-- Go through the steps with one store. -/
def store (steps : List StoreStep) : StateM Shelf (List StoreResult) :=
  steps.mapM StoreStep.perform

-- ================================================================ device

/-- What a step shows: the error's words, if it was one, and the state. -/
structure AppReport where
  words : Option String
  app : App

def words? : App.News → Option String
  | .failed e => some e.message
  | _ => none

/-- Tell one device one thing after the other. -/
def app (state : App) : List App.News → Spoken (List AppReport)
  | [] => pure []
  | news :: rest => do
    let state ← state.hear news
    pure (⟨words? news, state⟩ :: (← app state rest))

end Uplink.Bench.Trial
