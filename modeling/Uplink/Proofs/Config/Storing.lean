/-
What becomes of a configuration in a store.

# The store

A store that keeps what is written has something under each key, and that
is what a read hands out (`keeping`). Three things are left open, because
stores differ in them: what is in the buffer behind the blob, which bytes
behind it count as part of it (`trails`), and whether a blob that is too
long for the buffer is refused or given with its true length.

# Saving and loading

What is saved is loaded again, whatever follows it in the buffer
(`tryLoad_saved`). Of a blob that was cut short nothing is used
(`tryLoad_torn`): the bytes that are left fail to decode, or are too many
for the buffer, and loading takes the standard configuration.

# The room there is

The blob may take 512 bytes, and that is not enough for every
configuration. Which ones fit goes by their size, and with more than four
guesses there are some that do not (`save_overflow_iff`).
-/
import Mathlib.Logic.Function.Basic
import Uplink.Proofs.Config.Blob
import Uplink.Proofs.Run

namespace Uplink.Config

open Proc (Returns Runs returns_call returns_done runs_call_iff
  runs_done_iff)

-- ============================================================= the store

/-- What is kept under each key. -/
abbrev Contents : Type :=
  String → Option (List UInt8)

/-- A buffer that begins with these bytes, and as many are said to be in
it. -/
structure Stored.Shows (stored : Stored) (capacity : Nat)
    (bytes : List UInt8) : Prop where
  size : stored.buffer.length = capacity
  length : stored.length = bytes.length
  front : bytes <+: stored.buffer

/-- How a read of what is kept under a key may be answered. -/
inductive Answers (trails : List UInt8 → Prop) (capacity : Nat) :
    Option (List UInt8) → Except ConfigError Stored → Prop
  | missing : Answers trails capacity none (.error .notFound)
  /-- the blob is in the buffer, with what counts as part of it -/
  | shown {blob behind : List UInt8} {stored : Stored} :
      trails behind → stored.Shows capacity (blob ++ behind) →
      Answers trails capacity (some blob) (.ok stored)
  | refused {blob : List UInt8} :
      capacity < blob.length →
      Answers trails capacity (some blob) (.error .tooLarge)
  /-- the buffer is full, and the true length is given -/
  | exceeding {blob : List UInt8} {stored : Stored} :
      capacity < blob.length → stored.buffer.length = capacity →
      stored.length = blob.length →
      Answers trails capacity (some blob) (.ok stored)

/-- A store that keeps what is written. A write that fails may leave
anything behind. -/
def keeping (trails : List UInt8 → Prop) : Behaviour Store Contents :=
  fun c kept r kept' =>
    match c, r with
    | .read key capacity, r =>
      Answers trails capacity (kept key) r ∧ kept' = kept
    | .write key content, .ok () =>
      kept' = Function.update kept key (some content)
    | .write .., .error _ => True
    | .log _, () => kept' = kept

/-- A store that gives each blob with its own length. -/
abbrev exact : Behaviour Store Contents :=
  keeping (· = [])

/-- A store that may count any bytes behind a blob as part of it. -/
abbrev loose : Behaviour Store Contents :=
  keeping fun _ => True

variable {trails : List UInt8 → Prop} {capacity : Nat}
variable {kept kept' : Contents} {blob bytes : List UInt8}

/-- A blob that is not too long can be handed out. -/
theorem exists_shows (h : blob.length ≤ capacity) :
    ∃ stored : Stored, stored.Shows capacity blob := by
  refine ⟨⟨blob.length, blob ++ .replicate (capacity - blob.length) 0⟩,
    ⟨?_, rfl, List.prefix_append _ _⟩⟩
  rw [List.length_append, List.length_replicate]
  omega

/-- The length that is told of what a buffer `Shows` is within the
buffer. -/
theorem Stored.Shows.fits {stored : Stored}
    (h : stored.Shows capacity bytes) :
    stored.length ≤ stored.buffer.length :=
  h.length.trans_le h.front.length_le

/-- What is read off the buffer is what it shows. -/
theorem Stored.Shows.take {stored : Stored}
    (h : stored.Shows capacity bytes) :
    stored.buffer.take stored.length = bytes := by
  rw [h.length]
  exact (List.prefix_iff_eq_take.1 h.front).symm

-- =============================================================== loading

/-- What loading makes of the store's answer. -/
def outcome : Except ConfigError Stored → Except ConfigError Settings
  | .error e => .error e
  | .ok stored =>
    if stored.length ≤ stored.buffer.length then
      match decode? (stored.buffer.take stored.length) with
      | some settings => .ok settings
      | none => .error .decode
    else .error .tooLarge

/-- The line that is logged of it. -/
def remark : Except ConfigError Settings → Line
  | .ok _ => .info "Loaded modem configuration"
  | .error .notFound =>
    .info "No stored modem configuration, using defaults"
  | .error e => .warn
    s!"Stored modem configuration unusable ({e.message}), using defaults"

/-- The configuration that is used then. -/
def settle : Except ConfigError Settings → Settings
  | .ok settings => settings
  | .error _ => .standard

/-- Loading is one call, and `outcome` of its answer. -/
theorem tryLoad_eq :
    tryLoad = .call (.read blobKey blobCapacity) fun answer =>
      .done (outcome answer) := by
  rw [tryLoad, Proc.ask_bind]
  refine congrArg (Proc.call (I := Store) _) (funext fun answer => ?_)
  cases answer with
  | error e => rfl
  | ok stored =>
    by_cases hlength : stored.length ≤ stored.buffer.length
    · simp only [outcome, if_pos hlength]
      cases decode? (stored.buffer.take stored.length) with
      | none => rfl
      | some settings => rfl
    · simp only [outcome, if_neg hlength, Proc.pure_eq_done]

/-- What is loaded is remarked on, and a failure gives the default. -/
theorem load_eq :
    load = tryLoad >>= fun result =>
      .call (.log (remark result)) fun _ => .done (settle result) := by
  refine congrArg (Proc.bind tryLoad) (funext fun result => ?_)
  rcases result with ⟨e⟩ | settings
  · cases e <;> rfl
  · rfl

/-- Bytes that came whole are decoded, and an error is all that is returned
where that fails. -/
theorem outcome_of_shows {stored : Stored}
    (h : stored.Shows capacity bytes) :
    outcome (.ok stored)
      = (decode? bytes).elim (.error .decode) .ok := by
  rw [outcome, if_pos h.fits, h.take]
  cases decode? bytes with
  | none => rfl
  | some settings => rfl

/-- Loading returns what it makes of each answer the store may give. -/
theorem returns_tryLoad {result : Except ConfigError Settings}
    (hsome : ∃ answer, Answers trails blobCapacity (kept blobKey) answer)
    (hall : ∀ answer, Answers trails blobCapacity (kept blobKey) answer →
      outcome answer = result) :
    Returns (keeping trails) tryLoad kept result := by
  rw [tryLoad_eq]
  refine returns_call ?_ fun answer after h => ?_
  · obtain ⟨answer, h⟩ := hsome
    exact ⟨answer, kept, h, rfl⟩
  · rw [hall answer h.1]
    exact returns_done result after

/-- A blob that is not too long is decoded, with what counts as part of
it. -/
theorem returns_tryLoad_fits {result : Except ConfigError Settings}
    (hnone : trails []) (hkept : kept blobKey = some blob)
    (hfits : blob.length ≤ blobCapacity)
    (hall : ∀ behind, trails behind →
      (decode? (blob ++ behind)).elim (.error .decode) .ok = result) :
    Returns (keeping trails) tryLoad kept result := by
  refine returns_tryLoad ?_ fun answer hanswer => ?_
  · obtain ⟨stored, hshows⟩ := exists_shows hfits
    rw [← List.append_nil blob] at hshows
    rw [hkept]
    exact ⟨.ok stored, .shown hnone hshows⟩
  · rw [hkept] at hanswer
    cases hanswer with
    | shown hbehind hshows =>
      exact (outcome_of_shows hshows).trans (hall _ hbehind)
    | refused hlong => exact absurd hlong (Nat.not_lt.2 hfits)
    | exceeding hlong => exact absurd hlong (Nat.not_lt.2 hfits)

/-- With a configuration or without, loading goes on with one. -/
theorem returns_load {result : Except ConfigError Settings}
    (h : Returns (keeping trails) tryLoad kept result) :
    Returns (keeping trails) load kept (settle result) := by
  rw [load_eq]
  exact h.bind fun after =>
    returns_call ⟨(), after, rfl⟩ fun _ _ _ => returns_done _ _

-- ================================================================ saving

/-- Saving is one call with all of `encode`, unless that is longer than the
blob may be, and then no call at all. -/
theorem save_eq (s : Settings) :
    save s = if s.blobSize ≤ blobCapacity then
        .call (.write blobKey (encode s)) .done
      else .done (.error .encode) := by
  rw [← length_encode]
  rfl

/-- What was saved is kept, and had room. -/
theorem kept_of_save {s : Settings} {t : List (Event Store)}
    (h : Runs (keeping trails) (save s) kept t (.ok ()) kept') :
    kept' blobKey = some (encode s)
      ∧ (encode s).length ≤ blobCapacity := by
  rw [save_eq, ← length_encode] at h
  split at h
  next hfits =>
    obtain ⟨r, after, t', -, hwrite, h⟩ := runs_call_iff.1 h
    obtain ⟨-, rfl, rfl⟩ := runs_done_iff.1 h
    have hkept : kept' = Function.update kept blobKey (some (encode s)) :=
      hwrite
    rw [hkept, Function.update_self]
    exact ⟨rfl, hfits⟩
  next =>
    obtain ⟨-, h, -⟩ := runs_done_iff.1 h
    cases h

-- ============================================================ round trip

/-- What `save` has stored `tryLoad` gives again, whatever is in the buffer
behind it and counts as part of it; and no two configurations are stored
alike. -/
theorem tryLoad_saved {s : Settings} {t : List (Event Store)}
    (h : Runs loose (save s) kept t (.ok ()) kept') :
    Returns loose tryLoad kept' (.ok s) ∧ Function.Injective encode := by
  obtain ⟨hkept, hfits⟩ := kept_of_save h
  refine ⟨returns_tryLoad_fits trivial hkept hfits fun behind _ => ?_,
    encode_injective⟩
  rw [decode?_encode_append]
  rfl

/-- The longest configuration with four guesses is saved. -/
theorem tryLoad_saved_full :
    let s := Settings.full 4 (by decide)
    ∃ t kept', Runs loose (save s) (fun _ => none) t (.ok ()) kept'
      ∧ (encode s).length = 477
      ∧ Returns loose tryLoad kept' (.ok s) := by
  intro s
  have hsize : s.blobSize = 477 := blobSize_full _
  have hsave : Runs loose (save s) (fun _ => none)
      [⟨.write blobKey (encode s), .ok ()⟩] (.ok ())
      (Function.update (fun _ => none) blobKey (some (encode s))) := by
    rw [save_eq, if_pos (by rw [hsize]; decide)]
    exact .call rfl (.done _ _)
  exact ⟨_, _, hsave, (length_encode s).trans hsize,
    (tryLoad_saved hsave).1⟩

-- ============================================================= cut short

/-- What is left of a cut blob fits the buffer: it does not decode. -/
theorem returns_tryLoad_short {s : Settings} (hp : blob <+: encode s)
    (hne : blob ≠ encode s) (hkept : kept blobKey = some blob)
    (hfits : blob.length ≤ blobCapacity) :
    Returns exact tryLoad kept (.error .decode) := by
  refine returns_tryLoad_fits rfl hkept hfits fun behind hbehind => ?_
  rw [hbehind, List.append_nil, decode?_cut hp hne]
  rfl

/-- A blob that is too long for the buffer is not looked at. -/
theorem returns_tryLoad_long (hkept : kept blobKey = some blob)
    (hlong : blobCapacity < blob.length) :
    Returns exact tryLoad kept (.error .tooLarge) := by
  refine returns_tryLoad ?_ fun answer hanswer => ?_
  · rw [hkept]
    exact ⟨_, .refused hlong⟩
  · rw [hkept] at hanswer
    cases hanswer with
    | shown hbehind hshows =>
      subst hbehind
      have hfits := hshows.front.length_le
      rw [List.append_nil, hshows.size] at hfits
      exact absurd hlong (Nat.not_lt.2 hfits)
    | refused => rfl
    | exceeding _ hsize hlength =>
      rw [outcome, hsize, hlength, if_neg (Nat.not_le.2 hlong)]

/-- Of a blob that was cut short nothing is used: what is left of it does
not decode, or is too long for the buffer as well, and the standard
configuration is loaded. -/
theorem tryLoad_torn {s : Settings} {torn : List UInt8}
    (hp : torn <+: encode s) (hne : torn ≠ encode s)
    (hkept : kept blobKey = some torn) :
    Returns exact tryLoad kept
        (.error (if torn.length ≤ blobCapacity then .decode
          else .tooLarge))
      ∧ Returns exact load kept .standard := by
  split
  next hfits =>
    have htry := returns_tryLoad_short hp hne hkept hfits
    exact ⟨htry, returns_load htry⟩
  next hlong =>
    have htry := returns_tryLoad_long hkept (Nat.not_le.1 hlong)
    exact ⟨htry, returns_load htry⟩

/-- Of the longest configuration with four guesses the last byte is
missing. -/
theorem tryLoad_torn_last :
    let s := Settings.full 4 (by decide)
    let torn := (encode s).take 476
    torn <+: encode s ∧ torn ≠ encode s
      ∧ Returns exact tryLoad (fun _ => some torn) (.error .decode)
      ∧ Returns exact load (fun _ => some torn) .standard := by
  intro s torn
  have hlength : (encode s).length = 477 :=
    (length_encode s).trans (blobSize_full _)
  have htorn : torn.length = 476 := by
    rw [List.length_take, hlength]
    rfl
  have hp : torn <+: encode s := List.take_prefix 476 (encode s)
  have hne : torn ≠ encode s := by
    intro h
    rw [h, hlength] at htorn
    cases htorn
  let kept : Contents := fun _ => some torn
  have hkept : kept blobKey = some torn := rfl
  obtain ⟨htry, hload⟩ := tryLoad_torn hp hne hkept
  rw [htorn] at htry
  exact ⟨hp, hne, htry, hload⟩

/-- The longest configuration with five guesses takes 542 bytes. A part of
520 is refused for its length, and is not decoded. -/
theorem tryLoad_torn_long :
    let s := Settings.full 5 (by decide)
    let torn := (encode s).take 520
    torn <+: encode s ∧ torn ≠ encode s
      ∧ Returns exact tryLoad (fun _ => some torn) (.error .tooLarge)
      ∧ ¬ Returns exact tryLoad (fun _ => some torn) (.error .decode) := by
  intro s torn
  have hlength : (encode s).length = 542 :=
    (length_encode s).trans (blobSize_full _)
  have htorn : torn.length = 520 := by
    rw [List.length_take, hlength]
    rfl
  have hne : torn ≠ encode s := by
    intro h
    rw [h, hlength] at htorn
    cases htorn
  have htry : Returns exact tryLoad (fun _ => some torn)
      (.error .tooLarge) :=
    returns_tryLoad_long rfl (by rw [htorn]; decide)
  refine ⟨List.take_prefix 520 (encode s), hne, htry, fun h => ?_⟩
  obtain ⟨t, after, hrun⟩ := htry.1
  have hsame := h.2 t _ after hrun
  cases hsame

-- ============================================================== the room

/-- The error of `save` for want of room comes exactly where the fields
take more than the blob may (`blobCapacity`); the store is not asked then,
and else it is given the stored form and has the last word. There is room
for every configuration with at most four guesses, and with any larger
number there are some without. -/
theorem save_overflow_iff {σ : Type} {B : Behaviour Store σ} {s : Settings}
    {x x' : σ} {t : List (Event Store)} {r : Except ConfigError Unit}
    (h : Runs B (save s) x t r x') :
    (t = [] ∧ r = .error .encode ↔ blobCapacity < s.blobSize)
      ∧ (s.blobSize ≤ blobCapacity →
          t = [⟨.write blobKey (encode s), r⟩])
      ∧ (encode s).length = s.blobSize
      ∧ ∀ guesses ≤ maxFallbackApns,
          (∀ s' : Settings, s'.fallbackApns.length = guesses →
              (encode s').length ≤ blobCapacity)
            ↔ guesses ≤ 4 := by
  refine ⟨?_, ?_, length_encode s, fun guesses hguesses => ?_⟩
  · rw [save_eq] at h
    split at h
    next hfits =>
      obtain ⟨r', x₁, t', rfl, -⟩ := runs_call_iff.1 h
      exact iff_of_false (fun h => nomatch h.1) (Nat.not_lt.2 hfits)
    next hlong =>
      obtain ⟨rfl, rfl, -⟩ := runs_done_iff.1 h
      exact iff_of_true ⟨rfl, rfl⟩ (Nat.not_le.1 hlong)
  · intro hfits
    rw [save_eq, if_pos hfits] at h
    obtain ⟨r', x₁, t', rfl, -, h⟩ := runs_call_iff.1 h
    obtain ⟨rfl, rfl, -⟩ := runs_done_iff.1 h
    rfl
  · simp only [length_encode]
    exact forall_blobSize_le_iff hguesses

/-- The longest configuration of all takes 737 bytes, and is not saved. -/
theorem save_overflow_longest :
    let s := Settings.full 8 (by decide)
    Runs loose (save s) (fun _ => none) [] (.error .encode) (fun _ => none)
      ∧ blobCapacity < s.blobSize
      ∧ (encode s).length = 737 := by
  intro s
  have hsize : s.blobSize = 737 := blobSize_full _
  have hsave : Runs loose (save s) (fun _ => none) [] (.error .encode)
      (fun _ => none) := by
    rw [save_eq, if_neg (by rw [hsize]; decide)]
    exact .done _ _
  obtain ⟨hiff, -, hlength, -⟩ := save_overflow_iff hsave
  exact ⟨hsave, hiff.1 ⟨rfl, rfl⟩, hlength.trans hsize⟩

/-- With five guesses there is a configuration that has no room: the blob
would take 542 bytes, and saving fails without asking the store. -/
theorem save_overflow_five :
    let s := Settings.full 5 (by decide)
    (encode s).length = 542
      ∧ save s = .done (.error .encode)
      ∧ ¬ ∀ s : Settings, (encode s).length ≤ blobCapacity := by
  intro s
  have hsize : s.blobSize = 542 := blobSize_full _
  have hlong : ¬ s.blobSize ≤ blobCapacity := by
    rw [hsize]
    decide
  refine ⟨(length_encode s).trans hsize, ?_, fun hall => hlong ?_⟩
  · rw [save_eq, if_neg hlong]
  · exact length_encode s ▸ hall s

end Uplink.Config
