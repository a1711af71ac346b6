/-
What a look-up in the directory depends on.

Both look-ups prefer more digits to fewer: a network is looked for by its
whole id before it is by five digits of it, a subscriber's by six digits
before it is by five. No two records of the table agree in five digits,
though (`directory_shortIds`). So whatever record is found by more digits
is the one that the first five find, and both look-ups are one search for
these five (`lookUpNetwork_eq`, `lookUpSubscriber_eq`). A row that
collides with another would end that.
-/
import Mathlib.Data.List.Nodup
import Uplink.Apn.Directory

namespace Uplink.Apn

open Text (isDigit)

variable {id : String} {r : Record}

-- ============================================================ network ids

/-- Five ASCII digits at least, and nothing else. -/
structure Numeric (id : String) : Prop where
  long : shortIdLength ≤ id.toList.length
  digits : ∀ c ∈ id.toList, '0' ≤ c ∧ c ≤ '9'

/-- The check on a network's number is that it is `Numeric`: five or six
characters, all of them digits. -/
theorem isNetworkId_iff : isNetworkId id.toList = true ↔ Numeric id := by
  unfold isNetworkId isDigit
  rw [Bool.and_eq_true, decide_eq_true_eq, List.all_eq_true]
  simp only [Bool.and_eq_true, decide_eq_true_eq]
  exact ⟨fun h => ⟨h.1, h.2⟩, fun h => ⟨h.long, h.digits⟩⟩

/-- The first digits of an id are an id, if there are enough of them. -/
theorem Numeric.take (h : Numeric id) {n : Nat} (hn : shortIdLength ≤ n) :
    Numeric (String.ofList (id.toList.take n)) := by
  rw [← isNetworkId_iff, String.toList_ofList]
  refine Bool.and_eq_true_iff.2 ⟨?_, ?_⟩
  · rw [decide_eq_true_eq, List.length_take]
    exact Nat.le_min.2 ⟨hn, h.long⟩
  · refine List.all_eq_true.2 fun c hc => ?_
    have hdigit := h.digits c (List.mem_of_mem_take hc)
    unfold isDigit
    simpa using hdigit

/-- Every digit is one byte, so that a cut behind a number of bytes is one
behind as many digits. -/
theorem Numeric.utf8ByteSize_take (h : Numeric id) {n : Nat}
    (hn : n ≤ id.toList.length) :
    (String.ofList (id.toList.take n)).utf8ByteSize = n := by
  have hsize : ∀ digits : List Char, (∀ c ∈ digits, c ≤ '9') →
      (String.ofList digits).utf8ByteSize = digits.length := by
    intro digits hdigits
    induction digits with
    | nil => rfl
    | cons c rest ih =>
      obtain ⟨hc, hrest⟩ := List.forall_mem_cons.1 hdigits
      have hone : c.utf8Size = 1 :=
        Char.utf8Size_eq_one_iff.2 (Nat.le_trans hc (by decide))
      rw [String.ofList_cons, String.utf8ByteSize_append,
        String.utf8ByteSize_singleton, hone, ih hrest, List.length_cons,
        Nat.add_comm]
  rw [hsize _ fun c hc => (h.digits c (List.mem_of_mem_take hc)).2,
    List.length_take, Nat.min_eq_left hn]

-- ============================================================== the table

/-- No two records agree in the first five digits. -/
theorem directory_shortIds : (directory.map Record.shortId).Nodup := by
  decide +kernel

theorem find?_shortId_eq_some_iff {digits : List Char} :
    directory.find? (fun r => r.shortId == digits) = some r
      ↔ r ∈ directory ∧ r.shortId = digits := by
  constructor
  · intro h
    exact ⟨List.mem_of_find?_eq_some h, by simpa using List.find?_some h⟩
  · rintro ⟨hr, rfl⟩
    obtain ⟨q, hq⟩ : ∃ q,
        directory.find? (fun q => q.shortId == r.shortId) = some q := by
      rw [← Option.isSome_iff_exists, List.find?_isSome]
      exact ⟨r, hr, beq_self_eq_true _⟩
    have heq : q.shortId = r.shortId := by simpa using List.find?_some hq
    rw [hq, List.inj_on_of_nodup_map directory_shortIds
      (List.mem_of_find?_eq_some hq) hr heq]

-- =========================================================== the look-ups

/-- A network is found by the first five digits of its id. -/
theorem lookUpNetwork_eq (h : Numeric id) :
    lookUpNetwork? id = directory.find?
      fun r => r.shortId == id.toList.take shortIdLength := by
  unfold lookUpNetwork?
  rw [if_pos (isNetworkId_iff.2 h)]
  cases hexact : directory.find? fun r => r.networkId == id with
  | none => rfl
  | some r =>
    obtain rfl : r.networkId = id := by simpa using List.find?_some hexact
    exact (find?_shortId_eq_some_iff.2
      ⟨List.mem_of_find?_eq_some hexact, rfl⟩).symm

/-- What `lookUpNetwork?` finds is the record of the `directory` whose five
digits the number starts with. -/
theorem lookUpNetwork_eq_some_iff :
    lookUpNetwork? id = some r
      ↔ Numeric id ∧ r ∈ directory
        ∧ r.shortId = id.toList.take shortIdLength := by
  by_cases h : Numeric id
  · rw [lookUpNetwork_eq h, find?_shortId_eq_some_iff]
    exact ⟨fun hr => ⟨h, hr⟩, And.right⟩
  · unfold lookUpNetwork?
    rw [if_neg fun hid => h (isNetworkId_iff.1 hid)]
    exact ⟨nofun, fun hr => absurd hr.1 h⟩

/-- What follows the first digits of an id does not matter. -/
theorem lookUpNetwork_take (h : Numeric id) {n : Nat}
    (hn : shortIdLength ≤ n) :
    lookUpNetwork? (String.ofList (id.toList.take n))
      = lookUpNetwork? id := by
  rw [lookUpNetwork_eq (h.take hn), lookUpNetwork_eq h,
    String.toList_ofList, List.take_take, Nat.min_eq_left hn]

/-- A subscriber is found as the network of the same digits is. -/
theorem lookUpSubscriber_eq (h : Numeric id) :
    lookUpSubscriber? id = lookUpNetwork? id := by
  have hshort := lookUpNetwork_take h (Nat.le_refl shortIdLength)
  have hlong := lookUpNetwork_take h
    (by decide : shortIdLength ≤ longIdLength)
  unfold lookUpSubscriber?
  dsimp only
  rw [if_pos (isNetworkId_iff.2 h), hshort, hlong]
  split
  · rfl
  · cases lookUpNetwork? id <;> rfl

/-- A text that is not `Numeric` finds nothing, as the number of a network
or as the identity of a subscriber. -/
theorem lookUp_of_not_numeric (h : ¬Numeric id) :
    lookUpNetwork? id = none ∧ lookUpSubscriber? id = none := by
  have hid : ¬isNetworkId id.toList = true := fun hid =>
    h (isNetworkId_iff.1 hid)
  unfold lookUpNetwork? lookUpSubscriber?
  exact ⟨if_neg hid, if_neg hid⟩

/-- An id is found exactly if it is `Numeric` and some record of the
`directory` agrees with it in five digits. The record that is found does,
and it is the one of the whole id if that is listed. Ids that agree in five
digits are found alike, as networks and as subscribers. Nothing else is
found, and the cuts that a look-up makes are between two digits. -/
theorem lookUp_agree (id : String) :
    ((∃ r, lookUpNetwork? id = some r)
        ↔ Numeric id ∧ ∃ r ∈ directory,
          r.shortId = id.toList.take shortIdLength)
      ∧ (∀ r, lookUpNetwork? id = some r →
        r ∈ directory ∧ r.shortId = id.toList.take shortIdLength
          ∧ ((∃ q ∈ directory, q.networkId = id) → r.networkId = id))
      ∧ (∀ other, Numeric id → Numeric other →
        other.toList.take shortIdLength = id.toList.take shortIdLength →
        lookUpNetwork? other = lookUpNetwork? id
          ∧ lookUpSubscriber? id = lookUpNetwork? id)
      ∧ (¬Numeric id →
        lookUpNetwork? id = none ∧ lookUpSubscriber? id = none)
      ∧ (Numeric id → ∀ n ≤ id.toList.length,
        (String.ofList (id.toList.take n)).utf8ByteSize = n) := by
  refine ⟨?_, fun r hr => ?_, fun other hid hother heq => ?_,
    lookUp_of_not_numeric, fun hid n => hid.utf8ByteSize_take⟩
  · simp only [lookUpNetwork_eq_some_iff]
    exact exists_and_left
  · obtain ⟨-, hmem, hshort⟩ := lookUpNetwork_eq_some_iff.1 hr
    refine ⟨hmem, hshort, ?_⟩
    rintro ⟨q, hq, rfl⟩
    have heq : r.shortId = q.shortId := hshort
    rw [List.inj_on_of_nodup_map directory_shortIds hmem hq heq]
  · rw [lookUpNetwork_eq hother, heq, ← lookUpNetwork_eq hid]
    exact ⟨rfl, lookUpSubscriber_eq hid⟩

/-- An id of six digits that is listed, and an identity of a network that
shares five of them. -/
theorem lookUp_agree_listed :
    (∃ r, lookUpNetwork? "405857" = some r ∧ r.networkId = "405857")
      ∧ lookUpNetwork? "4058512345" = lookUpNetwork? "405857" := by
  have hid : Numeric "405857" := isNetworkId_iff.1 (by decide)
  have hother : Numeric "4058512345" := isNetworkId_iff.1 (by decide)
  obtain ⟨hfound, hlisted, halike, -⟩ := lookUp_agree "405857"
  have hmem : ∃ q ∈ directory, q.networkId = "405857" := by
    decide +kernel
  obtain ⟨q, hq, hqid⟩ := hmem
  obtain ⟨r, hr⟩ := hfound.2 ⟨hid, q, hq, congrArg _ (congrArg _ hqid)⟩
  exact ⟨⟨r, hr, (hlisted r hr).2.2 ⟨q, hq, hqid⟩⟩,
    (halike "4058512345" hid hother (by decide)).1⟩

end Uplink.Apn
