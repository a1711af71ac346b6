/-
Writers and readers of the stored form, element by element.

# What belongs together

A writer and a reader belong together if the reader gets the value back
and stops where the writer did, whatever is behind (`Yields`). A reader is
steady if what is behind an element never had a say in how it was read
(`Steady`). Elements in a row keep both, so a record has them because its
fields do.

# Cut short

From the two it follows that nothing is half-read (`Yields.cut`). If the
front of a written element were read as anything, a steady reader would
read the same from the whole element and leave the rest of it over; but
from the whole it gets the value, and leaves nothing. No element needs an
argument of its own about where it may be cut.

# Sizes

The length of what is written is read off the value: a number takes a
byte for each digit to the base 128 (`length_putNumber`), and all else is
put together from that.
-/
import Mathlib.Algebra.Order.Ring.Nat
import Mathlib.Data.Nat.Log
import Uplink.Config.Wire

namespace Uplink.Config

variable {α β : Type}

-- ============================================================ properties

/-- These bytes are read as this value, whatever is behind them. -/
def Yields (take : Reader α) (written : List UInt8) (a : α) : Prop :=
  ∀ rest, take (written ++ rest) = some (a, rest)

/-- More bytes behind an element do not change how it is read. -/
def Steady (take : Reader α) : Prop :=
  ∀ ⦃bytes a rest⦄, take bytes = some (a, rest) →
    ∀ more, take (bytes ++ more) = some (a, rest ++ more)

/-- A reader that `Yields` a value from what was written takes all of it,
if nothing follows. -/
theorem Yields.eq {take : Reader α} {written : List UInt8} {a : α}
    (h : Yields take written a) : take written = some (a, []) := by
  have := h []
  rwa [List.append_nil] at this

/-- What was written is not read from a part of it. -/
theorem Yields.cut {take : Reader α} {written cut : List UInt8} {a : α}
    (h : Yields take written a) (hs : Steady take) (hp : cut <+: written)
    (hne : cut ≠ written) : take cut = none := by
  obtain ⟨missing, rfl⟩ := hp
  cases hcut : take cut with
  | none => rfl
  | some found =>
    obtain ⟨b, rest⟩ := found
    have hwhole := hs hcut missing
    rw [h.eq] at hwhole
    obtain ⟨-, hrest⟩ := Prod.mk.inj (Option.some.inj hwhole)
    obtain ⟨-, rfl⟩ := List.append_eq_nil_iff.1 hrest.symm
    exact absurd (List.append_nil cut).symm hne

-- ======================================================= one by the other

/-- Read an element, and then what it says comes next. -/
def andThen (first : Reader α) (next : α → Reader β) : Reader β :=
  fun bytes => (first bytes).bind fun found => next found.1 found.2

/-- Read nothing: the value is known, or there is none. -/
def settled (found : Option α) : Reader α := fun bytes =>
  found.map fun a => (a, bytes)

/-- What two parts yield one after the other they yield from the two
writings in a row. -/
theorem Yields.andThen {first : Reader α} {next : α → Reader β}
    {front back : List UInt8} {a : α} {b : β} (h : Yields first front a)
    (h' : Yields (next a) back b) :
    Yields (andThen first next) (front ++ back) b := by
  intro rest
  rw [Config.andThen, List.append_assoc, h, Option.bind_some, h']

/-- A reader in two parts is `Steady` if both are. -/
theorem Steady.andThen {first : Reader α} {next : α → Reader β}
    (h : Steady first) (h' : ∀ a, Steady (next a)) :
    Steady (andThen first next) := by
  intro bytes b rest hb more
  obtain ⟨⟨a, middle⟩, ha, hb⟩ := Option.bind_eq_some_iff.1 hb
  rw [Config.andThen, h ha, Option.bind_some]
  exact h' a hb more

theorem yields_settled (a : α) : Yields (settled (some a)) [] a :=
  fun _ => rfl

/-- A reader that looks at nothing is `Steady`. -/
theorem steady_settled (found : Option α) : Steady (settled found) := by
  intro bytes a rest h more
  obtain ⟨b, rfl, hb⟩ := Option.map_eq_some_iff.1 h
  cases hb
  rfl

-- ================================================================= bytes

theorem yields_byte (b : UInt8) : Yields takeByte? [b] b :=
  fun _ => rfl

theorem steady_byte : Steady takeByte? := by
  intro bytes b rest h more
  cases bytes with
  | nil => cases h
  | cons c bytes =>
    cases h
    rfl

/-- As many bytes as there are read as what they are. -/
theorem yields_bytes (content : List UInt8) :
    Yields (takeBytes? content.length) content content := by
  intro rest
  simp [takeBytes?]

/-- A given number of bytes is taken in the same way whatever follows
them. -/
theorem steady_bytes (n : Nat) : Steady (takeBytes? n) := by
  intro bytes content rest h more
  unfold takeBytes? at h
  split at h
  next hn =>
    cases h
    have hn' : n ≤ (bytes ++ more).length := by
      rw [List.length_append]
      omega
    rw [takeBytes?, if_pos hn', List.take_append_of_le_length hn,
      List.drop_append_of_le_length hn]
  next => cases h

-- =============================================================== numbers

/-- A number that fits the groups is read back. -/
theorem yields_groups {groups lastLimit n : Nat} (hlast : lastLimit < 128)
    (hn : n < 128 ^ groups * (lastLimit + 1)) :
    Yields (takeGroups? (groups + 1) lastLimit) (putNumber n) n := by
  intro rest
  induction groups generalizing n with
  | zero =>
    have hn' : n ≤ lastLimit := by omega
    have hbyte : n.toUInt8.toNat = n := by
      simp
      omega
    rw [putNumber, if_pos (by omega), List.singleton_append, takeGroups?,
      hbyte, if_pos (by omega), if_neg (by simpa using hn')]
  | succ groups ih =>
    rw [putNumber]
    split
    next hsmall =>
      have hbyte : n.toUInt8.toNat = n := by
        simp
        omega
      rw [List.singleton_append, takeGroups?, hbyte, if_pos hsmall,
        if_neg (by simp)]
    next hlarge =>
      have hbyte : (n % 128 + 128).toUInt8.toNat = n % 128 + 128 := by
        simp
        omega
      -- the higher groups make a number of their own, with one group
      -- fewer to go
      have hhigh : n / 128 < 128 ^ groups * (lastLimit + 1) := by
        rw [Nat.div_lt_iff_lt_mul (by decide)]
        calc n < 128 ^ (groups + 1) * (lastLimit + 1) := hn
          _ = 128 ^ groups * (lastLimit + 1) * 128 := by
            rw [Nat.pow_succ, Nat.mul_right_comm]
      rw [List.cons_append, takeGroups?, hbyte, if_neg (by omega),
        ih hhigh]
      have hjoin : n % 128 + 128 - 128 + 128 * (n / 128) = n := by omega
      simp only [Option.bind_eq_bind, Option.bind_some, Option.pure_def,
        hjoin]

/-- So are the groups of a number, which say themselves where they end. -/
theorem steady_groups (groups lastLimit : Nat) :
    Steady (takeGroups? groups lastLimit) := by
  intro bytes n rest h more
  induction groups generalizing bytes n with
  | zero => simp [takeGroups?] at h
  | succ groups ih =>
    cases bytes with
    | nil => simp [takeGroups?] at h
    | cons b bytes =>
      rw [takeGroups?] at h
      rw [List.cons_append, takeGroups?]
      split at h
      next hsmall =>
        rw [if_pos hsmall]
        split at h
        next => cases h
        next hfits =>
          cases h
          rw [if_neg hfits]
      next hlarge =>
        rw [if_neg hlarge]
        obtain ⟨⟨high, middle⟩, hhigh, h⟩ := Option.bind_eq_some_iff.1 h
        cases h
        simp [ih hhigh]

/-- A number below 2^16 is read back within the two bytes' room. -/
theorem yields_number16 {n : Nat} (hn : n < 2 ^ 16) :
    Yields takeNumber16? (putNumber n) n :=
  yields_groups (by decide) (by simpa using hn)

/-- A number below 2^32 is read back within the four bytes' room. -/
theorem yields_number32 {n : Nat} (hn : n < 2 ^ 32) :
    Yields takeNumber32? (putNumber n) n :=
  yields_groups (by decide) (by simpa using hn)

/-- A length below 2^64 is read back. -/
theorem yields_length {n : Nat} (hn : n < 2 ^ 64) :
    Yields takeLength? (putNumber n) n :=
  yields_groups (by decide) (by simpa using hn)

/-- A number takes one byte for each seven bits, and one at least. -/
theorem length_putNumber (n : Nat) :
    (putNumber n).length = Nat.log 128 n + 1 := by
  induction n using Nat.strongRecOn with
  | ind n ih =>
    rw [putNumber]
    split
    next hsmall => simp [Nat.log_of_lt hsmall]
    next hlarge =>
      rw [List.length_cons, ih (n / 128) (by omega),
        Nat.log_of_one_lt_of_le (by decide) (by omega : 128 ≤ n)]

-- ================================================================= texts

/-- The loop of core's `ByteArray.toList` adds what is left to what was
seen. -/
theorem toList_loop (bytes : ByteArray) (i : Nat) (seen : List UInt8) :
    ByteArray.toList.loop bytes i seen
      = seen.reverse ++ bytes.data.toList.drop i := by
  fun_induction ByteArray.toList.loop bytes i seen with
  | case1 i seen hlt ih =>
    have hlen : i < bytes.data.toList.length := hlt
    have hget : bytes.get! i = bytes.data.toList[i] :=
      getElem!_pos bytes.data i hlt
    rw [ih, List.drop_eq_getElem_cons hlen, hget]
    simp
  | case2 i seen hge =>
    have hlen : bytes.data.toList.length ≤ i := Nat.le_of_not_lt hge
    rw [List.drop_eq_nil_of_le hlen, List.append_nil]

/-- The bytes of an array are the list of its data. -/
theorem toList_eq_data (bytes : ByteArray) :
    bytes.toList = bytes.data.toList :=
  toList_loop bytes 0 []

/-- A text has as many bytes as core says. -/
theorem length_toUTF8 (s : String) :
    s.toUTF8.toList.length = s.utf8ByteSize := by
  rw [toList_eq_data]
  rfl

/-- A text is read back from its UTF-8 form. -/
theorem textOfBytes?_toUTF8 (s : String) :
    textOfBytes? s.toUTF8.toList = some s := by
  have hbytes : (⟨s.toUTF8.toList.toArray⟩ : ByteArray) = s.toUTF8 := by
    rw [toList_eq_data]
  rw [textOfBytes?, hbytes]
  exact dif_pos s.isValidUTF8

/-- A text is read as a length and that many bytes, which have to be a text
that fits. -/
theorem takeText?_eq (capacity : Nat) :
    takeText? capacity
      = andThen takeLength? fun length => andThen (takeBytes? length)
          fun content => settled
            ((textOfBytes? content).bind (Bounded.ofString? capacity)) := by
  funext bytes
  refine congrArg (Option.bind _) (funext fun length => ?_)
  refine congrArg (Option.bind _) (funext fun content => ?_)
  cases htext : textOfBytes? content.1 with
  | none => simp [settled, htext]
  | some text => cases hfits : Bounded.ofString? capacity text with
    | none => simp [settled, htext, hfits]
    | some s => simp [settled, htext, hfits]

/-- A text that fits is read back. -/
theorem yields_text {capacity : Nat} (hcapacity : capacity < 2 ^ 64)
    (s : Bounded capacity) :
    Yields (takeText? capacity) (putText s.text) s := by
  have hs := Nat.lt_of_le_of_lt s.fits hcapacity
  have hcontent := yields_bytes s.text.toUTF8.toList
  rw [length_toUTF8] at hcontent
  have htext : (textOfBytes? s.text.toUTF8.toList).bind
      (Bounded.ofString? capacity) = some s := by
    rw [textOfBytes?_toUTF8, Option.bind_some, Bounded.ofString?_text]
  rw [takeText?_eq, putText, ← List.append_nil s.text.toUTF8.toList]
  refine (yields_length hs).andThen (hcontent.andThen ?_)
  rw [htext]
  exact yields_settled s

/-- How a text is read does not depend on what follows it. -/
theorem steady_text (capacity : Nat) : Steady (takeText? capacity) := by
  rw [takeText?_eq]
  exact (steady_groups _ _).andThen fun length =>
    (steady_bytes length).andThen fun _ => steady_settled _

/-- A text takes its bytes, and those of its length. -/
theorem length_putText (s : String) :
    (putText s).length
      = Nat.log 128 s.utf8ByteSize + 1 + s.utf8ByteSize := by
  rw [putText, List.length_append, length_putNumber, length_toUTF8]

-- ===================================================== options and lists

/-- What may be missing is read back, if what is there is. -/
theorem yields_option {take : Reader α} {put : α → List UInt8}
    (o : Option α) (h : ∀ a, o = some a → Yields take (put a) a) :
    Yields (takeOption? take) (putOption put o) o := by
  intro rest
  cases o with
  | none => rfl
  | some a =>
    show (take (put a ++ rest)).bind _ = _
    rw [h a rfl, Option.bind_some]
    rfl

/-- What may be missing is read steadily if what is there is. -/
theorem Steady.option {take : Reader α} (h : Steady take) :
    Steady (takeOption? take) := by
  intro bytes o rest ho more
  cases bytes with
  | nil => cases ho
  | cons mark bytes =>
    rw [takeOption?] at ho
    rw [List.cons_append, takeOption?]
    split at ho
    next hmark =>
      cases ho
      rw [if_pos hmark]
    next hmark =>
      rw [if_neg hmark]
      split at ho
      next hmark' =>
        obtain ⟨⟨a, rest'⟩, ha, ho⟩ := Option.bind_eq_some_iff.1 ho
        cases ho
        rw [if_pos hmark', h ha]
        rfl
      next => cases ho

/-- Values in a row are read back one by one. -/
theorem yields_many {take : Reader α} {put : α → List UInt8}
    (l : List α) (h : ∀ a ∈ l, Yields take (put a) a) :
    Yields (takeMany? take l.length) (l.flatMap put) l := by
  intro rest
  induction l with
  | nil => rfl
  | cons a l ih =>
    obtain ⟨ha, hl⟩ := List.forall_mem_cons.1 h
    rw [List.flatMap_cons, List.append_assoc, List.length_cons, takeMany?,
      ha]
    show (takeMany? take l.length (l.flatMap put ++ rest)).bind _ = _
    rw [ih hl]
    rfl

/-- Any number of them is read steadily if one is. -/
theorem Steady.many {take : Reader α} (h : Steady take) (n : Nat) :
    Steady (takeMany? take n) := by
  intro bytes l rest hl more
  induction n generalizing bytes l with
  | zero =>
    cases hl
    rfl
  | succ n ih =>
    obtain ⟨⟨a, middle⟩, ha, hl⟩ := Option.bind_eq_some_iff.1 hl
    obtain ⟨⟨l', rest'⟩, hl', hl⟩ := Option.bind_eq_some_iff.1 hl
    cases hl
    show (take (bytes ++ more)).bind _ = _
    rw [h ha]
    show (takeMany? take n (middle ++ more)).bind _ = _
    rw [ih hl']
    rfl

/-- A list of at most `most` elements, once its length is known. -/
def ofLength? (most : Nat) (take : Reader α) (n : Nat) :
    Reader { l : List α // l.length ≤ most } :=
  if most < n then settled none
  else andThen (takeMany? take n) fun l =>
    settled (if h : l.length ≤ most then some ⟨l, h⟩ else none)

/-- A list is read as a length and that many values, if there is room for
them. -/
theorem takeList?_eq (most : Nat) (take : Reader α) :
    takeList? most take
      = andThen takeLength? (ofLength? most take) := by
  funext bytes
  refine congrArg (Option.bind _) (funext fun ⟨n, bytes⟩ => ?_)
  by_cases hn : most < n
  · simp [ofLength?, hn, settled]
  · simp only [ofLength?, if_neg hn]
    refine congrArg (Option.bind _) (funext fun ⟨l, rest⟩ => ?_)
    by_cases hl : l.length ≤ most
    · simp [hl, settled]
    · simp [hl, settled]

/-- A list within its room is read back. -/
theorem yields_list {most : Nat} {take : Reader α} {put : α → List UInt8}
    (l : { l : List α // l.length ≤ most }) (hmost : most < 2 ^ 64)
    (h : ∀ a ∈ l.val, Yields take (put a) a) :
    Yields (takeList? most take) (putList put l.val) l := by
  have hfits : l.val.length < 2 ^ 64 := Nat.lt_of_le_of_lt l.property hmost
  rw [takeList?_eq]
  refine (yields_length hfits).andThen ?_
  rw [ofLength?, if_neg (Nat.not_lt.2 l.property),
    ← List.append_nil (l.val.flatMap put)]
  refine (yields_many l.val h).andThen ?_
  rw [dif_pos l.property]
  exact yields_settled l

/-- A list is read steadily if its values are. -/
theorem Steady.list {take : Reader α} (h : Steady take) (most : Nat) :
    Steady (takeList? most take) := by
  rw [takeList?_eq]
  refine (steady_groups _ _).andThen fun n => ?_
  unfold ofLength?
  split
  next => exact steady_settled none
  next => exact (h.many n).andThen fun _ => steady_settled _

/-- A list takes what its values take, and the bytes of its length. -/
theorem length_putList (put : α → List UInt8) (l : List α) :
    (putList put l).length
      = Nat.log 128 l.length + 1
        + (l.map fun a => (put a).length).sum := by
  rw [putList, List.length_append, length_putNumber, List.length_flatMap]

end Uplink.Config
