/-
The elements of the stored form: bytes, numbers, texts, options, lists.

Nothing in the stored form says what it is; the reader knows the order of
the fields, and each element says where it ends. Bytes stand as they are.
Larger numbers are cut into groups of seven bits, the lowest first, and
every byte but the last has its high bit set. A text or a list is its
length as such a number, then its content. An option is the byte 0, or
the byte 1 and the value.

Each element has a writer (`put…`) and a reader (`take…?`). A reader
returns what it read and the bytes behind it, and fails if the bytes end
inside the element or are none of its forms.
-/
import Uplink.Text.Bounded

namespace Uplink.Config

/-- Reads one element off the front. -/
abbrev Reader (α : Type) : Type :=
  List UInt8 → Option (α × List UInt8)

-- ================================================================= bytes

def takeByte? : Reader UInt8
  | [] => none
  | b :: rest => some (b, rest)

-- =============================================================== numbers

/-- A number in groups of seven bits. -/
def putNumber (n : Nat) : List UInt8 :=
  if n < 128 then [n.toUInt8]
  else (n % 128 + 128).toUInt8 :: putNumber (n / 128)
termination_by n
decreasing_by omega

/-- A number of at most `groups` groups, whose last one, if all are used,
is at most `lastLimit`. Groups of zeros at the high end are let pass. -/
def takeGroups? : (groups lastLimit : Nat) → Reader Nat
  | 0, _, _ => none
  | _, _, [] => none
  | left + 1, lastLimit, b :: rest =>
    if b.toNat < 128 then
      if left = 0 && lastLimit < b.toNat then none
      else some (b.toNat, rest)
    else do
      let (high, rest) ← takeGroups? left lastLimit rest
      pure (b.toNat - 128 + 128 * high, rest)

/-- A number of 16 bits: two full groups and two bits. -/
def takeNumber16? : Reader Nat :=
  takeGroups? 3 3

/-- A number of 32 bits: four full groups and four bits. -/
def takeNumber32? : Reader Nat :=
  takeGroups? 5 15

/-- A length, of 64 bits: nine full groups and one bit. -/
def takeLength? : Reader Nat :=
  takeGroups? 10 1

-- ================================================================= texts

/-- A text: its length in bytes, then its UTF-8 form. -/
def putText (s : String) : List UInt8 :=
  putNumber s.utf8ByteSize ++ s.toUTF8.toList

/-- The first `n` bytes, if there are as many. -/
def takeBytes? (n : Nat) : Reader (List UInt8) := fun bytes =>
  if n ≤ bytes.length then some (bytes.take n, bytes.drop n) else none

/-- The text that these bytes are the UTF-8 form of. -/
def textOfBytes? (bytes : List UInt8) : Option String :=
  String.fromUTF8? ⟨bytes.toArray⟩

/-- A text of at most `capacity` bytes. -/
def takeText? (capacity : Nat) : Reader (Bounded capacity) :=
  fun bytes => do
    let (length, bytes) ← takeLength? bytes
    let (content, rest) ← takeBytes? length bytes
    let text ← textOfBytes? content
    pure (← Bounded.ofString? capacity text, rest)

-- ===================================================== options and lists

/-- An option: a mark, then the value if there is one. -/
def putOption {α : Type} (put : α → List UInt8) :
    Option α → List UInt8
  | none => [0]
  | some a => 1 :: put a

/-- An option. A mark other than 0 and 1 is none of its forms. -/
def takeOption? {α : Type} (take : Reader α) : Reader (Option α)
  | [] => none
  | mark :: rest =>
    if mark = 0 then some (none, rest)
    else if mark = 1 then do
      let (a, rest) ← take rest
      pure (some a, rest)
    else none

/-- A list: its length, then its elements. -/
def putList {α : Type} (put : α → List UInt8) (l : List α) :
    List UInt8 :=
  putNumber l.length ++ l.flatMap put

/-- `n` elements in a row. -/
def takeMany? {α : Type} (take : Reader α) : Nat → Reader (List α)
  | 0, bytes => some ([], bytes)
  | n + 1, bytes => do
    let (a, bytes) ← take bytes
    let (l, rest) ← takeMany? take n bytes
    pure (a :: l, rest)

/-- A list of at most `most` elements. -/
def takeList? {α : Type} (most : Nat) (take : Reader α) :
    Reader { l : List α // l.length ≤ most } :=
  fun bytes => do
    let (n, bytes) ← takeLength? bytes
    if most < n then none
    else
      let (l, rest) ← takeMany? take n bytes
      if h : l.length ≤ most then pure (⟨l, h⟩, rest) else none

end Uplink.Config
