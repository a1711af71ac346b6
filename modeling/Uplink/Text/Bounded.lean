/-
Texts of bounded size.

Access point names, credentials and host names are kept in places of
fixed size. The size counts the bytes of the text's UTF-8 form, not its
characters, and a text that does not fit is refused as a whole.
-/

namespace Uplink

/-- A text of at most `capacity` bytes. -/
structure Bounded (capacity : Nat) where
  text : String
  fits : text.utf8ByteSize ≤ capacity
deriving DecidableEq

namespace Bounded

variable {capacity : Nat}

def ofString? (capacity : Nat) (s : String) : Option (Bounded capacity) :=
  if h : s.utf8ByteSize ≤ capacity then some ⟨s, h⟩ else none

def empty : Bounded capacity :=
  ⟨"", by simp⟩

instance : Inhabited (Bounded capacity) :=
  ⟨empty⟩

def isEmpty (s : Bounded capacity) : Bool :=
  s.text.isEmpty

@[simp] theorem ofString?_text (s : Bounded capacity) :
    ofString? capacity s.text = some s := by
  simp [ofString?, s.fits]

theorem ofString?_eq_none_iff {s : String} :
    ofString? capacity s = none ↔ capacity < s.utf8ByteSize := by
  simp [ofString?]

end Bounded

end Uplink
