/-
Cutting a text: into lines, into fields, and at the first occurrence of a
marker.

All three are one walk over the characters. A cut never looks back, so
each function is read off its equations, and what a reader of answers
needs to know about the rest of a text is always a statement about the
tail of a list.
-/

namespace Uplink.Text

/-- The lines of a text, without their ends. A line ends at a line feed;
one carriage return directly before that line feed belongs to the end
too, any other carriage return is part of its line. What follows the last
line feed is a line only if it is not empty. -/
def lines : List Char → List (List Char)
  | [] => []
  | '\n' :: rest => [] :: lines rest
  | '\r' :: '\n' :: rest => [] :: lines rest
  | c :: rest =>
    match lines rest with
    | [] => [[c]]
    | line :: more => (c :: line) :: more

/-- The fields between the occurrences of `sep`: one more than there are
occurrences, so never none. -/
def fields (sep : Char) : List Char → List (List Char)
  | [] => [[]]
  | c :: rest =>
    if c = sep then [] :: fields sep rest
    else
      match fields sep rest with
      | [] => [[c]]
      | field :: more => (c :: field) :: more

/-- What follows the first occurrence of `marker`, if there is one. The
empty marker occurs at the very start. -/
def after? (marker : List Char) : List Char → Option (List Char)
  | [] => if marker.isEmpty then some [] else none
  | c :: rest =>
    if marker.isPrefixOf (c :: rest) then
      some ((c :: rest).drop marker.length)
    else after? marker rest

/-- `marker` occurs somewhere in the text. -/
def contains (marker s : List Char) : Bool :=
  (after? marker s).isSome

theorem contains_iff {marker s : List Char} :
    contains marker s = true ↔ marker <:+: s := by
  unfold contains
  induction s with
  | nil => cases marker <;> simp [after?]
  | cons c rest ih =>
    rw [after?, List.infix_cons_iff, ← List.isPrefixOf_iff_prefix]
    split
    next h => simp [h]
    next h => simp [h, ih]

/-- What occurs in a text occurs in every longer one. -/
theorem contains_append {marker s : List Char} (more : List Char)
    (h : contains marker s = true) : contains marker (s ++ more) = true :=
  contains_iff.2
    (List.infix_append_of_infix_left (contains_iff.1 h))

end Uplink.Text
