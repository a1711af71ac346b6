/-
Whole numbers as a modem writes them: ASCII digits, possibly a sign, no
blanks and no grouping.

A number that does not fit the kind of field it stands in is no number at
all; it is never cut down to what fits.
-/

namespace Uplink.Text

def isDigit (c : Char) : Bool :=
  '0' ≤ c && c ≤ '9'

def digitValue (c : Char) : Nat :=
  c.toNat - '0'.toNat

/-- The value of a string of digits read from the left. -/
def digitsValue (s : List Char) : Nat :=
  s.foldl (fun n c => 10 * n + digitValue c) 0

/-- A non-empty string of digits; leading zeros are allowed. -/
def digits? (s : List Char) : Option Nat :=
  if !s.isEmpty && s.all isDigit then some (digitsValue s) else none

/-- A number from 0 to `top`, with or without a plus sign. -/
def unsigned? (top : Nat) (s : List Char) : Option Nat :=
  let value := match s with
    | '+' :: rest => digits? rest
    | _ => digits? s
  value.filter (· ≤ top)

/-- A number from `low` to `high`, with or without a sign. -/
def signed? (low high : Int) (s : List Char) : Option Int :=
  let value := match s with
    | '+' :: rest => (digits? rest).map Int.ofNat
    | '-' :: rest => (digits? rest).map fun n => -Int.ofNat n
    | _ => (digits? s).map Int.ofNat
  value.filter fun n => low ≤ n && n ≤ high

/-- A number that fits eight bits. -/
def byte? (s : List Char) : Option UInt8 :=
  (unsigned? 255 s).map UInt8.ofNat

/-- A number that fits 32 bits with a sign. -/
def int32? (s : List Char) : Option Int :=
  signed? (-2147483648) 2147483647 s

end Uplink.Text
