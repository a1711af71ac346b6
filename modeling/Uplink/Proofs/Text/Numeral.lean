/-
What a number is read as.

A numeral is digits behind a sign, or behind none; leading zeros are
allowed. It stands for a whole number of any size, and where a field has
room for that number it is read as it is. Where it has not, nothing is
read (`Numeral.byte?_text`, `Numeral.int32?_text`). Printing a number
gives one of its numerals (`Numeral.ofInt`).
-/
import Uplink.Text.Blank
import Uplink.Text.Numeral

namespace Uplink.Text

variable {s : List Char} {c : Char}

-- =============================================================== digits

/-- The digits of the readers are those of core. -/
theorem isDigit_eq (c : Char) : isDigit c = c.isDigit := by
  unfold isDigit Char.isDigit
  rfl

/-- No digit is a blank. -/
theorem isBlank_of_isDigit (h : c.isDigit = true) : isBlank c = false := by
  rw [← isDigit_eq, isDigit, Bool.and_eq_true, decide_eq_true_eq,
    decide_eq_true_eq, Char.le_def, Char.le_def, UInt32.le_iff_toNat_le,
    UInt32.le_iff_toNat_le] at h
  change 48 ≤ c.toNat ∧ c.toNat ≤ 57 at h
  simp only [isBlank, Bool.or_eq_false_iff, Bool.and_eq_false_iff,
    decide_eq_false_iff_not, beq_eq_false_iff_ne]
  omega

/-- A digit differs from every character that is none. -/
theorem ne_of_isDigit {d : Char} (h : c.isDigit = true)
    (hd : d.isDigit = false) : c ≠ d :=
  fun heq => Bool.false_ne_true (hd.symm.trans (heq ▸ h))

/-- A text of digits alone reads as the number they write, with any number
of zeros in front. -/
theorem digits?_eq_some (hne : s ≠ []) (h : ∀ c ∈ s, c.isDigit = true) :
    digits? s = some (Nat.ofDigitChars 10 s 0) := by
  have hall : s.all isDigit = true := List.all_eq_true.2 fun c hc =>
    (isDigit_eq c).trans (h c hc)
  rw [digits?, hall, List.isEmpty_eq_false_iff.2 hne]
  rfl

/-- A text that reads as a number consists of digits alone. -/
theorem isDigit_of_digits? {n : Nat} (h : digits? s = some n) :
    ∀ c ∈ s, c.isDigit = true := by
  unfold digits? at h
  split at h
  next hall =>
    intro c hc
    rw [← isDigit_eq]
    exact List.all_eq_true.1 (Bool.and_eq_true_iff.1 hall).2 c hc
  next => cases h

/-- One character that is no digit makes a text unreadable. -/
theorem digits?_eq_none (hmem : c ∈ s) (hc : c.isDigit = false) :
    digits? s = none := by
  cases h : digits? s with
  | none => rfl
  | some n =>
    exact absurd (isDigit_of_digits? h c hmem) (Bool.eq_false_iff.1 hc)

/-- A comma is no part of a number. -/
theorem int32?_eq_none (h : ',' ∈ s) : int32? s = none := by
  unfold int32? signed?
  split
  next rest =>
    have hrest : ',' ∈ rest := by simpa using h
    rw [digits?_eq_none hrest rfl]
    rfl
  next rest =>
    have hrest : ',' ∈ rest := by simpa using h
    rw [digits?_eq_none hrest rfl]
    rfl
  next =>
    rw [digits?_eq_none h rfl]
    rfl

-- ============================================================= numerals

/-- What may stand in front of the digits. -/
inductive Sign where
  | none
  | plus
  | minus
deriving DecidableEq, Repr

def Sign.text : Sign → String
  | none => ""
  | plus => "+"
  | minus => "-"

/-- A whole number in decimal. -/
structure Numeral where
  sign : Sign
  digits : String
  nonempty : digits ≠ ""
  decimal : ∀ c ∈ digits.toList, c.isDigit = true

namespace Numeral

variable (z : Numeral)

def text : String :=
  z.sign.text ++ z.digits

def magnitude : Nat :=
  Nat.ofDigitChars 10 z.digits.toList 0

def value : Int :=
  match z.sign with
  | .minus => -z.magnitude
  | _ => z.magnitude

/-- The digits of a numeral read as its magnitude. -/
theorem digits?_digits : digits? z.digits.toList = some z.magnitude :=
  digits?_eq_some (fun h => z.nonempty (String.toList_eq_nil_iff.1 h))
    z.decimal

/-- Digits do not begin with a sign. -/
theorem digits_ne_cons (hc : c.isDigit = false) (rest : List Char) :
    z.digits.toList ≠ c :: rest :=
  fun h => ne_of_isDigit (z.decimal c (h ▸ List.mem_cons_self)) hc rfl

/-- What a numeral is written with. -/
theorem mem_text (h : c ∈ z.text.toList) :
    c.isDigit = true ∨ c = '+' ∨ c = '-' := by
  rw [text, String.toList_append, List.mem_append] at h
  rcases h with h | h
  · cases hsign : z.sign <;> rw [hsign] at h <;> simp_all [Sign.text]
  · exact .inl (z.decimal c h)

/-- No character of a numeral is a blank. -/
theorem isBlank_of_mem_text (h : c ∈ z.text.toList) :
    isBlank c = false := by
  rcases z.mem_text h with h | rfl | rfl
  · exact isBlank_of_isDigit h
  · decide
  · decide

/-- A numeral consists of digits and at most a sign, so it holds no
separator. -/
theorem ne_of_mem_text {d : Char} (hd : d.isDigit = false)
    (hplus : d ≠ '+') (hminus : d ≠ '-') : d ∉ z.text.toList := by
  intro h
  rcases z.mem_text h with h | h | h
  · exact ne_of_isDigit h hd rfl
  · exact hplus h
  · exact hminus h

/-- A numeral reads as an unsigned number if it has no minus sign and its
magnitude is within the range, and fails to be read otherwise. -/
theorem unsigned?_text (top : Nat) :
    unsigned? top z.text.toList
      = if z.sign ≠ .minus ∧ z.magnitude ≤ top then some z.magnitude
        else none := by
  have hplus := z.digits_ne_cons (c := '+') rfl
  rw [text, String.toList_append]
  cases hsign : z.sign with
  | none =>
    simp only [Sign.text, String.toList_empty, List.nil_append]
    unfold unsigned?
    split
    next rest heq => exact absurd heq (hplus rest)
    next =>
      rw [z.digits?_digits]
      simp [Option.filter]
  | plus =>
    show (digits? z.digits.toList).filter _ = _
    rw [z.digits?_digits]
    simp [Option.filter]
  | minus =>
    show (digits? ('-' :: z.digits.toList)).filter (· ≤ top) = _
    rw [digits?_eq_none List.mem_cons_self rfl, if_neg fun h => h.1 rfl]
    rfl

/-- The number, if it fits eight bits; a minus is not taken even by 0. -/
def inByte? : Option Nat :=
  if z.sign ≠ .minus ∧ z.magnitude ≤ 255 then some z.magnitude else none

/-- The number, if it fits 32 bits with a sign. -/
def inWord? : Option Int :=
  if -2147483648 ≤ z.value ∧ z.value ≤ 2147483647 then some z.value
  else none

/-- A numeral reads as a byte exactly as `inByte?` says. -/
theorem byte?_text :
    byte? z.text.toList = z.inByte?.map UInt8.ofNat := by
  rw [byte?, unsigned?_text, inByte?]

/-- A numeral reads as a word exactly as `inWord?` says. -/
theorem int32?_text : int32? z.text.toList = z.inWord? := by
  have hplus := z.digits_ne_cons (c := '+') rfl
  have hminus := z.digits_ne_cons (c := '-') rfl
  rw [text, String.toList_append, inWord?, value]
  cases hsign : z.sign with
  | none =>
    simp only [Sign.text, String.toList_empty, List.nil_append]
    unfold int32? signed?
    split
    next rest heq => exact absurd heq (hplus rest)
    next rest heq => exact absurd heq (hminus rest)
    next =>
      rw [z.digits?_digits]
      simp [Option.filter]
  | plus =>
    show ((digits? z.digits.toList).map Int.ofNat).filter _ = _
    rw [z.digits?_digits]
    simp [Option.filter]
  | minus =>
    show ((digits? z.digits.toList).map fun n => -Int.ofNat n).filter _ = _
    rw [z.digits?_digits]
    simp [Option.filter]

/-- The `Numeral` that a number is printed as. -/
def ofNat (n : Nat) : Numeral where
  sign := .none
  digits := toString n
  nonempty := by
    rw [Nat.toString_eq_repr]
    exact Nat.repr_ne_empty
  decimal := by
    rw [Nat.toString_eq_repr, Nat.toList_repr]
    exact fun c => Nat.isDigit_of_mem_toDigits (by decide) (by decide)

/-- The numeral of a natural number is written as core writes the
number. -/
@[simp] theorem text_ofNat (n : Nat) : (ofNat n).text = toString n :=
  String.empty_append

@[simp] theorem magnitude_ofNat (n : Nat) : (ofNat n).magnitude = n := by
  show Nat.ofDigitChars 10 (toString n).toList 0 = n
  rw [Nat.toString_eq_repr, Nat.toList_repr, Nat.ofDigitChars_ten_toDigits]

def ofInt : Int → Numeral
  | .ofNat n => ofNat n
  | .negSucc n => { ofNat (n + 1) with sign := .minus }

/-- The numeral of an integer is written as core writes the integer. -/
@[simp] theorem text_ofInt (i : Int) : (ofInt i).text = toString i := by
  cases i with
  | ofNat n => exact text_ofNat n
  | negSucc n => rfl

/-- It is worth the integer that it was made of. -/
@[simp] theorem value_ofInt (i : Int) : (ofInt i).value = i := by
  cases i with
  | ofNat n => exact congrArg Int.ofNat (magnitude_ofNat n)
  | negSucc n =>
    show -((ofNat (n + 1)).magnitude : Int) = _
    rw [magnitude_ofNat]
    rfl

/-- Every byte is within the range of a byte. -/
theorem inByte?_ofNat (n : UInt8) :
    (ofNat n.toNat).inByte? = some n.toNat := by
  have hn := n.toNat_lt
  rw [inByte?, magnitude_ofNat, if_pos ⟨nofun, by omega⟩]

/-- Every word is within the range of a word. -/
theorem inWord?_ofInt (i : Int32) :
    (ofInt i.toInt).inWord? = some i.toInt := by
  have hlow := i.le_toInt
  have hhigh := i.toInt_lt
  rw [inWord?, value_ofInt, if_pos ⟨by omega, by omega⟩]

end Numeral

end Uplink.Text
