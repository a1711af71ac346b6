/-
What stands between quotes, and what only begins with one.

The quotes of a text are taken in pairs: the first of a pair opens a value
and the second closes it (`Quoted`). A damaged text can end within a value.
Then the quote that opens it has no partner, and what follows it is
`Unclosed`.

Cutting a text at its quotes does not tell the two apart. A reader that
cuts takes what follows the last quote for a value like any other
(`quotedChars?_eq_some_iff`), exactly where the number of quotes is odd and
the value is the last. The readers of names and codes refuse such a value
only if its text is not acceptable for another reason (`TakesQuoted`).
-/
import Uplink.Proofs.Modem.Contexts
import Uplink.Proofs.Modem.Values

namespace Uplink.Modem.Reply

open Text (exists_first_field getElem?_fields_succ takeWhile_append_cons
  takeWhile_of_not_mem)

variable {index : Nat} {s value behind : List Char}

-- =============================================================== quotes

/-- The value with this index, counted from 0, is opened in a text and
stands in front of the rest: two quotes belong to each value before it, and
there is none in it. -/
def Opened (index : Nat) (value behind s : List Char) : Prop :=
  ∃ before, s = before ++ '"' :: (value ++ behind)
    ∧ before.count '"' = 2 * index ∧ '"' ∉ value

/-- The value stands between the quote that opens it and the next one,
which closes it. -/
def Quoted (index : Nat) (value s : List Char) : Prop :=
  ∃ later, Opened index value ('"' :: later) s

/-- The text ends within the value. -/
def Unclosed (index : Nat) (value s : List Char) : Prop :=
  Opened index value [] s

/-- A value that is `Opened` as number `index` has twice as many quotes
before it, and one that opens it. -/
theorem Opened.count (h : Opened index value behind s) :
    s.count '"' = 2 * index + 1 + behind.count '"' := by
  obtain ⟨before, rfl, hbefore, hvalue⟩ := h
  rw [List.count_append, List.count_cons_self, List.count_append, hbefore,
    List.count_eq_zero.2 hvalue]
  omega

/-- A value that is closed too needs two quotes for itself and each before
it. -/
theorem Quoted.le_count (h : Quoted index value s) :
    2 * index + 2 ≤ s.count '"' := by
  obtain ⟨later, h⟩ := h
  rw [h.count, List.count_cons_self]
  omega

/-- A value that is not closed is behind the last of an odd number of
quotes. -/
theorem Unclosed.count (h : Unclosed index value s) :
    s.count '"' = 2 * index + 1 :=
  Opened.count h

/-- A value is closed by the next quote, or there is no other. -/
theorem quotedChars?_eq_some_iff :
    quotedChars? index s = some value
      ↔ Quoted index value s ∨ Unclosed index value s := by
  rw [quotedChars?, getElem?_fields_succ]
  constructor
  · intro h
    obtain ⟨before, rest, rfl, hbefore, rfl⟩ := h
    by_cases hrest : '"' ∈ rest
    · obtain ⟨first, later, hfirst, rfl⟩ := exists_first_field hrest
      rw [takeWhile_append_cons hfirst]
      exact .inl ⟨later, before, rfl, hbefore, hfirst⟩
    · rw [takeWhile_of_not_mem hrest]
      exact .inr ⟨before, by rw [List.append_nil], hbefore, hrest⟩
  · intro h
    rcases h with ⟨later, before, hs, hbefore, hvalue⟩
      | ⟨before, hs, hbefore, hvalue⟩
    · exact ⟨before, _, hs, hbefore, takeWhile_append_cons hvalue later⟩
    · rw [List.append_nil] at hs
      exact ⟨before, _, hs, hbefore, takeWhile_of_not_mem hvalue⟩

/-- Behind a quote that is opened there is a value, closed or not. -/
theorem exists_quotedChars? (h : 2 * index < s.count '"') :
    ∃ value, quotedChars? index s = some value := by
  obtain ⟨before, rest, hs, hbefore⟩ := Text.exists_of_lt_count h
  exact ⟨_, getElem?_fields_succ.2 ⟨before, rest, hs, hbefore, rfl⟩⟩

/-- What is read as `Quoted` value number `index` is either quoted, or
opened and never closed. -/
theorem quotedField?_eq_some_iff {text value : String} :
    quotedField? text index = some value
      ↔ Quoted index value.toList text.toList
        ∨ Unclosed index value.toList text.toList := by
  rw [← quotedChars?_eq_some_iff, quotedField?, Option.map_eq_some_iff]
  constructor
  · intro h
    obtain ⟨field, hfield, rfl⟩ := h
    rwa [String.toList_ofList]
  · intro h
    exact ⟨_, h, String.ofList_toList⟩

/-- Exactly the values that are closed are read, unless the text ends
within this one. -/
theorem quotedField?_closed_iff (text : String) (index : Nat) :
    (∀ value, quotedField? text index = some value
        ↔ Quoted index value.toList text.toList)
      ↔ text.toList.count '"' ≠ 2 * index + 1 := by
  constructor
  · intro h hcount
    obtain ⟨value, hvalue⟩ : ∃ value,
        quotedChars? index text.toList = some value :=
      exists_quotedChars? (by omega)
    have hread : quotedField? text index = some (String.ofList value) := by
      rw [quotedField?, hvalue, Option.map_some]
    have hle := ((h _).1 hread).le_count
    omega
  · intro hcount value
    rw [quotedField?_eq_some_iff]
    constructor
    · intro h
      exact h.resolve_right fun hopen => hcount hopen.count
    · exact .inl

-- ============================================================== readers

/-- A reader looks at one line of a text, and takes the `Quoted` value with
an index from it if that is acceptable. It takes one that is not closed
like any other, so what it takes is closed exactly where the line does not
end within an acceptable value. -/
structure TakesQuoted (read : String → Option String)
    (line? : String → Option (List Char)) (index : Nat)
    (accepts : List Char → Bool) : Prop where
  reads : ∀ text value, read text = some value
    ↔ accepts value.toList = true ∧ ∃ line, line? text = some line
      ∧ (Quoted index value.toList line ∨ Unclosed index value.toList line)
  closed : ∀ text, (∀ value, read text = some value →
      ∃ line, line? text = some line ∧ Quoted index value.toList line)
    ↔ ∀ line value, line? text = some line → Unclosed index value line →
      accepts value = false

variable {read : String → Option String}
variable {line? : String → Option (List Char)} {accepts : List Char → Bool}

/-- A reader that filters the quoted values of one line takes what is
quoted and what is unclosed, like the field itself. -/
theorem takesQuoted_of_eq
    (h : ∀ text, read text
      = (((line? text).bind (quotedChars? index)).filter accepts).map
          String.ofList) :
    TakesQuoted read line? index accepts := by
  have reads : ∀ text value, read text = some value
      ↔ accepts value.toList = true ∧ ∃ line, line? text = some line
        ∧ (Quoted index value.toList line
          ∨ Unclosed index value.toList line) := by
    intro text value
    simp only [h, Option.map_eq_some_iff, Option.filter_eq_some_iff,
      Option.bind_eq_some_iff, quotedChars?_eq_some_iff]
    constructor
    · intro hread
      obtain ⟨field, ⟨hline, haccepts⟩, rfl⟩ := hread
      rw [String.toList_ofList]
      exact ⟨haccepts, hline⟩
    · intro hread
      obtain ⟨haccepts, hline⟩ := hread
      exact ⟨_, ⟨hline, haccepts⟩, String.ofList_toList⟩
  refine ⟨reads, fun text => ⟨?_, ?_⟩⟩
  · intro hclosed line value hline hopen
    -- an unclosed field that were read would have one quote too few to be
    -- a value
    by_contra haccepts
    rw [Bool.not_eq_false, ← String.toList_ofList (l := value)] at haccepts
    rw [← String.toList_ofList (l := value)] at hopen
    obtain ⟨other, hother, hquoted⟩ := hclosed _
      ((reads text _).2 ⟨haccepts, line, hline, .inr hopen⟩)
    obtain rfl := Option.some.inj (hline.symm.trans hother)
    have hle := hquoted.le_count
    rw [hopen.count] at hle
    omega
  · intro hrefused value hread
    obtain ⟨haccepts, line, hline, hvalue⟩ := (reads text value).1 hread
    refine ⟨line, hline, hvalue.resolve_right fun hopen => ?_⟩
    rw [hrefused line _ hline hopen] at haccepts
    cases haccepts

/-- Of context 1 the second value is taken, if it is not empty. -/
theorem firstContextName?_eq_filter (text : String) :
    firstContextName? text
      = ((((contextLines text.toList).find? isFirstContext).bind
          (quotedChars? 1)).filter (· ≠ [])).map String.ofList := by
  unfold firstContextName?
  cases (contextLines text.toList).find? isFirstContext with
  | none => rfl
  | some line =>
    rw [Option.bind_eq_bind, Option.bind_some, Option.bind_some, contextName?]
    cases quotedChars? 1 line with
    | none => rfl
    | some name =>
      have hempty : (!(String.ofList name).isEmpty) = decide (name ≠ []) := by
        rw [isEmpty_not, decide_eq_decide, not_iff_not,
          ← String.toList_eq_nil_iff, String.toList_ofList]
      rw [Option.map_some, Option.filter_some, Option.filter_some, hempty]
      split <;> rfl

/-- What is taken for a `Quoted` value stands between its quotes, or is cut
off, and both are read alike. So what is read is closed unless the text
ends within that very value, and the readers of a name and of a code take
what is cut off exactly where it could be a name or a code. -/
theorem quoted_or_unclosed (text : String) (index : Nat) :
    (∀ value, quotedField? text index = some value
        ↔ Quoted index value.toList text.toList
          ∨ Unclosed index value.toList text.toList)
      ∧ ((∀ value, quotedField? text index = some value
          ↔ Quoted index value.toList text.toList)
        ↔ text.toList.count '"' ≠ 2 * index + 1)
      ∧ TakesQuoted firstContextName?
          (fun text => (contextLines text.toList).find? isFirstContext) 1
          (· ≠ [])
      ∧ TakesQuoted operatorCode? (valueOf? "+COPS:" ·.toList) 0 isCode :=
  ⟨fun _ => quotedField?_eq_some_iff, quotedField?_closed_iff text index,
    takesQuoted_of_eq firstContextName?_eq_filter,
    takesQuoted_of_eq operatorCode?_eq_filter⟩

/-- Lines that are cut off in a code of six digits and in a name: the five
digits that are left are taken for a code, and what is left of the name for
a name. -/
theorem quoted_or_unclosed_cut :
    quotedField? "+COPS: 0,2,\"31026" 0 = some "31026"
      ∧ ¬Quoted 0 "31026".toList "+COPS: 0,2,\"31026".toList
      ∧ operatorCode? "+COPS: 0,2,\"31026\r\n\r\nOK\r\n" = some "31026"
      ∧ firstContextName? "+CGDCONT: 1,\"IP\",\"zong\r\n\r\nOK\r\n"
        = some "zong" := by
  refine ⟨by rfl, fun h => ?_, by rfl, by rfl⟩
  have hle := h.le_count
  revert hle
  decide

end Uplink.Modem.Reply
