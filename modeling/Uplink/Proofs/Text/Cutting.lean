/-
What a cut finds in a text that was put together.

A response is lines with their ends, a line has blanks around what it
says, and what it says is fields between commas or quotes. Each cut is the
inverse of one way of putting together: `trim` of adding blanks, `fields`
of joining with the separator, `lines` of ending each line, `after?` of
writing a marker in front. The lemmas stand in this order.

The end of a line is the one place where two ways of writing are read as
one: a carriage return before the line feed belongs to the line or to its
end, and goes with the blanks in either case (`trim_withoutReturn`).
-/
import Mathlib.Data.List.DropRight
import Uplink.Text.Blank
import Uplink.Text.Split

namespace Uplink.Text

variable {s rest pad line : List Char} {c sep : Char}

-- =============================================================== blanks

/-- Nothing but blanks. -/
def Blank (pad : List Char) : Prop :=
  ∀ c ∈ pad, isBlank c = true

instance (pad : List Char) : Decidable (Blank pad) :=
  decidable_of_iff (pad.all isBlank = true) List.all_eq_true

theorem blank_nil : Blank [] :=
  fun _ hc => nomatch hc

theorem blank_singleton (h : isBlank c = true) : Blank [c] := by
  intro d hd
  rwa [List.mem_singleton.1 hd]

/-- Blanks in front do not show after `trimStart`. -/
theorem trimStart_append (h : Blank pad) (s : List Char) :
    trimStart (pad ++ s) = trimStart s :=
  List.dropWhile_append_of_pos h

/-- Where a text starts with something else than a blank, `trimStart`
leaves it alone. -/
theorem trimStart_cons (hc : isBlank c = false) (rest : List Char) :
    trimStart (c :: rest) = c :: rest :=
  List.dropWhile_cons_of_neg (Bool.eq_false_iff.1 hc)

/-- Blanks go up to the first character that is none, if there is one. -/
theorem trimStart_append_cons (hc : isBlank c = false)
    (s rest : List Char) :
    trimStart (s ++ c :: rest) = trimStart s ++ c :: rest := by
  induction s with
  | nil => exact trimStart_cons hc rest
  | cons d s ih =>
    unfold trimStart at ih ⊢
    rw [List.cons_append, List.dropWhile_cons, List.dropWhile_cons]
    split
    · exact ih
    · rfl

/-- What `trimEnd` takes off is what the library's `rdropWhile` does. -/
theorem trimEnd_eq_rdropWhile (s : List Char) :
    trimEnd s = s.rdropWhile isBlank :=
  rfl

/-- Blanks at the end do not show after `trimEnd`. -/
theorem trimEnd_append (h : Blank pad) (s : List Char) :
    trimEnd (s ++ pad) = trimEnd s := by
  unfold trimEnd
  rw [List.reverse_append, List.dropWhile_append_of_pos fun c hc =>
    h c (List.mem_reverse.1 hc)]

/-- What stands before a character that is no blank stays. -/
theorem trimEnd_append_cons (hc : isBlank c = false)
    (s rest : List Char) :
    trimEnd (s ++ c :: rest) = s ++ c :: trimEnd rest := by
  have h := trimStart_append_cons hc rest.reverse s.reverse
  unfold trimStart at h
  unfold trimEnd
  rw [List.reverse_append, List.reverse_cons, List.append_assoc,
    List.singleton_append, h]
  simp

/-- Blanks in front do not show after `trim`. -/
theorem trim_append_left (h : Blank pad) (s : List Char) :
    trim (pad ++ s) = trim s := by
  unfold trim
  rw [trimStart_append h]

/-- Blanks at the end do not show after `trim` either. -/
theorem trim_append_right (h : Blank pad) (s : List Char) :
    trim (s ++ pad) = trim s := by
  unfold trim
  by_cases hs : Blank s
  · rw [trimStart_append hs, show trimStart pad = [] from
      List.dropWhile_eq_nil_iff.2 h, show trimStart s = [] from
      List.dropWhile_eq_nil_iff.2 hs]
  · have hne : (s.dropWhile isBlank).isEmpty = false := by
      rw [List.isEmpty_eq_false_iff]
      exact fun he => hs (List.dropWhile_eq_nil_iff.1 he)
    have hstart : trimStart (s ++ pad) = trimStart s ++ pad := by
      unfold trimStart
      rw [List.dropWhile_append, hne]
      rfl
    rw [hstart, trimEnd_append h]

/-- What stands from one character that is no blank to another stays. -/
theorem trim_append_cons (hc : isBlank c = false) (s rest : List Char) :
    trim (s ++ c :: rest) = trimStart s ++ c :: trimEnd rest := by
  unfold trim
  rw [trimStart_append_cons hc, trimEnd_append_cons hc]

/-- Both ends can be trimmed in either order. -/
theorem trimStart_trimEnd (s : List Char) :
    trimStart (trimEnd s) = trim s := by
  by_cases hs : Blank s
  · have hend : trimEnd s = [] := List.rdropWhile_eq_nil_iff.2 hs
    have hstart : trimStart s = [] := List.dropWhile_eq_nil_iff.2 hs
    rw [trim, hend, hstart]
    rfl
  · unfold Blank at hs
    push Not at hs
    obtain ⟨c, hmem, hc⟩ := hs
    obtain ⟨before, behind, rfl⟩ := List.append_of_mem hmem
    have hc : isBlank c = false := Bool.eq_false_iff.2 hc
    rw [trimEnd_append_cons hc, trimStart_append_cons hc,
      trim_append_cons hc]

theorem trimEnd_trim (s : List Char) : trimEnd (trim s) = trim s :=
  List.rdropWhile_idempotent isBlank (trimStart s)

/-- To `trim` twice is to do it once. -/
theorem trim_trim (s : List Char) : trim (trim s) = trim s := by
  have hstart : trimStart (trimStart s) = trimStart s :=
    List.dropWhile_idempotent isBlank s
  calc trim (trim s)
      = trimEnd (trimStart (trimEnd (trimStart s))) := rfl
    _ = trimEnd (trimEnd (trimStart (trimStart s))) := by
      rw [trimStart_trimEnd, trim]
    _ = trimEnd (trim s) := by rw [hstart, trim]
    _ = trim s := trimEnd_trim s

/-- A text without any blank is its own `trim`. -/
theorem trim_of_solid (h : ∀ c ∈ s, isBlank c = false) : trim s = s := by
  cases s with
  | nil => rfl
  | cons c s =>
    have hstart : trimStart (c :: s) = c :: s :=
      trimStart_cons (h c List.mem_cons_self) s
    rw [trim, hstart, trimEnd_eq_rdropWhile, List.rdropWhile_eq_self_iff]
    intro hne
    exact Bool.eq_false_iff.1 (h _ (List.getLast_mem hne))

/-- The blanks a text starts with are `Blank`. -/
theorem blank_takeWhile (s : List Char) : Blank (s.takeWhile isBlank) :=
  fun _ => List.mem_takeWhile_imp

/-- What is trimmed off are blanks. -/
theorem exists_trim (s : List Char) :
    ∃ left right, Blank left ∧ Blank right ∧ s = left ++ (trim s ++ right) := by
  have hright : Blank ((trimStart s).rtakeWhile isBlank) := fun c hc =>
    List.mem_rtakeWhile_imp hc
  refine ⟨_, _, blank_takeWhile s, hright, ?_⟩
  rw [trim, trimEnd_eq_rdropWhile, List.rdropWhile_append_rtakeWhile]
  exact (List.takeWhile_append_dropWhile).symm

theorem not_mem_trimStart (h : c ∉ s) : c ∉ trimStart s :=
  fun hmem => h ((List.dropWhile_suffix isBlank).subset hmem)

theorem not_mem_trimEnd (h : c ∉ s) : c ∉ trimEnd s :=
  fun hmem => h ((List.rdropWhile_prefix isBlank s).subset hmem)

/-- What `trim` leaves holds no character that was not there before. -/
theorem not_mem_trim (h : c ∉ s) : c ∉ trim s :=
  not_mem_trimEnd (not_mem_trimStart h)

-- =============================================================== fields

/-- To take the `fields` of a text is to split it on the separator. -/
theorem fields_eq_splitOn (sep : Char) (s : List Char) :
    fields sep s = s.splitOn sep := by
  induction s with
  | nil => rfl
  | cons c rest ih =>
    rw [fields, List.splitOn_cons_eq_if_modifyHead, ih]
    by_cases h : c = sep
    · rw [if_pos h, if_pos (beq_iff_eq.2 h)]
    · rw [if_neg h, if_neg fun hb => h (beq_iff_eq.1 hb)]
      cases hfields : rest.splitOn sep with
      | nil => exact absurd hfields (List.splitOn_ne_nil sep rest)
      | cons field more => rfl

/-- A text without the separator is one field, the whole of it. -/
theorem fields_of_not_mem (h : sep ∉ s) : fields sep s = [s] := by
  rw [fields_eq_splitOn, List.splitOn_eq_singleton h]

/-- The first of the `fields` ends at the first separator, and the others
are those of the rest. -/
theorem fields_append_cons (h : sep ∉ s) (rest : List Char) :
    fields sep (s ++ sep :: rest) = s :: fields sep rest := by
  rw [fields_eq_splitOn, fields_eq_splitOn,
    List.splitOn_append_cons_self_of_not_mem h]

/-- A text in which the separator occurs has a first field, and more. -/
theorem exists_first_field (h : sep ∈ s) :
    ∃ field rest, sep ∉ field ∧ s = field ++ sep :: rest := by
  obtain ⟨field, rest, rfl, hfield⟩ := List.eq_append_cons_of_mem h
  exact ⟨field, rest, hfield, rfl⟩

/-- Without a separator nothing is cut off. -/
theorem takeWhile_of_not_mem (h : sep ∉ s) : s.takeWhile (· ≠ sep) = s := by
  rw [List.takeWhile_eq_self_iff]
  intro c hc
  exact decide_eq_true (ne_of_mem_of_not_mem hc h)

/-- What comes before the first separator is kept, wherever it stands. -/
theorem takeWhile_append (h : sep ∉ s) (rest : List Char) :
    (s ++ rest).takeWhile (· ≠ sep) = s ++ rest.takeWhile (· ≠ sep) :=
  List.takeWhile_append_of_pos fun _ hc =>
    decide_eq_true (ne_of_mem_of_not_mem hc h)

/-- Cut at its first separator, a text is what stands before that. -/
theorem takeWhile_append_cons (h : sep ∉ s) (rest : List Char) :
    (s ++ sep :: rest).takeWhile (· ≠ sep) = s := by
  rw [takeWhile_append h, List.takeWhile_cons_of_neg (by simp),
    List.append_nil]

/-- What is cut off at the separator does not hold it. -/
theorem not_mem_takeWhile (sep : Char) (s : List Char) :
    sep ∉ s.takeWhile (· ≠ sep) := by
  intro h
  have hne := List.mem_takeWhile_imp h
  exact of_decide_eq_true hne rfl

/-- A text is one field, or a field in front of a text with fewer. -/
theorem field_induction {P : List Char → Prop} (sep : Char)
    (last : ∀ field, sep ∉ field → P field)
    (more : ∀ field rest, sep ∉ field → P rest → P (field ++ sep :: rest))
    (s : List Char) : P s := by
  induction hn : s.length using Nat.strongRecOn generalizing s with
  | ind n ih =>
    by_cases hs : sep ∈ s
    · obtain ⟨field, rest, hfield, rfl⟩ := exists_first_field hs
      refine more field rest hfield (ih rest.length ?_ rest rfl)
      rw [← hn, List.length_append, List.length_cons]
      omega
    · exact last s hs

/-- No field has the separator in it, and there is nothing in it that was
not there before. -/
theorem of_mem_fields {field : List Char} (h : field ∈ fields sep s) :
    sep ∉ field ∧ field <:+: s := by
  induction s using field_induction sep with
  | last only honly =>
    rw [fields_of_not_mem honly, List.mem_singleton] at h
    subst h
    exact ⟨honly, List.infix_rfl⟩
  | more first rest hfirst ih =>
    rw [fields_append_cons hfirst, List.mem_cons] at h
    rcases h with rfl | h
    · exact ⟨hfirst, (List.prefix_append _ _).isInfix⟩
    · obtain ⟨hnot, hoccurs⟩ := ih h
      exact ⟨hnot, hoccurs.trans ((List.suffix_cons sep rest).trans
        (List.suffix_append _ _)).isInfix⟩

/-- There is one field more than there are separators. -/
theorem length_fields (sep : Char) (s : List Char) :
    (fields sep s).length = s.count sep + 1 := by
  induction s using field_induction sep with
  | last only honly =>
    rw [fields_of_not_mem honly, List.count_eq_zero.2 honly]
    rfl
  | more first rest hfirst ih =>
    rw [fields_append_cons hfirst, List.length_cons, ih, List.count_append,
      List.count_eq_zero.2 hfirst, List.count_cons_self, Nat.zero_add]

/-- Whatever their number is: a text can be cut at each of its
separators. -/
theorem exists_of_lt_count {n : Nat} (h : n < s.count sep) :
    ∃ before rest, s = before ++ sep :: rest ∧ before.count sep = n := by
  induction s using field_induction sep generalizing n with
  | last only honly =>
    rw [List.count_eq_zero.2 honly] at h
    exact absurd h (Nat.not_lt_zero n)
  | more first rest hfirst ih =>
    have hzero : first.count sep = 0 := List.count_eq_zero.2 hfirst
    cases n with
    | zero => exact ⟨first, rest, rfl, hzero⟩
    | succ n =>
      rw [List.count_append, List.count_cons_self, hzero] at h
      obtain ⟨before, later, hrest, hcount⟩ := ih (n := n) (by omega)
      refine ⟨first ++ sep :: before, later, ?_, ?_⟩
      · rw [hrest, List.append_assoc, List.cons_append]
      · rw [List.count_append, List.count_cons_self, hzero, hcount,
          Nat.zero_add]

/-- What stands behind a separator, up to the next, has its place from the
separators before it. -/
theorem getElem?_fields_append (before rest : List Char) :
    (fields sep (before ++ sep :: rest))[before.count sep + 1]?
      = some (rest.takeWhile (· ≠ sep)) := by
  induction before using field_induction sep with
  | last only honly =>
    rw [fields_append_cons honly, List.count_eq_zero.2 honly,
      List.getElem?_cons_succ]
    by_cases hrest : sep ∈ rest
    · obtain ⟨first, more, hfirst, rfl⟩ := exists_first_field hrest
      rw [fields_append_cons hfirst, takeWhile_append_cons hfirst]
      rfl
    · rw [fields_of_not_mem hrest, takeWhile_of_not_mem hrest]
      rfl
  | more first later hfirst ih =>
    rw [List.append_assoc, List.cons_append, fields_append_cons hfirst,
      List.count_append, List.count_cons_self, List.count_eq_zero.2 hfirst,
      Nat.zero_add, List.getElem?_cons_succ, ih]

/-- A field but the first is what stands behind one of the separators. -/
theorem getElem?_fields_succ {n : Nat} {field : List Char} :
    (fields sep s)[n + 1]? = some field
      ↔ ∃ before rest, s = before ++ sep :: rest ∧ before.count sep = n
        ∧ rest.takeWhile (· ≠ sep) = field := by
  constructor
  · intro h
    have hlt := (List.getElem?_eq_some_iff.1 h).1
    rw [length_fields] at hlt
    obtain ⟨before, rest, rfl, hcount⟩ :=
      exists_of_lt_count (Nat.lt_of_succ_lt_succ hlt)
    subst hcount
    rw [getElem?_fields_append] at h
    exact ⟨before, rest, rfl, rfl, Option.some.inj h⟩
  · intro h
    obtain ⟨before, rest, rfl, rfl, rfl⟩ := h
    exact getElem?_fields_append before rest

-- ============================================================== markers

/-- What comes after a marker at the start is the rest of the text. -/
theorem after?_append (marker s : List Char) :
    after? marker (marker ++ s) = some s := by
  cases h : marker ++ s with
  | nil =>
    obtain ⟨rfl, rfl⟩ := List.append_eq_nil_iff.1 h
    rfl
  | cons c rest =>
    rw [after?, if_pos (List.isPrefixOf_iff_prefix.2
      (h ▸ List.prefix_append marker s)), ← h, List.drop_left]

/-- Where the marker is nowhere in the text, nothing comes after it. -/
theorem after?_eq_none {marker : List Char} (h : ¬marker <:+: s) :
    after? marker s = none := by
  rw [← Option.not_isSome_iff_eq_none]
  exact fun hsome => h (contains_iff.1 hsome)

/-- A single character is found where it first occurs. -/
theorem after?_singleton (h : sep ∉ s) (rest : List Char) :
    after? [sep] (s ++ sep :: rest) = some rest := by
  induction s with
  | nil => exact after?_append [sep] rest
  | cons c s ih =>
    obtain ⟨hc, hs⟩ := List.ne_and_not_mem_of_not_mem_cons h
    have hbegins : ¬[sep].isPrefixOf (c :: (s ++ sep :: rest)) = true := by
      rw [List.isPrefixOf_iff_prefix, List.cons_prefix_cons]
      exact fun hp => hc hp.1
    rw [List.cons_append, after?, if_neg hbegins, ih hs]

theorem after?_singleton_eq_none (h : sep ∉ s) : after? [sep] s = none :=
  after?_eq_none fun hoccurs => h (hoccurs.subset List.mem_cons_self)

-- ================================================================ lines

/-- A line without the carriage return it may end with. -/
def withoutReturn : List Char → List Char
  | [] => []
  | c :: rest =>
    if c = '\r' ∧ rest = [] then [] else c :: withoutReturn rest

/-- One carriage return at the end of a line is taken off. -/
@[simp] theorem withoutReturn_concat (line : List Char) :
    withoutReturn (line ++ ['\r']) = line := by
  induction line with
  | nil => rfl
  | cons c rest ih => simp [withoutReturn, ih]

/-- Nothing but one carriage return at the end is ever taken off a line. -/
theorem withoutReturn_cases (line : List Char) :
    withoutReturn line = line ∨ line = withoutReturn line ++ ['\r'] := by
  induction line with
  | nil => exact .inl rfl
  | cons c rest ih =>
    unfold withoutReturn
    split
    next h =>
      obtain ⟨rfl, rfl⟩ := h
      exact .inr rfl
    next => exact ih.imp (congrArg _) (congrArg (List.cons c))

/-- What `withoutReturn` leaves is a prefix of the line. -/
theorem withoutReturn_isPrefix (line : List Char) :
    withoutReturn line <+: line := by
  rcases withoutReturn_cases line with h | h
  · exact ⟨[], by rw [List.append_nil, h]⟩
  · exact ⟨['\r'], h.symm⟩

/-- A carriage return is a blank, so it does not matter whether it is taken
off before `trim`. -/
theorem trim_withoutReturn (line : List Char) :
    trim (withoutReturn line) = trim line := by
  rcases withoutReturn_cases line with h | h
  · rw [h]
  · conv_rhs => rw [h, trim_append_right (blank_singleton (by decide))]

/-- A carriage return at the end of a line is none of what stands before
it. -/
theorem withoutReturn_append {s : List Char} (h : '\r' ∉ s)
    (rest : List Char) :
    withoutReturn (s ++ rest) = s ++ withoutReturn rest := by
  induction s with
  | nil => rfl
  | cons c s ih =>
    obtain ⟨hc, hs⟩ := List.ne_and_not_mem_of_not_mem_cons h
    rw [List.cons_append, withoutReturn, if_neg fun hr => hc hr.1.symm,
      ih hs, List.cons_append]

/-- A character that ends no line stands in front of the first. -/
theorem lines_cons (hc : c ≠ '\n')
    (hreturn : c = '\r' → ∀ later, s ≠ '\n' :: later) :
    lines (c :: s) = match lines s with
      | [] => [[c]]
      | line :: more => (c :: line) :: more :=
  lines.eq_4 c s hc fun later hcr heq => hreturn hcr later heq

/-- A line feed ends a line. -/
theorem lines_append_newline (h : '\n' ∉ line) (rest : List Char) :
    lines (line ++ '\n' :: rest) = withoutReturn line :: lines rest := by
  induction line with
  | nil => rfl
  | cons c line ih =>
    obtain ⟨hc, hline⟩ := List.ne_and_not_mem_of_not_mem_cons h
    by_cases hr : c = '\r' ∧ line = []
    · obtain ⟨rfl, rfl⟩ := hr
      rfl
    · have hreturn : c = '\r' → ∀ later,
          line ++ '\n' :: rest ≠ '\n' :: later := by
        intro hcr later heq
        cases line with
        | nil => exact hr ⟨hcr, rfl⟩
        | cons d line =>
          exact hline (List.mem_cons.2 (.inl (List.cons.inj heq).1.symm))
      rw [List.cons_append, lines_cons (Ne.symm hc) hreturn, ih hline,
        withoutReturn, if_neg hr]

/-- What follows the last line feed is a line unless it is empty. -/
theorem lines_of_not_mem (h : '\n' ∉ s) (hs : s ≠ []) : lines s = [s] := by
  induction s with
  | nil => exact absurd rfl hs
  | cons c s ih =>
    obtain ⟨hc, hrest⟩ := List.ne_and_not_mem_of_not_mem_cons h
    have hreturn : c = '\r' → ∀ later, s ≠ '\n' :: later :=
      fun _ later heq => hrest (heq ▸ List.mem_cons_self)
    rw [lines_cons (Ne.symm hc) hreturn]
    cases s with
    | nil => rfl
    | cons d s => rw [ih hrest (List.cons_ne_nil d s)]

/-- A line holds no line feed. -/
theorem not_mem_of_mem_lines (h : line ∈ lines s) : '\n' ∉ line := by
  induction s using field_induction '\n' with
  | last only honly =>
    by_cases he : only = []
    · subst he
      cases h
    · rw [lines_of_not_mem honly he, List.mem_singleton] at h
      exact h ▸ honly
  | more first rest hfirst ih =>
    rw [lines_append_newline hfirst, List.mem_cons] at h
    rcases h with rfl | h
    · exact fun hmem => hfirst ((withoutReturn_isPrefix first).subset hmem)
    · exact ih h

/-- The first line of a text that is not empty is what stands before the
first line feed, but perhaps for a carriage return. -/
theorem exists_first_line (hs : s ≠ []) :
    ∃ line more, lines s = line :: more
      ∧ (line = s.takeWhile (· ≠ '\n')
        ∨ line = withoutReturn (s.takeWhile (· ≠ '\n'))) := by
  by_cases h : '\n' ∈ s
  · obtain ⟨first, rest, hfirst, rfl⟩ := exists_first_field h
    refine ⟨_, _, lines_append_newline hfirst rest, .inr ?_⟩
    rw [takeWhile_append_cons hfirst]
  · exact ⟨s, [], lines_of_not_mem h hs, .inl (takeWhile_of_not_mem h).symm⟩

-- ================================================= lines with their ends

/-- What ends a line. -/
inductive Ending where
  | lf
  | crlf
deriving DecidableEq, Repr

def Ending.text : Ending → String
  | lf => "\n"
  | crlf => "\r\n"

/-- A line as it is sent. -/
structure EndedLine where
  content : String
  ending : Ending
  single : '\n' ∉ content.toList

namespace EndedLine

def text (l : EndedLine) : String :=
  l.content ++ l.ending.text

/-- What is read of a line: its content, but for a carriage return that
goes with a bare line feed. -/
def shown (l : EndedLine) : List Char :=
  match l.ending with
  | .lf => withoutReturn l.content.toList
  | .crlf => l.content.toList

/-- A line with its end in front of a text is the first of its `lines`, as
it is shown. -/
theorem lines_text_append (l : EndedLine) (rest : List Char) :
    lines (l.text.toList ++ rest) = l.shown :: lines rest := by
  obtain ⟨content, ending, single⟩ := l
  cases ending with
  | lf =>
    have h := lines_append_newline single rest
    simpa [text, shown, Ending.text] using h
  | crlf =>
    have hmem : '\n' ∉ content.toList ++ ['\r'] := by simpa using single
    have h := lines_append_newline hmem rest
    rw [withoutReturn_concat] at h
    simpa [text, shown, Ending.text] using h

/-- What a line shows is a prefix of what it holds. -/
theorem shown_isPrefix (l : EndedLine) : l.shown <+: l.content.toList := by
  unfold shown
  split
  · exact withoutReturn_isPrefix _
  · exact List.prefix_rfl

/-- But for blanks, a line shows all of what it holds. -/
theorem trim_shown (l : EndedLine) : trim l.shown = trim l.content.toList := by
  unfold shown
  split
  · exact trim_withoutReturn _
  · rfl

end EndedLine

end Uplink.Text
