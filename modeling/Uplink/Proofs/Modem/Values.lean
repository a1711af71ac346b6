/-
What stands behind a marker, and what its readers make of it.

# Values

The first line with the marker is the one that counts, and of it what
stands between the commas, without the blanks around it: the values of a
response (`valuesOf?`). Lines before it without the marker change nothing
(`valueOf?_line`), and nothing behind the line does (`valueOf?_append`).

# Readers

Each of the readers looks at the whole line in its own way: one cuts at
the first comma only, one compares all of it, one counts quotes across
the commas. All of them read the values and nothing else
(`registration?_eq` to `operatorCode?_eq`).
-/
import Uplink.Modem.Reply
import Uplink.Proofs.Text.Cutting
import Uplink.Proofs.Text.Numeral

namespace Uplink.Modem.Reply

open Text (EndedLine Blank isBlank isDigit trim trimStart trimEnd fields
  byte? int32? fields_of_not_mem fields_append_cons field_induction
  trim_append_left trim_append_right trim_append_cons)

variable {marker text : String} {s rest : List Char}

-- ========================================================== the marker

/-- A marker is not empty, and no blank is part of it. -/
structure Solid (marker : String) : Prop where
  nonempty : marker.toList ≠ []
  solid : ∀ c ∈ marker.toList, isBlank c = false

instance (marker : String) : Decidable (Solid marker) :=
  decidable_of_iff
    (marker.toList ≠ [] ∧ marker.toList.all (!isBlank ·) = true) <| by
      simp only [List.all_eq_true, Bool.not_eq_true']
      exact ⟨fun h => ⟨h.1, h.2⟩, fun h => ⟨h.nonempty, h.solid⟩⟩

/-- A line without the marker is passed over. -/
theorem valueOf?_line (l : EndedLine)
    (h : ¬marker.toList <:+: l.content.toList) (rest : List Char) :
    valueOf? marker (l.text.toList ++ rest) = valueOf? marker rest := by
  have hshown : ¬marker.toList <:+: l.shown := fun hoccurs =>
    h (hoccurs.trans l.shown_isPrefix.isInfix)
  unfold valueOf?
  rw [l.lines_text_append, List.findSome?_cons,
    Text.after?_eq_none hshown]
  rfl

/-- Lines in which the marker does not stand are passed over. -/
theorem valueOf?_lines {earlier : List EndedLine}
    (h : ∀ l ∈ earlier, ¬marker.toList <:+: l.content.toList)
    (rest : List Char) :
    valueOf? marker (earlier.flatMap (·.text.toList) ++ rest)
      = valueOf? marker rest := by
  induction earlier with
  | nil => rfl
  | cons l earlier ih =>
    obtain ⟨hl, hearlier⟩ := List.forall_mem_cons.1 h
    rw [List.flatMap_cons, List.append_assoc, valueOf?_line l hl,
      ih hearlier]

/-- What stands behind the marker on its line is the value. -/
theorem valueOf?_append (h : Solid marker) (rest : List Char) :
    valueOf? marker (marker.toList ++ rest)
      = some (trim (rest.takeWhile (· ≠ '\n'))) := by
  have hfeed : '\n' ∉ marker.toList := fun hmem =>
    absurd (h.solid _ hmem) (by decide)
  have hreturn : '\r' ∉ marker.toList := fun hmem =>
    absurd (h.solid _ hmem) (by decide)
  have hne : marker.toList ++ rest ≠ [] :=
    List.append_ne_nil_of_left_ne_nil h.nonempty rest
  obtain ⟨line, more, hlines, hline⟩ := Text.exists_first_line hne
  rw [Text.takeWhile_append hfeed, Text.withoutReturn_append hreturn]
    at hline
  rw [valueOf?, hlines, List.findSome?_cons]
  rcases hline with rfl | rfl
  · rw [Text.after?_append]
    rfl
  · rw [Text.after?_append, Option.map_some, Text.trim_withoutReturn]

-- =============================================================== values

/-- A comma is no blank, so trimming leaves it. -/
theorem mem_trim (h : ',' ∈ s) : ',' ∈ trim s := by
  obtain ⟨first, rest, -, rfl⟩ := Text.exists_first_field h
  rw [trim_append_cons (by decide)]
  exact List.mem_append_right _ List.mem_cons_self

/-- What stands between the commas, without the blanks around it. -/
def valuesIn (s : List Char) : List (List Char) :=
  (fields ',' s).map trim

/-- The values of a response. -/
def valuesOf? (marker text : String) : Option (List (List Char)) :=
  (valueOf? marker text.toList).map valuesIn

/-- A text without commas is one value. -/
theorem valuesIn_of_not_mem (h : ',' ∉ s) : valuesIn s = [trim s] := by
  rw [valuesIn, fields_of_not_mem h, List.map_singleton]

/-- The first value ends at the first comma, and the others are those of
the rest. -/
theorem valuesIn_append_cons (h : ',' ∉ s) (rest : List Char) :
    valuesIn (s ++ ',' :: rest) = trim s :: valuesIn rest := by
  rw [valuesIn, fields_append_cons h, List.map_cons]
  rfl

/-- There is one value at least, if an empty one. -/
theorem valuesIn_ne_nil (s : List Char) : valuesIn s ≠ [] := by
  rw [valuesIn, Text.fields_eq_splitOn, Ne, List.map_eq_nil_iff]
  exact List.splitOn_ne_nil ',' s

/-- A comma is no blank. -/
theorem not_mem_of_blank {pad : List Char} (h : Blank pad) :
    ',' ∉ pad :=
  fun hmem => absurd (h ',' hmem) (by decide)

/-- Blanks in front of the values do not show. -/
theorem valuesIn_append_left {pad : List Char} (h : Blank pad)
    (s : List Char) : valuesIn (pad ++ s) = valuesIn s := by
  by_cases hs : ',' ∈ s
  · obtain ⟨field, rest, hfield, rfl⟩ := Text.exists_first_field hs
    have hpadded : ',' ∉ pad ++ field :=
      List.not_mem_append (not_mem_of_blank h) hfield
    rw [← List.append_assoc, valuesIn_append_cons hpadded,
      valuesIn_append_cons hfield, trim_append_left h]
  · have hpadded : ',' ∉ pad ++ s :=
      List.not_mem_append (not_mem_of_blank h) hs
    rw [valuesIn_of_not_mem hpadded, valuesIn_of_not_mem hs,
      trim_append_left h]

/-- Neither do blanks behind them. -/
theorem valuesIn_append_right {pad : List Char} (h : Blank pad)
    (s : List Char) : valuesIn (s ++ pad) = valuesIn s := by
  induction s using field_induction ',' with
  | last field hfield =>
    have hpadded : ',' ∉ field ++ pad :=
      List.not_mem_append hfield (not_mem_of_blank h)
    rw [valuesIn_of_not_mem hpadded, valuesIn_of_not_mem hfield,
      trim_append_right h]
  | more field rest hfield ih =>
    rw [List.append_assoc, List.cons_append, valuesIn_append_cons hfield,
      valuesIn_append_cons hfield, ih]

/-- Blanks at the ends are around the first value or the last. -/
theorem valuesIn_trim (s : List Char) : valuesIn (trim s) = valuesIn s := by
  obtain ⟨left, right, hleft, hright, hs⟩ := Text.exists_trim s
  conv_rhs => rw [hs, valuesIn_append_left hleft,
    valuesIn_append_right hright]

/-- A text has one value if it is that value. -/
theorem valuesIn_eq_singleton_iff {x : List Char} (hs : trim s = s)
    (hx : ',' ∉ x) : valuesIn s = [x] ↔ s = x := by
  constructor
  · intro h
    by_cases hcomma : ',' ∈ s
    · obtain ⟨first, rest, hfirst, rfl⟩ := Text.exists_first_field hcomma
      rw [valuesIn_append_cons hfirst] at h
      exact absurd (List.cons.inj h).2 (valuesIn_ne_nil rest)
    · rw [valuesIn_of_not_mem hcomma, hs] at h
      exact (List.cons.inj h).1
  · rintro rfl
    rw [valuesIn_of_not_mem hx, hs]

/-- The values are those of the rest of the line. -/
theorem valuesOf?_append (h : Solid marker) {text : String}
    (htext : text.toList = marker.toList ++ rest) :
    valuesOf? marker text
      = some (valuesIn (rest.takeWhile (· ≠ '\n'))) := by
  rw [valuesOf?, htext, valueOf?_append h, Option.map_some, valuesIn_trim]

/-- A value is trimmed. -/
theorem trim_of_valueOf? (h : valueOf? marker s = some rest) :
    trim rest = rest := by
  obtain ⟨line, -, hline⟩ := List.exists_of_findSome?_eq_some h
  obtain ⟨tail, -, rfl⟩ := Option.map_eq_some_iff.1 hline
  exact Text.trim_trim tail

/-- There is no value and there are no values, or there are those of a
value without blanks at its ends. -/
theorem valuesOf?_cases (marker text : String) :
    valueOf? marker text.toList = none ∧ valuesOf? marker text = none
      ∨ ∃ value, valueOf? marker text.toList = some value
        ∧ trim value = value
        ∧ valuesOf? marker text = some (valuesIn value) := by
  unfold valuesOf?
  cases h : valueOf? marker text.toList with
  | none => exact .inl ⟨rfl, rfl⟩
  | some value => exact .inr ⟨value, rfl, trim_of_valueOf? h, rfl⟩

-- ============================================================== readers

/-- A registration is in the second value, or in the only one. -/
theorem registration?_eq (text marker : String) :
    registration? text marker = (valuesOf? marker text).bind fun
      | [] => none
      | [only] => (byte? only).bind fun code =>
          Registration.ofCode? code.toNat
      | _ :: stat :: _ => (byte? stat).bind fun code =>
          Registration.ofCode? code.toNat := by
  unfold registration?
  rcases valuesOf?_cases marker text with ⟨hnone, hvalues⟩
    | ⟨value, hvalue, -, hvalues⟩
  · rw [hnone, hvalues]
    rfl
  · rw [hvalue, hvalues, Option.bind_eq_bind, Option.bind_some,
      Option.bind_some, valuesIn]
    cases fields ',' value with
    | nil => rfl
    | cons first more =>
      cases more with
      | nil => rfl
      | cons second more => rfl

/-- A reading of the signal is in the two values, if there are no more. -/
theorem signalQuality?_eq (text : String) :
    signalQuality? text = (valuesOf? "+CSQ:" text).bind fun
      | [rssi, ber] => (int32? rssi).bind fun rssi =>
          (int32? ber).map fun ber => ⟨rssi, ber⟩
      | _ => none := by
  unfold signalQuality?
  rcases valuesOf?_cases "+CSQ:" text with ⟨hnone, hvalues⟩
    | ⟨value, hvalue, -, hvalues⟩
  · rw [hnone, hvalues]
    rfl
  · rw [hvalue, hvalues, Option.bind_eq_bind, Option.bind_some,
      Option.bind_some]
    by_cases hcomma : ',' ∈ value
    · obtain ⟨first, rest, hfirst, rfl⟩ := Text.exists_first_field hcomma
      rw [Text.after?_singleton hfirst, Option.bind_eq_bind,
        Option.bind_some, Text.takeWhile_append_cons hfirst,
        valuesIn_append_cons hfirst]
      by_cases hmore : ',' ∈ rest
      · -- what follows the first comma is no number then
        obtain ⟨second, last, hsecond, rfl⟩ := Text.exists_first_field hmore
        rw [valuesIn_append_cons hsecond, Text.int32?_eq_none (mem_trim hmore)]
        obtain ⟨third, more, hthird⟩ :=
          List.exists_cons_of_ne_nil (valuesIn_ne_nil last)
        rw [hthird]
        cases int32? (trim first) <;> rfl
      · rw [valuesIn_of_not_mem hmore]
        refine congrArg (Option.bind _) (funext fun rssi => ?_)
        cases int32? (trim rest) <;> rfl
    · rw [Text.after?_singleton_eq_none hcomma, valuesIn_of_not_mem hcomma]
      rfl

/-- The level is the first value. -/
theorem functionality?_eq (text : String) :
    functionality? text = (valuesOf? "+CFUN:" text).bind fun values =>
      values.head?.bind byte? := by
  unfold functionality?
  rcases valuesOf?_cases "+CFUN:" text with ⟨hnone, hvalues⟩
    | ⟨value, hvalue, -, hvalues⟩
  · rw [hnone, hvalues]
    rfl
  · rw [hvalue, hvalues, Option.bind_eq_bind, Option.bind_some,
      Option.bind_some]
    by_cases hcomma : ',' ∈ value
    · obtain ⟨first, rest, hfirst, rfl⟩ := Text.exists_first_field hcomma
      rw [Text.takeWhile_append_cons hfirst, valuesIn_append_cons hfirst]
      rfl
    · rw [Text.takeWhile_of_not_mem hcomma, valuesIn_of_not_mem hcomma]
      rfl

/-- The modem is attached or not by the only value. -/
theorem attachState?_eq (text : String) :
    attachState? text = (valuesOf? "+CGATT:" text).bind fun values =>
      if values = [['1']] then some true
      else if values = [['0']] then some false
      else none := by
  unfold attachState?
  rcases valuesOf?_cases "+CGATT:" text with ⟨hnone, hvalues⟩
    | ⟨value, hvalue, htrim, hvalues⟩
  · rw [hnone, hvalues]
    rfl
  · rw [hvalue, hvalues, Option.bind_some]
    simp only [valuesIn_eq_singleton_iff htrim (x := ['1']) (by decide),
      valuesIn_eq_singleton_iff htrim (x := ['0']) (by decide)]
    split
    next heq => rw [Option.some.inj heq, if_pos rfl]
    next heq =>
      rw [Option.some.inj heq, if_neg (by decide), if_pos rfl]
    next hone hzero =>
      rw [if_neg fun h => hone (congrArg some h),
        if_neg fun h => hzero (congrArg some h)]

/-- A word without the separator starts a text exactly if it starts what
stands before the separator. -/
theorem prefix_append_cons_iff {w : List Char} {sep : Char} (h : sep ∉ w)
    (s rest : List Char) : w <+: s ++ sep :: rest ↔ w <+: s := by
  constructor
  · intro hw
    rcases List.prefix_or_prefix_of_prefix hw (List.prefix_append _ _)
      with hs | ⟨tail, rfl⟩
    · exact hs
    · rw [List.prefix_append_right_inj] at hw
      cases tail with
      | nil => exact ⟨[], by rw [List.append_nil, List.append_nil]⟩
      | cons c tail =>
        rw [List.cons_prefix_cons] at hw
        exact absurd (by simp [hw.1]) h
  · exact fun hw => hw.trans (List.prefix_append _ _)

/-- Whether a word that ends in something else than a blank starts a text
is not changed by `trimEnd`. -/
theorem prefix_trimEnd_iff {c : Char} (hc : isBlank c = false)
    (w s : List Char) : w ++ [c] <+: trimEnd s ↔ w ++ [c] <+: s := by
  constructor
  · exact fun h => h.trans (List.rdropWhile_prefix isBlank s)
  · rintro ⟨rest, rfl⟩
    rw [List.append_assoc, List.singleton_append,
      Text.trimEnd_append_cons hc]
    exact ⟨trimEnd rest, by simp⟩

/-- The SIM is ready if the first value says so at its beginning. -/
theorem simReady_eq (text : String) :
    simReady text = (valuesOf? "+CPIN:" text).elim false fun values =>
      values.head?.any "READY".toList.isPrefixOf := by
  unfold simReady
  rcases valuesOf?_cases "+CPIN:" text with ⟨hnone, hvalues⟩
    | ⟨value, hvalue, htrim, hvalues⟩
  · rw [hnone, hvalues]
    rfl
  · rw [hvalue, hvalues, Option.elim_some]
    by_cases hcomma : ',' ∈ value
    · obtain ⟨first, rest, hfirst, rfl⟩ := Text.exists_first_field hcomma
      have hready : "READY".toList = "READ".toList ++ ['Y'] := rfl
      have hbegins : "READY".toList.isPrefixOf (trimStart first
            ++ ',' :: trimEnd rest)
          = "READY".toList.isPrefixOf (trim first) := by
        rw [Bool.eq_iff_iff, List.isPrefixOf_iff_prefix,
          List.isPrefixOf_iff_prefix, prefix_append_cons_iff (by decide),
          trim, hready, prefix_trimEnd_iff (by decide)]
      rw [valuesIn_append_cons hfirst, ← htrim, trim_append_cons (by decide)]
      exact hbegins
    · rw [valuesIn_of_not_mem hcomma, htrim]
      rfl

-- ============================================================= operator

/-- Five or six digits. -/
def isCode (s : List Char) : Bool :=
  (s.length = 5 || s.length = 6) && s.all isDigit

/-- A code is five or six characters, all of them digits. -/
theorem isCode_iff : isCode s = true
    ↔ (s.length = 5 ∨ s.length = 6) ∧ ∀ c ∈ s, '0' ≤ c ∧ c ≤ '9' := by
  simp [isCode, isDigit]

/-- What stands between the first two quotes of some values, as far as it
does not reach over a comma. -/
def quotedIn : List (List Char) → Option (List Char)
  | [] => none
  | [only] => quotedChars? 0 only
  | value :: rest =>
    if '"' ∈ value then quotedChars? 0 (value ++ [',']) else quotedIn rest

/-- A text without quotes has no quoted value. -/
theorem quotedChars?_of_not_mem (h : '"' ∉ s) : quotedChars? 0 s = none := by
  rw [quotedChars?, fields_of_not_mem h]
  rfl

/-- The first quoted value starts behind the first quote, and goes up to
the next one or to the end. -/
theorem quotedChars?_append_cons (h : '"' ∉ s) (rest : List Char) :
    quotedChars? 0 (s ++ '"' :: rest) = some (rest.takeWhile (· ≠ '"')) := by
  rw [quotedChars?, fields_append_cons h]
  by_cases hrest : '"' ∈ rest
  · obtain ⟨first, more, hfirst, rfl⟩ := Text.exists_first_field hrest
    rw [fields_append_cons hfirst, Text.takeWhile_append_cons hfirst]
    rfl
  · rw [fields_of_not_mem hrest, Text.takeWhile_of_not_mem hrest]
    rfl

/-- Nothing before the first quote matters. -/
theorem quotedChars?_append (h : '"' ∉ s) (rest : List Char) :
    quotedChars? 0 (s ++ rest) = quotedChars? 0 rest := by
  by_cases hrest : '"' ∈ rest
  · obtain ⟨first, more, hfirst, rfl⟩ := Text.exists_first_field hrest
    have hboth : '"' ∉ s ++ first := List.not_mem_append h hfirst
    rw [← List.append_assoc, quotedChars?_append_cons hboth,
      quotedChars?_append_cons hfirst]
  · have hboth : '"' ∉ s ++ rest := List.not_mem_append h hrest
    rw [quotedChars?_of_not_mem hboth, quotedChars?_of_not_mem hrest]

/-- Blanks in front do not matter for it. -/
theorem quotedChars?_trimStart (s : List Char) :
    quotedChars? 0 (trimStart s) = quotedChars? 0 s := by
  have hquote : '"' ∉ s.takeWhile isBlank := fun hmem =>
    absurd (List.mem_takeWhile_imp hmem) (by decide)
  conv_rhs => rw [← List.takeWhile_append_dropWhile (p := isBlank) (l := s),
    quotedChars?_append hquote]
  rfl

/-- No code reaches over a comma. -/
theorem isCode_eq_false (h : ',' ∈ s) : isCode s = false := by
  unfold isCode
  rw [Bool.and_eq_false_iff]
  refine .inr (List.all_eq_false.2 ⟨',', h, by decide⟩)

/-- What begins in one value and ends in another is no code; so the values
say what code there is. -/
theorem quotedIn_trim (s : List Char) :
    (quotedChars? 0 (trim s)).filter isCode
      = (quotedIn (valuesIn s)).filter isCode := by
  induction s using field_induction ',' with
  | last field hfield => rw [valuesIn_of_not_mem hfield, quotedIn]
  | more field rest hfield ih =>
    have hquote : isBlank '"' = false := by decide
    rw [valuesIn_append_cons hfield, trim_append_cons (by decide),
      quotedIn.eq_3 _ _ (valuesIn_ne_nil rest)]
    by_cases hopen : '"' ∈ field
    · -- the quote is opened here, and closed here or not at all
      obtain ⟨before, behind, hbefore, rfl⟩ := Text.exists_first_field hopen
      have hstart := Text.not_mem_trimStart hbefore
      have hmem : '"' ∈ trim (before ++ '"' :: behind) := by
        rw [trim_append_cons hquote]
        exact List.mem_append_right _ List.mem_cons_self
      rw [if_pos hmem, Text.trimStart_append_cons hquote,
        trim_append_cons hquote, List.append_assoc, List.append_assoc,
        List.cons_append, List.cons_append,
        quotedChars?_append_cons hstart, quotedChars?_append_cons hstart]
      by_cases hclose : '"' ∈ behind
      · obtain ⟨code, later, hcode, rfl⟩ := Text.exists_first_field hclose
        rw [Text.trimEnd_append_cons hquote, List.append_assoc,
          List.append_assoc, List.cons_append, List.cons_append,
          Text.takeWhile_append_cons hcode, Text.takeWhile_append_cons hcode]
      · have hend := Text.not_mem_trimEnd hclose
        rw [Text.takeWhile_append hclose, Text.takeWhile_append hend,
          Option.filter_some, Option.filter_some,
          isCode_eq_false (List.mem_append_right _ (by simp)),
          isCode_eq_false (List.mem_append_right _ (by simp))]
        rfl
    · have hstart : '"' ∉ trimStart field ++ [','] :=
        List.not_mem_append (Text.not_mem_trimStart hopen) (by decide)
      have hnot := Text.not_mem_trim hopen
      rw [if_neg hnot, ← ih, ← List.singleton_append, ← List.append_assoc,
        quotedChars?_append hstart, ← quotedChars?_trimStart (trimEnd rest),
        Text.trimStart_trimEnd]

/-- Of what is quoted first, a code is taken. -/
theorem operatorCode?_eq_filter (text : String) :
    operatorCode? text
      = (((valueOf? "+COPS:" text.toList).bind (quotedChars? 0)).filter
          isCode).map String.ofList := by
  unfold operatorCode?
  cases valueOf? "+COPS:" text.toList with
  | none => rfl
  | some value =>
    rw [Option.bind_eq_bind, Option.bind_some, Option.bind_some]
    cases quotedChars? 0 value with
    | none => rfl
    | some code =>
      rw [Option.bind_some, Option.filter_some]
      unfold isCode
      split <;> rfl

/-- The operator's code is what the values have between quotes. -/
theorem operatorCode?_eq (text : String) :
    operatorCode? text = (valuesOf? "+COPS:" text).bind fun values =>
      ((quotedIn values).filter isCode).map String.ofList := by
  rw [operatorCode?_eq_filter]
  rcases valuesOf?_cases "+COPS:" text with ⟨hnone, hvalues⟩
    | ⟨value, hvalue, htrim, hvalues⟩
  · rw [hnone, hvalues]
    rfl
  · rw [hvalue, hvalues, Option.bind_some, Option.bind_some,
      ← quotedIn_trim, htrim]

end Uplink.Modem.Reply
