/-
What was reported is what is read.

# Noise

A report is a line that begins with a marker, with blanks around its
fields. Before it there may be lines of any other kind, such as an echo or
a report nobody asked for, and behind it there may be anything
(`Report`). A reader that is `Tolerant` makes of it what it makes of the
fields alone. All six are, since they look at nothing but the values
(`tolerant_of_values`).

# Fields

What a reader makes of the fields is said for each of them by a structure,
from `ReadsRegistration` to `ReadsOperatorCode`. A field that is a number
is read as this number or not at all (`Numeral.inByte?`,
`Numeral.inWord?`), with a sign or without, with leading zeros and with
any number of digits.
-/
import Uplink.Proofs.Modem.Contexts
import Uplink.Proofs.Modem.Values

namespace Uplink.Modem.Reply

open Text (EndedLine Ending Blank Numeral isBlank trim byte? int32?)

variable {marker : String} {α : Type}

-- ============================================================== reports

/-- A text that can stand between commas on one line. -/
structure Plain (s : String) : Prop where
  uncut : ',' ∉ s.toList
  single : '\n' ∉ s.toList

instance (s : String) : Decidable (Plain s) :=
  decidable_of_iff (',' ∉ s.toList ∧ '\n' ∉ s.toList)
    ⟨fun h => ⟨h.1, h.2⟩, fun h => ⟨h.uncut, h.single⟩⟩

/-- A field, and the blanks around it. -/
structure Padded where
  left : String
  content : String
  right : String
  left_blank : Blank left.toList
  left_single : '\n' ∉ left.toList
  right_blank : Blank right.toList
  right_single : '\n' ∉ right.toList
  plain : Plain content

namespace Padded

variable (p : Padded)

def text : String :=
  p.left ++ p.content ++ p.right

/-- Blanks around it leave a field `Plain`. -/
theorem plain_text : Plain p.text := by
  have hleft := not_mem_of_blank p.left_blank
  have hright := not_mem_of_blank p.right_blank
  unfold text
  constructor
  · simp [hleft, hright, p.plain.uncut]
  · simp [p.left_single, p.right_single, p.plain.single]

/-- What `trim` leaves of a field does not depend on the blanks around
it. -/
theorem trim_text : trim p.text.toList = trim p.content.toList := by
  rw [text, String.toList_append, String.toList_append,
    Text.trim_append_right p.right_blank,
    Text.trim_append_left p.left_blank]

end Padded

/-- What follows a line: nothing, or its end and any text. -/
inductive Later where
  | nothing
  | lines (ending : Ending) (text : String)

def Later.text : Later → String
  | nothing => ""
  | lines ending text => ending.text ++ text

/-- Up to the line feed there is at most a carriage return. -/
theorem Later.blank_takeWhile (later : Later) :
    Blank (later.text.toList.takeWhile (· ≠ '\n')) := by
  cases later with
  | nothing => exact Text.blank_nil
  | lines ending text =>
    rw [Later.text, String.toList_append]
    cases ending with
    | lf => exact Text.blank_nil
    | crlf =>
      have hreturn : Blank ['\r'] := Text.blank_singleton (by decide)
      exact hreturn

theorem blank_space : Blank [' '] :=
  Text.blank_singleton (by decide)

/-- Fields that are joined by commas are read apart again, each without the
blanks around it. -/
theorem valuesIn_intercalate {texts : List String} (hne : texts ≠ [])
    (h : ∀ t ∈ texts, ',' ∉ t.toList) :
    valuesIn (",".intercalate texts).toList
      = texts.map fun t => trim t.toList := by
  have hmem : ∀ s ∈ texts.map String.toList, ',' ∉ s := by
    intro s hs
    obtain ⟨t, ht, rfl⟩ := List.mem_map.1 hs
    exact h t ht
  rw [valuesIn, String.toList_intercalate, Text.fields_eq_splitOn]
  show (List.splitOn ',' ([','].intercalate _)).map trim = _
  rw [List.splitOn_intercalate ',' hmem (by simpa using hne), List.map_map]
  rfl

/-- Joining by commas brings no other character in. -/
theorem not_mem_intercalate {c : Char} {texts : List String} (hc : c ≠ ',')
    (h : ∀ t ∈ texts, c ∉ t.toList) :
    c ∉ (",".intercalate texts).toList := by
  induction texts with
  | nil => simp
  | cons t texts ih =>
    obtain ⟨ht, htexts⟩ := List.forall_mem_cons.1 h
    cases texts with
    | nil => rwa [String.intercalate_singleton]
    | cons u texts =>
      rw [String.intercalate_cons_cons, String.toList_append,
        String.toList_append, List.mem_append, List.mem_append, not_or,
        not_or]
      exact ⟨⟨ht, fun hcomma => hc (List.mem_singleton.1 hcomma)⟩,
        ih htexts⟩

/-- Fields with commas between them are what their line is read as. -/
theorem valuesIn_line {pad later : List Char} {texts : List String}
    (hpad : Blank pad) (hsingle : '\n' ∉ pad) (hne : texts ≠ [])
    (htexts : ∀ t ∈ texts, Plain t)
    (hlater : Blank (later.takeWhile (· ≠ '\n'))) :
    valuesIn ((pad ++ ((",".intercalate texts).toList ++ later)).takeWhile
        (· ≠ '\n'))
      = texts.map fun t => trim t.toList := by
  have hline : '\n' ∉ (",".intercalate texts).toList :=
    not_mem_intercalate (by decide) fun t ht => (htexts t ht).single
  rw [Text.takeWhile_append hsingle, Text.takeWhile_append hline,
    valuesIn_append_left hpad, valuesIn_append_right hlater,
    valuesIn_intercalate hne fun t ht => (htexts t ht).uncut]

/-- A response with a marker's line in it. -/
structure Report (marker : String) where
  earlier : List EndedLine
  fields : List Padded
  later : Later
  silent : ∀ l ∈ earlier, ¬marker.toList <:+: l.content.toList
  nonempty : fields ≠ []

namespace Report

variable (r : Report marker)

def text : String :=
  String.join (r.earlier.map EndedLine.text) ++ marker
    ++ ",".intercalate (r.fields.map Padded.text) ++ r.later.text

/-- The fields alone. -/
def plain : String :=
  marker ++ " " ++ ",".intercalate (r.fields.map Padded.content)

/-- The values of a report are its fields. -/
def values : List (List Char) :=
  r.fields.map fun p => trim p.content.toList

/-- Every field of a report is `Plain` with the blanks around it. -/
theorem plain_of_mem_texts {t : String}
    (ht : t ∈ r.fields.map Padded.text) : Plain t := by
  obtain ⟨p, -, rfl⟩ := List.mem_map.1 ht
  exact p.plain_text

/-- It is also `Plain` without them. -/
theorem plain_of_mem_contents {t : String}
    (ht : t ∈ r.fields.map Padded.content) : Plain t := by
  obtain ⟨p, -, rfl⟩ := List.mem_map.1 ht
  exact p.plain

/-- The values of a report are its fields, whatever lines come before it
and whatever comes after. -/
theorem valuesOf?_text (h : Solid marker) :
    valuesOf? marker r.text = some r.values := by
  have htext : r.text.toList = r.earlier.flatMap (·.text.toList)
      ++ (marker.toList ++ ([]
        ++ ((",".intercalate (r.fields.map Padded.text)).toList
          ++ r.later.text.toList))) := by
    simp [text, List.flatMap_map]
  have hvalues : (r.fields.map Padded.text).map (fun t => trim t.toList)
      = r.values := by
    rw [List.map_map]
    exact List.map_congr_left fun p _ => p.trim_text
  rw [valuesOf?, htext, valueOf?_lines r.silent, valueOf?_append h,
    Option.map_some, valuesIn_trim, valuesIn_line Text.blank_nil List.not_mem_nil
      (by simpa using r.nonempty) (fun _ => r.plain_of_mem_texts)
      r.later.blank_takeWhile, hvalues]

/-- They are also the values of the fields alone on a line. -/
theorem valuesOf?_plain (h : Solid marker) :
    valuesOf? marker r.plain = some r.values := by
  have htext : r.plain.toList = marker.toList ++ ([' ']
      ++ ((",".intercalate (r.fields.map Padded.content)).toList ++ [])) := by
    simp [plain]
  have hnothing : Blank (([] : List Char).takeWhile (· ≠ '\n')) :=
    Text.blank_nil
  rw [valuesOf?_append h htext, valuesIn_line blank_space (by decide)
    (by simpa using r.nonempty) (fun _ => r.plain_of_mem_contents) hnothing,
    List.map_map]
  rfl

end Report

/-- A reader makes of a report what it makes of the fields alone. -/
def Tolerant (marker : String) (read : String → α) : Prop :=
  ∀ r : Report marker, read r.text = read r.plain

/-- A reader that looks at nothing but the values is `Tolerant`. -/
theorem tolerant_of_values {read : String → α}
    (make : Option (List (List Char)) → α) (h : Solid marker)
    (hread : ∀ text, read text = make (valuesOf? marker text)) :
    Tolerant marker read := by
  intro r
  rw [hread, hread, r.valuesOf?_text h, r.valuesOf?_plain h]

-- =============================================================== fields

/-- What follows a field: nothing, or a comma and any text. -/
inductive Tail where
  | nothing
  | comma (text : String)

namespace Tail

def text : Tail → String
  | nothing => ""
  | comma text => "," ++ text

/-- The values that it adds to those before it. -/
def values : Tail → List (List Char)
  | nothing => []
  | comma text => valuesIn (text.toList.takeWhile (· ≠ '\n'))

end Tail

/-- A field counts up to what follows it. -/
theorem valuesIn_field {s : String} (hs : Plain s) (tail : Tail) :
    valuesIn ((s ++ tail.text).toList.takeWhile (· ≠ '\n'))
      = trim s.toList :: tail.values := by
  rw [String.toList_append, Text.takeWhile_append hs.single]
  cases tail with
  | nothing =>
    show valuesIn (s.toList ++ []) = _
    rw [List.append_nil, valuesIn_of_not_mem hs.uncut]
    rfl
  | comma text =>
    have hcomma : (Tail.comma text).text.toList = ',' :: text.toList :=
      String.toList_append
    rw [hcomma, List.takeWhile_cons_of_pos (by decide),
      valuesIn_append_cons hs.uncut]
    rfl

/-- On a line that starts with a marker and one field, that field is the
first of the values. -/
theorem valuesOf?_field (h : Solid marker) {s : String} (hs : Plain s)
    (tail : Tail) :
    valuesOf? marker (marker ++ " " ++ s ++ tail.text)
      = some (trim s.toList :: tail.values) := by
  have htext : (marker ++ " " ++ s ++ tail.text).toList
      = marker.toList ++ ([' '] ++ (s ++ tail.text).toList) := by
    simp
  rw [valuesOf?_append h htext, Text.takeWhile_append (by decide),
    valuesIn_append_left blank_space, valuesIn_field hs]

/-- The second field comes behind the first. -/
theorem valuesOf?_second (h : Solid marker) {s t : String} (hs : Plain s)
    (ht : Plain t) (tail : Tail) :
    valuesOf? marker (marker ++ " " ++ s ++ "," ++ t ++ tail.text)
      = some (trim s.toList :: trim t.toList :: tail.values) := by
  have htext : marker ++ " " ++ s ++ "," ++ t ++ tail.text
      = marker ++ " " ++ s ++ (Tail.comma (t ++ tail.text)).text := by
    simp only [Tail.text, String.append_assoc]
  rw [htext, valuesOf?_field h hs, Tail.values, valuesIn_field ht]

-- ============================================================== readers

section Numbers

variable (z : Numeral)

/-- A number is a field. -/
theorem plain_numeral : Plain z.text :=
  ⟨z.ne_of_mem_text rfl (by decide) (by decide),
    z.ne_of_mem_text rfl (by decide) (by decide)⟩

/-- There are no blanks around a numeral. -/
theorem trim_numeral : trim z.text.toList = z.text.toList :=
  Text.trim_of_solid fun _ => z.isBlank_of_mem_text

/-- The code of a state is the number, if that has room in eight bits. -/
theorem ofCode?_numeral :
    ((byte? (trim z.text.toList)).bind fun code =>
        Registration.ofCode? code.toNat)
      = z.inByte?.bind Registration.ofCode? := by
  rw [trim_numeral, z.byte?_text]
  unfold Numeral.inByte?
  split
  next hfits => simp [Nat.mod_eq_of_lt (Nat.lt_succ_of_le hfits.2)]
  next => rfl

/-- The state is in the second field, whatever stands around it. -/
theorem registration?_second (h : Solid marker) {n : String} (hn : Plain n)
    (tail : Tail) :
    registration? (marker ++ " " ++ n ++ "," ++ z.text ++ tail.text) marker
      = z.inByte?.bind Registration.ofCode? := by
  rw [registration?_eq, valuesOf?_second h hn (plain_numeral z),
    Option.bind_some]
  exact ofCode?_numeral z

/-- The state is in the first field, if there is no other. -/
theorem registration?_only (h : Solid marker) :
    registration? (marker ++ " " ++ z.text) marker
      = z.inByte?.bind Registration.ofCode? := by
  have hvalues := valuesOf?_field h (plain_numeral z) .nothing
  rw [Tail.text, String.append_empty] at hvalues
  rw [registration?_eq, hvalues, Option.bind_some]
  exact ofCode?_numeral z

/-- Two fields are read as a quality if both are words. -/
theorem signalQuality?_pair {s t : String} (hs : Plain s) (ht : Plain t) :
    signalQuality? ("+CSQ: " ++ s ++ "," ++ t)
      = (int32? (trim s.toList)).bind fun rssi =>
          (int32? (trim t.toList)).map fun ber => ⟨rssi, ber⟩ := by
  have hmarker : Solid "+CSQ:" := by decide
  have hvalues := valuesOf?_second hmarker hs ht .nothing
  rw [Tail.text, String.append_empty] at hvalues
  rw [signalQuality?_eq]
  exact congrArg (Option.bind · _) hvalues

/-- The level is in the first field. -/
theorem functionality?_first (tail : Tail) :
    functionality? ("+CFUN: " ++ z.text ++ tail.text)
      = z.inByte?.map UInt8.ofNat := by
  have hmarker : Solid "+CFUN:" := by decide
  have hvalues := valuesOf?_field hmarker (plain_numeral z) tail
  rw [functionality?_eq, ← z.byte?_text, ← trim_numeral z]
  exact congrArg (Option.bind · _) hvalues

end Numbers

/-- The code is what stands between the first two quotes, if it is one. -/
theorem operatorCode?_quoted {before code : String} (hbefore : Quotable before)
    (hcode : Quotable code) (behind : String) :
    operatorCode? ("+COPS: " ++ before ++ "\"" ++ code ++ "\"" ++ behind)
      = if isCode code.toList then some code else none := by
  have hmarker : Solid "+COPS:" := by decide
  have hquote : isBlank '"' = false := by decide
  have hopen := Text.not_mem_trimStart hbefore.unquoted
  have hsingle : '\n' ∉ [' '] ++ (before.toList ++ '"' :: (code.toList
      ++ ['"'])) := by
    simp [hbefore.single, hcode.single]
  have htext : ("+COPS: " ++ before ++ "\"" ++ code ++ "\"" ++ behind).toList
      = "+COPS:".toList ++ (([' '] ++ (before.toList ++ '"' :: (code.toList
        ++ ['"']))) ++ behind.toList) := by
    have hspace : "+COPS: ".toList = "+COPS:".toList ++ [' '] := rfl
    have hmark : "\"".toList = ['"'] := rfl
    simp only [String.toList_append, hspace, hmark, List.append_assoc,
      List.cons_append, List.nil_append]
  -- the value goes up to the end of its line, without the blanks around
  -- it
  have hvalue : valueOf? "+COPS:"
      ("+COPS: " ++ before ++ "\"" ++ code ++ "\"" ++ behind).toList
        = some (Text.trimStart before.toList ++ '"' :: (code.toList ++ '"'
          :: Text.trimEnd (behind.toList.takeWhile (· ≠ '\n')))) := by
    rw [htext, valueOf?_append hmarker, Text.takeWhile_append hsingle,
      List.append_assoc, Text.trim_append_left blank_space,
      List.append_assoc, List.cons_append, Text.trim_append_cons hquote,
      List.append_assoc, List.singleton_append,
      Text.trimEnd_append_cons hquote]
  rw [operatorCode?_eq_filter, hvalue, Option.bind_some,
    quotedChars?_append_cons hopen,
    Text.takeWhile_append_cons hcode.unquoted, Option.filter_some]
  split
  · exact congrArg some String.ofList_toList
  · rfl

-- ========================================================== specification

/-- A registration that was reported is read: its state is the second
field behind a first one and before any others, or the only one. A number
with no room in eight bits is no state. -/
structure ReadsRegistration (marker : String) : Prop where
  tolerant : Tolerant marker (registration? · marker)
  second : ∀ (n : String) (stat : UInt8) (tail : Tail), Plain n →
    registration? (marker ++ " " ++ n ++ "," ++ toString stat ++ tail.text)
        marker
      = Registration.ofCode? stat.toNat
  only : ∀ stat : UInt8,
    registration? (marker ++ " " ++ toString stat) marker
      = Registration.ofCode? stat.toNat
  unfit : ∀ z : Numeral, z.inByte? = none →
    (∀ (n : String) (tail : Tail), Plain n →
      registration? (marker ++ " " ++ n ++ "," ++ z.text ++ tail.text) marker
        = none)
    ∧ registration? (marker ++ " " ++ z.text) marker = none

/-- Both numbers of a signal quality come back, if there is room for both
in 32 bits; otherwise neither does. -/
structure ReadsSignalQuality : Prop where
  tolerant : Tolerant "+CSQ:" signalQuality?
  pair : ∀ rssi ber : Int32,
    signalQuality? ("+CSQ: " ++ toString rssi ++ "," ++ toString ber)
      = some ⟨rssi.toInt, ber.toInt⟩
  unfit : ∀ (z : Numeral) (other : String), Plain other →
    z.inWord? = none →
    signalQuality? ("+CSQ: " ++ z.text ++ "," ++ other) = none
      ∧ signalQuality? ("+CSQ: " ++ other ++ "," ++ z.text) = none

/-- The level comes back whatever follows it, if it has room in eight
bits. -/
structure ReadsFunctionality : Prop where
  tolerant : Tolerant "+CFUN:" functionality?
  first : ∀ (level : UInt8) (tail : Tail),
    functionality? ("+CFUN: " ++ toString level ++ tail.text) = some level
  unfit : ∀ (z : Numeral) (tail : Tail), z.inByte? = none →
    functionality? ("+CFUN: " ++ z.text ++ tail.text) = none

/-- The modem is attached or not if 1 or 0 is all that was reported. -/
structure ReadsAttachState : Prop where
  tolerant : Tolerant "+CGATT:" attachState?
  only : ∀ (r : Report "+CGATT:") (attached : Bool),
    attachState? r.text = some attached
      ↔ r.values = [if attached then ['1'] else ['0']]

/-- The SIM is ready if the first field says so at its beginning. -/
structure ReadsSimReady : Prop where
  tolerant : Tolerant "+CPIN:" simReady
  first : ∀ r : Report "+CPIN:",
    simReady r.text = true
      ↔ ∃ field ∈ r.values.head?, "READY".toList <+: field

/-- What is quoted first comes back if it is a code. -/
structure ReadsOperatorCode : Prop where
  tolerant : Tolerant "+COPS:" operatorCode?
  quoted : ∀ before code behind found : String,
    Quotable before → Quotable code →
    (operatorCode? ("+COPS: " ++ before ++ "\"" ++ code ++ "\"" ++ behind)
        = some found
      ↔ code = found ∧ (code.length = 5 ∨ code.length = 6)
        ∧ ∀ c ∈ code.toList, '0' ≤ c ∧ c ≤ '9')

/-- Both readers of a registration, by either marker, read what was
reported. -/
theorem readsRegistration (h : marker ∈ ["+CREG:", "+CGREG:"]) :
    ReadsRegistration marker := by
  have hmarker : Solid marker := by
    revert marker
    decide
  exact {
    tolerant := tolerant_of_values (·.bind _) hmarker
      (registration?_eq · marker)
    second := by
      intro n stat tail hn
      have hstat := registration?_second (.ofNat stat.toNat) hmarker hn tail
      rw [Numeral.text_ofNat, Numeral.inByte?_ofNat] at hstat
      exact hstat
    only := by
      intro stat
      have hstat := registration?_only (.ofNat stat.toNat) hmarker
      rw [Numeral.text_ofNat, Numeral.inByte?_ofNat] at hstat
      exact hstat
    unfit := by
      intro z hz
      constructor
      · intro n tail hn
        rw [registration?_second z hmarker hn, hz, Option.bind_none]
      · rw [registration?_only z hmarker, hz, Option.bind_none] }

/-- So does the reader of the signal's quality. -/
theorem readsSignalQuality : ReadsSignalQuality where
  tolerant := tolerant_of_values (·.bind _) (by decide) signalQuality?_eq
  pair := by
    intro rssi ber
    have hpair := signalQuality?_pair (plain_numeral (.ofInt rssi.toInt))
      (plain_numeral (.ofInt ber.toInt))
    rw [trim_numeral, trim_numeral, Numeral.int32?_text,
      Numeral.int32?_text, Numeral.inWord?_ofInt, Numeral.inWord?_ofInt,
      Numeral.text_ofInt, Numeral.text_ofInt] at hpair
    exact hpair
  unfit := by
    intro z other hother hz
    constructor
    · rw [signalQuality?_pair (plain_numeral z) hother, trim_numeral,
        Numeral.int32?_text, hz, Option.bind_none]
    · rw [signalQuality?_pair hother (plain_numeral z), trim_numeral,
        Numeral.int32?_text, hz]
      exact Option.bind_fun_none _

/-- So does the reader of the functionality level. -/
theorem readsFunctionality : ReadsFunctionality where
  tolerant := tolerant_of_values (·.bind _) (by decide) functionality?_eq
  first := by
    intro level tail
    have hlevel := functionality?_first (.ofNat level.toNat) tail
    rw [Numeral.text_ofNat, Numeral.inByte?_ofNat, Option.map_some,
      UInt8.ofNat_toNat] at hlevel
    exact hlevel
  unfit := by
    intro z tail hz
    rw [functionality?_first, hz, Option.map_none]

/-- So does the reader of the attach state. -/
theorem readsAttachState : ReadsAttachState where
  tolerant := tolerant_of_values (·.bind _) (by decide) attachState?_eq
  only := by
    intro r attached
    rw [attachState?_eq, r.valuesOf?_text (by decide), Option.bind_some]
    by_cases hone : r.values = [['1']]
    · rw [if_pos hone, hone]
      cases attached <;> decide
    · rw [if_neg hone]
      by_cases hzero : r.values = [['0']]
      · rw [if_pos hzero, hzero]
        cases attached <;> decide
      · rw [if_neg hzero]
        cases attached with
        | false => exact ⟨nofun, fun h => absurd h hzero⟩
        | true => exact ⟨nofun, fun h => absurd h hone⟩

/-- So does the reader of the SIM's state. -/
theorem readsSimReady : ReadsSimReady where
  tolerant := tolerant_of_values (·.elim false _) (by decide) simReady_eq
  first := by
    intro r
    rw [simReady_eq, r.valuesOf?_text (by decide), Option.elim_some]
    cases r.values.head? with
    | none => exact ⟨nofun, fun ⟨_, hmem, _⟩ => nomatch hmem⟩
    | some first => simp

/-- So does the reader of the operator's code. -/
theorem readsOperatorCode : ReadsOperatorCode where
  tolerant := tolerant_of_values (·.bind _) (by decide) operatorCode?_eq
  quoted := by
    intro before code behind found hbefore hcode
    rw [operatorCode?_quoted hbefore hcode, Option.ite_none_right_eq_some,
      isCode_iff, Option.some.injEq, and_comm, String.length_toList]

/-- All readers are `Tolerant`, and what was reported is what they read. -/
theorem readings_recovered :
    (∀ marker ∈ ["+CREG:", "+CGREG:"], ReadsRegistration marker)
      ∧ ReadsSignalQuality ∧ ReadsFunctionality ∧ ReadsAttachState
      ∧ ReadsSimReady ∧ ReadsOperatorCode :=
  ⟨fun _ => readsRegistration, readsSignalQuality, readsFunctionality,
    readsAttachState, readsSimReady, readsOperatorCode⟩

/-- A report among others, with blanks all over it; and a code that would
be a state if its ninth bit were cut off. -/
theorem readings_recovered_amidst :
    registration?
        "AT+CREG?\r\r\n+CGREG: 0,3\n+CREG:\t0 , 5,\"1A\"\r\n\r\nOK" "+CREG:"
      = some .registeredRoaming
    ∧ registration? "+CREG: 0,258" "+CREG:" = none := by
  obtain ⟨hregistration, -⟩ := readings_recovered
  have hreads := hregistration "+CREG:" (by decide)
  let earlier : List EndedLine :=
    [⟨"AT+CREG?\r", .crlf, by decide⟩, ⟨"+CGREG: 0,3", .lf, by decide⟩]
  have hother : ∀ l ∈ earlier,
      Text.contains "+CREG:".toList l.content.toList = false := by
    decide
  let r : Report "+CREG:" :=
    { earlier
      fields := [
        ⟨"\t", "0", " ", by decide, by decide, by decide, by decide,
          by decide⟩,
        ⟨" ", "5", "", by decide, by decide, by decide, by decide,
          by decide⟩,
        ⟨"", "\"1A\"", "", by decide, by decide, by decide, by decide,
          by decide⟩]
      later := .lines .crlf "\r\nOK"
      silent := fun l hl hmarker =>
        absurd (Text.contains_iff.2 hmarker) (by rw [hother l hl]; decide)
      nonempty := List.cons_ne_nil _ _ }
  let wide : Numeral := .ofNat 258
  have htext : r.text
      = "AT+CREG?\r\r\n+CGREG: 0,3\n+CREG:\t0 , 5,\"1A\"\r\n\r\nOK" := by
    rfl
  have hplain : r.plain = "+CREG: 0,5,\"1A\"" := by rfl
  have htolerant := hreads.tolerant r
  rw [htext, hplain] at htolerant
  exact ⟨htolerant.trans (hreads.second "0" 5 (.comma "\"1A\"") (by decide)),
    (hreads.unfit wide (by decide)).1 "0" .nothing (by decide)⟩

end Uplink.Modem.Reply
