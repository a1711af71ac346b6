/-
Packet data contexts, as they are listed and as they are read.

A modem lists a context on a line of its own, with the number, the type
and the name in front and whatever else it knows behind. Around these
lines there may be others, an echo, blanks, a final `OK`, as long as they
do not begin like one (`Noise`).

Trimming a context's line takes nothing away but blanks at its very end,
so the name is still the second text between quotes
(`Context.contextName?_shown`), and the number still stands between the
marker's blank and the first comma (`Context.isFirstContext_shown`). What
is read of a listing is then the contexts in it, in order and nothing else
(`contextLines_listing`).
-/
import Uplink.Modem.Reply
import Uplink.Proofs.Text.Cutting
import Uplink.Proofs.Text.Numeral

namespace Uplink.Modem.Reply

open Text (Ending EndedLine isBlank trim trimEnd trimStart
  trim_append_cons trimStart_cons fields_append_cons)

theorem isEmpty_not (s : String) : (!s.isEmpty) = decide (s ≠ "") := by
  rw [Bool.eq_iff_iff]
  simp

-- ============================================================= contexts

/-- A text that can stand between quotes on one line. -/
structure Quotable (s : String) : Prop where
  unquoted : '"' ∉ s.toList
  single : '\n' ∉ s.toList

/-- A context, as a modem knows it. -/
structure Context where
  id : Nat
  type : String
  name : String
  /-- the fields behind the name, in any form -/
  more : String
  type_quotable : Quotable type
  name_quotable : Quotable name
  more_single : '\n' ∉ more.toList

namespace Context

variable (c : Context)

/-- The line on which it is listed. -/
def content : String :=
  "+CGDCONT: " ++ toString c.id ++ ",\"" ++ c.type ++ "\",\"" ++ c.name
    ++ "\"," ++ c.more

/-- The line up to the quote that closes the name. -/
def front : List Char :=
  contextMarker ++ ' ' :: (Nat.toDigits 10 c.id
    ++ ',' :: '"' :: (c.type.toList
      ++ '"' :: ',' :: '"' :: (c.name.toList ++ ['"'])))

/-- The line of a context is its number, a comma, and the rest. -/
theorem content_toList :
    c.content.toList = c.front ++ ',' :: c.more.toList := by
  have hmarker : "+CGDCONT: ".toList = contextMarker ++ [' '] := rfl
  have hid : (toString c.id).toList = Nat.toDigits 10 c.id :=
    Nat.toList_repr
  have hopen : ",\"".toList = [',', '"'] := rfl
  have hbetween : "\",\"".toList = ['"', ',', '"'] := rfl
  have hclose : "\",".toList = ['"', ','] := rfl
  unfold content front
  simp only [String.toList_append, hmarker, hid, hopen, hbetween, hclose,
    List.append_assoc, List.cons_append, List.nil_append]

theorem isDigit_of_mem_id {d : Char} (h : d ∈ Nat.toDigits 10 c.id) :
    d.isDigit = true :=
  Nat.isDigit_of_mem_toDigits (by decide) (by decide) h

/-- The number of a context is written in digits alone. -/
theorem not_mem_id {d : Char} (hd : d.isDigit = false) :
    d ∉ Nat.toDigits 10 c.id :=
  fun h => Text.ne_of_isDigit (c.isDigit_of_mem_id h) hd rfl

theorem front_single : '\n' ∉ c.front := by
  have hmarker : '\n' ∉ contextMarker := by decide
  have hid : '\n' ∉ Nat.toDigits 10 c.id := c.not_mem_id rfl
  have htype := c.type_quotable.single
  have hname := c.name_quotable.single
  rw [front]
  simp [hmarker, hid, htype, hname]

/-- The line of a context holds no line feed. -/
theorem content_single : '\n' ∉ c.content.toList := by
  rw [content_toList, List.mem_append, List.mem_cons, not_or, not_or]
  exact ⟨c.front_single, by decide, c.more_single⟩

/-- What is left of the line without the blanks around it. -/
def shown : List Char :=
  trim c.content.toList

/-- There are no blanks but behind the name. -/
theorem shown_eq : c.shown = c.front ++ ',' :: trimEnd c.more.toList := by
  have hplus : isBlank '+' = false := by decide
  have hcomma : isBlank ',' = false := by decide
  have hfront : trimStart c.front = c.front := trimStart_cons hplus _
  rw [shown, content_toList, trim_append_cons hcomma, hfront]

/-- What a context's line shows starts with the marker. -/
theorem contextMarker_prefix_shown : contextMarker <+: c.shown := by
  rw [shown_eq, front, List.append_assoc]
  exact List.prefix_append _ _

/-- The reader of one line gives the name of its context. -/
theorem contextName?_shown : contextName? c.shown = some c.name := by
  have hid : '"' ∉ contextMarker ++ ' ' :: (Nat.toDigits 10 c.id ++ [',']) := by
    have h : '"' ∉ Nat.toDigits 10 c.id := c.not_mem_id rfl
    simp [h, show '"' ∉ contextMarker by decide]
  have hshown : c.shown
      = (contextMarker ++ ' ' :: (Nat.toDigits 10 c.id ++ [',']))
        ++ '"' :: (c.type.toList ++ '"' :: ([',']
          ++ '"' :: (c.name.toList ++ '"' :: ',' :: trimEnd c.more.toList))) := by
    simp [shown_eq, front]
  rw [contextName?, quotedChars?, hshown, fields_append_cons hid,
    fields_append_cons c.type_quotable.unquoted,
    fields_append_cons (by decide),
    fields_append_cons c.name_quotable.unquoted]
  exact congrArg some String.ofList_toList

/-- Only 1 is written as a `1` and nothing else. -/
theorem id_eq_one_iff : c.id = 1 ↔ Nat.toDigits 10 c.id = ['1'] := by
  constructor
  · intro h
    rw [h]
    rfl
  · intro h
    rw [← Nat.ofDigitChars_ten_toDigits (n := c.id), h]
    rfl

/-- A number is taken for 1 if a comma follows its first digit and that is
a `1`, and then there is no second. -/
theorem isFirstContext_shown :
    isFirstContext c.shown = decide (c.id = 1) := by
  have hcomma : ',' ∉ Nat.toDigits 10 c.id := c.not_mem_id rfl
  obtain ⟨more, hshown⟩ : ∃ more, c.shown
      = contextMarker ++ ([' '] ++ (Nat.toDigits 10 c.id ++ ',' :: more)) := by
    rw [shown_eq, front]
    simp
  obtain ⟨d, rest, hid⟩ :=
    List.exists_cons_of_ne_nil (Nat.toDigits_ne_nil (n := c.id) (b := 10))
  have hd : isBlank d = false :=
    Text.isBlank_of_isDigit (c.isDigit_of_mem_id (hid ▸ List.mem_cons_self))
  have hspace : Text.Blank [' '] := Text.blank_singleton (by decide)
  rw [isFirstContext, hshown, List.drop_left, Text.trimStart_append hspace,
    hid, List.cons_append, trimStart_cons hd, Bool.eq_iff_iff,
    decide_eq_true_iff, id_eq_one_iff, List.isPrefixOf_iff_prefix, hid,
    List.cons_prefix_cons, List.cons.injEq, eq_comm]
  refine and_congr_right fun _ => ?_
  rw [hid] at hcomma
  cases rest with
  | nil => simp
  | cons e rest =>
    have he : ',' ≠ e := fun h => hcomma (h ▸ by simp)
    simp [he]

end Context

-- ============================================================== listings

/-- A line that does not begin like that of a context. -/
structure Noise where
  content : String
  single : '\n' ∉ content.toList
  other : ¬contextMarker <+: trim content.toList

inductive Row where
  | context (c : Context)
  | noise (n : Noise)

namespace Row

def content : Row → String
  | context c => c.content
  | noise n => n.content

def context? : Row → Option Context
  | context c => some c
  | noise _ => none

theorem content_single (r : Row) : '\n' ∉ r.content.toList := by
  cases r with
  | context c => exact c.content_single
  | noise n => exact n.single

/-- The line of a row, with its end. -/
def line (r : Row) (ending : Ending) : EndedLine :=
  ⟨r.content, ending, r.content_single⟩

end Row

/-- Some rows with their ends, and what is left behind the last end. -/
def listing (rows : List (Row × Ending)) (last : Noise) : String :=
  String.join (rows.map fun r => (r.1.line r.2).text) ++ last.content

/-- The contexts of a listing, in their order. -/
def contexts (rows : List (Row × Ending)) : List Context :=
  rows.filterMap (·.1.context?)

/-- A `Row` is kept if it is a context. -/
theorem Row.filter_trim (r : Row) :
    [trim r.content.toList].filter contextMarker.isPrefixOf
      = (r.context?.map Context.shown).toList := by
  cases r with
  | context c =>
    have hc : contextMarker.isPrefixOf c.shown = true :=
      List.isPrefixOf_iff_prefix.2 c.contextMarker_prefix_shown
    exact List.filter_cons_of_pos hc
  | noise n =>
    have hn : ¬contextMarker.isPrefixOf (trim n.content.toList) = true :=
      fun h => n.other (List.isPrefixOf_iff_prefix.1 h)
    exact List.filter_cons_of_neg hn

/-- A `Row` that is a context is one more line that defines one, and a row
of noise is none. -/
theorem contextLines_row (r : Row) (ending : Ending) (rest : List Char) :
    contextLines ((r.line ending).text.toList ++ rest)
      = (r.context?.map Context.shown).toList ++ contextLines rest := by
  unfold contextLines
  rw [EndedLine.lines_text_append, List.map_cons, EndedLine.trim_shown,
    ← r.filter_trim, ← List.filter_append]
  rfl

/-- Behind the last end of a line there is no context. -/
theorem contextLines_noise (n : Noise) :
    contextLines n.content.toList = [] := by
  by_cases h : n.content.toList = []
  · rw [h]
    rfl
  · unfold contextLines
    rw [Text.lines_of_not_mem n.single h]
    exact (Row.noise n).filter_trim

/-- What is read of a `listing` is its contexts. -/
theorem contextLines_listing (rows : List (Row × Ending)) (last : Noise) :
    contextLines (listing rows last).toList
      = (contexts rows).map Context.shown := by
  induction rows with
  | nil =>
    rw [listing, List.map_nil, String.join_nil, String.empty_append]
    exact contextLines_noise last
  | cons row rows ih =>
    obtain ⟨row, ending⟩ := row
    have hlisting : (listing ((row, ending) :: rows) last).toList
        = (row.line ending).text.toList ++ (listing rows last).toList := by
      simp [listing]
    rw [hlisting, contextLines_row, ih]
    cases row <;> rfl

/-- Of any `listing`, the first name that is not empty is read, whatever
stands between the contexts. -/
theorem anyContextName?_listing (rows : List (Row × Ending))
    (last : Noise) :
    anyContextName? (listing rows last)
      = ((contexts rows).find? fun c => c.name ≠ "").map Context.name := by
  have hnames : contextName? ∘ Context.shown = some ∘ Context.name := by
    funext c
    rw [Function.comp_apply, c.contextName?_shown, Function.comp_apply]
  have hkept : (fun name : String => !name.isEmpty) ∘ Context.name
      = fun c => decide (c.name ≠ "") := by
    funext c
    exact isEmpty_not c.name
  rw [anyContextName?, contextLines_listing, List.filterMap_map, hnames,
    List.filterMap_eq_map, List.find?_map, hkept]

/-- Of any `listing`, the name of the first context numbered 1 is read,
unless that is empty. -/
theorem firstContextName?_listing (rows : List (Row × Ending))
    (last : Noise) :
    firstContextName? (listing rows last)
      = ((contexts rows).find? fun c => c.id = 1).bind fun c =>
          if c.name = "" then none else some c.name := by
  have hfirst : isFirstContext ∘ Context.shown
      = fun c => decide (c.id = 1) := by
    funext c
    rw [Function.comp_apply, c.isFirstContext_shown]
  rw [firstContextName?, contextLines_listing, List.find?_map, hfirst]
  cases (contexts rows).find? fun c => decide (c.id = 1) with
  | none => rfl
  | some c =>
    rw [Option.map_some, Option.bind_eq_bind, Option.bind_some,
      Option.bind_some, c.contextName?_shown, Option.filter_some,
      isEmpty_not]
    by_cases h : c.name = ""
    · rw [if_pos h, decide_eq_false (not_not_intro h)]
      rfl
    · rw [if_neg h, decide_eq_true h]
      rfl

/-- Reading a `listing` finds the first name that is not empty, and the
name of context 1 unless that is. -/
theorem listing_read (rows : List (Row × Ending)) (last : Noise) :
    anyContextName? (listing rows last)
        = ((contexts rows).find? fun c => c.name ≠ "").map Context.name
      ∧ firstContextName? (listing rows last)
        = ((contexts rows).find? fun c => c.id = 1).bind fun c =>
          if c.name = "" then none else some c.name :=
  ⟨anyContextName?_listing rows last, firstContextName?_listing rows last⟩

-- ============================================================ one context

/-- A response whose first line is that of a `Context` has it first. -/
theorem exists_contextLines (c : Context) {s : List Char}
    (hs : s.takeWhile (· ≠ '\n') = c.content.toList) :
    ∃ later, contextLines s = c.shown :: later := by
  have hne : s ≠ [] := by
    rintro rfl
    rw [List.takeWhile_nil, c.content_toList] at hs
    exact List.append_ne_nil_of_right_ne_nil _ (List.cons_ne_nil _ _) hs.symm
  obtain ⟨line, more, hlines, hline⟩ := Text.exists_first_line hne
  have htrim : trim line = c.shown := by
    rw [hs] at hline
    rcases hline with hline | hline
    · rw [hline]
      rfl
    · rw [hline]
      exact Text.trim_withoutReturn _
  refine ⟨(more.map trim).filter contextMarker.isPrefixOf, ?_⟩
  rw [contextLines, hlines, List.map_cons, htrim]
  exact List.filter_cons_of_pos
    (List.isPrefixOf_iff_prefix.2 c.contextMarker_prefix_shown)

/-- Context 1 is read where it is the first that is listed. -/
theorem firstContextName?_of_first (c : Context) {s : String}
    (hs : s.toList.takeWhile (· ≠ '\n') = c.content.toList)
    (hid : c.id = 1) (hname : c.name ≠ "") :
    firstContextName? s = some c.name := by
  obtain ⟨later, hlines⟩ := exists_contextLines c hs
  have hfirst : isFirstContext c.shown = true := by
    rw [c.isFirstContext_shown, hid]
    rfl
  rw [firstContextName?, hlines, List.find?_cons_of_pos hfirst,
    Option.bind_eq_bind, Option.bind_some, c.contextName?_shown,
    Option.filter_some, isEmpty_not, if_pos (decide_eq_true hname)]

/-- A name that was read stood between quotes, and can again. -/
theorem quotable_of_contextName? {text line : List Char} {name : String}
    (hline : line ∈ contextLines text)
    (h : contextName? line = some name) : Quotable name := by
  obtain ⟨field, hfield, rfl⟩ := Option.map_eq_some_iff.1 h
  obtain ⟨hquote, hoccurs⟩ :=
    Text.of_mem_fields (List.mem_of_getElem? hfield)
  obtain ⟨raw, hraw, rfl⟩ :=
    List.mem_map.1 (List.mem_filter.1 hline).1
  have hsingle : '\n' ∉ field := fun hmem =>
    Text.not_mem_trim (Text.not_mem_of_mem_lines hraw) (hoccurs.subset hmem)
  exact ⟨by rwa [String.toList_ofList], by rwa [String.toList_ofList]⟩

/-- A name read for the first context has no quotes in it and is not
empty. -/
theorem of_firstContextName? {text name : String}
    (h : firstContextName? text = some name) :
    Quotable name ∧ name ≠ "" := by
  obtain ⟨line, hline, hname⟩ := Option.bind_eq_some_iff.1 h
  obtain ⟨hread, hkept⟩ := Option.filter_eq_some_iff.1 hname
  rw [isEmpty_not, decide_eq_true_iff] at hkept
  exact ⟨quotable_of_contextName? (List.mem_of_find?_eq_some hline) hread,
    hkept⟩

/-- So has a name read for any context. -/
theorem of_anyContextName? {text name : String}
    (h : anyContextName? text = some name) :
    Quotable name ∧ name ≠ "" := by
  obtain ⟨line, hline, hread⟩ :=
    List.mem_filterMap.1 (List.mem_of_find?_eq_some h)
  have hkept := List.find?_some h
  rw [isEmpty_not, decide_eq_true_iff] at hkept
  exact ⟨quotable_of_contextName? hline hread, hkept⟩

end Uplink.Modem.Reply
