/-
Where the digits of an identity come from, and where they are cut.

The subscriber's identity is the digits at the front of an answer, behind
an echo of the command if there is one. What that means is said here
without a reader (`Leading`), and there is one way of reading it.

An identity is looked up by its first digits, which are taken out of it
byte by byte. That goes well for every answer, whatever characters it is
made of: there are at least as many digits as the longer cut needs, and
each of them is one byte (`IsIdentity.cut`).
-/
import Uplink.Modem.Reply
import Uplink.Proofs.Apn.Directory
import Uplink.Proofs.Text.Cutting

namespace Uplink.Apn

open Modem.Reply (identity? skipEcho leadingDigits)
open Text (Blank isBlank isDigit trimStart after?)

-- ====================================================== the leading digits

/-- The text does not go on with such a character. -/
def Halts (p : Char → Bool) (s : List Char) : Prop :=
  ∀ c ∈ s.head?, p c = false

/-- What is left of an answer behind its blanks; if that is an echoed
command, behind its line and the blanks that follow. -/
inductive Behind : List Char → List Char → Prop where
  | blanks {pad rest : List Char} (hpad : Blank pad)
      (hrest : Halts isBlank rest) (hplain : ¬['A', 'T'] <+: rest) :
      Behind (pad ++ rest) rest
  | echo {pad line between rest : List Char} (hpad : Blank pad)
      (hline : '\n' ∉ line) (hbetween : Blank between)
      (hrest : Halts isBlank rest) :
      Behind (pad ++ 'A' :: 'T' :: (line ++ '\n' :: (between ++ rest))) rest
  | endless {pad line : List Char} (hpad : Blank pad) (hline : '\n' ∉ line) :
      Behind (pad ++ 'A' :: 'T' :: line) []

/-- The digits a text begins with, all of them. -/
structure DigitRun (s run : List Char) : Prop where
  digits : ∀ c ∈ run, isDigit c = true
  maximal : ∃ rest, s = run ++ rest ∧ Halts isDigit rest

/-- The digits that an answer begins with. -/
def Leading (text digits : List Char) : Prop :=
  ∃ rest, Behind text rest ∧ DigitRun rest digits

variable {text rest pad run s : List Char} {p : Char → Bool}

/-- What is left after a run of such characters starts with none of
them. -/
theorem halts_dropWhile (p : Char → Bool) (s : List Char) :
    Halts p (s.dropWhile p) := by
  intro c hc
  have hhead := List.head?_dropWhile_not p s
  rw [Option.mem_def.1 hc] at hhead
  simpa using hhead

/-- A run before something that does not start with such a character is all
that is dropped. -/
theorem Halts.dropWhile_append (h : Halts p rest)
    (hrun : ∀ c ∈ run, p c = true) : (run ++ rest).dropWhile p = rest := by
  rw [List.dropWhile_append_of_pos hrun]
  cases rest with
  | nil => rfl
  | cons c rest =>
    exact List.dropWhile_cons_of_neg (Bool.eq_false_iff.1 (h c rfl))

/-- It is also all that is taken. -/
theorem Halts.takeWhile_append (h : Halts p rest)
    (hrun : ∀ c ∈ run, p c = true) : (run ++ rest).takeWhile p = run := by
  rw [List.takeWhile_append_of_pos hrun]
  cases rest with
  | nil => exact List.append_nil run
  | cons c rest =>
    rw [List.takeWhile_cons_of_neg (Bool.eq_false_iff.1 (h c rfl)),
      List.append_nil]

/-- An echo ends the blanks in front of it. -/
theorem skipEcho_echo (hpad : Blank pad) (line : List Char) :
    skipEcho (pad ++ 'A' :: 'T' :: line)
      = trimStart ((after? ['\n'] ('A' :: 'T' :: line)).getD []) := by
  rw [skipEcho, Text.trimStart_append hpad, Text.trimStart_cons (by decide)]
  rfl

/-- There is one way of reading what is left. -/
theorem Behind.eq (h : Behind text rest) : rest = skipEcho text := by
  have hsingle : ∀ {line : List Char}, '\n' ∉ line → '\n' ∉ 'A' :: 'T' :: line :=
    fun hline => by simpa using hline
  cases h with
  | blanks hpad hrest hplain =>
    have htrim : trimStart (_ ++ rest) = rest := hrest.dropWhile_append hpad
    rw [skipEcho, htrim, if_neg (mt List.isPrefixOf_iff_prefix.1 hplain)]
  | echo hpad hline hbetween hrest =>
    rw [skipEcho_echo hpad, ← List.cons_append, ← List.cons_append,
      Text.after?_singleton (hsingle hline)]
    exact (hrest.dropWhile_append hbetween).symm
  | endless hpad hline =>
    rw [skipEcho_echo hpad, Text.after?_singleton_eq_none (hsingle hline)]
    rfl

/-- And something always is. -/
theorem exists_behind (text : List Char) : ∃ rest, Behind text rest := by
  have hpad := Text.blank_takeWhile text
  rw [← List.takeWhile_append_dropWhile (p := isBlank) (l := text)]
  by_cases hecho : ['A', 'T'] <+: text.dropWhile isBlank
  · obtain ⟨command, hcommand⟩ := hecho
    rw [← hcommand]
    by_cases hfeed : '\n' ∈ command
    · obtain ⟨line, later, hline, rfl⟩ := Text.exists_first_field hfeed
      have hbehind := Behind.echo hpad hline (Text.blank_takeWhile later)
        (halts_dropWhile isBlank later)
      rw [List.takeWhile_append_dropWhile] at hbehind
      exact ⟨_, hbehind⟩
    · exact ⟨_, .endless hpad hfeed⟩
  · exact ⟨_, .blanks hpad (halts_dropWhile isBlank text) hecho⟩

/-- The leading run of digits is unique: it is all digits up to the first
character that is none. -/
theorem DigitRun.eq (h : DigitRun s run) : run = s.takeWhile isDigit := by
  obtain ⟨rest, rfl, hrest⟩ := h.maximal
  exact (hrest.takeWhile_append h.digits).symm

/-- Every text has a leading run of digits, if an empty one. -/
theorem digitRun_takeWhile (s : List Char) :
    DigitRun s (s.takeWhile isDigit) where
  digits _ := List.mem_takeWhile_imp
  maximal := ⟨s.dropWhile isDigit, List.takeWhile_append_dropWhile.symm,
    halts_dropWhile isDigit s⟩

/-- What `Leading` describes is what `leadingDigits` computes, for every
text. -/
theorem leading_iff {digits : List Char} :
    Leading text digits ↔ digits = leadingDigits text := by
  constructor
  · rintro ⟨rest, hrest, hrun⟩
    rw [hrun.eq, hrest.eq, leadingDigits]
  · rintro rfl
    obtain ⟨rest, hrest⟩ := exists_behind text
    rw [leadingDigits, ← hrest.eq]
    exact ⟨rest, hrest, digitRun_takeWhile rest⟩

-- ============================================================ the identity

/-- Six to fifteen digits. -/
structure IsIdentity (id : String) : Prop where
  enough : 6 ≤ id.length
  fits : id.length ≤ 15
  digits : ∀ c ∈ id.toList, '0' ≤ c ∧ c ≤ '9'

/-- The identity of a subscriber is a text of digits. -/
theorem IsIdentity.numeric {id : String} (h : IsIdentity id) : Numeric id :=
  ⟨Nat.le_trans (by decide) h.enough, h.digits⟩

/-- There are `n` bytes, a character ends with the last of them, and
`part` is what they are. -/
structure CutsTo (s : String) (n : Nat) (part : String) : Prop where
  valid : (⟨n⟩ : String.Pos.Raw).IsValid s
  size : part.utf8ByteSize = n
  leads : part.toList <+: s.toList

/-- A cut is where it can be made if it is made behind digits. -/
theorem IsIdentity.cut {id : String} (h : IsIdentity id) {n m : Nat}
    (hnm : n ≤ m) (hm : m ≤ id.length) :
    CutsTo (String.ofList (id.toList.take m)) n
      (String.ofList (id.toList.take n)) := by
  have hsize : (String.ofList (id.toList.take n)).utf8ByteSize = n :=
    h.numeric.utf8ByteSize_take (by rw [String.length_toList]; omega)
  have hleads : id.toList.take n <+: id.toList.take m :=
    List.take_prefix_take_left hnm
  refine ⟨?_, hsize, by simpa using hleads⟩
  obtain ⟨behind, hbehind⟩ := hleads
  rw [String.Pos.Raw.isValid_iff_exists_append]
  refine ⟨String.ofList (id.toList.take n), String.ofList behind, ?_, ?_⟩
  · rw [← String.ofList_append, hbehind]
  · exact String.Pos.Raw.ext hsize.symm

/-- The cuts of a look-up: two in the identity, and the shorter one once
more in what either of them leaves. -/
structure Cuttable (id : String) : Prop where
  short : CutsTo id shortIdLength
    (String.ofList (id.toList.take shortIdLength))
  long : CutsTo id longIdLength (String.ofList (id.toList.take longIdLength))
  again : ∀ n ∈ [shortIdLength, longIdLength],
    CutsTo (String.ofList (id.toList.take n)) shortIdLength
      (String.ofList (id.toList.take shortIdLength))

/-- So it can be cut after any number of characters. -/
theorem IsIdentity.cuttable {id : String} (h : IsIdentity id) :
    Cuttable id := by
  have hlong : longIdLength ≤ id.length := h.enough
  have hshort : shortIdLength ≤ longIdLength := by decide
  have hid : String.ofList (id.toList.take id.length) = id := by
    rw [← String.length_toList, List.take_length, String.ofList_toList]
  refine ⟨?_, ?_, fun n hn => ?_⟩
  · have hcut := h.cut (Nat.le_trans hshort hlong) (Nat.le_refl id.length)
    rwa [hid] at hcut
  · have hcut := h.cut hlong (Nat.le_refl id.length)
    rwa [hid] at hcut
  · have hbounds : shortIdLength ≤ n ∧ n ≤ longIdLength := by
      revert n
      decide
    exact h.cut hbounds.1 (Nat.le_trans hbounds.2 hlong)

/-- The reader gives the first fifteen of the leading digits, and nothing
where there are fewer than six. -/
theorem identity?_eq (text : String) :
    identity? text = if (leadingDigits text.toList).length < 6 then none
      else some (String.ofList ((leadingDigits text.toList).take 15)) :=
  rfl

/-- Whatever `identity?` reads is an identity: six to fifteen digits. -/
theorem isIdentity_of_identity? {text id : String}
    (h : identity? text = some id) : IsIdentity id := by
  rw [identity?_eq] at h
  split at h
  · cases h
  · next hlength =>
    obtain rfl := Option.some.inj h
    have hdigits : ∀ c ∈ leadingDigits text.toList, isDigit c = true :=
      fun _ => List.mem_takeWhile_imp
    refine ⟨?_, ?_, fun c hc => ?_⟩
    · rw [String.length_ofList, List.length_take]
      omega
    · rw [String.length_ofList, List.length_take]
      omega
    · rw [String.toList_ofList] at hc
      simpa [isDigit] using hdigits c (List.mem_of_mem_take hc)

/-- An answer is read in one way (`Leading`), and its leading digits are
the identity, as many as count, if there are six. Whatever the answer was,
the look-ups cut the identity where it can be cut. -/
theorem identity_leading (text : String) :
    ∃ digits, Leading text.toList digits
      ∧ (∀ other, Leading text.toList other → other = digits)
      ∧ identity? text = (if digits.length < 6 then none
        else some (String.ofList (digits.take (min digits.length 15))))
      ∧ ∀ id, identity? text = some id → IsIdentity id ∧ Cuttable id := by
  refine ⟨leadingDigits text.toList, leading_iff.2 rfl,
    fun _ => leading_iff.1, ?_, fun id hid => ?_⟩
  · rw [identity?_eq, Nat.min_comm, ← List.take_eq_take_min]
  · have hidentity := isIdentity_of_identity? hid
    exact ⟨hidentity, hidentity.cuttable⟩

/-- An echo, more digits than count, and something else right behind them. -/
theorem identity_leading_echoed :
    identity? "AT+CIMI\r\r\n 410034567891234567é\r\n\r\nOK"
        = some "410034567891234"
      ∧ CutsTo "410034567891234" longIdLength "410034" := by
  obtain ⟨digits, -, hunique, hidentity, hcuts⟩ :=
    identity_leading "AT+CIMI\r\r\n 410034567891234567é\r\n\r\nOK"
  have hdigits := hunique "410034567891234567".toList
    (leading_iff.2 (by decide))
  rw [← hdigits] at hidentity
  exact ⟨hidentity, (hcuts _ hidentity).2.long⟩

end Uplink.Apn
