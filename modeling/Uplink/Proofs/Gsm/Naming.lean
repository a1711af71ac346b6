/-
The name of the access point on its way from one command to another.

Detection takes the name out of a list of contexts, or out of the
directory, and the connection writes it into the command that defines
context 1. Nothing is escaped on the way. It need not be: a name that was
read holds neither a quote nor a line feed, and none in the directory does
(`of_mem_directory`). So the command has the quotes that it is written
with and no others, what stands between the second pair of them is the
name, and a modem that lists the context so defined has it read as it was.
-/
import Uplink.Apn.Directory
import Uplink.Gsm.Steps
import Uplink.Proofs.Modem.Contexts

namespace Uplink.Gsm.Steps

open Modem (Session)
open Modem.Reply (Quotable Context quotedField? quotedChars?
  firstContextName? anyContextName? of_firstContextName?
  of_anyContextName? firstContextName?_of_first)
open Text (fields_append_cons)

variable {name : String}

-- ============================================================ the command

/-- The quotes of the command are where they are written. -/
theorem contextCommand_toList (name : String) :
    (contextCommand name).toList
      = "AT+CGDCONT=1,".toList ++ '"' :: ("IP".toList
        ++ '"' :: ([','] ++ '"' :: (name.toList ++ '"' :: []))) := by
  have hfront : "AT+CGDCONT=1,\"IP\",\"".toList
      = "AT+CGDCONT=1,".toList ++ ('"' :: ("IP".toList ++ ['"', ',', '"'])) :=
    rfl
  have hclose : "\"".toList = ['"'] := rfl
  unfold contextCommand
  simp only [String.toList_append, hfront, hclose, List.append_assoc,
    List.cons_append, List.nil_append]

/-- Twenty bytes of the command are not the name's. -/
theorem utf8ByteSize_contextCommand (name : String) :
    (contextCommand name).utf8ByteSize = name.utf8ByteSize + 20 := by
  have hfront : "AT+CGDCONT=1,\"IP\",\"".utf8ByteSize = 19 := by decide
  have hclose : "\"".utf8ByteSize = 1 := by decide
  unfold contextCommand
  rw [String.utf8ByteSize_append, String.utf8ByteSize_append, hfront,
    hclose, Nat.add_comm 19, Nat.add_assoc]

/-- The command with a name of the greatest length fits its buffer. -/
theorem contextCommand_fits (h : name.utf8ByteSize ≤ Apn.nameCapacity) :
    (contextCommand name).utf8ByteSize ≤ commandCapacity := by
  rw [utf8ByteSize_contextCommand]
  exact Nat.le_trans (Nat.add_le_add_right h 20) (by decide)

/-- The command has four quotes, if its name has none. -/
theorem count_contextCommand (h : '"' ∉ name.toList) :
    (contextCommand name).toList.count '"' = 4 := by
  rw [contextCommand_toList]
  simp [List.count_append, List.count_eq_zero_of_not_mem h]

/-- The name can be read back from the command. -/
theorem quotedField?_contextCommand (h : '"' ∉ name.toList) :
    quotedField? (contextCommand name) 1 = some name := by
  rw [quotedField?, quotedChars?, contextCommand_toList,
    fields_append_cons (by decide), fields_append_cons (by decide),
    fields_append_cons (by decide), fields_append_cons h]
  exact congrArg some String.ofList_toList

/-- The modem is asked, and with this command. -/
theorem configureContext_eq (h : name.utf8ByteSize ≤ Apn.nameCapacity) :
    ∃ next, configureContext name
      = .call (.exchange (contextCommand name) "OK" "ERROR"
        Timing.contextTimeout) next := by
  unfold configureContext
  dsimp only
  rw [if_pos (contextCommand_fits h), Session.query, Proc.ask_bind]
  exact ⟨_, rfl⟩

-- =========================================================== the way back

/-- The context that the command defines is read as it was named, whatever
a modem lists behind. -/
theorem firstContextName?_defined (h : Quotable name) (hne : name ≠ "")
    (more : String) :
    firstContextName? ("+CGDCONT: 1,\"IP\",\"" ++ name ++ "\"," ++ more)
      = some name := by
  let shown : List Char := more.toList.takeWhile (· ≠ '\n')
  have hshown : '\n' ∉ (String.ofList shown).toList := by
    rw [String.toList_ofList]
    exact Text.not_mem_takeWhile '\n' more.toList
  let c : Context :=
    ⟨1, "IP", name, String.ofList shown, ⟨by decide, by decide⟩, h, hshown⟩
  have hline : ("+CGDCONT: 1,\"IP\",\"" ++ name ++ "\"," ++ more).toList
      = c.front ++ ',' :: more.toList := by
    have hfront : "+CGDCONT: 1,\"IP\",\"".toList
        = Modem.Reply.contextMarker ++ ' ' :: (Nat.toDigits 10 1
          ++ ',' :: '"' :: ("IP".toList ++ ['"', ',', '"'])) := rfl
    have hclose : "\",".toList = ['"', ','] := rfl
    unfold Context.front
    simp only [String.toList_append, hfront, hclose, List.append_assoc,
      List.cons_append, List.nil_append, c]
  refine firstContextName?_of_first c ?_ rfl hne
  rw [hline, Text.takeWhile_append c.front_single,
    List.takeWhile_cons_of_pos (by decide), c.content_toList,
    String.toList_ofList]

/-- No name in the `directory` is empty or too long, and none would break
the quotes. -/
theorem of_mem_directory {r : Apn.Record} (h : r ∈ Apn.directory) :
    Quotable r.apn ∧ r.apn ≠ "" ∧ r.apn.utf8ByteSize ≤ Apn.nameCapacity := by
  have hall : ∀ r ∈ Apn.directory, '"' ∉ r.apn.toList ∧ '\n' ∉ r.apn.toList
      ∧ r.apn ≠ "" ∧ r.apn.utf8ByteSize ≤ Apn.nameCapacity := by
    decide +kernel
  obtain ⟨hquote, hsingle, hne, hsize⟩ := hall r h
  exact ⟨⟨hquote, hsingle⟩, hne, hsize⟩

/-- A name that detection can come up with: it was read, and is not too
long, or it stands in the `directory`. -/
def Detectable (name : String) : Prop :=
  (∃ response, (firstContextName? response = some name
      ∨ anyContextName? response = some name)
    ∧ name.utf8ByteSize ≤ Apn.nameCapacity)
  ∨ ∃ r ∈ Apn.directory, r.apn = name

/-- What a search can find can be quoted, is not empty, and fits. -/
theorem Detectable.sound (h : Detectable name) :
    Quotable name ∧ name ≠ "" ∧ name.utf8ByteSize ≤ Apn.nameCapacity := by
  rcases h with ⟨response, hread, hsize⟩ | ⟨r, hr, rfl⟩
  · obtain ⟨hquotable, hne⟩ :=
      hread.elim of_firstContextName? of_anyContextName?
    exact ⟨hquotable, hne, hsize⟩
  · exact of_mem_directory hr

/-- The command that is built for a name that was `Detectable` fits, has
four quotes and the name between the last two, and is sent. A modem that
lists the context so defined has the same name read back. -/
theorem detected_name_kept (name : String) (h : Detectable name) :
    (contextCommand name).utf8ByteSize ≤ commandCapacity
      ∧ (contextCommand name).toList.count '"' = 4
      ∧ quotedField? (contextCommand name) 1 = some name
      ∧ (∃ next, configureContext name
        = .call (.exchange (contextCommand name) "OK" "ERROR"
          Timing.contextTimeout) next)
      ∧ ∀ more, firstContextName?
          ("+CGDCONT: 1,\"IP\",\"" ++ name ++ "\"," ++ more)
        = some name := by
  obtain ⟨hquotable, hne, hsize⟩ := h.sound
  exact ⟨contextCommand_fits hsize, count_contextCommand hquotable.unquoted,
    quotedField?_contextCommand hquotable.unquoted,
    configureContext_eq hsize, firstContextName?_defined hquotable hne⟩

/-- A name with a blank at its end and a carriage return in it, from a line
that quotes in its own way. -/
theorem detected_name_kept_stray :
    Detectable "a\rb "
      ∧ quotedField? (contextCommand "a\rb ") 1 = some "a\rb "
      ∧ firstContextName? "+CGDCONT: 1,\"IP\",\"a\rb \",\"0.0.0.0\"\r\nOK"
        = some "a\rb " := by
  have hread : anyContextName?
      "AT+CGDCONT?\r\r\n +CGDCONT: 2,IP\"x\"\"a\rb \"\r\n\r\nOK"
        = some "a\rb " := by
    decide
  have hname : Detectable "a\rb " := .inl ⟨_, .inr hread, by decide⟩
  obtain ⟨-, -, hfield, -, hback⟩ := detected_name_kept "a\rb " hname
  exact ⟨hname, hfield, hback "\"0.0.0.0\"\r\nOK"⟩

end Uplink.Gsm.Steps
