import WorkDepot.Proofs.Submission.Course
import WorkDepot.Proofs.Submission.Lines
import WorkDepot.Proofs.Text.Number

/-! # Reading what has been written

A number that is written in decimal behind the last mark of an id line is the number that is read:
digits hold no mark, so no mark is later, and the end of the line ends the digits. Lines before it
that report nothing, and whatever comes on further lines, change nothing. So a submission whose tool
writes such a line returns its number once the tool has been called.
-/
namespace WorkDepot

/-! ## Decimal digits in bytes -/

namespace Text
variable {c : Char} {text : Text}

theorem toNat_ofNat_of_isDigit (h : c.isDigit) : (UInt8.ofNat c.toNat).toNat = c.toNat := by
  have hrange := isDigit_iff_toNat.mp h
  exact toNat_ofNat_of_lt (by omega)

theorem encode_digits (h : ∀ c ∈ text, c.isDigit) :
    encode text = text.map fun c => UInt8.ofNat c.toNat := by
  induction text with
  | nil => rfl
  | cons c text ih =>
    have hrange := isDigit_iff_toNat.mp (h c List.mem_cons_self)
    have hchar : encodeChar c = [UInt8.ofNat c.toNat] := by
      rw [encodeChar, if_pos (by omega)]
    rw [encode_cons, hchar, ih fun d hd => h d (List.mem_cons_of_mem c hd)]
    rfl

end Text

namespace Submission.IdLine
variable {bytes digits text : Bytes} {id : Nat}

theorem isDigit_of_mem_encode_decimal {byte : UInt8}
    (h : byte ∈ Text.encode (Text.decimal id)) : isDigit byte := by
  rw [Text.encode_digits fun c hc => Text.isDigit_of_mem_decimal hc] at h
  obtain ⟨c, hc, rfl⟩ := List.mem_map.mp h
  have hdigit := Text.isDigit_of_mem_decimal hc
  have hrange := Text.isDigit_iff_toNat.mp hdigit
  rw [isDigit_iff, UInt8.le_iff_toNat_le, UInt8.le_iff_toNat_le, Text.toNat_ofNat_of_isDigit hdigit]
  exact hrange

theorem encode_decimal_ne_nil : Text.encode (Text.decimal id) ≠ [] := by
  rw [Text.encode_digits fun c hc => Text.isDigit_of_mem_decimal hc, ne_eq, List.map_eq_nil_iff]
  exact Nat.toDigits_ne_nil

theorem foldl_digits {spelled : Text} (h : ∀ c ∈ spelled, c.isDigit) (start : Nat) :
    (Text.encode spelled).foldl (fun n byte => n * 10 + (byte.toNat - 0x30)) start =
      Nat.ofDigitChars 10 spelled start := by
  rw [Text.encode_digits h, List.foldl_map, Nat.ofDigitChars_eq_foldl]
  refine List.foldl_ext _ _ _ fun n c hc => ?_
  rw [Text.toNat_ofNat_of_isDigit (h c hc), Nat.mul_comm]
  rfl

theorem value_encode_decimal (id : Nat) : value (Text.encode (Text.decimal id)) = id := by
  rw [value, foldl_digits fun c hc => Text.isDigit_of_mem_decimal hc]
  exact Nat.ofDigitChars_toDigits (by decide) (by decide)

/-! ## The last mark -/

/-- Without a comma there is no mark. -/
theorem lastDigits?_of_notMem (h : 0x2C ∉ bytes) : lastDigits? bytes = none := by
  induction bytes with
  | nil => rfl
  | cons byte rest ih =>
    have hfront : digitsAfterMark? (byte :: rest) = none := by
      rw [Option.eq_none_iff_forall_ne_some]
      intro digits hdigits
      obtain ⟨behind, hbytes, _⟩ := digitsAfterMark?_eq_some_iff.mp hdigits
      exact h (by rw [hbytes]; exact List.mem_append_left _ (by decide))
    rw [lastDigits?, ih fun hm => h (List.mem_cons_of_mem byte hm), hfront]
    rfl

/-- Text in front of the last mark does not matter. -/
theorem lastDigits?_append (text : Bytes) (h : lastDigits? bytes = some digits) :
    lastDigits? (text ++ bytes) = some digits := by
  induction text with
  | nil => exact h
  | cons byte text ih => rw [List.cons_append, lastDigits?, ih, Option.some_or]

theorem lastDigits?_mark (hdigits : ∀ byte ∈ digits, isDigit byte) (hne : digits ≠ []) :
    lastDigits? (mark ++ digits) = some digits := by
  obtain ⟨more, hmark, hcomma⟩ : ∃ more, mark = 0x2C :: more ∧ 0x2C ∉ more :=
    ⟨mark.tail, by decide, by decide⟩
  have hlater : lastDigits? (more ++ digits) = none := by
    apply lastDigits?_of_notMem
    intro hm
    rcases List.mem_append.mp hm with hm | hm
    · exact hcomma hm
    · exact absurd (hdigits _ hm) (by decide)
  have hall : digits.takeWhile isDigit = digits := List.takeWhile_eq_self_iff.mpr hdigits
  have hfront := digitsAfterMark?_eq_some_iff.mpr ⟨digits, rfl, hall, hne⟩
  rw [hmark, List.cons_append] at hfront ⊢
  rw [lastDigits?, hlater, Option.none_or, hfront]

/-! ## The line -/

/-- The line that reports a number behind a text. -/
def written (text : Bytes) (id : Nat) : Bytes :=
  Bytes.ofAscii "created workunit; " ++ text ++ Bytes.ofAscii ", ID " ++
    Text.encode (Text.decimal id)

theorem digits?_written (text : Bytes) (id : Nat) :
    digits? (written text id) = some (Text.encode (Text.decimal id)) := by
  have hline : written text id =
      opening ++ (text ++ (mark ++ Text.encode (Text.decimal id))) := by
    simp only [written, opening, mark, List.append_assoc]
  rw [digits?, strip?_eq_some_iff.mpr hline, Option.bind_some]
  exact lastDigits?_append text
    (lastDigits?_mark (fun byte hb => isDigit_of_mem_encode_decimal hb) encode_decimal_ne_nil)

/-- A report without line ends in its text is a single line. -/
theorem found_written (id : Nat) (ht : ∀ byte ∈ text, ¬ isLineEnd byte) :
    found (written text id) = some (Text.encode (Text.decimal id)) := by
  have hline : ∀ byte ∈ written text id, isLineEnd byte = false := by
    intro byte hb
    simp only [written, List.mem_append] at hb
    rcases hb with ((hb | hb) | hb) | hb
    · have hopening : ∀ byte ∈ Bytes.ofAscii "created workunit; ", isLineEnd byte = false := by
        decide +kernel
      exact hopening byte hb
    · simpa using ht byte hb
    · have hmark : ∀ byte ∈ Bytes.ofAscii ", ID ", isLineEnd byte = false := by
        decide +kernel
      exact hmark byte hb
    · have hdigit := isDigit_iff.mp (isDigit_of_mem_encode_decimal hb)
      rw [isLineEnd, Bool.or_eq_false_iff, decide_eq_false_iff_not, decide_eq_false_iff_not]
      constructor <;>
        · rintro rfl
          exact absurd hdigit.1 (by decide)
  rw [found, lines_eq_splitOnP, List.splitOnP_eq_singleton hline, List.findSome?_cons,
    digits?_written]

theorem read_of_found (hid : id < 2 ^ 64)
    (h : found bytes = some (Text.encode (Text.decimal id))) : read bytes = .ok id := by
  rw [read, ← found, h]
  simp only [value_encode_decimal]
  exact if_pos hid

/-- Lines that report nothing in front of a line, and a line end behind it if anything is. -/
structure Surrounds (preamble trailer : Bytes) : Prop where
  ended : ∀ byte ∈ preamble.getLast?, byte = 0x0A ∨ byte = 0x0D
  silent : ∀ line ∈ preamble.splitOnP (fun byte => byte = 0x0A || byte = 0x0D), ¬ IsIdLine line
  parted : ∀ byte ∈ trailer.head?, byte = 0x0A ∨ byte = 0x0D

theorem read_surrounded {preamble trailer : Bytes} (hid : id < 2 ^ 64)
    (hs : Surrounds preamble trailer) (ht : ∀ byte ∈ text, byte ≠ 0x0A ∧ byte ≠ 0x0D) :
    read (preamble ++ written text id ++ trailer) = .ok id := by
  have hfound : found (written text id) = some (Text.encode (Text.decimal id)) := by
    refine found_written id fun byte hb => ?_
    obtain ⟨hfeed, hreturn⟩ := ht byte hb
    simp [isLineEnd, hfeed, hreturn]
  have hbefore : Apart preamble (written text id) :=
    .inl fun byte hb => by simpa [isLineEnd] using hs.ended byte hb
  have hbehind : Apart (preamble ++ written text id) trailer :=
    .inr fun byte hb => by simpa [isLineEnd] using hs.parted byte hb
  refine read_of_found hid ?_
  rw [found_append hbehind, found_append hbefore, found_eq_none_iff.mpr hs.silent, hfound]
  rfl

end Submission.IdLine

/-! ## Tools that report a number -/

namespace Submission
open IdLine

theorem Tool.created_call (id : Nat) (earlier : List Invocation) (files : FileSystem)
    (invocation : Invocation) : ((Tool.created id).call earlier files invocation).answer =
      .ok ⟨true, some 0, [] ++ written (Bytes.ofAscii "name fixture") id ++ [0x0A]⟩ := by
  have hopening : Bytes.ofAscii "created workunit; name fixture, ID " =
      Bytes.ofAscii "created workunit; " ++ Bytes.ofAscii "name fixture" ++
        Bytes.ofAscii ", ID " := by decide
  have hfeed : Bytes.ofAscii "\n" = [0x0A] := by decide
  rw [created, scripted, written, hopening, hfeed]
  rfl

theorem Tool.read_created {id : Nat} (hid : id < 2 ^ 64) :
    read ([] ++ written (Bytes.ofAscii "name fixture") id ++ [0x0A]) = .ok id := by
  have hsilent : found [] = none := by decide
  exact read_surrounded hid ⟨by simp, found_eq_none_iff.mp hsilent, by simp⟩ (by decide +kernel)

end Submission

namespace Depot
open Submission Submission.IdLine
variable {depot : Depot} {request : Request} {world : World} {id : Nat}

theorem submit_of_created (hid : id < 2 ^ 64) (htool : depot.tool = .created id)
    {seedPath cmdlinePath : Text} {moment : World}
    (h : Ready depot request world seedPath cmdlinePath moment) :
    (depot.submit request world).1 = .ok id := by
  obtain ⟨name, _, hjudged, _⟩ := submit_of_ready h
  rw [htool, Tool.created_call] at hjudged
  generalize (depot.submit request world).1 = result at hjudged ⊢
  cases hjudged with
  | exited hfailed => cases hfailed
  | created _ hread =>
    rw [Tool.read_created hid] at hread
    cases hread
    rfl
  | unreported _ hread =>
    rw [Tool.read_created hid] at hread
    cases hread

/-- A submission gets to the call of the tool, or is refused, or fails to stage an artifact. -/
theorem ready_or_refused (depot : Depot) (request : Request) (world : World) :
    (∃ seedPath cmdlinePath moment, Ready depot request world seedPath cmdlinePath moment) ∨
      (∃ fault, (depot.submit request world).1 = .error (.request fault)) ∨
      ∃ artifact cause, (depot.submit request world).1 = .error (.staging artifact cause) := by
  rcases ready_or_failed depot request world with
    hunnamed | ⟨hnamed, ⟨content, cause, seeded, hseed, hstage⟩ |
      ⟨seedPath, seeded, hseed, ⟨cause, moment, hstage⟩ | ⟨cmdlinePath, moment, hready⟩⟩⟩
  · exact .inr (.inl ⟨_, (submit_of_unnamed hunnamed).1⟩)
  · exact .inr (.inr ⟨_, _, (submit_of_seedFailed hnamed hseed hstage).1⟩)
  · exact .inr (.inr ⟨_, _, (submit_of_cmdlineFailed hnamed hseed hstage).1⟩)
  · exact .inl ⟨seedPath, cmdlinePath, moment, hready⟩

/-- A number of 64 bits that is written on a line of its own is read back, whatever the text before
it. So it is from the tool that reports it. A submission through that tool returns it, unless it
ends before the tool is called. -/
theorem read_written {id : Nat} (hid : id < 2 ^ 64) :
    (∀ preamble text trailer : Bytes, Surrounds preamble trailer →
        (∀ byte ∈ text, byte ≠ 0x0A ∧ byte ≠ 0x0D) →
        read (preamble ++ written text id ++ trailer) = .ok id) ∧
      (∀ earlier files invocation, ∃ reply,
        ((Tool.created id).call earlier files invocation).answer = .ok reply ∧
          read reply.output = .ok id) ∧
      ∀ (depot : Depot) (request : Request) (world : World), depot.tool = .created id →
        (∀ seedPath cmdlinePath moment, Ready depot request world seedPath cmdlinePath moment →
          (depot.submit request world).1 = .ok id) ∧
        ((∃ seedPath cmdlinePath moment,
            Ready depot request world seedPath cmdlinePath moment) ∨
          (∃ fault, (depot.submit request world).1 = .error (.request fault)) ∨
          ∃ artifact cause,
            (depot.submit request world).1 = .error (.staging artifact cause)) := by
  refine ⟨?_, ?_, ?_⟩
  · intro preamble text trailer hs ht
    exact read_surrounded hid hs ht
  · intro earlier files invocation
    exact ⟨_, Tool.created_call id earlier files invocation, Tool.read_created hid⟩
  · intro depot request world htool
    refine ⟨fun _ _ _ hready => submit_of_created hid htool hready, ?_⟩
    exact ready_or_refused depot request world

/-- The largest number, behind a text that looks like a report and in front of another report. -/
theorem read_written_largest :
    let preamble := Bytes.ofAscii "50%\r"
    let text := Bytes.ofAscii "created workunit; a, ID 7, ID "
    let trailer := Bytes.ofAscii "\r\ncreated workunit; b, ID 8"
    let depot : Depot :=
      { oracle := .fixed "/c\n".toList
        fingerprinter := .constant "ab".toList
        tool := .created 18446744073709551615 }
    let request : Request := ⟨"app".toList, "run".toList, .staged "/seed".toList⟩
    read (preamble ++ written text 18446744073709551615 ++ trailer) = .ok 18446744073709551615 ∧
      (depot.submit request { files := .empty }).1 = .ok 18446744073709551615 := by
  intro preamble text trailer depot request
  obtain ⟨hread, -, hsubmit⟩ := @read_written 18446744073709551615 (by decide)
  have hsilent : found preamble = none := by decide +kernel
  have hs : Surrounds preamble trailer :=
    ⟨by decide +kernel, found_eq_none_iff.mp hsilent, by decide +kernel⟩
  have hready : Ready depot request { files := .empty } "/seed".toList "/c".toList
      (depot.stage "cmdline".toList (Text.encode request.cmdline) { files := .empty }).2 := by
    refine ⟨by decide +kernel, _, ⟨"cmdline_ab".toList, "ab".toList, "/c".toList, .created⟩,
      .given, Prod.ext ?_ rfl, rfl⟩
    decide +kernel
  exact ⟨hread preamble text trailer hs (by decide +kernel),
    (hsubmit depot request { files := .empty } rfl).1 _ _ _ hready⟩

end Depot
end WorkDepot
