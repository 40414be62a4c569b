import WorkDepot.Proofs.Helper.Script
import WorkDepot.Proofs.Submission.Course

/-! # What is made of a run

A tool and an oracle may run the same script, and they judge it differently. The tool has one file
for both streams, so that its output is all that was written, in order, however the script ends. The
oracle has one for each stream: of a script that succeeds it takes the output alone, which must be
valid text, of one that fails it reports both, one after the other, and of one that hangs nothing.
-/
namespace WorkDepot.Helper
open Submission Placement
variable {writes : List (Stream × Bytes)} {ending : Ending} {machine : Machine}
variable {files : FileSystem} {program directory : Text} {timeoutMillis : Nat}

theorem Ending.status?_eq_zero_iff :
    ending.status? = some 0 ↔ ∃ code, ending = .exited code ∧ code % 256 = 0 := by
  cases ending with
  | exited code =>
    have hstatus : (Ending.exited code).status? = some ((code % 256 : Nat) : Int) := rfl
    rw [hstatus, Option.some_inj]
    constructor
    · intro h
      exact ⟨code, rfl, by omega⟩
    · rintro ⟨_, ⟨⟩, h⟩
      omega
  | killed | hung => exact iff_of_false nofun nofun

/-- What a tool answers when its script ends like this. -/
structure ToolAnswer (timeoutMillis : Nat) (writes : List (Stream × Bytes)) (ending : Ending)
    (answer : Except ToolFailure ToolOutput) : Prop where
  ended : ending ≠ .hung →
    answer = .ok ⟨ending.status? = some 0, ending.status?, together writes⟩
  hung : ending = .hung →
    answer = .error (.timedOut timeoutMillis (Text.decodeLossy (together writes)))

/-- What a submission comes to when the tool's script ends like this. -/
structure SubmissionResult (timeoutMillis : Nat) (writes : List (Stream × Bytes)) (ending : Ending)
    (result : Except Error Nat) : Prop where
  succeeded : ending.status? = some 0 → result = Depot.readId (together writes)
  failed : ending ≠ .hung → ending.status? ≠ some 0 →
    result = .error (.tool (.exited ending.status? (Text.decodeLossy (together writes))))
  hung : ending = .hung →
    result = .error (.tool (.timedOut timeoutMillis (Text.decodeLossy (together writes))))

/-- What an oracle answers when its script ends like this. -/
structure OracleAnswer (filename : Text) (timeoutMillis : Nat) (writes : List (Stream × Bytes))
    (ending : Ending) (answer : Except Failure Text) : Prop where
  answered : ∀ text, answer = .ok text ↔
    ending.status? = some 0 ∧ apart writes .out = Text.encode text
  malformed : ending.status? = some 0 → (∀ text, apart writes .out ≠ Text.encode text) →
    answer = .error (.malformed filename (Text.decodeLossy (apart writes .out)) .notUtf8)
  failed : ending ≠ .hung → ending.status? ≠ some 0 →
    answer = .error (.failed filename ending.status?
      (Text.decodeLossy (apart writes .out) ++ Text.decodeLossy (apart writes .err)))
  hung : ending = .hung → answer = .error (.timedOut filename timeoutMillis)

/-! ## The tool -/

theorem tool_ofRun (timeoutMillis : Nat) (writes : List (Stream × Bytes)) (ending : Ending) :
    ToolAnswer timeoutMillis writes ending (Tool.ofRun timeoutMillis ⟨writes, ending.seen⟩) := by
  unfold Tool.ofRun
  rw [combined_eq]
  constructor
  · intro hended
    cases ending with
    | exited code =>
      have hzero : (code % 256 = 0) = ((Ending.exited code).status? = some 0) := by
        simp [Ending.status?_eq_zero_iff]
      simp only [Ending.seen, hzero]
      rfl
    | killed => rfl
    | hung => exact absurd rfl hended
  · rintro rfl
    rfl

theorem Hosted.tool (h : Hosted machine files program directory (script writes ending))
    (timeoutMillis : Nat) (earlier : List Invocation) {invocation : Invocation}
    (hs : Startable program directory invocation.arguments) :
    let reply :=
      (Tool.command machine program directory timeoutMillis).call earlier files invocation
    ToolAnswer timeoutMillis writes ending reply.answer ∧ reply.files = files := by
  simp only [Tool.command, h.start hs, and_true]
  exact tool_ofRun timeoutMillis writes ending

/-- A submission that is ready for the tool ends as the tool's script does. -/
theorem Hosted.submission (h : Hosted machine files program directory (script writes ending))
    {depot : Depot} {request : Request} {world moment : World} {seedPath cmdlinePath : Text}
    (htool : depot.tool = Tool.command machine program directory timeoutMillis)
    (hready : Depot.Ready depot request world seedPath cmdlinePath moment)
    (hfiles : moment.files = files)
    (hs : ∀ name, Path.fileName? cmdlinePath = some name →
      Startable program directory (Invocation.arguments ⟨request.appName, seedPath, name⟩)) :
    SubmissionResult timeoutMillis writes ending (depot.submit request world).1 := by
  obtain ⟨name, hname, hjudged, _⟩ := Depot.submit_of_ready hready
  rw [htool, hfiles] at hjudged
  have hanswer := (h.tool timeoutMillis world.invocations (hs name hname)).1
  generalize ((Tool.command machine program directory timeoutMillis).call world.invocations files
    ⟨request.appName, seedPath, name⟩).answer = answer at hjudged hanswer
  generalize (depot.submit request world).1 = result at hjudged ⊢
  constructor
  · intro hzero
    have hended : ending ≠ .hung := by
      rintro rfl
      cases hzero
    rw [hanswer.ended hended, hzero] at hjudged
    unfold Depot.readId
    cases hjudged with
    | exited hfailed => simp at hfailed
    | created _ hread =>
      rw [hread]
      rfl
    | unreported _ hread =>
      rw [hread]
      rfl
  · intro hended hfailed
    rw [hanswer.ended hended] at hjudged
    cases hjudged with
    | exited _ => rfl
    | created hsuccess _ => exact absurd (of_decide_eq_true hsuccess) hfailed
    | unreported hsuccess _ => exact absurd (of_decide_eq_true hsuccess) hfailed
  · intro hhung
    rw [hanswer.hung hhung] at hjudged
    cases hjudged
    rfl

/-! ## The oracle -/

section
variable (filename : Text)

theorem oracle_ofRun_succeeded (h : ending.status? = some 0) :
    Oracle.ofRun filename timeoutMillis ⟨writes, ending.seen⟩ =
      match Text.decode? (apart writes .out) with
      | some text => .ok text
      | none =>
        .error (.malformed filename (Text.decodeLossy (apart writes .out)) .notUtf8) := by
  obtain ⟨code, rfl, hzero⟩ := Ending.status?_eq_zero_iff.mp h
  have hseen : (Ending.exited code).seen = .exited 0 := by rw [Ending.seen, hzero]
  rw [hseen]
  unfold Oracle.ofRun
  rw [written_eq]
  rfl

theorem oracle_ofRun_failed (hended : ending ≠ .hung) (hfailed : ending.status? ≠ some 0) :
    Oracle.ofRun filename timeoutMillis ⟨writes, ending.seen⟩ =
      .error (.failed filename ending.status?
        (Text.decodeLossy (apart writes .out) ++ Text.decodeLossy (apart writes .err))) := by
  have hout := written_eq ⟨writes, ending.seen⟩ .out
  have herr := written_eq ⟨writes, ending.seen⟩ .err
  unfold Oracle.ofRun
  rw [hout, herr]
  cases ending with
  | exited code =>
    have hnonzero : code % 256 ≠ 0 := by
      intro hzero
      exact hfailed (Ending.status?_eq_zero_iff.mpr ⟨code, rfl, hzero⟩)
    obtain ⟨rest, hrest⟩ := Nat.exists_eq_succ_of_ne_zero hnonzero
    rw [Ending.seen, Ending.status?, hrest]
    rfl
  | killed => rfl
  | hung => exact absurd rfl hended

theorem oracle_ofRun (timeoutMillis : Nat) (writes : List (Stream × Bytes)) (ending : Ending) :
    OracleAnswer filename timeoutMillis writes ending
      (Oracle.ofRun filename timeoutMillis ⟨writes, ending.seen⟩) := by
  constructor
  · intro text
    by_cases hzero : ending.status? = some 0
    · rw [oracle_ofRun_succeeded filename hzero, ← Text.decode?_eq_some_iff]
      cases Text.decode? (apart writes .out) with
      | some found => simp [hzero]
      | none => simp
    · refine iff_of_false ?_ (fun h => hzero h.1)
      by_cases hended : ending = .hung
      · rw [hended]
        nofun
      · rw [oracle_ofRun_failed filename hended hzero]
        nofun
  · intro hzero hinvalid
    rw [oracle_ofRun_succeeded filename hzero, Text.decode?_eq_none_iff.mpr hinvalid]
  · exact oracle_ofRun_failed filename
  · rintro rfl
    rfl

end

theorem Hosted.oracle (h : Hosted machine files program directory (script writes ending))
    (timeoutMillis : Nat) (earlier : List Text) {filename : Text}
    (hs : Startable program directory [filename]) :
    let lookup :=
      (Oracle.command machine program directory timeoutMillis).ask earlier files filename
    OracleAnswer filename timeoutMillis writes ending lookup.answer ∧ lookup.files = files := by
  simp only [Oracle.command, h.start hs, and_true]
  exact oracle_ofRun filename timeoutMillis writes ending

/-! ## Both -/

/-- How a script ends decides what it is taken for, and nothing that it has written before is lost.
The tool's output is all of it, and so is what a submission reports of a tool that fails or hangs.
The oracle's answer is what was written to the output, and to that alone, by a script that succeeds;
of one that fails both streams are reported. -/
theorem script_judged (hosted : Hosted machine files program directory (script writes ending)) :
    together writes = writes.flatMap (·.2) ∧
      (∀ stream, apart writes stream =
        (writes.filter fun write => write.1 = stream).flatMap (·.2)) ∧
      (apart writes .out ++ apart writes .err).Perm (together writes) ∧
      (∀ earlier invocation, Startable program directory invocation.arguments →
        let reply :=
          (Tool.command machine program directory timeoutMillis).call earlier files invocation
        ToolAnswer timeoutMillis writes ending reply.answer ∧ reply.files = files) ∧
      (∀ (depot : Depot) request world seedPath cmdlinePath moment,
        depot.tool = Tool.command machine program directory timeoutMillis →
        Depot.Ready depot request world seedPath cmdlinePath moment → moment.files = files →
        (∀ name, Path.fileName? cmdlinePath = some name → Startable program directory
          (Invocation.arguments ⟨request.appName, seedPath, name⟩)) →
        SubmissionResult timeoutMillis writes ending (depot.submit request world).1) ∧
      ∀ earlier filename, Startable program directory [filename] →
        let lookup :=
          (Oracle.command machine program directory timeoutMillis).ask earlier files filename
        OracleAnswer filename timeoutMillis writes ending lookup.answer ∧ lookup.files = files := by
  refine ⟨?_, ?_, apart_perm_together writes, ?_, ?_, ?_⟩
  · exact (combined_eq ⟨writes, ending⟩).symm
  · intro stream
    exact (written_eq ⟨writes, ending⟩ stream).symm
  · intro earlier invocation hs
    exact hosted.tool timeoutMillis earlier hs
  · intro depot request world seedPath cmdlinePath moment htool hready hfiles hs
    exact hosted.submission htool hready hfiles hs
  · intro earlier filename hs
    exact hosted.oracle timeoutMillis earlier hs

/-- A script that writes to one stream between two writes to the other, and is killed. -/
theorem script_judged_killed :
    let writes : List (Stream × Bytes) :=
      [(.out, Bytes.ofAscii "/d/"), (.err, Bytes.ofAscii "disk "), (.out, Bytes.ofAscii "full")]
    let machine : Machine := fun location =>
      if location = ["run".toList] then some (ofScript (script writes .killed)) else none
    let tool := Tool.command machine "/run".toList "/".toList 5
    let oracle := Oracle.command machine "/run".toList "/".toList 5
    let depot : Depot := { oracle := .fixed "/c".toList, fingerprinter := .constant [], tool }
    let world : World := { files := FileSystem.empty.insert ["run".toList] (.file [] 0o755) }
    let moment := (depot.stage "cmdline".toList (Text.encode "x".toList) world).2
    let invocation : Invocation := ⟨"app".toList, "/s".toList, "c".toList⟩
    (tool.call [] moment.files invocation).answer =
        .ok ⟨false, none, Bytes.ofAscii "/d/disk full"⟩ ∧
      (depot.submit ⟨"app".toList, "x".toList, .staged "/s".toList⟩ world).1 =
        .error (.tool (.exited none "/d/disk full".toList)) ∧
      (oracle.ask [] moment.files "f".toList).answer =
        .error (.failed "f".toList none "/d/fulldisk ".toList) := by
  intro writes machine tool oracle depot world moment invocation
  have hlocate : moment.files.locate "/run".toList = .ok ["run".toList] := by decide +kernel
  have hnode : moment.files.node? ["run".toList] = some (.file [] 0o755) := by decide +kernel
  have hosted : Hosted machine moment.files "/run".toList "/".toList (script writes .killed) :=
    ⟨⟨[], by decide +kernel⟩, find_eq_ok_iff.mpr ⟨_, _, _, hlocate, hnode, by decide, rfl⟩⟩
  have hcmdline : (depot.stage "cmdline".toList (Text.encode "x".toList) world).1 =
      .ok ⟨"cmdline_".toList, [], "/c".toList, .created⟩ := by decide +kernel
  have hready : Depot.Ready depot ⟨"app".toList, "x".toList, .staged "/s".toList⟩ world
      "/s".toList "/c".toList moment :=
    ⟨by decide, world, _, .given, Prod.ext hcmdline rfl, rfl⟩
  have hstartable : Startable "/run".toList "/".toList invocation.arguments := by
    unfold Startable
    decide +kernel
  have hasked : Startable "/run".toList "/".toList ["f".toList] := by
    unfold Startable
    decide +kernel
  obtain ⟨_, _, _, htool, hsubmission, horacle⟩ :=
    @script_judged writes .killed machine moment.files "/run".toList "/".toList 5 hosted
  have hnamed : ∀ name, Path.fileName? "/c".toList = some name → Startable "/run".toList "/".toList
      (Invocation.arguments ⟨"app".toList, "/s".toList, name⟩) := by
    intro name hname
    cases hname
    exact hstartable
  have hresult := hsubmission depot _ world _ _ moment rfl hready rfl hnamed
  have htogether : Text.decodeLossy (together writes) = "/d/disk full".toList := by decide +kernel
  have happart : Text.decodeLossy (apart writes .out) ++ Text.decodeLossy (apart writes .err) =
      "/d/fulldisk ".toList := by decide +kernel
  refine ⟨?_, ?_, ?_⟩
  · exact (htool [] invocation hstartable).1.ended nofun
  · rw [hresult.failed nofun nofun, htogether]
    rfl
  · rw [(horacle [] _ hasked).1.failed nofun nofun, happart]
    rfl

end WorkDepot.Helper
