import WorkDepot.Proofs.CommandLine.ExitCode
import WorkDepot.Proofs.Config.Growth
import WorkDepot.Proofs.Digest.Fingerprint
import WorkDepot.Proofs.Placement.Program

/-! # Agreement of commands

Once a file has been staged, its path can be had in four ways: by label and hash, with letters of
either case, by the name of the file, below the marker, and by staging the file again. They agree
for good when the oracle is a steady program and nothing is taken away from the files.
-/
namespace WorkDepot.CommandLine
open Staging

/-- The arguments are run with success, print what is told of it and leave the files that are
there. -/
def Prints (host : Host) (arguments : List Text) (tells : OutputFormat → (stdout : Text) → Prop) :
    Prop :=
  ∃ call ended, Call.ofArguments arguments = .ok call ∧ run host arguments = .ok ended ∧
    ended.exitCode = 0 ∧ tells call.output ended.stdout ∧ host.files ≤ ended.world.files

/-- The path of a file is printed. -/
def ShowsPath (filename path : Text) (output : OutputFormat) (stdout : Text) : Prop :=
  Shows output (.path filename path) stdout

/-- The line is the one that is printed for the staged file, and the object says that the file has
been there before. -/
def ShowsAgain (staged : Staged) : OutputFormat → (stdout : Text) → Prop
  | .text, stdout => Shows .text (.staged staged) stdout
  | .json, stdout => Json.readObject? stdout = some
      [("filename".toList, .text staged.filename), ("fingerprint".toList, .text staged.fingerprint),
        ("path".toList, .text staged.path), ("created".toList, .flag false)]

/-- The arguments amount to a command with the same configuration as that of the call. -/
def Asking (call : Call) (arguments : List Text) (command : Command) : Prop :=
  ∃ other, Call.ofArguments arguments = .ok other ∧ other.command = command ∧
    other.config = call.config ∧ other.projectDir = call.projectDir

/-- What follows the last marker in a path, or the path when the marker is not in it. -/
inductive Below (marker path : Text) : Text → Prop
  | behind {front rest : Text} : Text.CutsLast marker path front rest → Below marker path rest
  | whole : ¬ marker <:+: path → Below marker path path

/-- What commands tell about a file that has been staged. -/
structure Agreed (host : Host) (call : Call) (label source marker : Text) (staged : Staged) :
    Prop where
  locate : ∀ arguments hash, Text.toLowerAscii hash = staged.fingerprint →
    Asking call arguments (.locate label hash) →
    Prints host arguments (ShowsPath staged.filename staged.path)
  resolve : ∀ arguments, Asking call arguments (.resolve staged.filename) →
    Prints host arguments (ShowsPath staged.filename staged.path)
  downloadPath : ∀ arguments, Asking call arguments (.downloadPath staged.filename) →
    ∃ rest, Below marker staged.path rest ∧
      Prints host arguments (ShowsPath staged.filename rest)
  stage : ∀ arguments, Asking call arguments (.stage label source) →
    Prints host arguments (ShowsAgain staged)

theorem below_relativeTo (marker path : Text) :
    Below marker path (Placement.relativeTo marker path) := by
  rw [Placement.relativeTo]
  cases h : Text.afterLast? marker path with
  | none => exact .whole (Text.afterLast?_eq_none_iff.mp h)
  | some rest =>
    obtain ⟨front, hcuts⟩ := Text.afterLast?_eq_some_iff.mp h
    exact .behind hcuts

theorem showsAgain_of_shows (staged : Staged) (output : OutputFormat) (stdout : Text)
    (h : Shows output (.staged { staged with outcome := .alreadyPresent }) stdout) :
    ShowsAgain staged output stdout := by
  cases output <;> exact h

theorem Prints.imp {host : Host} {arguments : List Text} {first second : OutputFormat → Text → Prop}
    (hp : Prints host arguments first)
    (h : ∀ output stdout, first output stdout → second output stdout) :
    Prints host arguments second := by
  obtain ⟨call, ended, hcall, hrun, hcode, htells, hkept⟩ := hp
  exact ⟨call, ended, hcall, hrun, hcode, h _ _ htells, hkept⟩

variable {call other : Call} {host : Host} {settings : Config.Settings} {later : FileSystem}

/-! ## The same depot with more files -/

theorem Call.loaded_later (hl : call.loaded host = .ok settings) (h : host.files ≤ later)
    (hconfig : other.config = call.config) (hproject : other.projectDir = call.projectDir) :
    other.loaded { host with files := later } = .ok settings := by
  have henvironment : other.environment { host with files := later } = call.environment host := by
    funext name
    rw [environment, environment, hproject]
  rw [loaded, hconfig, henvironment]
  exact Config.load_mono h hl

theorem readSource_later {source : Text} {content : Bytes}
    (hr : host.readSource source = .ok content) (h : host.files ≤ later) :
    Host.readSource { host with files := later } source = .ok content := by
  rw [Host.readSource] at hr ⊢
  split
  · next hinput =>
    rw [if_pos hinput] at hr
    exact hr
  · next hinput =>
    rw [if_neg hinput] at hr
    cases hread : host.files.read source with
    | error cause => simp [hread, Except.mapError] at hr
    | ok found =>
      rw [hread] at hr
      cases hr
      rw [FileSystem.read_mono h hread]
      rfl

/-- When it is asked for a name, the depot answers with the path, as long as the files are there. -/
def Knows (depot : Depot) (files : FileSystem) (filename path : Text) : Prop :=
  ∀ world : World, files ≤ world.files → (depot.ask filename world).1 = .ok path ∧
    world.files ≤ depot.filesAsked world filename

/-- What the oracle's program has answered once is known. -/
theorem knows_of_ask {machine : Helper.Machine} {world : World} {filename path : Text}
    (hsteady : ∀ program,
      Helper.find machine world.files settings.oracleProgramPath = .ok program →
      Helper.Steady program)
    (h : ((Depot.ofSettings settings machine).ask filename world).1 = .ok path) :
    Knows (.ofSettings settings machine) world.files filename path := by
  intro since hle
  obtain ⟨answer, hanswer, hpath⟩ := bind_eq_ok.mp h
  obtain ⟨hagain, hkept⟩ := Placement.Oracle.command_answer_later hsteady hanswer hle
  refine ⟨?_, hkept⟩
  rw [Depot.ask]
  exact bind_eq_ok.mpr ⟨answer, hagain, hpath⟩

/-! ## The four ways -/

/-- What the call of a command yields is what arguments for the command print. -/
theorem prints_of_asks {arguments : List Text} {command : Command} {asked : WorkDepot.Call}
    {result : Result} (hasking : Asking call arguments command)
    (hl : call.loaded host = .ok settings) (h : host.files ≤ later)
    (hasks : command.Asks { host with files := later } asked)
    (hresult : Turn.result? ⟨.ofSettings settings host.machine, asked⟩ { files := later } =
      some result)
    (hkept : later ≤
      (Turn.take ⟨.ofSettings settings host.machine, asked⟩ { files := later }).files) :
    Prints { host with files := later } arguments (Shows · result) := by
  obtain ⟨other, hcall, rfl, hconfig, hproject⟩ := hasking
  have htakes := Call.Takes.intro (Call.loaded_later hl h hconfig hproject) hasks
  obtain ⟨hworld, hyields, -⟩ := Call.run_of_takes htakes
  obtain ⟨hcode, hstdout⟩ := hyields result hresult
  refine ⟨other, other.run { host with files := later }, hcall, run_eq hcall _, hcode, hstdout, ?_⟩
  rw [hworld]
  exact hkept

section
variable {depot : Depot} {filename path : Text} {files : FileSystem} {world : World}
variable (hk : Knows depot files filename path) (hle : files ≤ world.files)
include hk hle

theorem resolve_of_knows : (depot.resolve filename world).1 = .ok path ∧
    world.files ≤ (depot.resolve filename world).2.files := by
  obtain ⟨hask, hkept⟩ := hk world hle
  obtain ⟨hanswer, hfiles⟩ := depot.resolve_eq world filename
  rw [hanswer, hfiles]
  exact ⟨hask, hkept⟩

/-- Content that is at its path is found there again. -/
theorem stage_of_knows {label : Text} {content : Bytes} (hdisk : depot.disk = .sound)
    (hname : depot.filenameOf label content = filename)
    (hread : world.files.read path = .ok content) :
    (depot.stage label content world).1 = .ok ⟨filename,
        depot.fingerprinter.fingerprint content, path, .alreadyPresent⟩ ∧
      world.files ≤ (depot.stage label content world).2.files := by
  obtain ⟨hask, hkept⟩ := hk world hle
  subst hname
  obtain ⟨hresult, hfiles⟩ := depot.stage_of_read label content world hdisk hask
    (FileSystem.read_mono hkept hread)
  rw [hfiles]
  exact ⟨hresult, hkept⟩

end

/-- Letters of either case spell the same fingerprint, in hexadecimal digits. -/
theorem isHexDigit_of_spelling {algorithm : Digest.Algorithm} {content : Bytes} {hash : Text}
    (h : Text.toLowerAscii hash = algorithm.fingerprinter.fingerprint content) :
    hash ≠ [] ∧ ∀ c ∈ hash, isHexDigit c := by
  have hhex : Text.IsLowerHex (Text.toLowerAscii hash) := by
    rw [h]
    exact Bytes.toHex_isLowerHex _
  refine ⟨?_, fun c hc => Text.digit?_of_lower_mem (hhex _ (List.mem_map_of_mem hc))⟩
  rintro rfl
  have hlength := congrArg List.length h
  rw [Digest.Algorithm.length_fingerprint] at hlength
  cases algorithm <;> cases hlength

/-- When the depot knows the path of a file that is there, all commands agree about it. -/
theorem agreed_of_knows {label source : Text} {content : Bytes} {staged : Staged}
    (hloaded : call.loaded host = .ok settings) (hlabel : Text.trim label ≠ [])
    (hsource : host.readSource source = .ok content)
    (hfilename : staged.filename = filename label staged.fingerprint)
    (hfingerprint : staged.fingerprint = settings.digest.fingerprinter.fingerprint content)
    (hknows : Knows (.ofSettings settings host.machine) host.files staged.filename staged.path)
    (hle : host.files ≤ later) (hcontent : later.read staged.path = .ok content) :
    Agreed { host with files := later } call label source settings.downloadMarker staged := by
  have hle' : host.files ≤ World.files { files := later } := hle
  obtain ⟨hanswer, hkept⟩ := resolve_of_knows hknows hle'
  constructor
  case locate =>
    intro arguments hash hhash hasking
    have hspelling := hhash.trans hfingerprint
    obtain ⟨hne, hdigits⟩ := isHexDigit_of_spelling hspelling
    refine prints_of_asks hasking hloaded hle (.locate hne hdigits) ?_ ?_
    · simp only [Turn.result?, Depot.locate, hhash, ← hfilename, hanswer]
      rfl
    · simp only [Turn.take, Depot.locate, hhash, ← hfilename]
      exact hkept
  case resolve =>
    intro arguments hasking
    refine prints_of_asks hasking hloaded hle (.resolve _) ?_ hkept
    simp only [Turn.result?, hanswer]
    rfl
  case downloadPath =>
    intro arguments hasking
    refine ⟨_, below_relativeTo _ _, prints_of_asks hasking hloaded hle (.downloadPath _) ?_ hkept⟩
    simp only [Turn.result?, Depot.downloadPath, hanswer]
    rfl
  case stage =>
    intro arguments hasking
    have hname : (Depot.ofSettings settings host.machine).filenameOf label content =
        staged.filename := by
      rw [hfilename, hfingerprint]
      rfl
    obtain ⟨hanswer, hkept⟩ := stage_of_knows hknows hle' rfl hname hcontent
    have hasks := Command.Asks.stage hlabel (readSource_later hsource hle)
    refine (prints_of_asks hasking hloaded hle hasks ?_ hkept).imp (showsAgain_of_shows staged)
    rw [hfingerprint]
    simp only [Turn.result?, hanswer]
    rfl

/-- A file that has been staged with success is known by its label and the digest of its content,
and from then on all commands agree about its path. -/
theorem commands_agree {arguments : List Text} {label source : Text} {ended : Ended}
    (hcall : Call.ofArguments arguments = .ok call) (hcommand : call.command = .stage label source)
    (hsteady : ∀ settings program, call.loaded host = .ok settings →
      Helper.find host.machine host.files settings.oracleProgramPath = .ok program →
      Helper.Steady program)
    (hrun : run host arguments = .ok ended) (hcode : ended.exitCode = 0) :
    ∃ settings content staged, call.loaded host = .ok settings ∧
      host.readSource source = .ok content ∧
      staged.filename = label ++ '_' :: staged.fingerprint ∧
      staged.fingerprint = Bytes.toHex (settings.digest.digest content) ∧
      Shows call.output (.staged staged) ended.stdout ∧
      ∀ later, ended.world.files ≤ later →
        Agreed { host with files := later } call label source settings.downloadMarker staged := by
  obtain rfl : call.run host = ended := Except.ok.inj ((run_eq hcall host).symm.trans hrun)
  obtain ⟨turn, result, htakes, hresult, hstdout, hworld⟩ :=
    (call.run_truthfully host).printed hcode
  obtain @⟨settings, asked, hloaded, hasks⟩ := htakes
  rw [hcommand] at hasks
  cases hasks with
  | @stage _ _ content hlabel hsource =>
    obtain ⟨staged, hstaged, rfl⟩ := Option.map_eq_some_iff.mp hresult
    have hstage := eq_ok_of_toOption hstaged
    obtain ⟨hfilename, hfingerprint, hask⟩ := Depot.stage_eq_ok _ _ _ _ hstage
    have hname : staged.filename = filename label staged.fingerprint := by
      rw [hfilename, hfingerprint]
      rfl
    rw [← hfilename] at hask
    have hknows := knows_of_ask (hsteady settings · hloaded) hask
    have hread := Depot.stage_read _ _ _ _ hstage
    refine ⟨settings, content, staged, hloaded, hsource, hname, hfingerprint, hstdout, ?_⟩
    rw [hworld]
    intro later hle
    have hasked := (hknows host.world le_rfl).2
    rw [hfilename] at hasked
    have hlater := (hasked.trans (Depot.filesAsked_le_stage _ _ _ _)).trans hle
    exact agreed_of_knows hloaded hlabel hsource hname hfingerprint hknows hlater
      (FileSystem.read_mono hle hread)

/-- The hash of an empty file may be given in capitals, and the file may be staged again. -/
theorem commands_agree_capitals :
    let host : Host := .answering "/p/in"
    let call : Call :=
      ⟨none, none, none, Log.defaultLevel, .text, false, .stage "in".toList "-".toList⟩
    let later := { host with files := (call.run host).world.files }
    let hash := "E3B0C44298FC1C149AFBF4C8996FB92427AE41E4649B934CA495991B7852B855".toList
    let locating := ["locate".toList, "--prefix".toList, "in".toList, "--hash".toList, hash]
    let staging := ["--output=json".toList, "stage".toList, "--prefix".toList, "in".toList,
      "-".toList]
    Call.ofArguments ["stage".toList, "--prefix".toList, "in".toList, "-".toList] = .ok call ∧
      (call.run host).exitCode = 0 ∧
      ∃ staged : Staged, staged.fingerprint = Text.toLowerAscii hash ∧
        staged.path = "/p/in".toList ∧
        Prints later locating (ShowsPath staged.filename staged.path) ∧
        Prints later staging (ShowsAgain staged) ∧
        (run later locating).map (·.stdout) = .ok "/p/in\n".toList ∧
        (run later staging).map (·.stdout) = .ok
          ("\x7b\n  \"filename\": \"in_".toList ++ Text.toLowerAscii hash ++
            "\",\n  \"fingerprint\": \"".toList ++ Text.toLowerAscii hash ++
            "\",\n  \"path\": \"/p/in\",\n  \"created\": false\n\x7d\n".toList) := by
  intro host call later hash locating staging
  have hcall : Call.ofArguments ["stage".toList, "--prefix".toList, "in".toList, "-".toList] =
      .ok call := by decide +kernel
  have hcode : (call.run host).exitCode = 0 := by decide +kernel
  have hsteady : ∀ settings found, call.loaded host = .ok settings →
      Helper.find host.machine host.files settings.oracleProgramPath = .ok found →
      Helper.Steady found := by
    intro settings found _ hfind
    obtain ⟨location, _, _, _, _, _, hmachine⟩ := Helper.find_eq_ok_iff.mp hfind
    obtain ⟨-, hfound⟩ := Option.ite_none_right_eq_some.mp hmachine
    obtain rfl := Option.some.inj hfound
    exact ⟨fun _ _ _ _ _ => rfl, fun _ _ _ _ _ => rfl, fun _ _ _ => le_rfl⟩
  obtain ⟨settings, content, staged, hloaded, hsource, hname, hfingerprint, hshows, hagreed⟩ :=
    commands_agree hcall rfl hsteady (run_eq hcall host) hcode
  have hdigest : settings.digest = .sha256 := by
    have hsha : (call.loaded host).map (·.digest) = .ok .sha256 := by decide +kernel
    rw [hloaded] at hsha
    exact Except.ok.inj hsha
  have hhash : Text.toLowerAscii hash = staged.fingerprint := by
    cases hsource
    rw [hfingerprint, hdigest]
    decide +kernel
  have hpath : staged.path = "/p/in".toList := by
    have hline : (call.run host).stdout = "/p/in".toList ++ "\t".toList ++
        ("in".toList ++ '_' :: Text.toLowerAscii hash) ++ "\n".toList := by decide +kernel
    rw [hline, hhash, ← hname] at hshows
    exact (List.append_cancel_right (List.append_cancel_right
      (List.append_cancel_right hshows))).symm
  have hlocating : Asking call locating (.locate "in".toList hash) :=
    ⟨{ call with command := .locate "in".toList hash }, by decide +kernel, rfl, rfl, rfl⟩
  have hstaging : Asking call staging (.stage "in".toList "-".toList) :=
    ⟨{ call with output := .json }, by decide +kernel, rfl, rfl, rfl⟩
  have hagreed := hagreed _ le_rfl
  exact ⟨hcall, hcode, staged, hhash.symm, hpath, hagreed.locate _ _ hhash hlocating,
    hagreed.stage _ hstaging, by decide +kernel, by decide +kernel⟩

end WorkDepot.CommandLine
