import WorkDepot.Proofs.CommandLine.Perform
import WorkDepot.Proofs.CommandLine.Printed

/-! # Exit codes

An exit code says what has become of a run. Two says that its caller is at fault, and then nothing
has been done: no helper has been asked and no file has been touched. One says that something in the
work itself has failed. Zero says that it has succeeded, and only then something is printed, the
result.
-/
namespace WorkDepot.CommandLine

/-- The settings of a call, or what is wrong with its configuration. -/
def Call.loaded (call : Call) (host : Host) : Except Config.Error Config.Settings :=
  Config.load Config.Document.ofText? host.files call.config (call.environment host)

/-- The caller is at fault for the configuration or for the command. -/
def Call.CallersFault (call : Call) (host : Host) : Prop :=
  (∃ error, call.loaded host = .error error) ∨ call.command.Faulty host

/-- The turn that a call takes, when its caller is not at fault. -/
inductive Call.Takes (call : Call) (host : Host) : Turn → Prop
  | intro {settings : Config.Settings} {asked : WorkDepot.Call} :
      call.loaded host = .ok settings → call.command.Asks host asked →
      Takes call host ⟨.ofSettings settings host.machine, asked⟩

/-- What the end of a run tells about it. -/
structure Truthful (call : Call) (host : Host) (ended : Ended) : Prop where
  exitCode : ended.exitCode = 0 ∨ ended.exitCode = 1 ∨ ended.exitCode = 2
  callers : ended.exitCode = 2 ↔ call.CallersFault host
  idle : ended.exitCode = 2 → ended.world.lookups = [] ∧ ended.world.invocations = [] ∧
    ended.world.files = host.files ∧ ∀ machine, call.run { host with machine } = ended
  failed : ended.exitCode = 1 ↔ ∃ turn, call.Takes host turn ∧ turn.Fails host.world
  silent : ended.exitCode ≠ 0 → ended.stdout = []
  printed : ended.exitCode = 0 → ∃ turn result, call.Takes host turn ∧
    turn.result? host.world = some result ∧ Shows call.output result ended.stdout ∧
    ended.world = turn.take host.world

variable {call : Call} {host : Host} {turn : Turn}

/-! ## The ways of a run -/

theorem Call.settings_eq (call : Call) (host : Host) :
    call.settings Config.Document.ofText? host =
      (call.loaded host).mapError fun error => ⟨true, error.report⟩ := rfl

/-- A command does not run programs by itself. -/
theorem Command.perform_machine (command : Command) (host : Host) (machine : Helper.Machine)
    (depot : Depot) (world : World) :
    command.perform { host with machine } depot world = command.perform host depot world := by
  cases command <;> rfl

theorem Call.run_of_unloaded {error : Config.Error} (h : call.loaded host = .error error) :
    (call.run host).exitCode = 2 ∧ (call.run host).stdout = [] ∧
      (call.run host).world = host.world ∧
      ∀ machine, call.run { host with machine } = call.run host := by
  have hrun (machine : Helper.Machine) : call.run { host with machine } =
      ⟨2, [], loggingWarning host.environment call.logLevel ++
        Complaint.line ⟨true, error.report⟩, host.world⟩ := by
    have h : call.loaded { host with machine } = .error error := h
    rw [run, settings_eq, h]
    rfl
  have hself := hrun host.machine
  rw [hself]
  exact ⟨rfl, rfl, rfl, hrun⟩

theorem Call.run_of_loaded {settings : Config.Settings} (h : call.loaded host = .ok settings) :
    let performed := call.command.perform host (.ofSettings settings host.machine) host.world
    (call.run host).world = performed.2 ∧
      (∀ result, performed.1 = .ok result →
        (call.run host).exitCode = 0 ∧ Shows call.output result (call.run host).stdout) ∧
      ∀ complaint, performed.1 = .error complaint →
        (call.run host).exitCode = complaint.exitCode ∧ (call.run host).stdout = [] := by
  rw [run, settings_eq, h]
  simp only [Except.mapError]
  split <;> next hperformed => simp [hperformed, Result.shows_render]

theorem Call.run_of_refused {settings : Config.Settings} {complaint : Complaint} {after : World}
    (h : call.loaded host = .ok settings)
    (hperform : call.command.perform host (.ofSettings settings host.machine) host.world =
      (.error complaint, after)) :
    call.run host = ⟨complaint.exitCode, [], loggingWarning host.environment call.logLevel ++
      (if call.printMetrics then after.counters.render else []) ++ complaint.line, after⟩ := by
  rw [run, settings_eq, h]
  simp only [Except.mapError, hperform]

/-- A run whose caller is at fault does nothing, and is the same with all machines. -/
theorem Call.run_of_fault (h : call.CallersFault host) :
    (call.run host).exitCode = 2 ∧ (call.run host).stdout = [] ∧
      host.world.Untouched (call.run host).world ∧
      ∀ machine, call.run { host with machine } = call.run host := by
  cases hloaded : call.loaded host with
  | error error =>
    obtain ⟨hcode, hstdout, hworld, hsame⟩ := run_of_unloaded hloaded
    rw [hworld]
    exact ⟨hcode, hstdout, ⟨rfl, rfl, rfl, rfl, rfl⟩, hsame⟩
  | ok settings =>
    have hfaulty : call.command.Faulty host := by
      refine h.resolve_left ?_
      rintro ⟨error, herror⟩
      cases hloaded.symm.trans herror
    obtain ⟨complaint, after, hcallers, huntouched, hperform⟩ :=
      Command.perform_of_faulty hfaulty host.world
    obtain ⟨hworld, -, hcomplaint⟩ := run_of_loaded hloaded
    rw [hperform _ rfl] at hworld hcomplaint
    obtain ⟨hcode, hstdout⟩ := hcomplaint complaint rfl
    rw [hcode, Complaint.exitCode, if_pos hcallers, hworld]
    refine ⟨rfl, hstdout, huntouched, fun machine => ?_⟩
    have hother : call.loaded { host with machine } = .ok settings := hloaded
    have hrefused := (Command.perform_machine call.command host machine _ host.world).trans
      (hperform (.ofSettings settings machine) rfl)
    exact (run_of_refused hother hrefused).trans (run_of_refused hloaded (hperform _ rfl)).symm

theorem Call.run_of_takes (h : call.Takes host turn) :
    (call.run host).world = turn.take host.world ∧
      (∀ result, turn.result? host.world = some result →
        (call.run host).exitCode = 0 ∧ Shows call.output result (call.run host).stdout) ∧
      (turn.Fails host.world → (call.run host).exitCode = 1 ∧ (call.run host).stdout = []) := by
  obtain @⟨settings, asked, hloaded, hasks⟩ := h
  obtain ⟨hworld, hresult, hcomplaint⟩ := run_of_loaded hloaded
  obtain ⟨hyields, htakes, hcallers⟩ :=
    Command.perform_of_asks hasks (.ofSettings settings host.machine) host.world
  refine ⟨hworld.trans htakes, fun result hsome => ?_, fun hfails => ?_⟩
  · rw [← hyields] at hsome
    exact hresult result (eq_ok_of_toOption hsome)
  · rw [Command.fails_iff hasks, ← hyields, toOption_eq_none_iff] at hfails
    obtain ⟨complaint, herror⟩ := hfails
    obtain ⟨hcode, hstdout⟩ := hcomplaint complaint herror
    rw [hcode, Complaint.exitCode, if_neg (hcallers complaint herror)]
    exact ⟨rfl, hstdout⟩

theorem Call.fault_or_takes (call : Call) (host : Host) :
    call.CallersFault host ∨ ∃ turn, call.Takes host turn := by
  cases hloaded : call.loaded host with
  | error error => exact .inl (.inl ⟨error, hloaded⟩)
  | ok settings =>
    rcases Command.asks_or_faulty host call.command with ⟨asked, hasks⟩ | hfaulty
    · exact .inr ⟨_, .intro hloaded hasks⟩
    · exact .inl (.inr hfaulty)

theorem Call.Takes.fails_iff (h : call.Takes host turn) :
    turn.Fails host.world ↔ turn.result? host.world = none := by
  obtain ⟨_, hasks⟩ := h
  exact Command.fails_iff hasks _ _

/-! ## What the exit code tells -/

theorem truthful_of_fault (h : call.CallersFault host) : Truthful call host (call.run host) := by
  obtain ⟨hcode, hstdout, huntouched, hsame⟩ := Call.run_of_fault h
  constructor
  · exact .inr (.inr hcode)
  · exact iff_of_true hcode h
  · exact fun _ => ⟨huntouched.lookups, huntouched.invocations, huntouched.files, hsame⟩
  · refine iff_of_false (by omega) ?_
    rintro ⟨turn, htakes, hfails⟩
    obtain ⟨-, -, hfailed⟩ := Call.run_of_takes htakes
    have hone := (hfailed hfails).1
    omega
  · exact fun _ => hstdout
  · omega

theorem truthful_of_takes (h : call.Takes host turn) : Truthful call host (call.run host) := by
  obtain ⟨hworld, hyields, hfailed⟩ := Call.run_of_takes h
  have hinnocent (hcode : (call.run host).exitCode ≠ 2) : ¬ call.CallersFault host :=
    fun hcallers => hcode (Call.run_of_fault hcallers).1
  cases hresult : turn.result? host.world with
  | none =>
    have hfails := h.fails_iff.mpr hresult
    obtain ⟨hcode, hstdout⟩ := hfailed hfails
    constructor
    · exact .inr (.inl hcode)
    · exact iff_of_false (by omega) (hinnocent (by omega))
    · omega
    · exact iff_of_true hcode ⟨turn, h, hfails⟩
    · exact fun _ => hstdout
    · omega
  | some result =>
    obtain ⟨hcode, hstdout⟩ := hyields result hresult
    constructor
    · exact .inl hcode
    · exact iff_of_false (by omega) (hinnocent (by omega))
    · omega
    · refine iff_of_false (by omega) ?_
      rintro ⟨other, htakes, hfails⟩
      have hone := (Call.run_of_takes htakes).2.2 hfails
      omega
    · omega
    · exact fun _ => ⟨turn, result, h, hresult, hstdout, hworld⟩

theorem Call.run_truthfully (call : Call) (host : Host) :
    Truthful call host (call.run host) := by
  rcases call.fault_or_takes host with hfault | ⟨turn, htakes⟩
  · exact truthful_of_fault hfault
  · exact truthful_of_takes htakes

theorem run_eq {arguments : List Text} (h : Call.ofArguments arguments = .ok call) (host : Host) :
    run host arguments = .ok (call.run host) := by
  rw [run, h]
  rfl

/-- Every call that arguments amount to has an end, and its exit code tells the truth about it. -/
theorem run_truthful {arguments : List Text} (h : Call.ofArguments arguments = .ok call)
    (host : Host) : ∃ ended, run host arguments = .ok ended ∧ Truthful call host ended :=
  ⟨call.run host, run_eq h host, call.run_truthfully host⟩

/-- A host with a project in `/p` where the oracle's program answers with one path. -/
def Host.answering (path : String) : Host where
  files := ((FileSystem.empty.insert ["p".toList] .directory).insert
    ["bin".toList, "p".toList] .directory).insert
    ["dir_hier_path".toList, "bin".toList, "p".toList] (.file [] 0o755)
  machine location :=
    if location = ["dir_hier_path".toList, "bin".toList, "p".toList] then
      some (Helper.ofScript [.write .out (Bytes.ofAscii path)])
    else none
  environment name := if name = Config.Variable.projectDir.name then some "/p".toList else none
  stdin := []

/-- A file from standard input is staged where the oracle's program says. -/
theorem run_truthful_staged :
    let arguments := ["stage".toList, "--prefix".toList, "in".toList, "-".toList]
    let call : Call :=
      ⟨none, none, none, Log.defaultLevel, .text, false, .stage "in".toList "-".toList⟩
    let line := "/p/in\tin_e3b0c44298fc1c149afbf4c8996fb92427ae41e4649b934ca495991b7852b855\n"
    Call.ofArguments arguments = .ok call ∧
      ∃ ended, run (.answering "/p/in") arguments = .ok ended ∧
        Truthful call (.answering "/p/in") ended ∧ ended.exitCode = 0 ∧
        ended.stdout = line.toList := by
  intro arguments call line
  have hcall : Call.ofArguments arguments = .ok call := by decide +kernel
  have hprinted : (call.run (.answering "/p/in")).exitCode = 0 ∧
      (call.run (.answering "/p/in")).stdout = line.toList := by decide +kernel
  obtain ⟨ended, hrun, htruthful⟩ := run_truthful hcall (.answering "/p/in")
  obtain rfl : call.run (.answering "/p/in") = ended :=
    Except.ok.inj ((run_eq hcall _).symm.trans hrun)
  exact ⟨hcall, _, hrun, htruthful, hprinted⟩

end WorkDepot.CommandLine
