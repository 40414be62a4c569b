import WorkDepot.Proofs.Placement.Program

/-! # Scripts that write and end

A script writes to its streams and then exits, is killed by a signal or hangs. A write is appended
to the file that its stream is connected to. One file that both streams are connected to gets all
that is written, in the order of writing; of two files each gets what is written to its own stream,
and between them they get the same bytes.
-/
namespace WorkDepot.Helper
variable {writes : List (Stream × Bytes)} {ending : Ending}

/-! ## Files that capture streams -/

section
variable {File : Type} [DecidableEq File] (connected : Stream → File)

/-- The files after one more write. -/
def capture (files : File → Bytes) (write : Stream × Bytes) : File → Bytes :=
  Function.update files (connected write.1) (files (connected write.1) ++ write.2)

/-- The files, which are empty at first, after all writes. -/
def captured (writes : List (Stream × Bytes)) : File → Bytes :=
  writes.foldl (capture connected) fun _ => []

theorem foldl_capture (writes : List (Stream × Bytes)) (files : File → Bytes) (file : File) :
    writes.foldl (capture connected) files file =
      files file ++ (writes.filter fun write => connected write.1 = file).flatMap (·.2) := by
  induction writes generalizing files with
  | nil => simp
  | cons write writes ih =>
    rw [List.foldl_cons, ih, capture]
    by_cases hfile : connected write.1 = file
    · rw [hfile, Function.update_self, List.filter_cons_of_pos (by simpa using hfile),
        List.flatMap_cons, List.append_assoc]
    · rw [Function.update_of_ne (Ne.symm hfile), List.filter_cons_of_neg (by simpa using hfile)]

theorem captured_eq (writes : List (Stream × Bytes)) (file : File) :
    captured connected writes file =
      (writes.filter fun write => connected write.1 = file).flatMap (·.2) := by
  unfold captured
  rw [foldl_capture, List.nil_append]

end

/-- What one file captures of both streams. -/
def together (writes : List (Stream × Bytes)) : Bytes := captured (fun _ => ()) writes ()

/-- What each of two files captures of its stream. -/
def apart (writes : List (Stream × Bytes)) (stream : Stream) : Bytes := captured id writes stream

theorem combined_eq (run : Run) : run.combined = together run.writes := by
  unfold together Run.combined
  rw [captured_eq]
  simp

theorem written_eq (run : Run) (stream : Stream) :
    run.written stream = apart run.writes stream := by
  unfold apart Run.written
  rw [captured_eq]
  rfl

/-- Nothing is lost whichever way the streams are connected. -/
theorem apart_perm_together (writes : List (Stream × Bytes)) :
    (apart writes .out ++ apart writes .err).Perm (together writes) := by
  have herr : (fun write : Stream × Bytes => decide (id write.1 = .err)) =
      fun write => !decide (id write.1 = .out) := by
    funext write
    cases write.1 <;> rfl
  have hparts := List.filter_append_perm (fun write => decide (id write.1 = .out)) writes
  have hbytes := hparts.flatMap_right fun write => write.2
  unfold apart together
  rw [captured_eq, captured_eq, captured_eq, herr, ← List.flatMap_append]
  simpa using hbytes

/-! ## Scripts -/

/-- The action that ends a script like this. -/
def Ending.action : Ending → Action
  | .exited code => .exit code
  | .killed => .kill
  | .hung => .hang

/-- What is told of the end: one byte of the exit code, or nothing after a signal. -/
def Ending.status? : Ending → Option Int
  | .exited code => some (code % 256 : Nat)
  | .killed | .hung => none

def Ending.seen : Ending → Ending
  | .exited code => .exited (code % 256)
  | .killed => .killed
  | .hung => .hung

/-- The script that writes this and ends like this. -/
def script (writes : List (Stream × Bytes)) (ending : Ending) : List Action :=
  writes.map (fun write => .write write.1 write.2) ++ [ending.action]

theorem runScript_script (writes : List (Stream × Bytes)) (ending : Ending) (directory : Location)
    (arguments : List Text) (files : FileSystem) :
    runScript directory arguments (script writes ending) files =
      (⟨writes, ending.seen⟩, files) := by
  induction writes with
  | nil => cases ending <;> rfl
  | cons write writes ih =>
    have hscript : script (write :: writes) ending =
        .write write.1 write.2 :: script writes ending := rfl
    rw [hscript, runScript, ih]
    rfl

variable {machine : Machine} {files : FileSystem} {program directory : Text}
variable {arguments : List Text} {actions : List Action}

/-- The program is a script, and the directory to run it in is there. -/
structure Hosted (machine : Machine) (files : FileSystem) (program directory : Text)
    (actions : List Action) : Prop where
  directory : ∃ location, files.locateDirectory directory = .ok location
  program : find machine files program = .ok (ofScript actions)

theorem Hosted.start (h : Hosted machine files program directory (script writes ending))
    (hs : Startable program directory arguments) :
    start machine files program directory arguments = .ok (⟨writes, ending.seen⟩, files) := by
  obtain ⟨location, hlocation⟩ := h.directory
  rw [start_eq_ok_iff]
  refine ⟨hs, location, _, hlocation, h.program, ?_⟩
  exact runScript_script writes ending location arguments files

end WorkDepot.Helper
