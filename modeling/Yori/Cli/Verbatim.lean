import Yori.Cli.Submit

namespace Yori
open Checked ByteString FlagScan CommandLine List

variable {host : SubmitHost} {scan other : SubmitScan} {submission : Submission}

/-- The options of a submission that take a value, in the order in which they are searched for. -/
def valueOptions : List ByteString :=
  [ascii "--gpus", ascii "--gpu", ascii "--gpu-any-of", ascii "--gpu-preferred", ascii "--tensorboard-logdir",
    ascii "--cwd", ascii "--capture-env", ascii "--env"]

def inheritEnvOption : ByteString := ascii "--inherit-env"

def submitStages : List (Stage ByteString) :=
  [.value (ascii "--gpus"), .value (ascii "--gpu"), .value (ascii "--gpu-any-of"), .value (ascii "--gpu-preferred"),
    .value (ascii "--tensorboard-logdir"), .value (ascii "--cwd"), .value (ascii "--capture-env"),
    .switch inheritEnvOption, .value (ascii "--env")]

/-- What each step of the scan found. -/
def SubmitScan.found (scan : SubmitScan) : List (List ByteString) :=
  [scan.gpus, scan.gpu, scan.gpuAnyOf, scan.gpuPreferred, scan.tensorboardLogdir, scan.cwd, scan.captureEnv,
    if scan.inheritEnv then [inheritEnvOption] else [], scan.env]

theorem CommandLine.takeFlags_eq (name : ByteString) (arguments : List ByteString) :
    takeFlags name arguments = sweep name arguments := takeFlags_eq_sweep le_rfl

theorem scanAll_submitStages (arguments : List ByteString) :
    scanAll submitStages arguments = ((scanSubmit arguments).found, (scanSubmit arguments).rest) := by
  simp only [scanAll, submitStages, Stage.scan, scanSubmit, SubmitScan.found, takeFlags_eq,
    takeBoolFlag, inheritEnvOption]
  congr

theorem scanAll_rest (arguments : List ByteString) :
    (scanAll submitStages arguments).2 = (scanSubmit arguments).rest := by rw [scanAll_submitStages]

theorem scanAll_values (arguments : List ByteString) :
    (scanAll submitStages arguments).1 = (scanSubmit arguments).found := by rw [scanAll_submitStages]

theorem SubmitScan.eq_of_found {one : SubmitScan} (found : one.found = other.found) (rest : one.rest = other.rest) :
    one = other := by
  obtain ⟨_, _, _, _, _, _, _, inherit, _⟩ := one
  obtain ⟨_, _, _, _, _, _, _, otherInherit, _⟩ := other
  simp only [SubmitScan.found, cons.injEq, and_true] at found
  cases inherit <;> cases otherInherit <;> simp_all

/-- What of a submission was read from the scanned options. -/
structure Submission.ReadFrom (host : SubmitHost) (scan : SubmitScan) (submission : Submission) : Prop where
  gpuSpec : submission.submit.gpuSpec = gpuSpecOf scan
  gpuPreferredSpec : submission.submit.gpuPreferredSpec = scan.gpuPreferred.getLast?
  tensorboardLogdir : submission.submit.tensorboardLogdir = scan.tensorboardLogdir.getLast?
  cwd : workingDirectoryOf host scan = some submission.submit.cwd
  explicitEnv : readEnv scan.env = .ok submission.explicitEnv
  inheritEnv : submission.inheritEnv = scan.inheritEnv
  captureExtra : submission.captureExtra = scan.captureEnv

theorem readCommand_eq_ok {rest argv : List ByteString} (read : readCommand rest = .ok argv) :
    rest = separator :: argv ∧ argv ≠ [] := by
  cases rest with
  | nil => cases read
  | cons =>
    obtain ⟨marked, read⟩ := guard_bind_eq_ok.mp read
    obtain ⟨some, read⟩ := guard_bind_eq_ok.mp read
    cases read
    exact ⟨by rw [not_not.mp marked], some⟩

theorem buildSubmission_eq_ok (built : buildSubmission host scan = .ok submission) :
    submission.ReadFrom host scan ∧ scan.rest = separator :: submission.submit.argv ∧
      submission.submit.argv ≠ [] := by
  obtain ⟨_, _, built⟩ := bind_eq_ok.mp built
  obtain ⟨_, built⟩ := guard_bind_eq_ok.mp built
  obtain ⟨_, built⟩ := guard_bind_eq_ok.mp built
  obtain ⟨_, built⟩ := unit_bind_eq_ok.mp built
  obtain ⟨_, built⟩ := unit_bind_eq_ok.mp built
  obtain ⟨_, atEnv, built⟩ := bind_eq_ok.mp built
  obtain ⟨_, atArgv, built⟩ := bind_eq_ok.mp built
  obtain ⟨cwd, atCwd, built⟩ := bind_eq_ok.mp built
  have directory : workingDirectoryOf host scan = some cwd := require_eq_ok.mp atCwd
  split at built
  · cases built
  · obtain ⟨_, _, built⟩ := bind_eq_ok.mp built
    obtain ⟨_, _, built⟩ := bind_eq_ok.mp built
    cases built
    exact ⟨⟨rfl, rfl, rfl, directory, atEnv, rfl, rfl⟩, readCommand_eq_ok atArgv⟩

theorem submitStages_plain : ∀ stage ∈ submitStages, stage.name ≠ separator := by
  simp only [submitStages, forall_mem_cons, not_mem_nil, false_imp_iff, implies_true, and_true, Stage.name]
  decide

/-- The steps of the scan spare the command if no option with a value has a word behind it there, and
`--inherit-env` was given before or is not there. -/
theorem spares_iff (command : List ByteString) :
    (∀ step ∈ submitStages.zip scan.found, step.1.Spares step.2 command) ↔
      (∀ option ∈ valueOptions, option ∉ command.dropLast) ∧
        (scan.inheritEnv = true ∨ inheritEnvOption ∉ command) := by
  have given : (if scan.inheritEnv then [inheritEnvOption] else []) ≠ [] ↔ scan.inheritEnv = true := by
    cases scan.inheritEnv <;> simp
  simp only [submitStages, SubmitScan.found, valueOptions, zip_cons_cons, zip_nil_right,
    forall_mem_cons, not_mem_nil, false_imp_iff, implies_true, and_true, Stage.Spares, given]
  constructor
  · rintro ⟨gpus, gpu, anyOf, preferred, logdir, cwd, capture, inherit, env⟩
    exact ⟨⟨gpus, gpu, anyOf, preferred, logdir, cwd, capture, env⟩, inherit⟩
  · rintro ⟨⟨gpus, gpu, anyOf, preferred, logdir, cwd, capture, env⟩, inherit⟩
    exact ⟨gpus, gpu, anyOf, preferred, logdir, cwd, capture, inherit, env⟩

theorem Submission.ReadFrom.of_found (read : submission.ReadFrom host scan) (same : scan.found = other.found) :
    submission.ReadFrom host other := by
  have equal : { scan with rest := other.rest } = other := SubmitScan.eq_of_found same rfl
  rw [← equal]
  exact ⟨read.gpuSpec, read.gpuPreferredSpec, read.tensorboardLogdir, read.cwd, read.explicitEnv, read.inheritEnv,
    read.captureExtra⟩

/-- A submission that is built has the words behind the first separator for its command, and its options
from the words before it, exactly when the options are used up without taking the separator and no scan
reaches into the command. -/
theorem command_verbatim_iff (host : SubmitHost) (options command : List ByteString) (submission : Submission)
    (clean : separator ∉ options) (built : commandSubmit host (options ++ separator :: command) = .ok submission) :
    (submission.submit.argv = command ∧ submission.ReadFrom host (scanSubmit (options ++ [separator]))) ↔
      (scanSubmit (options ++ [separator])).rest = [separator] ∧
        (∀ option ∈ valueOptions, option ∉ command.dropLast) ∧
          ((scanSubmit (options ++ [separator])).inheritEnv = true ∨ inheritEnvOption ∉ command) := by
  obtain ⟨read, rest, _⟩ := buildSubmission_eq_ok built
  rw [← spares_iff, ← scanAll_rest, ← scanAll_values, ← scanAll_append_iff submitStages_plain clean, scanAll_rest]
  constructor
  · rintro ⟨same, _⟩
    rw [rest, same]
  · intro kept
    have same := rest.symm.trans kept
    refine ⟨(List.cons.inj same).2, read.of_found ?_⟩
    rw [← scanAll_rest] at kept
    rw [← scanAll_values, ← scanAll_values]
    exact scanAll_found submitStages_plain clean kept

/-- A host on which every command is found. -/
def plainHost : SubmitHost :=
  { workingDirectory := some (ascii "/home/ana"), environ := [], access := fun _ => .granted
    pythonVersion := fun _ => none }

theorem exists_built {arguments : List ByteString} (accepted : (commandSubmit host arguments).isOk = true) :
    ∃ submission, commandSubmit host arguments = .ok submission := by
  cases built : commandSubmit host arguments with
  | error =>
    rw [built] at accepted
    cases accepted
  | ok submission => exact ⟨submission, rfl⟩

theorem command_verbatim_training :
    ∃ submission, commandSubmit plainHost ([ascii "--cwd", ascii "/data"] ++ separator ::
        [ascii "python", ascii "train.py", ascii "--epochs"]) = .ok submission ∧
      submission.submit.argv = [ascii "python", ascii "train.py", ascii "--epochs"] := by
  obtain ⟨submission, built⟩ : ∃ submission, commandSubmit plainHost ([ascii "--cwd", ascii "/data"] ++ separator ::
      [ascii "python", ascii "train.py", ascii "--epochs"]) = .ok submission := exists_built (by decide +kernel)
  have verbatim := command_verbatim_iff plainHost _ _ submission (by decide +kernel) built
  exact ⟨submission, built, (verbatim.mpr (by decide +kernel)).1⟩

/-- The option of the user's own program is taken for one of the client. -/
theorem command_not_verbatim :
    ∃ submission, commandSubmit plainHost
        ([] ++ separator :: [ascii "python", ascii "train.py", ascii "--cwd", ascii "/data"]) = .ok submission ∧
      submission.submit.argv = [ascii "python", ascii "train.py"] ∧ submission.submit.cwd = ascii "/data" := by
  obtain ⟨submission, built⟩ : ∃ submission, commandSubmit plainHost
      ([] ++ separator :: [ascii "python", ascii "train.py", ascii "--cwd", ascii "/data"]) = .ok submission :=
    exists_built (by decide +kernel)
  obtain ⟨read, rest, _⟩ := buildSubmission_eq_ok built
  have left : (scanSubmit ([] ++ separator :: [ascii "python", ascii "train.py", ascii "--cwd", ascii "/data"])).rest =
      separator :: [ascii "python", ascii "train.py"] := by decide +kernel
  have directory : workingDirectoryOf plainHost (scanSubmit ([] ++ separator ::
      [ascii "python", ascii "train.py", ascii "--cwd", ascii "/data"])) = some (ascii "/data") := by decide +kernel
  exact ⟨submission, built, (List.cons.inj (rest.symm.trans left)).2, Option.some.inj (read.cwd.symm.trans directory)⟩

end Yori
