import Yori.Decimal
import Yori.Ipc.Protocol
import Yori.Launch.Capture
import Yori.Library.FlagScan

/-! How the client reads the arguments of `yori submit` and builds the request. -/

namespace Yori
open Checked ByteString

namespace CommandLine

/-- `take_flag` in a loop: the values in the order they were found, and the arguments that are left. -/
def takeFlags (name : ByteString) (arguments : List ByteString) : List ByteString × List ByteString :=
  FlagScan.takeFlags name arguments.length arguments

def takeBoolFlag (name : ByteString) (arguments : List ByteString) : Bool × List ByteString :=
  FlagScan.takeSwitch name arguments

end CommandLine

/-- What the scans find, and the arguments that they leave. -/
structure SubmitScan where
  gpus : List ByteString
  gpu : List ByteString
  gpuAnyOf : List ByteString
  gpuPreferred : List ByteString
  tensorboardLogdir : List ByteString
  cwd : List ByteString
  captureEnv : List ByteString
  inheritEnv : Bool
  env : List ByteString
  rest : List ByteString

/-- The scans of `command_submit` in their order. Each one searches all that the earlier ones left. -/
def scanSubmit (arguments : List ByteString) : SubmitScan :=
  let gpus := CommandLine.takeFlags (ascii "--gpus") arguments
  let gpu := CommandLine.takeFlags (ascii "--gpu") gpus.2
  let gpuAnyOf := CommandLine.takeFlags (ascii "--gpu-any-of") gpu.2
  let gpuPreferred := CommandLine.takeFlags (ascii "--gpu-preferred") gpuAnyOf.2
  let tensorboardLogdir := CommandLine.takeFlags (ascii "--tensorboard-logdir") gpuPreferred.2
  let cwd := CommandLine.takeFlags (ascii "--cwd") tensorboardLogdir.2
  let captureEnv := CommandLine.takeFlags (ascii "--capture-env") cwd.2
  let inheritEnv := CommandLine.takeBoolFlag (ascii "--inherit-env") captureEnv.2
  let env := CommandLine.takeFlags (ascii "--env") inheritEnv.2
  { gpus := gpus.1, gpu := gpu.1, gpuAnyOf := gpuAnyOf.1, gpuPreferred := gpuPreferred.1,
    tensorboardLogdir := tensorboardLogdir.1, cwd := cwd.1, captureEnv := captureEnv.1, inheritEnv := inheritEnv.1,
    env := env.1, rest := env.2 }

/-- What the process knows besides its arguments. -/
structure SubmitHost where
  workingDirectory : Option ByteString
  environ : List ByteString
  access : ByteString → Access
  pythonVersion : ByteString → Option ByteString

/-- The request, and what was read for it and is not a field of it. -/
structure Submission where
  submit : IpcSubmitRequest
  explicitEnv : SortedMap ByteString ByteString
  inheritEnv : Bool
  captureExtra : List ByteString

/-- `strtoul` in base 10 on a whole text: blanks, a sign, digits. Too large a number sets `errno`. -/
def strtoul (text : ByteString) : Option Nat :=
  let trimmed := (text.takeWhile (· ≠ nul)).dropWhile fun byte => byte == 32 || (9 ≤ byte && byte ≤ 13)
  let (negative, digits) := match trimmed with
    | 45 :: rest => (true, rest)
    | 43 :: rest => (false, rest)
    | rest => (false, rest)
  if digits.isEmpty || !digits.all digit || decimal digits ≥ 2 ^ 64 then none
  else some (if negative then (2 ^ 64 - decimal digits) % 2 ^ 64 else decimal digits)

/-- The last value of `--gpus` decides. -/
def readGpus (values : List ByteString) : Except ByteString UInt32 :=
  values.foldlM (fun _ value => do
    return UInt32.ofNat (← require (strtoul value) (ascii "yori: --gpus expects a number\n"))) 1

/-- The first check of a device that a user names: a number or what could be a UUID. -/
def deviceLike (entry : ByteString) : Bool :=
  let numeric := !entry.isEmpty && entry.all digit
  let uuidLike := !entry.isEmpty && entry.length ≤ GpuUuid.maxBytes && !containsNul entry
  numeric || uuidLike

/-- `--gpu` gives one device and `--gpu-any-of` adds to the list. -/
def gpuSpecOf (scan : SubmitScan) : Option ByteString :=
  scan.gpuAnyOf.foldl (fun spec value => some (match spec with
    | some before => before ++ deviceComma :: value
    | none => value)) scan.gpu.getLast?

def checkGpuSpec (gpusExplicit : Bool) : Option ByteString → Except ByteString Unit
  | none => .ok ()
  | some spec => do
    rejectIf gpusExplicit (ascii "yori: --gpu and --gpus are mutually exclusive\n")
    rejectIf (spec.count deviceComma + 1 > JobSpecLimits.maxPlacementDevices)
      (ascii "yori: --gpu/--gpu-any-of accepts at most 8 devices\n")
    rejectIf (!(spec.splitOn deviceComma).all deviceLike)
      (ascii "yori: --gpu/--gpu-any-of expects GPU indexes or UUIDs\n")

def checkGpuPreferred (gpusExplicit : Bool) : Option ByteString → Except ByteString Unit
  | none => .ok ()
  | some spec => do
    rejectIf gpusExplicit (ascii "yori: --gpu-preferred and --gpus are mutually exclusive\n")
    rejectIf (!deviceLike spec) (ascii "yori: --gpu-preferred expects a GPU index or UUID\n")

/-- A name and what follows its first equals sign. -/
def splitEntry (entry : ByteString) : Option EnvironmentEntry :=
  match entry.idxOf? equalsSign with
  | none | some 0 => none
  | some index => some (entry.take index, entry.drop (index + 1))

def readEnv (values : List ByteString) : Except ByteString (SortedMap ByteString ByteString) :=
  values.foldlM (fun env value => do
    let entry ← require (splitEntry value) (ascii "yori: --env expects K=V\n")
    return env.insert entry.1 entry.2) .empty

def separator : ByteString := ascii "--"

def readCommand : List ByteString → Except ByteString (List ByteString)
  | [] => .error (ascii "yori: submit requires '--' before the command\n")
  | first :: argv => do
    rejectIf (first ≠ separator) (ascii "yori: submit requires '--' before the command\n")
    rejectIf (argv = []) (ascii "yori: submit requires a command after '--'\n")
    return argv

def workingDirectoryOf (host : SubmitHost) (scan : SubmitScan) : Option ByteString :=
  match scan.cwd.getLast? with
  | some (byte :: bytes) => some (byte :: bytes)
  | _ => host.workingDirectory

def captureMessage (inheritEnv : Bool) (error : EnvironmentCaptureError) : ByteString :=
  ascii "yori: captured environment rejected: " ++ error.code.toString ++ ascii " (" ++ error.offendingName ++
    ascii ")" ++ (if inheritEnv then
      ascii "; --inherit-env collects the full environment, unset what is not needed" else []) ++ ascii "\n"

def resolveMessage (argv0 : ByteString) (error : ExecutableResolveError) : ByteString :=
  ascii "yori: cannot resolve command '" ++ argv0 ++ ascii "': " ++ error.code.toString ++
    (if error.message.isEmpty then [] else ascii ": ") ++ error.message ++ ascii "\n"

/-- The checks and the request, from what the scans found. An error is the line that goes to the
standard error stream. -/
def buildSubmission (host : SubmitHost) (scan : SubmitScan) : Except ByteString Submission := do
  let gpus ← readGpus scan.gpus
  let gpusExplicit := !scan.gpus.isEmpty
  rejectIf (gpus ≠ 1) (ascii "yori: only 1 GPU per job is supported in MVP\n")
  let gpuSpec := gpuSpecOf scan
  let gpuPreferredSpec := scan.gpuPreferred.getLast?
  rejectIf (gpuSpec.isSome ∧ gpuPreferredSpec.isSome)
    (ascii "yori: --gpu/--gpu-any-of and --gpu-preferred are mutually exclusive\n")
  checkGpuSpec gpusExplicit gpuSpec
  checkGpuPreferred gpusExplicit gpuPreferredSpec
  let explicitEnv ← readEnv scan.env
  let argv ← readCommand scan.rest
  let cwd ← require (workingDirectoryOf host scan) (ascii "yori: cannot determine working directory\n")
  match explicitEnv.entries.find? fun entry => isReservedEnvironmentKey entry.1 with
  | some (name, _) => throw (ascii "yori: --env may not set reserved key " ++ name ++ ascii "\n")
  | none =>
    let policy : EnvironmentCapturePolicy := { inheritAll := scan.inheritEnv, extraKeys := scan.captureEnv }
    let captured ← (captureEnvironment (host.environ.filterMap splitEntry) policy).mapError
      (captureMessage scan.inheritEnv)
    let env := captured.insertAll explicitEnv.entries
    let executable ← (resolveExecutable host.access (argv.headD []) cwd env).mapError (resolveMessage (argv.headD []))
    return {
      submit := {
        argv, cwd, env, gpuSpec, gpuPreferredSpec
        gpuRequest := 1
        tensorboardLogdir := scan.tensorboardLogdir.getLast?
        executable := some executable
        envMetadata := some {
          source := (detectEnvironmentSource env).wire
          pythonVersion := host.pythonVersion executable } }
      explicitEnv
      inheritEnv := scan.inheritEnv
      captureExtra := scan.captureEnv }

/-- `command_submit` up to the call of the daemon. The source has the checks between the scans, which do not
depend on them. -/
def commandSubmit (host : SubmitHost) (arguments : List ByteString) : Except ByteString Submission :=
  buildSubmission host (scanSubmit arguments)

end Yori
