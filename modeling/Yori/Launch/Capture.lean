import Yori.Launch.Adapter

/-! The execution context that the client takes along at submission. -/

namespace Yori
open ByteString JobSpecLimits

structure EnvironmentCapturePolicy where
  extraKeys : List ByteString := []
  inheritAll : Bool := false

namespace EnvironmentCapturePolicy

def defaultKeys : List ByteString :=
  [ascii "CONDA_DEFAULT_ENV", ascii "CONDA_PREFIX", ascii "CUDA_HOME", ascii "CUDA_PATH", ascii "HTTP_PROXY",
    ascii "HTTPS_PROXY", ascii "LD_LIBRARY_PATH", ascii "MKL_NUM_THREADS", ascii "NO_PROXY", ascii "OMP_NUM_THREADS",
    ascii "PATH", ascii "PYTHONPATH", ascii "VIRTUAL_ENV", ascii "http_proxy", ascii "https_proxy"]

/-- The keys of the daemon are never captured, whatever the policy. -/
def captures (policy : EnvironmentCapturePolicy) (name : ByteString) : Bool :=
  if isReservedEnvironmentKey name then false
  else policy.inheritAll || name == ascii "no_proxy" || defaultKeys.contains name || policy.extraKeys.contains name

end EnvironmentCapturePolicy

inductive EnvironmentCaptureErrorCode
  | invalidName | tooManyVariables | valueTooLong | tooLarge
deriving Repr

def EnvironmentCaptureErrorCode.toString : EnvironmentCaptureErrorCode → ByteString
  | .invalidName => .ascii "invalid environment name in source"
  | .tooManyVariables => .ascii "captured environment exceeds the variable count limit"
  | .valueTooLong => .ascii "captured environment value exceeds the single value limit"
  | .tooLarge => .ascii "captured environment exceeds the total size limit"

structure EnvironmentCaptureError where
  code : EnvironmentCaptureErrorCode
  offendingName : ByteString

/-- One entry of the source. Entries that could not be variables are passed over. -/
def captureEntry (policy : EnvironmentCapturePolicy) (captured : SortedMap ByteString ByteString × Nat)
    (entry : EnvironmentEntry) : Except EnvironmentCaptureError (SortedMap ByteString ByteString × Nat) :=
  let (env, totalBytes) := captured
  let (name, value) := entry
  let entryBytes := name.length + value.length
  if !policy.captures name || !LaunchPlan.isValidEnvironmentName name then .ok captured
  else if env.size ≥ maxEnvironmentVariables then .error ⟨.tooManyVariables, name⟩
  else if value.length > maxEnvironmentValueBytes then .error ⟨.valueTooLong, name⟩
  else if entryBytes > maxEnvironmentBytes ∨
      totalBytes > maxEnvironmentBytes - entryBytes then .error ⟨.tooLarge, name⟩
  else .ok (env.emplace name value, totalBytes + entryBytes)

def captureEnvironment (source : List EnvironmentEntry) (policy : EnvironmentCapturePolicy) :
    Except EnvironmentCaptureError (SortedMap ByteString ByteString) := do
  return (← source.foldlM (captureEntry policy) (.empty, 0)).1

inductive ExecutableResolveErrorCode
  | emptyName | invalidName | relativeWithoutCwd | notFound | notExecutable
deriving DecidableEq, Repr

def ExecutableResolveErrorCode.toString : ExecutableResolveErrorCode → ByteString
  | .emptyName => .ascii "empty command name"
  | .invalidName => .ascii "invalid command name"
  | .relativeWithoutCwd => .ascii "relative command requires a working directory"
  | .notFound => .ascii "executable not found"
  | .notExecutable => .ascii "target is not executable"

structure ExecutableResolveError where
  code : ExecutableResolveErrorCode
  message : ByteString
deriving DecidableEq

/-- What `access(2)` says about a path that is to be executed. -/
inductive Access
  | granted | denied | failed
deriving DecidableEq, Repr

section
variable (access : ByteString → Access)

def probeCandidate (candidate : ByteString) : Except ExecutableResolveErrorCode Unit :=
  match access candidate with
  | .granted => .ok ()
  | .denied => .error .notExecutable
  | .failed => .error .notFound

/-- A directory and a name in it. -/
def joinPath (directory name : ByteString) : ByteString :=
  if directory.getLast? = some slash then directory ++ name else directory ++ slash :: name

def colon : UInt8 := 58

def resolvePath (candidate : ByteString) : Except ExecutableResolveError ByteString :=
  match probeCandidate access candidate with
  | .ok () => .ok candidate
  | .error code => .error ⟨code, code.toString⟩

def resolveExecutable (argv0 cwd : ByteString) (capturedEnv : SortedMap ByteString ByteString) :
    Except ExecutableResolveError ByteString :=
  if argv0.isEmpty then .error ⟨.emptyName, ascii "argv[0] is empty"⟩
  else if containsNul argv0 || argv0.length > maxExecutableBytes then
    .error ⟨.invalidName, ascii "argv[0] is invalid"⟩
  else if argv0.contains slash then
    if absolute argv0 then resolvePath access argv0
    else if !absolute cwd then .error ⟨.relativeWithoutCwd, ascii "cwd must be absolute"⟩
    else resolvePath access (joinPath cwd argv0)
  else
    let path := match capturedEnv.find? (ascii "PATH") with
      | some (byte :: bytes) => byte :: bytes
      | _ => ascii "/usr/bin:/bin"
    let candidates := ((path.splitOn colon).filter (· ≠ [])).map (joinPath · argv0)
    match candidates.find? fun candidate => access candidate = .granted with
    | some candidate => .ok candidate
    | none => .error ⟨.notFound, ascii "command not found in captured PATH"⟩

end

def detectEnvironmentSource (capturedEnv : SortedMap ByteString ByteString) : EnvSource :=
  if capturedEnv.contains (ascii "CONDA_PREFIX") then .conda
  else if capturedEnv.contains (ascii "VIRTUAL_ENV") then .venv
  else .none

end Yori
