import Yori.Launch.Capture

/-! The commands that the client finds, as the daemon checks them. -/

namespace Yori
open ByteString JobSpecLimits

/-- What `job::validate` asks of an executable. -/
def Submittable (path : ByteString) : Prop :=
  ¬(path.isEmpty || path.length > maxExecutableBytes || containsNul path || !absolute path) = true

/-- The segments in which a bare name is looked for. -/
def pathSegments (capturedEnv : SortedMap ByteString ByteString) : List ByteString :=
  let path := match capturedEnv.find? (ascii "PATH") with
    | some (byte :: bytes) => byte :: bytes
    | _ => ascii "/usr/bin:/bin"
  (path.splitOn colon).filter (· ≠ [])

section

variable (access : ByteString → Access) (argv0 cwd : ByteString) (capturedEnv : SortedMap ByteString ByteString)

/-- A name that is looked up at all. -/
def Nameable : Prop := argv0 ≠ [] ∧ containsNul argv0 = false ∧ argv0.length ≤ maxExecutableBytes

/-- The directory that a name is joined to, if it is: the working directory for a relative path, and for a bare name
the first segment where it is executable. -/
def searchedDirectory : Option ByteString :=
  if argv0.contains slash then if absolute argv0 then none else some cwd
  else (pathSegments capturedEnv).find? fun segment => access (joinPath segment argv0) = .granted

/-- The bare name was found in the first segment where it is executable. -/
def FoundFirst (path : ByteString) : Prop :=
  ∃ before segment after, pathSegments capturedEnv = before ++ segment :: after ∧ path = joinPath segment argv0 ∧
    access (joinPath segment argv0) = .granted ∧ ∀ earlier ∈ before, access (joinPath earlier argv0) ≠ .granted

/-- A directory whose join with the name can be submitted. -/
def Suitable (directory : ByteString) : Prop :=
  absolute directory = true ∧ containsNul directory = false ∧
    (joinPath directory argv0).length ≤ maxExecutableBytes

end

variable {access : ByteString → Access} {argv0 cwd path directory : ByteString}
  {capturedEnv : SortedMap ByteString ByteString}

theorem resolvePath_eq_ok : resolvePath access path = .ok directory ↔ directory = path ∧ access path = .granted := by
  unfold resolvePath probeCandidate
  cases access path with
  | granted => simp [eq_comm]
  | denied | failed => simp

/-- A lookup that succeeds ends at the name itself, if it is absolute, or at its join with the directory searched. -/
theorem resolveExecutable_eq_ok (rooted : absolute cwd = true) :
    resolveExecutable access argv0 cwd capturedEnv = .ok path ↔ Nameable argv0 ∧ access path = .granted ∧
      ((argv0.contains slash = true ∧ absolute argv0 = true ∧ path = argv0) ∨
        ∃ directory, searchedDirectory access argv0 cwd capturedEnv = some directory ∧
          path = joinPath directory argv0) := by
  have nameable : Nameable argv0 ↔ ¬argv0.isEmpty = true ∧
      ¬(containsNul argv0 || argv0.length > maxExecutableBytes) = true := by
    simp [Nameable]
  rw [resolveExecutable, nameable, searchedDirectory]
  split
  · simp_all
  · split
    · simp_all
    · rename_i filled plain
      by_cases slashed : argv0.contains slash = true
      · rw [if_pos slashed, if_pos slashed]
        by_cases own : absolute argv0 = true
        · rw [if_pos own, if_pos own, resolvePath_eq_ok]
          constructor
          · rintro ⟨rfl, granted⟩
            exact ⟨⟨filled, plain⟩, granted, .inl ⟨slashed, own, rfl⟩⟩
          · rintro ⟨_, granted, ⟨_, _, rfl⟩ | ⟨_, none, _⟩⟩
            · exact ⟨rfl, granted⟩
            · cases none
        · rw [if_neg own, if_neg own, if_neg (by simp [rooted]), resolvePath_eq_ok]
          constructor
          · rintro ⟨rfl, granted⟩
            exact ⟨⟨filled, plain⟩, granted, .inr ⟨cwd, rfl, rfl⟩⟩
          · rintro ⟨_, granted, ⟨_, other, _⟩ | ⟨_, same, rfl⟩⟩
            · exact absurd other own
            · cases same
              exact ⟨rfl, granted⟩
      · rw [if_neg slashed, if_neg slashed]
        change (match ((pathSegments capturedEnv).map (joinPath · argv0)).find? fun candidate =>
            access candidate = .granted with
          | some candidate => Except.ok candidate
          | none => Except.error (ExecutableResolveError.mk .notFound (ascii "command not found in captured PATH")))
              = _ ↔ _
        have lookup : (((pathSegments capturedEnv).map (joinPath · argv0)).find? fun candidate =>
            access candidate = .granted) = ((pathSegments capturedEnv).find? fun segment =>
            access (joinPath segment argv0) = .granted).map (joinPath · argv0) := List.find?_map ..
        rw [lookup]
        cases found : (pathSegments capturedEnv).find? fun segment => access (joinPath segment argv0) = .granted with
        | none =>
          constructor
          · intro same
            cases same
          · rintro ⟨_, _, ⟨other, _⟩ | ⟨_, none, _⟩⟩
            · exact absurd other slashed
            · cases none
        | some directory =>
          have granted : access (joinPath directory argv0) = .granted := by
            simpa using List.find?_some found
          constructor
          · intro same
            cases same
            exact ⟨⟨filled, plain⟩, granted, .inr ⟨directory, rfl, rfl⟩⟩
          · rintro ⟨_, _, ⟨other, _⟩ | ⟨_, same, rfl⟩⟩
            · exact absurd other slashed
            · cases same
              rfl

theorem containsNul_joinPath (name : ByteString) :
    containsNul (joinPath directory name) = (containsNul directory || containsNul name) := by
  unfold joinPath containsNul
  split <;> simp [slash, nul]

theorem submittable_joinPath (nameable : Nameable argv0) (some : directory ≠ []) :
    Submittable (joinPath directory argv0) ↔ Suitable argv0 directory := by
  obtain ⟨byte, bytes, rfl⟩ := List.exists_cons_of_ne_nil some
  have same : absolute (joinPath (byte :: bytes) argv0) = absolute (byte :: bytes) := by
    unfold joinPath
    split <;> rfl
  have filled : (joinPath (byte :: bytes) argv0).isEmpty = false := by
    unfold joinPath
    split <;> rfl
  rw [Submittable, Suitable, containsNul_joinPath, same, filled, nameable.2.1]
  simp
  tauto

theorem mem_pathSegments {segment : ByteString} (member : segment ∈ pathSegments capturedEnv) : segment ≠ [] := by
  simpa using (List.mem_filter.mp member).2

/-- Whatever is found can be submitted, and a bare name is found in the first segment where it is executable, exactly
when the directory that was searched is absolute, has no NUL byte and is short enough. -/
theorem resolved_submittable_iff (access : ByteString → Access) (argv0 cwd : ByteString)
    (capturedEnv : SortedMap ByteString ByteString) (rooted : absolute cwd = true) :
    (∀ path, resolveExecutable access argv0 cwd capturedEnv = .ok path →
      Submittable path ∧ (argv0.contains slash = false → FoundFirst access argv0 capturedEnv path)) ↔
      (Nameable argv0 → ∀ directory, searchedDirectory access argv0 cwd capturedEnv = some directory →
        access (joinPath directory argv0) = .granted → Suitable argv0 directory) := by
  have searched : ∀ directory, searchedDirectory access argv0 cwd capturedEnv = some directory → directory ≠ [] := by
    intro directory found
    rw [searchedDirectory] at found
    split at found
    · split at found
      · cases found
      · cases found
        rintro rfl
        cases rooted
    · exact mem_pathSegments (List.mem_of_find?_eq_some found)
  constructor
  · intro each nameable directory found granted
    have resolved := (resolveExecutable_eq_ok rooted).mpr ⟨nameable, granted, .inr ⟨directory, found, rfl⟩⟩
    exact (submittable_joinPath nameable (searched directory found)).mp (each _ resolved).1
  · intro suitable path resolved
    obtain ⟨nameable, granted, ⟨slashed, own, rfl⟩ | ⟨directory, found, rfl⟩⟩ :=
      (resolveExecutable_eq_ok rooted).mp resolved
    · refine ⟨?_, fun bare => by rw [slashed] at bare; cases bare⟩
      obtain ⟨some, clean, short⟩ := nameable
      simp [Submittable, some, clean, short, own]
    · refine ⟨(submittable_joinPath nameable (searched directory found)).mpr
        (suitable nameable directory found granted), ?_⟩
      intro bare
      rw [searchedDirectory, if_neg (Bool.eq_false_iff.mp bare)] at found
      obtain ⟨executable, before, after, same, earlier⟩ := List.find?_eq_some_iff_append.mp found
      refine ⟨before, directory, after, same, rfl, of_decide_eq_true executable, ?_⟩
      intro other member
      simpa using earlier other member

/-- The client looks for a tool in a relative segment first. -/
def relativePath : SortedMap ByteString ByteString := .insert .empty (ascii "PATH") (ascii "bin:/usr/bin")

/-- What is found in a relative segment is no path that the daemon takes. -/
theorem resolved_relative : resolveExecutable (fun _ => .granted) (ascii "tool") (ascii "/home") relativePath =
    .ok (ascii "bin/tool") ∧ ¬Submittable (ascii "bin/tool") := by
  unfold Submittable
  decide

theorem resolved_submittable_iff_absolute :
    let resolved := resolveExecutable (fun _ => .granted) (ascii "tool") (ascii "/home") .empty
    resolved = .ok (ascii "/usr/bin/tool") ∧ ∀ path, resolved = .ok path → Submittable path ∧
      ((ascii "tool").contains slash = false → FoundFirst (fun _ => .granted) (ascii "tool") .empty path) := by
  refine ⟨by decide, (resolved_submittable_iff _ _ _ _ (by decide)).mpr fun _ directory found _ => ?_⟩
  have same : searchedDirectory (fun _ => .granted) (ascii "tool") (ascii "/home") .empty =
    some (ascii "/usr/bin") := by
    decide
  cases found.symm.trans same
  exact ⟨by decide, by decide, by decide⟩

end Yori
