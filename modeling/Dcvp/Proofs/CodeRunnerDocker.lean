import Dcvp.Proofs.JudgeResults
import Dcvp.Services.CodeRunnerDocker

/-!
# `Dcvp.Proofs.CodeRunnerDocker`: what the judge does on the host

Two results about a call of the judge, whatever the host answers.

`judge_confines_code`: the judge starts nothing but containers, at most one for each test case and
in their order. Each is confined as `Confined` says, reads one file, and has a timeout. What
`docker` makes of its arguments is `dockerRunOptions`, a table of its options. No directory is left
behind, unless removing it has failed, and then the call has failed too.

`judge_verdict`: a test has passed exactly when its container has ended well and has written what
was expected, up to line ends and outer white space. So a submission succeeds exactly when that
holds of every test case.

One run is `runInDocker_spec`, the loop over the test cases `runTestCasesOn_spec`.
-/

set_option autoImplicit false

namespace Dcvp.Proofs

open Dcvp.Lib
open Dcvp.Shared
open Dcvp.Services
open Dcvp.Services.PlatformStore

/-! ### What `docker` reads -/

/-- Flags of `docker run`. -/
def dockerRunFlags : List String :=
  ["--rm", "--read-only", "-i", "--interactive", "-t", "--tty", "-d", "--detach", "--privileged",
    "--init", "-P", "--publish-all", "--oom-kill-disable"]

/-- Options of `docker run` with a value. -/
def dockerRunValues : List String :=
  ["--network", "--net", "--cap-drop", "--cap-add", "--security-opt", "-u", "--user", "--tmpfs",
    "-m", "--memory", "--cpus", "--pids-limit", "-v", "--volume", "--mount", "--volumes-from",
    "--device", "--pid", "--ipc", "--userns", "-p", "--publish", "-e", "--env", "-w", "--workdir",
    "--entrypoint", "--name", "--cgroup-parent", "--runtime"]

/-- The options of `docker run`. -/
def dockerRunOptions : OptionTable where
  takesValue name :=
    if name ∈ dockerRunFlags then some false
    else if name ∈ dockerRunValues then some true
    else none

/-- The container has no network and no capabilities, cannot write to its image, is not root, has
little memory, time and few processes. It sees the directory `workDir` of the host, read-only,
and no other one. -/
structure Confined (workDir : String) (settings : List Setting) : Prop where
  removed : .flag "--rm" ∈ settings
  readOnly : .flag "--read-only" ∈ settings
  network : ∀ name ∈ ["--network", "--net"], ∀ value,
    .value name value ∈ settings → value = "none"
  offline : .value "--network" "none" ∈ settings
  capabilities : .value "--cap-drop" "ALL" ∈ settings ∧
    ∀ value, .value "--cap-add" value ∉ settings
  privileges : .value "--security-opt" "no-new-privileges" ∈ settings ∧
    .flag "--privileged" ∉ settings
  user : .value "--user" "65534:65534" ∈ settings
  limits : .value "--memory" memoryLimit ∈ settings ∧ .value "--cpus" cpuLimit ∈ settings ∧
    .value "--pids-limit" "64" ∈ settings
  mounted : .value "-v" (workDir ++ ":/workspace:ro") ∈ settings
  mounts : ∀ name ∈ ["-v", "--volume", "--mount", "--volumes-from", "--device"], ∀ value,
    .value name value ∈ settings → value = workDir ++ ":/workspace:ro"

/-- The settings of `dockerArgs`. -/
def dockerSettings (workDir : String) : List Setting :=
  [.flag "--rm", .value "--network" "none", .flag "--read-only", .value "--cap-drop" "ALL",
    .value "--security-opt" "no-new-privileges", .value "--user" "65534:65534",
    .value "--tmpfs" "/tmp:rw,noexec,nosuid,nodev,size=16m", .value "--memory" memoryLimit,
    .value "--cpus" cpuLimit, .value "--pids-limit" "64", .flag "-i",
    .value "-v" (workDir ++ ":/workspace:ro"), .value "-w" "/workspace"]

/-- The settings that the runner passes confine the container. Each condition is one of the
settings. -/
theorem confined_dockerSettings (workDir : String) : Confined workDir (dockerSettings workDir) := by
  constructor <;> simp [dockerSettings]

/-- `docker` reads the settings, the image and the command, whatever the directory is. -/
theorem parse_dockerArgs (workDir : String) (runner : Runner)
    (code input expectedOutput : String) (remainingMs : Int) :
    let options := runnerOptions runner code input expectedOutput remainingMs
    ∃ args, dockerArgs workDir options = "run" :: args ∧
      dockerRunOptions.parse args = some (dockerSettings workDir, options.image :: options.command)
      := by
  intro options
  have himages : ∀ image ∈ ["node:20-alpine", "python:3.12-alpine"],
      dockerRunOptions.takesValue image = none ∧ ¬ "-".toList <+: image.toList := by decide
  have himage : options.image ∈ ["node:20-alpine", "python:3.12-alpine"] := by
    cases runner <;> simp [options, runnerOptions]
  have hsettings : ∀ setting ∈ dockerSettings workDir, dockerRunOptions.Admits setting := by
    intro setting hsetting
    simp only [dockerSettings, List.mem_cons, List.not_mem_nil, or_false] at hsetting
    rcases hsetting with
      rfl | rfl | rfl | rfl | rfl | rfl | rfl | rfl | rfl | rfl | rfl | rfl | rfl <;>
    · show dockerRunOptions.takesValue _ = _
      decide
  exact ⟨_, rfl, dockerRunOptions.parse_render hsettings (himages _ himage).1
    (himages _ himage).2 options.command⟩

/-! ### One run -/

/-- The process has ended well, and has written what was expected. -/
def AnsweredAs (expectedOutput : String) (process : StartedProcess) : Prop :=
  process.answer.error = none ∧
    normalizeOutput process.answer.stdout = normalizeOutput expectedOutput

/-- The image of a runner. -/
def runnerImage : Runner → String
  | .javaScript => "node:20-alpine"
  | .python => "python:3.12-alpine"

/-- The file with the program of a runner. -/
def runnerFile (code : String) : Runner → String × String
  | .javaScript => ("runner.js", javaScriptProgram code)
  | .python => ("runner.py", pythonProgram code)

/-- The program of a runner, and the path of its file in the container. -/
def runnerCommand (code : String) (runner : Runner) : List String :=
  [match runner with
    | .javaScript => "node"
    | .python => "python",
    "/workspace/" ++ (runnerFile code runner).1]

/-- A directory that `mkdtemp` has made for the test case with this index. It was not there before
the call, and when the process starts it holds the program and nothing else. -/
structure OwnDirectory (host : DockerHost) (earlier : HostState) (runner : Runner) (code : String)
    (process : StartedProcess) (workDir : String) : Prop where
  made : host.mkdtemp process.testCase = .ok workDir
  fresh : workDir ∉ earlier.directories.map Prod.fst
  files : filesIn process.directories workDir = [runnerFile code runner]

/-- A confined container of the runner, started by a call of the judge in the state `earlier`. What
it sees of the host is its own directory, and what it runs is the program in this directory. -/
structure ConfinedProcess (host : DockerHost) (earlier : HostState) (runner : Runner)
    (code : String) (process : StartedProcess) : Prop where
  file : process.file = "docker"
  reads : ∃ workDir args settings, OwnDirectory host earlier runner code process workDir ∧
    process.args = "run" :: args ∧
    dockerRunOptions.parse args =
      some (settings, runnerImage runner :: runnerCommand code runner) ∧
    Confined workDir settings
  timeout : 1 ≤ process.timeoutMs ∧ process.timeoutMs ≤ dockerTimeoutMs

/-- `mkdtemp` makes directories that were not there. -/
def MakesNewDirectories (host : DockerHost) (state : HostState) : Prop :=
  ∀ index directory, host.mkdtemp index = .ok directory →
    directory ∉ state.directories.map Prod.fst

section
variable {host : DockerHost} {earlier : HostState} (runner : Runner) (code : String)

/-- What a run starts: at most one process, confined, with the input of the test case; and the
result is that of the process. -/
def RunSpec (host : DockerHost) (earlier : HostState) (runner : Runner) (code : String)
    (index : Nat) (input expectedOutput : String) (processes : List StartedProcess)
    (run : Except ServiceException RunSingleResult × HostState) : Prop :=
  ∃ started, run.2.processes = processes ++ started ∧ started.length ≤ 1 ∧
    (∀ process ∈ started, process.testCase = index ∧
      ConfinedProcess host earlier runner code process ∧ process.input = input) ∧
    ∀ result, run.1 = .ok result →
      (result.passed = true ↔ ∃ process ∈ started, AnsweredAs expectedOutput process)

/-- A directory that was just made has the file that was written to it, and no other. -/
theorem filesIn_makeDirectory_writeFile (state : HostState) (directory name content : String) :
    filesIn ((state.makeDirectory directory).writeFile directory name content).directories
      directory = [(name, content)] := by
  simp [filesIn, HostState.makeDirectory, HostState.writeFile]

/-- The process of a run is confined to the directory that was made for it. -/
theorem confined_startedProcess (hnew : MakesNewDirectories host earlier) {index : Nat}
    {workDir : String} (hmade : host.mkdtemp index = .ok workDir) (input expectedOutput : String)
    (remainingMs : Int) (state : HostState) :
    let options := runnerOptions runner code input expectedOutput remainingMs
    ConfinedProcess host earlier runner code (startedProcess host index options workDir
      ((state.makeDirectory workDir).writeFile workDir options.fileName options.fileContent)) := by
  intro options
  -- The command line is read back by the parser of `docker`, and its settings are those that
  -- confine.
  obtain ⟨args, hargs, hparse⟩ :=
    parse_dockerArgs workDir runner code input expectedOutput remainingMs
  have himage : options.image :: options.command =
      runnerImage runner :: runnerCommand code runner := by cases runner <;> rfl
  have hfile : (options.fileName, options.fileContent) = runnerFile code runner := by
    cases runner <;> rfl
  have htimeout : options.timeoutMs = runTimeoutMs remainingMs := by cases runner <;> rfl
  constructor
  · rfl
  · refine ⟨workDir, args, _, ⟨hmade, hnew index workDir hmade, ?_⟩, hargs, ?_,
      confined_dockerSettings workDir⟩
    · rw [← hfile]
      exact filesIn_makeDirectory_writeFile state workDir _ _
    · rw [← himage]
      exact hparse
  · show 1 ≤ options.timeoutMs ∧ options.timeoutMs ≤ dockerTimeoutMs
    rw [htimeout]
    unfold runTimeoutMs dockerTimeoutMs
    omega

/-- A test has passed when the output is the expected one, up to the white space around it and the
form of its line ends. -/
theorem passed_comparedResult (host : DockerHost) (index : Nat) (options : DockerOptions)
    (stdout stderr : String) :
    (comparedResult host index options stdout stderr).passed = true ↔
      normalizeOutput stdout = normalizeOutput options.expectedOutput := by
  simp only [comparedResult, decide_eq_true_iff]

/-- A run in the directory that was made for it: the program is written to it, and at most one
confined process is started with the input. -/
theorem runInWorkDir_spec (hnew : MakesNewDirectories host earlier) {index : Nat}
    {workDir : String} (hmade : host.mkdtemp index = .ok workDir) (input expectedOutput : String)
    (remainingMs : Int) (state : HostState) :
    let run := runInWorkDir host index (runnerOptions runner code input expectedOutput remainingMs)
      workDir (state.makeDirectory workDir)
    RunSpec host earlier runner code index input expectedOutput state.processes
      (.ok run.1, run.2) := by
  have hconfined := confined_startedProcess runner code hnew hmade input
    expectedOutput remainingMs state
  have hinput : (runnerOptions runner code input expectedOutput remainingMs).input = input := by
    cases runner <;> rfl
  have hexpected : (runnerOptions runner code input expectedOutput remainingMs).expectedOutput
      = expectedOutput := by cases runner <;> rfl
  generalize runnerOptions runner code input expectedOutput remainingMs = options
    at hinput hexpected hconfined ⊢
  dsimp only at hconfined ⊢
  unfold runInWorkDir
  cases host.writeFile index with
  | some message =>
      -- Nothing is started when the file cannot be written.
      refine ⟨[], (List.append_nil _).symm, Nat.zero_le _, by simp, fun result h => ?_⟩
      cases h
      simp [caughtResult]
  | none =>
      dsimp only
      have hindex : (startedProcess host index options workDir ((state.makeDirectory
        workDir).writeFile workDir options.fileName options.fileContent)).testCase = index := rfl
      have hprocess : (startedProcess host index options workDir ((state.makeDirectory
        workDir).writeFile workDir options.fileName options.fileContent)).input = input := hinput
      generalize startedProcess host index options workDir
        ((state.makeDirectory workDir).writeFile workDir options.fileName options.fileContent)
        = process at hconfined hindex hprocess ⊢
      unfold execFileAsync
      cases hanswer : process.answer.error with
      | some message =>
          dsimp only
          refine ⟨[process], rfl, le_rfl, by simpa using ⟨hindex, hconfined, hprocess⟩, fun result h => ?_⟩
          cases h
          simp [caughtResult, AnsweredAs, hanswer]
      | none =>
          dsimp only
          refine ⟨[process], rfl, le_rfl, by simpa using ⟨hindex, hconfined, hprocess⟩, fun result h => ?_⟩
          rw [← Except.ok.inj h, passed_comparedResult, hexpected]
          simp [AnsweredAs, hanswer]

/-- A run with its directory, from `mkdtemp` to `rm`. Neither of the two starts a process. -/
theorem runInDocker_spec (hnew : MakesNewDirectories host earlier) (index : Nat)
    (input expectedOutput : String) (remainingMs : Int) (state : HostState) :
    RunSpec host earlier runner code index input expectedOutput state.processes
      (runInDocker host index (runnerOptions runner code input expectedOutput remainingMs)
        state) := by
  unfold runInDocker
  cases hmade : host.mkdtemp index with
  | error error => exact ⟨[], (List.append_nil _).symm, Nat.zero_le _, by simp, fun _ h => nomatch h⟩
  | ok workDir =>
      obtain ⟨started, hprocesses, hlength, hstarted, hpassed⟩ := runInWorkDir_spec
        runner code hnew hmade input expectedOutput remainingMs state
      dsimp only
      cases host.rm index with
      | some error => exact ⟨started, hprocesses, hlength, hstarted, fun _ h => nomatch h⟩
      | none => exact ⟨started, hprocesses, hlength, hstarted, hpassed⟩

/-- A directory is removed with what was written to it. -/
theorem removeDirectory_writeFile (state : HostState) (directory name content : String) :
    ((state.writeFile directory name content).removeDirectory directory).directories =
      (state.removeDirectory directory).directories := by
  unfold HostState.writeFile HostState.removeDirectory
  dsimp only
  induction state.directories with
  | nil => rfl
  | cons entry rest ih =>
      rw [List.map_cons]
      by_cases hentry : entry.1 = directory
      · rw [if_pos hentry, List.filter_cons_of_neg (by simpa using hentry),
          List.filter_cons_of_neg (by simpa using hentry), ih]
      · rw [if_neg hentry, List.filter_cons_of_pos (by simpa using hentry),
          List.filter_cons_of_pos (by simpa using hentry), ih]

/-- A new directory that is removed again leaves no trace. -/
theorem removeDirectory_makeDirectory {state : HostState} {directory : String}
    (hnew : directory ∉ state.directories.map Prod.fst) :
    ((state.makeDirectory directory).removeDirectory directory).directories =
      state.directories := by
  unfold HostState.makeDirectory HostState.removeDirectory
  dsimp only
  rw [List.filter_cons_of_neg (by simp), List.filter_eq_self]
  intro entry hentry
  have hne : entry.1 ≠ directory := fun heq => hnew (heq ▸ List.mem_map_of_mem hentry)
  simpa using hne

/-- A run leaves the directories as they were, unless removing its own has failed. -/
theorem directories_runInDocker (host : DockerHost) (index : Nat) (options : DockerOptions)
    {state : HostState} (hnew : MakesNewDirectories host state) :
    (runInDocker host index options state).2.directories = state.directories ∨
      ∃ error, host.rm index = some error ∧
        (runInDocker host index options state).1 = .error error := by
  unfold runInDocker
  cases hmade : host.mkdtemp index with
  | error error => exact Or.inl rfl
  | ok workDir =>
      dsimp only
      cases hrm : host.rm index with
      | some error => exact Or.inr ⟨error, rfl, rfl⟩
      | none =>
          refine Or.inl (Eq.trans ?_ (removeDirectory_makeDirectory (hnew index workDir hmade)))
          dsimp only
          unfold runInWorkDir
          cases host.writeFile index with
          | some message => rfl
          | none =>
              refine Eq.trans ?_ (removeDirectory_writeFile _ workDir options.fileName
                options.fileContent)
              dsimp only
              split <;> rfl

/-- What a run answers does not depend on the state of the host. -/
theorem outcome_runInDocker (host : DockerHost) (index : Nat) (options : DockerOptions)
    (state : HostState) :
    (runInDocker host index options state).1 = (runInDocker host index options {}).1 := by
  unfold runInDocker
  cases host.mkdtemp index with
  | error error => rfl
  | ok workDir =>
      dsimp only
      cases host.rm index with
      | some error => rfl
      | none =>
          unfold runInWorkDir
          cases host.writeFile index with
          | some message => rfl
          | none =>
              dsimp only [startedProcess]
              split <;> rfl

/-! ### The loop -/

/-- What the loop starts from this index on: processes for some of the test cases, in their
order. A result is that of the process of its test case. -/
def LoopSpec (host : DockerHost) (earlier : HostState) (runner : Runner) (code : String)
    (index : Nat) (testCases : List TestCase) (processes : List StartedProcess)
    (run : Except ServiceException (List RunSingleResult) × HostState) : Prop :=
  ∃ started, run.2.processes = processes ++ started ∧
    (started.map (·.testCase)).Pairwise (· < ·) ∧
    (∀ process ∈ started, index ≤ process.testCase ∧
      process.testCase < index + testCases.length ∧
      ConfinedProcess host earlier runner code process) ∧
    ∀ results, run.1 = .ok results → ∀ k testCase result, testCases[k]? = some testCase →
      results[k]? = some result →
      (result.passed = true ↔ ∃ process ∈ started, process.testCase = index + k ∧
        process.input = testCase.input ∧ AnsweredAs testCase.expectedOutput process)

/-- The loop over the test cases, by induction on them: the processes of the first test case come
before those of the others. -/
theorem runTestCasesOn_spec (hnew : MakesNewDirectories host earlier) (runner : Runner)
    (code : String) (deadlineAt : Int) (testCases : List TestCase) (index : Nat)
    (state : HostState) :
    LoopSpec host earlier runner code index testCases state.processes
      (runTestCasesOn host runner code deadlineAt index testCases state) := by
  induction testCases generalizing index state with
  | nil => exact ⟨[], (List.append_nil _).symm, List.Pairwise.nil, by simp, by simp⟩
  | cons testCase rest ih =>
      rw [runTestCasesOn]
      dsimp only
      split
      · -- Behind the deadline nothing is started, and no test has passed.
        refine ⟨[], (List.append_nil _).symm, List.Pairwise.nil, by simp, ?_⟩
        intro results h k own result _ hresult
        cases h
        obtain ⟨_, -, rfl⟩ := List.mem_map.mp (List.mem_of_getElem? hresult)
        simp [skippedResult]
      · obtain ⟨first, hfirst, hfew, hconfined, hpassed⟩ := runInDocker_spec runner code
          hnew index testCase.input testCase.expectedOutput
          (deadlineAt - host.now (index + 1)) state
        have hindex : ∀ process ∈ first, process.testCase = index := fun process hprocess =>
          (hconfined process hprocess).1
        have hfirstOnly : (first.map (·.testCase)).Pairwise (· < ·) := by
          match first, hfew with
          | [], _ => exact List.Pairwise.nil
          | [process], _ => exact List.pairwise_singleton _ _
        generalize runInDocker host index (runnerOptions runner code testCase.input
          testCase.expectedOutput (deadlineAt - host.now (index + 1))) state = run at hfirst hpassed
        obtain ⟨outcome, state'⟩ := run
        cases outcome with
        | error error =>
            refine ⟨first, hfirst, hfirstOnly, fun process hprocess => ?_, fun _ h => nomatch h⟩
            rw [hindex process hprocess]
            exact ⟨le_rfl, by simp, (hconfined process hprocess).2.1⟩
        | ok result =>
            obtain ⟨others, hothers, horder, hlater, hresults⟩ := ih (index + 1) state'
            have hbehind : ∀ process ∈ others, process.testCase ≠ index := fun process hprocess heq =>
              absurd (hlater process hprocess).1 (by omega)
            refine ⟨first ++ others, ?_, ?_, ?_, ?_⟩
            · show (runTestCasesOn host runner code deadlineAt (index + 1) rest state').2.processes
                = state.processes ++ (first ++ others)
              rw [hothers, ← List.append_assoc, ← hfirst]
            · rw [List.map_append, List.pairwise_append]
              refine ⟨hfirstOnly, horder, fun a ha b hb => ?_⟩
              obtain ⟨process, hprocess, rfl⟩ := List.mem_map.mp ha
              obtain ⟨other, hother, rfl⟩ := List.mem_map.mp hb
              rw [hindex process hprocess]
              exact (hlater other hother).1
            · intro process hprocess
              rw [List.length_cons]
              rcases List.mem_append.mp hprocess with hprocess | hprocess
              · rw [hindex process hprocess]
                exact ⟨le_rfl, by omega, (hconfined process hprocess).2.1⟩
              · obtain ⟨hlow, hhigh, hown⟩ := hlater process hprocess
                exact ⟨by omega, by omega, hown⟩
            · intro results h k own run hcase hrun
              dsimp only at h
              obtain ⟨tail, htail, rfl⟩ := map_eq_ok.mp h
              cases k with
              | zero =>
                  -- The first test case has the processes of its own run only.
                  cases hcase
                  cases hrun
                  rw [hpassed result rfl]
                  constructor
                  · rintro ⟨process, hprocess, hanswer⟩
                    exact ⟨process, List.mem_append_left _ hprocess, hindex process hprocess,
                      (hconfined process hprocess).2.2, hanswer⟩
                  · rintro ⟨process, hprocess, htest, -, hanswer⟩
                    rcases List.mem_append.mp hprocess with hprocess | hprocess
                    · exact ⟨process, hprocess, hanswer⟩
                    · exact absurd htest (hbehind process hprocess)
              | succ k =>
                  rw [hresults tail htail k own run hcase hrun]
                  have hshift : index + 1 + k = index + (k + 1) := by omega
                  rw [hshift]
                  constructor
                  · rintro ⟨process, hprocess, hanswer⟩
                    exact ⟨process, List.mem_append_right _ hprocess, hanswer⟩
                  · rintro ⟨process, hprocess, htest, hanswer⟩
                    rcases List.mem_append.mp hprocess with hprocess | hprocess
                    · rw [hindex process hprocess] at htest
                      omega
                    · exact ⟨process, hprocess, htest, hanswer⟩

/-- The loop leaves the directories as they were, unless removing one has failed. -/
theorem directories_runTestCasesOn (host : DockerHost) (runner : Runner) (code : String)
    (deadlineAt : Int) (testCases : List TestCase) (index : Nat) {state : HostState}
    (hnew : MakesNewDirectories host state) :
    let run := runTestCasesOn host runner code deadlineAt index testCases state
    run.2.directories = state.directories ∨
      ∃ i error, host.rm i = some error ∧ run.1 = .error error := by
  -- Induction on the tests. A run that fails ends the loop, so a directory can only be left behind
  -- by the last run.
  induction testCases generalizing index state with
  | nil => exact Or.inl rfl
  | cons testCase rest ih =>
      rw [runTestCasesOn]
      dsimp only
      split
      · exact Or.inl rfl
      · have hrun := directories_runInDocker host index (runnerOptions runner code testCase.input
          testCase.expectedOutput (deadlineAt - host.now (index + 1))) hnew
        generalize runInDocker host index (runnerOptions runner code testCase.input
          testCase.expectedOutput (deadlineAt - host.now (index + 1))) state = run at hrun
        obtain ⟨outcome, state'⟩ := run
        cases outcome with
        | error error =>
            dsimp only
            exact hrun.imp id fun ⟨own, hrm, heq⟩ => ⟨index, own, hrm, by cases heq; rfl⟩
        | ok result =>
            have hsame : state'.directories = state.directories :=
              hrun.resolve_right fun ⟨_, _, heq⟩ => nomatch heq
            have hnew' : MakesNewDirectories host state' := fun i directory hmade => by
              rw [hsame]
              exact hnew i directory hmade
            rcases ih (index + 1) hnew' with hrest | ⟨i, error, hrm, heq⟩
            · exact Or.inl (hrest.trans hsame)
            · exact Or.inr ⟨i, error, hrm, by dsimp only; rw [heq]; rfl⟩

/-- The loop on the host answers what the loop of the judge answers. -/
theorem outcome_runTestCasesOn (host : DockerHost) (runner : Runner) (code : String)
    (deadlineAt : Int) (testCases : List TestCase) (index : Nat) (state : HostState) :
    (runTestCasesOn host runner code deadlineAt index testCases state).1 =
      runTestCases host.sandbox runner code deadlineAt index testCases := by
  -- Both loops stop at the same test: the deadline is read from the same clock and the outcome of a
  -- run does not depend on the state.
  induction testCases generalizing index state with
  | nil => rfl
  | cons testCase rest ih =>
      rw [runTestCasesOn, runTestCases]
      dsimp only
      show (if deadlineAt - host.now (index + 1) ≤ 0 then _ else _ : _ × _).1 = if
        deadlineAt - host.now (index + 1) ≤ 0 then _ else _
      split
      · rfl
      · have hrun := outcome_runInDocker host index (runnerOptions runner code testCase.input
          testCase.expectedOutput (deadlineAt - host.now (index + 1))) state
        show _ = (runInDocker host index (runnerOptions runner code testCase.input
          testCase.expectedOutput (deadlineAt - host.now (index + 1))) {}).1 >>= _
        rw [← hrun]
        generalize runInDocker host index (runnerOptions runner code testCase.input
          testCase.expectedOutput (deadlineAt - host.now (index + 1))) state = run
        obtain ⟨outcome, state'⟩ := run
        cases outcome with
        | error error => rfl
        | ok result =>
            dsimp only
            rw [ih]
            cases runTestCases host.sandbox runner code deadlineAt (index + 1) rest <;> rfl

end

/-! ### The judge -/

/-- The test results of a call say of each test case what its run has answered. -/
theorem passed_judgeTestCases {sandbox : Sandbox} {runner : Runner} {code : String}
    {testCases : List TestCase} {result : CodeRunnerResult}
    (h : judgeTestCases sandbox runner code testCases = .ok result) :
    result.totalTests = testCases.length ∧ ∃ results,
      runTestCases sandbox runner code (sandbox.now 0 + maxJudgeDurationMs) 0 testCases =
        .ok results ∧
      result.testResults.map (·.passed) = results.map (·.passed) := by
  unfold judgeTestCases at h
  obtain ⟨results, hruns, h⟩ := bind_eq_ok.mp h
  obtain ⟨testResults, htests, h⟩ := bind_eq_ok.mp h
  cases h
  exact ⟨rfl, results, hruns, (runTestResults_ok htests).2⟩

section
variable (text : Js.CaseMapping) (host : DockerHost) (language code : String)
  (testCases : List TestCase) (state : HostState)

/-- The loop that a call of the judge runs. -/
def judgeLoop : Except ServiceException (List RunSingleResult) × HostState :=
  runTestCasesOn host (judgeRunner (text.toLowerCase language)) code
    (host.now 0 + maxJudgeDurationMs) 0 testCases state

/-- Whatever the code is and whatever the host answers, the judge starts confined containers only,
at most one for each test case and in their order. Each sees its own new directory only, which
holds the submitted program and nothing else. No directory is left, unless removing it has failed
and the call with it. -/
theorem judge_confines_code (hnew : MakesNewDirectories host state) :
    let after := judgedState text host language code testCases state
    (∃ started, after.processes = state.processes ++ started ∧
      (started.map (·.testCase)).Pairwise (· < ·) ∧
      ∀ process ∈ started, process.testCase < min testCases.length maxTestCases ∧
        ConfinedProcess host state (judgeRunner (text.toLowerCase language)) code process) ∧
    (after.directories = state.directories ∨ ∃ index error, host.rm index = some error ∧
      judgeAdmitted text host.sandbox language code testCases = .error error) := by
  intro after
  -- A request that is not admissible is answered before anything is started.
  by_cases hloop : Admissible text language code testCases
  · have hafter : after = (judgeLoop text host language code testCases state).2 := if_pos hloop
    rw [hafter]
    obtain ⟨started, hprocesses, horder, hconfined, -⟩ := runTestCasesOn_spec hnew
      (judgeRunner (text.toLowerCase language)) code (host.now 0 + maxJudgeDurationMs) testCases 0
      state
    refine ⟨⟨started, hprocesses, horder, fun process hprocess => ?_⟩, ?_⟩
    · obtain ⟨-, hbound, hown⟩ := hconfined process hprocess
      have hfew := hloop.2.2.1
      exact ⟨by omega, hown⟩
    · refine (directories_runTestCasesOn host (judgeRunner (text.toLowerCase language)) code
        (host.now 0 + maxJudgeDurationMs) testCases 0 hnew).imp id ?_
      -- What removing throws is what the loop throws, and so is what the judge answers.
      rintro ⟨index, error, hrm, houtcome⟩
      refine ⟨index, error, hrm, ?_⟩
      rw [outcome_runTestCasesOn] at houtcome
      rcases judgeAdmitted_cases text host.sandbox language code testCases with
        ⟨hrefused, -⟩ | ⟨-, hjudge⟩
      · exact absurd hloop hrefused
      · rw [hjudge]
        unfold judgeTestCases
        show runTestCases host.sandbox _ code (host.now 0 + maxJudgeDurationMs) 0 testCases >>= _
          = _
        rw [houtcome]
        rfl
  · have hafter : after = state := if_neg hloop
    rw [hafter]
    exact ⟨⟨[], (List.append_nil _).symm, List.Pairwise.nil, by simp⟩, Or.inl rfl⟩

end

/-- A host with the directory of an older run, on which a container writes its input back, with
another line end. -/
def echoHost : DockerHost where
  now := fun _ => 0
  mkdtemp := fun _ => .ok "/tmp/dcvp-run-Kx2mPq"
  startedAt := fun _ => 0
  endedAt := fun _ => 120
  execFile := fun _ _ input _ => { stdout := input ++ "\r\n" }

/-- A directory of a run that the process has not cleaned up. -/
def olderRun : HostState where
  directories := [("/tmp/dcvp-run-a81Zrt", [])]

/-- Two test cases of an echo. -/
def echoTests : List TestCase :=
  [{ id := "test_1", questionId := "question_1", input := "a", expectedOutput := "a",
     isPublic := true, createdAt := "2026-07-18T00:00:00.000Z" },
    { id := "test_2", questionId := "question_1", input := "b", expectedOutput := "b\n",
      isPublic := false, createdAt := "2026-07-18T00:00:00.000Z" }]

/-- The new directory is not the one of the older run. -/
theorem echoHost_makesNew : MakesNewDirectories echoHost olderRun := by
  intro index directory h
  cases h
  decide

/-- The echo starts confined containers, and the older directory is all that is left. -/
theorem judge_confines_code_echo :
    let after := judgedState lowerCaseText echoHost "python" "solution = str" echoTests olderRun
    (∃ started, after.processes = started ∧ (started.map (·.testCase)).Pairwise (· < ·) ∧
      ∀ process ∈ started,
        ConfinedProcess echoHost olderRun .python "solution = str" process) ∧
      after.directories = olderRun.directories := by
  obtain ⟨⟨started, hprocesses, horder, hconfined⟩, hdirectories⟩ := judge_confines_code
    lowerCaseText echoHost "python" "solution = str" echoTests olderRun echoHost_makesNew
  refine ⟨⟨started, hprocesses, horder, fun process h => (hconfined process h).2⟩, ?_⟩
  exact hdirectories.resolve_right fun ⟨_, _, hrm, _⟩ => nomatch hrm

section
variable (text : Js.CaseMapping) (host : DockerHost) (language code : String)
  (testCases : List TestCase) (state : HostState)

/-- A confined container was started for the test case at this index. It was given the input, has
ended well, and has written what was expected. -/
def RanAsExpected (started : List StartedProcess) (index : Nat) (testCase : TestCase) : Prop :=
  ∃ process ∈ started, process.testCase = index ∧
    ConfinedProcess host state (judgeRunner (text.toLowerCase language)) code process ∧
    process.input = testCase.input ∧ AnsweredAs testCase.expectedOutput process

/-- Each test has passed exactly when its container was confined, was given the input, has ended
well, and has written what was expected. The submission succeeds exactly when the request is
admissible and this holds of every test case. -/
theorem judge_verdict (hnew : MakesNewDirectories host state) {result : CodeRunnerResult}
    (hresult : judgeAdmitted text host.sandbox language code testCases = .ok result) :
    ∃ started, (judgedState text host language code testCases state).processes =
        state.processes ++ started ∧
      (∀ index testCase testResult, testCases[index]? = some testCase →
        result.testResults[index]? = some testResult →
        (testResult.passed = true ↔
          RanAsExpected text host language code state started index testCase)) ∧
      (result.status = .success ↔ Admissible text language code testCases ∧
        ∀ index testCase, testCases[index]? = some testCase →
          RanAsExpected text host language code state started index testCase) := by
  rcases judgeAdmitted_cases text host.sandbox language code testCases with
    ⟨hrefused, error, hjudge⟩ | ⟨hadmissible, hjudge⟩
  · rw [hjudge] at hresult
    cases hresult
    have hafter : judgedState text host language code testCases state = state := if_neg hrefused
    rw [hafter]
    refine ⟨[], (List.append_nil _).symm, fun index testCase testResult _ htest => ?_, ?_⟩
    · obtain ⟨i, -, rfl⟩ := List.mem_mapIdx.mp (List.mem_of_getElem? htest)
      simp [failedTestResult, RanAsExpected]
    · have hfailed : JudgeConsistent text host.sandbox language code testCases
          (failed error (listedCases code testCases)) := failed_consistent hrefused
      refine hfailed.success_iff.trans ?_
      exact ⟨fun h => absurd h.1 hrefused, fun h => absurd h.1 hrefused⟩
  · rw [hjudge] at hresult
    have hafter : judgedState text host language code testCases state =
        (judgeLoop text host language code testCases state).2 := if_pos hadmissible
    obtain ⟨started, hprocesses, -, hconfined, hloop⟩ := runTestCasesOn_spec hnew
      (judgeRunner (text.toLowerCase language)) code (host.now 0 + maxJudgeDurationMs) testCases 0
      state
    rw [hafter]
    obtain ⟨htotal, results, hruns, hsame⟩ := passed_judgeTestCases hresult
    have hanswered := hloop results ((outcome_runTestCasesOn _ _ _ _ _ _ _).trans hruns)
    have hpassed (index : Nat) (testCase : TestCase) (testResult : CodeRunnerTestResult)
        (hcase : testCases[index]? = some testCase)
        (htest : result.testResults[index]? = some testResult) :
        testResult.passed = true ↔
          RanAsExpected text host language code state started index testCase := by
      have hat := congrArg (·[index]?) hsame
      simp only [List.getElem?_map, htest, Option.map_some] at hat
      obtain ⟨run, hrun, heq⟩ := Option.map_eq_some_iff.mp hat.symm
      rw [← heq, hanswered index testCase run hcase hrun, Nat.zero_add]
      -- Every process that was started is confined.
      constructor
      · rintro ⟨process, hprocess, htest, hanswer⟩
        exact ⟨process, hprocess, htest, (hconfined process hprocess).2.2, hanswer⟩
      · rintro ⟨process, hprocess, htest, -, hanswer⟩
        exact ⟨process, hprocess, htest, hanswer⟩
    refine ⟨started, hprocesses, hpassed, ?_⟩
    have hconsistent := judgeTestCases_consistent hadmissible hresult
    have hlength : result.testResults.length = testCases.length := hconsistent.length.trans htotal
    rw [hconsistent.success_iff]
    refine and_congr Iff.rfl ⟨fun hall index testCase hcase => ?_, fun hall testResult hmem => ?_⟩
    · have hindex := (List.getElem?_eq_some_iff.mp hcase).1
      have htest := List.getElem?_eq_getElem (hlength.symm ▸ hindex)
      exact (hpassed index testCase _ hcase htest).mp (hall _ (List.getElem_mem _))
    · obtain ⟨index, hindex, htest⟩ := List.getElem_of_mem hmem
      have hcase := List.getElem?_eq_getElem (hlength ▸ hindex)
      exact (hpassed index _ testResult hcase (List.getElem?_eq_some_iff.mpr ⟨hindex, htest⟩)).mpr
        (hall index _ hcase)

end

/-- The echo is judged, and it passes each of its tests in a confined container. -/
theorem judge_verdict_echo :
    ∃ result, judgeAdmitted lowerCaseText echoHost.sandbox "python" "solution = str" echoTests =
        .ok result ∧
      ∃ started, (judgedState lowerCaseText echoHost "python" "solution = str" echoTests
        olderRun).processes = started ∧ result.status = .success ∧
      ∀ index testCase, echoTests[index]? = some testCase →
        RanAsExpected lowerCaseText echoHost "python" "solution = str" olderRun started index
          testCase := by
  have hok : (judgeAdmitted lowerCaseText echoHost.sandbox "python" "solution = str"
      echoTests).toOption.any (fun result => decide (result.status = .success)) = true := by
    decide +kernel
  cases hresult : judgeAdmitted lowerCaseText echoHost.sandbox "python" "solution = str"
    echoTests with
  | error error =>
      rw [hresult] at hok
      cases hok
  | ok result =>
      rw [hresult] at hok
      have hstatus : result.status = .success := of_decide_eq_true hok
      obtain ⟨started, hprocesses, -, hsuccess⟩ := judge_verdict lowerCaseText echoHost "python"
        "solution = str" echoTests olderRun echoHost_makesNew hresult
      exact ⟨result, rfl, started, hprocesses, hstatus, (hsuccess.mp hstatus).2⟩

end Dcvp.Proofs
