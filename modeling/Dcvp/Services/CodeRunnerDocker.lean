import Dcvp.Lib.CommandLine
import Dcvp.Lib.Replacement
import Dcvp.Services.CodeRunnerJudge

/-!
# `Dcvp.Services.CodeRunnerDocker`: a solution in a container

`runJavaScript`, `runPython`, `runInDocker`, `normalizeOutput` and `execFileAsync` of
`services/code-runner.service.ts`: the runs that `Dcvp.Services.CodeRunnerJudge` takes as given.

`HostState` is what a run leaves on the host: the directories under the one for temporary files,
and the processes that were started. What the host answers is a parameter, `DockerHost`, one
answer for each test case, since each test case is run once at most. `DockerHost.sandbox` is the
sandbox of the judge, and `runTestCasesOn` is its loop with the state of the host.
-/

set_option autoImplicit false

namespace Dcvp.Services

open Dcvp.Lib
open Dcvp.Shared

/-- `DOCKER_TIMEOUT_MS`: the longest time for one test case. -/
def dockerTimeoutMs : Int := 8000

/-- `MEMORY_LIMIT` of a container, in the spelling of `docker`. -/
def memoryLimit : String := "256m"

/-- `CPU_LIMIT` of a container, in the spelling of `docker`. -/
def cpuLimit : String := "0.5"

/-! ### The host -/

/-- What the callback of `execFile` gets. A process that fails, is killed at its timeout or writes
too much has an `error`. -/
structure ExecAnswer where
  error : Option String := none
  stdout : String := ""
  stderr : String := ""
  deriving DecidableEq

/-- A process that was started for the test case with this index, and the directories of the runs
with their files at that time. -/
structure StartedProcess where
  testCase : Nat
  file : String
  args : List String
  input : String
  timeoutMs : Int
  directories : List (String × List (String × String))
  answer : ExecAnswer
  deriving DecidableEq

/-- The files of a directory, newest first, none for an unknown directory. -/
def filesIn (directories : List (String × List (String × String))) (directory : String) :
    List (String × String) :=
  ((directories.find? (·.1 = directory)).map Prod.snd).getD []

/-- The directories of the runs with their files, and the processes so far. -/
structure HostState where
  directories : List (String × List (String × String)) := []
  processes : List StartedProcess := []
  deriving DecidableEq

namespace HostState

/-- The directory that `mkdtemp` has made, which is empty. -/
def makeDirectory (state : HostState) (directory : String) : HostState :=
  { state with directories := (directory, []) :: state.directories }

/-- `writeFile` of a new file into a directory that is there. -/
def writeFile (state : HostState) (directory name content : String) : HostState :=
  { state with
    directories := state.directories.map fun entry =>
      if entry.1 = directory then (entry.1, (name, content) :: entry.2) else entry }

/-- `rm` of a directory with its files. -/
def removeDirectory (state : HostState) (directory : String) : HostState :=
  { state with directories := state.directories.filter (·.1 ≠ directory) }

end HostState

/-- The answers of the host: for the judge its clock, and for each test case the new directory, the
clock before and after the run, the failure of `writeFile`, the answer to a process, and the
failure of `rm`. -/
structure DockerHost where
  now : Nat → Int
  mkdtemp : Nat → Except ServiceException String
  startedAt : Nat → Int
  endedAt : Nat → Int
  writeFile : Nat → Option String := fun _ => none
  execFile : Nat → List String → String → Int → ExecAnswer
  rm : Nat → Option ServiceException := fun _ => none

/-! ### A run -/

/-- The options of `runInDocker`: the file to run, the command inside the container, and the test
it is judged by. -/
structure DockerOptions where
  image : String
  fileName : String
  fileContent : String
  command : List String
  input : String
  expectedOutput : String
  timeoutMs : Int
  deriving DecidableEq

/-- The program of `runJavaScript`: the candidate's code between the reading of the input and the
call of `solution`. -/
def javaScriptProgram (code : String) : String :=
  "\n".intercalate
    ["", "const fs = require(\"node:fs\");", "const input = fs.readFileSync(0, \"utf8\");", code,
      "Promise.resolve()", "  .then(() => \x7b",
      "    if (typeof solution !== \"function\") \x7b",
      "      throw new Error(\"Define function solution(input).\");", "    \x7d",
      "    return solution(input);", "  \x7d)", "  .then((result) => \x7b",
      "    if (result !== undefined) process.stdout.write(String(result));", "  \x7d)",
      "  .catch((error) => \x7b",
      "    console.error(error && error.message ? error.message : String(error));",
      "    process.exit(1);", "  \x7d);", ""]

/-- The program of `runPython`: the candidate's code before the call of `solution`. -/
def pythonProgram (code : String) : String :=
  "\n".intercalate
    ["", "import sys", "", code, "",
      "if \"solution\" not in globals() or not callable(solution):",
      "    raise RuntimeError(\"Define function solution(input).\")", "",
      "result = solution(sys.stdin.read())", "if result is not None:",
      "    sys.stdout.write(str(result))", ""]

/-- `Math.max(1, Math.min(DOCKER_TIMEOUT_MS, remainingMs))`: what is left of the judge's time, but
not more than one run may take. -/
def runTimeoutMs (remainingMs : Int) : Int := max 1 (min dockerTimeoutMs remainingMs)

/-- `runJavaScript` and `runPython`, up to `runInDocker`: image, program and command of the
language. -/
def runnerOptions (runner : Runner) (code input expectedOutput : String) (remainingMs : Int) :
    DockerOptions :=
  match runner with
  | .javaScript =>
      { image := "node:20-alpine", fileName := "runner.js", fileContent := javaScriptProgram code
        command := ["node", "/workspace/runner.js"], input, expectedOutput
        timeoutMs := runTimeoutMs remainingMs }
  | .python =>
      { image := "python:3.12-alpine", fileName := "runner.py", fileContent := pythonProgram code
        command := ["python", "/workspace/runner.py"], input, expectedOutput
        timeoutMs := runTimeoutMs remainingMs }

/-- The arguments of `docker`, in the order of the source. The directory of the run is the only
mount. -/
def dockerArgs (workDir : String) (options : DockerOptions) : List String :=
  ["run", "--rm", "--network", "none", "--read-only", "--cap-drop", "ALL", "--security-opt",
    "no-new-privileges", "--user", "65534:65534", "--tmpfs",
    "/tmp:rw,noexec,nosuid,nodev,size=16m", "--memory", memoryLimit, "--cpus", cpuLimit,
    "--pids-limit", "64", "-i", "-v", workDir ++ ":/workspace:ro", "-w", "/workspace",
    options.image] ++ options.command

/-- `normalizeOutput`: line ends as `\n`, and no white space around. Both sides of a comparison go
through it. -/
def normalizeOutput (value : String) : String :=
  Js.trim (String.ofList ((Pattern.literal ['\r', '\n'] (by simp)).replace ['\n'] value.toList))

/-- `execFileAsync`, once the process has ended: its two outputs, or an error that shows what it
wrote to `stderr`. -/
def execFileAsync (answer : ExecAnswer) : Except String (String × String) :=
  match answer.error with
  | some message => .error (message ++ if answer.stderr ≠ "" then "\n" ++ answer.stderr else "")
  | none => .ok (answer.stdout, answer.stderr)

section
variable (host : DockerHost) (index : Nat)

/-- The result of the `catch` block: a failed test with the message of the error. -/
def caughtResult (message : String) : RunSingleResult where
  passed := false
  actualOutput := ""
  error := some message
  executionTimeMs := host.endedAt index - host.startedAt index

/-- The result of a process that ended well. -/
def comparedResult (options : DockerOptions) (stdout stderr : String) : RunSingleResult :=
  let actualOutput := normalizeOutput stdout
  let expectedOutput := normalizeOutput options.expectedOutput
  { passed := decide (actualOutput = expectedOutput)
    actualOutput
    error :=
      if actualOutput = expectedOutput then none
      else some ("Expected '" ++ expectedOutput ++ "', received '" ++ actualOutput ++ "'." ++
        if stderr ≠ "" then " Stderr: " ++ stderr else "")
    executionTimeMs := host.endedAt index - host.startedAt index }

/-- The process of a run, as the log keeps it: its command line and input, and the directories at
the moment of its start. -/
def startedProcess (options : DockerOptions) (workDir : String) (state : HostState) :
    StartedProcess where
  testCase := index
  file := "docker"
  args := dockerArgs workDir options
  input := options.input
  timeoutMs := options.timeoutMs
  directories := state.directories
  answer := host.execFile index (dockerArgs workDir options) options.input options.timeoutMs

/-- The `try` block of `runInDocker` with its `catch`. -/
def runInWorkDir (options : DockerOptions) (workDir : String) (state : HostState) :
    RunSingleResult × HostState :=
  match host.writeFile index with
  | some message => (caughtResult host index message, state)
  | none =>
      let state := state.writeFile workDir options.fileName options.fileContent
      let process := startedProcess host index options workDir state
      let state := { state with processes := state.processes ++ [process] }
      match execFileAsync process.answer with
      | .error message => (caughtResult host index message, state)
      | .ok (stdout, stderr) => (comparedResult host index options stdout stderr, state)

/-- `runInDocker`: a fresh directory, the run in it, and its removal, whose failure replaces the
result. -/
def runInDocker (options : DockerOptions) (state : HostState) :
    Except ServiceException RunSingleResult × HostState :=
  match host.mkdtemp index with
  | .error error => (.error error, state)
  | .ok workDir =>
      let (result, state) := runInWorkDir host index options workDir
        (state.makeDirectory workDir)
      -- A `finally` block that throws replaces the result.
      match host.rm index with
      | some error => (.error error, state)
      | none => (.ok result, state.removeDirectory workDir)

end

/-! ### The judge -/

/-- The sandbox of the judge. What a run answers does not depend on the state of the host. -/
def DockerHost.sandbox (host : DockerHost) : Sandbox where
  now := host.now
  run := fun index runner code input expectedOutput remainingMs =>
    (runInDocker host index (runnerOptions runner code input expectedOutput remainingMs) {}).1

/-- The loop over the test cases, with the state of the host. -/
def runTestCasesOn (host : DockerHost) (runner : Runner) (code : String) (deadlineAt : Int) :
    Nat → List TestCase → HostState →
      Except ServiceException (List RunSingleResult) × HostState
  | _, [], state => (.ok [], state)
  | index, testCase :: rest, state =>
      let remainingMs := deadlineAt - host.now (index + 1)
      if remainingMs ≤ 0 then (.ok ((testCase :: rest).map fun _ => skippedResult), state)
      else
        match runInDocker host index
          (runnerOptions runner code testCase.input testCase.expectedOutput remainingMs) state with
        | (.error error, state) => (.error error, state)
        | (.ok result, state) =>
            let (results, state) :=
              runTestCasesOn host runner code deadlineAt (index + 1) rest state
            (results.map (result :: ·), state)

/-- The state of the host after `judgeAdmitted`. -/
def judgedState (text : Js.CaseMapping) (host : DockerHost) (language code : String)
    (testCases : List TestCase) (state : HostState) : HostState :=
  if Admissible text language code testCases then
    (runTestCasesOn host (judgeRunner (text.toLowerCase language)) code
      (host.now 0 + maxJudgeDurationMs) 0 testCases state).2
  else state

end Dcvp.Services
