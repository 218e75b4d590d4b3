import Dcvp.Lib.Rounding
import Dcvp.Services.CodeRunnerJudge
import Dcvp.Services.PlatformStore.CandidatePortal

/-!
# `Dcvp.Proofs.JudgeResults`: what the judge answers

Two results about `judgeAdmitted`.

`judge_consistent`: the answer has one entry for each test case (for each of the first 50, when a
limit is exceeded), in order, and the entry says what the run of this test case has answered, or
that the deadline had passed (`CaseOutcome`). The answer counts the passed entries, and it is a
success exactly when the request is admissible and every test has passed. Its score is 100 exactly
when it is a success. The last point rests on the limit of 50 tests: `percent_eq_hundred_iff` holds
below 200 only.

`gate_language_judged_iff`: `assertLanguageCanRun` trims the language before it compares it, and
`judgeAdmitted` does not. A language that passes the gate is judged exactly when there was nothing
to trim.
-/

set_option autoImplicit false

namespace Dcvp.Proofs

open Dcvp.Lib
open Dcvp.Shared
open Dcvp.Services
open Dcvp.Services.PlatformStore

/-! ### The loop -/

section
variable {sandbox : Sandbox} {runner : Runner} {code : String} {deadlineAt : Int}

/-- There is one result for each test case, whether it was run or skipped. -/
theorem length_runTestCases {testCases : List TestCase} {index : Nat}
    {results : List RunSingleResult}
    (h : runTestCases sandbox runner code deadlineAt index testCases = .ok results) :
    results.length = testCases.length := by
  induction testCases generalizing index results with
  | nil =>
      cases h
      rfl
  | cons testCase rest ih =>
      unfold runTestCases at h
      simp only at h
      split at h
      · cases h
        simp
      · obtain ⟨result, -, hrest⟩ := bind_eq_ok.mp h
        obtain ⟨tail, htail, heq⟩ := bind_eq_ok.mp hrest
        cases heq
        simp [ih htail]

/-- What the loop records of its `k`-th test case: the answer of its run, when time was left for it
and for all before it, and otherwise a skipped result. The induction is on the test cases,
from the index on. -/
theorem runTestCases_outcome {testCases : List TestCase} {index : Nat}
    {results : List RunSingleResult}
    (h : runTestCases sandbox runner code deadlineAt index testCases = .ok results)
    {k : Nat} {testCase : TestCase} {result : RunSingleResult}
    (hcase : testCases[k]? = some testCase) (hresult : results[k]? = some result) :
    ((∀ j ≤ k, 0 < deadlineAt - sandbox.now (index + j + 1)) ∧
      sandbox.run (index + k) runner code testCase.input testCase.expectedOutput
        (deadlineAt - sandbox.now (index + k + 1)) = .ok result) ∨
    ((∃ j ≤ k, deadlineAt - sandbox.now (index + j + 1) ≤ 0) ∧ result = skippedResult) := by
  induction testCases generalizing index results k with
  | nil => cases hcase
  | cons head rest ih =>
      unfold runTestCases at h
      simp only at h
      split at h
      · -- The deadline has passed at the head, and so for the whole rest.
        rename_i hlate
        cases h
        rw [List.getElem?_map, hcase] at hresult
        cases hresult
        exact .inr ⟨⟨0, Nat.zero_le k, hlate⟩, rfl⟩
      · rename_i hintime
        obtain ⟨first, hfirst, hrest⟩ := bind_eq_ok.mp h
        obtain ⟨tail, htail, heq⟩ := bind_eq_ok.mp hrest
        cases heq
        cases k with
        | zero =>
            cases hcase
            cases hresult
            refine .inl ⟨fun j hj => ?_, hfirst⟩
            rw [Nat.le_zero.mp hj]
            exact Int.not_le.mp hintime
        | succ k =>
            have hshift : ∀ j, index + 1 + j = index + (j + 1) := fun j => by omega
            rcases ih htail hcase hresult with ⟨hall, hrun⟩ | ⟨⟨j, hj, hlate⟩, hskipped⟩
            · rw [hshift] at hrun
              refine .inl ⟨fun j hj => ?_, hrun⟩
              cases j with
              | zero => exact Int.not_le.mp hintime
              | succ j =>
                  rw [← hshift]
                  exact hall j (Nat.le_of_succ_le_succ hj)
            · rw [hshift] at hlate
              exact .inr ⟨⟨j + 1, Nat.succ_le_succ hj, hlate⟩, hskipped⟩

/-- The loop over the test cases ends with a list of results when each single run does. By
induction on the test cases. -/
theorem runTestCases_returns
    (hruns : ∀ index input expectedOutput remainingMs, ∃ result,
      sandbox.run index runner code input expectedOutput remainingMs = .ok result)
    (testCases : List TestCase) (index : Nat) :
    ∃ results, runTestCases sandbox runner code deadlineAt index testCases = .ok results := by
  induction testCases generalizing index with
  | nil => exact ⟨[], rfl⟩
  | cons testCase rest ih =>
      unfold runTestCases
      simp only
      split
      · exact ⟨_, rfl⟩
      · rename_i hremaining
        obtain ⟨result, hresult⟩ := hruns index testCase.input testCase.expectedOutput
          (deadlineAt - sandbox.now (index + 1))
        obtain ⟨results, hresults⟩ := ih (index + 1)
        rw [hresult]
        exact ⟨result :: results, bind_eq_ok.mpr ⟨result, rfl, bind_eq_ok.mpr
          ⟨results, hresults, rfl⟩⟩⟩

end

/-! ### The test results -/

/-- The test result at an index describes the test case at that index. -/
def DescribesCase (testCases : List TestCase) (index : Nat) (result : CodeRunnerTestResult) :
    Prop :=
  ∃ testCase, testCases[index]? = some testCase ∧ result.testIndex = index + 1 ∧
    result.input = testCase.input ∧ result.expectedOutput = testCase.expectedOutput ∧
    result.isPublic = testCase.isPublic

/-- The test result says what a run has answered. -/
structure ReportsRun (run : RunSingleResult) (result : CodeRunnerTestResult) : Prop where
  passed : result.passed = run.passed
  actualOutput : result.actualOutput = run.actualOutput
  error : result.error = run.error
  executionTimeMs : result.executionTimeMs = run.executionTimeMs

/-- The result of a run describes its test case, and reports what the run has given. -/
theorem runTestResult_ok {testCases : List TestCase} {index : Nat} {run : RunSingleResult}
    {result : CodeRunnerTestResult} (h : runTestResult testCases index run = .ok result) :
    DescribesCase testCases index result ∧ ReportsRun run result := by
  unfold runTestResult at h
  split at h
  · cases h
  · rename_i testCase hcase
    cases h
    exact ⟨⟨testCase, hcase, rfl, rfl, rfl, rfl⟩, ⟨rfl, rfl, rfl, rfl⟩⟩

/-- The test results can be made of the runs, because each index of the runs is one of the test
cases. -/
theorem runTestResults_returns {testCases : List TestCase} {results : List RunSingleResult}
    (hlength : results.length = testCases.length) :
    ∃ testResults, (results.mapIdx (runTestResult testCases)).mapM id = .ok testResults := by
  have hall : ∀ x ∈ results.mapIdx (runTestResult testCases), ∃ result, x = .ok result := by
    intro x hx
    obtain ⟨index, hindex, rfl⟩ := List.mem_mapIdx.mp hx
    have hcase : index < testCases.length := by omega
    unfold runTestResult
    rw [List.getElem?_eq_getElem hcase]
    exact ⟨_, rfl⟩
  generalize results.mapIdx (runTestResult testCases) = xs at hall
  induction xs with
  | nil => exact ⟨[], rfl⟩
  | cons x xs ih =>
      obtain ⟨result, rfl⟩ := hall x List.mem_cons_self
      obtain ⟨rest, hrest⟩ := ih fun y hy => hall y (List.mem_cons_of_mem _ hy)
      refine ⟨result :: rest, mapM_id_eq_ok.mpr ?_⟩
      rw [List.map_cons, ← mapM_id_eq_ok.mp hrest]

/-- The test results are aligned with the runs and with the test cases. -/
theorem runTestResults_ok {testCases : List TestCase} {results : List RunSingleResult}
    {testResults : List CodeRunnerTestResult}
    (h : (results.mapIdx (runTestResult testCases)).mapM id = .ok testResults) :
    (∀ index result, testResults[index]? = some result → DescribesCase testCases index result ∧
        ∃ run, results[index]? = some run ∧ ReportsRun run result) ∧
      testResults.map (·.passed) = results.map (·.passed) := by
  have hlist := mapM_id_eq_ok.mp h
  -- The traversal answers one result for each run, at its place.
  have hat : ∀ index, (results[index]?).map (runTestResult testCases index) =
      (testResults[index]?).map .ok := by
    intro index
    rw [← List.getElem?_mapIdx, hlist, List.getElem?_map]
  constructor
  · intro index result hresult
    have hrun := hat index
    rw [hresult] at hrun
    obtain ⟨run, hat, hok⟩ := Option.map_eq_some_iff.mp hrun
    exact ⟨(runTestResult_ok hok).1, run, hat, (runTestResult_ok hok).2⟩
  -- Place by place, the flags are those of the runs.
  · refine List.ext_getElem? fun index => ?_
    have hrun := hat index
    rw [List.getElem?_map, List.getElem?_map]
    cases hrun' : results[index]? with
    | none =>
        rw [hrun'] at hrun
        rw [Option.map_eq_none_iff.mp hrun.symm]
        rfl
    | some run =>
        rw [hrun'] at hrun
        obtain ⟨result, hresult, hok⟩ := Option.map_eq_some_iff.mp hrun.symm
        rw [hresult]
        exact congrArg some (runTestResult_ok hok.symm).2.passed

/-- When the test results pass where the runs do, as many of them have passed as runs. -/
theorem passed_runTestResults {results : List RunSingleResult}
    {testResults : List CodeRunnerTestResult}
    (h : testResults.map (·.passed) = results.map (·.passed)) :
    (testResults.filter (·.passed)).length = (results.filter (·.passed)).length := by
  have hcount := congrArg (List.countP id) h
  rw [List.countP_map, List.countP_map, List.countP_eq_length_filter,
    List.countP_eq_length_filter] at hcount
  exact hcount

/-! ### The answer -/

/-- The time that is left when the loop reaches the test case at an index. -/
def remainingMs (sandbox : Sandbox) (index : Nat) : Int :=
  sandbox.now 0 + maxJudgeDurationMs - sandbox.now (index + 1)

/-- What the judge makes of the test case at an index: the answer of its run, when time was left for
it and for all test cases before it, and otherwise a skipped result. -/
inductive CaseOutcome (sandbox : Sandbox) (runner : Runner) (code : String)
    (testCases : List TestCase) (index : Nat) : RunSingleResult → Prop where
  | ran (testCase : TestCase) (run : RunSingleResult)
      (there : testCases[index]? = some testCase)
      (inTime : ∀ j ≤ index, 0 < remainingMs sandbox j)
      (answer : sandbox.run index runner code testCase.input testCase.expectedOutput
        (remainingMs sandbox index) = .ok run) :
      CaseOutcome sandbox runner code testCases index run
  | skipped (late : ∃ j ≤ index, remainingMs sandbox j ≤ 0) :
      CaseOutcome sandbox runner code testCases index skippedResult

/-- The test cases that an answer lists: all of them, or the first 50 when a limit is exceeded. -/
def listedCases (code : String) (testCases : List TestCase) : List TestCase :=
  if Js.trim code = "" then testCases
  else if maxCodeLength < Js.length code ∨ maxTestCases < testCases.length then
    testCases.take maxTestCases
  else testCases

/-- An answer of the judge that fits together.

* `total`, `length`: there is one entry for each test case that is listed;
* `entries`: the entry at an index describes the test case at this index;
* `runs`: for an admissible request the entry says what the run of the test case has answered;
* `refused`: for every other request no entry has passed. -/
structure JudgeConsistent (text : Js.CaseMapping) (sandbox : Sandbox) (language code : String)
    (testCases : List TestCase) (result : CodeRunnerResult) : Prop where
  total : result.totalTests = (listedCases code testCases).length
  length : result.testResults.length = result.totalTests
  entries : ∀ index testResult, result.testResults[index]? = some testResult →
    DescribesCase testCases index testResult
  runs : Admissible text language code testCases →
    ∀ index testResult, result.testResults[index]? = some testResult → ∃ run,
      CaseOutcome sandbox (judgeRunner (text.toLowerCase language)) code testCases index run ∧
        ReportsRun run testResult
  refused : ¬ Admissible text language code testCases →
    ∀ testResult ∈ result.testResults, testResult.passed = false
  passed : result.passedTests = (result.testResults.filter (·.passed)).length
  success_iff : result.status = .success ↔ Admissible text language code testCases ∧
    ∀ testResult ∈ result.testResults, testResult.passed = true
  score : 0 ≤ calculateSubmissionScore result ∧ calculateSubmissionScore result ≤ 100
  full_iff : calculateSubmissionScore result = 100 ↔ result.status = .success

/-- An admissible request is answered about all of its test cases. -/
theorem listedCases_of_admissible {text : Js.CaseMapping} {language code : String}
    {testCases : List TestCase} (h : Admissible text language code testCases) :
    listedCases code testCases = testCases := by
  obtain ⟨hcode, hshort, hfew, -⟩ := h
  unfold listedCases
  rw [if_neg hcode, if_neg (not_or.mpr ⟨Nat.not_lt.mpr hshort, Nat.not_lt.mpr hfew⟩)]

/-- The score of a result with tests is its share of passed tests. -/
theorem calculateSubmissionScore_of_pos {result : CodeRunnerResult} (h : 0 < result.totalTests) :
    calculateSubmissionScore result = percent result.passedTests result.totalTests := by
  unfold calculateSubmissionScore
  rw [if_pos h]
  rfl

/-- With few tests, the score is full exactly when every test has passed. -/
theorem score_consistent {result : CodeRunnerResult} (hfew : result.totalTests < 200)
    (hle : result.passedTests ≤ result.totalTests)
    (hstatus : result.status = .success ↔ result.passedTests = result.totalTests) :
    (0 ≤ calculateSubmissionScore result ∧ calculateSubmissionScore result ≤ 100) ∧
      (calculateSubmissionScore result = 100 ↔ result.status = .success) := by
  by_cases htests : 0 < result.totalTests
  · rw [calculateSubmissionScore_of_pos htests, hstatus]
    exact ⟨percent_mem htests hle, percent_eq_hundred_iff htests hle hfew⟩
  · -- Without tests the status decides, and no test has failed.
    have hsuccess : result.status = .success := hstatus.mpr (by omega)
    have hfull : calculateSubmissionScore result = 100 := by
      unfold calculateSubmissionScore
      rw [if_neg htests, if_pos hsuccess]
    rw [hfull]
    exact ⟨by omega, fun _ => hsuccess, fun _ => rfl⟩

/-- Code that was not run has no points, whether the question has test cases or not. -/
theorem calculateSubmissionScore_failed (error : String) (testCases : List TestCase) :
    calculateSubmissionScore (failed error testCases) = 0 := by
  by_cases h : 0 < (failed error testCases).totalTests
  · rw [calculateSubmissionScore_of_pos h]
    show roundHalfUp (((0 : Nat) : Rat) / _ * 100) = 0
    have hzero : ((0 : Nat) : Rat) / (failed error testCases).totalTests * 100 = ((0 : Int) : Rat) := by
      simp
    rw [hzero, roundHalfUp_intCast]
  · unfold calculateSubmissionScore
    rw [if_neg h, if_neg (fun hstatus => by cases hstatus)]

/-- An answer of `failed` to a request that is not admissible fits together: every entry of it has
failed, and the listed test cases are the first ones. -/
theorem failed_consistent {text : Js.CaseMapping} {sandbox : Sandbox} {language code error : String}
    {testCases : List TestCase} (h : ¬ Admissible text language code testCases) :
    JudgeConsistent text sandbox language code testCases
      (failed error (listedCases code testCases)) := by
  -- Every entry of `failed` has failed.
  have hnone : ∀ testResult ∈ (failed error (listedCases code testCases)).testResults,
      testResult.passed = false := by
    intro testResult hresult
    obtain ⟨index, hindex, rfl⟩ := List.mem_mapIdx.mp hresult
    rfl
  -- The listed test cases are the first ones.
  have hlisted : ∀ (index : Nat) (testCase : TestCase),
      (listedCases code testCases)[index]? = some testCase →
        testCases[index]? = some testCase := by
    intro index testCase hcase
    unfold listedCases at hcase
    split at hcase
    · exact hcase
    · split at hcase
      · rw [List.getElem?_take] at hcase
        split at hcase
        · exact hcase
        · cases hcase
      · exact hcase
  exact
    { total := rfl
      length := List.length_mapIdx
      entries := by
        intro index testResult hresult
        have hmap : ((listedCases code testCases)[index]?).map (failedTestResult error index) =
            some testResult := by
          rw [← List.getElem?_mapIdx]
          exact hresult
        obtain ⟨testCase, hcase, rfl⟩ := Option.map_eq_some_iff.mp hmap
        exact ⟨testCase, hlisted index testCase hcase, rfl, rfl, rfl, rfl⟩
      runs := fun hadmissible => absurd hadmissible h
      refused := fun _ => hnone
      passed := by
        rw [List.filter_eq_nil_iff.mpr fun testResult hresult => by simp [hnone _ hresult]]
        rfl
      success_iff := ⟨fun hstatus => (nomatch hstatus), fun hall => absurd hall.1 h⟩
      score := by
        rw [calculateSubmissionScore_failed]
        omega
      full_iff := by
        rw [calculateSubmissionScore_failed]
        exact ⟨fun hfull => (nomatch hfull), fun hstatus => (nomatch hstatus)⟩ }

/-- The answer about an admissible request fits together: the entries come from the runs, one for
each, and the status from the first that has not passed. -/
theorem judgeTestCases_consistent {text : Js.CaseMapping} {sandbox : Sandbox}
    {language code : String} {testCases : List TestCase} {result : CodeRunnerResult}
    (hadmissible : Admissible text language code testCases)
    (h : judgeTestCases sandbox (judgeRunner (text.toLowerCase language)) code testCases =
      .ok result) :
    JudgeConsistent text sandbox language code testCases result := by
  unfold judgeTestCases at h
  obtain ⟨results, hruns, h⟩ := bind_eq_ok.mp h
  obtain ⟨testResults, htests, h⟩ := bind_eq_ok.mp h
  cases h
  have hlength := length_runTestCases hruns
  obtain ⟨hentries, hpassed⟩ := runTestResults_ok htests
  have hcount := passed_runTestResults hpassed
  have hsame : testResults.length = results.length := by
    have hmap := congrArg List.length hpassed
    simpa using hmap
  -- The status, in terms of the test results.
  have hsuccess : (if (results.find? (!·.passed)).isSome then CodeExecutionStatus.failed
      else .success) = .success ↔ ∀ testResult ∈ testResults, testResult.passed = true := by
    have hall : (∀ testResult ∈ testResults, testResult.passed = true) ↔
        ∀ run ∈ results, run.passed = true := by
      rw [← List.forall_mem_map (f := fun r : CodeRunnerTestResult => r.passed) (P := (· = true)),
        hpassed, List.forall_mem_map]
    rw [hall]
    cases hfind : results.find? (!·.passed) with
    | none =>
        have hnone := List.find?_eq_none.mp hfind
        simpa using hnone
    | some run =>
        have hfailed := List.find?_some hfind
        have hmem := List.mem_of_find?_eq_some hfind
        constructor
        · intro hstatus
          cases hstatus
        · intro hrun
          simp [hrun run hmem] at hfailed
  have hfull : (results.filter (·.passed)).length = testCases.length ↔
      ∀ testResult ∈ testResults, testResult.passed = true := by
    rw [← hcount, ← hlength, ← hsame, List.length_filter_eq_length_iff]
  have hstatus := hsuccess.trans hfull.symm
  have hle : (results.filter (·.passed)).length ≤ testCases.length :=
    hlength ▸ List.length_filter_le _ results
  have hfew : testCases.length < 200 := Nat.lt_of_le_of_lt hadmissible.2.2.1 (by decide)
  exact
    { total := by rw [listedCases_of_admissible hadmissible]
      length := hsame.trans hlength
      entries := fun index testResult hat => (hentries index testResult hat).1
      runs := by
        intro _ index testResult hat
        obtain ⟨⟨testCase, hcase, -⟩, run, hrun, hreports⟩ := hentries index testResult hat
        refine ⟨run, ?_, hreports⟩
        rcases runTestCases_outcome hruns hcase hrun with ⟨hintime, hanswer⟩ | ⟨hlate, rfl⟩
        · simp only [Nat.zero_add] at hintime hanswer
          exact .ran testCase run hcase hintime hanswer
        · simp only [Nat.zero_add] at hlate
          exact .skipped hlate
      refused := fun hrefused => absurd hadmissible hrefused
      passed := hcount.symm
      success_iff := hsuccess.trans ⟨fun hall => ⟨hadmissible, hall⟩, fun hall => hall.2⟩
      score := (score_consistent hfew hle hstatus).1
      full_iff := (score_consistent hfew hle hstatus).2 }

/-- A request that is not admissible is answered at once, and every other one is judged. -/
theorem judgeAdmitted_cases (text : Js.CaseMapping) (sandbox : Sandbox) (language code : String)
    (testCases : List TestCase) :
    (¬ Admissible text language code testCases ∧ ∃ error,
      judgeAdmitted text sandbox language code testCases =
        .ok (failed error (listedCases code testCases))) ∨
    (Admissible text language code testCases ∧
      judgeAdmitted text sandbox language code testCases =
        judgeTestCases sandbox (judgeRunner (text.toLowerCase language)) code testCases) := by
  unfold judgeAdmitted Admissible listedCases
  simp only
  -- The three checks in the order of the source. Only the second one cuts the list of tests to the
  -- limit.
  by_cases hempty : Js.trim code = ""
  · refine .inl ⟨fun h => h.1 hempty, "Code is empty.", ?_⟩
    rw [if_pos hempty, if_pos hempty]
  · rw [if_neg hempty, if_neg hempty]
    by_cases hlimit : maxCodeLength < Js.length code ∨ maxTestCases < testCases.length
    · refine .inl ⟨fun h => ?_, "Code or test case count exceeds the runner limit.", ?_⟩
      · rcases hlimit with hlong | hmany
        · exact absurd h.2.1 (Nat.not_le.mpr hlong)
        · exact absurd h.2.2.1 (Nat.not_le.mpr hmany)
      · rw [if_pos hlimit, if_pos hlimit]
    · rw [if_neg hlimit, if_neg hlimit]
      obtain ⟨hshort, hfew⟩ := not_or.mp hlimit
      by_cases hlanguage : text.toLowerCase language ∈ judgeLanguages
      · rw [if_neg (not_not_intro hlanguage)]
        exact .inr ⟨⟨hempty, Nat.not_lt.mp hshort, Nat.not_lt.mp hfew, hlanguage⟩, rfl⟩
      · refine .inl ⟨fun h => hlanguage h.2.2.2, unsupportedLanguage language, ?_⟩
        rw [if_pos hlanguage]

/-- The judge answers whenever its runs do, and every answer fits together. -/
theorem judge_consistent (text : Js.CaseMapping) (sandbox : Sandbox) (language code : String)
    (testCases : List TestCase) :
    (∀ result, judgeAdmitted text sandbox language code testCases = .ok result →
      JudgeConsistent text sandbox language code testCases result) ∧
      ((∀ index runner input expectedOutput remainingMs, ∃ run,
          sandbox.run index runner code input expectedOutput remainingMs = .ok run) →
        ∃ result, judgeAdmitted text sandbox language code testCases = .ok result) := by
  rcases judgeAdmitted_cases text sandbox language code testCases with
    ⟨hrefused, error, hjudge⟩ | ⟨hadmissible, hjudge⟩
  · rw [hjudge]
    refine ⟨fun result h => ?_, fun _ => ⟨_, rfl⟩⟩
    cases h
    exact failed_consistent hrefused
  · rw [hjudge]
    refine ⟨fun result h => judgeTestCases_consistent hadmissible h, fun hruns => ?_⟩
    obtain ⟨results, hresults⟩ : ∃ results,
        runTestCases sandbox (judgeRunner (text.toLowerCase language)) code
          (sandbox.now 0 + maxJudgeDurationMs) 0 testCases = .ok results :=
      runTestCases_returns (fun index => hruns index _) testCases 0
    obtain ⟨testResults, htests⟩ := runTestResults_returns (length_runTestCases hresults)
    exact ⟨_, bind_eq_ok.mpr ⟨results, hresults, bind_eq_ok.mpr ⟨testResults, htests, rfl⟩⟩⟩

/-- A container in which each run passes, and the clock stands still. -/
def passingSandbox : Sandbox where
  now := fun _ => 0
  run := fun _ _ _ _ _ _ => .ok { passed := true, actualOutput := "", executionTimeMs := 1 }

/-- Letters in lower case stay. -/
def lowerCaseText : Js.CaseMapping where
  toLowerCase := id
  toUpperCase := id

/-- The judge answers the test cases of the seeded question. -/
theorem judge_consistent_seed :
    ∃ result, judgeAdmitted lowerCaseText passingSandbox "python" "solution = str"
        (createPlatformSeedData 0).testCases = .ok result ∧
      JudgeConsistent lowerCaseText passingSandbox "python" "solution = str"
        (createPlatformSeedData 0).testCases result := by
  have hjudge := judge_consistent lowerCaseText passingSandbox "python" "solution = str"
    (createPlatformSeedData 0).testCases
  obtain ⟨result, hresult⟩ := hjudge.2 fun _ _ _ _ _ => ⟨_, rfl⟩
  exact ⟨result, hresult, hjudge.1 result hresult⟩

/-! ### The gate and the judge -/

/-- White space at the ends of a text is there in lower case too. -/
def KeepsOuterSpace (text : Js.CaseMapping) : Prop :=
  ∀ s, Js.trim s ≠ s → Js.trim (text.toLowerCase s) ≠ text.toLowerCase s

/-- The runner that `normalizeRunnerLanguage` names. -/
def namedRunner : String → Option Runner
  | "javascript" => some .javaScript
  | "python" => some .python
  | _ => none

/-- A request in this language is not refused for its language, and when its tests are within the
limit too, it is judged with the runner that the gate names. -/
def JudgedAsNamed (text : Js.CaseMapping) (language : String) : Prop :=
  ∀ (sandbox : Sandbox) (code : String) (testCases : List TestCase), Js.trim code ≠ "" →
    Js.length code ≤ maxCodeLength →
      judgeAdmitted text sandbox language code testCases ≠
          .ok (failed (unsupportedLanguage language) testCases) ∧
        (testCases.length ≤ maxTestCases →
          ∃ runner, namedRunner (normalizeRunnerLanguage text language) = some runner ∧
            judgeAdmitted text sandbox language code testCases =
              judgeTestCases sandbox runner code testCases)

/-- A language that passes the gate is one of the four names, without its outer white space. -/
theorem mem_judgeLanguages_of_gate {text : Js.CaseMapping} {invite : CandidateInvite}
    {language : String} (h : assertLanguageCanRun text invite language = .ok ()) :
    text.toLowerCase (Js.trim language) ∈ judgeLanguages := by
  unfold assertLanguageCanRun at h
  simp only at h
  split at h
  · cases h
  · rename_i hsupported
    have hnamed := (not_or.mp hsupported).1
    unfold normalizeRunnerLanguage at hnamed
    simp only at hnamed
    split at hnamed
    · rename_i hvalue
      rcases hvalue with hvalue | hvalue <;> rw [hvalue] <;> decide
    · split at hnamed
      · rename_i hvalue
        rcases hvalue with hvalue | hvalue <;> rw [hvalue] <;> decide
      · exact absurd rfl hnamed

/-- The gate and the judge name the same runner where they look at the same text. -/
theorem namedRunner_normalize {text : Js.CaseMapping} {language : String}
    (h : text.toLowerCase (Js.trim language) ∈ judgeLanguages) :
    namedRunner (normalizeRunnerLanguage text language) =
      some (judgeRunner (text.toLowerCase (Js.trim language))) := by
  unfold normalizeRunnerLanguage
  simp only [judgeLanguages, List.mem_cons, List.not_mem_nil, or_false] at h
  rcases h with hvalue | hvalue | hvalue | hvalue <;> rw [hvalue] <;> rfl

/-- The names of the judge have no outer white space. -/
theorem trim_of_mem_judgeLanguages {name : String} (h : name ∈ judgeLanguages) :
    Js.trim name = name := by
  simp only [judgeLanguages, List.mem_cons, List.not_mem_nil, or_false] at h
  rcases h with rfl | rfl | rfl | rfl <;> decide +kernel

/-- Whoever is judged gets an output, and who is refused gets none. -/
theorem judgeTestCases_ne_failed (sandbox : Sandbox) (runner : Runner) (code error : String)
    (testCases cases : List TestCase) :
    judgeTestCases sandbox runner code testCases ≠ .ok (failed error cases) := by
  intro h
  unfold judgeTestCases at h
  obtain ⟨results, -, h⟩ := bind_eq_ok.mp h
  obtain ⟨testResults, -, h⟩ := bind_eq_ok.mp h
  have houtput := congrArg CodeRunnerResult.output (Except.ok.inj h)
  simp only [failed] at houtput
  split at houtput
  · have hlist := congrArg String.toList houtput
    simp at hlist
  · exact absurd houtput (by decide)

/-- A language that passes the gate is judged exactly when it has no white space around it. -/
theorem gate_language_judged_iff (text : Js.CaseMapping) (hspace : KeepsOuterSpace text)
    (invite : CandidateInvite) (language : String)
    (h : assertLanguageCanRun text invite language = .ok ()) :
    JudgedAsNamed text language ↔ Js.trim language = language := by
  have hgate := mem_judgeLanguages_of_gate h
  constructor
  · intro hjudged
    by_contra hspaced
    have hunknown : text.toLowerCase language ∉ judgeLanguages := fun hmem =>
      hspace language hspaced (trim_of_mem_judgeLanguages hmem)
    have hrefused := (hjudged passingSandbox "x" [] (by decide +kernel) (by decide +kernel)).1
    apply hrefused
    unfold judgeAdmitted
    simp only
    rw [if_neg (by decide +kernel), if_neg (by decide +kernel), if_pos hunknown]
  · intro htrim sandbox code testCases hcode hlength
    rw [htrim] at hgate
    rcases judgeAdmitted_cases text sandbox language code testCases with
      ⟨hrefused, error, hanswer⟩ | ⟨-, hjudge⟩
    · -- Only the number of tests can be out of the limits.
      have hmany : ¬ testCases.length ≤ maxTestCases := fun hcases =>
        hrefused ⟨hcode, hlength, hcases, hgate⟩
      refine ⟨fun hfailed => ?_, fun hcases => absurd hcases hmany⟩
      unfold judgeAdmitted at hfailed
      simp only at hfailed
      rw [if_neg hcode, if_pos (.inr (Nat.not_le.mp hmany))] at hfailed
      have htests := congrArg CodeRunnerResult.totalTests (Except.ok.inj hfailed)
      have htake : (testCases.take maxTestCases).length = testCases.length := htests
      rw [List.length_take] at htake
      omega
    · refine ⟨?_, fun _ => ⟨judgeRunner (text.toLowerCase language), ?_, hjudge⟩⟩
      · rw [hjudge]
        exact judgeTestCases_ne_failed sandbox _ code _ testCases testCases
      · rw [← htrim] at hgate
        rw [namedRunner_normalize hgate, htrim]

/-- The seeded candidate, in an exam that allows Python. -/
def pythonInvite : CandidateInvite :=
  let memory := createPlatformSeedData 0
  let exam := memory.exams.head (List.cons_ne_nil _ _)
  inviteOf memory.candidatePortalMemoryState (memory.candidates.head (List.cons_ne_nil _ _))
    { exam with languages := ["python"] }

/-- The gate trims the language, so it lets this one pass. -/
theorem gate_spaced_python :
    assertLanguageCanRun lowerCaseText pythonInvite " python" = .ok () := by
  decide +kernel

/-- A blank before the name passes the gate, and the judge does not know the language. -/
theorem spaced_language_refused :
    assertLanguageCanRun lowerCaseText pythonInvite " python" = .ok () ∧
      judgeAdmitted lowerCaseText passingSandbox " python" "solution = str" [] =
        .ok (failed (unsupportedLanguage " python") []) :=
  ⟨gate_spaced_python, by decide +kernel⟩

/-- The same language. -/
theorem gate_language_judged_iff_spaced :
    JudgedAsNamed lowerCaseText " python" ↔ Js.trim " python" = " python" :=
  gate_language_judged_iff lowerCaseText (fun _ h => h) pythonInvite " python" gate_spaced_python

end Dcvp.Proofs
