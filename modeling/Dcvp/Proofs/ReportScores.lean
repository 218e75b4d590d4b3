import Dcvp.Services.AiEvaluation

/-!
# `Dcvp.Proofs.ReportScores`: the scores of the rule-based report

The signals are counts. Each score but one is clamped on both sides, so it is between 0 and 100.
`debuggingScore` is clamped above only. `scores_valid_iff` says when it is not negative, and then
the average of the scores is valid too.

`overallScore_mono` is about all signals together: more passed tests and runs, and less of the
others, never lower the overall score. Every step of the computation is monotone, and only the pass
rate needs an argument, because of its value for no tests.
-/

set_option autoImplicit false

namespace Dcvp.Proofs

open Dcvp.Lib
open Dcvp.Shared
open Dcvp.Services
open Dcvp.Services.PlatformStore

/-- Signals that are counts, as the controller makes them. -/
structure SignalCounts where
  submissions : Nat := 0
  passedTests : Nat := 0
  failedTests : Nat := 0
  codeRuns : Nat := 0
  pasteEvents : Nat := 0
  riskScore : Nat := 0
  elapsedMinutes : Nat := 0

/-- The counts as the numbers of the request. -/
def SignalCounts.signals (counts : SignalCounts) : ReportSignals where
  submissions := counts.submissions
  passedTests := counts.passedTests
  failedTests := counts.failedTests
  codeRuns := counts.codeRuns
  pasteEvents := counts.pasteEvents
  riskScore := counts.riskScore
  elapsedMinutes := counts.elapsedMinutes

/-- The scores of a report. -/
def reportScores (report : CompetencyReport) : List Rat :=
  [report.problemSolvingScore, report.implementationScore, report.debuggingScore,
    report.codeQualityScore, report.timeManagementScore, report.integrityScore,
    report.overallScore]

/-- Every score is in the range that `requiredScore` of the external branch enforces. -/
def ScoresValid (report : CompetencyReport) : Prop :=
  ∀ score ∈ reportScores report, 0 ≤ score ∧ score ≤ 100

/-! ### The single scores -/

section
variable (counts : SignalCounts)

/-- A share is a percentage. -/
theorem share_mem {p f : Rat} (hp : 0 ≤ p) (hf : 0 ≤ f) (hsum : p + f ≠ 0) :
    0 ≤ p / (p + f) * 100 ∧ p / (p + f) * 100 ≤ 100 := by
  have hpos : 0 < p + f := lt_of_le_of_ne (by linarith) (Ne.symm hsum)
  have hlow : 0 ≤ p / (p + f) := div_nonneg hp hpos.le
  have hhigh : p / (p + f) ≤ 1 := (div_le_one₀ hpos).mpr (by linarith)
  constructor <;> linarith

/-- A number between 0 and 100 is rounded to one between 0 and 100. -/
theorem round_mem {x : Rat} (h : 0 ≤ x ∧ x ≤ 100) :
    0 ≤ (Js.round x : Rat) ∧ (Js.round x : Rat) ≤ 100 := by
  have hmem : 0 ≤ Js.round x ∧ Js.round x ≤ 100 :=
    roundHalfUp_mem (by exact_mod_cast h.1) (by exact_mod_cast h.2)
  exact ⟨by exact_mod_cast hmem.1, by exact_mod_cast hmem.2⟩

/-- The pass rate is a share of the tests in percent, and 70 where there are no tests. -/
theorem passRate_mem : 0 ≤ counts.signals.passRate ∧ counts.signals.passRate ≤ 100 := by
  unfold ReportSignals.passRate
  split
  · norm_num
  · rename_i hsum
    exact round_mem (share_mem (Nat.cast_nonneg _) (Nat.cast_nonneg _) hsum)

/-- The risk lowers the score from 100, and the clamp stops it at 0. -/
theorem integrityScore_mem :
    0 ≤ counts.signals.integrityScore ∧ counts.signals.integrityScore ≤ 100 := by
  have hrisk : (0 : Rat) ≤ counts.signals.riskScore := Nat.cast_nonneg _
  exact ⟨le_max_left _ _, max_le (by norm_num) (by linarith)⟩

/-- Pasted text lowers the score from 88, and the clamp stops it at 55. -/
theorem codeQualityScore_mem :
    55 ≤ counts.signals.codeQualityScore ∧ counts.signals.codeQualityScore ≤ 88 := by
  have hpaste : (0 : Rat) ≤ counts.signals.pasteEvents := Nat.cast_nonneg _
  exact ⟨le_max_left _ _, max_le (by norm_num) (by linarith)⟩

/-- Minutes beyond an hour lower the score from 92, and the clamp stops it at 45. -/
theorem timeManagementScore_mem :
    45 ≤ counts.signals.timeManagementScore ∧ counts.signals.timeManagementScore ≤ 92 := by
  have hover : (0 : Rat) ≤ max 0 (counts.signals.elapsedMinutes - 60) := le_max_left _ _
  exact ⟨le_max_left _ _, max_le (by norm_num) (by linarith)⟩

/-- The clamp from above. There is none from below. -/
theorem debuggingScore_le : counts.signals.debuggingScore ≤ 95 := min_le_left _ _

/-- The mean of the pass rate and the code quality, rounded. -/
theorem implementationScore_mem :
    0 ≤ counts.signals.implementationScore ∧ counts.signals.implementationScore ≤ 100 := by
  have hpass := passRate_mem counts
  have hquality := codeQualityScore_mem counts
  exact round_mem ⟨by linarith, by linarith⟩

/-- The mean of the pass rate and the time management, rounded. -/
theorem problemSolvingScore_mem :
    0 ≤ counts.signals.problemSolvingScore ∧ counts.signals.problemSolvingScore ≤ 100 := by
  have hpass := passRate_mem counts
  have htime := timeManagementScore_mem counts
  exact round_mem ⟨by linarith, by linarith⟩

/-- The one score without a lower clamp: it is negative where the failed tests outweigh the runs.
-/
theorem debuggingScore_nonneg_iff :
    0 ≤ counts.signals.debuggingScore ↔ 2 * counts.failedTests ≤ 65 + 3 * counts.codeRuns := by
  have hterm : (0 : Rat) ≤ 65 + counts.signals.codeRuns * 3 - counts.signals.failedTests * 2 ↔
      2 * counts.failedTests ≤ 65 + 3 * counts.codeRuns := by
    show (0 : Rat) ≤ 65 + (counts.codeRuns : Rat) * 3 - (counts.failedTests : Rat) * 2 ↔ _
    rw [← Nat.cast_le (α := Rat)]
    push_cast
    constructor <;> intro h <;> linarith
  rw [← hterm]
  unfold ReportSignals.debuggingScore
  constructor
  · intro h
    exact h.trans (min_le_right _ _)
  · intro h
    exact le_min (by norm_num) h

/-- The mean of six scores is in the range when the one without a lower clamp is not negative. -/
theorem overallScore_mem (h : 0 ≤ counts.signals.debuggingScore) :
    0 ≤ counts.signals.overallScore ∧ counts.signals.overallScore ≤ 100 := by
  have hsolving := problemSolvingScore_mem counts
  have himplementation := implementationScore_mem counts
  have hdebugging := debuggingScore_le counts
  have hquality := codeQualityScore_mem counts
  have htime := timeManagementScore_mem counts
  have hintegrity := integrityScore_mem counts
  exact round_mem ⟨by linarith, by linarith⟩

end

/-- The scores of the rule-based report are valid exactly when the failed tests do not outweigh the
runs. -/
theorem scores_valid_iff (numberText : Rat → String) (input : GenerateReportInput)
    (counts : SignalCounts) (turn : PlatformInput) :
    ScoresValid (ruleBasedReport numberText input counts.signals turn) ↔
      2 * counts.failedTests ≤ 65 + 3 * counts.codeRuns := by
  rw [← debuggingScore_nonneg_iff]
  constructor
  · intro h
    exact (h counts.signals.debuggingScore (by simp [reportScores, ruleBasedReport])).1
  · intro h score hscore
    have hdebugging := debuggingScore_le counts
    have hquality := codeQualityScore_mem counts
    have htime := timeManagementScore_mem counts
    simp only [reportScores, ruleBasedReport, List.mem_cons, List.not_mem_nil, or_false] at hscore
    rcases hscore with rfl | rfl | rfl | rfl | rfl | rfl | rfl
    · exact problemSolvingScore_mem counts
    · exact implementationScore_mem counts
    · exact ⟨h, by linarith⟩
    · exact ⟨by linarith, by linarith⟩
    · exact ⟨by linarith, by linarith⟩
    · exact integrityScore_mem counts
    · exact overallScore_mem counts h

/-- A candidate who has failed 33 tests, and has not run the code. -/
def failedCounts : SignalCounts := { submissions := 1, failedTests := 33, elapsedMinutes := 90 }

/-- The debugging score of such a candidate is `-1`. -/
theorem failed_tests_leave_range :
    ¬ ScoresValid (ruleBasedReport (fun _ => "") ⟨"exam_1_cand_1", "cand_1", "exam_1"⟩
      failedCounts.signals {}) := by
  intro h
  have hdebugging := (h (-1) (by
    simp only [reportScores, ruleBasedReport]
    norm_num [ReportSignals.debuggingScore, failedCounts, SignalCounts.signals])).1
  norm_num at hdebugging

/-! ### Better signals -/

/-- The second signals are at least as good as the first ones. -/
structure AtLeastAsGood (counts better : SignalCounts) : Prop where
  passedTests : counts.passedTests ≤ better.passedTests
  failedTests : better.failedTests ≤ counts.failedTests
  codeRuns : counts.codeRuns ≤ better.codeRuns
  pasteEvents : better.pasteEvents ≤ counts.pasteEvents
  riskScore : better.riskScore ≤ counts.riskScore
  elapsedMinutes : better.elapsedMinutes ≤ counts.elapsedMinutes

/-- The same signals. -/
theorem AtLeastAsGood.refl (counts : SignalCounts) : AtLeastAsGood counts counts :=
  ⟨Nat.le_refl _, Nat.le_refl _, Nat.le_refl _, Nat.le_refl _, Nat.le_refl _, Nat.le_refl _⟩

/-- Rounding keeps the order. -/
theorem round_mono {x y : Rat} (h : x ≤ y) : (Js.round x : Rat) ≤ Js.round y :=
  Int.cast_le.mpr (roundHalfUp_mono h)

/-- A share grows with its part and shrinks with the rest. -/
theorem share_mono {p p' f f' : Rat} (hp : 0 ≤ p) (hf' : 0 ≤ f') (hpart : p ≤ p') (hrest : f' ≤ f)
    (hsum : p + f ≠ 0) (hsum' : p' + f' ≠ 0) : p / (p + f) * 100 ≤ p' / (p' + f') * 100 := by
  have hpos : 0 < p + f := lt_of_le_of_ne (by linarith) (Ne.symm hsum)
  have hpos' : 0 < p' + f' := lt_of_le_of_ne (by linarith) (Ne.symm hsum')
  have hcross : p * f' ≤ p' * f := mul_le_mul hpart hrest hf' (by linarith)
  have hshare : p / (p + f) ≤ p' / (p' + f') := by
    rw [div_le_div_iff₀ hpos hpos']
    linarith
  linarith

section
variable {counts better : SignalCounts} (h : AtLeastAsGood counts better)
include h

/-- More passed tests and fewer failed ones do not lower the pass rate. Where both have tests, the
shares are compared (`share_mono`). Where one of them has none, its rate is 70, and the other rate
is 100 or 0, on the right side of it. -/
theorem passRate_mono : counts.signals.passRate ≤ better.signals.passRate := by
  have hpart : (counts.passedTests : Rat) ≤ better.passedTests := Nat.cast_le.mpr h.passedTests
  have hrest : (better.failedTests : Rat) ≤ counts.failedTests := Nat.cast_le.mpr h.failedTests
  have hpassed : (0 : Rat) ≤ counts.passedTests := Nat.cast_nonneg _
  have hfailed : (0 : Rat) ≤ better.failedTests := Nat.cast_nonneg _
  show (if (counts.passedTests : Rat) + counts.failedTests = 0 then (70 : Rat) else _)
    ≤ (if (better.passedTests : Rat) + better.failedTests = 0 then (70 : Rat) else _)
  by_cases hnone : (counts.passedTests : Rat) + counts.failedTests = 0
  · rw [if_pos hnone]
    split
    · exact le_refl _
    · -- No test had failed, so all tests that came are passed.
      rename_i hsome
      have hzero : (better.failedTests : Rat) = 0 := by linarith
      rw [hzero, add_zero] at hsome
      show (70 : Rat) ≤ Js.round ((better.passedTests : Rat) /
        ((better.passedTests : Rat) + better.failedTests) * 100)
      rw [hzero, add_zero, div_self hsome, one_mul]
      have hhundred : Js.round (100 : Rat) = 100 := roundHalfUp_intCast 100
      rw [hhundred]
      norm_num
  · rw [if_neg hnone]
    split
    · -- Tests that had been passed cannot be gone, so all of them had failed.
      rename_i hgone
      have hzero : (counts.passedTests : Rat) = 0 := by linarith
      show (Js.round ((counts.passedTests : Rat) /
        ((counts.passedTests : Rat) + counts.failedTests) * 100) : Rat) ≤ 70
      rw [hzero, zero_div, zero_mul]
      have hnothing : Js.round (0 : Rat) = 0 := roundHalfUp_intCast 0
      rw [hnothing]
      norm_num
    · rename_i hsome
      exact round_mono (share_mono hpassed hfailed hpart hrest hnone hsome)

/-- Fewer pasted texts do not lower the code quality. -/
theorem codeQualityScore_mono :
    counts.signals.codeQualityScore ≤ better.signals.codeQualityScore := by
  have hpaste : (better.signals.pasteEvents : Rat) ≤ counts.signals.pasteEvents :=
    Nat.cast_le.mpr h.pasteEvents
  exact max_le_max (le_refl _) (by linarith)

/-- Less time does not lower the time management. -/
theorem timeManagementScore_mono :
    counts.signals.timeManagementScore ≤ better.signals.timeManagementScore := by
  have hminutes : (better.signals.elapsedMinutes : Rat) ≤ counts.signals.elapsedMinutes :=
    Nat.cast_le.mpr h.elapsedMinutes
  have hover : max 0 (better.signals.elapsedMinutes - 60) ≤
      max 0 (counts.signals.elapsedMinutes - 60) := max_le_max (le_refl _) (by linarith)
  exact max_le_max (le_refl _) (by linarith)

/-- A smaller risk does not lower the integrity. -/
theorem integrityScore_mono :
    counts.signals.integrityScore ≤ better.signals.integrityScore := by
  have hrisk : (better.signals.riskScore : Rat) ≤ counts.signals.riskScore :=
    Nat.cast_le.mpr h.riskScore
  exact max_le_max (le_refl _) (by linarith)

/-- More runs and fewer failed tests do not lower the debugging score. -/
theorem debuggingScore_mono :
    counts.signals.debuggingScore ≤ better.signals.debuggingScore := by
  have hruns : (counts.signals.codeRuns : Rat) ≤ better.signals.codeRuns :=
    Nat.cast_le.mpr h.codeRuns
  have hfailed : (better.signals.failedTests : Rat) ≤ counts.signals.failedTests :=
    Nat.cast_le.mpr h.failedTests
  exact min_le_min (le_refl _) (by linarith)

/-- Counts that are nowhere worse give an overall score that is not lower. -/
theorem overallScore_mono : counts.signals.overallScore ≤ better.signals.overallScore := by
  have hpass := passRate_mono h
  have hquality := codeQualityScore_mono h
  have htime := timeManagementScore_mono h
  have hintegrity := integrityScore_mono h
  have hdebugging := debuggingScore_mono h
  have himplementation : counts.signals.implementationScore ≤ better.signals.implementationScore :=
    round_mono (by linarith)
  have hsolving : counts.signals.problemSolvingScore ≤ better.signals.problemSolvingScore :=
    round_mono (by linarith)
  exact round_mono (by linarith)

end

/-- The overall score of the report of the counts. -/
def overallOf (numberText : Rat → String) (input : GenerateReportInput) (turn : PlatformInput)
    (counts : SignalCounts) : Rat :=
  (ruleBasedReport numberText input counts.signals turn).overallScore

/-- Where two requests differ in one signal only, more passed tests and more runs do not lower the
overall score, and more of another signal does not raise it. -/
theorem overall_score_monotone (numberText : Rat → String) (input : GenerateReportInput)
    (turn : PlatformInput) (counts : SignalCounts) (less more : Nat) (hle : less ≤ more) :
    overallOf numberText input turn { counts with passedTests := less } ≤
        overallOf numberText input turn { counts with passedTests := more } ∧
      overallOf numberText input turn { counts with codeRuns := less } ≤
        overallOf numberText input turn { counts with codeRuns := more } ∧
      overallOf numberText input turn { counts with failedTests := more } ≤
        overallOf numberText input turn { counts with failedTests := less } ∧
      overallOf numberText input turn { counts with pasteEvents := more } ≤
        overallOf numberText input turn { counts with pasteEvents := less } ∧
      overallOf numberText input turn { counts with riskScore := more } ≤
        overallOf numberText input turn { counts with riskScore := less } ∧
      overallOf numberText input turn { counts with elapsedMinutes := more } ≤
        overallOf numberText input turn { counts with elapsedMinutes := less } := by
  have hself := AtLeastAsGood.refl counts
  refine ⟨overallScore_mono ?_, overallScore_mono ?_, overallScore_mono ?_, overallScore_mono ?_,
    overallScore_mono ?_, overallScore_mono ?_⟩
  · exact { hself with passedTests := hle }
  · exact { hself with codeRuns := hle }
  · exact { hself with failedTests := hle }
  · exact { hself with pasteEvents := hle }
  · exact { hself with riskScore := hle }
  · exact { hself with elapsedMinutes := hle }

/-- The first test that is passed, and the first one that fails. -/
theorem overall_score_monotone_first_test :
    overallOf (fun _ => "") ⟨"", "", ""⟩ {} {} ≤
        overallOf (fun _ => "") ⟨"", "", ""⟩ {} { passedTests := 1 } ∧
      overallOf (fun _ => "") ⟨"", "", ""⟩ {} { failedTests := 1 } ≤
        overallOf (fun _ => "") ⟨"", "", ""⟩ {} {} := by
  obtain ⟨hpassed, -, hfailed, -⟩ :=
    overall_score_monotone (fun _ => "") ⟨"", "", ""⟩ {} {} 0 1 (by decide)
  exact ⟨hpassed, hfailed⟩

end Dcvp.Proofs
