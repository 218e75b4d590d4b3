import Dcvp.Proofs.StorePaths
import Dcvp.Services.PlatformStore.ExamUpdate

/-!
# `Dcvp.Proofs.ExamUpdate`: what an update of an exam touches

`updateExamInStore` is written twice. On the database it copies the editable columns, so no body
changes anything else (`updateExamBodyInDatabase_frame`). On the memory it spreads the body over
the stored object, so a member of any name gets through. `OnlyEdits` is the frame, and
`exam_update_edits_iff` says when the memory keeps it: the body has no member besides the editable
ones, or one that says what is stored already.

`spread_examObject` connects the objects with the `Exam`s of the other modules: for a body that is
what its type promises, both updates make the same exam.
-/

set_option autoImplicit false

namespace Dcvp.Proofs

open Dcvp.Lib
open Dcvp.Lib.Computation
open Dcvp.Shared
open Dcvp.Services.PlatformStore

/-! ### The frame -/

/-- The editable fields. -/
def editableFields : List String :=
  ["title", "description", "startAt", "endAt", "durationMinutes", "languages",
    "proctoringEnabled", "identityVerificationEnabled", "mobileCameraRequired",
    "screenShareRequired"]

/-- The object of the exam keeps all members but the editable ones, and the other objects are as
they were, in their places. -/
def OnlyEdits (examId : String) (exams exams' : List JsonObject) : Prop :=
  List.Forall₂ (fun item item' =>
    if isText (readUnknown item "id") examId then
      ∀ key ∉ editableFields, readUnknown item' key = readUnknown item key
    else item' = item) exams exams'

/-- A member of the body that is not editable says what the exam says already. -/
def NamesEditable (exam input : JsonObject) : Prop :=
  ∀ key ∉ editableFields, ∀ value, readUnknown input key = some value →
    readUnknown exam key = some value

/-- The row of the exam keeps its key, its organization, its status and its date, and everything
else in the database is as it was. -/
structure RowOnlyEdits (examId : String) (db db' : PlatformDatabase) : Prop where
  others : db'.toPlatformTables = { db.toPlatformTables with exams := db'.exams }
  keys : db'.exams.rows.map (·.id) = db.exams.rows.map (·.id)
  unchanged : ∀ id, id ≠ examId → db'.exams.find? id = db.exams.find? id
  kept : ∀ row row', db.exams.find? examId = some row → db'.exams.find? examId = some row' →
    row'.id = row.id ∧ row'.organizationId = row.organizationId ∧ row'.status = row.status ∧
      row'.createdAt = row.createdAt

/-! ### The database -/

/-- A call that writes nothing edits at most the row of its exam. -/
theorem RowOnlyEdits.refl (examId : String) (db : PlatformDatabase) :
    RowOnlyEdits examId db db where
  others := rfl
  keys := rfl
  unchanged := fun _ _ => rfl
  kept := fun row row' hrow hrow' => by
    rw [hrow] at hrow'
    cases hrow'
    exact ⟨rfl, rfl, rfl, rfl⟩

/-- The statement writes the editable columns of one row, and leaves the other rows and tables
alone. -/
theorem updateExam_rowOnlyEdits {db db' : PlatformDatabase} {examId : String} {data : ExamData}
    (h : db.updateExam examId (applyExamData data) (fun _ => rfl) = .ok db') :
    RowOnlyEdits examId db db' := by
  unfold PlatformDatabase.updateExam at h
  split at h
  · cases h
  · have htables := PlatformDatabase.commit_eq_ok h
    have hexams : db'.exams = db.exams.updateMany (fun row => row.id = examId)
        (applyExamData data) fun _ => rfl := congrArg PlatformTables.exams htables
    -- The row is found under its identifier before and after, since the edit does not touch it.
    have hfind : ∀ id, db'.exams.find? id = (db.exams.find? id).map fun row =>
        if decide (row.id = examId) = true then applyExamData data row else row := by
      intro id
      rw [hexams]
      exact Table.find?_updateMany db.exams _ _ _ id
    -- Other tables, the identifiers, the other rows, and the four columns of the edited row.
    refine ⟨by rw [htables], ?_, ?_, ?_⟩
    · rw [hexams]
      exact Table.map_updated fun _ => rfl
    · intro id hid
      rw [hfind]
      cases hrow : db.exams.find? id with
      | none => rfl
      | some row =>
          have hkey := Table.key_of_find? hrow
          have hother : ¬ row.id = examId := fun h => hid (hkey.symm.trans h)
          simp [hother]
    · intro row row' hrow hrow'
      have hkey := Table.key_of_find? hrow
      rw [hfind, hrow, Option.map_some, if_pos (decide_eq_true hkey)] at hrow'
      cases hrow'
      exact ⟨rfl, rfl, rfl, rfl⟩

/-- Whatever the body is and however the call ends, the database keeps the frame. -/
theorem updateExamBodyInDatabase_frame (columns : ExamColumns) (session : AuthSession)
    (examId : String) (input : JsonObject) (db : PlatformDatabase) :
    RowOnlyEdits examId db
      (updateExamBodyInDatabase columns session examId input db).2 := by
  have hkept : Preserves (RowOnlyEdits examId db)
      (reads fun db => db.mappedExam examId : DatabaseOperation Exam) := .reads _
  unfold updateExamBodyInDatabase
  rw [reads_bind]
  split
  · rw [reads_bind]
    split
    · rw [reads_bind]
      split
      · rename_i data _
        cases hupdate : db.updateExam examId (applyExamData data) fun _ => rfl with
        | error error =>
            rw [updates_bind_error hupdate]
            exact .refl examId db
        | ok db' =>
            rw [updates_bind_ok hupdate]
            exact hkept db' (updateExam_rowOnlyEdits hupdate)
      · exact .refl examId db
    · exact .refl examId db
  · exact .refl examId db

/-! ### The memory -/

/-- A member after the spread is the one from before, when the body does not say otherwise. -/
theorem readUnknown_spread_eq_iff (exam input : JsonObject) (key : String) :
    readUnknown (spread exam input) key = readUnknown exam key ↔
      ∀ value, readUnknown input key = some value → readUnknown exam key = some value := by
  rw [readUnknown_spread]
  cases readUnknown input key with
  | none => simp
  | some value =>
      rw [Option.some_or]
      constructor
      · rintro h value' hvalue
        cases hvalue
        exact h.symm
      · intro h
        exact (h value rfl).symm

section
variable {exams : List JsonObject} {session : AuthSession} {examId : String}
  {input exam : JsonObject}

/-- The exam that may be updated is among the objects, under its id. -/
theorem findAccessibleObject_ok (h : findAccessibleObject exams examId session = .ok exam) :
    exam ∈ exams ∧ isText (readUnknown exam "id") examId = true := by
  unfold findAccessibleObject at h
  split at h
  · cases h
  · rename_i found hfound
    split at h
    · cases h
    · obtain ⟨-, -, hexam⟩ := bind_eq_ok.mp h
      cases hexam
      have hname := List.find?_some hfound
      exact ⟨List.mem_of_find?_eq_some hfound, hname⟩

/-- The frame of an accepted update: the exam that is spread keeps its other members. -/
theorem onlyEdits_map_iff
    (hid : (exams.filter fun item => isText (readUnknown item "id") examId).length ≤ 1)
    (hmem : exam ∈ exams) (hexam : isText (readUnknown exam "id") examId = true) :
    OnlyEdits examId exams (exams.map fun item =>
        if isText (readUnknown item "id") examId then spread exam input else item) ↔
      NamesEditable exam input := by
  have hspread : (∀ key ∉ editableFields,
      readUnknown (spread exam input) key = readUnknown exam key) ↔ NamesEditable exam input :=
    forall_congr' fun key => forall_congr' fun _ => readUnknown_spread_eq_iff exam input key
  unfold OnlyEdits
  rw [List.forall₂_map_right_iff, List.forall₂_same, ← hspread]
  constructor
  · intro h
    have hkept := h exam hmem
    rwa [if_pos hexam, if_pos hexam] at hkept
  · intro h item hitem
    by_cases hsame : isText (readUnknown item "id") examId = true
    · -- There is one object of this id, so the item is the exam.
      have hone : item = exam := by
        have hitem' : item ∈ exams.filter fun item => isText (readUnknown item "id") examId :=
          List.mem_filter.mpr ⟨hitem, hsame⟩
        have hexam' : exam ∈ exams.filter fun item => isText (readUnknown item "id") examId :=
          List.mem_filter.mpr ⟨hmem, hexam⟩
        obtain ⟨other, hother⟩ := List.length_eq_one_iff.mp
          (le_antisymm hid (List.length_pos_of_mem hexam'))
        rw [hother, List.mem_singleton] at hitem' hexam'
        exact hitem'.trans hexam'.symm
      rw [if_pos hsame, if_pos hsame, hone]
      exact h
    · rw [if_neg hsame, if_neg hsame]

end

/-! ### The objects and the exams -/

/-- The names of the members of an exam. -/
theorem readUnknown_examObject_none (exam : Exam) {key : String}
    (h : key ∉ (examObject exam).map Prod.fst) : readUnknown (examObject exam) key = none := by
  unfold readUnknown
  rw [Option.map_eq_none_iff, List.find?_eq_none]
  intro member hmember hkey
  exact h (List.mem_map.mpr ⟨member, List.mem_reverse.mp hmember, of_decide_eq_true hkey⟩)

/-- A body that is what its type promises makes the same exam as the update of `ExamAdmin`. -/
theorem spread_examObject (exam : Exam) (input : CreateExamInput) (key : String) :
    readUnknown (spread (examObject exam) (inputObject input)) key
      = readUnknown (examObject (applyExamInput exam input)) key := by
  by_cases hkey : key ∈ (examObject exam).map Prod.fst
  · simp only [examObject, List.map_cons, List.map_nil, List.mem_cons, List.not_mem_nil,
      or_false] at hkey
    rcases hkey with rfl | rfl | rfl | rfl | rfl | rfl | rfl | rfl | rfl | rfl | rfl | rfl | rfl |
      rfl <;>
    rfl
  · have hnames : (examObject (applyExamInput exam input)).map Prod.fst
        = (examObject exam).map Prod.fst := rfl
    have hinput : readUnknown (inputObject input) key = none := by
      unfold readUnknown
      rw [Option.map_eq_none_iff, List.find?_eq_none]
      intro member hmember hsame
      refine hkey ?_
      have hname : key ∈ (inputObject input).map Prod.fst :=
        List.mem_map.mpr ⟨member, List.mem_reverse.mp hmember, of_decide_eq_true hsame⟩
      simp only [inputObject, examObject, List.map_cons, List.map_nil, List.mem_cons,
        List.not_mem_nil, or_false] at hname ⊢
      tauto
    rw [readUnknown_spread, hinput, Option.none_or, readUnknown_examObject_none exam hkey,
      readUnknown_examObject_none _ (by rwa [hnames])]

/-- A client that reads plain values as they are: a text, a whole number, a boolean, a list of texts,
and a text that `Date.parse` reads. -/
structure ReadsPlainValues (ctx : StoreContext) (columns : ExamColumns) : Prop where
  newDate : ∀ text, columns.newDate (some (.string text)) = ctx.dateParse text
  string : ∀ text, columns.string (some (.string text)) = .ok fun _ => text
  int : ∀ n, columns.int (some (.number n)) = (intColumn n).map fun value _ => value
  bool : ∀ b, columns.bool (some (.bool b)) = .ok fun _ => b
  strings : ∀ texts, columns.strings (some (.array (texts.map .string))) = .ok fun _ => texts

/-- With such a client, a body that is what its type promises makes the same update as the one of
`StoreOperations`. -/
theorem updateExamBodyInDatabase_input {ctx : StoreContext} {columns : ExamColumns}
    (hcolumns : ReadsPlainValues ctx columns) (session : AuthSession) (examId : String)
    (input : CreateExamInput) (hrights : assertSessionCanManageExams session = .ok ()) :
    updateExamBodyInDatabase columns session examId (inputObject input)
      = updateExamInDatabase ctx session examId input := by
  have hdata : examData columns (inputObject input) = (do
      let startAt ← dateColumn ctx input.startAt
      let endAt ← dateColumn ctx input.endAt
      let durationMinutes ← intColumn input.durationMinutes
      .ok { title := fun _ => input.title
            description := fun _ => input.description
            startAt, endAt
            durationMinutes := fun _ => durationMinutes
            languages := fun _ => input.languages
            proctoringEnabled := fun _ => input.proctoringEnabled
            identityVerificationEnabled := fun _ => input.identityVerificationEnabled
            mobileCameraRequired := fun _ => input.mobileCameraRequired
            screenShareRequired := fun _ => input.screenShareRequired }) := by
    -- A date text is read by `new Date` on both paths.
    have hdate : ∀ text, columns.date (some (.string text)) = dateColumn ctx text := by
      intro text
      cases hparse : ctx.dateParse text with
      | none => simp [ExamColumns.date, dateColumn, hcolumns.newDate, hparse]
      | some date => simp [ExamColumns.date, dateColumn, hcolumns.newDate, hparse]
    show (do
      let title ← columns.string (some (.string input.title))
      let description ← columns.string (some (.string input.description))
      let startAt ← columns.date (some (.string input.startAt))
      let endAt ← columns.date (some (.string input.endAt))
      let durationMinutes ← columns.int (some (.number input.durationMinutes))
      let languages ← columns.strings (some (.array (input.languages.map .string)))
      let proctoringEnabled ← columns.bool (some (.bool input.proctoringEnabled))
      let identityVerificationEnabled ←
        columns.bool (some (.bool input.identityVerificationEnabled))
      let mobileCameraRequired ← columns.bool (some (.bool input.mobileCameraRequired))
      let screenShareRequired ← columns.bool (some (.bool input.screenShareRequired))
      (.ok (ExamData.mk title description startAt endAt durationMinutes languages
        proctoringEnabled identityVerificationEnabled mobileCameraRequired screenShareRequired) :
          Except ServiceException ExamData)) = _
    simp only [hcolumns.string, hdate, hcolumns.int, hcolumns.strings, hcolumns.bool]
    cases dateColumn ctx input.startAt with
    | error error => rfl
    | ok startAt =>
        cases dateColumn ctx input.endAt with
        | error error => rfl
        | ok endAt => cases intColumn input.durationMinutes <;> rfl
  -- Both functions check the rights, read the row and convert the columns, in this order.
  funext db
  unfold updateExamBodyInDatabase updateExamInDatabase
  rw [hrights, hdata]
  simp only [reads_bind]
  cases findAccessibleExamRow db.toPlatformTables examId session with
  | error error => rfl
  | ok row =>
      cases dateColumn ctx input.startAt with
      | error error => rfl
      | ok startAt =>
          cases dateColumn ctx input.endAt with
          | error error => rfl
          | ok endAt => cases intColumn input.durationMinutes <;> rfl

/-! ### The update -/

/-- An update touches the editable fields of its exam only: on the database for every body, and on
the memory exactly when the body has no other member that says something new. -/
theorem exam_update_edits_iff (columns : ExamColumns) (db : PlatformDatabase)
    (exams : List JsonObject) (session : AuthSession) (examId : String) (input : JsonObject)
    (hid : (exams.filter fun item => isText (readUnknown item "id") examId).length ≤ 1) :
    RowOnlyEdits examId db (updateExamBodyInDatabase columns session examId input db).2 ∧
    ((∀ result, updateExamObject exams session examId input = .ok result →
        OnlyEdits examId exams result.2) ↔
      ∀ exam, assertSessionCanManageExams session = .ok () →
        findAccessibleObject exams examId session = .ok exam → NamesEditable exam input) := by
  refine ⟨updateExamBodyInDatabase_frame columns session examId input db, ?_, ?_⟩
  · intro hframe exam hrights hfound
    obtain ⟨hmem, hexam⟩ := findAccessibleObject_ok hfound
    refine (onlyEdits_map_iff hid hmem hexam).mp (hframe (spread exam input, _) ?_)
    unfold updateExamObject
    rw [hrights, hfound]
    rfl
  · intro hnames result hresult
    obtain ⟨_, hrights, hrest⟩ := bind_eq_ok.mp hresult
    obtain ⟨exam, hfound, hupdated⟩ := bind_eq_ok.mp hrest
    cases hupdated
    obtain ⟨hmem, hexam⟩ := findAccessibleObject_ok hfound
    exact (onlyEdits_map_iff hid hmem hexam).mpr (hnames exam hrights hfound)

/-! ### A body that moves an exam -/

/-- An exam of the organization `org_a`. -/
def movedExam : Exam where
  id := "exam_1"
  organizationId := "org_a"
  title := "Exam"
  description := ""
  startAt := Js.toISOString 0
  endAt := Js.toISOString 7200000
  durationMinutes := 60
  status := .ended
  languages := []
  proctoringEnabled := false
  identityVerificationEnabled := false
  mobileCameraRequired := false
  screenShareRequired := false
  createdAt := Js.toISOString 0

/-- A client that refuses every value. -/
def refusingColumns : ExamColumns where
  newDate := fun _ => none
  string := fun _ => .error (.prisma .other)
  int := fun _ => .error (.prisma .other)
  bool := fun _ => .error (.prisma .other)
  strings := fun _ => .error (.prisma .other)

/-- The exam in a memory. -/
def movedExams : List JsonObject := [examObject movedExam]

/-- A body that moves the exam to the organization `org_b` and opens it again. -/
def movingBody : JsonObject := [("organizationId", .string "org_b"), ("status", .string "ACTIVE")]

/-- A body with a new title. -/
def titleBody : JsonObject := [("title", .string "Final")]

/-- A body with a new title: it names no column that is not editable, and the title is all that
changes. -/
theorem exam_update_edits_iff_title : ∃ result,
    updateExamObject movedExams (managerOf "org_a") "exam_1" titleBody = .ok result ∧
      OnlyEdits "exam_1" movedExams result.2 := by
  have hnames : ∀ exam, assertSessionCanManageExams (managerOf "org_a") = .ok () →
      findAccessibleObject movedExams "exam_1" (managerOf "org_a") = .ok exam →
      NamesEditable exam titleBody := by
    intro exam _ _ key hkey value hvalue
    refine absurd ?_ hkey
    unfold readUnknown at hvalue
    obtain ⟨member, hmember, -⟩ := Option.map_eq_some_iff.mp hvalue
    have hname : member.1 = key := by simpa using List.find?_some hmember
    have hmem : member ∈ titleBody := List.mem_reverse.mp (List.mem_of_find?_eq_some hmember)
    rw [titleBody, List.mem_singleton] at hmem
    rw [← hname, hmem]
    decide
  exact ⟨_, rfl, (exam_update_edits_iff refusingColumns PlatformDatabase.empty movedExams
    (managerOf "org_a") "exam_1" titleBody (by decide)).2.mpr hnames _ rfl⟩

/-- A manager moves an exam of the own organization to another one. -/
theorem update_moves_exam : ∃ result,
    updateExamObject movedExams (managerOf "org_a") "exam_1" movingBody = .ok result ∧
      readUnknown result.1 "organizationId" = some (.string "org_b") ∧
      readUnknown result.1 "status" = some (.string "ACTIVE") ∧
      ¬ OnlyEdits "exam_1" movedExams result.2 := by
  refine ⟨_, rfl, rfl, rfl, fun hframe => ?_⟩
  have hkept := (List.forall₂_cons.mp hframe).1
  rw [if_pos (by decide)] at hkept
  have horganization : some (JsonValue.string "org_b") = some (.string "org_a") :=
    hkept "organizationId" (by decide)
  simp at horganization

end Dcvp.Proofs
