import Dcvp.Proofs.StaleSweep
import Dcvp.Proofs.StorePaths
import Dcvp.Proofs.TenantPart

/-!
# `Dcvp.Proofs.TenantReads`: what an organization reads does not depend on the others

A statement about two stores that agree on what belongs to an organization, and may differ in
everything else. A member of the organization reads the same from both (`tenant_reads_isolated`).

Two things that the methods do before they read are visible in other organizations' data, and
the statement excludes them. Outside production the demo data are put into a database that lacks
them (`SeedsInPlace`). And the sweep of stale devices draws identifiers for its events, which may
be taken (`SweepIdsFresh`).
-/

set_option autoImplicit false

namespace Dcvp.Proofs

open Dcvp.Lib
open Dcvp.Lib.Computation
open Dcvp.Shared
open Dcvp.Services.PlatformStore

/-! ### The sweep of the memory -/

section
variable {organizationId : String} {memory memory' : PlatformMemory} {session : AuthSession}

/-- To change items and to filter them commute, when the change leaves what the filter looks at. -/
theorem filter_mapWhere {α : Type} (p q : α → Bool) (f : α → α) (hf : ∀ a, q (f a) = q a)
    (items : List α) : (mapWhere p f items).filter q = mapWhere p f (items.filter q) := by
  unfold mapWhere
  rw [List.filter_map]
  congr 1
  refine List.filter_congr fun a _ => ?_
  by_cases h : p a <;> simp [h, hf]

/-- A sweep of an exam of the organization stays within its part. -/
theorem tenantMemory_sweep (ctx : PlatformContext) (examId : String) (before : Option Int)
    (turn : PlatformInput) (hid : examId ∈ tenantExamIds organizationId memory) :
    tenantMemory organizationId (memory.sweep ctx examId before turn)
      = (tenantMemory organizationId memory).sweep ctx examId before turn := by
  -- The stale devices belong to one exam, which is an exam of the organization.
  have hstale : staleDevices ctx (tenantMemory organizationId memory).proctorDevices examId before
      = staleDevices ctx memory.proctorDevices examId before := by
    refine filter_filter_of_imp fun device _ hdevice => ?_
    simp only [Bool.and_eq_true, decide_eq_true_eq] at hdevice
    have hexam : device.examId ∈ tenantExamIds organizationId memory := by
      rw [hdevice.1.1]
      exact hid
    exact attached_of_exam hexam
  rw [sweep_eq ctx examId before turn _ rfl, sweep_eq ctx examId before turn _ hstale]
  generalize hlist : staleDevices ctx memory.proctorDevices examId before = stale
  have hdevices : tenantRecords organizationId memory (·.examId) (·.candidateId)
      (mapWhere (fun device => stale.any (·.id = device.id)) (disconnectStale · turn.nowIso)
        memory.proctorDevices)
      = mapWhere (fun device => stale.any (·.id = device.id)) (disconnectStale · turn.nowIso)
        (tenantRecords organizationId memory (·.examId) (·.candidateId)
          memory.proctorDevices) :=
    filter_mapWhere _ _ (disconnectStale · turn.nowIso) (fun _ => rfl) memory.proctorDevices
  -- So the events of the sweep belong to the organization, too, and the filter keeps them all.
  have hevents : ∀ event ∈ stale.mapIdx (fun n device => heartbeatMissed device turn n),
      attached (tenantExamIds organizationId memory) (tenantCandidateIds organizationId memory)
        event.examId event.candidateId = true := by
    intro event hevent
    obtain ⟨n, hn, rfl⟩ := List.mem_mapIdx.mp hevent
    have hin : stale[n] ∈ staleDevices ctx memory.proctorDevices examId before :=
      hlist.symm ▸ List.getElem_mem hn
    have hdevice := (List.mem_filter.mp hin).2
    simp only [Bool.and_eq_true, decide_eq_true_eq] at hdevice
    have hexam : stale[n].examId ∈ tenantExamIds organizationId memory := by
      rw [hdevice.1.1]
      exact hid
    exact attached_of_exam hexam
  have hsplit : tenantRecords organizationId memory (·.examId) (·.candidateId)
      (stale.mapIdx (fun n device => heartbeatMissed device turn n) ++ memory.proctorEvents)
      = stale.mapIdx (fun n device => heartbeatMissed device turn n)
        ++ tenantRecords organizationId memory (·.examId) (·.candidateId)
          memory.proctorEvents := by
    unfold tenantRecords
    rw [List.filter_append, List.filter_eq_self.mpr hevents]
  have hpart : tenantMemory organizationId { memory with
      proctorDevices := mapWhere (fun device => stale.any (·.id = device.id))
        (disconnectStale · turn.nowIso) memory.proctorDevices
      proctorEvents :=
        stale.mapIdx (fun n device => heartbeatMissed device turn n) ++ memory.proctorEvents }
      = { tenantMemory organizationId memory with
          proctorDevices := tenantRecords organizationId memory (·.examId) (·.candidateId)
            (mapWhere (fun device => stale.any (·.id = device.id))
              (disconnectStale · turn.nowIso) memory.proctorDevices)
          proctorEvents := tenantRecords organizationId memory (·.examId) (·.candidateId)
            (stale.mapIdx (fun n device => heartbeatMissed device turn n) ++
              memory.proctorEvents) } := rfl
  rw [hpart, hsplit, hdevices]
  rfl

/-- The report after a sweep of the memory depends on the part of the organization only. -/
theorem examReportInMemory_sweep (hmember : MemberOf organizationId session)
    (h : tenantMemory organizationId memory = tenantMemory organizationId memory')
    (hunique : (memory.exams.map (·.id)).Nodup) (hunique' : (memory'.exams.map (·.id)).Nodup)
    (ctx : PlatformContext) (examId : String) (before : Option Int) (turn : PlatformInput) :
    examReportInMemory ctx (memory.sweep ctx examId before turn) examId session
      = examReportInMemory ctx (memory'.sweep ctx examId before turn) examId session := by
  have hfind : findAccessibleExam memory.exams examId session
      = findAccessibleExam memory'.exams examId session := by
    have hexams : tenantExams organizationId memory = tenantExams organizationId memory' := by
      show (tenantMemory organizationId memory).exams = (tenantMemory organizationId memory').exams
      rw [h]
    rw [← findAccessibleExam_tenant hmember hunique, hexams,
      findAccessibleExam_tenant hmember hunique']
  cases hexam : findAccessibleExam memory.exams examId session with
  | error error =>
      -- The exam is not found in either store, whatever the sweep has done.
      have hexam' := hexam
      rw [hfind] at hexam'
      show (findAccessibleExam memory.exams examId session >>= _)
        = (findAccessibleExam memory'.exams examId session >>= _)
      rw [hexam, hexam']
      rfl
  | ok exam =>
      have hid := (mem_tenantExamIds_of_found hmember hexam).2
      have hid' := (mem_tenantExamIds_of_found hmember (hfind ▸ hexam)).2
      have hleft := examReportInMemory_tenant hmember ctx
        (show ((memory.sweep ctx examId before turn).exams.map (·.id)).Nodup from hunique) examId
      have hright := examReportInMemory_tenant hmember ctx
        (show ((memory'.sweep ctx examId before turn).exams.map (·.id)).Nodup from hunique') examId
      rw [← hleft, ← hright, tenantMemory_sweep ctx examId before turn hid, h,
        tenantMemory_sweep ctx examId before turn hid']

end

/-! ### The sweep of the database -/

/-- The identifiers of the events of a sweep are free and different. -/
def SweepIdsFresh (turn : PlatformInput) (count : Nat) (db : PlatformDatabase) : Prop :=
  ∀ n < count, turn.createId "proctor" n ∉ db.proctorEvents.rows.map (·.id) ∧
    ∀ m < n, turn.createId "proctor" m ≠ turn.createId "proctor" n

/-- An event with a free identifier can be created, if its candidate and its exam are there. -/
theorem createProctorEvent_ok {db : PlatformDatabase} {row : ProctorEventRow}
    (hkey : row.id ∉ db.proctorEvents.rows.map (·.id))
    (hcandidate : db.candidates.find? row.candidateId ≠ none)
    (hexam : db.exams.find? row.examId ≠ none) :
    ∃ db', db.createProctorEvent row = .ok db' := by
  obtain ⟨table, hinsert⟩ : ∃ table, db.proctorEvents.insert? row = some table := by
    unfold Table.insert?
    rw [dif_neg hkey]
    exact ⟨_, rfl⟩
  have hrows := Table.rows_insert? hinsert
  obtain ⟨hcontent, ⟨hs, hd, hq, hl, ⟨hec, hee⟩, hrest⟩, hlast⟩ := db.related
  -- The new row refers to a candidate and an exam that are there; the other constraints are not
  -- about this table.
  have hrelated : PlatformTables.ForeignKeys
      { db.toPlatformTables with proctorEvents := table } := by
    refine ⟨hcontent, ⟨hs, hd, hq, hl, ⟨fun r hr => ?_, fun r hr => ?_⟩, hrest⟩, hlast⟩
    · rcases List.mem_append.mp (hrows ▸ hr) with hold | hnew
      · exact hec r hold
      · rw [List.mem_singleton.mp hnew]
        exact hcandidate
    · rcases List.mem_append.mp (hrows ▸ hr) with hold | hnew
      · exact hee r hold
      · rw [List.mem_singleton.mp hnew]
        exact hexam
  have hunique : PlatformTables.UniqueColumns
      { db.toPlatformTables with proctorEvents := table } := db.unique
  refine ⟨⟨_, hunique, hrelated⟩, ?_⟩
  unfold PlatformDatabase.createProctorEvent PlatformDatabase.create
  rw [hinsert]
  exact PlatformDatabase.commit_ok hunique hrelated

/-- What a sweep over some devices leaves: their rows are disconnected in their places, one event
for each is appended, and no other table changes. -/
structure Swept (turn : PlatformInput) (stale : List ProctorDeviceRow)
    (db db' : PlatformDatabase) : Prop where
  tables : db'.toPlatformTables = { db.toPlatformTables with
    proctorDevices := db'.proctorDevices, proctorEvents := db'.proctorEvents }
  devices : db'.proctorDevices.rows = db.proctorDevices.rows.map fun row =>
    if stale.any (·.id = row.id) then disconnectRow turn.now turn.now row else row
  events : db'.proctorEvents.rows = db.proctorEvents.rows ++
    stale.mapIdx fun n device => missedEventRow device (turn.uuid n) turn.now

/-- One device of a sweep: both statements succeed. The first one writes the row of the device, and
the second one its event. -/
theorem disconnectDevice_ok {db : PlatformDatabase} {turn : PlatformInput} {n : Nat}
    {device : ProctorDeviceRow} (hdevice : device.id ∈ db.proctorDevices.rows.map (·.id))
    (hcandidate : db.candidates.find? device.candidateId ≠ none)
    (hexam : db.exams.find? device.examId ≠ none)
    (hfresh : turn.createId "proctor" n ∉ db.proctorEvents.rows.map (·.id)) :
    ∃ db', disconnectDevice turn n device db = (.ok (), db') ∧
      db'.toPlatformTables = { db.toPlatformTables with
        proctorDevices := db'.proctorDevices, proctorEvents := db'.proctorEvents } ∧
      (db'.proctorDevices.rows = db.proctorDevices.rows.map fun row =>
        if row.id = device.id then disconnectRow turn.now turn.now row else row) ∧
      db'.proctorEvents.rows = db.proctorEvents.rows ++
        [missedEventRow device (turn.uuid n) turn.now] := by
  obtain ⟨row, hmem, hid⟩ := List.mem_map.mp hdevice
  have hrow : db.proctorDevices.find? device.id = some row :=
    (db.proctorDevices.find?_eq_some_iff _ _).mpr ⟨hmem, hid⟩
  -- The first statement writes the row of the device, and the second one its event.
  obtain ⟨between, hupdate⟩ := updateProctorDevice_ok (disconnectRow turn.now turn.now)
    (fun _ => rfl) hrow fun _ => rfl
  have hbetween : between.toPlatformTables = { db.toPlatformTables with
      proctorDevices := db.proctorDevices.updateMany (fun row => row.id = device.id)
        (disconnectRow turn.now turn.now) fun _ => rfl } := by
    unfold PlatformDatabase.updateProctorDevice at hupdate
    rw [hrow] at hupdate
    exact PlatformDatabase.commit_eq_ok hupdate
  obtain ⟨db', hcreate⟩ : ∃ db', between.createProctorEvent
      (missedEventRow device (turn.uuid n) turn.now) = .ok db' := by
    refine createProctorEvent_ok ?_ ?_ ?_
    · rw [hbetween]
      exact hfresh
    · rw [hbetween]
      exact hcandidate
    · rw [hbetween]
      exact hexam
  obtain ⟨table, hinsert, htables⟩ := PlatformDatabase.create_eq_ok hcreate
  have hdevices : db'.proctorDevices = between.proctorDevices := by rw [htables]
  have hevents : db'.proctorEvents = table := by rw [htables]
  refine ⟨db', ?_, ?_, ?_, ?_⟩
  · have hfirst : updates (fun db => db.updateProctorDevice device.id
        (disconnectRow turn.now turn.now) fun _ => rfl) db = (.ok (), between) := by
      unfold updates
      simp only [hupdate]
    have hsecond : updates (fun db => db.createProctorEvent
        (missedEventRow device (turn.uuid n) turn.now)) between = (.ok (), db') := by
      unfold updates
      simp only [hcreate]
    unfold disconnectDevice
    rw [bind_apply, hfirst]
    exact hsecond
  · rw [hdevices, hevents, htables]
    rw [hbetween]
  · rw [hdevices, hbetween]
    simp [Table.updateMany]
  · rw [hevents, Table.rows_insert? hinsert, hbetween]

/-- A whole sweep. The induction is on the devices, the clock and the random values of the
others are those of a turn that starts one later. -/
theorem sweep_ok {devices : List ProctorDeviceRow} {turn : PlatformInput}
    {db : PlatformDatabase}
    (hdevices : ∀ device ∈ devices, device.id ∈ db.proctorDevices.rows.map (·.id))
    (hrelated : ∀ device ∈ devices, db.candidates.find? device.candidateId ≠ none ∧
      db.exams.find? device.examId ≠ none)
    (hfresh : SweepIdsFresh turn devices.length db) :
    ∃ db', all (devices.mapIdx (disconnectDevice turn)) db = (.ok (), db') ∧
      Swept turn devices db db' := by
  induction devices generalizing turn db with
  | nil =>
      refine ⟨db, rfl, rfl, ?_, ?_⟩
      · simp
      · simp
  | cons device rest ih =>
      have hfirst := hrelated device (List.mem_cons_self ..)
      obtain ⟨between, hrun, htables, hrows, hevents⟩ := disconnectDevice_ok
        (hdevices device (List.mem_cons_self ..)) hfirst.1 hfirst.2
        (hfresh 0 (Nat.zero_lt_succ _)).1
      -- The rest finds the same keys behind the first device.
      have hkeys : between.proctorDevices.rows.map (·.id)
          = db.proctorDevices.rows.map (·.id) := by
        rw [hrows, List.map_map]
        refine List.map_congr_left fun row _ => ?_
        by_cases h : row.id = device.id <;> simp [h, disconnectRow]
      have hcandidates : between.candidates = db.candidates := by rw [htables]
      have hexams : between.exams = db.exams := by rw [htables]
      -- Its identifiers are those of the next draws, which differ from the one of the first
      -- event.
      have hlater : SweepIdsFresh { turn with uuid := fun n => turn.uuid (n + 1) } rest.length
          between := by
        intro n hn
        have hnext := hfresh (n + 1) (Nat.succ_lt_succ hn)
        refine ⟨?_, fun m hm => hnext.2 (m + 1) (Nat.succ_lt_succ hm)⟩
        rw [hevents, List.map_append, List.mem_append]
        rintro (hold | hnew)
        · exact hnext.1 hold
        · exact hnext.2 0 (Nat.succ_pos n) (List.mem_singleton.mp hnew).symm
      obtain ⟨db', hrest, hswept⟩ := ih
        (fun other hother => hkeys ▸ hdevices other (List.mem_cons_of_mem _ hother))
        (fun other hother => by
          rw [hcandidates, hexams]
          exact hrelated other (List.mem_cons_of_mem _ hother)) hlater
      refine ⟨db', ?_, ?_, ?_, ?_⟩
      · rw [List.mapIdx_cons]
        unfold all
        rw [bind_apply]
        have hattempt : attempt (disconnectDevice turn 0 device) db
            = (.ok (.ok ()), between) := by
          unfold attempt
          rw [hrun]
        rw [hattempt]
        show (all (rest.mapIdx (disconnectDevice { turn with uuid := fun n => turn.uuid (n + 1) }))
          >>= fun _ => reads fun _ => .ok ()) between = _
        rw [bind_apply, hrest]
        rfl
      · rw [hswept.tables, htables]
      · rw [hswept.devices, hrows, List.map_map]
        refine List.map_congr_left fun row _ => ?_
        by_cases h : row.id = device.id
        · simp [h, disconnectRow]
        · have h' : ¬ device.id = row.id := fun heq => h heq.symm
          simp [h, h']
      · rw [hswept.events, hevents, List.mapIdx_cons, List.append_assoc]
        rfl

/-- The stale devices of an exam of the organization are in its part. -/
theorem staleProctorDevices_tenant {organizationId examId : String} (before : Int)
    {db : PlatformDatabase} (hid : examId ∈ tenantExamKeys organizationId db.toPlatformTables) :
    db.staleProctorDevices examId before
      = (tenantTables organizationId db.toPlatformTables).proctorDevices.rows.filter fun row =>
          decide (row.examId = examId) && decide (row.status = .connected) &&
            row.heartbeatBefore before := by
  refine (filter_filter_of_imp fun row _ hrow => ?_).symm
  simp only [Bool.and_eq_true, decide_eq_true_eq] at hrow
  have hexam : row.examId ∈ tenantExamKeys organizationId db.toPlatformTables := by
    rw [hrow.1.1]
    exact hid
  exact attached_of_exam hexam

section
variable {organizationId : String} {turn : PlatformInput} {stale : List ProctorDeviceRow}
  {db db' : PlatformDatabase}

/-- A sweep of devices of the organization stays within its part: taking the part and sweeping
commute. -/
theorem tenantTables_swept (hswept : Swept turn stale db db')
    (hstale : ∀ device ∈ stale,
      device.examId ∈ tenantExamKeys organizationId db.toPlatformTables) :
    ∃ devices events, tenantTables organizationId db'.toPlatformTables =
        { tenantTables organizationId db.toPlatformTables with
          proctorDevices := devices, proctorEvents := events } ∧
      devices.rows = mapWhere (fun row => stale.any (·.id = row.id))
        (disconnectRow turn.now turn.now)
        (tenantTables organizationId db.toPlatformTables).proctorDevices.rows ∧
      events.rows = (tenantTables organizationId db.toPlatformTables).proctorEvents.rows ++
        stale.mapIdx fun n device => missedEventRow device (turn.uuid n) turn.now := by
  -- The part of the swept tables: taking the part and sweeping commute, since a sweep keeps the
  -- columns that the part looks at.
  refine ⟨db'.proctorDevices.filter
      (attachedRow organizationId db.toPlatformTables ProctorDeviceRow.examId
        ProctorDeviceRow.candidateId),
    db'.proctorEvents.filter
      (attachedRow organizationId db.toPlatformTables ProctorEventRow.examId
        ProctorEventRow.candidateId), ?_, ?_, ?_⟩
  · rw [hswept.tables]
    rfl
  · rw [Table.rows_filter, hswept.devices]
    exact filter_mapWhere _ _ (disconnectRow turn.now turn.now) (fun _ => rfl)
      db.proctorDevices.rows
  · rw [Table.rows_filter, hswept.events, List.filter_append]
    congr 1
    refine List.filter_eq_self.mpr fun row hrow => ?_
    obtain ⟨n, hn, rfl⟩ := List.mem_mapIdx.mp hrow
    exact attached_of_exam (hstale stale[n] (List.getElem_mem hn))

/-- Sweeps of the same devices of the organization leave the same part of it. -/
theorem tenantTables_swept_eq {db₂ db₂' : PlatformDatabase}
    (h : tenantTables organizationId db.toPlatformTables
      = tenantTables organizationId db₂.toPlatformTables)
    (hswept : Swept turn stale db db') (hswept₂ : Swept turn stale db₂ db₂')
    (hstale : ∀ device ∈ stale,
      device.examId ∈ tenantExamKeys organizationId db.toPlatformTables) :
    tenantTables organizationId db'.toPlatformTables
      = tenantTables organizationId db₂'.toPlatformTables := by
  have hkeys : tenantExamKeys organizationId db.toPlatformTables
      = tenantExamKeys organizationId db₂.toPlatformTables :=
    congrArg (fun t : PlatformTables => t.exams.rows.map ExamRow.id) h
  obtain ⟨devices, events, htables, hdevices, hevents⟩ := tenantTables_swept hswept hstale
  obtain ⟨devices₂, events₂, htables₂, hdevices₂, hevents₂⟩ :=
    tenantTables_swept hswept₂ (hkeys ▸ hstale)
  have hdev : devices = devices₂ := Table.ext (by rw [hdevices, hdevices₂, h])
  have hev : events = events₂ := Table.ext (by rw [hevents, hevents₂, h])
  rw [htables, htables₂, hdev, hev, h]

end

/-! ### The demo data -/

/-- There is nothing to do for `ensurePlatformSeedData`: in production, and where the demo
organization, some exam and the test cases of the demo question are there. -/
def SeedsInPlace (ctx : StoreContext) (state : ExamAdminMemoryState) (db : PlatformDatabase) :
    Prop :=
  ctx.production = true ∨
    (db.organizations.find? state.organization.id ≠ none ∧ db.exams.rows ≠ [] ∧
      ∀ question, state.questions.head? = some question →
        ∃ row ∈ db.testCases.rows, row.questionId = question.id)

/-- Then the database stays as it is, because the three steps of the seeding find what they would
put in. -/
theorem ensurePlatformSeedData_inPlace {ctx : StoreContext} {state : ExamAdminMemoryState}
    {db : PlatformDatabase} (h : SeedsInPlace ctx state db) (now : Int) :
    ensurePlatformSeedData ctx state now db = (.ok (), db) := by
  unfold ensurePlatformSeedData
  by_cases hproduction : ctx.production = true
  · rw [if_pos hproduction]
    rfl
  · obtain ⟨horganization, hexams, hcases⟩ := h.resolve_left hproduction
    -- The three steps of the seeding find what they would put in.
    have hupsert : updates (fun db : PlatformDatabase =>
        db.upsertOrganization (demoOrganizationRow ctx state.organization now)) db
        = (.ok (), db) := by
      obtain ⟨row, hrow⟩ := Option.ne_none_iff_exists'.mp horganization
      unfold updates PlatformDatabase.upsertOrganization
      simp only [demoOrganizationRow, hrow]
    have hcount : db.exams.count (fun _ => true) ≠ 0 := by
      intro hzero
      refine hexams (List.eq_nil_iff_forall_not_mem.mpr fun row hrow => ?_)
      exact List.countP_eq_zero.mp hzero row hrow rfl
    rw [if_neg hproduction, bind_apply, hupsert]
    show (if db.exams.count (fun _ => true) = 0 then createDemoData ctx state now
      else ensureDemoTestCases state now) db = _
    rw [if_neg hcount]
    unfold ensureDemoTestCases
    cases hquestion : state.questions.head? with
    | none => rfl
    | some question =>
        obtain ⟨row, hrow, hid⟩ := hcases question hquestion
        have hsome : db.testCases.count (fun row => row.questionId = question.id) ≠ 0 := by
          intro hzero
          exact List.countP_eq_zero.mp hzero row hrow (decide_eq_true hid)
        show (if db.testCases.count (fun row => row.questionId = question.id) = 0 then
          updates fun db => db.createMissingTestCases state.testCases now else pure ()) db = _
        rw [if_neg hsome]
        rfl

/-- A sweep does not touch them. -/
theorem seedsInPlace_swept {ctx : StoreContext} {state : ExamAdminMemoryState}
    {turn : PlatformInput} {stale : List ProctorDeviceRow} {db db' : PlatformDatabase}
    (hswept : Swept turn stale db db') (h : SeedsInPlace ctx state db) :
    SeedsInPlace ctx state db' := by
  unfold SeedsInPlace
  rw [hswept.tables]
  exact h

/-- What a read in a seeded context answers, when the demo data are in place. -/
theorem orInMemory_inPlace {α : Type} {ctx : StoreContext} {store : Store} (now : Int)
    (f : PlatformDatabase → Except ServiceException α)
    (inMemory : PlatformMemory → Except ServiceException α)
    (h : store.usesMemory ctx = false →
      SeedsInPlace ctx store.memory.examAdminMemoryState store.database) :
    (orInMemory (trySeededDatabase ctx (reads f) now) inMemory store).1 =
      if store.usesMemory ctx then inMemory store.memory
      else
        match f store.database with
        | .ok a => .ok a
        | .error error =>
            if isRequestException error then .error error
            else if ctx.databaseFallbackEnabled then inMemory store.memory
            else .error (.http .serviceUnavailable "Database operation failed.") := by
  unfold orInMemory
  rw [bind_apply, trySeededDatabase_apply]
  unfold tryDatabase
  cases hmem : store.usesMemory ctx with
  | true => rfl
  | false =>
      -- The seed data are in place, so the operation is the read alone.
      have hrun : (do
          ensurePlatformSeedData ctx store.memory.examAdminMemoryState now
          reads f : DatabaseOperation α) store.database
          = (f store.database, store.database) := by
        rw [bind_apply, ensurePlatformSeedData_inPlace (h hmem) now]
        rfl
      simp only [Bool.false_eq_true, if_false, hrun]
      cases f store.database with
      | ok a => rfl
      | error error =>
          by_cases hrequest : isRequestException error = true
          · simp only [hrequest, if_true]
          · simp only [Bool.not_eq_true] at hrequest
            simp only [hrequest, Bool.false_eq_true, if_false]
            by_cases hfallback : ctx.databaseFallbackEnabled = true
            · simp only [hfallback, if_true]
              rfl
            · simp only [hfallback, Bool.false_eq_true, if_false]

/-! ### The sweep of a store -/

section
variable {ctx : StoreContext} {examId : String} {now : Int} {turn : PlatformInput}
  {store : Store}

/-- The sweep in a store that works on its memory. -/
theorem markStale_inMemory (h : store.usesMemory ctx = true) :
    markStaleProctorDevices ctx examId now turn store
      = (.ok (), store.withMemory (store.memory.sweep ctx.toPlatformContext examId
          (staleBefore ctx.toPlatformContext now) turn)) := by
  unfold markStaleProctorDevices
  simp only [bind_apply]
  unfold tryDatabase
  rw [if_pos h]
  rfl

/-- A heartbeat timeout that is no number: the date of the query is refused. -/
theorem markStale_invalid (h : store.usesMemory ctx = false)
    (hbefore : staleBefore ctx.toPlatformContext now = none) :
    markStaleProctorDevices ctx examId now turn store =
      if ctx.databaseFallbackEnabled then
        (.ok (), { store with
          memory := store.memory.sweep ctx.toPlatformContext examId none turn
          databaseUnavailable := true })
      else (.error (.http .serviceUnavailable "Database operation failed."), store) := by
  unfold markStaleProctorDevices
  simp only [bind_apply, hbefore]
  unfold tryDatabase
  simp only [h, Bool.false_eq_true, if_false, markStaleInDatabase, throw_apply,
    isRequestException]
  by_cases hfallback : ctx.databaseFallbackEnabled = true
  · simp only [hfallback, if_true]
    rfl
  · simp only [hfallback, Bool.false_eq_true, if_false]

/-- The sweep in a store that works on its database, with a valid timeout and identifiers that are
free. It has no exception then. -/
theorem markStale_inDatabase {before : Int} (h : store.usesMemory ctx = false)
    (hbefore : staleBefore ctx.toPlatformContext now = some before)
    (hfresh : SweepIdsFresh turn
      (store.database.staleProctorDevices examId before).length store.database) :
    ∃ db', markStaleProctorDevices ctx examId now turn store
        = (.ok (), { store with database := db' }) ∧
      Swept turn (store.database.staleProctorDevices examId before) store.database db' := by
  have hstale : ∀ device ∈ store.database.staleProctorDevices examId before,
      device ∈ store.database.proctorDevices.rows := fun device hdevice =>
    (List.mem_filter.mp hdevice).1
  obtain ⟨-, ⟨-, -, -, -, -, ⟨hcandidates, hexams⟩, -⟩, -⟩ := store.database.related
  -- Stored devices have their candidate and exam, so every write of the sweep succeeds when its
  -- identifiers are free.
  obtain ⟨db', hrun, hswept⟩ := sweep_ok
    (fun device hdevice => List.mem_map_of_mem (hstale device hdevice))
    (fun device hdevice => ⟨hcandidates device (hstale device hdevice),
      hexams device (hstale device hdevice)⟩) hfresh
  refine ⟨db', ?_, hswept⟩
  have hmark : markStaleInDatabase examId (some before) turn store.database = (.ok (), db') := by
    show (reads (fun db => .ok (db.staleProctorDevices examId before)) >>= fun stale =>
      all (stale.mapIdx (disconnectDevice turn))) store.database = _
    rw [bind_apply]
    exact hrun
  unfold markStaleProctorDevices
  simp only [bind_apply, hbefore]
  unfold tryDatabase
  simp only [h, Bool.false_eq_true, if_false, hmark]
  rfl

end

/-! ### Two stores -/

/-- The stores have the same data of the organization, and are in the same mode. -/
structure SameTenantData (organizationId : String) (s t : Store) : Prop where
  memory : tenantMemory organizationId s.memory = tenantMemory organizationId t.memory
  tables : tenantTables organizationId s.database.toPlatformTables
    = tenantTables organizationId t.database.toPlatformTables
  unavailable : s.databaseUnavailable = t.databaseUnavailable

/-- The exams of the memory are told apart by their identifiers. When the database is read, the
demo data are in it, and the identifiers that the sweep of the exam draws are free. -/
structure Undisturbed (ctx : StoreContext) (examId : String) (now : Int) (turn : PlatformInput)
    (store : Store) : Prop where
  unique : (store.memory.exams.map (·.id)).Nodup
  seeds : store.usesMemory ctx = false →
    SeedsInPlace ctx store.memory.examAdminMemoryState store.database
  fresh : store.usesMemory ctx = false → ∀ before,
    staleBefore ctx.toPlatformContext now = some before →
      SweepIdsFresh turn (store.database.staleProctorDevices examId before).length store.database

/-- What a read of the exam's report depends on. -/
structure ReportAgrees (ctx : StoreContext) (examId : String) (session : AuthSession)
    (s t : Store) : Prop where
  mode : s.usesMemory ctx = t.usesMemory ctx
  memory : examReportInMemory ctx.toPlatformContext s.memory examId session
    = examReportInMemory ctx.toPlatformContext t.memory examId session
  tables : examReportInDatabase s.database.toPlatformTables examId session
    = examReportInDatabase t.database.toPlatformTables examId session
  left : s.usesMemory ctx = false → SeedsInPlace ctx s.memory.examAdminMemoryState s.database
  right : t.usesMemory ctx = false → SeedsInPlace ctx t.memory.examAdminMemoryState t.database

/-- A read that finds the same on both paths answers the same. -/
theorem orInMemory_same {α : Type} {ctx : StoreContext} {s t : Store} (now : Int)
    {f : PlatformDatabase → Except ServiceException α}
    {inMemory : PlatformMemory → Except ServiceException α}
    (hmode : s.usesMemory ctx = t.usesMemory ctx) (hdatabase : f s.database = f t.database)
    (hmemory : inMemory s.memory = inMemory t.memory)
    (hs : s.usesMemory ctx = false → SeedsInPlace ctx s.memory.examAdminMemoryState s.database)
    (ht : t.usesMemory ctx = false → SeedsInPlace ctx t.memory.examAdminMemoryState t.database) :
    (orInMemory (trySeededDatabase ctx (reads f) now) inMemory s).1
      = (orInMemory (trySeededDatabase ctx (reads f) now) inMemory t).1 := by
  rw [orInMemory_inPlace now f inMemory hs, orInMemory_inPlace now f inMemory ht, hmode,
    hdatabase, hmemory]

section
variable {organizationId : String} {ctx : StoreContext} {session : AuthSession}
  {examId : String} {now : Int} {turn : PlatformInput} {s t : Store}

/-- Two stores with the same data of an organization work on the same storage. -/
theorem SameTenantData.mode (h : SameTenantData organizationId s t) :
    s.usesMemory ctx = t.usesMemory ctx := by
  unfold Store.usesMemory
  rw [h.unavailable]

/-- A report that was read before a sweep of the exam, and one that was read behind it. -/
theorem examReportInDatabase_swept (hmember : MemberOf organizationId session)
    (h : SameTenantData organizationId s t) {before : Int} {db db' : PlatformDatabase}
    (hs : Swept turn (s.database.staleProctorDevices examId before) s.database db)
    (ht : Swept turn (t.database.staleProctorDevices examId before) t.database db') :
    examReportInDatabase db.toPlatformTables examId session
      = examReportInDatabase db'.toPlatformTables examId session := by
  have hfind : findAccessibleExamRow s.database.toPlatformTables examId session
      = findAccessibleExamRow t.database.toPlatformTables examId session := by
    rw [← findAccessibleExamRow_tenant hmember, h.tables, findAccessibleExamRow_tenant hmember]
  have hleft : findAccessibleExamRow db.toPlatformTables examId session
      = findAccessibleExamRow s.database.toPlatformTables examId session := by
    rw [hs.tables]
    rfl
  have hright : findAccessibleExamRow db'.toPlatformTables examId session
      = findAccessibleExamRow t.database.toPlatformTables examId session := by
    rw [ht.tables]
    rfl
  cases hexam : findAccessibleExamRow s.database.toPlatformTables examId session with
  | error error =>
      -- The exam is not found in either store, whatever the sweeps have done.
      unfold examReportInDatabase
      rw [hleft, hright, ← hfind, hexam]
      rfl
  | ok exam =>
      have hid := (mem_tenantExamKeys_of_found hmember hexam).2
      have hid' := (mem_tenantExamKeys_of_found hmember (hfind ▸ hexam)).2
      have hstale : t.database.staleProctorDevices examId before
          = s.database.staleProctorDevices examId before := by
        rw [staleProctorDevices_tenant before hid, staleProctorDevices_tenant before hid',
          h.tables]
      rw [hstale] at ht
      have hpart := tenantTables_swept_eq h.tables hs ht fun device hdevice => by
        have hin := (List.mem_filter.mp hdevice).2
        simp only [Bool.and_eq_true, decide_eq_true_eq] at hin
        rw [hin.1.1]
        exact hid
      rw [← examReportInDatabase_tenant hmember, hpart, examReportInDatabase_tenant hmember]

/-- The sweeps of two stores with the same data of the organization end alike, and the report of
the exam is the same behind them. -/
theorem markStale_same (hmember : MemberOf organizationId session)
    (h : SameTenantData organizationId s t) (hs : Undisturbed ctx examId now turn s)
    (ht : Undisturbed ctx examId now turn t) :
    (markStaleProctorDevices ctx examId now turn s).1
        = (markStaleProctorDevices ctx examId now turn t).1 ∧
      ReportAgrees ctx examId session (markStaleProctorDevices ctx examId now turn s).2
        (markStaleProctorDevices ctx examId now turn t).2 := by
  have hsweep := fun before => examReportInMemory_sweep hmember h.memory hs.unique ht.unique
    ctx.toPlatformContext examId before turn
  have hmemory : examReportInMemory ctx.toPlatformContext s.memory examId session
      = examReportInMemory ctx.toPlatformContext t.memory examId session := by
    rw [← examReportInMemory_tenant hmember _ hs.unique, h.memory,
      examReportInMemory_tenant hmember _ ht.unique]
  have htables : examReportInDatabase s.database.toPlatformTables examId session
      = examReportInDatabase t.database.toPlatformTables examId session := by
    rw [← examReportInDatabase_tenant hmember, h.tables, examReportInDatabase_tenant hmember]
  have hmode : s.usesMemory ctx = t.usesMemory ctx := h.mode
  cases hmem : s.usesMemory ctx with
  | true =>
      rw [markStale_inMemory hmem, markStale_inMemory (hmode ▸ hmem)]
      exact ⟨rfl, hmode, hsweep _, htables, hs.seeds, ht.seeds⟩
  | false =>
      have hmem' : t.usesMemory ctx = false := hmode ▸ hmem
      cases hbefore : staleBefore ctx.toPlatformContext now with
      | none =>
          rw [markStale_invalid hmem hbefore, markStale_invalid hmem' hbefore]
          by_cases hfallback : ctx.databaseFallbackEnabled = true
          · -- Both stores go on with the memory.
            rw [if_pos hfallback, if_pos hfallback]
            exact ⟨rfl, rfl, hsweep _, htables, fun _ => hs.seeds hmem, fun _ => ht.seeds hmem'⟩
          · rw [if_neg hfallback, if_neg hfallback]
            exact ⟨rfl, hmode, hmemory, htables, hs.seeds, ht.seeds⟩
      | some before =>
          obtain ⟨db, hrun, hswept⟩ := markStale_inDatabase hmem hbefore
            (hs.fresh hmem before hbefore)
          obtain ⟨db', hrun', hswept'⟩ := markStale_inDatabase hmem' hbefore
            (ht.fresh hmem' before hbefore)
          rw [hrun, hrun']
          exact ⟨rfl, hmode, hmemory, examReportInDatabase_swept hmember h hswept hswept',
            fun _ => seedsInPlace_swept hswept (hs.seeds hmem),
            fun _ => seedsInPlace_swept hswept' (ht.seeds hmem')⟩

/-- A report that is read where the reports agree. -/
theorem ReportAgrees.report (h : ReportAgrees ctx examId session s t) (now : Int) :
    (getExamReportInStore ctx examId session now s).1
      = (getExamReportInStore ctx examId session now t).1 :=
  orInMemory_same now h.mode h.tables h.memory h.left h.right

/-- What follows a check of the rights answers the same, if it answers the same without it. -/
theorem assertRights_same {α : Type} {x : StoreOperation α}
    (check : Except ServiceException Unit) (h : (x s).1 = (x t).1) :
    ((assertRights check >>= fun _ => x) s).1 = ((assertRights check >>= fun _ => x) t).1 := by
  rw [bind_apply, bind_apply]
  cases check with
  | error error => rfl
  | ok _ => exact h

/-- A report behind a sweep is the same for two stores with the same data of the organization, if
neither sweep is disturbed. -/
theorem sweptReport_same (hmember : MemberOf organizationId session)
    (h : SameTenantData organizationId s t) (hs : Undisturbed ctx examId now turn s)
    (ht : Undisturbed ctx examId now turn t) :
    ((do
      markStaleProctorDevices ctx examId now turn
      getExamReportInStore ctx examId session turn.now : StoreOperation ExamReport) s).1
    = ((do
      markStaleProctorDevices ctx examId now turn
      getExamReportInStore ctx examId session turn.now : StoreOperation ExamReport) t).1 := by
  obtain ⟨hended, hagrees⟩ := markStale_same hmember h hs ht
  rw [bind_apply, bind_apply]
  cases hleft : markStaleProctorDevices ctx examId now turn s with
  | mk ended s' =>
      cases hright : markStaleProctorDevices ctx examId now turn t with
      | mk ended' t' =>
          rw [hleft, hright] at hended hagrees
          cases hended
          cases ended with
          | error error => rfl
          | ok _ => exact hagrees.report turn.now

/-- Two states with the same answer of a computation have the same answer of what is made of it. -/
theorem map_same {α β : Type} {x : StoreOperation α} (f : α → β) (h : (x s).1 = (x t).1) :
    ((x >>= fun a => pure (f a)) s).1 = ((x >>= fun a => pure (f a)) t).1 := by
  rw [bind_apply, bind_apply]
  cases hleft : x s with
  | mk ended s' =>
      cases hright : x t with
      | mk ended' t' =>
          rw [hleft, hright] at h
          cases h
          cases ended <;> rfl

end

/-- Members of an organization read the same, error or answer, from two stores that have the same
data of the organization. Each store works on its memory or on its database. The demo data are in
the database, and the identifiers that the sweep draws are free in it. -/
theorem tenant_reads_isolated (ctx : StoreContext) (organizationId : String)
    (session : AuthSession) (examId : String) (now : Int) (turn : PlatformInput) (s t : Store)
    (hrole : session.user.role = .organization ∨ session.user.role = .proctor)
    (horganization : session.organization.id = organizationId)
    (h : SameTenantData organizationId s t) (hs : Undisturbed ctx examId now turn s)
    (ht : Undisturbed ctx examId now turn t) :
    (listExams ctx session now s).1 = (listExams ctx session now t).1 ∧
    (getExamDetail ctx examId session now s).1 = (getExamDetail ctx examId session now t).1 ∧
    (getExamReport ctx examId session now turn s).1
      = (getExamReport ctx examId session now turn t).1 ∧
    (getLiveProctorState ctx examId session now turn s).1
      = (getLiveProctorState ctx examId session now turn t).1 ∧
    (getDashboard ctx session now s).1 = (getDashboard ctx session now t).1 := by
  have hmember : MemberOf organizationId session := by
    refine ⟨?_, horganization⟩
    rcases hrole with hrole | hrole <;> rw [hrole] <;> decide
  -- The report and the live state read the same rows behind the same sweep.
  have hreport := sweptReport_same hmember h hs ht
  refine ⟨?_, ?_, ?_, ?_, ?_⟩
  · refine assertRights_same _ (orInMemory_same now h.mode ?_ ?_ hs.seeds ht.seeds)
    · rw [← listExamsInDatabase_tenant hmember, h.tables, listExamsInDatabase_tenant hmember]
    · rw [← listExamsInMemory_tenant hmember, h.memory, listExamsInMemory_tenant hmember]
  · refine assertRights_same _ (orInMemory_same now h.mode ?_ ?_ hs.seeds ht.seeds)
    · rw [← examDetailInDatabase_tenant hmember, h.tables, examDetailInDatabase_tenant hmember]
    · rw [← examDetailInMemory_tenant hmember hs.unique, h.memory,
        examDetailInMemory_tenant hmember ht.unique]
  · exact assertRights_same _ hreport
  · refine assertRights_same _ ?_
    have hlive := map_same buildLiveProctorState hreport
    simpa only [bind_assoc] using hlive
  · refine assertRights_same _ (orInMemory_same now h.mode ?_ ?_ hs.seeds ht.seeds)
    · rw [← dashboardInDatabase_tenant hmember, h.tables, dashboardInDatabase_tenant hmember]
    · rw [← dashboardInMemory_tenant hmember, h.memory, dashboardInMemory_tenant hmember]

/-! ### Two organizations in production -/

/-- A device of an exam whose last heartbeat was in 1970. -/
def silentDevice (id candidateId examId : String) : ProctorDeviceRow where
  id := id
  candidateId := candidateId
  examId := examId
  role := .primaryPc
  status := .connected
  lastHeartbeatAt := some 0
  createdAt := 0
  updatedAt := 0

/-- An exam of an organization. -/
def plainExam (id organizationId : String) : ExamRow where
  id := id
  organizationId := organizationId
  title := "Exam"
  description := ""
  startAt := 0
  endAt := 3600000
  durationMinutes := 60
  languages := []
  createdAt := 0

/-- A candidate of an exam. -/
def plainCandidate (id examId : String) : CandidateRow where
  id := id
  examId := examId
  name := "Kim"
  email := "kim@example.com"
  inviteToken := "invite_" ++ id
  createdAt := 0

/-- A database with an exam of `org_a`. -/
def aloneDatabase : PlatformDatabase where
  organizations := ⟨[⟨"org_a", "A", "ORG-A", 0⟩], by decide⟩
  exams := ⟨[plainExam "exam_a" "org_a"], by decide⟩
  candidates := ⟨[plainCandidate "cand_a" "exam_a"], by decide⟩
  proctorDevices := ⟨[silentDevice "device_a" "cand_a" "exam_a"], by decide⟩
  unique := by decide +kernel
  related := by decide +kernel

/-- The database with an exam of `org_b` as well, and with an event in it. -/
def sharedDatabase : PlatformDatabase where
  organizations := ⟨[⟨"org_b", "B", "ORG-B", 0⟩, ⟨"org_a", "A", "ORG-A", 0⟩], by decide⟩
  exams := ⟨[plainExam "exam_b" "org_b", plainExam "exam_a" "org_a"], by decide⟩
  candidates := ⟨[plainCandidate "cand_b" "exam_b", plainCandidate "cand_a" "exam_a"], by decide⟩
  proctorDevices := ⟨[silentDevice "device_a" "cand_a" "exam_a"], by decide⟩
  proctorEvents := ⟨[{
    id := "proctor_1", candidateId := "cand_b", examId := "exam_b", type := .tabHidden,
    createdAt := 0 }], by decide⟩
  unique := by decide +kernel
  related := by decide +kernel

/-- A store with the memory of a new process, and the database. -/
def startedStore (database : PlatformDatabase) : Store where
  memory := createPlatformSeedData 0
  database

/-- The two stores have the same data of `org_a`. -/
theorem startedStore_same :
    SameTenantData "org_a" (startedStore aloneDatabase) (startedStore sharedDatabase) :=
  ⟨rfl, rfl, rfl⟩

/-- A turn whose random values are all the same. -/
def constantTurn (uuid : String) : PlatformInput where
  now := 60001
  uuid := fun _ => uuid

/-- In production no demo data are put in, and the sweep goes through. -/
theorem undisturbed_production {turn : PlatformInput} {database : PlatformDatabase}
    (h : SweepIdsFresh turn (database.staleProctorDevices "exam_a" 30000).length database) :
    Undisturbed deployedContext "exam_a" 60000 turn (startedStore database) where
  unique := by
    show ["exam_backend_001"].Nodup
    decide
  seeds := fun _ => .inl (by decide)
  fresh := by
    intro _ before hbefore
    have hlimit : staleBefore deployedContext.toPlatformContext 60000 = some 30000 := rfl
    rw [hlimit] at hbefore
    cases hbefore
    exact h

instance (turn : PlatformInput) (count : Nat) (db : PlatformDatabase) :
    Decidable (SweepIdsFresh turn count db) :=
  inferInstanceAs (Decidable (∀ n < count, _ ∧ ∀ m < n, _))

/-- The reads of `org_a` with and without the exam of `org_b`. -/
theorem tenant_reads_isolated_org_a :
    (getExamReport deployedContext "exam_a" (managerOf "org_a") 60000 (constantTurn "2")
        (startedStore aloneDatabase)).1
      = (getExamReport deployedContext "exam_a" (managerOf "org_a") 60000 (constantTurn "2")
        (startedStore sharedDatabase)).1 :=
  (tenant_reads_isolated deployedContext "org_a" (managerOf "org_a") "exam_a" 60000
    (constantTurn "2") (startedStore aloneDatabase) (startedStore sharedDatabase) (.inl rfl) rfl
    startedStore_same (undisturbed_production (by decide +kernel))
    (undisturbed_production (by decide +kernel))).2.2.1

/-! ### Where other organizations are visible -/

/-- A process outside production that uses its database. -/
def developmentContext : StoreContext :=
  { deployedContext with
    env := { nodeEnv := some "development" }
    allowDemoAuth := some "0" }

/-- The database of `org_a` with the demo data. -/
def demoDatabase : PlatformDatabase where
  organizations := ⟨[⟨"org_demo", "Acme Engineering Hiring", "ORG-DEMO", 0⟩,
    ⟨"org_a", "A", "ORG-A", 0⟩], by decide⟩
  exams := ⟨[plainExam "exam_backend_001" "org_demo", plainExam "exam_a" "org_a"], by decide⟩
  candidates := ⟨[plainCandidate "cand_a" "exam_a"], by decide⟩
  questions := ⟨[{
    id := "question_cache_001", examId := "exam_backend_001", title := "Implement LRU Cache",
    description := "", difficulty := .medium, timeLimitMs := 2000, memoryLimitMb := 256,
    createdAt := 0 }], by decide⟩
  testCases := ⟨[{
    id := "case_cache_public_001", questionId := "question_cache_001", input := "",
    expectedOutput := "1", isPublic := true, createdAt := 0 }], by decide⟩
  proctorDevices := ⟨[silentDevice "device_a" "cand_a" "exam_a"], by decide⟩
  unique := by decide +kernel
  related := by decide +kernel

/-- The manager gets to see the exam. -/
def detailShown (ctx : StoreContext) (database : PlatformDatabase) : Bool :=
  (getExamDetail ctx "exam_a" (managerOf "org_a") 60000
    (startedStore database)).1.toOption.isSome

/-- The manager gets the report of the exam. -/
def reportShown (ctx : StoreContext) (turn : PlatformInput) (database : PlatformDatabase) :
    Bool :=
  (getExamReport ctx "exam_a" (managerOf "org_a") 60000 turn
    (startedStore database)).1.toOption.isSome

/-- Outside production an exam is not shown when another organization lacks the demo question:
its test cases cannot be put in, and the store goes on with the memory. In production an event
of another organization may have the identifier that a sweep draws, and then the report fails. -/
theorem other_tenants_change_reads :
    (SameTenantData "org_a" (startedStore demoDatabase) (startedStore aloneDatabase) ∧
      detailShown developmentContext demoDatabase = true ∧
      detailShown developmentContext aloneDatabase = false) ∧
    SameTenantData "org_a" (startedStore aloneDatabase) (startedStore sharedDatabase) ∧
      reportShown deployedContext (constantTurn "1") aloneDatabase = true ∧
      reportShown deployedContext (constantTurn "1") sharedDatabase = false := by
  refine ⟨⟨⟨rfl, rfl, rfl⟩, ?_, ?_⟩, startedStore_same, ?_, ?_⟩
  all_goals decide +kernel

end Dcvp.Proofs
