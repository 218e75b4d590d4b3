import Dcvp.Lib.AsyncCalls

/-!
# `Dcvp.Lib.JobQueue`: the jobs of one thread, first in, first out

`AsyncCalls` has every order of the moves. Here the order is fixed: what a task awaits is there
already, so the rest of the task is a new job at the end of the queue, and the thread always takes
the job at the front. `resume` runs a task `π` from where it is suspended up to its next `await`,
on the memory `σ` of the thread, or up to its result `ω`.

`drain` works until the queue is empty, within some fuel, and `runAll` collects the results in
the order of the tasks, as `Promise.all` does.

`pass` is one round through the queue. The jobs of a round run before any job that one of them
adds (`drain_pass`). So tasks that have to wait equally often go in step: all of them have read
the memory before one of them writes it (`pass_reads`, `pass_writes`).
-/

set_option autoImplicit false

namespace Dcvp.Lib

/-- A thread: its memory, the jobs with the numbers of their tasks, and the results so far. -/
structure JobQueue (σ π ω : Type) where
  memory : σ
  jobs : List (Nat × π)
  results : List (Nat × ω) := []
  deriving DecidableEq

namespace JobQueue

variable {σ π ω τ : Type}

/-- The end of a job: its task waits at the end of the queue, or has its result. -/
def conclude (q : JobQueue σ π ω) (id : Nat) (memory : σ) : Outcome π ω → JobQueue σ π ω
  | .suspended pc => { q with memory, jobs := q.jobs ++ [(id, pc)] }
  | .finished result => { q with memory, results := q.results ++ [(id, result)] }

variable (resume : π → σ → σ × Outcome π ω)

/-- The job at the front of the queue. -/
def step (q : JobQueue σ π ω) : Option (JobQueue σ π ω) :=
  match q.jobs with
  | [] => none
  | (id, pc) :: jobs =>
      let r := resume pc q.memory
      some ({ q with jobs }.conclude id r.1 r.2)

/-- The queue when no job is left. It is `none` when the fuel does not reach that far. -/
def drain : Nat → JobQueue σ π ω → Option (JobQueue σ π ω)
  | 0, q => if q.jobs.isEmpty then some q else none
  | fuel + 1, q =>
      match q.step resume with
      | none => some q
      | some q' => drain fuel q'

/-- The tasks with their numbers. -/
def number (tasks : List τ) : List (Nat × τ) := tasks.zipIdx.map Prod.swap

/-- Runs all tasks. The results have the order of the tasks. -/
def runAll (fuel : Nat) (tasks : List π) (memory : σ) : Option (σ × List ω) := do
  let q ← drain resume fuel { memory, jobs := number tasks }
  let results ← (List.range tasks.length).mapM fun id => List.lookup id q.results
  pure (q.memory, results)

/-- One round: each of the jobs runs once. -/
def pass : List (Nat × π) → σ → JobQueue σ π ω
  | [], memory => { memory, jobs := [] }
  | (id, pc) :: jobs, memory =>
      let r := resume pc memory
      let rest := pass jobs r.1
      match r.2 with
      | .suspended pc' => { rest with jobs := (id, pc') :: rest.jobs }
      | .finished result => { rest with results := (id, result) :: rest.results }

variable {resume}

/-! ### Fuel -/

/-- With nothing queued any fuel is enough, and the memory and the results stay. -/
theorem drain_nil (fuel : Nat) (memory : σ) (results : List (Nat × ω)) :
    drain resume fuel ⟨memory, [], results⟩ = some ⟨memory, [], results⟩ := by
  cases fuel <;> rfl

/-- More fuel changes nothing: a queue that is drained with some fuel is drained to the same state
with more. -/
theorem drain_mono (more : Nat) : ∀ (fuel : Nat) (q q' : JobQueue σ π ω),
    drain resume fuel q = some q' → drain resume (fuel + more) q = some q' := by
  intro fuel
  induction fuel with
  | zero =>
      intro q q' h
      obtain ⟨memory, jobs, results⟩ := q
      cases jobs with
      | nil => rw [drain_nil] at h ⊢; exact h
      | cons job jobs => simp [drain] at h
  | succ fuel ih =>
      intro q q' h
      rw [Nat.succ_add]
      simp only [drain] at h ⊢
      cases hstep : q.step resume with
      | none => rw [hstep] at h; exact h
      | some q'' =>
          rw [hstep] at h
          exact ih q'' q' h

/-! ### Rounds -/

/-- A round comes before the jobs that it adds, and before those that wait behind it. -/
theorem drain_pass (fuel : Nat) (jobs : List (Nat × π)) :
    ∀ (memory : σ) (later : List (Nat × π)) (results : List (Nat × ω)),
      drain resume (fuel + jobs.length) ⟨memory, jobs ++ later, results⟩ =
        drain resume fuel ⟨(pass resume jobs memory).memory,
          later ++ (pass resume jobs memory).jobs,
          results ++ (pass resume jobs memory).results⟩ := by
  induction jobs with
  | nil => intro memory later results; simp [pass]
  | cons job jobs ih =>
      obtain ⟨id, pc⟩ := job
      intro memory later results
      -- The job at the front moves its task to the end, or out of the queue.
      have hfront : drain resume (fuel + ((id, pc) :: jobs).length)
          ⟨memory, (id, pc) :: jobs ++ later, results⟩ =
          drain resume (fuel + jobs.length)
            (conclude ⟨memory, jobs ++ later, results⟩ id (resume pc memory).1
              (resume pc memory).2) := rfl
      rw [hfront]
      cases hcase : (resume pc memory).2 with
      | suspended pc' =>
          simp only [conclude, pass, hcase]
          rw [List.append_assoc, ih]
          simp
      | finished result =>
          simp only [conclude, pass, hcase]
          rw [ih]
          simp

/-- One round over a whole queue: each job takes its next step once, and the jobs that go on form
the queue of the next round. -/
theorem drain_round (fuel : Nat) (jobs : List (Nat × π)) (memory : σ)
    (results : List (Nat × ω)) :
    drain resume (fuel + jobs.length) ⟨memory, jobs, results⟩ =
      drain resume fuel ⟨(pass resume jobs memory).memory, (pass resume jobs memory).jobs,
        results ++ (pass resume jobs memory).results⟩ := by
  have h : drain resume (fuel + jobs.length) ⟨memory, jobs ++ [], results⟩ =
      drain resume fuel ⟨(pass resume jobs memory).memory,
        [] ++ (pass resume jobs memory).jobs,
        results ++ (pass resume jobs memory).results⟩ := drain_pass fuel jobs memory [] results
  rwa [List.append_nil, List.nil_append] at h

/-- A round of jobs that only read: each task goes on from the memory of the start. -/
theorem pass_reads {f g : τ → π} {memory : σ} :
    ∀ tasks : List (Nat × τ),
      (∀ task ∈ tasks, resume (f task.2) memory = (memory, .suspended (g task.2))) →
      pass resume (tasks.map (Prod.map id f)) memory =
        ⟨memory, tasks.map (Prod.map id g), []⟩ := by
  intro tasks
  induction tasks with
  | nil => intro _; rfl
  | cons task tasks ih =>
      intro h
      have hrest := ih fun other hother => h other (List.mem_cons_of_mem _ hother)
      have hfirst := h task (List.mem_cons_self ..)
      simp only [List.map_cons, Prod.map, id_eq, pass, hfirst] at hrest ⊢
      rw [hrest]

/-- A round of jobs that write and finish: the writes come one after the other. -/
theorem pass_writes {f : τ → π} {write : τ → σ → σ} {result : τ → ω}
    (h : ∀ task memory, resume (f task) memory = (write task memory, .finished (result task))) :
    ∀ (tasks : List (Nat × τ)) (memory : σ),
      pass resume (tasks.map (Prod.map id f)) memory =
        ⟨tasks.foldl (fun memory task => write task.2 memory) memory, [],
          tasks.map (Prod.map id result)⟩ := by
  intro tasks
  induction tasks with
  | nil => intro memory; rfl
  | cons task tasks ih =>
      intro memory
      simp only [List.map_cons, Prod.map, id_eq, pass, h] at ih ⊢
      rw [ih]
      rfl

/-- Where each write replaces what the one before has written, only the last one is seen. -/
theorem foldl_overwrite {write : τ → σ → σ}
    (h : ∀ a b memory, write b (write a memory) = write b memory) (memory : σ) :
    ∀ tasks : List τ, tasks.foldl (fun memory task => write task memory) memory =
      (tasks.getLast?.map fun task => write task memory).getD memory := by
  intro tasks
  induction tasks using List.reverseRecOn with
  | nil => rfl
  | append_singleton tasks last ih =>
      rw [List.foldl_append, ih, List.getLast?_concat]
      -- What the tasks before the last one have left is overwritten.
      cases tasks.getLast? with
      | none => rfl
      | some task => exact h task last memory

/-! ### Numbers -/

/-- Numbering the tasks and changing them commute, since a number depends on the place only. -/
theorem number_map {υ : Type} (f : τ → υ) (tasks : List τ) :
    (number tasks).map (Prod.map id f) = number (tasks.map f) := by
  simp [number, List.zipIdx_map, Function.comp_def]

/-- Numbering neither drops a task nor adds one. -/
@[simp] theorem length_number (tasks : List τ) : (number tasks).length = tasks.length := by
  simp [number]

/-- What is done to one task after the other does not look at their numbers. -/
theorem foldl_number {α : Type} (f : α → τ → α) (a : α) (tasks : List τ) :
    (number tasks).foldl (fun a task => f a task.2) a = tasks.foldl f a := by
  have hvalues : (number tasks).map Prod.snd = tasks := by simp [number, Function.comp_def]
  have h : ((number tasks).map Prod.snd).foldl f a =
      (number tasks).foldl (fun a task => f a task.2) a := List.foldl_map
  rw [hvalues] at h
  exact h.symm

/-- The result of the `n`-th task stands under the number `n`. The induction needs the numbers to
begin anywhere. -/
theorem lookup_number (results : List ω) (n : Nat) :
    List.lookup n (number results) = results[n]? := by
  have hfrom : ∀ (results : List ω) (start k : Nat),
      List.lookup (start + k) ((results.zipIdx start).map Prod.swap) = results[k]? := by
    intro results
    induction results with
    | nil => intro start k; rfl
    | cons result results ih =>
        intro start k
        cases k with
        | zero => simp
        | succ k =>
            have hne : (start + (k + 1) == start) = false := by simp
            have hrest := ih (start + 1) k
            rw [Nat.add_assoc, Nat.add_comm 1 k] at hrest
            simpa [List.lookup_cons, hne] using hrest
  have h := hfrom results 0 n
  rwa [Nat.zero_add] at h

/-- When all results of a numbered list are looked up in the order of their numbers, the list
itself comes out. -/
theorem mapM_lookup_number (results : List ω) :
    ((List.range results.length).mapM fun id => List.lookup id (number results)) =
      some results := by
  simp only [lookup_number]
  induction results with
  | nil => rfl
  | cons result results ih =>
      rw [List.length_cons, List.range_succ_eq_map, List.mapM_cons, List.mapM_map]
      simp only [Function.comp_def, List.getElem?_cons_succ, ih]
      rfl

/-! ### All tasks -/

/-- A queue that ends with a result for each task. -/
theorem runAll_eq {fuel : Nat} {tasks : List π} {memory memory' : σ} {results : List ω}
    (hlength : results.length = tasks.length)
    (h : drain resume fuel ⟨memory, number tasks, []⟩ = some ⟨memory', [], number results⟩) :
    runAll resume fuel tasks memory = some (memory', results) := by
  have hresults := mapM_lookup_number results
  rw [hlength] at hresults
  simp only [runAll, h, Option.bind_eq_bind, Option.bind_some, hresults]
  rfl

/-- More fuel changes nothing. -/
theorem runAll_mono (more : Nat) {fuel : Nat} {tasks : List π} {memory : σ} {r : σ × List ω}
    (h : runAll resume fuel tasks memory = some r) :
    runAll resume (fuel + more) tasks memory = some r := by
  simp only [runAll, Option.bind_eq_bind] at h ⊢
  obtain ⟨q, hdrain, hrest⟩ := Option.bind_eq_some_iff.mp h
  rw [drain_mono more fuel _ _ hdrain]
  exact hrest

section
variable {stage : Nat → τ → π} {tasks : List τ} {memory : σ} {n : Nat}

/-- Tasks in step: in each of the first `n` rounds they only read. -/
theorem drain_lockstep (fuel : Nat)
    (hread : ∀ k < n, ∀ task ∈ tasks,
      resume (stage k task) memory = (memory, .suspended (stage (k + 1) task))) :
    drain resume (fuel + n * tasks.length) ⟨memory, number (tasks.map (stage 0)), []⟩ =
      drain resume fuel ⟨memory, number (tasks.map (stage n)), []⟩ := by
  induction n generalizing fuel with
  | zero => simp
  | succ n ih =>
      have hround : fuel + (n + 1) * tasks.length =
          (fuel + (number (tasks.map (stage n))).length) + n * tasks.length := by
        rw [length_number, List.length_map, Nat.succ_mul]
        omega
      rw [hround, ih _ fun k hk => hread k (Nat.lt_succ_of_lt hk), drain_round,
        ← number_map, pass_reads, number_map]
      · rfl
      · intro task htask
        -- A numbered task is one of the tasks.
        obtain ⟨⟨value, index⟩, hmem, rfl⟩ := List.mem_map.mp htask
        exact hread n (Nat.lt_succ_self n) value (List.fst_mem_of_mem_zipIdx hmem)

/-- Tasks in step that only read in the first `n` rounds, and write in the next one: none of them
sees what another one writes. -/
theorem runAll_lockstep {write : τ → σ → σ} {result : τ → ω}
    (hread : ∀ k < n, ∀ task ∈ tasks,
      resume (stage k task) memory = (memory, .suspended (stage (k + 1) task)))
    (hwrite : ∀ task memory,
      resume (stage n task) memory = (write task memory, .finished (result task)))
    {fuel : Nat} (hfuel : (n + 1) * tasks.length ≤ fuel) :
    runAll resume fuel (tasks.map (stage 0)) memory =
      some (tasks.foldl (fun memory task => write task memory) memory, tasks.map result) := by
  obtain ⟨more, rfl⟩ := Nat.exists_eq_add_of_le hfuel
  rw [Nat.add_comm]
  refine runAll_eq (by simp) ?_
  have hrounds : more + (n + 1) * tasks.length =
      (more + (number (tasks.map (stage n))).length) + n * tasks.length := by
    rw [length_number, List.length_map, Nat.succ_mul]
    omega
  have hwrites : (number tasks).foldl (fun memory task => write task.2 memory) memory =
      tasks.foldl (fun memory task => write task memory) memory :=
    foldl_number (fun memory task => write task memory) memory tasks
  rw [hrounds, drain_lockstep _ hread, drain_round, ← number_map, pass_writes hwrite, hwrites,
    number_map, List.nil_append]
  exact drain_nil _ _ _

end

end JobQueue

end Dcvp.Lib
