import TaskPool.Library.TransitionSystem
import Mathlib.Data.Nat.Notation
import Mathlib.Logic.Nonempty
import Mathlib.Algebra.Group.Nat.Defs
import Mathlib.Tactic.ByContra

/-!
# Running tasks with a limit

`run_with_limit` spawns one runtime task for every closure and then awaits their
handles in order.  A spawned task first acquires a permit of the shared semaphore,
calls its closure, drives the future to its output and gives the permit back when it
ends.  The body of `run_with_limit` and the spawned tasks take their steps in any
order; a future may take any time and finish with any output.

Of the runtime the steps assume what its documentation says: `Semaphore::new` has as many
permits as it is given, and panics above `MAX_PERMITS`; `acquire` takes one as soon as there is
one, whichever task waits, and dropping the permit gives it back; a spawned task starts without
being awaited; and its handle yields the output after the task has ended.

Main results:

- Structure `Orderly`: permits taken and permits left make up the limit, every
  spawned closure is the one of its place in the list, and the results so far are the
  outputs of the first tasks.
- Theorem `run_with_limit_orderly`: in every schedule at most `limit` futures are under
  way, no closure is called twice, and what is returned are the outputs in order.
- Theorem `Orderly.exists_next`: no schedule gets stuck before the results are returned.
-/

namespace TaskPool
namespace Foundations

open Library

variable {F T : Type*}

/-- `Semaphore::MAX_PERMITS` of a 64-bit target: `usize::MAX >> 3`. -/
abbrev maxPermits : Nat := (2 ^ 64 - 1) / 2 ^ 3

/-- Where a spawned task is. -/
inductive Phase (T : Type*) where
  /-- At `permit.acquire().await`. -/
  | waiting
  /-- It holds a permit and is about to call its closure. -/
  | holding
  /-- The closure's future was started and has not finished. -/
  | running
  /-- The future has finished; the permit is not dropped yet. -/
  | finished (output : T)
  /-- The task has ended, and its handle yields the output. -/
  | complete (output : T)

/-- The task holds a permit of the semaphore. -/
def Phase.holdsPermit : Phase T → Bool
  | .holding | .running | .finished _ => true
  | .waiting | .complete _ => false

/-- The future of the task's closure was started and has not finished. -/
def Phase.isRunning : Phase T → Bool
  | .running => true
  | _ => false

/-- A spawned task, with the number of times its closure was called. -/
structure Spawned (F T : Type*) where
  closure : F
  calls : Nat
  phase : Phase T

/-- Where the body of `run_with_limit` is; a handle is the place of a task among the
spawned ones. -/
inductive Main (F T : Type*) where
  /-- The first loop: closures not yet spawned, and the handles so far. -/
  | spawning (tasks : List F) (handles : List Nat)
  /-- The second loop: handles not yet awaited, and the results so far. -/
  | awaiting (handles : List Nat) (results : List T)
  | returned (results : List T)
  /-- `Semaphore::new` panics on a limit above `maxPermits`. -/
  | panicked

/-- The body, the permits left in the semaphore, and the spawned tasks. -/
structure Pool (F T : Type*) where
  main : Main F T
  permits : Nat
  spawned : List (Spawned F T)

/-- A step of the body or of the spawned task at a place. -/
inductive PoolEvent (T : Type*) where
  | main
  | acquire (i : Nat)
  | call (i : Nat)
  | finish (i : Nat) (output : T)
  | release (i : Nat)

namespace Pool

/-- `run_with_limit(tasks, limit)` after `Semaphore::new(limit)`. -/
def start (tasks : List F) (limit : Nat) : Pool F T where
  main := if limit ≤ maxPermits then .spawning tasks [] else .panicked
  permits := limit
  spawned := []

/-- Replace the spawned task at a place. -/
def setTask (pool : Pool F T) (i : Nat) (task : Spawned F T) : Pool F T :=
  { pool with spawned := pool.spawned.set i task }

/-- One iteration of a loop of the body, or the end of the loop. -/
def stepMain (pool : Pool F T) : Option (Pool F T) :=
  match pool.main with
  | .spawning (task :: tasks) handles =>
    some
      { pool with
        main := .spawning tasks (handles ++ [pool.spawned.length])
        spawned := pool.spawned ++ [⟨task, 0, .waiting⟩] }
  | .spawning [] handles => some { pool with main := .awaiting handles [] }
  | .awaiting (handle :: handles) results => do
    let task ← pool.spawned[handle]?
    match task.phase with
    | .complete output => some { pool with main := .awaiting handles (results ++ [output]) }
    | _ => none
  | .awaiting [] results => some { pool with main := .returned results }
  | .returned _ => none
  | .panicked => none

/-- The pool after a step; a step that cannot be taken is refused. -/
def next (pool : Pool F T) : PoolEvent T → Option (Pool F T)
  | .main => pool.stepMain
  | .acquire i => do
    let task ← pool.spawned[i]?
    match task.phase, pool.permits with
    | .waiting, permits + 1 =>
      some { pool.setTask i { task with phase := .holding } with permits := permits }
    | _, _ => none
  | .call i => do
    let task ← pool.spawned[i]?
    match task.phase with
    | .holding => some (pool.setTask i { task with calls := task.calls + 1, phase := .running })
    | _ => none
  | .finish i output => do
    let task ← pool.spawned[i]?
    match task.phase with
    | .running => some (pool.setTask i { task with phase := .finished output })
    | _ => none
  | .release i => do
    let task ← pool.spawned[i]?
    match task.phase with
    | .finished output =>
      some { pool.setTask i { task with phase := .complete output } with
        permits := pool.permits + 1 }
    | _ => none

/-- One step of some party. -/
def Step (pool : Pool F T) (event : PoolEvent T) (pool' : Pool F T) : Prop :=
  pool.next event = some pool'

/-- The number of futures that were started and have not finished. -/
def runningCount (pool : Pool F T) : Nat :=
  pool.spawned.countP (·.phase.isRunning)

/-- The number of permits handed out. -/
def heldCount (pool : Pool F T) : Nat :=
  pool.spawned.countP (·.phase.holdsPermit)

/-- Every running future holds a permit. -/
theorem runningCount_le_heldCount (pool : Pool F T) : pool.runningCount ≤ pool.heldCount := by
  apply List.countP_mono_left
  intro task _ hrunning
  cases hphase : task.phase <;> simp_all [Phase.isRunning, Phase.holdsPermit]

/-! ## What a step of a spawned task does -/

/-- The task at place `i` moved on: the permits it holds and the permits left still add
up, and it is neither ended before nor another closure after. -/
structure Moved (i : Nat) (task task' : Spawned F T) (pool pool' : Pool F T) : Prop where
  before : pool.spawned[i]? = some task
  spawned_eq : pool'.spawned = pool.spawned.set i task'
  main_eq : pool'.main = pool.main
  closure_eq : task'.closure = task.closure
  permits_eq : pool'.permits + (if task'.phase.holdsPermit then 1 else 0) =
    pool.permits + (if task.phase.holdsPermit then 1 else 0)
  not_complete : ∀ output, task.phase ≠ .complete output

/-- A closure is called exactly when its task leaves the phases before the call. -/
def Spawned.CalledOnce (task : Spawned F T) : Prop :=
  task.calls = match task.phase with
    | .waiting | .holding => 0
    | .running | .finished _ | .complete _ => 1

/-- A step is one of the body, or moves one task on. -/
theorem step_cases {pool pool' : Pool F T} {event : PoolEvent T} (h : Step pool event pool') :
    pool.stepMain = some pool' ∨
      ∃ i task task', Moved i task task' pool pool' ∧
        (Spawned.CalledOnce task → Spawned.CalledOnce task') := by
  cases event with
  | main => exact Or.inl h
  | acquire i =>
      obtain ⟨task, htask, h⟩ := Option.bind_eq_some_iff.mp h
      split at h
      · rename_i permits hphase hpermits
        obtain rfl := Option.some_inj.mp h
        refine Or.inr ⟨i, task, _, ⟨htask, rfl, rfl, rfl, ?_, ?_⟩, ?_⟩
        · simp [hphase, hpermits, Phase.holdsPermit]
        · simp [hphase]
        · simp [Spawned.CalledOnce, hphase]
      · cases h
  | call i =>
      obtain ⟨task, htask, h⟩ := Option.bind_eq_some_iff.mp h
      split at h
      · rename_i hphase
        obtain rfl := Option.some_inj.mp h
        refine Or.inr ⟨i, task, _, ⟨htask, rfl, rfl, rfl, ?_, ?_⟩, ?_⟩
        · simp [hphase, setTask, Phase.holdsPermit]
        · simp [hphase]
        · simp [Spawned.CalledOnce, hphase]
      · cases h
  | finish i output =>
      obtain ⟨task, htask, h⟩ := Option.bind_eq_some_iff.mp h
      split at h
      · rename_i hphase
        obtain rfl := Option.some_inj.mp h
        refine Or.inr ⟨i, task, _, ⟨htask, rfl, rfl, rfl, ?_, ?_⟩, ?_⟩
        · simp [hphase, setTask, Phase.holdsPermit]
        · simp [hphase]
        · simp [Spawned.CalledOnce, hphase]
      · cases h
  | release i =>
      obtain ⟨task, htask, h⟩ := Option.bind_eq_some_iff.mp h
      split at h
      · rename_i output hphase
        obtain rfl := Option.some_inj.mp h
        refine Or.inr ⟨i, task, _, ⟨htask, rfl, rfl, rfl, ?_, ?_⟩, ?_⟩
        · simp [hphase, Phase.holdsPermit]
        · simp [hphase]
        · simp [Spawned.CalledOnce, hphase]
      · cases h

/-! ## The invariant -/

/-- The first tasks are complete, and the results are their outputs in order. -/
def Collected (spawned : List (Spawned F T)) (results : List T) : Prop :=
  ∀ (i : Nat) (output : T), results[i]? = some output →
    ∃ task : Spawned F T, spawned[i]? = some task ∧ task.phase = .complete output

/-- How far the body is with spawning and awaiting. -/
def MainOrderly (tasks : List F) (spawned : List (Spawned F T)) : Main F T → Prop
  | .spawning rest handles =>
    spawned.map (·.closure) ++ rest = tasks ∧ handles = List.range spawned.length
  | .awaiting handles results =>
    spawned.map (·.closure) = tasks ∧ Collected spawned results ∧
      handles = (List.range spawned.length).drop results.length ∧
      results.length ≤ spawned.length
  | .returned results =>
    spawned.map (·.closure) = tasks ∧ Collected spawned results ∧
      results.length = spawned.length
  | .panicked => spawned = []

/-- The permits add up to the limit, no closure was called twice, and the body is in order. -/
structure Orderly (tasks : List F) (limit : Nat) (pool : Pool F T) : Prop where
  permits_add : pool.permits + pool.heldCount = limit
  calledOnce : ∀ task ∈ pool.spawned, Spawned.CalledOnce task
  main : MainOrderly tasks pool.spawned pool.main

/-- At the start all permits are there, and nothing is spawned. -/
theorem start_orderly (tasks : List F) (limit : Nat) :
    Orderly tasks limit (start tasks limit : Pool F T) where
  permits_add := rfl
  calledOnce := by simp [start]
  main := by
    by_cases h : limit ≤ maxPermits <;> simp [start, MainOrderly, h]

/-- A complete task stays as it is while another one moves. -/
theorem Moved.collected {i : Nat} {task task' : Spawned F T} {pool pool' : Pool F T}
    (h : Moved i task task' pool pool') {results : List T}
    (hcollected : Collected pool.spawned results) : Collected pool'.spawned results := by
  intro j output houtput
  obtain ⟨done, hdone, hphase⟩ := hcollected j output houtput
  have hij : i ≠ j := by
    rintro rfl
    rw [h.before, Option.some_inj] at hdone
    exact h.not_complete output (hdone ▸ hphase)
  exact ⟨done, by rw [h.spawned_eq, List.getElem?_set_ne hij, hdone], hphase⟩

/-- No task is added or lost when one moves on. -/
theorem Moved.length_eq {i : Nat} {task task' : Spawned F T} {pool pool' : Pool F T}
    (h : Moved i task task' pool pool') : pool'.spawned.length = pool.spawned.length := by
  rw [h.spawned_eq, List.length_set]

/-- Tasks keep their closures. -/
theorem Moved.closures_eq {i : Nat} {task task' : Spawned F T} {pool pool' : Pool F T}
    (h : Moved i task task' pool pool') :
    pool'.spawned.map (·.closure) = pool.spawned.map (·.closure) := by
  obtain ⟨hi, htask⟩ := List.getElem?_eq_some_iff.mp h.before
  rw [h.spawned_eq, List.map_set, h.closure_eq, ← htask]
  have hi' : i < (pool.spawned.map (·.closure)).length := by simpa using hi
  simpa using List.set_getElem_self hi'

/-- What the body has seen of the tasks stays true when one of them moves on. -/
theorem Moved.mainOrderly {i : Nat} {task task' : Spawned F T} {pool pool' : Pool F T}
    (h : Moved i task task' pool pool') {tasks : List F}
    (hmain : MainOrderly tasks pool.spawned pool.main) :
    MainOrderly tasks pool'.spawned pool'.main := by
  rw [h.main_eq]
  cases hpool : pool.main with
  | spawning rest handles =>
      rw [hpool] at hmain
      exact ⟨h.closures_eq ▸ hmain.1, h.length_eq ▸ hmain.2⟩
  | awaiting handles results =>
      rw [hpool] at hmain
      obtain ⟨hclosures, hcollected, hhandles, hlength⟩ := hmain
      exact ⟨h.closures_eq ▸ hclosures, h.collected hcollected, h.length_eq ▸ hhandles,
        h.length_eq ▸ hlength⟩
  | returned results =>
      rw [hpool] at hmain
      obtain ⟨hclosures, hcollected, hlength⟩ := hmain
      exact ⟨h.closures_eq ▸ hclosures, h.collected hcollected, h.length_eq ▸ hlength⟩
  | panicked =>
      rw [hpool] at hmain
      have hlength := h.length_eq
      rw [show pool.spawned = [] from hmain] at hlength
      exact List.length_eq_zero_iff.mp hlength

/-- The permits held change by those of the task that moved. -/
theorem Moved.heldCount_add {i : Nat} {task task' : Spawned F T} {pool pool' : Pool F T}
    (h : Moved i task task' pool pool') :
    pool'.heldCount + (if task.phase.holdsPermit then 1 else 0) =
      pool.heldCount + (if task'.phase.holdsPermit then 1 else 0) := by
  obtain ⟨hi, htask⟩ := List.getElem?_eq_some_iff.mp h.before
  have hheld : (if task.phase.holdsPermit then 1 else 0) ≤ pool.heldCount := by
    split
    · rename_i hholds
      exact List.countP_pos_iff.mpr ⟨task, htask ▸ List.getElem_mem hi, hholds⟩
    · exact Nat.zero_le _
  simp only [heldCount] at hheld ⊢
  rw [h.spawned_eq, List.countP_set hi, htask]
  omega

/-- One step of a spawned task keeps the order. -/
theorem Orderly.moved {tasks : List F} {limit i : Nat} {task task' : Spawned F T}
    {pool pool' : Pool F T} (h : Orderly tasks limit pool) (hmoved : Moved i task task' pool pool')
    (hcalled : Spawned.CalledOnce task → Spawned.CalledOnce task') :
    Orderly tasks limit pool' where
  permits_add := by
    have hadd := h.permits_add
    have hpermits := hmoved.permits_eq
    have hheld := hmoved.heldCount_add
    omega
  calledOnce := by
    intro other hother
    rw [hmoved.spawned_eq] at hother
    rcases List.mem_or_eq_of_mem_set hother with hother | rfl
    · exact h.calledOnce other hother
    · exact hcalled (h.calledOnce task (List.mem_of_getElem? hmoved.before))
  main := hmoved.mainOrderly h.main

/-- The body spawns the closures in order and collects the outputs in order. -/
theorem Orderly.body {tasks : List F} {limit : Nat} {pool pool' : Pool F T}
    (h : Orderly tasks limit pool) (hstep : pool.stepMain = some pool') :
    Orderly tasks limit pool' := by
  obtain ⟨hadd, hcalled, hmain⟩ := h
  unfold Pool.stepMain at hstep
  split at hstep
  · rename_i task rest handles hpool
    obtain rfl := Option.some_inj.mp hstep
    rw [hpool] at hmain
    obtain ⟨hclosures, hhandles⟩ := hmain
    refine ⟨?_, ?_, ?_, ?_⟩
    · simpa [heldCount, Phase.holdsPermit] using hadd
    · intro other hother
      rcases List.mem_append.mp hother with hother | hother
      · exact hcalled other hother
      · rw [List.mem_singleton.mp hother]
        rfl
    · rw [← hclosures]
      simp
    · rw [hhandles]
      simp [List.range_succ]
  · rename_i handles hpool
    obtain rfl := Option.some_inj.mp hstep
    rw [hpool] at hmain
    obtain ⟨hclosures, hhandles⟩ := hmain
    refine ⟨hadd, hcalled, ?_, ?_, ?_, Nat.zero_le _⟩
    · simpa using hclosures
    · simp [Collected]
    · simpa using hhandles
  · rename_i handle handles results hpool
    obtain ⟨task, htask, hstep⟩ := Option.bind_eq_some_iff.mp hstep
    rw [hpool] at hmain
    obtain ⟨hclosures, hcollected, hhandles, hlength⟩ := hmain
    split at hstep
    · rename_i output hphase
      obtain rfl := Option.some_inj.mp hstep
      have hlt : results.length < pool.spawned.length := by
        by_contra hge
        rw [List.drop_eq_nil_of_le (by simpa using hge)] at hhandles
        cases hhandles
      rw [List.drop_eq_getElem_cons (by simpa using hlt), List.getElem_range] at hhandles
      obtain ⟨rfl, rfl⟩ := List.cons_eq_cons.mp hhandles
      refine ⟨hadd, hcalled, hclosures, ?_, by simp, by simpa using Nat.succ_le_of_lt hlt⟩
      intro i value hvalue
      by_cases hi : i < results.length
      · rw [List.getElem?_append_left hi] at hvalue
        exact hcollected i value hvalue
      · rw [List.getElem?_append_right (Nat.le_of_not_lt hi)] at hvalue
        obtain ⟨hplace, rfl⟩ := List.getElem?_eq_some_iff.mp hvalue
        obtain rfl : i = results.length := by
          simp only [List.length_singleton] at hplace
          omega
        exact ⟨task, htask, by simpa using hphase⟩
    · cases hstep
  · rename_i results hpool
    obtain rfl := Option.some_inj.mp hstep
    rw [hpool] at hmain
    obtain ⟨hclosures, hcollected, hhandles, hlength⟩ := hmain
    refine ⟨hadd, hcalled, hclosures, hcollected, Nat.le_antisymm hlength ?_⟩
    simpa using List.drop_eq_nil_iff.mp hhandles.symm
  · cases hstep
  · cases hstep

/-- Every step keeps the invariant. -/
theorem Orderly.step {tasks : List F} {limit : Nat} {pool pool' : Pool F T}
    {event : PoolEvent T} (h : Orderly tasks limit pool) (hstep : Step pool event pool') :
    Orderly tasks limit pool' := by
  rcases step_cases hstep with hmain | ⟨i, task, task', hmoved, hcalled⟩
  · exact h.body hmain
  · exact h.moved hmoved hcalled

/-! ## Progress -/

/-- A task that holds a permit can go on. -/
theorem exists_task_event [Nonempty T] {pool : Pool F T} {i : Nat} {task : Spawned F T}
    (htask : pool.spawned[i]? = some task) (hholds : task.phase.holdsPermit = true) :
    ∃ event, event ≠ .main ∧ (pool.next event).isSome := by
  obtain ⟨output⟩ := ‹Nonempty T›
  cases hphase : task.phase with
  | waiting | complete => simp [hphase, Phase.holdsPermit] at hholds
  | holding => exact ⟨.call i, by rintro ⟨⟩, by simp [next, htask, hphase]⟩
  | running => exact ⟨.finish i output, by rintro ⟨⟩, by simp [next, htask, hphase]⟩
  | finished value => exact ⟨.release i, by rintro ⟨⟩, by simp [next, htask, hphase]⟩

/-- Under a limit of at least one, a task that has not ended lets some task go on: itself, or
one that holds a permit. -/
theorem exists_event_of_not_complete [Nonempty T] {pool : Pool F T} {limit : Nat}
    (hlimit : 1 ≤ limit) (hpermits : pool.permits + pool.heldCount = limit) {i : Nat}
    {task : Spawned F T} (htask : pool.spawned[i]? = some task)
    (hends : ¬ ∃ output, task.phase = .complete output) :
    ∃ event, event ≠ .main ∧ (pool.next event).isSome := by
  cases hphase : task.phase with
  | complete output => exact absurd ⟨output, hphase⟩ hends
  | holding | running | finished =>
      exact exists_task_event htask (by rw [hphase, Phase.holdsPermit])
  | waiting =>
      cases hleft : pool.permits with
      | succ permits => exact ⟨.acquire i, by rintro ⟨⟩, by simp [next, htask, hphase, hleft]⟩
      | zero =>
          have hheld : 0 < pool.heldCount := by omega
          obtain ⟨holder, hmem, hholder⟩ := List.countP_pos_iff.mp hheld
          obtain ⟨j, hj⟩ := List.getElem?_of_mem hmem
          exact exists_task_event hj hholder

/-- Until the results are returned, some party can take a step. -/
theorem Orderly.exists_next [Nonempty T] {tasks : List F} {limit : Nat} {pool : Pool F T}
    (h : Orderly tasks limit pool) (hlimit : 1 ≤ limit) (hpanic : pool.main ≠ .panicked)
    (hmain : ∀ results, pool.main ≠ .returned results) :
    ∃ event, (pool.next event).isSome := by
  have hmainOrderly := h.main
  cases hpool : pool.main with
  | spawning rest handles =>
      cases rest <;> exact ⟨.main, by simp [next, stepMain, hpool]⟩
  | returned results => exact absurd hpool (hmain results)
  | panicked => exact absurd hpool hpanic
  | awaiting handles results =>
      cases handles with
      | nil => exact ⟨.main, by simp [next, stepMain, hpool]⟩
      | cons handle handles =>
          rw [hpool] at hmainOrderly
          obtain ⟨-, -, hhandles, -⟩ := hmainOrderly
          have hmem : handle ∈ List.range pool.spawned.length :=
            List.mem_of_mem_drop (hhandles ▸ List.mem_cons_self)
          obtain ⟨task, htask⟩ : ∃ task, pool.spawned[handle]? = some task :=
            ⟨_, List.getElem?_eq_getElem (List.mem_range.mp hmem)⟩
          by_cases hends : ∃ output, task.phase = .complete output
          · obtain ⟨output, hphase⟩ := hends
            exact ⟨.main, by simp [next, stepMain, hpool, htask, hphase]⟩
          · obtain ⟨event, -, hnext⟩ :=
              exists_event_of_not_complete hlimit h.permits_add htask hends
            exact ⟨event, hnext⟩

/-! ## Every schedule -/

/-- What holds of a state: at most `limit` futures are under way; every spawned closure is
the one of its place in the list and is called at most once; and when the results are
returned, every closure was called once, and the results are the outputs of the tasks
in order. -/
structure KeepsLimitAndOrder (tasks : List F) (limit : Nat) (pool : Pool F T) : Prop where
  running_le : pool.runningCount ≤ limit
  closure_eq : pool.spawned.map (·.closure) <+: tasks
  calls_le : ∀ task ∈ pool.spawned, task.calls ≤ 1
  returned : ∀ results, pool.main = .returned results →
    results.length = tasks.length ∧ pool.spawned.length = tasks.length ∧
      ∀ (i : Nat) (output : T), results[i]? = some output →
        ∃ closure, tasks[i]? = some closure ∧
          pool.spawned[i]? = some ⟨closure, 1, .complete output⟩

/-- Tasks are spawned in the order of the input. -/
theorem Orderly.closures_prefix {tasks : List F} {limit : Nat} {pool : Pool F T}
    (h : Orderly tasks limit pool) : pool.spawned.map (·.closure) <+: tasks := by
  have hmain := h.main
  cases hpool : pool.main with
  | spawning rest handles =>
      rw [hpool] at hmain
      exact ⟨rest, hmain.1⟩
  | awaiting handles results =>
      rw [hpool] at hmain
      exact hmain.1 ▸ List.prefix_rfl
  | returned results =>
      rw [hpool] at hmain
      exact hmain.1 ▸ List.prefix_rfl
  | panicked =>
      rw [hpool] at hmain
      rw [show pool.spawned = [] from hmain]
      exact List.nil_prefix

/-- The invariant gives the limit and the order. -/
theorem Orderly.keepsLimitAndOrder {tasks : List F} {limit : Nat} {pool : Pool F T}
    (h : Orderly tasks limit pool) : KeepsLimitAndOrder tasks limit pool where
  running_le := by
    have hle := pool.runningCount_le_heldCount
    have hadd := h.permits_add
    omega
  closure_eq := h.closures_prefix
  calls_le := by
    intro task htask
    rw [h.calledOnce task htask]
    split <;> omega
  returned := by
    intro results hreturned
    have hmain := h.main
    rw [hreturned] at hmain
    obtain ⟨hclosures, hcollected, hlength⟩ := hmain
    have hspawned : pool.spawned.length = tasks.length := by
      rw [← hclosures, List.length_map]
    refine ⟨hlength.trans hspawned, hspawned, fun i output houtput => ?_⟩
    obtain ⟨⟨closure, calls, phase⟩, htask, rfl⟩ := hcollected i output houtput
    have hcalls : calls = 1 := h.calledOnce _ (List.mem_of_getElem? htask)
    refine ⟨closure, ?_, by rw [htask, hcalls]⟩
    rw [← hclosures, List.getElem?_map, htask]
    rfl

/-- Every schedule keeps the limit and the order: for all tasks and every path of steps
of the body and of the spawned tasks, the limit is kept in every state, no closure is
called twice, and what is returned are the outputs in the order of the tasks. -/
theorem run_with_limit_orderly (tasks : List F) (limit : Nat)
    (path : List (PoolEvent T × Pool F T)) (hpath : IsPath Step (start tasks limit) path) :
    EveryState (KeepsLimitAndOrder tasks limit) (start tasks limit) path :=
  (hpath.invariant (start_orderly tasks limit) fun _ _ _ hinv hstep => hinv.step hstep).imp
    fun _ hinv => hinv.keepsLimitAndOrder

/-- Two tasks under a limit of one that finish in the other order. -/
theorem run_with_limit_orderly_otherOrder :
    EveryState (KeepsLimitAndOrder [(), ()] 1) (start [(), ()] 1)
      (follow Pool.next (start [(), ()] 1 : Pool Unit Nat)
        [.main, .main, .acquire 1, .call 1, .main, .finish 1 20, .release 1, .acquire 0, .call 0,
          .finish 0 10, .release 0, .main, .main, .main]) :=
  run_with_limit_orderly [(), ()] 1 _ (isPath_follow Pool.next _ _)

/-- In that schedule the results are returned in the order of the tasks. -/
example : (lastState (start [(), ()] 1) (follow Pool.next (start [(), ()] 1 : Pool Unit Nat)
    [.main, .main, .acquire 1, .call 1, .main, .finish 1 20, .release 1, .acquire 0, .call 0,
      .finish 0 10, .release 0, .main, .main, .main])).main = .returned [10, 20] :=
  rfl

end Pool

end Foundations
end TaskPool
