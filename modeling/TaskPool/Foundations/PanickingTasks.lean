import TaskPool.Foundations.RunWithLimit
import TaskPool.Library.Workers

/-!
# Tasks that panic

A spawned task that panics drops its permit as it unwinds, and its handle yields an error,
on which `unwrap` panics in the body of `run_with_limit`.  The other tasks are not stopped
by this: their handles are dropped, and they run on.  The output `none` stands for a panic
of the task.

Main results:

- Definition `Pool.nextUnwrap`: the steps of the body and of tasks that may panic.
- Theorem `run_with_limit_settles`: every schedule keeps the limit and ends; in the end
  every closure was called once, and the body has returned all outputs or has panicked.
- Theorem `run_with_limit_zero`: under a limit of zero no closure is ever called.
-/

namespace TaskPool
namespace Foundations

open Library

variable {F T : Type*}

namespace Pool

/-- One iteration of a loop of the body; it panics on the handle of a task that has
panicked. -/
def stepUnwrap (pool : Pool F (Option T)) : Option (Pool F (Option T)) :=
  match pool.main with
  | .awaiting (handle :: _) _ => do
    let task ← pool.spawned[handle]?
    match task.phase with
    | .complete none => some { pool with main := .panicked }
    | _ => pool.stepMain
  | _ => pool.stepMain

/-- The pool after a step; a step that cannot be taken is refused. -/
def nextUnwrap (pool : Pool F (Option T)) : PoolEvent (Option T) → Option (Pool F (Option T))
  | .main => pool.stepUnwrap
  | event => pool.next event

/-- One step of some party. -/
def StepUnwrap (pool : Pool F (Option T)) (event : PoolEvent (Option T))
    (pool' : Pool F (Option T)) : Prop :=
  pool.nextUnwrap event = some pool'

/-- A step is one of the body or one of a task. -/
theorem StepUnwrap.body_or_task {pool pool' : Pool F (Option T)} {event : PoolEvent (Option T)}
    (h : StepUnwrap pool event pool') :
    pool.stepUnwrap = some pool' ∨ event ≠ .main ∧ pool.next event = some pool' := by
  cases event with
  | main => exact .inl h
  | acquire | call | finish | release => exact .inr ⟨by rintro ⟨⟩, h⟩

/-! ## Steps of tasks -/

/-- How many steps a task has left. -/
def Phase.stepsLeft : Phase T → Nat
  | .waiting => 4
  | .holding => 3
  | .running => 2
  | .finished _ => 1
  | .complete _ => 0

/-- A step of a task changes the task at its place, which then has fewer steps left, and
not the body. -/
theorem next_task_cases {pool pool' : Pool F T} {event : PoolEvent T} (hevent : event ≠ .main)
    (h : pool.next event = some pool') :
    pool'.main = pool.main ∧ ∃ (i : Nat) (task task' : Spawned F T),
      pool.spawned[i]? = some task ∧ pool'.spawned = pool.spawned.set i task' ∧
        Phase.stepsLeft task'.phase < Phase.stepsLeft task.phase := by
  cases event with
  | main => exact absurd rfl hevent
  | acquire i =>
      obtain ⟨task, htask, h⟩ := Option.bind_eq_some_iff.mp h
      split at h
      · rename_i hphase _
        obtain rfl := Option.some_inj.mp h
        refine ⟨rfl, i, task, _, htask, rfl, ?_⟩
        rw [hphase]
        exact Nat.lt_succ_self 3
      · cases h
  | call i =>
      obtain ⟨task, htask, h⟩ := Option.bind_eq_some_iff.mp h
      split at h
      · rename_i hphase
        obtain rfl := Option.some_inj.mp h
        refine ⟨rfl, i, task, _, htask, rfl, ?_⟩
        rw [hphase]
        exact Nat.lt_succ_self 2
      · cases h
  | finish i output =>
      obtain ⟨task, htask, h⟩ := Option.bind_eq_some_iff.mp h
      split at h
      · rename_i hphase
        obtain rfl := Option.some_inj.mp h
        refine ⟨rfl, i, task, _, htask, rfl, ?_⟩
        rw [hphase]
        exact Nat.lt_succ_self 1
      · cases h
  | release i =>
      obtain ⟨task, htask, h⟩ := Option.bind_eq_some_iff.mp h
      split at h
      · rename_i output hphase
        obtain rfl := Option.some_inj.mp h
        refine ⟨rfl, i, task, _, htask, rfl, ?_⟩
        rw [hphase]
        exact Nat.lt_succ_self 0
      · cases h

/-- The body does not matter to a step of a task. -/
theorem next_withMain {pool pool' : Pool F T} {event : PoolEvent T} (hevent : event ≠ .main)
    (h : pool.next event = some pool') (body : Main F T) :
    Step { pool with main := body } event { pool' with main := body } := by
  cases event with
  | main => exact absurd rfl hevent
  | acquire i =>
      obtain ⟨task, htask, h⟩ := Option.bind_eq_some_iff.mp h
      refine Option.bind_eq_some_iff.mpr ⟨task, htask, ?_⟩
      split at h
      · rename_i hphase hpermits
        obtain rfl := Option.some_inj.mp h
        simp only [hphase, hpermits]
        rfl
      · cases h
  | call i | finish i | release i =>
      obtain ⟨task, htask, h⟩ := Option.bind_eq_some_iff.mp h
      refine Option.bind_eq_some_iff.mpr ⟨task, htask, ?_⟩
      split at h
      · obtain rfl := Option.some_inj.mp h
        rfl
      · cases h

/-! ## The invariant -/

/-- The body has not panicked and has collected no panic. -/
def Main.Clean : Main F (Option T) → Prop
  | .spawning _ _ => True
  | .awaiting _ results => ∀ output ∈ results, output.isSome = true
  | .returned results => ∀ output ∈ results, output.isSome = true
  | .panicked => False

/-- The body awaits a task that has panicked. -/
def Main.fails (spawned : List (Spawned F (Option T))) : Main F (Option T) → Prop
  | .awaiting (handle :: _) _ =>
    ∃ task, spawned[handle]? = some task ∧ task.phase = .complete none
  | _ => False

/-- The pool is in order with a clean body; the body is this one, or it has panicked where
this one awaits a task that had. -/
def Unwrapped (tasks : List F) (limit : Nat) (pool : Pool F (Option T)) : Prop :=
  ∃ body, Orderly tasks limit { pool with main := body } ∧ Main.Clean body ∧
    (pool.main = body ∨ pool.main = .panicked ∧ Main.fails pool.spawned body)

/-- At the start nothing has been spawned or called. -/
theorem start_unwrapped (tasks : List F) {limit : Nat} (hlimit : limit ≤ maxPermits) :
    Unwrapped tasks limit (start tasks limit : Pool F (Option T)) := by
  refine ⟨_, start_orderly tasks limit, ?_, .inl rfl⟩
  rw [if_pos hlimit]
  trivial

/-- A task that has ended stays as it is. -/
theorem Main.fails_set {spawned : List (Spawned F (Option T))} {body : Main F (Option T)}
    (h : Main.fails spawned body) {i : Nat} {task task' : Spawned F (Option T)}
    (htask : spawned[i]? = some task)
    (hleft : Phase.stepsLeft task'.phase < Phase.stepsLeft task.phase) :
    Main.fails (spawned.set i task') body := by
  unfold Main.fails at h ⊢
  split at h
  · rename_i handle handles results
    obtain ⟨done, hdone, hphase⟩ := h
    have hne : i ≠ handle := by
      rintro rfl
      obtain rfl : task = done := Option.some_inj.mp (htask.symm.trans hdone)
      rw [hphase] at hleft
      exact Nat.not_lt_zero _ hleft
    exact ⟨done, by rw [List.getElem?_set_ne hne, hdone], hphase⟩
  · exact h

/-- A step of a task keeps the invariant. -/
theorem Unwrapped.task {tasks : List F} {limit : Nat} {pool pool' : Pool F (Option T)}
    {event : PoolEvent (Option T)} (h : Unwrapped tasks limit pool) (hevent : event ≠ .main)
    (hstep : pool.next event = some pool') : Unwrapped tasks limit pool' := by
  obtain ⟨body, horderly, hclean, hmain⟩ := h
  refine ⟨body, horderly.step (next_withMain hevent hstep body), hclean, ?_⟩
  obtain ⟨hmain', i, task, task', htask, hspawned, hleft⟩ := next_task_cases hevent hstep
  rcases hmain with hmain | ⟨hpanicked, hfails⟩
  · exact .inl (hmain'.trans hmain)
  · refine .inr ⟨hmain'.trans hpanicked, ?_⟩
    rw [hspawned]
    exact Main.fails_set hfails htask hleft

/-- A body that panics leaves the pool as it is. -/
theorem stepUnwrap_cases {pool pool' : Pool F (Option T)} (h : pool.stepUnwrap = some pool') :
    pool' = { pool with main := .panicked } ∧ Main.fails pool.spawned pool.main ∨
    ¬ Main.fails pool.spawned pool.main ∧ pool.stepMain = some pool' := by
  unfold stepUnwrap at h
  split at h
  · rename_i handle handles results hpool
    obtain ⟨task, htask, h⟩ := Option.bind_eq_some_iff.mp h
    split at h
    · rename_i hphase
      rw [hpool]
      exact .inl ⟨(Option.some_inj.mp h).symm, task, htask, hphase⟩
    · rename_i hphase
      refine .inr ⟨?_, h⟩
      rw [hpool]
      rintro ⟨other, hother, hother'⟩
      obtain rfl : task = other := Option.some_inj.mp (htask.symm.trans hother)
      exact hphase hother'
  · rename_i hpool
    refine .inr ⟨?_, h⟩
    cases hmain : pool.main with
    | awaiting handles results =>
        cases handles with
        | nil => exact id
        | cons handle handles => exact absurd hmain (hpool handle handles results)
    | spawning | returned | panicked => exact id

/-- A body that does not await a panic stays clean. -/
theorem clean_of_stepMain {pool pool' : Pool F (Option T)} (h : pool.stepMain = some pool')
    (hfails : ¬ Main.fails pool.spawned pool.main) (hclean : Main.Clean pool.main) :
    Main.Clean pool'.main := by
  unfold stepMain at h
  split at h
  · obtain rfl := Option.some_inj.mp h
    trivial
  · obtain rfl := Option.some_inj.mp h
    exact nofun
  · rename_i handle handles results hpool
    obtain ⟨task, htask, h⟩ := Option.bind_eq_some_iff.mp h
    split at h
    · rename_i output hphase
      obtain rfl := Option.some_inj.mp h
      rw [hpool] at hclean hfails
      intro other hother
      rcases List.mem_append.mp hother with hother | hother
      · exact hclean other hother
      · obtain rfl := List.mem_singleton.mp hother
        cases other with
        | some value => rfl
        | none => exact absurd ⟨task, htask, hphase⟩ hfails
    · cases h
  · rename_i results hpool
    obtain rfl := Option.some_inj.mp h
    rw [hpool] at hclean
    exact hclean
  · cases h
  · cases h

/-- A step of the body keeps the invariant. -/
theorem Unwrapped.body {tasks : List F} {limit : Nat} {pool pool' : Pool F (Option T)}
    (h : Unwrapped tasks limit pool) (hstep : pool.stepUnwrap = some pool') :
    Unwrapped tasks limit pool' := by
  obtain ⟨body, horderly, hclean, rfl | ⟨hpanicked, -⟩⟩ := h
  · rcases stepUnwrap_cases hstep with ⟨rfl, hfails⟩ | ⟨hfails, hmain⟩
    · exact ⟨pool.main, horderly, hclean, .inr ⟨rfl, hfails⟩⟩
    · exact ⟨pool'.main, horderly.body hmain, clean_of_stepMain hmain hfails hclean, .inl rfl⟩
  · rw [stepUnwrap, hpanicked, stepMain, hpanicked] at hstep
    cases hstep

/-- Every step of the schedule keeps the invariant, those in which a task panics included. -/
theorem Unwrapped.step {tasks : List F} {limit : Nat} {pool pool' : Pool F (Option T)}
    {event : PoolEvent (Option T)} (h : Unwrapped tasks limit pool)
    (hstep : StepUnwrap pool event pool') : Unwrapped tasks limit pool' := by
  rcases hstep.body_or_task with hstep | ⟨hevent, hstep⟩
  · exact h.body hstep
  · exact h.task hevent hstep

/-! ## Every schedule ends -/

/-- How many steps the body has left, spawned tasks aside. -/
def Main.stepsLeft : Main F T → Nat
  | .spawning rest handles => 6 * rest.length + handles.length + 2
  | .awaiting handles _ => handles.length + 1
  | .returned _ => 0
  | .panicked => 0

/-- How many steps are left at most. -/
def stepsLeft (pool : Pool F T) : Nat :=
  Main.stepsLeft pool.main + total (fun task => Phase.stepsLeft task.phase) pool.spawned

/-- Every step of the body uses up one of the steps that are left. -/
theorem stepsLeft_stepMain {pool pool' : Pool F T} (h : pool.stepMain = some pool') :
    pool'.stepsLeft < pool.stepsLeft := by
  unfold stepMain at h
  split at h
  · rename_i task tasks handles hpool
    obtain rfl := Option.some_inj.mp h
    simp only [stepsLeft, hpool, Main.stepsLeft, total_append_singleton, Phase.stepsLeft,
      List.length_cons, List.length_append, List.length_nil]
    omega
  · rename_i handles hpool
    obtain rfl := Option.some_inj.mp h
    simp only [stepsLeft, hpool, Main.stepsLeft, List.length_nil]
    omega
  · rename_i handle handles results hpool
    obtain ⟨task, -, h⟩ := Option.bind_eq_some_iff.mp h
    split at h
    · obtain rfl := Option.some_inj.mp h
      simp only [stepsLeft, hpool, Main.stepsLeft, List.length_cons]
      omega
    · cases h
  · rename_i results hpool
    obtain rfl := Option.some_inj.mp h
    simp only [stepsLeft, hpool, Main.stepsLeft, List.length_nil]
    omega
  · cases h
  · cases h

/-- A step leaves fewer steps. -/
theorem stepsLeft_nextUnwrap {pool pool' : Pool F (Option T)} {event : PoolEvent (Option T)}
    (h : StepUnwrap pool event pool') : pool'.stepsLeft < pool.stepsLeft := by
  rcases h.body_or_task with hbody | ⟨hevent, hnext⟩
  · rcases stepUnwrap_cases hbody with ⟨rfl, hfails⟩ | ⟨-, hmain⟩
    · unfold Main.fails at hfails
      split at hfails
      · rename_i handle handles results hpool
        simp only [stepsLeft, hpool, Main.stepsLeft, List.length_cons]
        omega
      · cases hfails
    · exact stepsLeft_stepMain hmain
  · obtain ⟨hmain, i, task, task', htask, hspawned, hleft⟩ := next_task_cases hevent hnext
    have htotal := total_set_add htask task' (q := fun task => Phase.stepsLeft task.phase)
    rw [stepsLeft, stepsLeft, hmain, hspawned]
    omega

/-! ## The end of a schedule -/

/-- When no task can take a step, all have ended, unless there are no permits at all. -/
theorem complete_of_final {pool : Pool F (Option T)} {limit : Nat} (hlimit : 1 ≤ limit)
    (hpermits : pool.permits + pool.heldCount = limit)
    (hfinal : ∀ event, event ≠ .main → pool.next event = none) {i : Nat}
    {task : Spawned F (Option T)} (htask : pool.spawned[i]? = some task) :
    ∃ output, task.phase = .complete output := by
  by_contra hends
  obtain ⟨event, hevent, hnext⟩ := exists_event_of_not_complete hlimit hpermits htask hends
  rw [hfinal event hevent] at hnext
  cases hnext

/-- What a finished schedule leaves: the closures in order, each called once, with their
outputs; and a body that has returned these, or has panicked because of one. -/
def Ended (tasks : List F) (pool : Pool F (Option T)) : Prop :=
  ∃ ended : List (F × Option T), ended.map Prod.fst = tasks ∧
    pool.spawned = ended.map (fun task => ⟨task.1, 1, .complete task.2⟩) ∧
    pool.main = if ended.all (·.2.isSome) then .returned (ended.map Prod.snd) else .panicked

/-- The output of a task that has ended. -/
def Spawned.output (task : Spawned F (Option T)) : Option T :=
  match task.phase with
  | .complete output => output
  | _ => none

/-- A task that has ended is given by its closure and its output. -/
theorem Spawned.eq_of_complete {task : Spawned F (Option T)} (hcalled : Spawned.CalledOnce task)
    {output : Option T} (hphase : task.phase = .complete output) :
    ⟨task.closure, 1, .complete (Spawned.output task)⟩ = task := by
  rw [Spawned.CalledOnce, hphase] at hcalled
  rw [Spawned.output, hphase]
  cases task
  cases hcalled
  cases hphase
  rfl

/-- The results of all tasks are their outputs. -/
theorem Collected.eq_map {spawned : List (Spawned F (Option T))} {results : List (Option T)}
    (h : Collected spawned results) (hlength : results.length = spawned.length) :
    results = spawned.map Spawned.output := by
  refine List.ext_getElem (by rw [hlength, List.length_map]) fun i hresult hspawned => ?_
  obtain ⟨task, htask, hphase⟩ := h i results[i] (List.getElem?_eq_getElem hresult)
  obtain ⟨_, rfl⟩ := List.getElem?_eq_some_iff.mp htask
  rw [List.getElem_map, Spawned.output, hphase]

/-- When all tasks have ended and the body cannot go on, it has panicked or returned. -/
theorem body_of_final {tasks : List F} {limit : Nat} {pool : Pool F (Option T)}
    (h : Unwrapped tasks limit pool) (hbody : pool.stepUnwrap = none)
    (hcomplete : ∀ (i : Nat) (task : Spawned F (Option T)), pool.spawned[i]? = some task →
      ∃ output, task.phase = .complete output) :
    pool.spawned.map (·.closure) = tasks ∧
      (pool.main = .panicked ∧ (∃ task ∈ pool.spawned, task.phase = .complete none) ∨
        ∃ results, pool.main = .returned results ∧ Main.Clean (.returned results : Main F _) ∧
          Collected pool.spawned results ∧ results.length = pool.spawned.length) := by
  obtain ⟨body, ⟨-, -, horder⟩, hclean, rfl | ⟨hpanicked, hfails⟩⟩ := h
  · cases hpool : pool.main with
    | spawning rest handles =>
        cases rest <;> simp [stepUnwrap, stepMain, hpool] at hbody
    | awaiting handles results =>
        cases handles with
        | nil => simp [stepUnwrap, stepMain, hpool] at hbody
        | cons handle handles =>
            rw [hpool] at horder
            have hmem : handle ∈ List.range pool.spawned.length :=
              List.mem_of_mem_drop (horder.2.2.1 ▸ List.mem_cons_self)
            obtain ⟨task, htask⟩ : ∃ task, pool.spawned[handle]? = some task :=
              ⟨_, List.getElem?_eq_getElem (List.mem_range.mp hmem)⟩
            obtain ⟨output, hphase⟩ := hcomplete handle task htask
            cases output <;> simp [stepUnwrap, stepMain, hpool, htask, hphase] at hbody
    | returned results =>
        rw [hpool] at horder hclean
        exact ⟨horder.1, .inr ⟨results, rfl, hclean, horder.2⟩⟩
    | panicked =>
        rw [hpool] at hclean
        exact absurd hclean id
  · unfold Main.fails at hfails
    split at hfails
    · obtain ⟨task, htask, hphase⟩ := hfails
      exact ⟨horder.1, .inl ⟨hpanicked, task, List.mem_of_getElem? htask, hphase⟩⟩
    · exact absurd hfails id

/-- With a positive limit, a schedule without a next step has ended. -/
theorem Unwrapped.ended {tasks : List F} {limit : Nat} {pool : Pool F (Option T)}
    (h : Unwrapped tasks limit pool) (hlimit : 1 ≤ limit)
    (hfinal : ∀ event, pool.nextUnwrap event = none) : Ended tasks pool := by
  obtain ⟨body, horderly, -⟩ := id h
  have hpermits : pool.permits + pool.heldCount = limit := horderly.permits_add
  have hcomplete : ∀ (i : Nat) (task : Spawned F (Option T)), pool.spawned[i]? = some task →
      ∃ output, task.phase = .complete output := by
    refine fun i task => complete_of_final hlimit hpermits fun event hevent => ?_
    cases event with
    | main => exact absurd rfl hevent
    | acquire j => exact hfinal (.acquire j)
    | call j => exact hfinal (.call j)
    | finish j output => exact hfinal (.finish j output)
    | release j => exact hfinal (.release j)
  have htask : ∀ task ∈ pool.spawned,
      (⟨task.closure, 1, .complete (Spawned.output task)⟩ : Spawned F (Option T)) = task := by
    intro task hmem
    obtain ⟨i, hi⟩ := List.getElem?_of_mem hmem
    obtain ⟨output, hphase⟩ := hcomplete i task hi
    exact Spawned.eq_of_complete (horderly.calledOnce task hmem) hphase
  obtain ⟨hclosures, hbody⟩ := body_of_final h (hfinal .main) hcomplete
  refine ⟨pool.spawned.map fun task => (task.closure, Spawned.output task), ?_, ?_, ?_⟩
  · rw [List.map_map]
    exact hclosures
  · rw [List.map_map]
    exact (List.map_id _).symm.trans (List.map_congr_left fun task hmem => (htask task hmem).symm)
  · rcases hbody with ⟨hpanicked, task, hmem, hphase⟩ | ⟨results, hreturned, hclean, hresults, hlength⟩
    · rw [hpanicked, if_neg]
      rw [List.all_eq_true]
      intro hall
      have hsome := hall _ (List.mem_map_of_mem hmem)
      rw [Spawned.output, hphase] at hsome
      cases hsome
    · have houtputs : (pool.spawned.map fun task => (task.closure, Spawned.output task)).map
          Prod.snd = results := by
        rw [List.map_map]
        exact (hresults.eq_map hlength).symm
      rw [houtputs, hreturned, if_pos]
      rw [List.all_eq_true]
      intro task hmem
      exact hclean task.2 (houtputs ▸ List.mem_map_of_mem hmem)

/-! ## Results -/

/-- Under a limit of at least one, in every schedule of tasks that may panic: at most
`limit` futures are under way, and no closure is called twice; the schedule has at most six
steps for every task and two more; and when no step is left, every closure was called
once, and the body has returned all outputs in order or, when a task has panicked, has
panicked itself. -/
theorem run_with_limit_settles (tasks : List F) {limit : Nat} (hlimit : 1 ≤ limit)
    (hmax : limit ≤ maxPermits) (path : List (PoolEvent (Option T) × Pool F (Option T)))
    (hpath : IsPath StepUnwrap (start tasks limit) path) :
    EveryState (fun pool => pool.runningCount ≤ limit ∧ ∀ task ∈ pool.spawned, task.calls ≤ 1)
      (start tasks limit) path ∧
    path.length ≤ 6 * tasks.length + 2 ∧
    ((∀ event, (lastState (start tasks limit) path).nextUnwrap event = none) →
      Ended tasks (lastState (start tasks limit) path)) := by
  have hinvariant : EveryState (Unwrapped tasks limit) (start tasks limit) path :=
    hpath.invariant (start_unwrapped tasks hmax) fun _ _ _ hinv hstep => hinv.step hstep
  refine ⟨hinvariant.imp ?_, ?_, hinvariant.last.ended hlimit⟩
  · rintro pool ⟨body, horderly, -⟩
    have hkeeps := horderly.keepsLimitAndOrder
    exact ⟨hkeeps.running_le, hkeeps.calls_le⟩
  · have hlength := hpath.length_add_le stepsLeft fun _ _ _ hstep => stepsLeft_nextUnwrap hstep
    have hstart : stepsLeft (start tasks limit : Pool F (Option T)) = 6 * tasks.length + 2 := by
      simp [stepsLeft, start, if_pos hmax, Main.stepsLeft]
    omega

/-- Two tasks under a limit of one, the first of which panics. -/
theorem run_with_limit_settles_panic :
    Ended [(), ()] (lastState (start [(), ()] 1 : Pool Unit (Option Nat))
      (follow nextUnwrap (start [(), ()] 1)
        [.main, .main, .acquire 0, .call 0, .main, .finish 0 none, .release 0, .acquire 1, .main,
          .call 1, .finish 1 (some 20), .release 1])) := by
  refine (run_with_limit_settles [(), ()] (Nat.le_refl 1) (by decide) _ (isPath_follow nextUnwrap _ _)).2.2 ?_
  intro event
  cases event with
  | main => rfl
  | acquire i | call i | finish i | release i => match i with
    | 0 => rfl
    | 1 => rfl
    | i + 2 => rfl

/-- Tasks wait for a permit that does not come. -/
structure Stuck (pool : Pool F (Option T)) : Prop where
  permits_eq : pool.permits = 0
  waiting : ∀ task ∈ pool.spawned, task.phase = .waiting ∧ task.calls = 0

/-- A step of the body keeps the pool stuck. -/
theorem Stuck.body {pool pool' : Pool F (Option T)} (h : Stuck pool)
    (hstep : pool.stepMain = some pool') : Stuck pool' := by
  unfold stepMain at hstep
  split at hstep
  · obtain rfl := Option.some_inj.mp hstep
    refine ⟨h.permits_eq, fun task hmem => ?_⟩
    rcases List.mem_append.mp hmem with hmem | hmem
    · exact h.waiting task hmem
    · obtain rfl := List.mem_singleton.mp hmem
      exact ⟨rfl, rfl⟩
  · obtain rfl := Option.some_inj.mp hstep
    exact ⟨h.permits_eq, h.waiting⟩
  · obtain ⟨task, -, hstep⟩ := Option.bind_eq_some_iff.mp hstep
    split at hstep
    · obtain rfl := Option.some_inj.mp hstep
      exact ⟨h.permits_eq, h.waiting⟩
    · cases hstep
  · obtain rfl := Option.some_inj.mp hstep
    exact ⟨h.permits_eq, h.waiting⟩
  · cases hstep
  · cases hstep

/-- A body that is stuck does not fail, because no task has panicked. -/
theorem Stuck.not_fails {pool : Pool F (Option T)} (h : Stuck pool) (body : Main F (Option T)) :
    ¬ Main.fails pool.spawned body := by
  unfold Main.fails
  split
  · rintro ⟨task, htask, hphase⟩
    rw [(h.waiting task (List.mem_of_getElem? htask)).1] at hphase
    cases hphase
  · exact id

/-- No task can take a step. -/
theorem Stuck.next_eq_none {pool : Pool F (Option T)} (h : Stuck pool)
    {event : PoolEvent (Option T)} (hevent : event ≠ .main) : pool.next event = none := by
  cases event with
  | main => exact absurd rfl hevent
  | acquire i | call i | finish i | release i =>
      cases htask : pool.spawned[i]? with
      | none => simp [next, htask]
      | some task =>
          have hphase := (h.waiting task (List.mem_of_getElem? htask)).1
          simp [next, htask, hphase, h.permits_eq]

/-- Every step keeps the pool stuck. -/
theorem Stuck.step {pool pool' : Pool F (Option T)} {event : PoolEvent (Option T)}
    (h : Stuck pool) (hstep : StepUnwrap pool event pool') : Stuck pool' := by
  rcases hstep.body_or_task with hbody | ⟨hevent, hnext⟩
  · rcases stepUnwrap_cases hbody with ⟨-, hfails⟩ | ⟨-, hmain⟩
    · exact absurd hfails (h.not_fails pool.main)
    · exact h.body hmain
  · rw [h.next_eq_none hevent] at hnext
    cases hnext

/-- Under a limit of zero no closure is ever called, and on at least one task
`run_with_limit` neither returns nor panics. -/
theorem run_with_limit_zero (tasks : List F)
    (path : List (PoolEvent (Option T) × Pool F (Option T)))
    (hpath : IsPath StepUnwrap (start tasks 0) path) :
    EveryState (fun pool => (∀ task ∈ pool.spawned, task.calls = 0) ∧
      (tasks ≠ [] → pool.main ≠ .panicked ∧ ∀ results, pool.main ≠ .returned results))
      (start tasks 0) path := by
  have hinvariant : EveryState (fun pool => Unwrapped tasks 0 pool ∧ Stuck pool)
      (start tasks 0) path :=
    hpath.invariant ⟨start_unwrapped tasks (Nat.zero_le _), rfl, by rintro task ⟨⟩⟩
      fun _ _ _ hinv hstep => ⟨hinv.1.step hstep, hinv.2.step hstep⟩
  refine hinvariant.imp ?_
  rintro pool ⟨⟨body, ⟨-, -, horder⟩, hclean, hmain⟩, hstuck⟩
  refine ⟨fun task hmem => (hstuck.waiting task hmem).2, fun htasks => ?_⟩
  rcases hmain with rfl | ⟨-, hfails⟩
  · cases hpool : pool.main with
    | spawning | awaiting => exact ⟨by rintro ⟨⟩, by rintro _ ⟨⟩⟩
    | panicked =>
        rw [hpool] at hclean
        exact absurd hclean id
    | returned results =>
        rw [hpool] at horder
        obtain ⟨hclosures, hcollected, hlength⟩ := horder
        have hpos : 0 < results.length := by
          rw [hlength]
          refine List.length_pos_of_ne_nil fun hnil => htasks ?_
          rw [← hclosures]
          exact congrArg (List.map (·.closure)) hnil
        obtain ⟨task, htask, hphase⟩ :=
          hcollected 0 results[0] (List.getElem?_eq_getElem hpos)
        rw [(hstuck.waiting task (List.mem_of_getElem? htask)).1] at hphase
        cases hphase
  · exact absurd hfails (hstuck.not_fails body)

/-- One task under a limit of zero. -/
theorem run_with_limit_zero_oneTask :
    (follow nextUnwrap (start [()] 0 : Pool Unit (Option Nat)) [.main, .main]).length = 2 ∧
      EveryState (fun pool => (∀ task ∈ pool.spawned, task.calls = 0) ∧
        ([()] ≠ ([] : List Unit) →
          pool.main ≠ .panicked ∧ ∀ results, pool.main ≠ .returned results))
        (start [()] 0) (follow nextUnwrap (start [()] 0 : Pool Unit (Option Nat)) [.main, .main]) :=
  ⟨rfl, run_with_limit_zero [()] _ (isPath_follow nextUnwrap _ _)⟩

end Pool

end Foundations
end TaskPool
