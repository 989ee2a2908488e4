import TaskPool.Foundations.RunWithLimit
import TaskPool.Library.Workers
import TaskPool.NvmeHarness.Offsets

/-!
# The queue depth

`run_benchmark` takes a permit of a semaphore before it spawns the read of an operation,
and the read gives the permit back when its result is there.  After the last operation the
handles are awaited in order; the first error ends the benchmark.  The body and the spawned
reads take their steps in any order.

Of the runtime the steps assume what its documentation says: `Semaphore::new` has as many
permits as it is given, and panics above `MAX_PERMITS`; `acquire_owned` takes one as soon as
there is one, and dropping the permit gives it back; a closure given to `spawn_blocking` runs
once, on a thread of its own; and its handle yields the result after it has ended, or an error
when it has panicked.

Main results:

- Definition `Run.next`: the steps of the body and of the spawned reads.
- Structure `Orderly`: permits taken and permits left make up the queue depth, the reads
  are those of the first operations, and the bytes so far are those of the first handles.
- Theorem `run_benchmark_settles`: every schedule keeps the queue depth and ends, and in
  the end every operation was read once and the result is that of reading in order.
- Theorem `run_benchmark_prepared`: on a prepared file every schedule returns the same
  number of bytes.
-/

namespace TaskPool
namespace NvmeHarness

open Foundations Library

/-- The file at `path`, the arguments of `run_benchmark`, and `OPERATIONS`. -/
structure Config where
  overflow : Overflow
  file : Option (List UInt8)
  pattern : AccessPattern
  blockSize : Nat
  queueDepth : Nat
  operations : Nat

/-- What a read leaves behind; `none` when it panics. -/
abbrev Outcome := Option (Except ReadError Nat)

/-- What an awaited handle fails with. -/
inductive TaskError where
  /-- The result of the task is an error. -/
  | read (error : ReadError)
  /-- The task has panicked. -/
  | join
deriving DecidableEq

/-- `task.await??`. -/
def awaited : Outcome → Except TaskError Nat
  | none => .error .join
  | some (.error error) => .error (.read error)
  | some (.ok bytes) => .ok bytes

/-- Where a spawned read is. -/
inductive ReadPhase where
  /-- It holds a permit, and `read_block` has not returned. -/
  | reading
  /-- `read_block` has returned or panicked; the permit is not dropped yet. -/
  | finished (outcome : Outcome)
  /-- The permit is dropped. -/
  | released (outcome : Outcome)
  /-- The task has ended, and its handle yields the outcome. -/
  | complete (outcome : Outcome)
deriving DecidableEq

/-- A spawned read. -/
structure SpawnedRead where
  operation : Nat
  phase : ReadPhase
deriving DecidableEq

/-- Where the body of `run_benchmark` is. -/
inductive Body where
  /-- The first loop, at an operation. -/
  | submitting (operation : Nat)
  /-- The second loop, at a handle, with the bytes so far. -/
  | collecting (handle bytes : Nat)
  | returned (result : Except TaskError Nat)
  | panicked

/-- The body, the permits left in the semaphore, and the spawned reads. -/
structure Run where
  body : Body
  permits : Nat
  reads : List SpawnedRead

/-- A step of the body or of the spawned read at a place. -/
inductive RunEvent where
  | body
  | read (i : Nat)
  | release (i : Nat)
  | finish (i : Nat)

/-- `read_block` on the file of the benchmark. -/
def Config.readBlock (config : Config) (operation : Nat) : Outcome :=
  NvmeHarness.readBlock config.overflow config.file operation config.blockSize config.pattern

/-- `a + b` on `u64`. -/
def addU64 (overflow : Overflow) (a b : Nat) : Option Nat :=
  match overflow with
  | .wraps => some ((a + b) % 2 ^ 64)
  | .aborts => if a + b < 2 ^ 64 then some (a + b) else none

namespace Run

/-- `run_benchmark` after `Semaphore::new(queue_depth)`. -/
def start (config : Config) : Run where
  body := if config.queueDepth ≤ maxPermits then .submitting 0 else .panicked
  permits := config.queueDepth
  reads := []

/-- One iteration of a loop of the body, or the end of the loop. -/
def stepBody (config : Config) (run : Run) : Option Run :=
  match run.body with
  | .submitting operation =>
    if operation < config.operations then
      match run.permits with
      | 0 => none
      | permits + 1 =>
        some ⟨.submitting (operation + 1), permits, run.reads ++ [⟨operation, .reading⟩]⟩
    else some { run with body := .collecting 0 0 }
  | .collecting handle bytes =>
    match run.reads[handle]? with
    | none => some { run with body := .returned (.ok bytes) }
    | some read =>
      match read.phase with
      | .complete outcome =>
        match awaited outcome with
        | .error error => some { run with body := .returned (.error error) }
        | .ok count =>
          match addU64 config.overflow bytes count with
          | none => some { run with body := .panicked }
          | some bytes => some { run with body := .collecting (handle + 1) bytes }
      | _ => none
  | .returned _ => none
  | .panicked => none

/-- Replace the phase of the spawned read at a place. -/
def setPhase (run : Run) (i : Nat) (read : SpawnedRead) (phase : ReadPhase) : Run :=
  { run with reads := run.reads.set i { read with phase := phase } }

/-- The state after a step; a step that cannot be taken is refused. -/
def next (config : Config) (run : Run) : RunEvent → Option Run
  | .body => run.stepBody config
  | .read i => do
    let read ← run.reads[i]?
    match read.phase with
    | .reading => some (run.setPhase i read (.finished (config.readBlock read.operation)))
    | _ => none
  | .release i => do
    let read ← run.reads[i]?
    match read.phase with
    | .finished outcome =>
      some { run.setPhase i read (.released outcome) with permits := run.permits + 1 }
    | _ => none
  | .finish i => do
    let read ← run.reads[i]?
    match read.phase with
    | .released outcome => some (run.setPhase i read (.complete outcome))
    | _ => none

/-- One step of some party. -/
def Step (config : Config) (run : Run) (event : RunEvent) (run' : Run) : Prop :=
  run.next config event = some run'

end Run

/-! ## Reading in order -/

/-- The bytes of the first operations, read one after the other. -/
def Config.bytesRead (config : Config) (operations : Nat) : Except TaskError Nat :=
  (List.range operations).foldlM
    (fun bytes operation => (awaited (config.readBlock operation)).map (bytes + ·)) 0

/-- One more operation adds the bytes of its block, if all before it succeeded. -/
theorem Config.bytesRead_succ (config : Config) (operations : Nat) :
    config.bytesRead (operations + 1) = (config.bytesRead operations).bind fun bytes =>
      (awaited (config.readBlock operations)).map (bytes + ·) := by
  rw [bytesRead, List.range_succ, List.foldlM_append]
  simp only [List.foldlM_cons, List.foldlM_nil, bind_pure]
  rfl

/-- After an error nothing is read. -/
theorem Config.bytesRead_error {config : Config} {operations : Nat} {error : TaskError}
    (h : config.bytesRead operations = .error error) {more : Nat} (hle : operations ≤ more) :
    config.bytesRead more = .error error := by
  induction more, hle using Nat.le_induction with
  | base => exact h
  | succ more _ ih => rw [bytesRead_succ, ih, Except.bind]

/-- A read returns a whole block, and a block that is read is not larger than the file of the
benchmark. -/
theorem eq_blockSize_of_readBlock {overflow : Overflow} {file : Option (List UInt8)}
    {pattern : AccessPattern} {operation blockSize bytes : Nat}
    (h : readBlock overflow file operation blockSize pattern = some (.ok bytes)) :
    bytes = blockSize ∧ blockSize ≤ fileSize := by
  have hblocks : ∀ {start}, offset overflow operation blockSize pattern = some start →
      blockSize ≤ fileSize := by
    intro start hoffset
    by_contra hlarge
    have hzero : divU64 fileSize blockSize = some 0 := by
      rw [divU64, if_neg (by omega), Nat.div_eq_of_lt (by omega)]
    cases pattern with
    | sequential =>
        simp [offset, sequentialOffset, hzero, remU64] at hoffset
    | random =>
        simp only [offset, randomOffset, hzero, remU64, Option.bind_eq_bind, Option.bind_some,
          if_pos, Option.bind_none, Option.bind_fun_none] at hoffset
        cases hoffset
  cases file with
  | none => cases h
  | some contents =>
      obtain ⟨start, hoffset, h⟩ := Option.bind_eq_some_iff.mp h
      split at h
      · obtain rfl := Except.ok.inj (Option.some_inj.mp h)
        exact ⟨rfl, hblocks hoffset⟩
      · cases Option.some_inj.mp h

/-- A handle that yields no error yields the size of a block. -/
theorem eq_blockSize_of_awaited {config : Config} {operation bytes : Nat}
    (h : awaited (config.readBlock operation) = .ok bytes) :
    bytes = config.blockSize ∧ config.blockSize ≤ fileSize := by
  unfold awaited at h
  split at h
  · cases h
  · cases h
  · rename_i count hread
    obtain rfl := Except.ok.inj h
    exact eq_blockSize_of_readBlock hread

/-- Without an error, whole blocks were read. -/
theorem Config.eq_mul_of_bytesRead {config : Config} {operations bytes : Nat}
    (h : config.bytesRead operations = .ok bytes) : bytes = operations * config.blockSize := by
  induction operations generalizing bytes with
  | zero =>
      obtain rfl : 0 = bytes := Except.ok.inj h
      exact (Nat.zero_mul _).symm
  | succ operations ih =>
      rw [bytesRead_succ] at h
      cases hbytes : config.bytesRead operations with
      | error error =>
          rw [hbytes] at h
          cases h
      | ok before =>
          cases hread : awaited (config.readBlock operations) with
          | error error =>
              rw [hbytes, hread] at h
              cases h
          | ok count =>
              rw [hbytes, hread] at h
              obtain rfl : before + count = bytes := Except.ok.inj h
              rw [Nat.succ_mul, ih hbytes, (eq_blockSize_of_awaited hread).1]

/-- A sum in the range of `u64` is exact in both builds. -/
theorem addU64_eq_some {overflow : Overflow} {a b : Nat} (h : a + b < 2 ^ 64) :
    addU64 overflow a b = some (a + b) := by
  cases overflow with
  | wraps => rw [addU64, Nat.mod_eq_of_lt h]
  | aborts => rw [addU64, if_pos h]

/-! ## The invariant -/

/-- How many permits a read holds. -/
def ReadPhase.permits : ReadPhase → Nat
  | .reading | .finished _ => 1
  | .released _ | .complete _ => 0

/-- How many steps a read has left. -/
def ReadPhase.stepsLeft : ReadPhase → Nat
  | .reading => 3
  | .finished _ => 2
  | .released _ => 1
  | .complete _ => 0

/-- The result of a read that has one. -/
def ReadPhase.outcome? : ReadPhase → Option Outcome
  | .reading => none
  | .finished outcome | .released outcome | .complete outcome => some outcome

/-- The body is where it should be after submitting some operations. -/
def Body.Orderly (config : Config) (submitted : Nat) : Body → Prop
  | .submitting operation => operation = submitted ∧ submitted ≤ config.operations
  | .collecting handle bytes =>
    submitted = config.operations ∧ handle ≤ submitted ∧ config.bytesRead handle = .ok bytes
  | .returned result =>
    submitted = config.operations ∧ result = config.bytesRead config.operations
  | .panicked => False

namespace Run

/-- The number of reads under way. -/
def inFlight (run : Run) : Nat := total (fun read => ReadPhase.permits read.phase) run.reads

/-- What holds in every schedule. -/
structure Orderly (config : Config) (run : Run) : Prop where
  permits_add : run.permits + run.inFlight = config.queueDepth
  operations_eq : run.reads.map (·.operation) = List.range run.reads.length
  outcome_eq : ∀ read ∈ run.reads, ∀ outcome, ReadPhase.outcome? read.phase = some outcome →
    outcome = config.readBlock read.operation
  body : Body.Orderly config run.reads.length run.body

/-- At the start all permits are there, and no read is submitted. -/
theorem start_orderly {config : Config} (hdepth : config.queueDepth ≤ maxPermits) :
    Orderly config (start config) where
  permits_add := rfl
  operations_eq := rfl
  outcome_eq := by rintro read ⟨⟩
  body := by
    rw [start, if_pos hdepth]
    exact ⟨rfl, Nat.zero_le _⟩

/-- A step of a read. -/
structure ReadStep (config : Config) (run run' : Run) (i : Nat) (read : SpawnedRead)
    (phase : ReadPhase) : Prop where
  read_eq : run.reads[i]? = some read
  reads_eq : run'.reads = run.reads.set i { read with phase := phase }
  body_eq : run'.body = run.body
  permits_add : run'.permits + ReadPhase.permits phase =
    run.permits + ReadPhase.permits read.phase
  stepsLeft_lt : ReadPhase.stepsLeft phase < ReadPhase.stepsLeft read.phase
  outcome_eq : ∀ outcome, ReadPhase.outcome? phase = some outcome →
    ReadPhase.outcome? read.phase = some outcome ∨ outcome = config.readBlock read.operation

/-- A step is one of the body or one of a read. -/
theorem Step.cases {config : Config} {run run' : Run} {event : RunEvent}
    (h : Step config run event run') :
    run.stepBody config = some run' ∨ ∃ i read phase, ReadStep config run run' i read phase := by
  cases event with
  | body => exact .inl h
  | read i =>
      obtain ⟨read, hread, h⟩ := Option.bind_eq_some_iff.mp h
      split at h
      · rename_i hphase
        obtain rfl := Option.some_inj.mp h
        refine .inr ⟨i, read, _, hread, rfl, rfl, ?_, ?_, ?_⟩
        · rw [hphase]
          rfl
        · rw [hphase]
          exact Nat.lt_succ_self 2
        · exact fun outcome houtcome => .inr (Option.some_inj.mp houtcome).symm
      · cases h
  | release i =>
      obtain ⟨read, hread, h⟩ := Option.bind_eq_some_iff.mp h
      split at h
      · rename_i outcome hphase
        obtain rfl := Option.some_inj.mp h
        refine .inr ⟨i, read, _, hread, rfl, rfl, ?_, ?_, ?_⟩
        · rw [hphase]
          rfl
        · rw [hphase]
          exact Nat.lt_succ_self 1
        · rw [hphase]
          exact fun outcome houtcome => .inl houtcome
      · cases h
  | finish i =>
      obtain ⟨read, hread, h⟩ := Option.bind_eq_some_iff.mp h
      split at h
      · rename_i outcome hphase
        obtain rfl := Option.some_inj.mp h
        refine .inr ⟨i, read, _, hread, rfl, rfl, ?_, ?_, ?_⟩
        · rw [hphase]
          rfl
        · rw [hphase]
          exact Nat.lt_succ_self 0
        · rw [hphase]
          exact fun outcome houtcome => .inl houtcome
      · cases h

/-- A step of a read keeps the invariant. -/
theorem Orderly.read_step {config : Config} {run run' : Run} (h : Orderly config run) {i : Nat}
    {read : SpawnedRead} {phase : ReadPhase} (hstep : ReadStep config run run' i read phase) :
    Orderly config run' := by
  have hmem : read ∈ run.reads := List.mem_of_getElem? hstep.read_eq
  refine ⟨?_, ?_, ?_, ?_⟩
  · have htotal := total_set_add hstep.read_eq { read with phase := phase }
      (q := fun read => ReadPhase.permits read.phase)
    have hpermits := hstep.permits_add
    have hdepth := h.permits_add
    rw [inFlight] at hdepth
    rw [inFlight, hstep.reads_eq]
    simp only at htotal
    omega
  · rw [hstep.reads_eq, List.length_set, ← h.operations_eq]
    exact map_set_of_eq hstep.read_eq rfl
  · intro other hother outcome houtcome
    rw [hstep.reads_eq] at hother
    rcases List.mem_or_eq_of_mem_set hother with hother | rfl
    · exact h.outcome_eq other hother outcome houtcome
    · rcases hstep.outcome_eq outcome houtcome with hbefore | hread
      · exact h.outcome_eq read hmem outcome hbefore
      · exact hread
  · rw [hstep.body_eq, hstep.reads_eq, List.length_set]
    exact h.body

/-- A step of the body spawns the next read, awaits the next handle, or ends a loop. -/
theorem stepBody_cases {config : Config} {run run' : Run} (h : run.stepBody config = some run') :
    (∃ operation permits, run.body = .submitting operation ∧ operation < config.operations ∧
      run.permits = permits + 1 ∧
      run' = ⟨.submitting (operation + 1), permits, run.reads ++ [⟨operation, .reading⟩]⟩) ∨
    (∃ operation, run.body = .submitting operation ∧ config.operations ≤ operation ∧
      run' = { run with body := .collecting 0 0 }) ∨
    (∃ handle bytes, run.body = .collecting handle bytes ∧ run.reads.length ≤ handle ∧
      run' = { run with body := .returned (.ok bytes) }) ∨
    ∃ handle bytes read outcome, run.body = .collecting handle bytes ∧
      run.reads[handle]? = some read ∧ read.phase = .complete outcome ∧
      (match awaited outcome with
        | .error error => run' = { run with body := .returned (.error error) }
        | .ok count => match addU64 config.overflow bytes count with
          | none => run' = { run with body := .panicked }
          | some bytes => run' = { run with body := .collecting (handle + 1) bytes }) := by
  unfold stepBody at h
  split at h
  · rename_i operation hbody
    split at h
    · rename_i hlt
      split at h
      · cases h
      · rename_i permits hpermits
        exact .inl ⟨operation, permits, hbody, hlt, hpermits, (Option.some_inj.mp h).symm⟩
    · rename_i hle
      exact .inr (.inl ⟨operation, hbody, Nat.not_lt.mp hle, (Option.some_inj.mp h).symm⟩)
  · rename_i handle bytes hbody
    split at h
    · rename_i hread
      exact .inr (.inr (.inl ⟨handle, bytes, hbody, List.getElem?_eq_none_iff.mp hread,
        (Option.some_inj.mp h).symm⟩))
    · rename_i read hread
      split at h
      · rename_i outcome hphase
        refine .inr (.inr (.inr ⟨handle, bytes, read, outcome, hbody, hread, hphase, ?_⟩))
        split at h
        · exact (Option.some_inj.mp h).symm
        · split at h
          · exact (Option.some_inj.mp h).symm
          · exact (Option.some_inj.mp h).symm
      · cases h
  · cases h
  · cases h

/-- The read at a place is the one of the operation of that number. -/
theorem Orderly.operation_eq {config : Config} {run : Run} (h : Orderly config run) {i : Nat}
    {read : SpawnedRead} (hread : run.reads[i]? = some read) : read.operation = i := by
  have hi : i < run.reads.length := (List.getElem?_eq_some_iff.mp hread).1
  have hoperation : (run.reads.map (·.operation))[i]? = some read.operation := by
    rw [List.getElem?_map, hread]
    rfl
  rw [h.operations_eq, List.getElem?_range hi] at hoperation
  exact (Option.some_inj.mp hoperation).symm

/-- A step of the body keeps the invariant. -/
theorem Orderly.body_step {config : Config}
    (hfits : config.blockSize ≤ fileSize → config.operations * config.blockSize < 2 ^ 64)
    {run run' : Run} (h : Orderly config run) (hstep : run.stepBody config = some run') :
    Orderly config run' := by
  have hbody := h.body
  rcases stepBody_cases hstep with ⟨operation, permits, heq, hlt, hpermits, rfl⟩ |
    ⟨operation, heq, hle, rfl⟩ | ⟨handle, bytes, heq, hle, rfl⟩ |
    ⟨handle, bytes, read, outcome, heq, hread, hphase, hresult⟩
  · rw [heq] at hbody
    obtain ⟨rfl, -⟩ := hbody
    refine ⟨?_, ?_, ?_, ?_⟩
    · have hdepth := h.permits_add
      have hheld : ReadPhase.permits .reading = 1 := rfl
      simp only [inFlight, total_append_singleton, hheld] at hdepth ⊢
      omega
    · rw [List.map_append, h.operations_eq, List.length_append]
      exact List.range_succ.symm
    · intro other hother outcome houtcome
      rcases List.mem_append.mp hother with hother | hother
      · exact h.outcome_eq other hother outcome houtcome
      · obtain rfl := List.mem_singleton.mp hother
        cases houtcome
    · rw [List.length_append]
      exact ⟨rfl, hlt⟩
  · rw [heq] at hbody
    obtain ⟨rfl, hle'⟩ := hbody
    exact ⟨h.permits_add, h.operations_eq, h.outcome_eq,
      Nat.le_antisymm hle' hle, Nat.zero_le _, rfl⟩
  · rw [heq] at hbody
    obtain ⟨hsubmitted, hle', hbytes⟩ := hbody
    obtain rfl : handle = config.operations := (Nat.le_antisymm hle' hle).trans hsubmitted
    exact ⟨h.permits_add, h.operations_eq, h.outcome_eq, hsubmitted, hbytes.symm⟩
  · rw [heq] at hbody
    obtain ⟨hsubmitted, -, hbytes⟩ := hbody
    have hlt : handle < run.reads.length := (List.getElem?_eq_some_iff.mp hread).1
    have houtcome : outcome = config.readBlock handle := by
      rw [← h.operation_eq hread]
      exact h.outcome_eq read (List.mem_of_getElem? hread) outcome (by rw [hphase]; rfl)
    have hnext := config.bytesRead_succ handle
    rw [hbytes, ← houtcome] at hnext
    cases hawaited : awaited outcome with
    | error error =>
        rw [hawaited] at hresult hnext
        obtain rfl := hresult
        exact ⟨h.permits_add, h.operations_eq, h.outcome_eq, hsubmitted,
          (Config.bytesRead_error hnext (hsubmitted ▸ hlt)).symm⟩
    | ok count =>
        rw [hawaited] at hresult hnext
        have hblock := (eq_blockSize_of_awaited (houtcome ▸ hawaited)).2
        have hwhole : bytes + count = (handle + 1) * config.blockSize :=
          Config.eq_mul_of_bytesRead hnext
        have hsum : bytes + count < 2 ^ 64 := by
          rw [hwhole]
          exact lt_of_le_of_lt (Nat.mul_le_mul_right _ (hsubmitted ▸ hlt)) (hfits hblock)
        simp only [addU64_eq_some hsum] at hresult
        obtain rfl := hresult
        exact ⟨h.permits_add, h.operations_eq, h.outcome_eq, hsubmitted, hlt, hnext⟩

/-- Every step keeps the invariant. -/
theorem Orderly.step {config : Config}
    (hfits : config.blockSize ≤ fileSize → config.operations * config.blockSize < 2 ^ 64)
    {run run' : Run} {event : RunEvent} (h : Orderly config run)
    (hstep : Step config run event run') : Orderly config run' := by
  rcases hstep.cases with hstep | ⟨i, read, phase, hstep⟩
  · exact h.body_step hfits hstep
  · exact h.read_step hstep

/-! ## Every schedule ends -/

/-- How many steps the body and the reads have left at most. -/
def stepsLeft (config : Config) (run : Run) : Nat :=
  total (fun read => ReadPhase.stepsLeft read.phase) run.reads +
    match run.body with
    | .submitting operation => 5 * (config.operations - operation) + run.reads.length + 2
    | .collecting handle _ => run.reads.length - handle + 1
    | .returned _ => 0
    | .panicked => 0

/-- A step leaves fewer steps. -/
theorem Step.stepsLeft_lt {config : Config} {run run' : Run} {event : RunEvent}
    (h : Step config run event run') : run'.stepsLeft config < run.stepsLeft config := by
  rcases h.cases with hbody | ⟨i, read, phase, hread⟩
  · rcases stepBody_cases hbody with ⟨operation, permits, heq, hlt, -, rfl⟩ |
      ⟨operation, heq, -, rfl⟩ | ⟨handle, bytes, heq, -, rfl⟩ |
      ⟨handle, bytes, read, outcome, heq, hread, -, hresult⟩
    · have hleft : ReadPhase.stepsLeft .reading = 3 := rfl
      simp only [stepsLeft, heq, total_append_singleton, hleft, List.length_append,
        List.length_singleton]
      omega
    · simp only [stepsLeft, heq]
      omega
    · simp only [stepsLeft, heq]
      omega
    · have hlt : handle < run.reads.length := (List.getElem?_eq_some_iff.mp hread).1
      split at hresult
      · obtain rfl := hresult
        simp only [stepsLeft, heq]
        omega
      · split at hresult
        · obtain rfl := hresult
          simp only [stepsLeft, heq]
          omega
        · obtain rfl := hresult
          simp only [stepsLeft, heq]
          omega
  · have htotal := total_set_add hread.read_eq { read with phase := phase }
      (q := fun read => ReadPhase.stepsLeft read.phase)
    have hleft := hread.stepsLeft_lt
    simp only [stepsLeft, hread.reads_eq, hread.body_eq, List.length_set] at htotal ⊢
    omega

/-! ## The end of a schedule -/

/-- All operations were read, all permits are back, and the result is that of reading in
order. -/
def ended (config : Config) : Run where
  body := .returned (config.bytesRead config.operations)
  permits := config.queueDepth
  reads := (List.range config.operations).map fun operation =>
    ⟨operation, .complete (config.readBlock operation)⟩

/-- A read can go on until it has ended. -/
theorem complete_of_final {config : Config} {run : Run}
    (hfinal : ∀ event, run.next config event = none) {i : Nat} {read : SpawnedRead}
    (hread : run.reads[i]? = some read) : ∃ outcome, read.phase = .complete outcome := by
  cases hphase : read.phase with
  | reading =>
      have hnext := hfinal (.read i)
      simp [next, hread, hphase] at hnext
  | finished outcome =>
      have hnext := hfinal (.release i)
      simp [next, hread, hphase] at hnext
  | released outcome =>
      have hnext := hfinal (.finish i)
      simp [next, hread, hphase] at hnext
  | complete outcome => exact ⟨outcome, rfl⟩

/-- The body returns when all reads have ended and the permits are back. -/
theorem Orderly.returned_of_final {config : Config} {run : Run} (h : Orderly config run)
    (hdepth : 1 ≤ config.queueDepth) (hpermits : run.permits = config.queueDepth)
    (hcomplete : ∀ (i : Nat) (read : SpawnedRead), run.reads[i]? = some read →
      ∃ outcome, read.phase = .complete outcome)
    (hfinal : run.stepBody config = none) :
    run.reads.length = config.operations ∧
      run.body = .returned (config.bytesRead config.operations) := by
  have horderly := h.body
  cases hbody : run.body with
  | submitting operation =>
      obtain ⟨permits, hpos⟩ : ∃ permits, run.permits = permits + 1 :=
        ⟨run.permits - 1, by omega⟩
      rw [stepBody, hbody] at hfinal
      simp only [hpos] at hfinal
      split at hfinal <;> cases hfinal
  | collecting handle bytes =>
      rw [stepBody, hbody] at hfinal
      simp only at hfinal
      cases hread : run.reads[handle]? with
      | none =>
          rw [hread] at hfinal
          cases hfinal
      | some read =>
          obtain ⟨outcome, hphase⟩ := hcomplete handle read hread
          simp only [hread, hphase] at hfinal
          split at hfinal
          · cases hfinal
          · split at hfinal <;> cases hfinal
  | returned result =>
      rw [hbody] at horderly
      exact ⟨horderly.1, by rw [horderly.2]⟩
  | panicked =>
      rw [hbody] at horderly
      exact horderly.elim

/-- A schedule without a next step is at its end. -/
theorem Orderly.eq_ended {config : Config} {run : Run} (h : Orderly config run)
    (hdepth : 1 ≤ config.queueDepth) (hfinal : ∀ event, run.next config event = none) :
    run = ended config := by
  have hcomplete : ∀ (i : Nat) (read : SpawnedRead), run.reads[i]? = some read →
      read.phase = .complete (config.readBlock read.operation) := by
    intro i read hread
    obtain ⟨outcome, hphase⟩ := complete_of_final hfinal hread
    rw [hphase, h.outcome_eq read (List.mem_of_getElem? hread) outcome (by rw [hphase]; rfl)]
  have hflight : run.inFlight = 0 := by
    refine Nat.eq_zero_of_not_pos fun hpos => ?_
    obtain ⟨i, read, hread, hheld⟩ := exists_pos_of_total_pos hpos
    rw [hcomplete i read hread] at hheld
    exact Nat.lt_irrefl 0 hheld
  have hpermits : run.permits = config.queueDepth := by
    rw [← h.permits_add, hflight, Nat.add_zero]
  obtain ⟨hlength, hbody⟩ := h.returned_of_final hdepth hpermits
    (fun i read hread => ⟨_, hcomplete i read hread⟩) (hfinal .body)
  have hreads : run.reads = (List.range config.operations).map fun operation =>
      ⟨operation, .complete (config.readBlock operation)⟩ := by
    rw [← hlength, ← h.operations_eq, List.map_map]
    refine (List.map_id _).symm.trans (List.map_congr_left fun read hmem => ?_)
    obtain ⟨i, hread⟩ := List.getElem?_of_mem hmem
    rw [Function.comp_apply, ← hcomplete i read hread]
    rfl
  cases run
  cases hbody
  cases hpermits
  cases hreads
  rfl

/-! ## Results -/

/-- With a queue depth of at least one, and when the bytes of all operations fit `u64` or no
block fits the file, in every schedule: at most `queue_depth` reads are under way, the
operations are submitted in order, each of them once, and nothing overflows; the schedule
has at most five steps for every operation and two more; and when no step is left, every
operation was read once, all permits are back, and the result is that of reading in order. -/
theorem run_benchmark_settles {config : Config} (hdepth : 1 ≤ config.queueDepth)
    (hmax : config.queueDepth ≤ maxPermits)
    (hfits : config.blockSize ≤ fileSize → config.operations * config.blockSize < 2 ^ 64)
    (path : List (RunEvent × Run)) (hpath : IsPath (Step config) (start config) path) :
    EveryState (fun run => run.inFlight ≤ config.queueDepth ∧
        run.reads.map (·.operation) = List.range run.reads.length ∧ run.body ≠ .panicked)
      (start config) path ∧
    path.length ≤ 5 * config.operations + 2 ∧
    ((∀ event, (lastState (start config) path).next config event = none) →
      lastState (start config) path = ended config) := by
  have hinvariant : EveryState (Orderly config) (start config) path :=
    hpath.invariant (start_orderly hmax) fun _ _ _ hinv hstep => hinv.step hfits hstep
  refine ⟨hinvariant.imp ?_, ?_, hinvariant.last.eq_ended hdepth⟩
  · intro run horderly
    refine ⟨?_, horderly.operations_eq, ?_⟩
    · rw [← horderly.permits_add]
      exact Nat.le_add_left ..
    · intro hpanicked
      have hbody := horderly.body
      rw [hpanicked] at hbody
      exact hbody
  · have hlength := hpath.length_add_le (stepsLeft config) fun _ _ _ hstep => hstep.stepsLeft_lt
    have hstart : stepsLeft config (start config) = 5 * config.operations + 2 := by
      simp [stepsLeft, start, if_pos hmax]
    omega

/-- Three operations, two at a time, on a file of two bytes: the third one fails. -/
def shortFile : Config := ⟨.aborts, some [0, 0], .sequential, 1, 2, 3⟩

/-- The second read ends before the first one. -/
theorem run_benchmark_settles_shortFile :
    lastState (start shortFile) (follow (next shortFile) (start shortFile)
      [.body, .body, .read 1, .release 1, .body, .read 0, .finish 1, .read 2, .release 2, .body,
        .finish 2, .release 0, .finish 0, .body, .body, .body]) = ended shortFile ∧
      (ended shortFile).body = .returned (.error (.read .unexpectedEof)) := by
  refine ⟨(run_benchmark_settles (by decide) (by decide) (fun _ => by decide) _
    (isPath_follow (next shortFile) _ _)).2.2 ?_, rfl⟩
  intro event
  cases event with
  | body => rfl
  | read i | release i | finish i => match i with
    | 0 => rfl
    | 1 => rfl
    | 2 => rfl
    | i + 3 => rfl

/-- On a prepared file no read fails. -/
theorem bytesRead_prepared {config : Config} (hsize : config.blockSize ∣ fileSize)
    {file : Option (List UInt8)} (hfile : config.file = some (prepareFile file))
    (hfits : config.overflow = .aborts → config.operations * config.pattern.stride ≤ 2 ^ 64)
    {operations : Nat} (hle : operations ≤ config.operations) :
    config.bytesRead operations = .ok (operations * config.blockSize) := by
  induction operations with
  | zero => rw [Nat.zero_mul]; rfl
  | succ operations ih =>
      have hread : config.readBlock operations = some (.ok config.blockSize) := by
        rw [Config.readBlock, hfile]
        refine readBlock_eq_ok hsize (fun haborts => ?_) (length_prepareFile file)
        have hstride : 0 < config.pattern.stride := by cases config.pattern <;> decide
        exact lt_of_lt_of_le (Nat.mul_lt_mul_of_pos_right hle hstride) (hfits haborts)
      rw [Config.bytesRead_succ, ih (Nat.le_of_succ_le hle), hread, Nat.succ_mul]
      rfl

/-- When the file was prepared, the block size divides its size, and the bytes of all operations
and, with overflow checks on, the products of the offsets fit `u64`: every schedule returns
the bytes of as many blocks as there are operations, and no schedule returns anything else. -/
theorem run_benchmark_prepared {config : Config} (hdepth : 1 ≤ config.queueDepth)
    (hmax : config.queueDepth ≤ maxPermits)
    (hbytes : config.operations * config.blockSize < 2 ^ 64)
    (hsize : config.blockSize ∣ fileSize) {file : Option (List UInt8)}
    (hfile : config.file = some (prepareFile file))
    (hfits : config.overflow = .aborts → config.operations * config.pattern.stride ≤ 2 ^ 64)
    (path : List (RunEvent × Run)) (hpath : IsPath (Step config) (start config) path) :
    EveryState (fun run => ∀ result, run.body = .returned result →
        result = .ok (config.operations * config.blockSize)) (start config) path ∧
    ((∀ event, (lastState (start config) path).next config event = none) →
      (lastState (start config) path).body =
        .returned (.ok (config.operations * config.blockSize))) := by
  have hinvariant : EveryState (Orderly config) (start config) path :=
    hpath.invariant (start_orderly hmax) fun _ _ _ hinv hstep => hinv.step (fun _ => hbytes) hstep
  have hresult := bytesRead_prepared hsize hfile hfits (Nat.le_refl config.operations)
  refine ⟨hinvariant.imp ?_, fun hfinal => ?_⟩
  · intro run horderly result hreturned
    have hbody := horderly.body
    rw [hreturned] at hbody
    exact hbody.2.trans hresult
  · rw [hinvariant.last.eq_ended hdepth hfinal, ended, hresult]

/-- Two operations, one at a time, on a file that was missing. -/
def preparedFile : Config := ⟨.aborts, some (prepareFile none), .random, 4096, 1, 2⟩

/-- Two reads in a file that was missing return both blocks. -/
theorem run_benchmark_prepared_missing :
    EveryState (fun run => ∀ result, run.body = .returned result → result = .ok 8192)
      (start preparedFile) (follow (next preparedFile) (start preparedFile)
        [.body, .read 0, .release 0, .body, .finish 0, .read 1, .body, .body, .release 1,
          .finish 1, .body, .body]) :=
  (run_benchmark_prepared (by decide) (by decide) (by decide) (by norm_num [preparedFile]) rfl
    (fun _ => by decide) _ (isPath_follow (next preparedFile) _ _)).1

end Run

end NvmeHarness
end TaskPool
