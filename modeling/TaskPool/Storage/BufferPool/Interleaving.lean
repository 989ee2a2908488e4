import TaskPool.Library.TransitionSystem
import TaskPool.Storage.BufferPool.Consistency

/-!
# Concurrent calls on a buffer pool

A system is a pool with all calls that clients have made on it.  In a step some
client starts a call, or some call runs its next section; sections of different calls
follow one another in any order.  A condition variable marks the calls that wait for
it, but a waiting call may also wake up unasked, as condition variables allow.

Main results:

- Definition `System.step`: the steps of a system.
- Theorem `System.Ordered.step`: without `new_page` and disk failures the pool stays
  consistent.
- Theorem `one_resident_copy`: every page is resident at most once, and the commit of
  an eviction finds the page table as it needs it.
-/

namespace TaskPool
namespace Storage

open BufferPoolManager Library

variable {n : Nat}

/-- A call and its next section.  `releases` names the fetch whose pin an
`unpin_page` is meant to give back; the code does not see it. -/
structure Activity (n : Nat) where
  client : Nat
  call : Call
  releases : Option CallId
  pc : Pc n

/-- A pool and all calls on it; calls are numbered as they start. -/
structure System (n : Nat) where
  pool : BufferPoolManager n
  calls : CallId → Option (Activity n)
  nextCall : Nat

/-- What happens next. -/
inductive Event where
  | start (client : Nat) (call : Call) (releases : Option CallId)
  | proceed (callId : CallId) (io : Io)

/-- The call that runs a section. -/
def Event.caller : Event → Option CallId
  | .start _ _ _ => none
  | .proceed callId _ => some callId

/-- A signal reaches a call that waits for it. -/
def Pc.receive (signal : Signal) : Pc n → Pc n
  | .fetchWaitState pageId missRecorded notified =>
    .fetchWaitState pageId missRecorded (notified || signal = .state)
  | .fetchWaitLoad pageId waiter notified =>
    .fetchWaitLoad pageId waiter (notified || signal = .load waiter)
  | pc => pc

namespace System

/-- A system without calls. -/
def new (n : Nat) (file : List UInt8) : System n where
  pool := BufferPoolManager.new n file
  calls := fun _ => none
  nextCall := 0

/-- A system without calls over a pool. -/
def withPool (pool : BufferPoolManager n) : System n where
  pool := pool
  calls := fun _ => none
  nextCall := 0

/-- The next sections of all calls. -/
def pcs (s : System n) : CallId → Option (Pc n) := fun callId => (s.calls callId).map Activity.pc

/-- A client starts a call. -/
def launch (s : System n) (client : Nat) (call : Call) (releases : Option CallId) : System n where
  pool := s.pool.record call
  calls := Function.update s.calls s.nextCall (some ⟨client, call, releases, call.entry⟩)
  nextCall := s.nextCall + 1

/-- A call has run a section. -/
def resume (s : System n) (callId : CallId) (activity : Activity n) (next : Next n) : System n where
  pool := next.pool
  calls := fun other =>
    (Function.update s.calls callId (some { activity with pc := next.pc }) other).map
      fun activity => { activity with pc := activity.pc.receive next.signal }
  nextCall := s.nextCall

/-- The system after an event; `none` when the event is not possible. -/
def step (s : System n) : Event → Option (System n)
  | .start client call releases => some (s.launch client call releases)
  | .proceed callId io => do
    let activity ← s.calls callId
    let next ← s.pool.advance callId activity.pc io
    some (s.resume callId activity next)

/-- The step relation. -/
def Step (s : System n) (e : Event) (s' : System n) : Prop := s.step e = some s'

/-- A step starts a call or runs a section of one. -/
theorem step_cases {s s' : System n} {e : Event} (h : s.Step e s') :
    (∃ client call releases, e = .start client call releases ∧ s' = s.launch client call releases) ∨
    ∃ callId io activity next, e = .proceed callId io ∧ s.calls callId = some activity ∧
      s.pool.advance callId activity.pc io = some next ∧ s' = s.resume callId activity next := by
  cases e with
  | start client call releases =>
      exact .inl ⟨client, call, releases, rfl, (Option.some_inj.mp h).symm⟩
  | proceed callId io =>
      rcases Option.bind_eq_some_iff.mp h with ⟨activity, hactivity, h⟩
      rcases Option.bind_eq_some_iff.mp h with ⟨next, hnext, h⟩
      exact .inr ⟨callId, io, activity, next, rfl, hactivity, hnext, (Option.some_inj.mp h).symm⟩

/-- A call is in the section that its activity says. -/
theorem pcs_eq_some {s : System n} {callId : CallId} {activity : Activity n}
    (h : s.calls callId = some activity) : s.pcs callId = some activity.pc := by
  rw [pcs, h, Option.map_some]

/-- A start adds one call, in its first section. -/
theorem calls_launch (s : System n) (client : Nat) (call : Call) (releases : Option CallId) :
    (s.launch client call releases).calls =
      Function.update s.calls s.nextCall (some ⟨client, call, releases, call.entry⟩) := rfl

/-- The calls after a start: the new one and all others. -/
theorem calls_launch_cases {s : System n} {client : Nat} {call : Call} {releases : Option CallId}
    {caller : CallId} {other : Activity n}
    (h : (s.launch client call releases).calls caller = some other) :
    caller = s.nextCall ∧ other = ⟨client, call, releases, call.entry⟩ ∨
    caller ≠ s.nextCall ∧ s.calls caller = some other := by
  rw [calls_launch] at h
  by_cases hcaller : caller = s.nextCall
  · rw [hcaller, Function.update_self, Option.some_inj] at h
    exact .inl ⟨hcaller, h.symm⟩
  · rw [Function.update_of_ne hcaller] at h
    exact .inr ⟨hcaller, h⟩

/-- The call that takes a step goes on to its next section. -/
theorem calls_resume_self (s : System n) (callId : CallId) (activity : Activity n)
    (next : Next n) :
    (s.resume callId activity next).calls callId =
      some { activity with pc := next.pc.receive next.signal } := by
  unfold resume
  simp only [Function.update_self, Option.map_some]

/-- The other calls receive what the step signals. -/
theorem calls_resume_of_ne (s : System n) {callId other : CallId} (h : other ≠ callId)
    (activity : Activity n) (next : Next n) :
    (s.resume callId activity next).calls other =
      (s.calls other).map fun activity =>
        { activity with pc := activity.pc.receive next.signal } := by
  unfold resume
  simp only [Function.update_of_ne h]

/-- The calls after a section: the one that has run it and all others. -/
theorem calls_resume_cases {s : System n} {callId caller : CallId} {activity other : Activity n}
    {next : Next n}
    (h : (s.resume callId activity next).calls caller = some other) :
    caller = callId ∧ other = { activity with pc := next.pc.receive next.signal } ∨
    caller ≠ callId ∧ ∃ before, s.calls caller = some before ∧
      other = { before with pc := before.pc.receive next.signal } := by
  by_cases hcaller : caller = callId
  · rw [hcaller, calls_resume_self, Option.some_inj] at h
    exact .inl ⟨hcaller, h.symm⟩
  · rw [calls_resume_of_ne s hcaller] at h
    rcases Option.map_eq_some_iff.mp h with ⟨before, hbefore, rfl⟩
    exact .inr ⟨hcaller, before, hbefore, rfl⟩

@[simp] theorem pcs_launch (s : System n) (client : Nat) (call : Call) (releases : Option CallId) :
    (s.launch client call releases).pcs = Function.update s.pcs s.nextCall (some call.entry) := by
  ext1 other
  unfold pcs
  rw [calls_launch]
  by_cases hother : other = s.nextCall
  · rw [hother, Function.update_self, Function.update_self, Option.map_some]
  · rw [Function.update_of_ne hother, Function.update_of_ne hother]

/-- The sections after a start: of the new call and of all others. -/
theorem pcs_launch_cases {s : System n} {client : Nat} {call : Call} {releases : Option CallId}
    {caller : CallId} {pc : Pc n} (h : (s.launch client call releases).pcs caller = some pc) :
    caller = s.nextCall ∧ pc = call.entry ∨ caller ≠ s.nextCall ∧ s.pcs caller = some pc := by
  rcases Option.map_eq_some_iff.mp h with ⟨other, hother, rfl⟩
  rcases calls_launch_cases hother with ⟨hcaller, rfl⟩ | ⟨hcaller, hother⟩
  · exact .inl ⟨hcaller, rfl⟩
  · exact .inr ⟨hcaller, pcs_eq_some hother⟩

@[simp] theorem pcs_resume (s : System n) (callId : CallId) (activity : Activity n) (next : Next n)
    (other : CallId) :
    (s.resume callId activity next).pcs other =
      (Function.update s.pcs callId (some next.pc) other).map (Pc.receive next.signal) := by
  by_cases hother : other = callId
  · rw [pcs, hother, calls_resume_self, Function.update_self]
    rfl
  · rw [pcs, calls_resume_of_ne s hother, Function.update_of_ne hother, pcs, Option.map_map,
      Option.map_map]
    rfl

/-- The next section of the call that takes a step. -/
theorem pcs_resume_self (s : System n) (callId : CallId) (activity : Activity n) (next : Next n) :
    (s.resume callId activity next).pcs callId = some (next.pc.receive next.signal) := by
  rw [pcs_resume, Function.update_self, Option.map_some]

/-- A call that runs no section receives the signal at most. -/
theorem pcs_resume_of_some {s : System n} {callId caller : CallId} {pc : Pc n}
    (hpc : s.pcs caller = some pc) (hne : caller ≠ callId) (activity : Activity n) (next : Next n) :
    (s.resume callId activity next).pcs caller = some (pc.receive next.signal) := by
  rw [pcs_resume, Function.update_of_ne hne, hpc, Option.map_some]

/-- The sections after a section: of the call that has run it and of all others. -/
theorem pcs_resume_cases {s : System n} {callId caller : CallId} {activity : Activity n}
    {next : Next n} {pc : Pc n} (h : (s.resume callId activity next).pcs caller = some pc) :
    caller = callId ∧ pc = next.pc.receive next.signal ∨
    caller ≠ callId ∧ ∃ before, s.pcs caller = some before ∧ pc = before.receive next.signal := by
  rw [pcs_resume] at h
  rcases Option.map_eq_some_iff.mp h with ⟨before, hbefore, rfl⟩
  by_cases hcaller : caller = callId
  · rw [hcaller, Function.update_self, Option.some_inj] at hbefore
    exact .inl ⟨hcaller, by rw [hbefore]⟩
  · rw [Function.update_of_ne hcaller] at hbefore
    exact .inr ⟨hcaller, before, hbefore, rfl⟩

end System

/-- A signal ends no call, and a call that has ended receives none. -/
theorem Pc.receive_eq_returned {signal : Signal} {pc : Pc n} {result : CallResult n} :
    pc.receive signal = .returned result ↔ pc = .returned result := by
  cases pc <;> simp [Pc.receive]

/-- The call does not wait, or it was notified. -/
def Pc.notified : Pc n → Bool
  | .fetchWaitState _ _ notified => notified
  | .fetchWaitLoad _ _ notified => notified
  | _ => true

/-- The call has come to its end. -/
def Pc.isReturned : Pc n → Bool
  | .returned _ => true
  | _ => false

/-! ## Consistency along a run -/

/-- Signals give nobody a frame. -/
theorem Pc.owned_receive (signal : Signal) (callId : CallId) (pc : Pc n) :
    (pc.receive signal).owned callId = pc.owned callId := by
  cases pc <;> rfl

/-- A signal changes no frame. -/
theorem Consistent.receive {pool : BufferPoolManager n} {pcs pcs' : CallId → Option (Pc n)}
    {slot : Fin n → Slot} (h : Consistent pool pcs slot) (signal : Signal)
    (hpcs' : ∀ callId, pcs' callId = (pcs callId).map (Pc.receive signal)) :
    Consistent pool pcs' slot := by
  apply h.relabel
  · intro caller pc hpc
    rw [hpcs'] at hpc
    rcases Option.map_eq_some_iff.mp hpc with ⟨pc₁, hpc₁, rfl⟩
    refine ⟨pc₁, hpc₁, Pc.owned_receive signal caller pc₁, ?_⟩
    intro page frameId error hrollback
    cases pc₁ <;> first
      | rfl
      | cases hrollback
  · intro caller pc₁ hpc₁ _
    exact ⟨pc₁.receive signal, by rw [hpcs', hpc₁, Option.map_some],
      Pc.owned_receive signal caller pc₁⟩

/-- The sections that a run without `new_page` and without disk failures reaches. -/
def Pc.Plain : Pc n → Prop
  | .flushFinish _ _ (.error _) _ => False
  | .deleteRollback _ _ _ => False
  | .newStart => False
  | .newWrite _ _ _ _ => False
  | .newRollback _ _ _ _ => False
  | .newCommit _ _ _ => False
  | _ => True

/-- The event neither starts a `new_page` nor makes the disk fail. -/
def Event.Plain : Event → Prop
  | .start _ call _ => call ≠ .newPage
  | .proceed _ io => io.Succeeds

/-- Signals leave a call in its sections. -/
theorem Pc.BelongsTo.receive {call : Call} {pc : Pc n} (h : pc.BelongsTo call)
    (signal : Signal) : (pc.receive signal).BelongsTo call := by
  cases pc <;> exact h

/-- Signals lead to no section of `new_page`. -/
theorem Pc.Plain.receive {pc : Pc n} (h : pc.Plain) (signal : Signal) :
    (pc.receive signal).Plain := by
  cases pc <;> trivial

/-- A call other than `new_page` starts in a section of its own. -/
theorem Call.plain_entry {call : Call} (h : call ≠ .newPage) : (call.entry : Pc n).Plain := by
  cases call <;> trivial

/-- A section that succeeds leads from calls other than `new_page` to no section of it. -/
theorem Effect.plain {callId : CallId} {pool : BufferPoolManager n} {slot slot' : Fin n → Slot}
    {pc : Pc n} {io : Io} {next : Next n} (heffect : Effect callId pool slot pc io next slot')
    (hpc : pc.Plain) (hio : io.Succeeds) : next.pc.Plain := by
  cases heffect with
  | fetchVictim => dsimp only; split_ifs <;> trivial
  | checkClean => rename_i caller _; cases caller <;> trivial
  | flushWrite => rename_i outcome; cases outcome <;> trivial
  | flushDone => rename_i caller; cases caller <;> trivial
  | _ => trivial

/-- Calls other than `new_page` allocate nothing. -/
theorem Pc.Plain.allocatesFresh {pc : Pc n} (h : pc.Plain) (pool : BufferPoolManager n)
    (slot : Fin n → Slot) : AllocatesFresh pool slot pc := by
  cases pc <;> trivial

namespace System

/-- Every call has a number below the next one. -/
def Numbered (s : System n) : Prop := ∀ callId pc, s.pcs callId = some pc → callId < s.nextCall

/-- At the start no number is taken. -/
theorem new_numbered (n : Nat) (file : List UInt8) : (System.new n file).Numbered := by
  rintro callId pc ⟨⟩

/-- The number of the next call is not taken. -/
theorem Numbered.pcs_nextCall {s : System n} (h : s.Numbered) : s.pcs s.nextCall = none := by
  cases hpc : s.pcs s.nextCall with
  | none => rfl
  | some pc => exact absurd (h _ pc hpc) (Nat.lt_irrefl _)

/-- A call goes on when another one starts. -/
theorem Numbered.calls_launch {s : System n} (h : s.Numbered) {callId : CallId}
    {activity : Activity n} (hactivity : s.calls callId = some activity) (client : Nat)
    (call : Call) (releases : Option CallId) :
    (s.launch client call releases).calls callId = some activity := by
  have hlt := h callId activity.pc (pcs_eq_some hactivity)
  rw [System.calls_launch, Function.update_of_ne hlt.ne, hactivity]

/-- A start takes the next number. -/
theorem Numbered.launch {s : System n} (h : s.Numbered) (client : Nat) (call : Call)
    (releases : Option CallId) : (s.launch client call releases).Numbered := by
  intro caller pc hpc
  rcases pcs_launch_cases hpc with ⟨rfl, -⟩ | ⟨-, hpc⟩
  · exact Nat.lt_succ_self s.nextCall
  · exact Nat.lt_succ_of_lt (h caller pc hpc)

/-- A section takes no number. -/
theorem Numbered.resume {s : System n} (h : s.Numbered) {callId : CallId} {activity : Activity n}
    (hactivity : s.calls callId = some activity) (next : Next n) :
    (s.resume callId activity next).Numbered := by
  intro caller pc hpc
  rcases pcs_resume_cases hpc with ⟨rfl, -⟩ | ⟨-, before, hbefore, -⟩
  · exact h caller _ (pcs_eq_some hactivity)
  · exact h caller before hbefore

/-- Every step keeps the numbers in order. -/
theorem Numbered.step {s s' : System n} {e : Event} (h : s.Numbered) (hstep : s.Step e s') :
    s'.Numbered := by
  rcases step_cases hstep with ⟨client, call, releases, rfl, rfl⟩ |
    ⟨callId, io, activity, next, rfl, hactivity, -, rfl⟩
  · exact h.launch client call releases
  · exact h.resume hactivity next

/-- Every call has returned, and the pool is at rest. -/
structure Idle (s : System n) : Prop where
  sound : s.pool.Sound
  returned : ∀ callId activity, s.calls callId = some activity →
    callId < s.nextCall ∧ ∃ result, activity.pc = .returned result

/-- The invariant of runs without `new_page` and without disk failures. -/
structure Ordered (s : System n) : Prop where
  lt_nextCall : ∀ callId activity, s.calls callId = some activity → callId < s.nextCall
  plain : ∀ callId pc, s.pcs callId = some pc → pc.Plain
  consistent : ∃ slot, Consistent s.pool s.pcs slot

/-- A system without calls is idle when its pool is at rest. -/
theorem withPool_idle {pool : BufferPoolManager n} (h : pool.Sound) : (withPool pool).Idle where
  sound := h
  returned := by
    intro callId activity hactivity
    cases hactivity

/-- A new pool is at rest. -/
theorem new_idle (n : Nat) (file : List UInt8) : (System.new n file).Idle :=
  withPool_idle (new_sound n file)

/-- The calls of an idle system have returned. -/
theorem Idle.returned_pcs {s : System n} (h : s.Idle) {callId : CallId} {pc : Pc n}
    (hpc : s.pcs callId = some pc) : ∃ result, pc = .returned result := by
  rcases Option.map_eq_some_iff.mp hpc with ⟨activity, hactivity, rfl⟩
  exact (h.returned callId activity hactivity).2

/-- An idle system meets the invariant. -/
theorem Idle.ordered {s : System n} (h : s.Idle) : s.Ordered where
  lt_nextCall := fun callId activity hactivity => (h.returned callId activity hactivity).1
  plain := by
    intro callId pc hpc
    rcases h.returned_pcs hpc with ⟨result, rfl⟩
    trivial
  consistent := ⟨_, h.sound.consistent fun _ _ => h.returned_pcs⟩

/-- The invariant keeps the numbers in order. -/
theorem Ordered.numbered {s : System n} (h : s.Ordered) : s.Numbered := by
  intro callId pc hpc
  rcases Option.map_eq_some_iff.mp hpc with ⟨activity, hactivity, -⟩
  exact h.lt_nextCall callId activity hactivity

/-- Without disk failures no deletion is rolled back. -/
theorem Ordered.noOtherRollback {s : System n} (h : s.Ordered) (callId : CallId) :
    NoOtherRollback s.pcs callId :=
  fun other _ _ _ _ hpc => h.plain other _ hpc

/-- A call that starts leaves the frames to the calls that have them. -/
theorem Numbered.consistent_launch {s : System n} (h : s.Numbered) {slot : Fin n → Slot}
    (hconsistent : Consistent s.pool s.pcs slot) (client : Nat) (call : Call)
    (releases : Option CallId) :
    Consistent (s.launch client call releases).pool (s.launch client call releases).pcs slot := by
  rcases record_eq s.pool call with ⟨metrics, hmetrics⟩
  rw [pcs_launch, System.launch, hmetrics]
  exact hconsistent.enter h.pcs_nextCall call metrics

/-- The start of a call other than `new_page` keeps the invariant. -/
theorem Ordered.launch {s : System n} (h : s.Ordered) {client : Nat} {call : Call}
    {releases : Option CallId} (hcall : call ≠ .newPage) :
    (s.launch client call releases).Ordered where
  lt_nextCall := fun callId _ hactivity =>
    h.numbered.launch client call releases callId _ (pcs_eq_some hactivity)
  plain := by
    intro callId pc hpc
    rcases pcs_launch_cases hpc with ⟨-, rfl⟩ | ⟨-, hpc⟩
    · exact Call.plain_entry hcall
    · exact h.plain callId pc hpc
  consistent := by
    rcases h.consistent with ⟨slot, hslot⟩
    exact ⟨slot, h.numbered.consistent_launch hslot client call releases⟩

/-- A section has one of the effects that a consistent system allows. -/
theorem Ordered.effect {s : System n} (h : s.Ordered) {callId : CallId} {activity : Activity n}
    (hactivity : s.calls callId = some activity) {io : Io} {next : Next n}
    (hnext : s.pool.advance callId activity.pc io = some next) :
    ∃ slot slot', Consistent s.pool s.pcs slot ∧
      Effect callId s.pool slot activity.pc io next slot' := by
  rcases h.consistent with ⟨slot, hconsistent⟩
  rcases hconsistent.advance_effect (pcs_eq_some hactivity) hnext with ⟨slot', heffect⟩
  exact ⟨slot, slot', hconsistent, heffect⟩

/-- What a section of a consistent system does, and that it keeps the invariant. -/
theorem Ordered.resume {s : System n} (h : s.Ordered) {slot slot' : Fin n → Slot}
    (hconsistent : Consistent s.pool s.pcs slot) {callId : CallId} {activity : Activity n}
    (hactivity : s.calls callId = some activity) {io : Io} {next : Next n}
    (heffect : Effect callId s.pool slot activity.pc io next slot') :
    Consistent (s.resume callId activity next).pool (s.resume callId activity next).pcs slot' := by
  have hpc := pcs_eq_some hactivity
  have hplain := h.plain callId _ hpc
  have hnext := heffect.consistent hconsistent hpc (h.noOtherRollback callId)
    (hplain.allocatesFresh s.pool slot)
  exact hnext.receive next.signal (pcs_resume s callId activity next)

/-- All calls have returned when those with a number below the next one have. -/
theorem Ordered.returned {s : System n} (h : s.Ordered)
    (hall : ∀ callId, callId < s.nextCall → (s.pcs callId).all Pc.isReturned = true)
    {callId : CallId} {activity : Activity n} (hactivity : s.calls callId = some activity) :
    ∃ result, activity.pc = .returned result := by
  have hreturned := hall callId (h.lt_nextCall callId activity hactivity)
  rw [pcs_eq_some hactivity, Option.all_some] at hreturned
  cases hpc : activity.pc with
  | returned result => exact ⟨result, rfl⟩
  | _ =>
      rw [hpc] at hreturned
      cases hreturned

/-- Every plain step keeps the invariant. -/
theorem Ordered.step {s s' : System n} {e : Event} (h : s.Ordered) (hstep : s.Step e s')
    (hplain : e.Plain) : s'.Ordered := by
  rcases step_cases hstep with ⟨client, call, releases, rfl, rfl⟩ |
    ⟨callId, io, activity, next, rfl, hactivity, hnext, rfl⟩
  · exact h.launch hplain
  · rcases h.effect hactivity hnext with ⟨slot, slot', hconsistent, heffect⟩
    have hpc := pcs_eq_some hactivity
    refine
      { lt_nextCall := fun other _ hother =>
          h.numbered.resume hactivity next other _ (pcs_eq_some hother)
        plain := ?_
        consistent := ⟨slot', h.resume hconsistent hactivity heffect⟩ }
    intro other pc hother
    rcases pcs_resume_cases hother with ⟨-, rfl⟩ | ⟨-, before, hbefore, rfl⟩
    · exact (heffect.plain (h.plain callId _ hpc) hplain).receive next.signal
    · exact (h.plain other before hbefore).receive next.signal

/-- A call that waits wakes up only after it was notified. -/
def wakesNotified (s : System n) : Event → Bool
  | .proceed callId .wake => (s.pcs callId).any Pc.notified
  | _ => true

/-! ### The sections of a call -/

/-- Every call runs its own sections. -/
def Belongs (s : System n) : Prop :=
  ∀ callId activity, s.calls callId = some activity → activity.pc.BelongsTo activity.call

/-- In an idle system no call is in a section of another one. -/
theorem Idle.belongs {s : System n} (h : s.Idle) : s.Belongs := by
  intro callId activity hactivity
  rcases (h.returned callId activity hactivity).2 with ⟨result, hresult⟩
  rw [hresult]
  trivial

/-- A call starts in its own sections. -/
theorem Belongs.launch {s : System n} (h : s.Belongs) (client : Nat) (call : Call)
    (releases : Option CallId) : (s.launch client call releases).Belongs := by
  intro callId activity hactivity
  rcases calls_launch_cases hactivity with ⟨-, rfl⟩ | ⟨-, hactivity⟩
  · exact Call.belongsTo_entry call
  · exact h callId activity hactivity

/-- A section leads to one of the same call. -/
theorem Belongs.resume {s : System n} (h : s.Belongs) {slot slot' : Fin n → Slot}
    {callId : CallId} {activity : Activity n} (hactivity : s.calls callId = some activity) {io : Io}
    {next : Next n} (heffect : Effect callId s.pool slot activity.pc io next slot') :
    (s.resume callId activity next).Belongs := by
  intro caller other hother
  rcases calls_resume_cases hother with ⟨-, rfl⟩ | ⟨-, before, hbefore, rfl⟩
  · exact (heffect.belongsTo (h callId activity hactivity)).receive next.signal
  · exact (h caller before hbefore).receive next.signal

end System

/-! ## One resident copy of every page -/

namespace Consistent

variable {pool : BufferPoolManager n} {pcs : CallId → Option (Pc n)} {slot : Fin n → Slot}

/-- Two loads of a page are the same. -/
theorem incoming_unique (h : Consistent pool pcs slot) {frameId other : Fin n}
    {callId caller : CallId} {pageId : PageId}
    (hframe : (slot frameId).incoming = some (callId, pageId))
    (hother : (slot other).incoming = some (caller, pageId)) : other = frameId := by
  have howner : (slot frameId).owner = some callId := by
    cases hslot : slot frameId <;> rw [hslot] at hframe <;>
      simp_all [Slot.incoming, Slot.owner]
  rcases h.owner frameId callId howner with ⟨pc, hpc, howned⟩
  by_contra hne
  exact h.incoming_ne hpc howned hframe hne caller hother

/-- A page is held by at most one `Resident` frame. -/
theorem held_unique (h : Consistent pool pcs slot) {frameId other : Fin n} {pageId : PageId}
    (hstate : (pool.frames frameId).state = .resident)
    (hstate' : (pool.frames other).state = .resident)
    (hheld : (pool.frames frameId).heldPage = some pageId)
    (hheld' : (pool.frames other).heldPage = some pageId) : other = frameId := by
  -- a `Resident` frame is in the table or waits to be published
  have hcases : ∀ id, (pool.frames id).state = .resident →
      (pool.frames id).heldPage = some pageId →
      (slot id).located = some pageId ∨ ∃ caller, (slot id).incoming = some (caller, pageId) := by
    intro id hid hheldId
    rw [(h.frame id).state_eq] at hid
    rw [(h.frame id).held_eq] at hheldId
    cases hslot : slot id <;> rw [hslot] at hid hheldId <;>
      simp_all [Slot.state, Slot.held, Slot.located, Slot.incoming]
  rcases hcases frameId hstate hheld with hframe | ⟨caller, hframe⟩ <;>
    rcases hcases other hstate' hheld' with hother | ⟨caller', hother⟩
  · have htable := h.table_of_located hframe
    rw [h.table_of_located hother, Option.some_inj] at htable
    exact htable
  · have htable := h.table_of_located hframe
    rw [(h.layout.incoming other caller' pageId hother).2] at htable
    cases htable
  · have htable := h.table_of_located hother
    rw [(h.layout.incoming frameId caller pageId hframe).2] at htable
    cases htable
  · exact h.incoming_unique hframe hother

end Consistent

/-- Every page is resident at most once, and evictions can be committed. -/
structure System.OneCopy (s : System n) : Prop where
  injective : ∀ pageId pageId' frameId, s.pool.pageTable pageId = some frameId →
    s.pool.pageTable pageId' = some frameId → pageId = pageId'
  holds : ∀ pageId frameId, s.pool.pageTable pageId = some frameId →
    (s.pool.frames frameId).state ≠ .reserved →
    (s.pool.frames frameId).heldPage = some pageId
  unique : ∀ frameId other pageId, (s.pool.frames frameId).state = .resident →
    (s.pool.frames other).state = .resident →
    (s.pool.frames frameId).heldPage = some pageId →
    (s.pool.frames other).heldPage = some pageId → other = frameId
  commit : ∀ callId pageId victim oldPageId buffer,
    s.pcs callId = some (.evictCommit pageId victim oldPageId buffer) →
    ∃ table, s.pool.pageTable.replace oldPageId pageId victim = .ok table

/-- In a consistent pool every page has one frame, and no replacement of the commits fails. -/
theorem Consistent.oneCopy {s : System n} {slot : Fin n → Slot}
    (h : Consistent s.pool s.pcs slot) : s.OneCopy where
  injective := by
    intro pageId pageId' frameId htable htable'
    rw [h.layout.table_iff] at htable htable'
    rwa [htable, Option.some_inj] at htable'
  holds := by
    intro pageId frameId htable _
    exact h.heldPage_of_located ((h.layout.table_iff pageId frameId).mp htable)
  unique := fun _ _ _ => h.held_unique
  commit := by
    intro callId pageId victim oldPageId buffer hpc
    have hslot := h.owned callId _ victim _ hpc rfl
    have hold := h.table_of_located (by rw [hslot, Slot.located])
    have hnew := (h.layout.incoming victim callId pageId (by rw [hslot, Slot.incoming])).2
    exact ⟨_, PageTable.replace_eq_ok hold hnew⟩

/-- From an idle system, in every state of every run without `new_page` and without
disk failures. -/
theorem one_resident_copy {s : System n} (hidle : s.Idle) {path : List (Event × System n)}
    (hpath : IsPath System.Step s path) (hplain : EveryStep (fun _ e _ => e.Plain) s path) :
    EveryState System.OneCopy s path := by
  have hordered : EveryState System.Ordered s path :=
    hpath.everyState hplain hidle.ordered fun _ _ _ => System.Ordered.step
  apply hordered.imp
  intro s h
  rcases h.consistent with ⟨slot, hconsistent⟩
  exact hconsistent.oneCopy

/-- Two clients fetch the same page of a pool with one frame; the second one finds the
load of the first. -/
def twoFetches : List Event :=
  [.start 0 (.fetchPage 0) none, .start 1 (.fetchPage 0) none, .proceed 0 .none, .proceed 1 .none,
    .proceed 0 (.read (.ok fun _ => 4096)), .proceed 1 .none, .proceed 0 .none, .proceed 0 .none,
    .proceed 1 .wake, .proceed 1 .none, .proceed 1 .none, .proceed 0 .none]

/-- There is one copy of the page in every state of the two fetches. -/
theorem one_resident_copy_twoFetches :
    (follow System.step (System.new 1 []) twoFetches).length = 12 ∧
      EveryState System.OneCopy (System.new 1 []) (follow System.step (System.new 1 []) twoFetches) :=
  ⟨by decide +kernel, one_resident_copy (System.new_idle 1 [])
    (isPath_follow System.step (System.new 1 []) twoFetches)
    (everyStep_follow (by simp [twoFetches, Event.Plain, Io.Succeeds]) _)⟩

end Storage
end TaskPool
