import TaskPool.Storage.BufferPool.Consistency

/-!
# Calls one after the other

A request is a call together with what the outside world contributes to its sections.
A pool serves a request when the sections of the call, run with nothing in between,
come to their end.

Main results:

- Definition `BufferPoolManager.serve`: the pool and the result after a request.
- Theorem `solo_induction`: what every section of a lone call preserves holds when the
  call returns.
- Theorem `Sound.serve`: a pool at rest is at rest after a request, unless the request
  allocates a page that is resident already.
-/

namespace TaskPool
namespace Storage

open BufferPoolManager Library

variable {n : Nat}

/-- A call with its identity and the contributions of the outside world. -/
structure Request where
  call : Call
  callId : CallId
  ios : List Io

namespace BufferPoolManager

/-- Run a call to its end. -/
def serve (pool : BufferPoolManager n) (request : Request) :
    Option (BufferPoolManager n × CallResult n) :=
  match solo request.callId request.ios (pool.record request.call) request.call.entry with
  | some (pool, .returned result) => some (pool, result)
  | _ => none

/-- A call is served when its sections, run one after the other, end with a result. -/
theorem serve_eq_some {pool pool' : BufferPoolManager n} {request : Request}
    {result : CallResult n} :
    pool.serve request = some (pool', result) ↔
      solo request.callId request.ios (pool.record request.call) request.call.entry =
        some (pool', .returned result) := by
  unfold serve
  cases hsolo : solo request.callId request.ios (pool.record request.call)
      (request.call.entry : Pc n) with
  | none => simp
  | some reached =>
      rcases reached with ⟨pool₁, pc⟩
      cases pc <;> simp

/-- A run of sections is the first one and a run of the others. -/
theorem solo_cons_eq_some {pool : BufferPoolManager n} {callId : CallId} {io : Io} {ios : List Io}
    {pc : Pc n} {reached : BufferPoolManager n × Pc n} :
    solo callId (io :: ios) pool pc = some reached ↔
      ∃ next, pool.advance callId pc io = some next ∧
        solo callId ios next.pool next.pc = some reached :=
  Option.bind_eq_some_iff

/-- A call that has returned runs no more sections. -/
theorem solo_returned {pool pool' : BufferPoolManager n} {callId : CallId} {ios : List Io}
    {result result' : CallResult n}
    (h : solo callId ios pool (.returned result) = some (pool', .returned result')) :
    pool' = pool ∧ result' = result := by
  cases ios with
  | nil =>
      cases h
      exact ⟨rfl, rfl⟩
  | cons io ios =>
      rcases solo_cons_eq_some.mp h with ⟨next, hnext, -⟩
      cases io <;> cases hnext

/-- What every section of a lone call preserves holds when the call returns. -/
theorem solo_induction {callId : CallId} {motive : BufferPoolManager n → Pc n → Prop}
    (hstep : ∀ {pool pc io next}, motive pool pc → pool.advance callId pc io = some next →
      motive next.pool next.pc)
    {ios : List Io} {pool pool' : BufferPoolManager n}
    {pc pc' : Pc n} (hstart : motive pool pc)
    (hsolo : solo callId ios pool pc = some (pool', pc')) : motive pool' pc' := by
  induction ios generalizing pool pc with
  | nil =>
      cases hsolo
      exact hstart
  | cons io ios ih =>
      rcases solo_cons_eq_some.mp hsolo with ⟨next, hnext, hrest⟩
      exact ih (hstep hstart hnext) hrest

/-- A call that has not returned goes on with a section. -/
theorem solo_step {callId : CallId} {ios : List Io} {pool pool' : BufferPoolManager n} {pc : Pc n}
    {result : CallResult n} (hpc : ∀ result, pc ≠ .returned result)
    (hsolo : solo callId ios pool pc = some (pool', .returned result)) :
    ∃ io rest next, ios = io :: rest ∧ pool.advance callId pc io = some next ∧
      solo callId rest next.pool next.pc = some (pool', .returned result) := by
  cases ios with
  | nil =>
      cases hsolo
      exact absurd rfl (hpc result)
  | cons io rest =>
      rcases solo_cons_eq_some.mp hsolo with ⟨next, hnext, hrest⟩
      exact ⟨io, rest, next, rfl, hnext, hrest⟩

/-! ## Evictions on a disk that does not fail -/

/-- A page is written to the disk if its frame is dirty. -/
def writeBack (pool : BufferPoolManager n) (frameId : Fin n) (page : PageId) :
    BufferPoolManager n :=
  if (pool.frames frameId).isDirty then
    { pool with
      diskManager := (pool.diskManager.writePage page (pool.frames frameId).data .ok).2 }
  else pool

@[simp] theorem frames_writeBack (pool : BufferPoolManager n) (frameId : Fin n) (page : PageId) :
    (pool.writeBack frameId page).frames = pool.frames := by
  unfold writeBack
  split <;> rfl

@[simp] theorem pageTable_writeBack (pool : BufferPoolManager n) (frameId : Fin n) (page : PageId) :
    (pool.writeBack frameId page).pageTable = pool.pageTable := by
  unfold writeBack
  split <;> rfl

/-- A call that is about to commit a new page returns afterwards. -/
theorem solo_newCommit {callId : CallId} {ios : List Io} {pool pool' : BufferPoolManager n}
    {newPageId page : PageId} {victim : Fin n} {result : CallResult n}
    (hsolo : solo callId ios pool (.newCommit newPageId victim page) =
      some (pool', .returned result)) :
    pool.newCommit newPageId victim page = pool'.finish result := by
  rcases solo_step (by rintro _ ⟨⟩) hsolo with ⟨io, rest, next, rfl, hnext, hrest⟩
  cases io <;> simp only [advance, Option.some_inj, reduceCtorEq] at hnext
  subst hnext
  rw [newCommit_eq] at hrest ⊢
  cases hreplace : pool.pageTable.replace page newPageId victim with
  | error e =>
      simp only [hreplace, fail, finish] at hrest ⊢
      rcases solo_returned hrest with ⟨rfl, rfl⟩
      rfl
  | ok table =>
      simp only [hreplace, finish] at hrest ⊢
      rcases solo_returned hrest with ⟨rfl, rfl⟩
      rfl

/-- On a disk that does not fail, an eviction ends with the commit of the new page. -/
theorem solo_newStart_evict {callId : CallId} {ios : List Io} {pool pool' : BufferPoolManager n}
    {result : CallResult n} {page : PageId} {victim : Fin n} {clock : ClockReplacer n}
    {frames : Fin n → Frame} (hios : ∀ io ∈ ios, io.Succeeds) (hlt : pool.nextPageId < 65535)
    (hfree : pool.freeFrames = [])
    (hfind : pool.clockReplacer.findVictim pool.frames = .ok (some victim, clock, frames))
    (hreserved : (frames victim).isReserved = false) (hheld : (frames victim).heldPage = some page)
    (hsolo : solo callId ios pool .newStart = some (pool', .returned result)) :
    (((pool.swept clock frames).reserveFrame victim).writeBack victim page).newCommit
      pool.nextPageId victim page = pool'.finish result := by
  have hframe : ((pool.swept clock frames).reserveFrame victim).frames victim =
      { frames victim with state := .reserved } := Function.update_self ..
  rcases solo_step (by rintro _ ⟨⟩) hsolo with ⟨io, rest, next, rfl, hnext, hrest⟩
  cases io <;> simp only [advance, Option.some_inj, reduceCtorEq] at hnext
  rw [newPage_eq_evict hlt hfree hfind hreserved hheld] at hnext
  subst hnext
  rw [writeBack, hframe]
  by_cases hdirty : (frames victim).isDirty = true
  · rw [if_pos (by exact hdirty)]
    rw [if_pos hdirty] at hrest
    rcases solo_step (by rintro _ ⟨⟩) hrest with ⟨io, rest, next, rfl, hwrite, hrest⟩
    rcases io with _ | outcome | outcome | _ <;> cases hwrite
    cases outcome with
    | ok => exact solo_newCommit hrest
    | fail error left => exact absurd (hios _ (List.mem_cons_of_mem _ List.mem_cons_self)) id
  · rw [if_neg (by exact hdirty)]
    rw [if_neg hdirty] at hrest
    exact solo_newCommit hrest

end BufferPoolManager

/-- The sections of a call that runs alone. -/
def alone (callId : CallId) (pc : Pc n) : CallId → Option (Pc n) :=
  Function.update (fun _ => none) callId (some pc)

/-- A lone call is in its section. -/
theorem alone_self (callId : CallId) (pc : Pc n) : alone callId pc callId = some pc :=
  Function.update_self ..

/-- A lone call is the only one. -/
theorem alone_eq_some {callId caller : CallId} {pc pc' : Pc n}
    (h : alone callId pc caller = some pc') : caller = callId ∧ pc' = pc := by
  unfold alone at h
  by_cases hcaller : caller = callId
  · rw [hcaller, Function.update_self, Option.some_inj] at h
    exact ⟨hcaller, h.symm⟩
  · rw [Function.update_of_ne hcaller] at h
    cases h

/-- A lone call meets no rollback of another one. -/
theorem noOtherRollback_alone (callId : CallId) (pc : Pc n) :
    NoOtherRollback (alone callId pc) callId := by
  intro other hother pageId frameId error hpc
  exact hother (alone_eq_some hpc).1

/-! ## Allocating a page that is not resident -/

/-- The identifier that the next section of the call allocates or has read is not in
the table, except that the victim may hold it. -/
def BufferPoolManager.Unmapped (pool : BufferPoolManager n) : Pc n → Prop
  | .newStart => ∀ frameId, pool.nextPageId < 65535 →
      pool.pageTable pool.nextPageId = some frameId →
      pool.freeFrames = [] ∧ ∀ victim clock frames,
        pool.clockReplacer.findVictim pool.frames = .ok (some victim, clock, frames) →
        victim = frameId
  | .newWrite newPageId _ oldPageId _ => newPageId = oldPageId ∨ pool.pageTable newPageId = none
  | .newCommit newPageId _ oldPageId => newPageId = oldPageId ∨ pool.pageTable newPageId = none
  | _ => True

/-- A lone call: the pool is consistent with it, and it allocates an unmapped page. -/
structure Lone (pool : BufferPoolManager n) (callId : CallId) (pc : Pc n)
    (slot : Fin n → Slot) : Prop where
  consistent : Consistent pool (alone callId pc) slot
  unmapped : pool.Unmapped pc

namespace Lone

variable {pool : BufferPoolManager n} {callId : CallId} {pc : Pc n} {slot slot' : Fin n → Slot}
  {io : Io} {next : Next n}

/-- Only the lone call loads pages. -/
theorem incoming_of_owned (h : Lone pool callId pc slot)
    (hnone : ∀ frameId taken, pc.owned callId = some (frameId, taken) → taken.incoming = none)
    (frameId : Fin n) : (slot frameId).incoming = none := by
  cases hincoming : (slot frameId).incoming with
  | none => rfl
  | some load =>
      have howner : (slot frameId).owner = some load.1 := by
        cases hslot : slot frameId <;> rw [hslot] at hincoming <;> cases hincoming <;> rfl
      rcases h.consistent.owner frameId load.1 howner with ⟨pc', hpc', howned⟩
      rcases alone_eq_some hpc' with ⟨heq, rfl⟩
      rw [heq] at howned
      rw [hnone frameId (slot frameId) howned] at hincoming
      cases hincoming

/-- The page a lone call allocates is fresh. -/
theorem allocatesFresh (h : Lone pool callId pc slot) : AllocatesFresh pool slot pc := by
  have hunmapped := h.unmapped
  cases pc with
  | newStart =>
      intro hlt hfree
      refine ⟨?_, fun other caller => ?_⟩
      · cases htable : pool.pageTable pool.nextPageId with
        | none => rfl
        | some frameId => exact absurd (hunmapped frameId hlt htable).1 hfree
      · rw [h.incoming_of_owned nofun]
        exact nofun
  | newCommit newPageId victim oldPageId =>
      rcases hunmapped with heq | hnone
      · exact .inl heq
      · refine .inr ⟨hnone, fun other caller => ?_⟩
        rw [h.incoming_of_owned]
        · exact nofun
        · rintro frameId taken ⟨⟩
          rfl
  | _ => trivial

/-- An unmapped page stays unmapped until it is allocated. -/
theorem unmapped_next (h : Lone pool callId pc slot)
    (heffect : Effect callId pool slot pc io next slot') : next.pool.Unmapped next.pc := by
  have hunmapped := h.unmapped
  cases heffect with
  | fetchVictim =>
      dsimp only
      split_ifs <;> trivial
  | @checkClean _ _ caller _ => cases caller <;> trivial
  | @flushDone _ _ caller => cases caller <;> trivial
  | @flushUndo _ _ caller _ => cases caller <;> trivial
  | @newVictim clock frames victim oldPageId hnext hfree hfind hframes hslot hpins =>
      have hid : pool.nextPageId = oldPageId ∨ pool.pageTable pool.nextPageId = none := by
        cases htable : pool.pageTable pool.nextPageId with
        | none => exact .inr rfl
        | some frameId =>
            have hvictim := (hunmapped frameId hnext htable).2 _ _ _ hfind
            rw [h.consistent.layout.table_iff, ← hvictim, hslot] at htable
            exact .inl (Option.some_inj.mp htable).symm
      dsimp only
      split_ifs <;> exact hid
  | newWriteOk => exact hunmapped
  | _ => trivial

/-- A section of a lone call keeps the pool consistent. -/
theorem step (h : Lone pool callId pc slot) (hnext : pool.advance callId pc io = some next) :
    ∃ slot', Effect callId pool slot pc io next slot' ∧ Lone next.pool callId next.pc slot' := by
  have hpc := alone_self callId pc
  rcases h.consistent.advance_effect hpc hnext with ⟨slot', heffect⟩
  have hconsistent := heffect.consistent h.consistent hpc (noOtherRollback_alone callId pc)
    h.allocatesFresh
  refine ⟨slot', heffect, ?_, h.unmapped_next heffect⟩
  rwa [Effect.Keeps, alone, Function.update_idem] at hconsistent

/-- When the call has returned, the pool is at rest. -/
theorem sound {result : CallResult n} (h : Lone pool callId (.returned result) slot) :
    pool.Sound := by
  apply sound_of_consistent h.consistent
  intro caller pc hpc
  rw [(alone_eq_some hpc).2]
  rfl

end Lone

/-- A pool at rest in which a call starts. -/
theorem BufferPoolManager.Sound.lone {pool : BufferPoolManager n} (h : pool.Sound) (callId : CallId)
    (call : Call) (hunmapped : pool.Unmapped (call.entry : Pc n)) :
    Lone (pool.record call) callId call.entry pool.restSlot := by
  rcases record_eq pool call with ⟨metrics, hmetrics⟩
  constructor
  · rw [hmetrics]
    exact h.consistent_rest.enter rfl call metrics
  · cases call <;> trivial

/-- A request leaves a pool at rest, if it does not allocate a page that is resident
in another frame than the victim. -/
theorem BufferPoolManager.Sound.serve {pool pool' : BufferPoolManager n} (h : pool.Sound)
    {request : Request} {result : CallResult n}
    (hunmapped : pool.Unmapped (request.call.entry : Pc n))
    (hserve : pool.serve request = some (pool', result)) : pool'.Sound := by
  have hlone : ∃ slot, Lone pool' request.callId (.returned result) slot := by
    apply solo_induction (motive := fun pool pc => ∃ slot, Lone pool request.callId pc slot) ?_
      ⟨pool.restSlot, h.lone request.callId request.call hunmapped⟩ (serve_eq_some.mp hserve)
    rintro pool pc io next ⟨slot, hslot⟩ hnext
    rcases hslot.step hnext with ⟨slot', -, hslot'⟩
    exact ⟨slot', hslot'⟩
  rcases hlone with ⟨slot, hslot⟩
  exact hslot.sound

end Storage
end TaskPool
