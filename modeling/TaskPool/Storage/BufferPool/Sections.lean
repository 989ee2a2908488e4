import TaskPool.Storage.BufferPool.Manager

/-!
# One section at a time

What a section of a call does to the entries of the loads, to the counter of misses and to
the condition variables, in every state of the pool and whatever the disk does.  The frames
are left out, and so no invariant is needed.

Main results:

- Inductive `Section`: what a section of a call can do.
- Theorem `Section.advance`: every section of every call does one of these.
-/

namespace TaskPool
namespace Storage

open BufferPoolManager Library

variable {n : Nat}

/-- Where a call may be after `flush_reserved_frame`. -/
def Pc.afterFlush : Pc n → Bool
  | .flushRelease _ _ | .deleteFinish _ _ | .deleteRollback _ _ _ | .returned _ => true
  | _ => false

/-- Sections that follow each other straight on. -/
inductive Pc.Follows : Pc n → Pc n → Prop
  | fetchStart {pageId missRecorded result} :
      Follows (.fetchStart pageId missRecorded) (.returned result)
  | fetchRead {pageId frameId buffer} :
      Follows (.fetchRead pageId frameId) (.fetchLoad pageId frameId buffer)
  | fetchReadFails {pageId frameId error} :
      Follows (.fetchRead pageId frameId) (.fetchReadFailed pageId frameId error)
  | fetchLoad {pageId frameId buffer} :
      Follows (.fetchLoad pageId frameId buffer) (.fetchPublish pageId frameId)
  | evictWrite {pageId victim oldPageId oldData} :
      Follows (.evictWrite pageId victim oldPageId oldData) (.evictRead pageId victim oldPageId)
  | evictWriteFails {pageId victim oldPageId oldData error} :
      Follows (.evictWrite pageId victim oldPageId oldData)
        (.evictFailed pageId victim oldPageId error)
  | evictRead {pageId victim oldPageId buffer} :
      Follows (.evictRead pageId victim oldPageId) (.evictCommit pageId victim oldPageId buffer)
  | evictReadFails {pageId victim oldPageId error} :
      Follows (.evictRead pageId victim oldPageId) (.evictFailed pageId victim oldPageId error)
  | evictCommit {pageId victim oldPageId buffer result} :
      Follows (.evictCommit pageId victim oldPageId buffer) (.returned result)
  | unpin {pageId result} : Follows (.unpinStart pageId) (.returned result)
  | markDirty {pageId result} : Follows (.markDirtyStart pageId) (.returned result)
  | flushStart {pageId frameId} :
      Follows (.flushStart pageId) (.flushCheck pageId frameId .flushPage)
  | flushStartReturns {pageId result} : Follows (.flushStart pageId) (.returned result)
  | deleteStart {pageId frameId} :
      Follows (.deleteStart pageId) (.flushCheck pageId frameId .deletePage)
  | deleteStartReturns {pageId result} : Follows (.deleteStart pageId) (.returned result)
  | flushCheck {pageId frameId caller dirtyPageId data} :
      Follows (.flushCheck pageId frameId caller)
        (.flushWrite pageId frameId dirtyPageId data caller)
  | flushWrite {pageId frameId dirtyPageId data caller written} :
      Follows (.flushWrite pageId frameId dirtyPageId data caller)
        (.flushFinish pageId frameId written caller)
  | newStart {newPageId victim oldPageId oldData} :
      Follows .newStart (.newWrite newPageId victim oldPageId oldData)
  | newStartClean {newPageId victim oldPageId} :
      Follows .newStart (.newCommit newPageId victim oldPageId)
  | newStartReturns {result} : Follows .newStart (.returned result)
  | newWrite {newPageId victim oldPageId oldData} :
      Follows (.newWrite newPageId victim oldPageId oldData) (.newCommit newPageId victim oldPageId)
  | newWriteFails {newPageId victim oldPageId oldData error} :
      Follows (.newWrite newPageId victim oldPageId oldData)
        (.newRollback newPageId victim oldPageId error)
  | newCommit {newPageId victim oldPageId result} :
      Follows (.newCommit newPageId victim oldPageId) (.returned result)
  | newRollback {newPageId victim oldPageId error result} :
      Follows (.newRollback newPageId victim oldPageId error) (.returned result)
  | flushRelease {pageId frameId result} : Follows (.flushRelease pageId frameId) (.returned result)
  | deleteRollback {pageId frameId error result} :
      Follows (.deleteRollback pageId frameId error) (.returned result)
  | deleteFinish {pageId frameId result} : Follows (.deleteFinish pageId frameId) (.returned result)
  | flushCheckReturns {pageId frameId caller pc'} (hpc' : pc'.afterFlush = true) :
      Follows (.flushCheck pageId frameId caller) pc'
  | flushFinish {pageId frameId written caller pc'} (hpc' : pc'.afterFlush = true) :
      Follows (.flushFinish pageId frameId written caller) pc'

/-- Where a fetch may be right after it has made an entry. -/
def Pc.Begun (pageId : PageId) : Pc n → Prop
  | .fetchRead page _ | .evictWrite page _ _ _ | .evictRead page _ _ => page = pageId
  | .fetchWaitState page missRecorded notified =>
    page = pageId ∧ missRecorded = true ∧ notified = false
  | .returned _ => True
  | _ => False

/-- The page whose load a section may end. -/
def Pc.ends : Pc n → Option PageId
  | .fetchLoad pageId _ _ | .fetchPublish pageId _ | .fetchReadFailed pageId _ _ => some pageId
  | .evictCommit pageId _ _ _ | .evictFailed pageId _ _ _ => some pageId
  | _ => none

/-- Where a fetch may be right after its load has ended. -/
def Pc.over : Pc n → Bool
  | .fetchNotify _ _ | .returned _ => true
  | _ => false

/-- A section that leaves entries and misses as they are, and notifies nobody. -/
structure Quiet (pool : BufferPoolManager n) (next : Next n) : Prop where
  loads_eq : next.pool.inFlightLoads = pool.inFlightLoads
  misses_eq : next.pool.metrics.cacheMisses = pool.metrics.cacheMisses
  signal_eq : next.signal = .none

/-- The counter of misses after a fetch has not found its page. -/
def Missed (pool : BufferPoolManager n) (missRecorded : Bool) (next : Next n) : Prop :=
  next.pool.metrics.cacheMisses = (pool.recordMissOnce missRecorded).metrics.cacheMisses

/-- What a section of a call can do. -/
inductive Section (callId : CallId) (pool : BufferPoolManager n) : Pc n → Next n → Prop
  | straight {pc next} (hpc : pc.Follows next.pc) (hquiet : Quiet pool next) :
      Section callId pool pc next
  | waits {pageId missRecorded next} (hpc : next.pc = .fetchWaitState pageId missRecorded false)
      (hquiet : Quiet pool next) : Section callId pool (.fetchStart pageId missRecorded) next
  | joins {pageId missRecorded waiter next} (hload : pool.inFlightLoads pageId = some waiter)
      (hpc : next.pc = .fetchCheckLoad pageId waiter)
      (hloads : next.pool.inFlightLoads = pool.inFlightLoads)
      (hmissed : Missed pool missRecorded next) (hsignal : next.signal = .none) :
      Section callId pool (.fetchStart pageId missRecorded) next
  | begins {pageId missRecorded next} (hload : pool.inFlightLoads pageId = none)
      (hpc : next.pc.Begun pageId)
      (hloads : next.pool.inFlightLoads =
        Function.update pool.inFlightLoads pageId (some callId))
      (hmissed : Missed pool missRecorded next) (hsignal : next.signal = .none) :
      Section callId pool (.fetchStart pageId missRecorded) next
  -- the free frame cannot be reserved, and the entry is removed at once
  | fails {pageId missRecorded result next} (hload : pool.inFlightLoads pageId = none)
      (hpc : next.pc = .returned result)
      (hloads : next.pool.inFlightLoads = Function.update pool.inFlightLoads pageId none)
      (hmissed : Missed pool missRecorded next) :
      Section callId pool (.fetchStart pageId missRecorded) next
  | wakes {pageId missRecorded notified} :
      Section callId pool (.fetchWaitState pageId missRecorded notified)
        ⟨pool, .fetchStart pageId missRecorded, .none⟩
  | wakesToCheck {pageId waiter notified} :
      Section callId pool (.fetchWaitLoad pageId waiter notified)
        ⟨pool, .fetchCheckLoad pageId waiter, .none⟩
  | sleeps {pageId waiter} (hload : (pool.inFlightLoads pageId).isSome = true) :
      Section callId pool (.fetchCheckLoad pageId waiter)
        ⟨pool, .fetchWaitLoad pageId waiter false, .none⟩
  | retries {pageId waiter} (hload : pool.inFlightLoads pageId = none) :
      Section callId pool (.fetchCheckLoad pageId waiter) ⟨pool, .fetchStart pageId true, .none⟩
  | ends {pc pageId next} (hends : pc.ends = some pageId) (hpc : next.pc.over = true)
      (hloads : next.pool.inFlightLoads = Function.update pool.inFlightLoads pageId none)
      (hmisses : next.pool.metrics.cacheMisses = pool.metrics.cacheMisses) :
      Section callId pool pc next
  | notifies {waiter result} :
      Section callId pool (.fetchNotify waiter result)
        ⟨pool, .returned (.ofFetch result), notifyLoad waiter⟩

namespace Section

variable {callId : CallId} {pool pool' : BufferPoolManager n} {pc : Pc n} {io : Io} {next : Next n}
  {pageId : PageId} {frameId : Fin n}

/-! ### Sections that make no entry -/

/-- Reserving a victim leaves the entries of loads alone. -/
theorem reserveVictim_quiet {whenDirty : PageId → Buffer pageSize → Pc n}
    {whenClean : PageId → Pc n} :
    Quiet pool (pool.reserveVictim frameId whenDirty whenClean) := by
  unfold BufferPoolManager.reserveVictim
  cases (pool.frames frameId).reserve with
  | error e => exact ⟨rfl, rfl, rfl⟩
  | ok frame =>
      dsimp only
      cases frame.getPageId with
      | error e => exact ⟨rfl, rfl, rfl⟩
      | ok oldPageId =>
          dsimp only
          split_ifs <;> exact ⟨rfl, rfl, rfl⟩

/-- Where a call is after it has tried to reserve a victim. -/
theorem reserveVictim_pc {P : Pc n → Prop} {whenDirty : PageId → Buffer pageSize → Pc n}
    {whenClean : PageId → Pc n} (hreturned : ∀ result, P (.returned result))
    (hdirty : ∀ page data, P (whenDirty page data)) (hclean : ∀ page, P (whenClean page)) :
    P (pool.reserveVictim frameId whenDirty whenClean).pc := by
  unfold BufferPoolManager.reserveVictim
  cases (pool.frames frameId).reserve with
  | error e => exact hreturned _
  | ok frame =>
      dsimp only
      cases frame.getPageId with
      | error e => exact hreturned _
      | ok oldPageId =>
          dsimp only
          split_ifs
          · exact hdirty _ _
          · exact hclean _

/-- Unpinning a page and marking it dirty are sections that end their calls. -/
theorem changeResident (change : Frame → Except IoError Frame)
    (hpc : ∀ result, pc.Follows (.returned result)) :
    Section callId pool pc (pool.changeResident pageId change) := by
  unfold BufferPoolManager.changeResident
  split
  · split_ifs
    · exact straight (hpc _) ⟨rfl, rfl, rfl⟩
    · split <;> exact straight (hpc _) ⟨rfl, rfl, rfl⟩
  · exact straight (hpc _) ⟨rfl, rfl, rfl⟩

/-- The start of a flush goes on to its frame, or ends the call. -/
theorem flushPage : Section callId pool (.flushStart pageId) (pool.flushPage pageId) := by
  unfold BufferPoolManager.flushPage
  split
  · split_ifs
    · exact straight .flushStartReturns ⟨rfl, rfl, rfl⟩
    · split
      · exact straight .flushStartReturns ⟨rfl, rfl, rfl⟩
      · split_ifs
        · exact straight .flushStart ⟨rfl, rfl, rfl⟩
        · exact straight .flushStartReturns ⟨rfl, rfl, rfl⟩
  · exact straight .flushStartReturns ⟨rfl, rfl, rfl⟩

/-- The start of a deletion goes on to its frame, or ends the call. -/
theorem deletePage : Section callId pool (.deleteStart pageId) (pool.deletePage pageId) := by
  unfold BufferPoolManager.deletePage
  split
  · split_ifs
    · split
      · exact straight .deleteStartReturns ⟨rfl, rfl, rfl⟩
      · dsimp only
        split_ifs
        · exact straight .deleteStart ⟨rfl, rfl, rfl⟩
        · exact straight .deleteStartReturns ⟨rfl, rfl, rfl⟩
    · exact straight .deleteStartReturns ⟨rfl, rfl, rfl⟩
  · exact straight .deleteStartReturns ⟨rfl, rfl, rfl⟩

/-- What follows a flush depends on the caller. -/
theorem flushReturn (hloads : pool'.inFlightLoads = pool.inFlightLoads)
    (hmisses : pool'.metrics.cacheMisses = pool.metrics.cacheMisses) {caller : FlushCaller}
    {result : Except BufferPoolError Unit}
    (hpc : ∀ pc', pc'.afterFlush = true → pc.Follows pc') :
    Section callId pool pc (pool'.flushReturn pageId frameId caller result) := by
  refine straight (hpc _ ?_) ?_
  · cases caller <;> cases result <;> rfl
  · cases caller <;> cases result <;> exact ⟨hloads, hmisses, rfl⟩

/-- Behind the check comes the write, or the end of the flush. -/
theorem flushCheck {caller : FlushCaller} :
    Section callId pool (.flushCheck pageId frameId caller)
      (pool.flushCheck pageId frameId caller) := by
  unfold BufferPoolManager.flushCheck
  dsimp only
  split_ifs
  · exact flushReturn (by rfl) (by rfl) fun _ => .flushCheckReturns
  · split
    · exact flushReturn (by rfl) (by rfl) fun _ => .flushCheckReturns
    · exact straight .flushCheck ⟨rfl, rfl, rfl⟩
  · exact flushReturn (by rfl) (by rfl) fun _ => .flushCheckReturns

/-- The end of a flush is followed by what the caller does next. -/
theorem flushFinish {written : Except IoError Unit} {caller : FlushCaller} :
    Section callId pool (.flushFinish pageId frameId written caller)
      (pool.flushFinish pageId frameId written caller) := by
  unfold BufferPoolManager.flushFinish
  dsimp only
  split
  · exact flushReturn (by rfl) (by rfl) fun _ => .flushFinish
  · split <;> exact flushReturn (by rfl) (by rfl) fun _ => .flushFinish

/-- The start of `new_page` goes on to a victim, or ends the call. -/
theorem newPage : Section callId pool .newStart pool.newPage := by
  unfold BufferPoolManager.newPage
  dsimp only
  split_ifs
  · exact straight .newStartReturns ⟨rfl, rfl, rfl⟩
  · cases pool.freeFrames with
    | cons frameId rest =>
        dsimp only
        split <;> exact straight .newStartReturns ⟨rfl, rfl, rfl⟩
    | nil =>
        dsimp only
        cases pool.clockReplacer.findVictim pool.frames with
        | error e => exact straight .newStartReturns ⟨rfl, rfl, rfl⟩
        | ok found =>
            rcases found with ⟨victim, clock, frames⟩
            cases victim with
            | none => exact straight .newStartReturns ⟨rfl, rfl, rfl⟩
            | some victim =>
                dsimp only
                exact straight (reserveVictim_pc (fun _ => .newStartReturns) (fun _ _ => .newStart)
                  fun _ => .newStartClean) ⟨reserveVictim_quiet.loads_eq,
                    reserveVictim_quiet.misses_eq, reserveVictim_quiet.signal_eq⟩

/-- The commit of `new_page` ends the call. -/
theorem newCommit {oldPageId : PageId} :
    Section callId pool (.newCommit pageId frameId oldPageId)
      (pool.newCommit pageId frameId oldPageId) := by
  unfold BufferPoolManager.newCommit
  split
  · exact straight .newCommit ⟨rfl, rfl, rfl⟩
  · dsimp only
    split <;> exact straight .newCommit ⟨rfl, rfl, rfl⟩

/-! ### The loop of a fetch -/

/-- The search of a fetch for a victim leaves the entries of loads alone. -/
theorem fetchEvict_quiet : Quiet pool (pool.fetchEvict pageId) := by
  unfold BufferPoolManager.fetchEvict
  cases pool.clockReplacer.findVictim pool.frames with
  | error e => exact ⟨rfl, rfl, rfl⟩
  | ok found =>
      rcases found with ⟨victim, clock, frames⟩
      cases victim with
      | some victim =>
          dsimp only
          exact ⟨reserveVictim_quiet.loads_eq, reserveVictim_quiet.misses_eq,
            reserveVictim_quiet.signal_eq⟩
      | none =>
          dsimp only
          split_ifs <;> exact ⟨rfl, rfl, rfl⟩

/-- The search of a fetch for a victim leads to the load of the page, to a wait or to the end. -/
theorem fetchEvict_begun : (pool.fetchEvict pageId).pc.Begun pageId := by
  unfold BufferPoolManager.fetchEvict
  cases pool.clockReplacer.findVictim pool.frames with
  | error e => trivial
  | ok found =>
      rcases found with ⟨victim, clock, frames⟩
      cases victim with
      | some victim =>
          exact reserveVictim_pc (fun _ => trivial) (fun _ _ => rfl) fun _ => rfl
      | none =>
          dsimp only
          split_ifs
          · exact ⟨rfl, rfl, rfl⟩
          · trivial

/-- A hit waits for a reserved frame, or ends the call. -/
theorem fetchHit (missRecorded : Bool) :
    Section callId pool (.fetchStart pageId missRecorded)
      (pool.fetchHit pageId missRecorded frameId) := by
  unfold BufferPoolManager.fetchHit
  split_ifs
  · exact waits rfl ⟨rfl, rfl, rfl⟩
  · dsimp only
    split
    · exact straight .fetchStart ⟨rfl, rfl, rfl⟩
    · split <;> exact straight .fetchStart ⟨rfl, rfl, rfl⟩

/-- The page is not resident; what the misses are now is what they were before the entry. -/
theorem fetchMiss {missRecorded : Bool} (hloads : pool'.inFlightLoads = pool.inFlightLoads)
    (hmisses : pool'.metrics.cacheMisses =
      (pool.recordMissOnce missRecorded).metrics.cacheMisses) :
    Section callId pool (.fetchStart pageId missRecorded) (pool'.fetchMiss callId pageId) := by
  unfold BufferPoolManager.fetchMiss
  rw [hloads]
  cases hload : pool.inFlightLoads pageId with
  | some waiter => exact joins hload rfl hloads hmisses rfl
  | none =>
      have hinserted : (pool'.insertLoad pageId callId).inFlightLoads =
          Function.update pool.inFlightLoads pageId (some callId) := by
        rw [insertLoad, hloads]
      dsimp only
      cases (pool'.insertLoad pageId callId).freeFrames with
      | cons freeFrame rest =>
          dsimp only
          split
          · refine fails hload rfl ?_ hmisses
            exact (congrArg (Function.update · pageId none) hinserted).trans
              (Function.update_idem ..)
          · exact begins hload rfl hinserted hmisses rfl
      | nil =>
          exact begins hload fetchEvict_begun (fetchEvict_quiet.loads_eq.trans hinserted)
            (fetchEvict_quiet.misses_eq.trans hmisses) fetchEvict_quiet.signal_eq

/-- The decision of a fetch waits, joins a load, begins one or ends the call. -/
theorem fetchDecide (missRecorded : Bool) :
    Section callId pool (.fetchStart pageId missRecorded)
      (pool.fetchDecide callId pageId missRecorded) := by
  unfold BufferPoolManager.fetchDecide
  split
  · exact fetchHit missRecorded
  · refine fetchMiss ?_ rfl
    cases missRecorded <;> rfl

/-! ### The end of a load -/

/-- Loading the page is followed by publishing it. -/
theorem fetchLoad {buffer : Buffer pageSize} :
    Section callId pool (.fetchLoad pageId frameId buffer)
      (pool.fetchLoad pageId frameId buffer) := by
  unfold BufferPoolManager.fetchLoad
  split
  · exact ends rfl rfl rfl rfl
  · split
    · exact ends rfl rfl rfl rfl
    · split
      · exact ends rfl rfl rfl rfl
      · exact straight .fetchLoad ⟨rfl, rfl, rfl⟩

/-- The commit of an eviction ends the load of its page. -/
theorem evictCommit {oldPageId : PageId} {buffer : Buffer pageSize} :
    Section callId pool (.evictCommit pageId frameId oldPageId buffer)
      (pool.evictCommit pageId frameId oldPageId buffer) := by
  unfold BufferPoolManager.evictCommit
  split
  · exact ends rfl rfl rfl rfl
  · split
    · exact straight .evictCommit ⟨rfl, rfl, rfl⟩
    · split
      · exact straight .evictCommit ⟨rfl, rfl, rfl⟩
      · dsimp only
        split
        · exact straight .evictCommit ⟨rfl, rfl, rfl⟩
        · exact ends rfl rfl rfl rfl

/-! ### All sections -/

/-- Every section of every call does one of these. -/
theorem advance (hnext : pool.advance callId pc io = some next) : Section callId pool pc next := by
  cases pc with
  | fetchStart pageId missRecorded =>
      cases io <;> cases hnext
      exact fetchDecide missRecorded
  | fetchWaitState =>
      cases io <;> cases hnext
      exact wakes
  | fetchWaitLoad =>
      cases io <;> cases hnext
      exact wakesToCheck
  | fetchNotify =>
      cases io <;> cases hnext
      exact notifies
  | fetchCheckLoad pageId waiter =>
      cases io <;> simp only [BufferPoolManager.advance, reduceCtorEq] at hnext
      split_ifs at hnext with hload <;> cases hnext
      · exact sleeps hload
      · exact retries (Option.not_isSome_iff_eq_none.mp hload)
  | fetchRead pageId frameId =>
      rcases io with _ | outcome | outcome | _ <;> cases hnext
      refine straight ?_ ⟨rfl, rfl, rfl⟩
      dsimp only [readThen]
      split <;> constructor
  | fetchLoad pageId frameId buffer =>
      cases io <;> cases hnext
      exact fetchLoad
  | evictWrite pageId victim oldPageId oldData =>
      rcases io with _ | outcome | outcome | _ <;> cases hnext
      refine straight ?_ ⟨rfl, rfl, rfl⟩
      dsimp only [writeThen]
      split <;> constructor
  | evictRead pageId victim oldPageId =>
      rcases io with _ | outcome | outcome | _ <;> cases hnext
      refine straight ?_ ⟨rfl, rfl, rfl⟩
      dsimp only [readThen]
      split <;> constructor
  | evictCommit pageId victim oldPageId buffer =>
      cases io <;> simp only [BufferPoolManager.advance, Option.some_inj, reduceCtorEq] at hnext
      rw [← hnext]
      exact evictCommit
  | fetchPublish | fetchReadFailed | evictFailed =>
      cases io <;> cases hnext
      exact ends rfl rfl rfl rfl
  | unpinStart =>
      cases io <;> cases hnext
      exact changeResident _ fun _ => .unpin
  | markDirtyStart =>
      cases io <;> cases hnext
      exact changeResident _ fun _ => .markDirty
  | flushStart =>
      cases io <;> cases hnext
      exact flushPage
  | deleteStart =>
      cases io <;> cases hnext
      exact deletePage
  | flushCheck =>
      cases io <;> cases hnext
      exact flushCheck
  | flushWrite =>
      rcases io with _ | outcome | outcome | _ <;> cases hnext
      exact straight .flushWrite ⟨rfl, rfl, rfl⟩
  | flushFinish =>
      cases io <;> cases hnext
      exact flushFinish
  | newStart =>
      cases io <;> cases hnext
      exact newPage
  | newWrite =>
      rcases io with _ | outcome | outcome | _ <;> cases hnext
      refine straight ?_ ⟨rfl, rfl, rfl⟩
      dsimp only [writeThen]
      split <;> constructor
  | newCommit =>
      cases io <;> simp only [BufferPoolManager.advance, Option.some_inj, reduceCtorEq] at hnext
      rw [← hnext]
      exact newCommit
  | flushRelease | deleteRollback | deleteFinish | newRollback =>
      cases io <;> cases hnext
      exact straight (by constructor) ⟨rfl, rfl, rfl⟩
  | returned => cases io <;> cases hnext

end Section

end Storage
end TaskPool
