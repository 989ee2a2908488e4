import TaskPool.Storage.BufferPool.ClockReplacer
import TaskPool.Storage.BufferPool.Disk

/-!
# The buffer pool manager

A call on the manager is a sequence of sections.  A section runs under `state_lock`,
or under one frame lock, or under the lock of `in_flight_loads`, or it is one disk
access; between sections other calls may run.  A program counter says which section
comes next and carries the local variables the rest of the call needs.

The source notifies condition variables at the end of some sections; a section
returns the variable it notifies as a signal.  Poisoned locks are not modelled.

Main results:

- Structure `BufferPoolManager`: the shared state.
- Inductive `Pc`: where a call is.
- Definition `BufferPoolManager.advance`: the next section of a call.
- Definition `BufferPoolManager.solo`: the sections of a call that runs alone.
-/

namespace TaskPool
namespace Storage

open Library

/-- The identity of a call; it also names the condition variable the call creates. -/
abbrev CallId := Nat

/-- `BufferPoolMetrics`. -/
structure BufferPoolMetrics where
  fetches : UInt64
  cacheHits : UInt64
  cacheMisses : UInt64
  evictions : UInt64
deriving DecidableEq

/-- The shared state of a buffer pool of `n` frames. -/
structure BufferPoolManager (n : Nat) where
  frames : Fin n → Frame
  pageTable : PageTable n
  clockReplacer : ClockReplacer n
  freeFrames : List (Fin n)
  diskManager : DiskManager
  nextPageId : PageId
  inFlightLoads : PageId → Option CallId
  metrics : BufferPoolMetrics

/-- The calls of a client. -/
inductive Call where
  | fetchPage (pageId : PageId)
  | unpinPage (pageId : PageId)
  | markDirtyPage (pageId : PageId)
  | flushPage (pageId : PageId)
  | deletePage (pageId : PageId)
  | newPage
deriving DecidableEq

/-- What a call returns. -/
inductive CallResult (n : Nat) where
  | fetched (frameId : Fin n)
  | done
  | allocated (pageId : PageId) (frameId : Fin n)
  | failed (error : BufferPoolError)
deriving DecidableEq

/-- What a `fetch_page` returns. -/
def CallResult.ofFetch {n : Nat} : Except BufferPoolError (Fin n) → CallResult n
  | .ok frameId => .fetched frameId
  | .error e => .failed e

/-- The caller of `flush_reserved_frame`. -/
inductive FlushCaller where
  | flushPage
  | deletePage
deriving DecidableEq

/-- The next section of a call. -/
inductive Pc (n : Nat) where
  /-- The loop of `fetch_page` is about to take `state_lock`. -/
  | fetchStart (pageId : PageId) (missRecorded : Bool)
  | fetchWaitState (pageId : PageId) (missRecorded notified : Bool)
  | fetchCheckLoad (pageId : PageId) (waiter : CallId)
  | fetchWaitLoad (pageId : PageId) (waiter : CallId) (notified : Bool)
  | fetchRead (pageId : PageId) (frameId : Fin n)
  | fetchLoad (pageId : PageId) (frameId : Fin n) (buffer : Buffer pageSize)
  | fetchPublish (pageId : PageId) (frameId : Fin n)
  | fetchReadFailed (pageId : PageId) (frameId : Fin n) (error : IoError)
  | evictWrite (pageId : PageId) (victim : Fin n) (oldPageId : PageId) (oldData : Buffer pageSize)
  | evictRead (pageId : PageId) (victim : Fin n) (oldPageId : PageId)
  | evictCommit (pageId : PageId) (victim : Fin n) (oldPageId : PageId) (buffer : Buffer pageSize)
  | evictFailed (pageId : PageId) (victim : Fin n) (oldPageId : PageId) (error : IoError)
  /-- `state_lock` is released and the waiters of the load are about to be notified. -/
  | fetchNotify (waiter : Option CallId) (result : Except BufferPoolError (Fin n))
  | unpinStart (pageId : PageId)
  | markDirtyStart (pageId : PageId)
  | flushStart (pageId : PageId)
  | deleteStart (pageId : PageId)
  | flushCheck (pageId : PageId) (frameId : Fin n) (caller : FlushCaller)
  | flushWrite (pageId : PageId) (frameId : Fin n) (dirtyPageId : PageId)
      (bufferData : Buffer pageSize) (caller : FlushCaller)
  | flushFinish (pageId : PageId) (frameId : Fin n) (written : Except IoError Unit)
      (caller : FlushCaller)
  | flushRelease (pageId : PageId) (frameId : Fin n)
  | deleteRollback (pageId : PageId) (frameId : Fin n) (error : BufferPoolError)
  | deleteFinish (pageId : PageId) (frameId : Fin n)
  | newStart
  | newWrite (newPageId : PageId) (victim : Fin n) (oldPageId : PageId) (oldData : Buffer pageSize)
  | newRollback (newPageId : PageId) (victim : Fin n) (oldPageId : PageId) (error : IoError)
  | newCommit (newPageId : PageId) (victim : Fin n) (oldPageId : PageId)
  | returned (result : CallResult n)
deriving DecidableEq

/-- The condition variable a section notifies. -/
inductive Signal where
  | none
  | state
  | load (waiter : CallId)
deriving DecidableEq

/-- What the outside world contributes to a section. -/
inductive Io where
  | none
  | read (outcome : ReadOutcome)
  | write (outcome : WriteOutcome)
  | wake

/-- The disk access of the section, if there is one, succeeds. -/
def Io.Succeeds : Io → Prop
  | .read (.fail _) => False
  | .write (.fail _ _) => False
  | _ => True

/-- The first section of a call. -/
def Call.entry {n : Nat} : Call → Pc n
  | .fetchPage pageId => .fetchStart pageId false
  | .unpinPage pageId => .unpinStart pageId
  | .markDirtyPage pageId => .markDirtyStart pageId
  | .flushPage pageId => .flushStart pageId
  | .deletePage pageId => .deleteStart pageId
  | .newPage => .newStart

/-- What a section leaves behind. -/
structure Next (n : Nat) where
  pool : BufferPoolManager n
  pc : Pc n
  signal : Signal

namespace BufferPoolManager

variable {n : Nat}

/-- A pool without pages over a file. -/
def new (n : Nat) (file : List UInt8) : BufferPoolManager n where
  frames := fun _ => Frame.new
  pageTable := PageTable.new
  clockReplacer := ClockReplacer.new
  freeFrames := List.finRange n
  diskManager := ⟨file⟩
  nextPageId := 0
  inFlightLoads := fun _ => none
  metrics := ⟨0, 0, 0, 0⟩

/-! ## Small changes of the shared state -/

/-- Count a call of `fetch_page`. -/
def recordFetch (pool : BufferPoolManager n) : BufferPoolManager n :=
  { pool with metrics := { pool.metrics with fetches := pool.metrics.fetches + 1 } }

/-- Count a hit. -/
def recordHit (pool : BufferPoolManager n) : BufferPoolManager n :=
  { pool with metrics := { pool.metrics with cacheHits := pool.metrics.cacheHits + 1 } }

/-- Count a miss. -/
def recordMiss (pool : BufferPoolManager n) : BufferPoolManager n :=
  { pool with metrics := { pool.metrics with cacheMisses := pool.metrics.cacheMisses + 1 } }

/-- Record the miss of a fetch that has not recorded it yet. -/
def recordMissOnce (pool : BufferPoolManager n) (missRecorded : Bool) : BufferPoolManager n :=
  if missRecorded then pool else pool.recordMiss

/-- Count an eviction. -/
def recordEviction (pool : BufferPoolManager n) : BufferPoolManager n :=
  { pool with metrics := { pool.metrics with evictions := pool.metrics.evictions + 1 } }

/-- Store a frame. -/
def setFrame (pool : BufferPoolManager n) (frameId : Fin n) (frame : Frame) : BufferPoolManager n :=
  { pool with frames := Function.update pool.frames frameId frame }

/-- `FreeFrames::add_frame`. -/
def addFrame (pool : BufferPoolManager n) (frameId : Fin n) : BufferPoolManager n :=
  { pool with freeFrames := pool.freeFrames ++ [frameId] }

/-- Enter a load. -/
def insertLoad (pool : BufferPoolManager n) (pageId : PageId) (waiter : CallId) :
    BufferPoolManager n :=
  { pool with inFlightLoads := Function.update pool.inFlightLoads pageId (some waiter) }

/-- Remove a load. -/
def removeLoad (pool : BufferPoolManager n) (pageId : PageId) : BufferPoolManager n :=
  { pool with inFlightLoads := Function.update pool.inFlightLoads pageId none }

/-- The section that ends a call. -/
def finish (pool : BufferPoolManager n) (result : CallResult n) : Next n :=
  ⟨pool, .returned result, .none⟩

/-- The section that ends a call with an error. -/
def fail (pool : BufferPoolManager n) (error : BufferPoolError) : Next n :=
  pool.finish (.failed error)

/-- The signal to the waiters of a load. -/
def notifyLoad : Option CallId → Signal
  | none => .none
  | some waiter => .load waiter

/-- Remove the load, notify `state_cv`, and leave `state_lock`. -/
def endLoad (pool : BufferPoolManager n) (pageId : PageId)
    (result : Except BufferPoolError (Fin n)) : Next n :=
  ⟨pool.removeLoad pageId, .fetchNotify (pool.inFlightLoads pageId) result, .state⟩

/-- Give a frame back and abandon the load; the waiters are notified at once. -/
def abandonLoad (pool : BufferPoolManager n) (pageId : PageId) (frameId : Fin n)
    (error : IoError) : Next n :=
  ⟨(pool.addFrame frameId).removeLoad pageId, .returned (.failed (.frameError error)),
    notifyLoad (pool.inFlightLoads pageId)⟩

/-! ## Sections of `fetch_page` -/

/-- Reserve a frame and copy its bytes when it is dirty. -/
def reserveVictim (pool : BufferPoolManager n) (victim : Fin n)
    (whenDirty : PageId → Buffer pageSize → Pc n) (whenClean : PageId → Pc n) : Next n :=
  match (pool.frames victim).reserve with
  | .error e => pool.fail (.frameError e)
  | .ok frame =>
    let pool := pool.setFrame victim frame
    match frame.getPageId with
    | .error e => pool.fail (.frameError e)
    | .ok oldPageId =>
      if frame.isDirty then ⟨pool, whenDirty oldPageId frame.data, .none⟩
      else ⟨pool, whenClean oldPageId, .none⟩

/-- No frame is free: find a victim, wait for a reserved frame, or give up. -/
def fetchEvict (pool : BufferPoolManager n) (pageId : PageId) : Next n :=
  match pool.clockReplacer.findVictim pool.frames with
  | .error e => pool.fail e
  | .ok (victim, clock, frames) =>
    let pool := { pool with clockReplacer := clock, frames := frames }
    match victim with
    | some victim =>
      pool.reserveVictim victim (.evictWrite pageId victim) (.evictRead pageId victim)
    | none =>
      if ∃ frameId, (pool.frames frameId).isReserved then
        ⟨pool, .fetchWaitState pageId true false, .none⟩
      else pool.fail .noEvictableFrame

/-- The page is not resident: wait for its load or become its loader. -/
def fetchMiss (pool : BufferPoolManager n) (callId : CallId) (pageId : PageId) : Next n :=
  match pool.inFlightLoads pageId with
  | some waiter => ⟨pool, .fetchCheckLoad pageId waiter, .none⟩
  | none =>
    let pool := pool.insertLoad pageId callId
    match pool.freeFrames with
    | freeFrame :: rest =>
      let pool := { pool with freeFrames := rest }
      match (pool.frames freeFrame).reserve with
      | .error e => pool.abandonLoad pageId freeFrame e
      | .ok frame => ⟨pool.setFrame freeFrame frame, .fetchRead pageId freeFrame, .none⟩
    | [] => pool.fetchEvict pageId

/-- The page is resident: pin it, or wait until its frame is no longer reserved. -/
def fetchHit (pool : BufferPoolManager n) (pageId : PageId) (missRecorded : Bool)
    (frameId : Fin n) : Next n :=
  if (pool.frames frameId).isReserved then
    ⟨pool, .fetchWaitState pageId missRecorded false, .none⟩
  else
    let pool := pool.recordHit
    match (pool.frames frameId).pin with
    | .error e => pool.fail (.frameError e)
    | .ok frame =>
      match frame.markReferenced with
      | .error e => (pool.setFrame frameId frame).fail (.frameError e)
      | .ok frame => (pool.setFrame frameId frame).finish (.fetched frameId)

/-- The section of `fetch_page` that decides under `state_lock`. -/
def fetchDecide (pool : BufferPoolManager n) (callId : CallId) (pageId : PageId)
    (missRecorded : Bool) : Next n :=
  match pool.pageTable pageId with
  | some frameId => pool.fetchHit pageId missRecorded frameId
  | none => (pool.recordMissOnce missRecorded).fetchMiss callId pageId

/-- Load the page into the reserved free frame and pin it, under the frame lock. -/
def fetchLoad (pool : BufferPoolManager n) (pageId : PageId) (frameId : Fin n)
    (buffer : Buffer pageSize) : Next n :=
  match (pool.frames frameId).loadPage pageId buffer.bytes with
  | .error e => (pool.setFrame frameId (pool.frames frameId).setFree).abandonLoad pageId frameId e
  | .ok frame =>
    match frame.pin with
    | .error e => (pool.setFrame frameId frame.setFree).abandonLoad pageId frameId e
    | .ok frame =>
      match frame.markReferenced with
      | .error e => (pool.setFrame frameId frame.setFree).abandonLoad pageId frameId e
      | .ok frame => ⟨pool.setFrame frameId frame, .fetchPublish pageId frameId, .none⟩

/-- Publish the loaded page. -/
def fetchPublish (pool : BufferPoolManager n) (pageId : PageId) (frameId : Fin n) : Next n :=
  { pool with pageTable := pool.pageTable.insert pageId frameId }.endLoad pageId (.ok frameId)

/-- Give the frame back after a failed read. -/
def fetchReadFailed (pool : BufferPoolManager n) (pageId : PageId) (frameId : Fin n)
    (error : IoError) : Next n :=
  ((pool.setFrame frameId (pool.frames frameId).setFree).addFrame frameId).endLoad pageId
    (.error (.diskError error))

/-- Restore the victim after a failed disk access. -/
def evictFailed (pool : BufferPoolManager n) (pageId : PageId) (victim : Fin n)
    (error : IoError) : Next n :=
  (pool.setFrame victim (pool.frames victim).setResident).endLoad pageId
    (.error (.diskError error))

/-- Put the requested page in the place of the old one. -/
def evictCommit (pool : BufferPoolManager n) (pageId : PageId) (victim : Fin n)
    (oldPageId : PageId) (buffer : Buffer pageSize) : Next n :=
  match (pool.frames victim).loadPage pageId buffer.bytes with
  | .error e =>
    (pool.setFrame victim (pool.frames victim).setResident).endLoad pageId (.error (.frameError e))
  | .ok frame =>
    match frame.pin with
    | .error e => (pool.setFrame victim frame).fail (.frameError e)
    | .ok frame =>
      match frame.markReferenced with
      | .error e => (pool.setFrame victim frame).fail (.frameError e)
      | .ok frame =>
        let pool := pool.setFrame victim frame
        match pool.pageTable.replace oldPageId pageId victim with
        | .error e => pool.fail (.pageTableError e)
        | .ok table =>
          ({ pool with pageTable := table }.recordEviction).endLoad pageId (.ok victim)

/-! ## Sections of `unpin_page`, `mark_dirty_page`, `flush_page` and `delete_page` -/

/-- Change the frame of a resident page under `state_lock`. -/
def changeResident (pool : BufferPoolManager n) (pageId : PageId)
    (change : Frame → Except IoError Frame) : Next n :=
  match pool.pageTable pageId with
  | some frameId =>
    if (pool.frames frameId).isReserved then pool.fail .frameReserved
    else
      match change (pool.frames frameId) with
      | .error e => pool.fail (.frameError e)
      | .ok frame => (pool.setFrame frameId frame).finish .done
  | none => pool.fail (.pageNotFound pageId)

/-- `unpin_page`: one pin less, unless the frame is reserved. -/
def unpinPage (pool : BufferPoolManager n) (pageId : PageId) : Next n :=
  pool.changeResident pageId Frame.unpin

/-- `mark_dirty_page`: the dirty flag, unless the frame is reserved. -/
def markDirtyPage (pool : BufferPoolManager n) (pageId : PageId) : Next n :=
  pool.changeResident pageId Frame.markDirty

/-- The first section of `flush_page`. -/
def flushPage (pool : BufferPoolManager n) (pageId : PageId) : Next n :=
  match pool.pageTable pageId with
  | some frameId =>
    if (pool.frames frameId).isReserved then pool.fail .frameReserved
    else
      match (pool.frames frameId).reserve with
      | .error e => pool.fail (.frameError e)
      | .ok frame =>
        if frame.isDirty then
          ⟨pool.setFrame frameId frame, .flushCheck pageId frameId .flushPage, .none⟩
        else (pool.setFrame frameId frame.setResident).finish .done
  | none => pool.fail (.pageNotFound pageId)

/-- Where `flush_reserved_frame` returns to. -/
def flushReturn (pool : BufferPoolManager n) (pageId : PageId) (frameId : Fin n) :
    FlushCaller → Except BufferPoolError Unit → Next n
  | .flushPage, .ok () => ⟨pool, .flushRelease pageId frameId, .none⟩
  | .flushPage, .error e => pool.fail e
  | .deletePage, .ok () => ⟨pool, .deleteFinish pageId frameId, .none⟩
  | .deletePage, .error e => ⟨pool, .deleteRollback pageId frameId e, .none⟩

/-- The first section of `flush_reserved_frame`, under the frame lock. -/
def flushCheck (pool : BufferPoolManager n) (pageId : PageId) (frameId : Fin n)
    (caller : FlushCaller) : Next n :=
  let frame := pool.frames frameId
  if !frame.isReserved then pool.flushReturn pageId frameId caller (.error .frameNotReserved)
  else if frame.isDirty then
    match frame.getPageId with
    | .error e => pool.flushReturn pageId frameId caller (.error (.frameError e))
    | .ok dirtyPageId => ⟨pool, .flushWrite pageId frameId dirtyPageId frame.data caller, .none⟩
  else pool.flushReturn pageId frameId caller (.ok ())

/-- The last section of `flush_reserved_frame`, under the frame lock. -/
def flushFinish (pool : BufferPoolManager n) (pageId : PageId) (frameId : Fin n)
    (written : Except IoError Unit) (caller : FlushCaller) : Next n :=
  let frame := pool.frames frameId
  match written with
  | .error e =>
    (pool.setFrame frameId frame.setResident).flushReturn pageId frameId caller
      (.error (.diskError e))
  | .ok () =>
    match frame.clearDirty with
    | .error e =>
      (pool.setFrame frameId frame.setResident).flushReturn pageId frameId caller
        (.error (.frameError e))
    | .ok frame => (pool.setFrame frameId frame).flushReturn pageId frameId caller (.ok ())

/-- Remove a page and give its frame back. -/
def dropPage (pool : BufferPoolManager n) (pageId : PageId) (frameId : Fin n) : Next n :=
  let pool := { pool with pageTable := pool.pageTable.removePage pageId }
  ((pool.setFrame frameId (pool.frames frameId).reset).addFrame frameId).finish .done

/-- The first section of `delete_page`. -/
def deletePage (pool : BufferPoolManager n) (pageId : PageId) : Next n :=
  match pool.pageTable pageId with
  | some frameId =>
    if !(pool.frames frameId).isPinned && !(pool.frames frameId).isReserved then
      match (pool.frames frameId).reserve with
      | .error e => pool.fail (.frameError e)
      | .ok frame =>
        let pool := pool.setFrame frameId frame
        if frame.isDirty then ⟨pool, .flushCheck pageId frameId .deletePage, .none⟩
        else pool.dropPage pageId frameId
    else pool.fail (.pagePinned pageId)
  | none => pool.fail (.pageNotFound pageId)

/-- Set a frame to `Resident` under the frame lock and return. -/
def releaseFrame (pool : BufferPoolManager n) (frameId : Fin n) (result : CallResult n) : Next n :=
  (pool.setFrame frameId (pool.frames frameId).setResident).finish result

/-! ## Sections of `new_page` -/

/-- Load an empty page, pin it and mark it dirty; an error comes with the frame
reached so far. -/
def loadNew (frame : Frame) (newPageId : PageId) : Except (IoError × Frame) Frame :=
  match frame.loadPage newPageId (Buffer.zero pageSize).bytes with
  | .error e => .error (e, frame)
  | .ok frame =>
    match frame.pin with
    | .error e => .error (e, frame)
    | .ok frame =>
      match frame.markReferenced with
      | .error e => .error (e, frame)
      | .ok frame =>
        match frame.markDirty with
        | .error e => .error (e, frame)
        | .ok frame => .ok frame

/-- The first section of `new_page`. -/
def newPage (pool : BufferPoolManager n) : Next n :=
  let newPageId := pool.nextPageId
  if newPageId ≥ 65535 then pool.fail .noPageIdAvailable
  else
    match pool.freeFrames with
    | frameId :: rest =>
      let pool := { pool with freeFrames := rest }
      match loadNew (pool.frames frameId) newPageId with
      | .error (e, frame) =>
        ((pool.setFrame frameId frame.setFree).addFrame frameId).fail (.frameError e)
      | .ok frame =>
        let pool := pool.setFrame frameId frame
        { pool with
          pageTable := pool.pageTable.insert newPageId frameId
          nextPageId := pool.nextPageId + 1 }.finish (.allocated newPageId frameId)
    | [] =>
      match pool.clockReplacer.findVictim pool.frames with
      | .error e => pool.fail e
      | .ok (victim, clock, frames) =>
        let pool := { pool with clockReplacer := clock, frames := frames }
        match victim with
        | some victim =>
          pool.reserveVictim victim (.newWrite newPageId victim) (.newCommit newPageId victim)
        | none => pool.fail .noEvictableFrame

/-- Put the new page in the place of the old one. -/
def newCommit (pool : BufferPoolManager n) (newPageId : PageId) (victim : Fin n)
    (oldPageId : PageId) : Next n :=
  match loadNew (pool.frames victim) newPageId with
  -- `set_resident` after a failed `load_page`; behind it the frame is `Resident` already
  | .error (e, frame) => (pool.setFrame victim frame.setResident).fail (.frameError e)
  | .ok frame =>
    let pool := pool.setFrame victim frame
    match pool.pageTable.replace oldPageId newPageId victim with
    | .error e => pool.fail (.pageTableError e)
    | .ok table =>
      { pool with pageTable := table, nextPageId := newPageId + 1 }.finish
        (.allocated newPageId victim)

/-! ## The sections of a call in order -/

/-- Write a page and go on. -/
def writeThen (pool : BufferPoolManager n) (pageId : PageId) (data : Buffer pageSize)
    (outcome : WriteOutcome) (next : Except IoError Unit → Pc n) : Next n :=
  ⟨{ pool with diskManager := (pool.diskManager.writePage pageId data outcome).2 },
    next (pool.diskManager.writePage pageId data outcome).1, .none⟩

/-- Read a page and go on. -/
def readThen (pool : BufferPoolManager n) (pageId : PageId) (outcome : ReadOutcome)
    (next : Except IoError (Buffer pageSize) → Pc n) : Next n :=
  ⟨pool, next (pool.diskManager.readPage pageId outcome), .none⟩

/-- The next section of a call; `none` when the call has returned or when the outside
world offers something the section does not ask for. -/
def advance (pool : BufferPoolManager n) (callId : CallId) : Pc n → Io → Option (Next n)
  | .fetchStart pageId missRecorded, .none =>
    some (pool.fetchDecide callId pageId missRecorded)
  -- returning from a wait takes the lock again and goes back to the loop
  | .fetchWaitState pageId missRecorded _, .wake =>
    some ⟨pool, .fetchStart pageId missRecorded, .none⟩
  | .fetchCheckLoad pageId waiter, .none =>
    if (pool.inFlightLoads pageId).isSome then
      some ⟨pool, .fetchWaitLoad pageId waiter false, .none⟩
    else some ⟨pool, .fetchStart pageId true, .none⟩
  | .fetchWaitLoad pageId waiter _, .wake => some ⟨pool, .fetchCheckLoad pageId waiter, .none⟩
  | .fetchRead pageId frameId, .read outcome =>
    some (pool.readThen pageId outcome fun
      | .ok buffer => .fetchLoad pageId frameId buffer
      | .error e => .fetchReadFailed pageId frameId e)
  | .fetchLoad pageId frameId buffer, .none => some (pool.fetchLoad pageId frameId buffer)
  | .fetchPublish pageId frameId, .none => some (pool.fetchPublish pageId frameId)
  | .fetchReadFailed pageId frameId e, .none => some (pool.fetchReadFailed pageId frameId e)
  | .evictWrite pageId victim oldPageId oldData, .write outcome =>
    some (pool.writeThen oldPageId oldData outcome fun
      | .ok () => .evictRead pageId victim oldPageId
      | .error e => .evictFailed pageId victim oldPageId e)
  | .evictRead pageId victim oldPageId, .read outcome =>
    some (pool.readThen pageId outcome fun
      | .ok buffer => .evictCommit pageId victim oldPageId buffer
      | .error e => .evictFailed pageId victim oldPageId e)
  | .evictCommit pageId victim oldPageId buffer, .none =>
    some (pool.evictCommit pageId victim oldPageId buffer)
  | .evictFailed pageId victim _ e, .none => some (pool.evictFailed pageId victim e)
  | .fetchNotify waiter result, .none => some ⟨pool, .returned (.ofFetch result), notifyLoad waiter⟩
  | .unpinStart pageId, .none => some (pool.unpinPage pageId)
  | .markDirtyStart pageId, .none => some (pool.markDirtyPage pageId)
  | .flushStart pageId, .none => some (pool.flushPage pageId)
  | .deleteStart pageId, .none => some (pool.deletePage pageId)
  | .flushCheck pageId frameId caller, .none => some (pool.flushCheck pageId frameId caller)
  | .flushWrite pageId frameId dirtyPageId data caller, .write outcome =>
    some (pool.writeThen dirtyPageId data outcome fun written =>
      .flushFinish pageId frameId written caller)
  | .flushFinish pageId frameId written caller, .none =>
    some (pool.flushFinish pageId frameId written caller)
  | .flushRelease _ frameId, .none => some (pool.releaseFrame frameId .done)
  | .deleteRollback _ frameId e, .none => some (pool.releaseFrame frameId (.failed e))
  | .deleteFinish pageId frameId, .none => some (pool.dropPage pageId frameId)
  | .newStart, .none => some pool.newPage
  | .newWrite newPageId victim oldPageId oldData, .write outcome =>
    some (pool.writeThen oldPageId oldData outcome fun
      | .ok () => .newCommit newPageId victim oldPageId
      | .error e => .newRollback newPageId victim oldPageId e)
  | .newRollback _ victim _ e, .none =>
    some (pool.releaseFrame victim (.failed (.diskError e)))
  | .newCommit newPageId victim oldPageId, .none => some (pool.newCommit newPageId victim oldPageId)
  | _, _ => none

/-- Before its first section, `fetch_page` counts itself. -/
def record (pool : BufferPoolManager n) : Call → BufferPoolManager n
  | .fetchPage _ => pool.recordFetch
  | _ => pool

/-- Run sections of one call with nothing in between. -/
def solo (callId : CallId) : List Io → BufferPoolManager n → Pc n →
    Option (BufferPoolManager n × Pc n)
  | [], pool, pc => some (pool, pc)
  | io :: ios, pool, pc => do
    let next ← pool.advance callId pc io
    solo callId ios next.pool next.pc

end BufferPoolManager

end Storage
end TaskPool
