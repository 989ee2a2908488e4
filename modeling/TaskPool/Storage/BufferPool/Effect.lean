import TaskPool.Storage.BufferPool.Ownership

/-!
# What a section does

In a consistent pool the error paths behind a frame operation are closed: a mapped
frame has metadata, a reserved frame has an owner, and a victim holds a page.  What
remains of every section is listed here once, with the slots it leaves behind; the
later modules argue by cases on this list and never unfold a section.

Main results:

- Inductive `Effect`: the possible effects of the next section of a call.
- Theorem `Consistent.advance_effect`: a section has one of these effects.
-/

namespace TaskPool
namespace Storage

variable {n : Nat}

namespace BufferPoolManager

/-- The pool after a search for a victim. -/
def swept (pool : BufferPoolManager n) (clock : ClockReplacer n) (frames : Fin n → Frame) :
    BufferPoolManager n :=
  { pool with clockReplacer := clock, frames := frames }

/-- Put a frame into the state `Reserved`. -/
def reserveFrame (pool : BufferPoolManager n) (frameId : Fin n) : BufferPoolManager n :=
  pool.setFrame frameId { pool.frames frameId with state := .reserved }

/-- Replace the free list. -/
def withFree (pool : BufferPoolManager n) (freeFrames : List (Fin n)) : BufferPoolManager n :=
  { pool with freeFrames := freeFrames }

/-- Replace the page table. -/
def withTable (pool : BufferPoolManager n) (table : PageTable n) : BufferPoolManager n :=
  { pool with pageTable := table }

/-- Replace the next page identifier. -/
def withNext (pool : BufferPoolManager n) (nextPageId : PageId) : BufferPoolManager n :=
  { pool with nextPageId := nextPageId }

end BufferPoolManager

open BufferPoolManager Library

/-- The effects of the sections of a call on a pool with the given slots: the section
and what the outside world contributes, what it leaves behind, and the new slots. -/
inductive Effect (callId : CallId) (pool : BufferPoolManager n) (slot : Fin n → Slot) :
    Pc n → Io → Next n → (Fin n → Slot) → Prop
  -- `fetch_page`: the page is in the table
  | fetchWait {pageId missRecorded frameId} (htable : pool.pageTable pageId = some frameId)
      (hreserved : (slot frameId).state = .reserved) :
      Effect callId pool slot (.fetchStart pageId missRecorded) .none
        ⟨pool, .fetchWaitState pageId missRecorded false, .none⟩ slot
  | fetchHit {pageId missRecorded frameId} (hslot : slot frameId = .resident pageId) :
      Effect callId pool slot (.fetchStart pageId missRecorded) .none
        ((pool.recordHit.setFrame frameId (pool.frames frameId).touched).finish (.fetched frameId))
        slot
  -- `fetch_page`: the page is not in the table
  | fetchJoin {pageId missRecorded waiter} (htable : pool.pageTable pageId = none)
      (hload : pool.inFlightLoads pageId = some waiter) :
      Effect callId pool slot (.fetchStart pageId missRecorded) .none
        ⟨pool.recordMissOnce missRecorded, .fetchCheckLoad pageId waiter, .none⟩ slot
  | fetchTake {pageId missRecorded frameId rest} (htable : pool.pageTable pageId = none)
      (hload : pool.inFlightLoads pageId = none) (hfree : pool.freeFrames = frameId :: rest) :
      Effect callId pool slot (.fetchStart pageId missRecorded) .none
        ⟨((((pool.recordMissOnce missRecorded).insertLoad pageId callId).withFree rest).reserveFrame
          frameId), .fetchRead pageId frameId, .none⟩
        (Function.update slot frameId (.loading callId pageId))
  | fetchSleep {pageId missRecorded clock frames} (htable : pool.pageTable pageId = none)
      (hload : pool.inFlightLoads pageId = none)
      (hframes : ∀ frameId, Frame.SameButReference (pool.frames frameId) (frames frameId)) :
      Effect callId pool slot (.fetchStart pageId missRecorded) .none
        ⟨((pool.recordMissOnce missRecorded).insertLoad pageId callId).swept clock frames,
          .fetchWaitState pageId true false, .none⟩ slot
  | fetchGiveUp {pageId missRecorded clock frames} (htable : pool.pageTable pageId = none)
      (hload : pool.inFlightLoads pageId = none)
      (hframes : ∀ frameId, Frame.SameButReference (pool.frames frameId) (frames frameId)) :
      Effect callId pool slot (.fetchStart pageId missRecorded) .none
        ((((pool.recordMissOnce missRecorded).insertLoad pageId callId).swept clock frames).fail
          .noEvictableFrame) slot
  | fetchVictim {pageId missRecorded clock frames victim oldPageId}
      (htable : pool.pageTable pageId = none) (hload : pool.inFlightLoads pageId = none)
      (hframes : ∀ frameId, Frame.SameButReference (pool.frames frameId) (frames frameId))
      (hslot : slot victim = .resident oldPageId) (hpins : (pool.frames victim).pins = 0) :
      Effect callId pool slot (.fetchStart pageId missRecorded) .none
        ⟨((((pool.recordMissOnce missRecorded).insertLoad pageId callId).swept clock
            frames).reserveFrame victim),
          if (frames victim).isDirty then
            .evictWrite pageId victim oldPageId (frames victim).data
          else .evictRead pageId victim oldPageId, .none⟩
        (Function.update slot victim (.evicting callId oldPageId pageId))
  -- waiting
  | wakeState {pageId missRecorded notified} :
      Effect callId pool slot (.fetchWaitState pageId missRecorded notified) .wake
        ⟨pool, .fetchStart pageId missRecorded, .none⟩ slot
  | checkAgain {pageId waiter} :
      Effect callId pool slot (.fetchCheckLoad pageId waiter) .none
        ⟨pool, .fetchWaitLoad pageId waiter false, .none⟩ slot
  | checkDone {pageId waiter} :
      Effect callId pool slot (.fetchCheckLoad pageId waiter) .none
        ⟨pool, .fetchStart pageId true, .none⟩ slot
  | wakeLoad {pageId waiter notified} :
      Effect callId pool slot (.fetchWaitLoad pageId waiter notified) .wake
        ⟨pool, .fetchCheckLoad pageId waiter, .none⟩ slot
  -- loading into a free frame
  | readOk {pageId frameId sizes} :
      Effect callId pool slot (.fetchRead pageId frameId) (.read (.ok sizes))
        ⟨pool, .fetchLoad pageId frameId (pool.diskManager.page pageId), .none⟩ slot
  | readFail {pageId frameId error} :
      Effect callId pool slot (.fetchRead pageId frameId) (.read (.fail error))
        ⟨pool, .fetchReadFailed pageId frameId error, .none⟩ slot
  | load {pageId frameId buffer} :
      Effect callId pool slot (.fetchLoad pageId frameId buffer) .none
        ⟨pool.setFrame frameId (.loaded pageId buffer), .fetchPublish pageId frameId, .none⟩
        (Function.update slot frameId (.loaded callId pageId))
  | publish {pageId frameId} :
      Effect callId pool slot (.fetchPublish pageId frameId) .none
        ((pool.withTable (pool.pageTable.insert pageId frameId)).endLoad pageId (.ok frameId))
        (Function.update slot frameId (.resident pageId))
  | giveBack {pageId frameId error} :
      Effect callId pool slot (.fetchReadFailed pageId frameId error) .none
        (((pool.setFrame frameId (pool.frames frameId).setFree).addFrame frameId).endLoad pageId
          (.error (.diskError error)))
        (Function.update slot frameId .free)
  -- evicting
  | evictWriteOk {pageId victim oldPageId oldData} :
      Effect callId pool slot (.evictWrite pageId victim oldPageId oldData) (.write .ok)
        (pool.writeThen oldPageId oldData .ok fun _ => .evictRead pageId victim oldPageId) slot
  | evictWriteFail {pageId victim oldPageId oldData error left} :
      Effect callId pool slot (.evictWrite pageId victim oldPageId oldData) (.write (.fail error left))
        (pool.writeThen oldPageId oldData (.fail error left) fun _ =>
          .evictFailed pageId victim oldPageId error) slot
  | evictReadOk {pageId victim oldPageId sizes} :
      Effect callId pool slot (.evictRead pageId victim oldPageId) (.read (.ok sizes))
        ⟨pool, .evictCommit pageId victim oldPageId (pool.diskManager.page pageId), .none⟩ slot
  | evictReadFail {pageId victim oldPageId error} :
      Effect callId pool slot (.evictRead pageId victim oldPageId) (.read (.fail error))
        ⟨pool, .evictFailed pageId victim oldPageId error, .none⟩ slot
  | commit {pageId victim oldPageId buffer} :
      Effect callId pool slot (.evictCommit pageId victim oldPageId buffer) .none
        ((((pool.setFrame victim (.loaded pageId buffer)).withTable
          ((pool.pageTable.removePage oldPageId).insert pageId victim)).recordEviction).endLoad
            pageId (.ok victim))
        (Function.update slot victim (.resident pageId))
  | restore {pageId victim oldPageId error} :
      Effect callId pool slot (.evictFailed pageId victim oldPageId error) .none
        ((pool.setFrame victim (pool.frames victim).setResident).endLoad pageId
          (.error (.diskError error)))
        (Function.update slot victim (.resident oldPageId))
  | notify {waiter result} :
      Effect callId pool slot (.fetchNotify waiter result) .none
        ⟨pool, .returned (.ofFetch result), notifyLoad waiter⟩ slot
  -- `unpin_page` and `mark_dirty_page`
  | unpinFail {pageId error} :
      Effect callId pool slot (.unpinStart pageId) .none (pool.fail error) slot
  | unpin {pageId frameId} (hslot : slot frameId = .resident pageId)
      (hpins : 0 < (pool.frames frameId).pins) :
      Effect callId pool slot (.unpinStart pageId) .none
        ((pool.setFrame frameId (pool.frames frameId).unpinned).finish .done) slot
  | markDirtyFail {pageId error} :
      Effect callId pool slot (.markDirtyStart pageId) .none (pool.fail error) slot
  | markDirty {pageId frameId} (hslot : slot frameId = .resident pageId) :
      Effect callId pool slot (.markDirtyStart pageId) .none
        ((pool.setFrame frameId ((pool.frames frameId).withDirty true)).finish .done) slot
  -- `flush_page` and `delete_page`
  | flushFail {pageId error} :
      Effect callId pool slot (.flushStart pageId) .none (pool.fail error) slot
  | flushClean {pageId frameId} (hslot : slot frameId = .resident pageId) :
      Effect callId pool slot (.flushStart pageId) .none
        ((pool.setFrame frameId (pool.frames frameId).setResident).finish .done) slot
  | flushTake {pageId frameId} (hslot : slot frameId = .resident pageId)
      (hdirty : (pool.frames frameId).isDirty = true) :
      Effect callId pool slot (.flushStart pageId) .none
        ⟨pool.reserveFrame frameId, .flushCheck pageId frameId .flushPage, .none⟩
        (Function.update slot frameId (.flushing callId pageId))
  | deleteFail {pageId error} :
      Effect callId pool slot (.deleteStart pageId) .none (pool.fail error) slot
  | deleteClean {pageId frameId} (hslot : slot frameId = .resident pageId)
      (hpins : (pool.frames frameId).pins = 0) (hclean : (pool.frames frameId).isDirty = false) :
      Effect callId pool slot (.deleteStart pageId) .none
        ((pool.reserveFrame frameId).dropPage pageId frameId)
        (Function.update slot frameId .free)
  | deleteTake {pageId frameId} (hslot : slot frameId = .resident pageId)
      (hpins : (pool.frames frameId).pins = 0) (hdirty : (pool.frames frameId).isDirty = true) :
      Effect callId pool slot (.deleteStart pageId) .none
        ⟨pool.reserveFrame frameId, .flushCheck pageId frameId .deletePage, .none⟩
        (Function.update slot frameId (.deleting callId pageId))
  | checkDirty {pageId frameId caller} (hdirty : (pool.frames frameId).isDirty = true) :
      Effect callId pool slot (.flushCheck pageId frameId caller) .none
        ⟨pool, .flushWrite pageId frameId pageId (pool.frames frameId).data caller, .none⟩ slot
  | checkClean {pageId frameId caller} (hclean : (pool.frames frameId).isDirty = false) :
      Effect callId pool slot (.flushCheck pageId frameId caller) .none
        (pool.flushReturn pageId frameId caller (.ok ())) slot
  | flushWrite {pageId frameId dirtyPageId data caller outcome} :
      Effect callId pool slot (.flushWrite pageId frameId dirtyPageId data caller) (.write outcome)
        (pool.writeThen dirtyPageId data outcome fun written =>
          .flushFinish pageId frameId written caller) slot
  | flushDone {pageId frameId caller} :
      Effect callId pool slot (.flushFinish pageId frameId (.ok ()) caller) .none
        ((pool.setFrame frameId ((pool.frames frameId).withDirty false)).flushReturn pageId frameId
          caller (.ok ())) slot
  | flushUndo {pageId frameId caller error} :
      Effect callId pool slot (.flushFinish pageId frameId (.error error) caller) .none
        ((pool.setFrame frameId (pool.frames frameId).setResident).flushReturn pageId frameId caller
          (.error (.diskError error)))
        (Function.update slot frameId (.resident pageId))
  | flushRelease {pageId frameId} :
      Effect callId pool slot (.flushRelease pageId frameId) .none
        (pool.releaseFrame frameId .done) (Function.update slot frameId (.resident pageId))
  | deleteUndo {pageId frameId error} :
      Effect callId pool slot (.deleteRollback pageId frameId error) .none
        (pool.releaseFrame frameId (.failed error)) slot
  | deleteDone {pageId frameId} :
      Effect callId pool slot (.deleteFinish pageId frameId) .none
        (pool.dropPage pageId frameId) (Function.update slot frameId .free)
  -- `new_page`
  | newFail {error} : Effect callId pool slot .newStart .none (pool.fail error) slot
  | newGiveUp {clock frames}
      (hframes : ∀ frameId, Frame.SameButReference (pool.frames frameId) (frames frameId)) :
      Effect callId pool slot .newStart .none
        ((pool.swept clock frames).fail .noEvictableFrame) slot
  | newTake {frameId rest} (hnext : pool.nextPageId < 65535)
      (hfree : pool.freeFrames = frameId :: rest) :
      Effect callId pool slot .newStart .none
        ((((pool.withFree rest).setFrame frameId (.fresh pool.nextPageId)).withTable
          (pool.pageTable.insert pool.nextPageId frameId)).withNext (pool.nextPageId + 1) |>.finish
            (.allocated pool.nextPageId frameId))
        (Function.update slot frameId (.resident pool.nextPageId))
  | newVictim {clock frames victim oldPageId} (hnext : pool.nextPageId < 65535)
      (hfree : pool.freeFrames = [])
      (hfind : pool.clockReplacer.findVictim pool.frames = .ok (some victim, clock, frames))
      (hframes : ∀ frameId, Frame.SameButReference (pool.frames frameId) (frames frameId))
      (hslot : slot victim = .resident oldPageId) (hpins : (pool.frames victim).pins = 0) :
      Effect callId pool slot .newStart .none
        ⟨(pool.swept clock frames).reserveFrame victim,
          if (frames victim).isDirty then
            .newWrite pool.nextPageId victim oldPageId (frames victim).data
          else .newCommit pool.nextPageId victim oldPageId, .none⟩
        (Function.update slot victim (.allocating callId oldPageId pool.nextPageId))
  | newWriteOk {newPageId victim oldPageId oldData} :
      Effect callId pool slot (.newWrite newPageId victim oldPageId oldData) (.write .ok)
        (pool.writeThen oldPageId oldData .ok fun _ => .newCommit newPageId victim oldPageId) slot
  | newWriteFail {newPageId victim oldPageId oldData error left} :
      Effect callId pool slot (.newWrite newPageId victim oldPageId oldData)
        (.write (.fail error left))
        (pool.writeThen oldPageId oldData (.fail error left) fun _ =>
          .newRollback newPageId victim oldPageId error) slot
  | newUndo {newPageId victim oldPageId error} :
      Effect callId pool slot (.newRollback newPageId victim oldPageId error) .none
        (pool.releaseFrame victim (.failed (.diskError error)))
        (Function.update slot victim (.resident oldPageId))
  | newCommit {newPageId victim oldPageId} (htable : pool.pageTable newPageId = none) :
      Effect callId pool slot (.newCommit newPageId victim oldPageId) .none
        ((((pool.setFrame victim (.fresh newPageId)).withTable
          ((pool.pageTable.removePage oldPageId).insert newPageId victim)).withNext
            (newPageId + 1)).finish (.allocated newPageId victim))
        (Function.update slot victim (.resident newPageId))
  | newCollide {newPageId victim oldPageId error} (htable : pool.pageTable newPageId ≠ none) :
      Effect callId pool slot (.newCommit newPageId victim oldPageId) .none
        ((pool.setFrame victim (.fresh newPageId)).fail (.pageTableError error))
        (Function.update slot victim (.resident newPageId))

/-! ## Sections on consistent pools -/

namespace BufferPoolManager

/-- Setting a frame changes this frame only. -/
theorem frames_setFrame (pool : BufferPoolManager n) (frameId : Fin n) (frame : Frame) :
    (pool.setFrame frameId frame).frames = Function.update pool.frames frameId frame := rfl

@[simp] theorem frames_recordMissOnce (pool : BufferPoolManager n) (missRecorded : Bool) :
    (pool.recordMissOnce missRecorded).frames = pool.frames := by
  unfold recordMissOnce
  split <;> rfl

@[simp] theorem freeFrames_recordMissOnce (pool : BufferPoolManager n) (missRecorded : Bool) :
    (pool.recordMissOnce missRecorded).freeFrames = pool.freeFrames := by
  unfold recordMissOnce
  split <;> rfl

@[simp] theorem inFlightLoads_recordMissOnce (pool : BufferPoolManager n) (missRecorded : Bool) :
    (pool.recordMissOnce missRecorded).inFlightLoads = pool.inFlightLoads := by
  unfold recordMissOnce
  split <;> rfl

@[simp] theorem pageTable_recordMissOnce (pool : BufferPoolManager n) (missRecorded : Bool) :
    (pool.recordMissOnce missRecorded).pageTable = pool.pageTable := by
  unfold recordMissOnce
  split <;> rfl

@[simp] theorem diskManager_recordMissOnce (pool : BufferPoolManager n) (missRecorded : Bool) :
    (pool.recordMissOnce missRecorded).diskManager = pool.diskManager := by
  unfold recordMissOnce
  split <;> rfl

/-- Reserving a frame that holds a page. -/
theorem reserveVictim_eq {pool : BufferPoolManager n} {victim : Fin n} {oldPageId : PageId}
    (hreserved : (pool.frames victim).isReserved = false)
    (hheld : (pool.frames victim).heldPage = some oldPageId)
    (whenDirty : PageId → Buffer pageSize → Pc n) (whenClean : PageId → Pc n) :
    pool.reserveVictim victim whenDirty whenClean =
      ⟨pool.reserveFrame victim,
        if (pool.frames victim).isDirty then whenDirty oldPageId (pool.frames victim).data
        else whenClean oldPageId, .none⟩ := by
  have hpage : ({ pool.frames victim with state := .reserved } : Frame).getPageId = .ok oldPageId :=
    Frame.getPageId_eq_ok hheld
  unfold reserveVictim
  rw [Frame.reserve_eq_ok hreserved]
  simp only [hpage]
  by_cases hdirty : (pool.frames victim).isDirty = true
  · rw [if_pos hdirty]
    exact if_pos hdirty
  · rw [if_neg hdirty]
    exact if_neg hdirty

/-- An empty page is loaded into any frame. -/
theorem loadNew_eq_ok (frame : Frame) (newPageId : PageId) :
    loadNew frame newPageId = .ok (.fresh newPageId) := by
  unfold loadNew
  rw [Frame.loadPage_bytes]
  rfl

/-- A page read into a buffer is loaded into any frame. -/
theorem fetchLoad_eq (pool : BufferPoolManager n) (pageId : PageId) (frameId : Fin n)
    (buffer : Buffer pageSize) :
    pool.fetchLoad pageId frameId buffer =
      ⟨pool.setFrame frameId (.loaded pageId buffer), .fetchPublish pageId frameId, .none⟩ := by
  unfold fetchLoad
  rw [Frame.loadPage_bytes]
  rfl

/-- Behind the load, only the page table can refuse the new page. -/
theorem evictCommit_eq (pool : BufferPoolManager n) (pageId : PageId) (victim : Fin n)
    (oldPageId : PageId) (buffer : Buffer pageSize) :
    pool.evictCommit pageId victim oldPageId buffer =
      match pool.pageTable.replace oldPageId pageId victim with
      | .error e => (pool.setFrame victim (.loaded pageId buffer)).fail (.pageTableError e)
      | .ok table =>
        (((pool.setFrame victim (.loaded pageId buffer)).withTable table).recordEviction).endLoad
          pageId (.ok victim) := by
  unfold evictCommit
  rw [Frame.loadPage_bytes]
  rfl

/-- Without free frames, `new_page` reserves the victim of CLOCK. -/
theorem newPage_eq_evict {pool : BufferPoolManager n} (hlt : pool.nextPageId < 65535)
    (hfree : pool.freeFrames = []) {clock : ClockReplacer n} {frames : Fin n → Frame}
    {victim : Fin n}
    (hfind : pool.clockReplacer.findVictim pool.frames = .ok (some victim, clock, frames))
    (hreserved : (frames victim).isReserved = false) {oldPageId : PageId}
    (hheld : (frames victim).heldPage = some oldPageId) :
    pool.newPage = ⟨(pool.swept clock frames).reserveFrame victim,
      if (frames victim).isDirty then .newWrite pool.nextPageId victim oldPageId (frames victim).data
      else .newCommit pool.nextPageId victim oldPageId, .none⟩ := by
  have hreserve : (pool.swept clock frames).reserveVictim victim (.newWrite pool.nextPageId victim)
      (.newCommit pool.nextPageId victim) = ⟨(pool.swept clock frames).reserveFrame victim,
        if (frames victim).isDirty then
          .newWrite pool.nextPageId victim oldPageId (frames victim).data
        else .newCommit pool.nextPageId victim oldPageId, .none⟩ :=
    reserveVictim_eq hreserved hheld _ _
  rw [← hreserve, swept]
  unfold newPage
  simp only [UInt16.not_le.mpr hlt, if_false, hfree, hfind]

/-- The commit of `new_page` puts the new page into the frame before it asks the page table. -/
theorem newCommit_eq (pool : BufferPoolManager n) (newPageId : PageId) (victim : Fin n)
    (oldPageId : PageId) :
    pool.newCommit newPageId victim oldPageId =
      match pool.pageTable.replace oldPageId newPageId victim with
      | .error e => (pool.setFrame victim (.fresh newPageId)).fail (.pageTableError e)
      | .ok table =>
        (((pool.setFrame victim (.fresh newPageId)).withTable table).withNext (newPageId + 1)).finish
          (.allocated newPageId victim) := by
  unfold newCommit
  rw [loadNew_eq_ok]
  rfl

end BufferPoolManager

namespace Consistent

variable {pool : BufferPoolManager n} {pcs : CallId → Option (Pc n)} {slot : Fin n → Slot}
  {callId : CallId} {pageId : PageId} {frameId : Fin n}

/-- A mapped frame holds its page. -/
theorem heldPage_of_located (h : Consistent pool pcs slot)
    (hlocated : (slot frameId).located = some pageId) :
    (pool.frames frameId).heldPage = some pageId := by
  rw [(h.frame frameId).held_eq, ← hlocated]
  cases hcase : slot frameId <;> rw [hcase] at hlocated <;> first
    | rfl
    | cases hlocated

/-- A frame with the slot of a resident page holds it. -/
theorem heldPage_of_slot (h : Consistent pool pcs slot) (hslot : slot frameId = .resident pageId) :
    (pool.frames frameId).heldPage = some pageId :=
  h.heldPage_of_located (by rw [hslot, Slot.located])

/-- A mapped frame that is not reserved is a resident one. -/
theorem resident_of_table (h : Consistent pool pcs slot)
    (htable : pool.pageTable pageId = some frameId)
    (hreserved : (pool.frames frameId).isReserved = false) : slot frameId = .resident pageId := by
  apply Slot.eq_resident ((h.layout.table_iff pageId frameId).mp htable)
  rw [Ne, ← (h.frame frameId).isReserved_iff, hreserved]
  exact Bool.false_ne_true

/-- The page of a mapped frame is in the table. -/
theorem table_of_located (h : Consistent pool pcs slot)
    (hlocated : (slot frameId).located = some pageId) : pool.pageTable pageId = some frameId :=
  (h.layout.table_iff pageId frameId).mpr hlocated

/-- The page table maps a resident page to its frame. -/
theorem table_of_slot (h : Consistent pool pcs slot) (hslot : slot frameId = .resident pageId) :
    pool.pageTable pageId = some frameId :=
  h.table_of_located (by rw [hslot, Slot.located])

/-- The frame of a resident page is not reserved. -/
theorem isReserved_of_slot (h : Consistent pool pcs slot) (hslot : slot frameId = .resident pageId) :
    (pool.frames frameId).isReserved = false := by
  rw [Bool.eq_false_iff, Ne, (h.frame frameId).isReserved_iff, hslot]
  exact nofun

/-- Without free frames, a victim holds a page. -/
theorem exists_resident_victim (h : Consistent pool pcs slot) (hfree : pool.freeFrames = [])
    {victim : Option (Fin n)} {frames : Fin n → Frame}
    (hspec : ClockReplacer.VictimSpec pool.frames victim frames) {found : Fin n}
    (hfound : victim = some found) :
    ∃ oldPageId, slot found = .resident oldPageId ∧ (pool.frames found).pins = 0 := by
  rcases hspec.victim_spec found hfound with ⟨hpinned, hreserved⟩
  have hpins := Frame.isPinned_eq_false_iff.mp hpinned
  have hne : slot found ≠ .free := by
    rw [Ne, ← h.layout.mem_free, hfree]
    exact List.not_mem_nil
  rcases (h.frame found).exists_resident hne hreserved hpins with ⟨oldPageId, hslot⟩
  exact ⟨oldPageId, hslot, hpins⟩

/-! ### The sections of `fetch_page` -/

/-- A fetch without a free frame reserves a victim, waits or fails. -/
theorem fetchEvict_effect (h : Consistent pool pcs slot) {missRecorded : Bool}
    (htable : pool.pageTable pageId = none) (hload : pool.inFlightLoads pageId = none)
    (hfree : pool.freeFrames = []) :
    ∃ slot', Effect callId pool slot (.fetchStart pageId missRecorded) .none
      (((pool.recordMissOnce missRecorded).insertLoad pageId callId).fetchEvict pageId) slot' := by
  rcases ClockReplacer.findVictim_spec
      ((pool.recordMissOnce missRecorded).insertLoad pageId callId).clockReplacer
      ((pool.recordMissOnce missRecorded).insertLoad pageId callId).frames with
    ⟨victim, clock, frames, hfind, hspec⟩
  have hframes : ((pool.recordMissOnce missRecorded).insertLoad pageId callId).frames =
      pool.frames := frames_recordMissOnce pool missRecorded
  rw [hframes] at hspec
  unfold fetchEvict
  rw [hfind]
  cases hvictim : victim with
  | none =>
      simp only
      split_ifs
      · exact ⟨_, .fetchSleep htable hload hspec.sameButReference⟩
      · exact ⟨_, .fetchGiveUp htable hload hspec.sameButReference⟩
  | some found =>
      rcases h.exists_resident_victim hfree hspec hvictim with ⟨oldPageId, hslot, hpins⟩
      have hsame := hspec.sameButReference found
      simp only
      rw [reserveVictim_eq (hsame.isReserved_eq.trans (h.isReserved_of_slot hslot))
        (hsame.heldPage_eq.trans (h.heldPage_of_slot hslot))]
      exact ⟨_, .fetchVictim htable hload hspec.sameButReference hslot hpins⟩

/-- A fetch that misses waits for the load of its page or becomes its loader. -/
theorem fetchMiss_effect (h : Consistent pool pcs slot) {missRecorded : Bool}
    (htable : pool.pageTable pageId = none) :
    ∃ slot', Effect callId pool slot (.fetchStart pageId missRecorded) .none
      ((pool.recordMissOnce missRecorded).fetchMiss callId pageId) slot' := by
  unfold fetchMiss
  rw [inFlightLoads_recordMissOnce]
  cases hload : pool.inFlightLoads pageId with
  | some waiter => exact ⟨_, .fetchJoin htable hload⟩
  | none =>
      have hfrees : ((pool.recordMissOnce missRecorded).insertLoad pageId callId).freeFrames =
          pool.freeFrames := freeFrames_recordMissOnce pool missRecorded
      simp only [hfrees]
      cases hfree : pool.freeFrames with
      | nil => exact h.fetchEvict_effect htable hload hfree
      | cons frameId rest =>
          have hslot : slot frameId = .free := (h.layout.mem_free frameId).mp (by simp [hfree])
          have hreserved : (((pool.recordMissOnce missRecorded).insertLoad pageId callId).frames
              frameId).isReserved = false := by
            change ((pool.recordMissOnce missRecorded).frames frameId).isReserved = false
            rw [frames_recordMissOnce, Bool.eq_false_iff, Ne, (h.frame frameId).isReserved_iff, hslot]
            exact nofun
          simp only [Frame.reserve_eq_ok hreserved]
          exact ⟨_, .fetchTake htable hload hfree⟩

/-- The decision of a fetch is one of a hit, a wait and a miss. -/
theorem fetchDecide_effect (h : Consistent pool pcs slot) (missRecorded : Bool) :
    ∃ slot', Effect callId pool slot (.fetchStart pageId missRecorded) .none
      (pool.fetchDecide callId pageId missRecorded) slot' := by
  unfold fetchDecide
  cases htable : pool.pageTable pageId with
  | none => exact h.fetchMiss_effect htable
  | some frameId =>
      unfold fetchHit
      by_cases hreserved : (pool.frames frameId).isReserved = true
      · simp only [hreserved, if_true]
        exact ⟨_, .fetchWait htable ((h.frame frameId).isReserved_iff.mp hreserved)⟩
      · have hslot := h.resident_of_table htable (Bool.eq_false_iff.mpr hreserved)
        rcases Frame.pin_eq_ok (Frame.metadata_ne_none (h.heldPage_of_slot hslot)) with
          ⟨pinned, hpin, hmark⟩
        have hpin' : (pool.recordHit.frames frameId).pin = .ok pinned := hpin
        simp only [hreserved, hpin', hmark]
        exact ⟨_, .fetchHit hslot⟩

/-- Loading the page leaves it in the reserved frame, not published yet. -/
theorem fetchLoad_effect {buffer : Library.Buffer pageSize} :
    Effect callId pool slot (.fetchLoad pageId frameId buffer) .none
      (pool.fetchLoad pageId frameId buffer)
      (Function.update slot frameId (.loaded callId pageId)) := by
  rw [fetchLoad_eq]
  exact .load

/-- The commit of an eviction puts the new page in place of the old one. -/
theorem evictCommit_effect (h : Consistent pool pcs slot) {oldPageId : PageId}
    {buffer : Library.Buffer pageSize} (hslot : slot frameId = .evicting callId oldPageId pageId) :
    Effect callId pool slot (.evictCommit pageId frameId oldPageId buffer) .none
      (pool.evictCommit pageId frameId oldPageId buffer)
      (Function.update slot frameId (.resident pageId)) := by
  have hold : pool.pageTable oldPageId = some frameId :=
    h.table_of_located (by rw [hslot, Slot.located])
  have hnew : pool.pageTable pageId = none :=
    (h.layout.incoming frameId callId pageId (by rw [hslot, Slot.incoming])).2
  rw [evictCommit_eq, PageTable.replace_eq_ok hold hnew]
  exact .commit

/-! ### The sections of the other calls -/

/-- A change of a resident frame that is not reserved keeps its slot, or fails. -/
theorem changeResident_effect (h : Consistent pool pcs slot) {pc : Pc n}
    {change : Frame → Except IoError Frame}
    (hfail : ∀ error, Effect callId pool slot pc .none (pool.fail error) slot)
    (hdone : ∀ frameId frame, slot frameId = .resident pageId →
      change (pool.frames frameId) = .ok frame →
      Effect callId pool slot pc .none ((pool.setFrame frameId frame).finish .done) slot) :
    ∃ slot', Effect callId pool slot pc .none (pool.changeResident pageId change) slot' := by
  unfold changeResident
  cases htable : pool.pageTable pageId with
  | none => exact ⟨_, hfail _⟩
  | some frameId =>
      by_cases hreserved : (pool.frames frameId).isReserved = true
      · simp only [hreserved, if_true]
        exact ⟨_, hfail _⟩
      · have hslot := h.resident_of_table htable (Bool.eq_false_iff.mpr hreserved)
        simp only [hreserved]
        cases hchange : change (pool.frames frameId) with
        | error e => exact ⟨_, hfail _⟩
        | ok frame => exact ⟨_, hdone frameId frame hslot hchange⟩

/-- An unpin changes the pins of its page only. -/
theorem unpinPage_effect (h : Consistent pool pcs slot) :
    ∃ slot', Effect callId pool slot (.unpinStart pageId) .none (pool.unpinPage pageId) slot' := by
  apply h.changeResident_effect (fun _ => .unpinFail)
  intro frameId frame hslot hunpin
  by_cases hpins : 0 < (pool.frames frameId).pins
  · rw [Frame.unpin_eq_ok hpins, Except.ok.injEq] at hunpin
    subst hunpin
    exact .unpin hslot hpins
  · rcases Frame.unpin_eq_error (Nat.eq_zero_of_not_pos hpins) with ⟨e, he⟩
    rw [he] at hunpin
    cases hunpin

/-- Marking a page dirty changes its dirty flag only. -/
theorem markDirtyPage_effect (h : Consistent pool pcs slot) :
    ∃ slot', Effect callId pool slot (.markDirtyStart pageId) .none (pool.markDirtyPage pageId)
      slot' := by
  apply h.changeResident_effect (fun _ => .markDirtyFail)
  intro frameId frame hslot hmark
  rw [Frame.markDirty, Frame.updateMeta_of_ne_none
    (Frame.metadata_ne_none (h.heldPage_of_slot hslot)), Except.ok.injEq] at hmark
  subst hmark
  exact .markDirty hslot

/-- A flush reserves the frame of its page, or fails. -/
theorem flushPage_effect (h : Consistent pool pcs slot) :
    ∃ slot', Effect callId pool slot (.flushStart pageId) .none (pool.flushPage pageId) slot' := by
  unfold flushPage
  cases htable : pool.pageTable pageId with
  | none => exact ⟨_, .flushFail⟩
  | some frameId =>
      by_cases hreserved : (pool.frames frameId).isReserved = true
      · simp only [hreserved, if_true]
        exact ⟨_, .flushFail⟩
      · have hreserved := Bool.eq_false_iff.mpr hreserved
        have hslot := h.resident_of_table htable hreserved
        simp only [hreserved, Frame.reserve_eq_ok hreserved]
        by_cases hdirty : (pool.frames frameId).isDirty = true
        · refine ⟨Function.update slot frameId (.flushing callId pageId), ?_⟩
          rw [if_neg Bool.false_ne_true, if_pos (by exact hdirty)]
          exact .flushTake hslot hdirty
        · refine ⟨slot, ?_⟩
          rw [if_neg Bool.false_ne_true, if_neg (by exact hdirty)]
          exact .flushClean hslot

/-- A deletion reserves the frame of its page when it is unpinned, or fails. -/
theorem deletePage_effect (h : Consistent pool pcs slot) :
    ∃ slot', Effect callId pool slot (.deleteStart pageId) .none (pool.deletePage pageId) slot' := by
  unfold deletePage
  cases htable : pool.pageTable pageId with
  | none => exact ⟨_, .deleteFail⟩
  | some frameId =>
      by_cases hpinned : (pool.frames frameId).isPinned = true
      · simp only [hpinned, Bool.not_true, Bool.false_and]
        exact ⟨_, .deleteFail⟩
      by_cases hreserved : (pool.frames frameId).isReserved = true
      · simp only [hreserved, Bool.not_true, Bool.and_false]
        exact ⟨_, .deleteFail⟩
      have hpinned := Bool.eq_false_iff.mpr hpinned
      have hreserved := Bool.eq_false_iff.mpr hreserved
      have hpins := Frame.isPinned_eq_false_iff.mp hpinned
      have hslot := h.resident_of_table htable hreserved
      simp only [hpinned, hreserved, Bool.not_false, Bool.and_self, if_true,
        Frame.reserve_eq_ok hreserved]
      by_cases hdirty : (pool.frames frameId).isDirty = true
      · refine ⟨Function.update slot frameId (.deleting callId pageId), ?_⟩
        rw [if_pos (by exact hdirty)]
        exact .deleteTake hslot hpins hdirty
      · refine ⟨Function.update slot frameId .free, ?_⟩
        rw [if_neg (by exact hdirty)]
        exact .deleteClean hslot hpins (Bool.eq_false_iff.mpr hdirty)

/-- A clean frame needs no write; a dirty one is copied. -/
theorem flushCheck_effect (h : Consistent pool pcs slot) {caller : FlushCaller}
    (hslot : slot frameId = Pc.owned.flushSlot callId pageId caller) :
    ∃ slot', Effect callId pool slot (.flushCheck pageId frameId caller) .none
      (pool.flushCheck pageId frameId caller) slot' := by
  have hreserved : (pool.frames frameId).isReserved = true := by
    rw [(h.frame frameId).isReserved_iff, hslot]
    cases caller <;> rfl
  have hlocated : (slot frameId).located = some pageId := by
    rw [hslot]
    cases caller <;> rfl
  unfold flushCheck
  simp only [hreserved, Bool.not_true]
  by_cases hdirty : (pool.frames frameId).isDirty = true
  · simp only [hdirty, if_true, Frame.getPageId_eq_ok (h.heldPage_of_located hlocated)]
    exact ⟨_, .checkDirty hdirty⟩
  · simp only [hdirty]
    exact ⟨_, .checkClean (Bool.eq_false_iff.mpr hdirty)⟩

/-- After a successful write the frame is marked clean, after a failed one it is `Resident`. -/
theorem flushFinish_effect (h : Consistent pool pcs slot) {caller : FlushCaller}
    {written : Except IoError Unit}
    (hslot : slot frameId = Pc.owned.flushSlot callId pageId caller) :
    ∃ slot', Effect callId pool slot (.flushFinish pageId frameId written caller) .none
      (pool.flushFinish pageId frameId written caller) slot' := by
  have hlocated : (slot frameId).located = some pageId := by
    rw [hslot]
    cases caller <;> rfl
  unfold flushFinish
  cases written with
  | error e => exact ⟨_, .flushUndo⟩
  | ok _ =>
      simp only [Frame.clearDirty, Frame.updateMeta_of_ne_none
        (Frame.metadata_ne_none (h.heldPage_of_located hlocated))]
      exact ⟨_, .flushDone⟩

/-! ### The sections of `new_page` -/

/-- With a free frame, `new_page` takes it at once. -/
theorem newPage_eq_take (pool : BufferPoolManager n) (hlt : pool.nextPageId < 65535)
    {rest : List (Fin n)} (hfree : pool.freeFrames = frameId :: rest) :
    pool.newPage = ((((pool.withFree rest).setFrame frameId (.fresh pool.nextPageId)).withTable
      (pool.pageTable.insert pool.nextPageId frameId)).withNext (pool.nextPageId + 1) |>.finish
        (.allocated pool.nextPageId frameId)) := by
  unfold newPage
  simp only [UInt16.not_le.mpr hlt, if_false, hfree, loadNew_eq_ok]
  rfl

/-- Without one, it writes the victim back or commits. -/
theorem newPage_eq_victim (h : Consistent pool pcs slot) (hlt : pool.nextPageId < 65535)
    (hfree : pool.freeFrames = []) {clock : ClockReplacer n} {frames : Fin n → Frame}
    {victim : Fin n}
    (hfind : pool.clockReplacer.findVictim pool.frames = .ok (some victim, clock, frames))
    (hsame : Frame.SameButReference (pool.frames victim) (frames victim)) {oldPageId : PageId}
    (hslot : slot victim = .resident oldPageId) :
    pool.newPage = ⟨(pool.swept clock frames).reserveFrame victim,
      if (frames victim).isDirty then .newWrite pool.nextPageId victim oldPageId (frames victim).data
      else .newCommit pool.nextPageId victim oldPageId, .none⟩ :=
  newPage_eq_evict hlt hfree hfind (hsame.isReserved_eq.trans (h.isReserved_of_slot hslot))
    (hsame.heldPage_eq.trans (h.heldPage_of_slot hslot))

/-- The decision of `new_page` takes a frame, reserves a victim or fails. -/
theorem newPage_effect (h : Consistent pool pcs slot) :
    ∃ slot', Effect callId pool slot .newStart .none pool.newPage slot' := by
  by_cases hnext : pool.nextPageId ≥ 65535
  · unfold newPage
    simp only [hnext, if_true]
    exact ⟨_, .newFail⟩
  have hlt : pool.nextPageId < 65535 := UInt16.not_le.mp hnext
  cases hfree : pool.freeFrames with
  | cons frameId rest =>
      rw [newPage_eq_take pool hlt hfree]
      exact ⟨_, .newTake hlt hfree⟩
  | nil =>
      rcases ClockReplacer.findVictim_spec pool.clockReplacer pool.frames with
        ⟨victim, clock, frames, hfind, hspec⟩
      cases hvictim : victim with
      | none =>
          unfold newPage
          rw [hvictim] at hfind
          simp only [hnext, if_false, hfree, hfind]
          simp only [← hfree]
          exact ⟨_, .newGiveUp hspec.sameButReference⟩
      | some found =>
          rcases h.exists_resident_victim hfree hspec hvictim with ⟨oldPageId, hslot, hpins⟩
          rw [hvictim] at hfind
          rw [h.newPage_eq_victim hlt hfree hfind (hspec.sameButReference found) hslot]
          exact ⟨_, .newVictim hlt hfree hfind hspec.sameButReference hslot hpins⟩

/-- When the new id is in the table already, the commit fails with the new page in the frame.
-/
theorem newCommit_eq_collide {newPageId oldPageId : PageId}
    (hnew : pool.pageTable newPageId ≠ none) :
    ∃ error, pool.newCommit newPageId frameId oldPageId =
      (pool.setFrame frameId (.fresh newPageId)).fail (.pageTableError error) := by
  rw [newCommit_eq]
  cases hreplace : pool.pageTable.replace oldPageId newPageId frameId with
  | ok table => exact absurd (PageTable.replace_eq_ok_iff.mp hreplace).2.1 hnew
  | error e => exact ⟨e, rfl⟩

/-- The commit of `new_page` ends the reservation, one way or the other. -/
theorem newCommit_effect (h : Consistent pool pcs slot) {newPageId oldPageId : PageId}
    (hslot : slot frameId = .allocating callId oldPageId newPageId) :
    ∃ slot', Effect callId pool slot (.newCommit newPageId frameId oldPageId) .none
      (pool.newCommit newPageId frameId oldPageId) slot' := by
  have hold : pool.pageTable oldPageId = some frameId :=
    h.table_of_located (by rw [hslot, Slot.located])
  refine ⟨Function.update slot frameId (.resident newPageId), ?_⟩
  by_cases hnew : pool.pageTable newPageId = none
  · rw [newCommit_eq, PageTable.replace_eq_ok hold hnew]
    exact .newCommit hnew
  · rcases newCommit_eq_collide hnew with ⟨error, hcollide⟩
    rw [hcollide]
    exact .newCollide hnew

/-! ### All sections -/

/-- In a consistent pool every section has one of the listed effects. -/
theorem advance_effect (h : Consistent pool pcs slot) {pc : Pc n} {io : Io} {next : Next n}
    (hpc : pcs callId = some pc) (hadvance : pool.advance callId pc io = some next) :
    ∃ slot', Effect callId pool slot pc io next slot' := by
  cases pc with
  | fetchStart pageId missRecorded =>
      cases io <;> cases hadvance
      exact h.fetchDecide_effect missRecorded
  | fetchWaitState pageId missRecorded notified =>
      cases io <;> cases hadvance
      exact ⟨_, .wakeState⟩
  | fetchCheckLoad pageId waiter =>
      cases io <;> simp only [advance, reduceCtorEq] at hadvance
      split_ifs at hadvance <;> cases hadvance
      · exact ⟨_, .checkAgain⟩
      · exact ⟨_, .checkDone⟩
  | fetchWaitLoad pageId waiter notified =>
      cases io <;> cases hadvance
      exact ⟨_, .wakeLoad⟩
  | fetchRead pageId frameId =>
      rcases io with _ | outcome | outcome | _ <;> cases hadvance
      cases outcome with
      | ok sizes =>
          rw [readThen, DiskManager.readPage_ok]
          exact ⟨_, .readOk⟩
      | fail error => exact ⟨_, .readFail⟩
  | fetchLoad pageId frameId buffer =>
      cases io <;> cases hadvance
      exact ⟨_, fetchLoad_effect⟩
  | fetchPublish pageId frameId =>
      cases io <;> cases hadvance
      exact ⟨_, .publish⟩
  | fetchReadFailed pageId frameId error =>
      cases io <;> cases hadvance
      exact ⟨_, .giveBack⟩
  | evictWrite pageId victim oldPageId oldData =>
      rcases io with _ | outcome | outcome | _ <;> cases hadvance
      cases outcome with
      | ok => exact ⟨_, .evictWriteOk⟩
      | fail error left => exact ⟨_, .evictWriteFail⟩
  | evictRead pageId victim oldPageId =>
      rcases io with _ | outcome | outcome | _ <;> cases hadvance
      cases outcome with
      | ok sizes =>
          rw [readThen, DiskManager.readPage_ok]
          exact ⟨_, .evictReadOk⟩
      | fail error => exact ⟨_, .evictReadFail⟩
  | evictCommit pageId victim oldPageId buffer =>
      cases io <;> cases hadvance
      exact ⟨_, h.evictCommit_effect (h.owned _ _ _ _ hpc rfl)⟩
  | evictFailed pageId victim oldPageId error =>
      cases io <;> cases hadvance
      exact ⟨_, .restore⟩
  | fetchNotify waiter result =>
      cases io <;> cases hadvance
      exact ⟨_, .notify⟩
  | unpinStart pageId =>
      cases io <;> cases hadvance
      exact h.unpinPage_effect
  | markDirtyStart pageId =>
      cases io <;> cases hadvance
      exact h.markDirtyPage_effect
  | flushStart pageId =>
      cases io <;> cases hadvance
      exact h.flushPage_effect
  | deleteStart pageId =>
      cases io <;> cases hadvance
      exact h.deletePage_effect
  | flushCheck pageId frameId caller =>
      cases io <;> cases hadvance
      exact h.flushCheck_effect (h.owned _ _ _ _ hpc rfl)
  | flushWrite pageId frameId dirtyPageId bufferData caller =>
      cases io <;> cases hadvance
      exact ⟨_, .flushWrite⟩
  | flushFinish pageId frameId written caller =>
      cases io <;> cases hadvance
      exact h.flushFinish_effect (h.owned _ _ _ _ hpc rfl)
  | flushRelease pageId frameId =>
      cases io <;> cases hadvance
      exact ⟨_, .flushRelease⟩
  | deleteRollback pageId frameId error =>
      cases io <;> cases hadvance
      exact ⟨_, .deleteUndo⟩
  | deleteFinish pageId frameId =>
      cases io <;> cases hadvance
      exact ⟨_, .deleteDone⟩
  | newStart =>
      cases io <;> cases hadvance
      exact h.newPage_effect
  | newWrite newPageId victim oldPageId oldData =>
      rcases io with _ | outcome | outcome | _ <;> cases hadvance
      cases outcome with
      | ok => exact ⟨_, .newWriteOk⟩
      | fail error left => exact ⟨_, .newWriteFail⟩
  | newRollback newPageId victim oldPageId error =>
      cases io <;> cases hadvance
      exact ⟨_, .newUndo⟩
  | newCommit newPageId victim oldPageId =>
      cases io <;> simp only [advance, Option.some_inj, reduceCtorEq] at hadvance
      rw [← hadvance]
      exact h.newCommit_effect (h.owned _ _ _ _ hpc rfl)
  | returned result => cases io <;> cases hadvance

end Consistent

/-! ## The page of a fetch -/

/-- The page that a `fetch_page` in this section is after. -/
def Pc.fetching : Pc n → Option PageId
  | .fetchStart pageId _ => some pageId
  | .fetchWaitState pageId _ _ => some pageId
  | .fetchCheckLoad pageId _ => some pageId
  | .fetchWaitLoad pageId _ _ => some pageId
  | .fetchRead pageId _ => some pageId
  | .fetchLoad pageId _ _ => some pageId
  | .fetchPublish pageId _ => some pageId
  | .fetchReadFailed pageId _ _ => some pageId
  | .evictWrite pageId _ _ _ => some pageId
  | .evictRead pageId _ _ => some pageId
  | .evictCommit pageId _ _ _ => some pageId
  | .evictFailed pageId _ _ _ => some pageId
  | _ => none

/-- A section of a fetch is followed by sections of the same fetch only. -/
theorem Effect.fetching_of_next {pool : BufferPoolManager n} {slot slot' : Fin n → Slot}
    {callId : CallId} {pc : Pc n} {io : Io} {next : Next n}
    (heffect : Effect callId pool slot pc io next slot') {pageId : PageId}
    (h : next.pc.fetching = some pageId) : pc.fetching = some pageId := by
  cases heffect with
  | fetchVictim =>
      dsimp only at h
      split_ifs at h <;> exact h
  | @checkClean _ _ caller _ => cases caller <;> cases h
  | @flushDone _ _ caller => cases caller <;> cases h
  | @flushUndo _ _ caller _ => cases caller <;> cases h
  | newVictim =>
      dsimp only at h
      split_ifs at h <;> exact h
  | _ => first
    | exact h
    | cases h

/-! ## The call of a section -/

/-- The call that `flush_reserved_frame` is part of. -/
def FlushCaller.call (pageId : PageId) : FlushCaller → Call
  | .flushPage => .flushPage pageId
  | .deletePage => .deletePage pageId

/-- The section belongs to the call. -/
def Pc.BelongsTo (call : Call) : Pc n → Prop
  | .fetchNotify _ _ => ∃ pageId, call = .fetchPage pageId
  | .unpinStart pageId => call = .unpinPage pageId
  | .markDirtyStart pageId => call = .markDirtyPage pageId
  | .flushStart pageId => call = .flushPage pageId
  | .deleteStart pageId => call = .deletePage pageId
  | .flushCheck pageId _ caller => call = caller.call pageId
  | .flushWrite pageId _ _ _ caller => call = caller.call pageId
  | .flushFinish pageId _ _ caller => call = caller.call pageId
  | .flushRelease pageId _ => call = .flushPage pageId
  | .deleteRollback pageId _ _ => call = .deletePage pageId
  | .deleteFinish pageId _ => call = .deletePage pageId
  | .newStart => call = .newPage
  | .newWrite _ _ _ _ => call = .newPage
  | .newRollback _ _ _ _ => call = .newPage
  | .newCommit _ _ _ => call = .newPage
  | .returned _ => True
  | pc => ∀ pageId, pc.fetching = some pageId → call = .fetchPage pageId

/-- The sections of a fetch belong to a `fetch_page` of its page. -/
theorem Pc.BelongsTo.of_fetching {call : Call} {pc : Pc n} (h : pc.BelongsTo call)
    {pageId : PageId} (hfetching : pc.fetching = some pageId) : call = .fetchPage pageId := by
  cases pc <;> first
    | exact h pageId hfetching
    | cases hfetching

/-- A call starts in a section of its own. -/
theorem Call.belongsTo_entry (call : Call) : (call.entry : Pc n).BelongsTo call := by
  cases call <;> first
    | rfl
    | exact fun pageId hpage => congrArg Call.fetchPage (Option.some_inj.mp hpage)

/-- A section is followed by sections of the same call. -/
theorem Effect.belongsTo {pool : BufferPoolManager n} {slot slot' : Fin n → Slot}
    {callId : CallId} {pc : Pc n} {io : Io} {next : Next n}
    (heffect : Effect callId pool slot pc io next slot') {call : Call} (h : pc.BelongsTo call) :
    next.pc.BelongsTo call := by
  cases heffect with
  | fetchVictim =>
      dsimp only
      split_ifs <;> exact h
  | publish => exact ⟨_, h _ rfl⟩
  | giveBack => exact ⟨_, h _ rfl⟩
  | commit => exact ⟨_, h _ rfl⟩
  | restore => exact ⟨_, h _ rfl⟩
  | @checkClean _ _ caller _ => cases caller <;> exact h
  | @flushDone _ _ caller => cases caller <;> exact h
  | @flushUndo _ _ caller _ => cases caller <;> first
    | exact h
    | trivial
  | newVictim =>
      dsimp only
      split_ifs <;> exact h
  | _ => first
    | exact h
    | trivial

end Storage
end TaskPool
