import TaskPool.Storage.BufferPool.Representation
import TaskPool.Storage.BufferPool.Sequential

/-!
# Sections simulate cache operations

Every section of a lone call is a sequence of operations of the represented cache that
no reader notices, except that the section in which `new_page` returns also puts an
empty page.  For this, the local variables of the call have to tell the truth: bytes to
be written back are those of the frame, and bytes read are those of the disk.

Main results:

- Structure `Faithful`: a lone call with true local variables on a coherent cache.
- Theorem `Faithful.simulates`: what a section does to the represented cache.
- Theorem `Faithful.step`: a section keeps the call faithful.
-/

namespace TaskPool
namespace Storage

open BufferPoolManager Library

variable {n : Nat}

/-- The page that a returned call has allocated. -/
def CallResult.allocatedPage : CallResult n → Option PageId
  | .allocated pageId _ => some pageId
  | _ => none

/-- The page that has been allocated when the call has come to this section. -/
def Pc.allocatedPage : Pc n → Option PageId
  | .returned result => result.allocatedPage
  | _ => none

namespace BufferPoolManager

/-- The cache changes without notice, and an allocated page is put on top. -/
def Simulates (pool pool' : BufferPoolManager n) : Option PageId → Prop
  | none => pool'.nextPageId = pool.nextPageId ∧ pool.cache.Silent pool'.cache
  | some pageId => pageId = pool.nextPageId ∧ pageId < 65535 ∧ pool'.nextPageId = pageId + 1 ∧
      ∃ cache, pool.cache.Silent cache ∧ pool'.cache = cache.put pageId (Buffer.zero pageSize)

/-- A fetched frame has the data of the requested page. -/
def Delivers (call : Call) (pool : BufferPoolManager n) (frameId : Fin n) : Prop :=
  ∀ pageId, call = .fetchPage pageId → (pool.frames frameId).data = pool.view pageId

/-- The bytes to be written back are those of a dirty frame. -/
def WritesBack (pool : BufferPoolManager n) (frameId : Fin n) (data : Buffer pageSize) : Prop :=
  data = (pool.frames frameId).data ∧ (pool.frames frameId).isDirty = true

/-- The disk has the bytes of the frame. -/
def WrittenBack (pool : BufferPoolManager n) (frameId : Fin n) (pageId : PageId) : Prop :=
  (pool.frames frameId).data = pool.diskManager.page pageId

/-- The identifier that an allocating call has read. -/
def ReadsNext (call : Call) (pool : BufferPoolManager n) (newPageId : PageId) : Prop :=
  call = .newPage ∧ newPageId = pool.nextPageId ∧ newPageId < 65535

/-- What the local variables of a call have to do with the pool. -/
def Content (call : Call) (pool : BufferPoolManager n) : Pc n → Prop
  | .fetchLoad pageId _ buffer => buffer = pool.diskManager.page pageId
  | .fetchPublish pageId frameId =>
    pool.frames frameId = .loaded pageId (pool.diskManager.page pageId)
  | .evictWrite _ victim _ oldData => pool.WritesBack victim oldData
  | .evictRead _ victim oldPageId => pool.WrittenBack victim oldPageId
  | .evictCommit pageId victim oldPageId buffer =>
    pool.WrittenBack victim oldPageId ∧ buffer = pool.diskManager.page pageId
  | .fetchNotify _ (.ok frameId) => Delivers call pool frameId
  | .flushWrite pageId frameId dirtyPageId data _ =>
    dirtyPageId = pageId ∧ pool.WritesBack frameId data
  | .flushFinish pageId frameId (.ok ()) _ => pool.WrittenBack frameId pageId
  | .deleteFinish _ frameId => (pool.frames frameId).isDirty = false
  | .newStart => call = .newPage
  | .newWrite newPageId victim _ oldData =>
    ReadsNext call pool newPageId ∧ pool.WritesBack victim oldData
  | .newCommit newPageId victim oldPageId =>
    ReadsNext call pool newPageId ∧ pool.WrittenBack victim oldPageId
  | .returned (.fetched frameId) => Delivers call pool frameId
  | .returned (.allocated _ _) => call = .newPage
  | _ => True

/-- Every page in the table was allocated. -/
def Bounded (pool : BufferPoolManager n) : Prop :=
  ∀ pageId, pool.pageTable pageId ≠ none → pageId < pool.nextPageId

end BufferPoolManager

/-- A lone call on a pool whose clean pages are those of the file and whose resident
pages were allocated; a fetch is after the page that the client asked for. -/
structure Faithful (pool : BufferPoolManager n) (callId : CallId) (call : Call) (pc : Pc n)
    (slot : Fin n → Slot) : Prop extends Lone pool callId pc slot where
  coherent : pool.cache.Coherent
  bounded : pool.Bounded
  requested : ∀ pageId, pc.fetching = some pageId →
    call = .fetchPage pageId ∧ pageId < pool.nextPageId
  content : Content call pool pc

namespace Consistent

variable {pool : BufferPoolManager n} {pcs : CallId → Option (Pc n)} {slot : Fin n → Slot}
  {frameId : Fin n} {pageId : PageId}

/-- No other page is in a mapped frame. -/
theorem only_of_located (h : Consistent pool pcs slot)
    (hlocated : (slot frameId).located = some pageId) (page : PageId)
    (htable : pool.pageTable page = some frameId) : page = pageId := by
  rw [h.layout.table_iff, hlocated, Option.some_inj] at htable
  exact htable.symm

/-- No page is in an unmapped frame. -/
theorem not_table_of_located (h : Consistent pool pcs slot)
    (hlocated : (slot frameId).located = none) (page : PageId) :
    pool.pageTable page ≠ some frameId := by
  rw [Ne, h.layout.table_iff, hlocated]
  exact nofun

end Consistent

/-! ## Sections as silent operations -/

namespace BufferPoolManager

variable {pool pool' : BufferPoolManager n} {pageId oldPageId : PageId} {frameId : Fin n}
  {frame : Frame}

/-- A cache that stays the same changes without notice. -/
theorem silent_of_eq (h : pool'.cache = pool.cache) : pool.cache.Silent pool'.cache :=
  Cache.Silent.refl.of_eq h

/-- The search for a victim. -/
theorem cache_swept {clock : ClockReplacer n} {frames : Fin n → Frame}
    (hframes : ∀ frameId, Frame.SameButReference (pool.frames frameId) (frames frameId)) :
    (pool.swept clock frames).cache = pool.cache :=
  cache_congr rfl rfl fun _ frameId _ => ⟨(hframes frameId).data_eq, (hframes frameId).isDirty_eq⟩

/-- Reserving a frame leaves the cache. -/
theorem cache_reserveFrame (pool : BufferPoolManager n) (frameId : Fin n) :
    (pool.reserveFrame frameId).cache = pool.cache :=
  cache_setFrame rfl rfl rfl rfl rfl

/-- The reservation of a victim. -/
theorem cache_victim {clock : ClockReplacer n} {frames : Fin n → Frame}
    (hframes : ∀ frameId, Frame.SameButReference (pool.frames frameId) (frames frameId)) :
    ((pool.swept clock frames).reserveFrame frameId).cache = pool.cache :=
  (cache_reserveFrame _ frameId).trans (cache_swept hframes)

/-- A write of the bytes of a resident dirty page. -/
theorem silent_writeThen (htable : pool.pageTable pageId = some frameId) {data : Buffer pageSize}
    (hdata : pool.WritesBack frameId data) (outcome : WriteOutcome)
    (next : Except IoError Unit → Pc n) :
    pool.cache.Silent (pool.writeThen pageId data outcome next).pool.cache := by
  rw [cache_writeThen]
  apply Cache.Silent.refl.writeStore
  · rw [held_of_table htable]
    exact Option.some_ne_none _
  · rw [dirty_of_table htable]
    exact hdata.2

/-- A successful write puts the bytes of the frame on the disk. -/
theorem WritesBack.writtenBack {data : Buffer pageSize} (h : pool.WritesBack frameId data)
    (pageId : PageId) (next : Except IoError Unit → Pc n) :
    (pool.writeThen pageId data .ok next).pool.WrittenBack frameId pageId := by
  unfold WrittenBack
  have hpage : (pool.writeThen pageId data .ok next).pool.diskManager.page pageId = data :=
    DiskManager.page_writePage_ok ..
  rw [hpage, h.1]
  rfl

/-- The held bytes of a page that is on the disk. -/
theorem WrittenBack.stored (h : pool.WrittenBack frameId pageId)
    (htable : pool.pageTable pageId = some frameId) (value : Buffer pageSize)
    (hvalue : pool.cache.held pageId = some value) : value = pool.cache.store pageId := by
  rw [held_of_table htable, Option.some_inj] at hvalue
  rw [← hvalue, store_cache]
  exact h

end BufferPoolManager

namespace BufferPoolManager.Simulates

variable {pool pool' pool'' : BufferPoolManager n} {allocated : Option PageId}

/-- Sections that allocate nothing may come before one that does. -/
theorem trans (h : Simulates pool pool' none) (h' : Simulates pool' pool'' allocated) :
    Simulates pool pool'' allocated := by
  cases allocated with
  | none => exact ⟨h'.1.trans h.1, h.2.trans h'.2⟩
  | some pageId =>
      rcases h' with ⟨hid, hlt, hnext, cache, hsilent, hput⟩
      exact ⟨hid.trans h.1, hlt, hnext, cache, h.2.trans hsilent, hput⟩

/-- The cache stays coherent. -/
theorem coherent (h : Simulates pool pool' allocated) (hcache : pool.cache.Coherent) :
    pool'.cache.Coherent := by
  cases allocated with
  | none => exact h.2.coherent hcache
  | some pageId =>
      rcases h with ⟨-, -, -, cache, hsilent, hput⟩
      rw [hput]
      exact (hsilent.coherent hcache).put

/-- When nothing is allocated, nothing that is seen changes. -/
theorem view_of_none (h : Simulates pool pool' none) (hcache : pool.cache.Coherent) :
    pool'.view = pool.view := by
  ext1 page
  rw [← view_cache, ← view_cache]
  exact h.2.view_eq hcache page

/-- When a page is allocated, it is seen as zeros, and nothing else changes. -/
theorem view_of_some {pageId : PageId} (h : Simulates pool pool' (some pageId))
    (hcache : pool.cache.Coherent) :
    pool'.view = Function.update pool.view pageId (Buffer.zero pageSize) := by
  rcases h with ⟨-, -, -, cache, hsilent, hput⟩
  have hview : cache.view = pool.view := by
    ext1 page
    rw [hsilent.view_eq hcache, view_cache]
  ext1 page
  rw [← view_cache, hput, Cache.view_put, hview]

/-- What was allocated before or in between is below the next identifier. -/
theorem lt_nextPageId (h : Simulates pool pool' allocated) {page : PageId}
    (hpage : page < pool.nextPageId ∨ allocated = some page) : page < pool'.nextPageId := by
  cases allocated with
  | none =>
      rcases hpage with hlt | hsome
      · rwa [h.1]
      · cases hsome
  | some pageId =>
      rcases h with ⟨hid, hlt, hnext, -⟩
      rw [hnext]
      rcases hpage with hpage | hsome
      · rw [← hid] at hpage
        exact UInt16.lt_trans hpage (PageId.lt_succ hlt)
      · rw [← Option.some_inj.mp hsome]
        exact PageId.lt_succ hlt

end BufferPoolManager.Simulates

namespace Faithful

variable {pool : BufferPoolManager n} {callId : CallId} {call : Call} {pc : Pc n}
  {slot slot' : Fin n → Slot} {io : Io} {next : Next n} {pageId oldPageId newPageId : PageId}
  {frameId victim : Fin n}

/-- The frame that a lone call has taken has the slot of its section. -/
theorem slot_of_owned (h : Faithful pool callId call pc slot) {taken : Slot}
    (howned : pc.owned callId = some (frameId, taken)) : slot frameId = taken :=
  h.consistent.owned callId pc frameId taken (alone_self callId pc) howned

/-- The identifier of the next page is not in the table. -/
theorem table_next (h : Faithful pool callId call pc slot) :
    pool.pageTable pool.nextPageId = none := by
  by_contra hne
  exact UInt16.lt_irrefl _ (h.bounded pool.nextPageId hne)

/-- A page whose frame is clean is on the disk. -/
theorem writtenBack_of_clean (h : Faithful pool callId call pc slot)
    (htable : pool.pageTable pageId = some frameId)
    (hclean : (pool.frames frameId).isDirty = false) : pool.WrittenBack frameId pageId := by
  apply h.coherent pageId (pool.frames frameId).data (held_of_table htable)
  rw [dirty_of_table htable, hclean]

/-- The decision of a fetch changes nothing that is seen. -/
theorem simulates_fetchStart {missRecorded : Bool}
    (heffect : Effect callId pool slot (.fetchStart pageId missRecorded) io next slot') :
    Simulates pool next.pool next.pc.allocatedPage := by
  rcases recordMissOnce_eq pool missRecorded with ⟨metrics, hmetrics⟩
  cases heffect with
  | fetchWait => exact ⟨rfl, .refl⟩
  | fetchHit =>
      exact ⟨rfl, silent_of_eq (cache_setFrame rfl rfl rfl rfl (Frame.isDirty_touched _))⟩
  | fetchJoin =>
      rw [hmetrics]
      exact ⟨rfl, .refl⟩
  | fetchTake =>
      rw [hmetrics]
      exact ⟨rfl, silent_of_eq (cache_setFrame rfl rfl rfl rfl rfl)⟩
  | fetchSleep _ _ hframes =>
      rw [hmetrics]
      exact ⟨rfl, silent_of_eq (cache_swept hframes)⟩
  | fetchGiveUp _ _ hframes =>
      rw [hmetrics]
      exact ⟨rfl, silent_of_eq (cache_swept hframes)⟩
  | fetchVictim _ _ hframes =>
      rw [hmetrics]
      dsimp only
      split_ifs <;> exact ⟨rfl, silent_of_eq (cache_victim hframes)⟩

/-- Loading a page into a frame outside the table changes nothing that is seen. -/
theorem simulates_fetchLoad {buffer : Buffer pageSize}
    (h : Faithful pool callId call (.fetchLoad pageId frameId buffer) slot)
    (heffect : Effect callId pool slot (.fetchLoad pageId frameId buffer) io next slot') :
    Simulates pool next.pool next.pc.allocatedPage := by
  cases heffect with
  | load =>
      have hlocated : (slot frameId).located = none := by
        rw [h.slot_of_owned rfl]
        rfl
      exact ⟨rfl, silent_of_eq (cache_setFrame_unmapped rfl rfl rfl
        (h.consistent.not_table_of_located hlocated))⟩

/-- Publishing the page loads it into the cache. -/
theorem simulates_fetchPublish
    (h : Faithful pool callId call (.fetchPublish pageId frameId) slot)
    (heffect : Effect callId pool slot (.fetchPublish pageId frameId) io next slot') :
    Simulates pool next.pool next.pc.allocatedPage := by
  have hslot : slot frameId = .loaded callId pageId := h.slot_of_owned rfl
  have htable := (h.consistent.layout.incoming frameId callId pageId (by rw [hslot]; rfl)).2
  have hunmapped := h.consistent.not_table_of_located (by rw [hslot]; rfl)
  have hframes : pool.frames = Function.update pool.frames frameId
      (.loaded pageId (pool.diskManager.page pageId)) := by
    rw [← h.content, Function.update_eq_self]
  cases heffect with
  | publish =>
      refine ⟨rfl, (Cache.Silent.refl.load (held_of_table_none htable)).of_eq ?_⟩
      exact cache_load (fun page hpage => absurd hpage (hunmapped page)) rfl rfl hframes

/-- Writing the victim back is a write to the store under a dirty key. -/
theorem simulates_evictWrite {oldData : Buffer pageSize}
    (h : Faithful pool callId call (.evictWrite pageId victim oldPageId oldData) slot)
    (heffect : Effect callId pool slot (.evictWrite pageId victim oldPageId oldData) io next slot') :
    Simulates pool next.pool next.pc.allocatedPage := by
  have htable : pool.pageTable oldPageId = some victim :=
    h.consistent.table_of_located (by rw [h.slot_of_owned rfl]; rfl)
  cases heffect with
  | evictWriteOk => exact ⟨rfl, silent_writeThen htable h.content _ _⟩
  | evictWriteFail => exact ⟨rfl, silent_writeThen htable h.content _ _⟩

/-- The commit of an eviction drops one page and loads the other. -/
theorem simulates_evictCommit {buffer : Buffer pageSize}
    (h : Faithful pool callId call (.evictCommit pageId victim oldPageId buffer) slot)
    (heffect : Effect callId pool slot (.evictCommit pageId victim oldPageId buffer) io next slot') :
    Simulates pool next.pool next.pc.allocatedPage := by
  have hslot : slot victim = .evicting callId oldPageId pageId := h.slot_of_owned rfl
  have hlocated : (slot victim).located = some oldPageId := by
    rw [hslot]
    rfl
  have hold := h.consistent.table_of_located hlocated
  have hnew := (h.consistent.layout.incoming victim callId pageId (by rw [hslot]; rfl)).2
  have hne : pageId ≠ oldPageId := by
    rintro rfl
    rw [hold] at hnew
    cases hnew
  rcases h.content with ⟨hwritten, hbuffer⟩
  cases heffect with
  | commit =>
      -- dirty or not, the old page is on the disk by now, so nobody misses its frame
      have hsilent := Cache.Silent.refl.dropStored (hwritten.stored hold)
      have hheld : (pool.cache.drop oldPageId).held pageId = none := by
        rw [Cache.held_drop, Function.update_of_ne hne, held_of_table_none hnew]
      refine ⟨rfl, (hsilent.load hheld).of_eq ?_⟩
      rw [hbuffer]
      exact cache_drop_load (h.consistent.only_of_located hlocated) rfl rfl rfl

/-- Marking a page dirty marks its key dirty. -/
theorem simulates_markDirty
    (h : Faithful pool callId call (.markDirtyStart pageId) slot)
    (heffect : Effect callId pool slot (.markDirtyStart pageId) io next slot') :
    Simulates pool next.pool next.pc.allocatedPage := by
  cases heffect with
  | markDirtyFail => exact ⟨rfl, .refl⟩
  | @markDirty _ frameId hslot =>
      have hlocated : (slot frameId).located = some pageId := by
        rw [hslot]
        rfl
      have hcache : (pool.setFrame frameId ((pool.frames frameId).withDirty true)).cache =
          pool.cache.markDirty pageId :=
        cache_withDirty (h.consistent.only_of_located hlocated) (h.consistent.table_of_slot hslot)
          (h.consistent.heldPage_of_slot hslot) true
      exact ⟨rfl, Cache.Silent.refl.markDirty.of_eq hcache⟩

/-- The write of a flush is a write to the store under a held key. -/
theorem simulates_flushWrite {dirtyPageId : PageId} {data : Buffer pageSize} {caller : FlushCaller}
    (h : Faithful pool callId call (.flushWrite pageId frameId dirtyPageId data caller) slot)
    (heffect : Effect callId pool slot (.flushWrite pageId frameId dirtyPageId data caller) io next
      slot') : Simulates pool next.pool next.pc.allocatedPage := by
  rcases h.content with ⟨rfl, hdata⟩
  have htable : pool.pageTable dirtyPageId = some frameId := by
    apply h.consistent.table_of_located
    rw [h.slot_of_owned rfl]
    cases caller <;> rfl
  cases heffect with
  | flushWrite => exact ⟨rfl, silent_writeThen htable hdata _ _⟩

/-- The end of a flush marks a key clean that is equal to the store. -/
theorem simulates_flushFinish {written : Except IoError Unit} {caller : FlushCaller}
    (h : Faithful pool callId call (.flushFinish pageId frameId written caller) slot)
    (heffect : Effect callId pool slot (.flushFinish pageId frameId written caller) io next slot') :
    Simulates pool next.pool next.pc.allocatedPage := by
  have hlocated : (slot frameId).located = some pageId := by
    rw [h.slot_of_owned rfl]
    cases caller <;> rfl
  have htable := h.consistent.table_of_located hlocated
  cases heffect with
  | flushDone =>
      -- the dirty bit is cleared only after a successful write
      have hcache : (pool.setFrame frameId ((pool.frames frameId).withDirty false)).cache =
          pool.cache.markClean pageId :=
        cache_withDirty (h.consistent.only_of_located hlocated) htable
          (h.consistent.heldPage_of_located hlocated) false
      have hstored := WrittenBack.stored h.content htable
      cases caller <;> exact ⟨rfl, (Cache.Silent.refl.markClean hstored).of_eq hcache⟩
  | flushUndo =>
      cases caller <;> exact ⟨rfl, silent_of_eq (cache_setFrame rfl rfl rfl rfl rfl)⟩

/-- A clean page is dropped. -/
theorem silent_dropPage (h : Faithful pool callId call pc slot) {pool' : BufferPoolManager n}
    (hcache : pool'.cache = pool.cache) (htable' : pool'.pageTable = pool.pageTable)
    (hlocated : (slot frameId).located = some pageId)
    (hclean : (pool.frames frameId).isDirty = false) :
    pool.cache.Silent (pool'.dropPage pageId frameId).pool.cache := by
  have htable := h.consistent.table_of_located hlocated
  have hother : ∀ page, pool'.pageTable page = some frameId → page = pageId := by
    rw [htable']
    exact h.consistent.only_of_located hlocated
  have hdrop : (pool'.dropPage pageId frameId).pool.cache = pool'.cache.drop pageId :=
    cache_remove hother rfl rfl rfl
  rw [hcache] at hdrop
  refine (Cache.Silent.refl.drop ?_).of_eq hdrop
  rw [dirty_of_table htable, hclean]

/-- The start of a deletion changes nothing that is seen. -/
theorem simulates_deleteStart (h : Faithful pool callId call (.deleteStart pageId) slot)
    (heffect : Effect callId pool slot (.deleteStart pageId) io next slot') :
    Simulates pool next.pool next.pc.allocatedPage := by
  cases heffect with
  | deleteFail => exact ⟨rfl, .refl⟩
  | deleteClean hslot _ hclean =>
      exact ⟨rfl, h.silent_dropPage (cache_reserveFrame pool _) rfl (by rw [hslot]; rfl) hclean⟩
  | deleteTake => exact ⟨rfl, silent_of_eq (cache_reserveFrame pool _)⟩

/-- A deletion drops a clean key. -/
theorem simulates_deleteFinish (h : Faithful pool callId call (.deleteFinish pageId frameId) slot)
    (heffect : Effect callId pool slot (.deleteFinish pageId frameId) io next slot') :
    Simulates pool next.pool next.pc.allocatedPage := by
  cases heffect with
  | deleteDone =>
      exact ⟨rfl, h.silent_dropPage rfl rfl (by rw [h.slot_of_owned rfl]; rfl) h.content⟩

/-- The decision of `new_page` puts a page of zeros when it has a free frame. -/
theorem simulates_newStart (h : Faithful pool callId call .newStart slot)
    (heffect : Effect callId pool slot .newStart io next slot') :
    Simulates pool next.pool next.pc.allocatedPage := by
  cases heffect with
  | newFail => exact ⟨rfl, .refl⟩
  | newGiveUp hframes => exact ⟨rfl, silent_of_eq (cache_swept hframes)⟩
  | @newTake frameId rest hlt hfree =>
      have hlocated : (slot frameId).located = none := by
        rw [(h.consistent.layout.mem_free frameId).mp (hfree ▸ List.mem_cons_self)]
        rfl
      refine ⟨rfl, hlt, rfl, pool.cache, .refl, ?_⟩
      exact cache_put
        (fun page hpage => absurd hpage (h.consistent.not_table_of_located hlocated page))
        rfl rfl rfl
  | newVictim _ _ _ hframes =>
      dsimp only
      split_ifs <;> exact ⟨rfl, silent_of_eq (cache_victim hframes)⟩

/-- Writing the victim of `new_page` back is a write to the store under a dirty key. -/
theorem simulates_newWrite {oldData : Buffer pageSize}
    (h : Faithful pool callId call (.newWrite newPageId victim oldPageId oldData) slot)
    (heffect : Effect callId pool slot (.newWrite newPageId victim oldPageId oldData) io next
      slot') : Simulates pool next.pool next.pc.allocatedPage := by
  have htable : pool.pageTable oldPageId = some victim :=
    h.consistent.table_of_located (by rw [h.slot_of_owned rfl]; rfl)
  cases heffect with
  | newWriteOk => exact ⟨rfl, silent_writeThen htable h.content.2 _ _⟩
  | newWriteFail => exact ⟨rfl, silent_writeThen htable h.content.2 _ _⟩

/-- The commit of `new_page` drops the victim and puts a page of zeros. -/
theorem simulates_newCommit
    (h : Faithful pool callId call (.newCommit newPageId victim oldPageId) slot)
    (heffect : Effect callId pool slot (.newCommit newPageId victim oldPageId) io next slot') :
    Simulates pool next.pool next.pc.allocatedPage := by
  rcases h.content with ⟨⟨-, hnext, hlt⟩, hwritten⟩
  have hlocated : (slot victim).located = some oldPageId := by
    rw [h.slot_of_owned rfl]
    rfl
  cases heffect with
  | newCommit =>
      refine ⟨hnext, hlt, rfl, pool.cache.drop oldPageId, ?_, ?_⟩
      · exact Cache.Silent.refl.dropStored
          (hwritten.stored (h.consistent.table_of_located hlocated))
      · exact cache_drop_put (h.consistent.only_of_located hlocated) rfl rfl rfl
  -- `replace` cannot find the new page in the table: only allocated pages are there
  | newCollide htable =>
      rw [hnext] at htable
      exact absurd h.table_next htable

/-- Every section is a sequence of silent operations, behind which a page may be
allocated. -/
theorem simulates (h : Faithful pool callId call pc slot)
    (heffect : Effect callId pool slot pc io next slot') :
    Simulates pool next.pool next.pc.allocatedPage := by
  cases pc with
  | fetchStart => exact simulates_fetchStart heffect
  | fetchLoad => exact h.simulates_fetchLoad heffect
  | fetchPublish => exact h.simulates_fetchPublish heffect
  | evictWrite => exact h.simulates_evictWrite heffect
  | evictCommit => exact h.simulates_evictCommit heffect
  | markDirtyStart => exact h.simulates_markDirty heffect
  | deleteStart => exact h.simulates_deleteStart heffect
  | deleteFinish => exact h.simulates_deleteFinish heffect
  | flushWrite => exact h.simulates_flushWrite heffect
  | flushFinish => exact h.simulates_flushFinish heffect
  | newStart => exact h.simulates_newStart heffect
  | newWrite => exact h.simulates_newWrite heffect
  | newCommit => exact h.simulates_newCommit heffect
  | fetchNotify waiter result =>
      cases heffect
      cases result <;> exact ⟨rfl, .refl⟩
  | flushCheck pageId frameId caller =>
      cases heffect <;> cases caller <;> exact ⟨rfl, .refl⟩
  | fetchReadFailed | evictFailed | flushRelease | deleteRollback | newRollback =>
      cases heffect
      exact ⟨rfl, silent_of_eq (cache_setFrame rfl rfl rfl rfl rfl)⟩
  | unpinStart =>
      cases heffect with
      | unpinFail => exact ⟨rfl, .refl⟩
      | unpin =>
          exact ⟨rfl, silent_of_eq (cache_setFrame rfl rfl rfl rfl (Frame.isDirty_unpinned _))⟩
  | flushStart =>
      cases heffect with
      | flushFail => exact ⟨rfl, .refl⟩
      | flushClean => exact ⟨rfl, silent_of_eq (cache_setFrame rfl rfl rfl rfl rfl)⟩
      | flushTake => exact ⟨rfl, silent_of_eq (cache_reserveFrame pool _)⟩
  | _ => cases heffect <;> exact ⟨rfl, .refl⟩

/-! ### The local variables -/

/-- The requested page is resident. -/
theorem delivers (hcall : call = .fetchPage pageId) (htable : pool.pageTable pageId = some frameId) :
    Delivers call pool frameId := by
  intro page hpage
  rw [hcall, Call.fetchPage.injEq] at hpage
  rw [← hpage, view_of_table htable]

/-- A reserved victim that is clean is on the disk. -/
theorem writtenBack_victim (h : Faithful pool callId call pc slot)
    (hslot : slot victim = .resident oldPageId) {frame : Frame}
    (hsame : Frame.SameButReference (pool.frames victim) frame) (hclean : frame.isDirty ≠ true)
    {pool' : BufferPoolManager n} (hframe : pool'.frames victim = { frame with state := .reserved })
    (hdisk : pool'.diskManager = pool.diskManager) : pool'.WrittenBack victim oldPageId := by
  have hwritten : pool.WrittenBack victim oldPageId := by
    apply h.writtenBack_of_clean (h.consistent.table_of_slot hslot)
    rw [← hsame.isDirty_eq, Bool.eq_false_iff]
    exact hclean
  unfold WrittenBack at hwritten ⊢
  rw [hframe, hdisk, ← hwritten]
  exact hsame.data_eq

/-- A reserved victim that is dirty. -/
theorem writesBack_victim {frame : Frame} (hdirty : frame.isDirty = true)
    {pool' : BufferPoolManager n}
    (hframe : pool'.frames victim = { frame with state := .reserved }) :
    pool'.WritesBack victim frame.data := by
  unfold WritesBack
  rw [hframe]
  exact ⟨rfl, hdirty⟩

/-- After its decision a fetch knows its page and its victim. -/
theorem content_fetchStart {missRecorded : Bool}
    (h : Faithful pool callId call (.fetchStart pageId missRecorded) slot)
    (heffect : Effect callId pool slot (.fetchStart pageId missRecorded) io next slot') :
    Content call next.pool next.pc := by
  cases heffect with
  | fetchHit hslot => exact delivers (h.requested pageId rfl).1 (h.consistent.table_of_slot hslot)
  | @fetchVictim _ _ clock frames victim oldPageId _ _ hframes hslot _ =>
      by_cases hdirty : (frames victim).isDirty = true
      · rw [if_pos hdirty]
        exact writesBack_victim hdirty (Function.update_self ..)
      · rw [if_neg hdirty]
        exact h.writtenBack_victim hslot (hframes victim) hdirty (Function.update_self ..)
          (diskManager_recordMissOnce pool missRecorded)
  | _ => trivial

/-- After its decision `new_page` knows its identifier and its victim. -/
theorem content_newStart (h : Faithful pool callId call .newStart slot)
    (heffect : Effect callId pool slot .newStart io next slot') :
    Content call next.pool next.pc := by
  cases heffect with
  | newTake => exact h.content
  | @newVictim clock frames victim oldPageId hlt _ _ hframes hslot _ =>
      by_cases hdirty : (frames victim).isDirty = true
      · rw [if_pos hdirty]
        exact ⟨⟨h.content, rfl, hlt⟩, writesBack_victim hdirty (Function.update_self ..)⟩
      · rw [if_neg hdirty]
        exact ⟨⟨h.content, rfl, hlt⟩, h.writtenBack_victim hslot (hframes victim) hdirty
          (Function.update_self ..) rfl⟩
  | _ => trivial

/-- The local variables of a call keep their meaning. -/
theorem content_next (h : Faithful pool callId call pc slot)
    (heffect : Effect callId pool slot pc io next slot') : Content call next.pool next.pc := by
  cases pc with
  | fetchStart => exact h.content_fetchStart heffect
  | newStart => exact h.content_newStart heffect
  | fetchRead =>
      cases heffect with
      | readOk => rfl
      | readFail => trivial
  | fetchLoad pageId frameId buffer =>
      cases heffect
      rw [h.content]
      exact Function.update_self ..
  | fetchPublish pageId frameId =>
      cases heffect
      exact delivers (h.requested pageId rfl).1 (Function.update_self ..)
  | evictWrite pageId victim oldPageId oldData =>
      cases heffect with
      | evictWriteOk => exact WritesBack.writtenBack h.content _ _
      | evictWriteFail => trivial
  | evictRead =>
      cases heffect with
      | evictReadOk => exact ⟨h.content, rfl⟩
      | evictReadFail => trivial
  | evictCommit pageId victim oldPageId buffer =>
      cases heffect
      exact delivers (h.requested pageId rfl).1 (Function.update_self ..)
  | fetchNotify waiter result =>
      cases heffect
      cases result with
      | ok frameId => exact h.content
      | error e => trivial
  | flushCheck pageId frameId caller =>
      cases heffect with
      | checkDirty hdirty => exact ⟨rfl, rfl, hdirty⟩
      | checkClean hclean =>
          cases caller with
          | flushPage => trivial
          | deletePage => exact hclean
  | flushWrite pageId frameId dirtyPageId data caller =>
      rcases h.content with ⟨rfl, hdata⟩
      cases heffect with
      | @flushWrite _ _ _ _ _ outcome =>
          cases outcome with
          | ok => exact hdata.writtenBack _ _
          | fail error left => trivial
  | flushFinish pageId frameId written caller =>
      cases heffect with
      | flushDone =>
          cases caller with
          | flushPage => trivial
          | deletePage =>
              have hframe : (pool.setFrame frameId ((pool.frames frameId).withDirty false)).frames
                  frameId = (pool.frames frameId).withDirty false := Function.update_self ..
              exact (congrArg Frame.isDirty hframe).trans (Frame.isDirty_withDirty_false _)
      | flushUndo => cases caller <;> trivial
  | newWrite newPageId victim oldPageId oldData =>
      cases heffect with
      | newWriteOk => exact ⟨h.content.1, h.content.2.writtenBack _ _⟩
      | newWriteFail => trivial
  | newCommit =>
      cases heffect with
      | newCommit => exact h.content.1.1
      | newCollide => trivial
  | _ => cases heffect <;> trivial

/-! ### One section -/

/-- The decision of a fetch leaves the page table. -/
theorem pageTable_fetchStart {missRecorded : Bool}
    (heffect : Effect callId pool slot (.fetchStart pageId missRecorded) io next slot') :
    next.pool.pageTable = pool.pageTable := by
  cases heffect with
  | fetchWait => rfl
  | fetchHit => rfl
  | _ => exact pageTable_recordMissOnce pool missRecorded

/-- A resident page was allocated before, or is allocated now. -/
theorem lt_or_allocated (h : Faithful pool callId call pc slot)
    (heffect : Effect callId pool slot pc io next slot') (page : PageId)
    (hpage : next.pool.pageTable page ≠ none) :
    page < pool.nextPageId ∨ next.pc.allocatedPage = some page := by
  cases pc with
  | fetchStart =>
      rw [pageTable_fetchStart heffect] at hpage
      exact .inl (h.bounded page hpage)
  | fetchPublish =>
      cases heffect
      rcases PageTable.eq_or_of_insert hpage with rfl | hold
      · exact .inl (h.requested page rfl).2
      · exact .inl (h.bounded page hold)
  | evictCommit =>
      cases heffect
      rcases PageTable.eq_or_of_insert hpage with rfl | hold
      · exact .inl (h.requested page rfl).2
      · exact .inl (h.bounded page (PageTable.of_removePage hold))
  | deleteStart =>
      cases heffect with
      | deleteClean => exact .inl (h.bounded page (PageTable.of_removePage hpage))
      | _ => exact .inl (h.bounded page hpage)
  | deleteFinish =>
      cases heffect
      exact .inl (h.bounded page (PageTable.of_removePage hpage))
  | flushCheck _ _ caller | flushFinish _ _ _ caller =>
      cases heffect <;> cases caller <;> exact .inl (h.bounded page hpage)
  | newStart =>
      cases heffect with
      | newTake =>
          rcases PageTable.eq_or_of_insert hpage with rfl | hold
          · exact .inr rfl
          · exact .inl (h.bounded page hold)
      | _ => exact .inl (h.bounded page hpage)
  | newCommit =>
      cases heffect with
      | newCommit =>
          rcases PageTable.eq_or_of_insert hpage with rfl | hold
          · exact .inr rfl
          · exact .inl (h.bounded page (PageTable.of_removePage hold))
      | newCollide => exact .inl (h.bounded page hpage)
  | _ => cases heffect <;> exact .inl (h.bounded page hpage)

/-- A section keeps the call faithful. -/
theorem step (h : Faithful pool callId call pc slot)
    (hnext : pool.advance callId pc io = some next) :
    ∃ slot', Faithful next.pool callId call next.pc slot' ∧
      Simulates pool next.pool next.pc.allocatedPage := by
  rcases h.toLone.step hnext with ⟨slot', heffect, hlone⟩
  have hsimulates := h.simulates heffect
  refine ⟨slot', ⟨hlone, hsimulates.coherent h.coherent, ?_, ?_, h.content_next heffect⟩, hsimulates⟩
  -- `next_page_id` never decreases, so requested and resident pages stay below it
  · intro page hpage
    exact hsimulates.lt_nextPageId (h.lt_or_allocated heffect page hpage)
  · intro page hpage
    rcases h.requested page (heffect.fetching_of_next hpage) with ⟨hcall, hlt⟩
    exact ⟨hcall, hsimulates.lt_nextPageId (.inl hlt)⟩

end Faithful

/-- A call that has another section to run has allocated nothing yet. -/
theorem Pc.allocatedPage_of_advance {pool : BufferPoolManager n} {callId : CallId} {pc : Pc n}
    {io : Io} {next : Next n} (hnext : pool.advance callId pc io = some next) :
    pc.allocatedPage = none := by
  cases pc with
  | returned result => cases io <;> cases hnext
  | _ => rfl

end Storage
end TaskPool
