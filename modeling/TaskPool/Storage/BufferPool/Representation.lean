import TaskPool.Library.WriteBackCache
import TaskPool.Storage.BufferPool.Effect

/-!
# The cache that a pool represents

A buffer pool is a write-back cache in front of the file: the held pages are those in
the page table, and a dirty page is one whose frame is dirty.

Main results:

- Definition `BufferPoolManager.cache`: the cache that a pool represents.
- Theorems `cache_load`, `cache_put`, `cache_drop_load`, `cache_drop_put`,
  `cache_remove`, `cache_withDirty` and `cache_writeThen`: changes of the pool as
  operations of its cache.
-/

namespace TaskPool
namespace Storage

open BufferPoolManager Library

variable {n : Nat}

namespace BufferPoolManager

/-- The data of a page: those of its frame when it is in the table, else those in the
file. -/
def view (pool : BufferPoolManager n) (pageId : PageId) : Buffer pageSize :=
  match pool.pageTable pageId with
  | some frameId => (pool.frames frameId).data
  | none => pool.diskManager.page pageId

/-- The cache that a pool represents. -/
def cache (pool : BufferPoolManager n) : Cache PageId (Buffer pageSize) where
  held := fun pageId => (pool.pageTable pageId).map fun frameId => (pool.frames frameId).data
  dirty := fun pageId => (pool.pageTable pageId).any fun frameId => (pool.frames frameId).isDirty
  store := pool.diskManager.page

/-- The cache holds the pages of the page table. -/
theorem held_cache (pool : BufferPoolManager n) (pageId : PageId) :
    pool.cache.held pageId =
      (pool.pageTable pageId).map fun frameId => (pool.frames frameId).data := rfl

/-- The dirty keys of the cache are the pages in dirty frames. -/
theorem dirty_cache (pool : BufferPoolManager n) (pageId : PageId) :
    pool.cache.dirty pageId =
      (pool.pageTable pageId).any fun frameId => (pool.frames frameId).isDirty := rfl

/-- The store of the cache is the file. -/
theorem store_cache (pool : BufferPoolManager n) : pool.cache.store = pool.diskManager.page := rfl

/-- What is seen of the cache is what is seen of the pool. -/
theorem view_cache (pool : BufferPoolManager n) (pageId : PageId) :
    pool.cache.view pageId = pool.view pageId := by
  unfold Cache.view view
  rw [held_cache, store_cache]
  cases pool.pageTable pageId with
  | none => rw [Option.map_none, Option.getD_none]
  | some frameId => rw [Option.map_some, Option.getD_some]

variable {pool pool' : BufferPoolManager n} {pageId oldPageId : PageId} {frameId : Fin n}
  {frame : Frame}

/-- A resident page is held with the bytes of its frame. -/
theorem held_of_table (h : pool.pageTable pageId = some frameId) :
    pool.cache.held pageId = some (pool.frames frameId).data := by
  rw [held_cache, h, Option.map_some]

/-- A page that is not resident is not held. -/
theorem held_of_table_none (h : pool.pageTable pageId = none) : pool.cache.held pageId = none := by
  rw [held_cache, h, Option.map_none]

/-- A resident page is dirty when its frame is. -/
theorem dirty_of_table (h : pool.pageTable pageId = some frameId) :
    pool.cache.dirty pageId = (pool.frames frameId).isDirty := by
  rw [dirty_cache, h, Option.any_some]

/-- A resident page is seen with the bytes of its frame. -/
theorem view_of_table (h : pool.pageTable pageId = some frameId) :
    pool.view pageId = (pool.frames frameId).data := by
  unfold view
  rw [h]

/-! ## Sections as operations of the cache -/

/-- Frames that keep their data and dirty bits as long as they are in the table. -/
theorem cache_congr (htable : pool'.pageTable = pool.pageTable)
    (hdisk : pool'.diskManager = pool.diskManager)
    (hframes : ∀ page frameId, pool.pageTable page = some frameId →
      (pool'.frames frameId).data = (pool.frames frameId).data ∧
        (pool'.frames frameId).isDirty = (pool.frames frameId).isDirty) :
    pool'.cache = pool.cache := by
  ext1
  · ext1 page
    rw [held_cache, held_cache, htable]
    cases hpage : pool.pageTable page with
    | none => rw [Option.map_none, Option.map_none]
    | some frameId => rw [Option.map_some, Option.map_some, (hframes page frameId hpage).1]
  · ext1 page
    rw [dirty_cache, dirty_cache, htable]
    cases hpage : pool.pageTable page with
    | none => rw [Option.any_none, Option.any_none]
    | some frameId => rw [Option.any_some, Option.any_some, (hframes page frameId hpage).2]
  · rw [store_cache, store_cache, hdisk]

/-- A frame that keeps its data and its dirty bit. -/
theorem cache_setFrame (hframes : pool'.frames = Function.update pool.frames frameId frame)
    (htable : pool'.pageTable = pool.pageTable) (hdisk : pool'.diskManager = pool.diskManager)
    (hdata : frame.data = (pool.frames frameId).data)
    (hdirty : frame.isDirty = (pool.frames frameId).isDirty) : pool'.cache = pool.cache := by
  apply cache_congr htable hdisk
  intro page other _
  rw [hframes]
  by_cases hother : other = frameId
  · rw [hother, Function.update_self]
    exact ⟨hdata, hdirty⟩
  · rw [Function.update_of_ne hother]
    exact ⟨rfl, rfl⟩

/-- A new frame outside of the table. -/
theorem cache_setFrame_unmapped (hframes : pool'.frames = Function.update pool.frames frameId frame)
    (htable : pool'.pageTable = pool.pageTable) (hdisk : pool'.diskManager = pool.diskManager)
    (hunmapped : ∀ page, pool.pageTable page ≠ some frameId) : pool'.cache = pool.cache := by
  apply cache_congr htable hdisk
  intro page other hother
  have hne : other ≠ frameId := by
    rintro rfl
    exact hunmapped page hother
  rw [hframes, Function.update_of_ne hne]
  exact ⟨rfl, rfl⟩

/-- A new entry of the table, while the frames of the other pages stay as they are. -/
theorem cache_entry (entry : Option (Fin n))
    (htable : pool'.pageTable = Function.update pool.pageTable pageId entry)
    (hdisk : pool'.diskManager = pool.diskManager)
    (hframes : ∀ page frameId, page ≠ pageId → pool.pageTable page = some frameId →
      pool'.frames frameId = pool.frames frameId) :
    pool'.cache = ⟨Function.update pool.cache.held pageId
        (entry.map fun frameId => (pool'.frames frameId).data),
      Function.update pool.cache.dirty pageId
        (entry.any fun frameId => (pool'.frames frameId).isDirty), pool.cache.store⟩ := by
  ext1
  · ext1 page
    dsimp only
    rw [held_cache, htable]
    by_cases hpage : page = pageId
    · rw [hpage, Function.update_self, Function.update_self]
    · rw [Function.update_of_ne hpage, Function.update_of_ne hpage, held_cache]
      cases hother : pool.pageTable page with
      | none => rw [Option.map_none, Option.map_none]
      | some other => rw [Option.map_some, Option.map_some, hframes page other hpage hother]
  · ext1 page
    dsimp only
    rw [dirty_cache, htable]
    by_cases hpage : page = pageId
    · rw [hpage, Function.update_self, Function.update_self]
    · rw [Function.update_of_ne hpage, Function.update_of_ne hpage, dirty_cache]
      cases hother : pool.pageTable page with
      | none => rw [Option.any_none, Option.any_none]
      | some other => rw [Option.any_some, Option.any_some, hframes page other hpage hother]
  · rw [store_cache, hdisk, store_cache]

/-- A write to the disk. -/
theorem cache_writeThen (pool : BufferPoolManager n) (pageId : PageId) (data : Buffer pageSize)
    (outcome : WriteOutcome) (next : Except IoError Unit → Pc n) :
    (pool.writeThen pageId data outcome next).pool.cache =
      pool.cache.writeStore pageId
        ((pool.diskManager.writePage pageId data outcome).2.page pageId) := by
  ext1
  · rfl
  · rfl
  · ext1 page
    rw [Cache.store_writeStore, store_cache, store_cache]
    by_cases hpage : page = pageId
    · rw [hpage, Function.update_self]
      rfl
    · rw [Function.update_of_ne hpage]
      exact DiskManager.page_writePage_of_ne _ hpage data outcome

/-- A page moves into a frame that no other page is in. -/
theorem cache_insert
    (hother : ∀ page, pool.pageTable page = some frameId → page = pageId)
    (htable : pool'.pageTable = pool.pageTable.insert pageId frameId)
    (hdisk : pool'.diskManager = pool.diskManager)
    (hframes : pool'.frames = Function.update pool.frames frameId frame) :
    pool'.cache = ⟨Function.update pool.cache.held pageId (some frame.data),
      Function.update pool.cache.dirty pageId frame.isDirty, pool.cache.store⟩ := by
  rw [cache_entry (some frameId) htable hdisk]
  · rw [Option.map_some, Option.any_some, hframes, Function.update_self]
  · intro page other hpage hmapped
    have hne : other ≠ frameId := by
      rintro rfl
      exact hpage (hother page hmapped)
    rw [hframes, Function.update_of_ne hne]

/-- A page leaves its frame. -/
theorem cache_remove (hother : ∀ page, pool.pageTable page = some frameId → page = pageId)
    (htable : pool'.pageTable = pool.pageTable.removePage pageId)
    (hdisk : pool'.diskManager = pool.diskManager)
    (hframes : pool'.frames = Function.update pool.frames frameId frame) :
    pool'.cache = pool.cache.drop pageId := by
  rw [cache_entry none htable hdisk]
  · rfl
  · intro page other hpage hmapped
    have hne : other ≠ frameId := by
      rintro rfl
      exact hpage (hother page hmapped)
    rw [hframes, Function.update_of_ne hne]

/-- A page takes the place of another one. -/
theorem cache_replace (hother : ∀ page, pool.pageTable page = some frameId → page = oldPageId)
    (htable : pool'.pageTable = (pool.pageTable.removePage oldPageId).insert pageId frameId)
    (hdisk : pool'.diskManager = pool.diskManager)
    (hframes : pool'.frames = Function.update pool.frames frameId frame) :
    pool'.cache = ⟨Function.update (pool.cache.drop oldPageId).held pageId (some frame.data),
      Function.update (pool.cache.drop oldPageId).dirty pageId frame.isDirty,
      pool.cache.store⟩ := by
  have hremoved : (pool.withTable (pool.pageTable.removePage oldPageId)).cache =
      pool.cache.drop oldPageId :=
    cache_remove hother rfl rfl (Function.update_eq_self frameId pool.frames).symm
  rw [← Cache.store_drop pool.cache oldPageId, ← hremoved]
  refine cache_insert ?_ htable hdisk hframes
  intro page hpage
  by_cases hold : page = oldPageId
  · have hnone : pool.pageTable.removePage oldPageId page = none := by
      rw [PageTable.removePage, hold, Function.update_self]
    exact absurd (hnone.symm.trans hpage) (Option.some_ne_none frameId).symm
  · have hkept : pool.pageTable.removePage oldPageId page = pool.pageTable page :=
      Function.update_of_ne hold ..
    exact absurd (hother page (hkept.symm.trans hpage)) hold

/-- A page from the disk becomes resident. -/
theorem cache_load (hother : ∀ page, pool.pageTable page = some frameId → page = pageId)
    (htable : pool'.pageTable = pool.pageTable.insert pageId frameId)
    (hdisk : pool'.diskManager = pool.diskManager)
    (hframes : pool'.frames = Function.update pool.frames frameId
      (.loaded pageId (pool.diskManager.page pageId))) :
    pool'.cache = pool.cache.load pageId := by
  rw [cache_insert hother htable hdisk hframes, Frame.data_loaded, Frame.isDirty_loaded, Cache.load,
    store_cache]

/-- A new page becomes resident. -/
theorem cache_put (hother : ∀ page, pool.pageTable page = some frameId → page = pageId)
    (htable : pool'.pageTable = pool.pageTable.insert pageId frameId)
    (hdisk : pool'.diskManager = pool.diskManager)
    (hframes : pool'.frames = Function.update pool.frames frameId (.fresh pageId)) :
    pool'.cache = pool.cache.put pageId (Buffer.zero pageSize) := by
  rw [cache_insert hother htable hdisk hframes, Frame.data_fresh, Frame.isDirty_fresh, Cache.put]

/-- A page from the disk takes the place of another page. -/
theorem cache_drop_load (hother : ∀ page, pool.pageTable page = some frameId → page = oldPageId)
    (htable : pool'.pageTable = (pool.pageTable.removePage oldPageId).insert pageId frameId)
    (hdisk : pool'.diskManager = pool.diskManager)
    (hframes : pool'.frames = Function.update pool.frames frameId
      (.loaded pageId (pool.diskManager.page pageId))) :
    pool'.cache = (pool.cache.drop oldPageId).load pageId := by
  rw [cache_replace hother htable hdisk hframes, Frame.data_loaded, Frame.isDirty_loaded,
    Cache.load, Cache.store_drop, store_cache]

/-- A new page takes the place of another page. -/
theorem cache_drop_put (hother : ∀ page, pool.pageTable page = some frameId → page = oldPageId)
    (htable : pool'.pageTable = (pool.pageTable.removePage oldPageId).insert pageId frameId)
    (hdisk : pool'.diskManager = pool.diskManager)
    (hframes : pool'.frames = Function.update pool.frames frameId (.fresh pageId)) :
    pool'.cache = (pool.cache.drop oldPageId).put pageId (Buffer.zero pageSize) := by
  rw [cache_replace hother htable hdisk hframes, Frame.data_fresh, Frame.isDirty_fresh, Cache.put,
    Cache.store_drop]

/-- The dirty bit of a resident page is set or cleared. -/
theorem cache_withDirty (hother : ∀ page, pool.pageTable page = some frameId → page = pageId)
    (htable : pool.pageTable pageId = some frameId)
    (hheld : (pool.frames frameId).heldPage = some pageId) (dirty : Bool) :
    (pool.setFrame frameId ((pool.frames frameId).withDirty dirty)).cache =
      { pool.cache with dirty := Function.update pool.cache.dirty pageId dirty } := by
  have hbit : ((pool.frames frameId).withDirty dirty).isDirty = dirty := by
    rcases Frame.exists_metadata hheld with ⟨found, hfound, -⟩
    unfold Frame.isDirty Frame.withDirty Frame.mapMeta
    rw [hfound, Option.map_some, Option.any_some]
  have hdata : ((pool.frames frameId).withDirty dirty).data = (pool.frames frameId).data :=
    Frame.data_mapMeta ..
  have hcache : (pool.setFrame frameId ((pool.frames frameId).withDirty dirty)).cache = _ :=
    cache_insert hother (PageTable.insert_eq_self htable).symm rfl rfl
  rw [hcache, hbit, hdata, ← held_of_table htable, Function.update_eq_self]

end BufferPoolManager

end Storage
end TaskPool
