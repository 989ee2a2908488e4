import TaskPool.Storage.BufferPool.ClientWrites
import TaskPool.Storage.BufferPool.Fidelity
import TaskPool.Storage.BufferPool.PinUse

/-!
# What concurrent clients see

All clients of a pool share one view of the pages: the bytes of the frame of a resident
page, and those of the disk for any other page.  Sections of concurrent calls move pages
between frames and the disk; none of them changes the view.  A client that writes to a
page it has pinned changes the view of this page only.

Main results:

- Definition `BufferPoolManager.Carries`: what a call relies on about its frame while the
  page in it is on its way from or to the disk.
- Theorem `Effect.view_eq`: no section changes the view.
- Theorem `shared_view`: the pool is one store of pages for all clients, in every
  interleaving in which no write falls between the copy and the clearing of a flush.
-/

namespace TaskPool
namespace Storage

open BufferPoolManager Library

variable {n : Nat}

namespace BufferPoolManager

/-- What a call relies on about the bytes of the frame it has taken. -/
def Carries (pool : BufferPoolManager n) : Pc n → Prop
  | .fetchPublish pageId frameId => pool.WrittenBack frameId pageId
  | .evictWrite _ victim _ oldData => oldData = (pool.frames victim).data
  | .evictRead _ victim oldPageId => pool.WrittenBack victim oldPageId
  | .evictCommit _ victim oldPageId _ => pool.WrittenBack victim oldPageId
  | .flushCheck pageId frameId .deletePage =>
    (pool.frames frameId).isDirty = false → pool.WrittenBack frameId pageId
  | .flushWrite _ frameId _ data .deletePage => data = (pool.frames frameId).data
  | .flushFinish pageId frameId (.ok ()) .deletePage => pool.WrittenBack frameId pageId
  | .deleteFinish pageId frameId => pool.WrittenBack frameId pageId
  | _ => True

variable {pool pool' : BufferPoolManager n} {pageId oldPageId : PageId} {frameId : Fin n}

/-- A page that is not resident is seen as on the disk. -/
theorem view_of_table_none (h : pool.pageTable pageId = none) :
    pool.view pageId = pool.diskManager.page pageId := by
  unfold view
  rw [h]

/-- The view depends on the frames in the table and on the other pages of the disk. -/
theorem view_congr (htable : pool'.pageTable = pool.pageTable)
    (hdata : ∀ page frameId, pool.pageTable page = some frameId →
      (pool'.frames frameId).data = (pool.frames frameId).data)
    (hdisk : ∀ page, pool.pageTable page = none →
      pool'.diskManager.page page = pool.diskManager.page page) : pool'.view = pool.view := by
  ext1 page
  cases hpage : pool.pageTable page with
  | none => rw [view_of_table_none hpage, view_of_table_none (by rw [htable, hpage]), hdisk page hpage]
  | some frameId =>
      rw [view_of_table hpage, view_of_table (by rw [htable, hpage]), hdata page frameId hpage]

/-- The section leaves all bytes where they are. -/
theorem view_still (htable : pool'.pageTable = pool.pageTable)
    (hdisk : pool'.diskManager = pool.diskManager)
    (hdata : ∀ frameId, (pool'.frames frameId).data = (pool.frames frameId).data) :
    pool'.view = pool.view :=
  view_congr htable (fun _ frameId _ => hdata frameId) fun _ _ => by rw [hdisk]

/-- One frame changes, but not its bytes. -/
theorem view_setFrame {frame : Frame} (htable : pool'.pageTable = pool.pageTable)
    (hdisk : pool'.diskManager = pool.diskManager)
    (hframes : pool'.frames = Function.update pool.frames frameId frame)
    (hdata : frame.data = (pool.frames frameId).data) : pool'.view = pool.view := by
  refine view_still htable hdisk fun other => ?_
  rw [hframes]
  by_cases hother : other = frameId
  · rw [hother, Function.update_self, hdata]
  · rw [Function.update_of_ne hother]

/-- The disk gets another version of a page that is in the table. -/
theorem view_writeThen (htable : pool.pageTable pageId = some frameId) (data : Buffer pageSize)
    (outcome : WriteOutcome) (after : Except IoError Unit → Pc n) :
    (pool.writeThen pageId data outcome after).pool.view = pool.view := by
  refine view_congr rfl (fun _ _ _ => rfl) fun page hpage => ?_
  apply DiskManager.page_writePage_of_ne
  rintro rfl
  rw [htable] at hpage
  cases hpage

/-- A page moves from the disk into a frame. -/
theorem view_insert {frame : Frame} (hunmapped : ∀ page, pool.pageTable page ≠ some frameId)
    (hnone : pool.pageTable pageId = none)
    (htable : pool'.pageTable = pool.pageTable.insert pageId frameId)
    (hdisk : pool'.diskManager = pool.diskManager)
    (hframes : pool'.frames = Function.update pool.frames frameId frame)
    (hdata : frame.data = pool.diskManager.page pageId) : pool'.view = pool.view := by
  ext1 page
  by_cases hpage : page = pageId
  · have hself : pool'.pageTable page = some frameId := by
      rw [htable, hpage, PageTable.insert, Function.update_self]
    rw [view_of_table hself, hframes, Function.update_self, hdata, hpage, view_of_table_none hnone]
  · have hsame : pool'.pageTable page = pool.pageTable page := by
      rw [htable, PageTable.insert, Function.update_of_ne hpage]
    cases hmapped : pool.pageTable page with
    | none => rw [view_of_table_none hmapped, view_of_table_none (by rw [hsame, hmapped]), hdisk]
    | some other =>
        have hne : other ≠ frameId := by
          rintro rfl
          exact hunmapped page hmapped
        rw [view_of_table hmapped, view_of_table (by rw [hsame, hmapped]), hframes,
          Function.update_of_ne hne]

/-- A page that is on the disk leaves its frame. -/
theorem view_remove {frame : Frame}
    (hother : ∀ page, pool.pageTable page = some frameId → page = pageId)
    (hmapped : pool.pageTable pageId = some frameId)
    (htable : pool'.pageTable = pool.pageTable.removePage pageId)
    (hdisk : pool'.diskManager = pool.diskManager)
    (hframes : pool'.frames = Function.update pool.frames frameId frame)
    (hwritten : pool.WrittenBack frameId pageId) : pool'.view = pool.view := by
  ext1 page
  by_cases hpage : page = pageId
  · have hnone : pool'.pageTable page = none := by
      rw [htable, hpage, PageTable.removePage, Function.update_self]
    rw [view_of_table_none hnone, hdisk, hpage, view_of_table hmapped, hwritten]
  · have hsame : pool'.pageTable page = pool.pageTable page := by
      rw [htable, PageTable.removePage, Function.update_of_ne hpage]
    cases hpage' : pool.pageTable page with
    | none => rw [view_of_table_none hpage', view_of_table_none (by rw [hsame, hpage']), hdisk]
    | some other =>
        have hne : other ≠ frameId := by
          rintro rfl
          exact hpage (hother page hpage')
        rw [view_of_table hpage', view_of_table (by rw [hsame, hpage']), hframes,
          Function.update_of_ne hne]

/-- A page that is on the disk makes room for another one. -/
theorem view_replace {frame : Frame}
    (hother : ∀ page, pool.pageTable page = some frameId → page = oldPageId)
    (hmapped : pool.pageTable oldPageId = some frameId) (hnone : pool.pageTable pageId = none)
    (htable : pool'.pageTable = (pool.pageTable.removePage oldPageId).insert pageId frameId)
    (hdisk : pool'.diskManager = pool.diskManager)
    (hframes : pool'.frames = Function.update pool.frames frameId frame)
    (hdata : frame.data = pool.diskManager.page pageId)
    (hwritten : pool.WrittenBack frameId oldPageId) : pool'.view = pool.view := by
  have hremoved : (pool.withTable (pool.pageTable.removePage oldPageId)).view = pool.view :=
    view_remove hother hmapped rfl rfl (Function.update_eq_self frameId pool.frames).symm hwritten
  rw [← hremoved]
  refine view_insert ?_ (Layout.removePage_none hnone) htable hdisk hframes hdata
  intro page hpage
  by_cases hold : page = oldPageId
  · have hgone : pool.pageTable.removePage oldPageId page = none := by
      rw [PageTable.removePage, hold, Function.update_self]
    exact absurd (hgone.symm.trans hpage) (Option.some_ne_none frameId).symm
  · have hkept : pool.pageTable.removePage oldPageId page = pool.pageTable page :=
      Function.update_of_ne hold ..
    exact hold (hother page (hkept.symm.trans hpage))

end BufferPoolManager

/-! ## One section -/

namespace Effect

variable {pool : BufferPoolManager n} {pcs : CallId → Option (Pc n)} {slot slot' : Fin n → Slot}
  {callId : CallId} {pc : Pc n} {io : Io} {next : Next n} {pageId oldPageId : PageId}
  {frameId victim : Fin n}

/-- The decision of a fetch changes nothing that is seen. -/
theorem view_fetchStart {missRecorded : Bool}
    (heffect : Effect callId pool slot (.fetchStart pageId missRecorded) io next slot') :
    next.pool.view = pool.view := by
  rcases recordMissOnce_eq pool missRecorded with ⟨metrics, hmetrics⟩
  cases heffect with
  | fetchWait => rfl
  | fetchHit => exact view_setFrame rfl rfl rfl rfl
  | fetchJoin =>
      rw [hmetrics]
      rfl
  | fetchTake =>
      rw [hmetrics]
      exact view_setFrame rfl rfl rfl rfl
  | fetchSleep _ _ hframes | fetchGiveUp _ _ hframes =>
      rw [hmetrics]
      exact view_still rfl rfl fun other => (hframes other).data_eq
  | fetchVictim _ _ hframes =>
      rw [hmetrics]
      exact view_still rfl rfl fun other => (victim_bytes hframes _ other rfl).1

/-- The commit of an eviction changes nothing that is seen, because the victim was written
back. -/
theorem view_evictCommit {buffer : Buffer pageSize} (h : Consistent pool pcs slot)
    (hpc : pcs callId = some (.evictCommit pageId victim oldPageId buffer))
    (hbuffer : buffer = pool.diskManager.page pageId) (hwritten : pool.WrittenBack victim oldPageId)
    (heffect : Effect callId pool slot (.evictCommit pageId victim oldPageId buffer) io next slot') :
    next.pool.view = pool.view := by
  have hslot := h.owned _ _ _ _ hpc rfl
  have hlocated : (slot victim).located = some oldPageId := by
    rw [hslot]
    rfl
  have hnone := (h.layout.incoming victim callId pageId (by rw [hslot]; rfl)).2
  cases heffect with
  | commit =>
      exact view_replace (h.only_of_located hlocated) (h.table_of_located hlocated) hnone rfl rfl rfl
        hbuffer hwritten

/-- The frame of a page that is on the disk is given back. -/
theorem view_dropPage (h : Consistent pool pcs slot) (hlocated : (slot frameId).located = some pageId)
    {pool' : BufferPoolManager n} (htable : pool'.pageTable = pool.pageTable)
    (hview : pool'.view = pool.view) (hwritten : pool'.WrittenBack frameId pageId) :
    (pool'.dropPage pageId frameId).pool.view = pool.view := by
  have honly : ∀ page, pool'.pageTable page = some frameId → page = pageId := by
    rw [htable]
    exact h.only_of_located hlocated
  have hmapped : pool'.pageTable pageId = some frameId := by
    rw [htable]
    exact h.table_of_located hlocated
  rw [← hview]
  exact view_remove honly hmapped rfl rfl rfl hwritten

/-- No section changes the view. -/
theorem view_eq (heffect : Effect callId pool slot pc io next slot') (h : Consistent pool pcs slot)
    (hb : Backed pool pcs slot) (hcarries : pool.Carries pc) (hpc : pcs callId = some pc)
    (hplain : pc.Plain) : next.pool.view = pool.view := by
  have hagrees := hb.agrees callId pc hpc
  have howned := h.owned callId pc
  cases pc with
  | fetchStart => exact heffect.view_fetchStart
  | fetchLoad pageId frameId buffer =>
      have hlocated : (slot frameId).located = none := by
        rw [howned _ _ hpc rfl]
        rfl
      cases heffect with
      | load =>
          refine view_congr rfl (fun page other hpage => ?_) fun _ _ => rfl
          have hne : other ≠ frameId := by
            rintro rfl
            exact h.not_table_of_located hlocated page hpage
          exact congrArg Frame.data (Function.update_of_ne hne ..)
  | fetchPublish pageId frameId =>
      have hslot := howned _ _ hpc rfl
      have hnone := (h.layout.incoming frameId callId pageId (by rw [hslot]; rfl)).2
      cases heffect with
      | publish =>
          exact view_insert (h.not_table_of_located (by rw [hslot]; rfl)) hnone rfl rfl
            (Function.update_eq_self frameId pool.frames).symm hcarries
  | evictWrite pageId victim oldPageId oldData =>
      have htable : pool.pageTable oldPageId = some victim :=
        h.table_of_located (by rw [howned _ _ hpc rfl]; rfl)
      cases heffect <;> exact view_writeThen htable _ _ _
  | evictCommit => exact heffect.view_evictCommit h hpc hagrees hcarries
  | deleteStart pageId =>
      cases heffect with
      | deleteFail => rfl
      | @deleteClean _ frameId hslot _ hclean =>
          have hlocated : (slot frameId).located = some pageId := by
            rw [hslot]
            rfl
          have hwritten := hb.clean frameId pageId (by rw [hslot]; rfl) hclean
          have hframe : (pool.reserveFrame frameId).frames frameId =
              { pool.frames frameId with state := .reserved } := Function.update_self ..
          refine view_dropPage h hlocated rfl (view_setFrame rfl rfl rfl rfl) ?_
          rw [WrittenBack, hframe]
          exact hwritten
      | deleteTake => exact view_setFrame rfl rfl rfl rfl
  | deleteFinish pageId frameId =>
      cases heffect with
      | deleteDone =>
          exact view_dropPage h (by rw [howned _ _ hpc rfl]; rfl) rfl rfl hcarries
  | flushWrite pageId frameId dirtyPageId data caller =>
      have htable : pool.pageTable dirtyPageId = some frameId := by
        rw [hagrees.1]
        apply h.table_of_located
        rw [howned _ _ hpc rfl]
        cases caller <;> rfl
      cases heffect
      exact view_writeThen htable _ _ _
  | flushFinish pageId frameId written caller =>
      cases heffect with
      | flushDone => cases caller <;> exact view_setFrame rfl rfl rfl rfl
      | flushUndo => exact absurd hplain id
  | flushCheck pageId frameId caller => cases heffect <;> cases caller <;> rfl
  | fetchReadFailed | evictFailed | flushRelease =>
      cases heffect
      exact view_setFrame rfl rfl rfl rfl
  | unpinStart =>
      cases heffect with
      | unpinFail => rfl
      | unpin => exact view_setFrame rfl rfl rfl rfl
  | markDirtyStart =>
      cases heffect with
      | markDirtyFail => rfl
      | markDirty => exact view_setFrame rfl rfl rfl rfl
  | flushStart =>
      cases heffect with
      | flushFail => rfl
      | flushClean => exact view_setFrame rfl rfl rfl rfl
      | flushTake => exact view_setFrame rfl rfl rfl rfl
  | deleteRollback | newStart | newWrite | newRollback | newCommit => exact absurd hplain id
  | _ => cases heffect <;> rfl

/-! ### The bytes that calls rely on -/

/-- A section leaves the bytes and the dirty bits of the frames of other calls alone. -/
theorem bytes_kept (heffect : Effect callId pool slot pc io next slot')
    (h : Consistent pool pcs slot) (hpc : pcs callId = some pc) (hplain : pc.Plain)
    {caller : CallId} (howner : (slot frameId).owner = some caller) (hne : caller ≠ callId) :
    (next.pool.frames frameId).data = (pool.frames frameId).data ∧
      (next.pool.frames frameId).isDirty = (pool.frames frameId).isDirty := by
  have howned := h.owned callId pc
  -- a section that changes one frame, which no other call has taken
  have hone : ∀ (other : Fin n) (frame : Frame),
      next.pool.frames = Function.update pool.frames other frame →
      (slot other).owner = none ∨ (slot other).owner = some callId →
      (next.pool.frames frameId).data = (pool.frames frameId).data ∧
        (next.pool.frames frameId).isDirty = (pool.frames frameId).isDirty := by
    intro other frame hframes hother
    have hframe : frameId ≠ other := by
      rintro rfl
      rw [howner] at hother
      rcases hother with hother | hother
      · cases hother
      · exact hne (Option.some_inj.mp hother)
    rw [hframes, Function.update_of_ne hframe]
    exact ⟨rfl, rfl⟩
  cases pc with
  | fetchStart pageId missRecorded =>
      rcases recordMissOnce_eq pool missRecorded with ⟨metrics, hmetrics⟩
      cases heffect with
      | fetchHit hslot => exact hone _ _ rfl (.inl (by rw [hslot]; rfl))
      | fetchWait => exact ⟨rfl, rfl⟩
      | fetchJoin =>
          rw [hmetrics]
          exact ⟨rfl, rfl⟩
      | fetchTake _ _ hfree =>
          rw [hmetrics] at hone ⊢
          refine hone _ _ rfl (.inl ?_)
          rw [(h.layout.mem_free _).mp (hfree ▸ List.mem_cons_self)]
          rfl
      | fetchSleep _ _ hframes | fetchGiveUp _ _ hframes =>
          rw [hmetrics]
          exact ⟨(hframes frameId).data_eq, (hframes frameId).isDirty_eq⟩
      | fetchVictim _ _ hframes =>
          rw [hmetrics]
          exact victim_bytes hframes _ frameId rfl
  | fetchLoad _ other | fetchReadFailed _ other | evictCommit _ other | evictFailed _ other
  | flushRelease _ other | deleteFinish _ other =>
      cases heffect
      exact hone other _ rfl (.inr (by rw [howned _ _ hpc rfl]; rfl))
  | unpinStart pageId =>
      cases heffect with
      | unpinFail => exact ⟨rfl, rfl⟩
      | unpin hslot => exact hone _ _ rfl (.inl (by rw [hslot]; rfl))
  | markDirtyStart pageId =>
      cases heffect with
      | markDirtyFail => exact ⟨rfl, rfl⟩
      | markDirty hslot => exact hone _ _ rfl (.inl (by rw [hslot]; rfl))
  | flushStart pageId =>
      cases heffect with
      | flushFail => exact ⟨rfl, rfl⟩
      | flushClean hslot => exact hone _ _ rfl (.inl (by rw [hslot]; rfl))
      | flushTake hslot => exact hone _ _ rfl (.inl (by rw [hslot]; rfl))
  | deleteStart pageId =>
      cases heffect with
      | deleteFail => exact ⟨rfl, rfl⟩
      | deleteClean hslot => exact hone _ _ (Function.update_idem ..) (.inl (by rw [hslot]; rfl))
      | deleteTake hslot => exact hone _ _ rfl (.inl (by rw [hslot]; rfl))
  | flushFinish pageId other written caller =>
      have hother : (slot other).owner = some callId := by
        rw [howned _ _ hpc rfl]
        cases caller <;> rfl
      cases heffect <;> cases caller <;> exact hone other _ rfl (.inr hother)
  | flushCheck pageId other caller =>
      cases heffect <;> cases caller <;> exact ⟨rfl, rfl⟩
  | deleteRollback | newStart | newWrite | newRollback | newCommit => exact absurd hplain id
  | _ => cases heffect <;> exact ⟨rfl, rfl⟩

end Effect

/-- The page that a section writes to the disk. -/
def Pc.writes : Pc n → Option PageId
  | .evictWrite _ _ oldPageId _ => some oldPageId
  | .flushWrite _ _ dirtyPageId _ _ => some dirtyPageId
  | .newWrite _ _ oldPageId _ => some oldPageId
  | _ => none

namespace Effect

variable {pool : BufferPoolManager n} {pcs : CallId → Option (Pc n)} {slot slot' : Fin n → Slot}
  {callId : CallId} {pc : Pc n} {io : Io} {next : Next n} {pageId oldPageId : PageId}
  {frameId victim : Fin n}

/-- Only a write changes the disk, and only its page. -/
theorem page_kept (heffect : Effect callId pool slot pc io next slot')
    (hwrites : pc.writes ≠ some pageId) :
    next.pool.diskManager.page pageId = pool.diskManager.page pageId := by
  have hwrite : ∀ (page : PageId) (data : Buffer pageSize) (outcome : WriteOutcome),
      some page ≠ some pageId →
      (pool.diskManager.writePage page data outcome).2.page pageId = pool.diskManager.page pageId :=
    fun page data outcome hpage =>
      DiskManager.page_writePage_of_ne _ (fun heq => hpage (by rw [heq])) data outcome
  cases pc with
  | fetchStart pageId missRecorded =>
      rcases recordMissOnce_eq pool missRecorded with ⟨metrics, hmetrics⟩
      cases heffect with
      | fetchWait => rfl
      | fetchHit => rfl
      | fetchJoin => rw [hmetrics]
      | _ =>
          rw [hmetrics]
          rfl
  | evictWrite | flushWrite | newWrite => cases heffect <;> exact hwrite _ _ _ hwrites
  | flushCheck _ _ caller | flushFinish _ _ _ caller => cases heffect <;> cases caller <;> rfl
  | _ => cases heffect <;> rfl

/-- After its decision a fetch has the bytes of a dirty victim. -/
theorem carries_fetchStart {missRecorded : Bool} (hb : Backed pool pcs slot)
    (heffect : Effect callId pool slot (.fetchStart pageId missRecorded) io next slot') :
    next.pool.Carries next.pc := by
  cases heffect with
  | @fetchVictim _ _ clock frames victim oldPageId _ _ hframes hslot _ =>
      have hframe : ∀ pool' : BufferPoolManager n, pool'.frames = frames →
          (pool'.reserveFrame victim).frames victim = { frames victim with state := .reserved } := by
        rintro pool' rfl
        exact Function.update_self ..
      have hreserved := hframe (((pool.recordMissOnce missRecorded).insertLoad pageId callId).swept
        clock frames) rfl
      by_cases hdirty : (frames victim).isDirty = true
      · rw [if_pos hdirty]
        exact (congrArg Frame.data hreserved).symm
      · -- a clean victim is on the disk
        have hclean : (pool.frames victim).isDirty = false := by
          rw [← (hframes victim).isDirty_eq, ← Bool.not_eq_true]
          exact hdirty
        have hwritten := hb.clean victim oldPageId (by rw [hslot]; rfl) hclean
        rw [← (hframes victim).data_eq, ← diskManager_recordMissOnce pool missRecorded] at hwritten
        rw [if_neg hdirty]
        exact (congrArg Frame.data hreserved).trans hwritten
  | _ => trivial

/-- A call that has taken a frame relies on what its sections have seen. -/
theorem carries_next (heffect : Effect callId pool slot pc io next slot')
    (hb : Backed pool pcs slot) (hcarries : pool.Carries pc) (hpc : pcs callId = some pc)
    (hplain : pc.Plain) (hio : io.Succeeds) : next.pool.Carries next.pc := by
  have hagrees := hb.agrees callId pc hpc
  cases pc with
  | fetchStart => exact heffect.carries_fetchStart hb
  | fetchLoad pageId frameId buffer =>
      cases heffect with
      | load =>
          have hframe : (pool.setFrame frameId (.loaded pageId buffer)).frames frameId =
              .loaded pageId buffer := Function.update_self ..
          exact (congrArg Frame.data hframe).trans hagrees
  | evictWrite pageId victim oldPageId oldData =>
      cases heffect with
      | evictWriteOk =>
          have hpage : (pool.writeThen oldPageId oldData .ok fun _ =>
              Pc.evictRead pageId victim oldPageId).pool.diskManager.page oldPageId = oldData :=
            DiskManager.page_writePage_ok ..
          exact hcarries.symm.trans hpage.symm
      | evictWriteFail => trivial
  | evictRead =>
      cases heffect with
      | evictReadOk => exact hcarries
      | evictReadFail => trivial
  | deleteStart pageId =>
      cases heffect with
      | @deleteTake _ frameId _ _ hdirty =>
          have hframe : (pool.reserveFrame frameId).frames frameId =
              { pool.frames frameId with state := .reserved } := Function.update_self ..
          intro hclean
          have hstill : (pool.frames frameId).isDirty = false := by
            rw [hframe] at hclean
            exact hclean
          rw [hdirty] at hstill
          cases hstill
      | _ => trivial
  | flushCheck pageId frameId caller =>
      cases heffect with
      | checkDirty => cases caller <;> trivial
      | checkClean hclean =>
          cases caller with
          | flushPage => trivial
          | deletePage => exact hcarries hclean
  | flushWrite pageId frameId dirtyPageId data caller =>
      rcases hagrees with ⟨rfl, -⟩
      cases heffect with
      | @flushWrite _ _ _ _ _ outcome =>
          cases outcome with
          | fail error left => exact absurd hio id
          | ok =>
              cases caller with
              | flushPage => trivial
              | deletePage => exact hcarries.symm.trans (DiskManager.page_writePage_ok ..).symm
  | flushFinish pageId frameId written caller =>
      cases heffect with
      | flushUndo => exact absurd hplain id
      | flushDone =>
          cases caller with
          | flushPage => trivial
          | deletePage =>
              have hframe : (pool.setFrame frameId ((pool.frames frameId).withDirty false)).frames
                  frameId = (pool.frames frameId).withDirty false := Function.update_self ..
              exact (congrArg Frame.data hframe).trans hcarries
  | fetchNotify waiter result =>
      cases heffect
      cases result <;> trivial
  | _ => cases heffect <;> trivial

end Effect

namespace BufferPoolManager.Carries

variable {pool pool' : BufferPoolManager n} {pc : Pc n}

/-- Signals carry no bytes. -/
theorem receive (h : pool.Carries pc) (signal : Signal) : pool.Carries (pc.receive signal) := by
  cases pc <;> exact h

/-- A call starts without a frame to rely on. -/
theorem entry (pool : BufferPoolManager n) (call : Call) : pool.Carries call.entry := by
  cases call <;> trivial

/-- What a call relies on concerns its frame, unless it only flushes it, and the page that
belongs into it. -/
theorem congr (h : pool.Carries pc) (callId : CallId)
    (hframe : ∀ frameId taken, pc.owned callId = some (frameId, taken) →
      (∀ pageId, taken ≠ .flushing callId pageId) →
      (pool'.frames frameId).data = (pool.frames frameId).data ∧
        (pool'.frames frameId).isDirty = (pool.frames frameId).isDirty)
    (hpage : ∀ frameId taken pageId, pc.owned callId = some (frameId, taken) →
      taken.located = some pageId ∨ taken.incoming = some (callId, pageId) →
      pool'.diskManager.page pageId = pool.diskManager.page pageId) : pool'.Carries pc := by
  have hwritten : ∀ {frameId taken pageId}, pc.owned callId = some (frameId, taken) →
      (∀ pageId, taken ≠ .flushing callId pageId) →
      taken.located = some pageId ∨ taken.incoming = some (callId, pageId) →
      pool.WrittenBack frameId pageId → pool'.WrittenBack frameId pageId := by
    intro frameId taken pageId howned htaken huses hbefore
    exact (hframe _ _ howned htaken).1.trans (hbefore.trans (hpage _ _ _ howned huses).symm)
  cases pc with
  | fetchPublish => exact hwritten rfl nofun (.inr rfl) h
  | evictWrite => exact h.trans (hframe _ _ rfl nofun).1.symm
  | evictRead => exact hwritten rfl nofun (.inl rfl) h
  | evictCommit => exact hwritten rfl nofun (.inl rfl) h
  | deleteFinish => exact hwritten rfl nofun (.inl rfl) h
  | flushCheck pageId frameId caller =>
      cases caller with
      | flushPage => trivial
      | deletePage =>
          intro hclean
          rw [(hframe _ _ rfl nofun).2] at hclean
          exact hwritten rfl nofun (.inl rfl) (h hclean)
  | flushWrite pageId frameId dirtyPageId data caller =>
      cases caller with
      | flushPage => trivial
      | deletePage => exact h.trans (hframe _ _ rfl nofun).1.symm
  | flushFinish pageId frameId written caller =>
      cases written with
      | error e => trivial
      | ok written =>
          cases caller with
          | flushPage => trivial
          | deletePage => exact hwritten rfl nofun (.inl rfl) h
  | _ => trivial

end BufferPoolManager.Carries

/-- A section writes the page of its own frame. -/
theorem BufferPoolManager.Agrees.writes_located {pool : BufferPoolManager n} {pc : Pc n}
    (h : pool.Agrees pc) (callId : CallId) {pageId : PageId} (hwrites : pc.writes = some pageId) :
    ∃ frameId taken, pc.owned callId = some (frameId, taken) ∧ taken.located = some pageId := by
  cases pc with
  | evictWrite | newWrite => exact ⟨_, _, rfl, hwrites⟩
  | flushWrite page frameId dirtyPageId data caller =>
      rw [Pc.writes, h.1] at hwrites
      exact ⟨_, _, rfl, by cases caller <;> exact hwrites⟩
  | _ => cases hwrites

/-- The other calls keep what they rely on. -/
theorem Effect.carries_others {pool : BufferPoolManager n} {pcs : CallId → Option (Pc n)}
    {slot slot' : Fin n → Slot} {callId caller : CallId} {pc other : Pc n} {io : Io} {next : Next n}
    (heffect : Effect callId pool slot pc io next slot') (h : Consistent pool pcs slot)
    (hb : Backed pool pcs slot) (hpc : pcs callId = some pc) (hplain : pc.Plain)
    (hother : pcs caller = some other) (hne : caller ≠ callId) (hcarries : pool.Carries other) :
    next.pool.Carries other := by
  refine hcarries.congr caller ?_ ?_
  · intro frameId taken howned _
    refine heffect.bytes_kept h hpc hplain ?_ hne
    rw [h.owned caller other frameId taken hother howned]
    exact owner_of_owned howned
  · intro frameId taken pageId howned huses
    apply heffect.page_kept
    intro hwrites
    rcases (hb.agrees callId pc hpc).writes_located callId hwrites with
      ⟨frame, taken', howned', hlocated⟩
    have hslot := h.owned caller other frameId taken hother howned
    have hslot' := h.owned callId pc frame taken' hpc howned'
    rw [← hslot'] at hlocated
    rw [← hslot] at huses
    -- the page is in the frame of one call only
    rw [h.eq_of_uses hlocated caller huses] at hslot
    have howner := owner_of_owned howned
    rw [← hslot, hslot', owner_of_owned howned', Option.some_inj] at howner
    exact hne howner.symm

/-! ## Every interleaving -/

/-- A write of a whole page to the frame of a page in the table. -/
theorem BufferPoolManager.view_modifyFrame {pool : BufferPoolManager n} {pageId : PageId}
    {frameId : Fin n} (hmapped : pool.pageTable pageId = some frameId)
    (honly : ∀ page, pool.pageTable page = some frameId → page = pageId) (data : List UInt8)
    (page : PageId) : (pool.modifyFrame frameId data).view page =
      if h : data.length = pageSize ∧ page = pageId then ⟨data, h.1⟩ else pool.view page := by
  have htable : (pool.modifyFrame frameId data).pageTable = pool.pageTable := rfl
  cases hpage : pool.pageTable page with
  | none =>
      have hne : ¬ (data.length = pageSize ∧ page = pageId) := by
        rintro ⟨-, rfl⟩
        rw [hmapped] at hpage
        cases hpage
      rw [dif_neg hne, view_of_table_none (by rw [htable, hpage]), view_of_table_none hpage]
      rfl
  | some other =>
      have hmodified : (pool.modifyFrame frameId data).pageTable page = some other := by
        rw [htable, hpage]
      rw [view_of_table hmodified, view_of_table hpage, modifyFrame, frames_setFrame]
      by_cases hother : other = frameId
      · have heq : page = pageId := honly page (by rw [hpage, hother])
        rw [hother, Function.update_self]
        by_cases hlength : data.length = pageSize
        · rw [dif_pos ⟨hlength, heq⟩, Frame.modifyData_eq hlength]
          rfl
        · rw [dif_neg fun h => hlength h.1, Frame.modifyData_of_length_ne hlength]
      · have hne : ¬ (data.length = pageSize ∧ page = pageId) := by
          rintro ⟨-, rfl⟩
          rw [hmapped, Option.some_inj] at hpage
          exact hother hpage.symm
        rw [dif_neg hne, Function.update_of_ne hother]

/-- The page that a `fetch_page` is called for. -/
def Call.wanted : Call → Option PageId
  | .fetchPage pageId => some pageId
  | _ => none

namespace System

variable {s s' : System n} {callId : CallId} {pageId : PageId} {frameId : Fin n}

/-- What clients see after a move: a write of a whole page changes the page that the
client has fetched, and nothing else changes anything. -/
def viewAfter (s : System n) : Move → PageId → Buffer pageSize
  | .event _ => s.pool.view
  | .modifyData callId data => fun page =>
    if h : data.length = pageSize ∧
        ((s.calls callId).bind fun activity => activity.call.wanted) = some page then
      ⟨data, h.1⟩
    else s.pool.view page

/-- Clients unpin what they have pinned, and write to pages they have pinned. -/
def Disciplined (s : System n) : Move → Prop
  | .event e => s.Unpins e
  | .modifyData callId _ => ∃ pageId frameId, s.Holds callId pageId frameId

/-- A client that has pinned a page finds in its frame what all others see. -/
def ReadsView (s : System n) : Prop :=
  ∀ callId activity pageId frameId, s.calls callId = some activity →
    activity.call = .fetchPage pageId → activity.pc = .returned (.fetched frameId) →
    ¬ s.Released callId → (s.pool.frames frameId).data = s.pool.view pageId

/-- The invariant of the runs in which clients keep to this. -/
structure Serving (s : System n) : Prop where
  sheltered : s.Sheltered
  covered : s.Covered
  carries : ∀ callId pc, s.pcs callId = some pc → s.pool.Carries pc

/-- A ready system whose clean pages are on the disk meets the invariant. -/
theorem Ready.serving (h : s.Ready) (hstored : s.pool.CleanStored) : s.Serving where
  sheltered := h.toIdle.sheltered hstored
  covered := h.covered
  carries := by
    intro callId pc hpc
    rcases h.toIdle.returned_pcs hpc with ⟨result, rfl⟩
    trivial

/-- The invariant gives every client with a pin what all the others see. -/
theorem Serving.readsView (h : s.Serving) : s.ReadsView := by
  intro callId activity pageId frameId hactivity hcall hpc hreleased
  have hstays := h.covered.fetchedPagesStay callId activity pageId frameId hactivity hcall hpc
    hreleased
  exact (view_of_table hstays.1).symm

/-- A call starts or runs a section, which nobody sees. -/
theorem Serving.event {e : Event} (h : s.Serving) (hstep : s.Step e s') (hplain : e.Plain)
    (hunpins : s.Unpins e) (hbound : s'.PinsBounded) :
    s'.Serving ∧ s'.pool.view = s.pool.view := by
  have hsheltered := h.sheltered.event hstep hplain
  have hcovered := h.covered.step hstep hplain hunpins hbound
  rcases h.sheltered with ⟨hordered, slot, hconsistent, hbacked⟩
  rcases step_cases hstep with ⟨client, call, releases, rfl, rfl⟩ |
    ⟨callId, io, activity, next, rfl, hactivity, hnext, rfl⟩
  · rcases record_eq s.pool call with ⟨metrics, hmetrics⟩
    have hpool : (s.launch client call releases).pool = { s.pool with metrics := metrics } := hmetrics
    refine ⟨⟨hsheltered, hcovered, ?_⟩, by rw [hpool]; rfl⟩
    intro caller pc hpc
    rw [hpool]
    rcases pcs_launch_cases hpc with ⟨-, rfl⟩ | ⟨-, hpc⟩
    · exact Carries.entry _ call
    · exact (h.carries caller pc hpc).congr caller (fun _ _ _ _ => ⟨rfl, rfl⟩) fun _ _ _ _ _ => rfl
  · have hpc := pcs_eq_some hactivity
    have hplainPc := hordered.plain callId _ hpc
    rcases hconsistent.advance_effect hpc hnext with ⟨slot', heffect⟩
    have hcarries := h.carries callId _ hpc
    refine ⟨⟨hsheltered, hcovered, ?_⟩,
      heffect.view_eq hconsistent hbacked hcarries hpc hplainPc⟩
    intro caller pc hcaller
    rcases pcs_resume_cases hcaller with ⟨-, rfl⟩ | ⟨hne, before, hbefore, rfl⟩
    · exact (heffect.carries_next hbacked hcarries hpc hplainPc hplain).receive next.signal
    · exact (heffect.carries_others hconsistent hbacked hpc hplainPc hbefore hne
        (h.carries caller before hbefore)).receive next.signal

/-- A client writes to a page it has pinned, which everybody sees. -/
theorem Serving.write {data : List UInt8} (h : s.Serving)
    (hframe : s.fetchedFrame callId = some frameId)
    (hholds : ∃ pageId frameId, s.Holds callId pageId frameId)
    (hapart : s.WritesApart (.modifyData callId data)) :
    Serving { s with pool := s.pool.modifyFrame frameId data } ∧
      (s.pool.modifyFrame frameId data).view = s.viewAfter (.modifyData callId data) := by
  rcases hholds with ⟨pageId, frame, ⟨activity, hactivity, hpinned⟩, hreleased⟩
  have hreturned : activity.pc = .returned (.fetched frameId) := by
    rw [fetchedFrame, pcs_eq_some hactivity, Option.bind_some] at hframe
    unfold Pc.fetched at hframe
    split at hframe
    · rename_i hpc
      rw [hpc, Option.some_inj.mp hframe]
    · cases hframe
  -- the frame is the one of the fetched page
  have hcall : activity.call = .fetchPage pageId ∧ frame = frameId := by
    rw [hreturned] at hpinned
    cases hcase : activity.call with
    | fetchPage page =>
        rw [hcase] at hpinned
        cases hpinned
        exact ⟨rfl, rfl⟩
    | _ =>
        rw [hcase] at hpinned
        cases hpinned
  rcases hcall with ⟨hcall, rfl⟩
  have hsheltered := h.sheltered.write hframe hapart
  rcases h.covered with ⟨hordered, slot, hconsistent, hslot⟩
  have hlocated : (slot frame).located = some pageId := by
    rcases hslot.located callId activity pageId frame hactivity hpinned hreleased with hin | hpc
    · exact hin
    · rw [hreturned] at hpc
      cases hpc
  have hpins := hslot.pins_pos hordered ⟨⟨activity, hactivity, hpinned⟩, hreleased⟩
  refine ⟨⟨hsheltered, ⟨hsheltered.1, slot, hconsistent.modifyFrame frame data, ?_⟩, ?_⟩, ?_⟩
  · refine ⟨hslot.fetching, hslot.releasing, hslot.unpinning, hslot.exclusive, hslot.located, ?_⟩
    intro caller page other hother
    have hpinsOther : ((s.pool.modifyFrame frame data).frames other).pins =
        (s.pool.frames other).pins := by
      rw [BufferPoolManager.modifyFrame, frames_setFrame]
      by_cases heq : other = frame
      · rw [heq, Function.update_self, Frame.pins_modifyData]
      · rw [Function.update_of_ne heq]
    exact (hslot.count caller page other hother).trans_eq hpinsOther.symm
  · intro caller pc (hpc : s.pcs caller = some pc)
    refine (h.carries caller pc hpc).congr caller ?_ fun _ _ _ _ _ => rfl
    intro other taken howned htaken
    have htakenSlot := hconsistent.owned caller pc other taken hpc howned
    -- a frame in the hand of another call is unpinned, unless it is flushed
    have hne : other ≠ frame := by
      rintro rfl
      have howner := owner_of_owned howned
      have hok := (hconsistent.frame other).pins_ok
      rw [htakenSlot] at hlocated hok
      cases taken with
      | flushing owner page =>
          rw [Option.some_inj.mp howner] at htaken
          exact htaken page rfl
      | evicting | deleting | allocating => exact hpins.ne' hok
      | free | resident => cases howner
      | loading | loaded => cases hlocated
    rw [BufferPoolManager.modifyFrame, frames_setFrame, Function.update_of_ne hne]
    exact ⟨rfl, rfl⟩
  · ext1 page
    have hwanted : ((s.calls callId).bind fun activity => activity.call.wanted) = some pageId := by
      rw [hactivity, Option.bind_some, hcall]
      rfl
    rw [view_modifyFrame (hconsistent.table_of_located hlocated)
      (hconsistent.only_of_located hlocated) data page]
    dsimp only [viewAfter]
    by_cases hwrites : data.length = pageSize ∧ page = pageId
    · rw [dif_pos hwrites, dif_pos ⟨hwrites.1, by rw [hwanted, hwrites.2]⟩]
    · rw [dif_neg hwrites, dif_neg]
      rw [hwanted, Option.some_inj]
      exact fun hboth => hwrites ⟨hboth.1, hboth.2.symm⟩

/-- A move of a client that keeps to this, and what everybody sees after it. -/
theorem Serving.move {m : Move} (h : s.Serving) (hmove : s.move m = some s') (hplain : m.Plain)
    (hdisciplined : s.Disciplined m) (hbound : s'.PinsBounded) (hapart : s.WritesApart m) :
    s'.Serving ∧ s'.pool.view = s.viewAfter m := by
  cases m with
  | event e => exact h.event hmove hplain hdisciplined hbound
  | modifyData callId data =>
      rcases Option.map_eq_some_iff.mp hmove with ⟨frameId, hframe, rfl⟩
      exact h.write hframe hdisciplined hapart

end System

/-- From a ready system whose clean pages are on the disk, along every run without
`new_page` and disk failures, in which clients unpin and write only what they have pinned,
no page ever has more than 255 pins, and no write falls between the copy and the clearing
of a flush: writes are all that changes what clients see, and every client that has
pinned a page finds in its frame what all the others see. -/
theorem shared_view {s : System n} (hready : s.Ready) (hstored : s.pool.CleanStored)
    {path : List (Move × System n)}
    (hpath : IsPath (fun s m s' => s.move m = some s') s path)
    (hplain : EveryStep (fun _ m _ => m.Plain) s path)
    (hdisciplined : EveryStep (fun s m _ => s.Disciplined m) s path)
    (hbound : EveryState System.PinsBounded s path)
    (hapart : EveryStep (fun s m _ => s.WritesApart m) s path) :
    EveryStep (fun s m s' => s'.pool.view = s.viewAfter m) s path ∧
      EveryState System.ReadsView s path := by
  have hconditions := ((hplain.and hdisciplined).and (hbound.everyStep.imp fun _ _ _ => And.right)).and
    hapart
  have hserving := hready.serving hstored
  refine ⟨hpath.everyStep hconditions hserving fun _ _ _ h hstep hall => ?_, ?_⟩
  · exact h.move hstep hall.1.1.1 hall.1.1.2 hall.1.2 hall.2
  · have hevery : EveryState System.Serving s path :=
      hpath.everyState hconditions hserving fun _ _ _ h hstep hall =>
        (h.move hstep hall.1.1.1 hall.1.1.2 hall.1.2 hall.2).1
    exact hevery.imp fun _ => System.Serving.readsView

/-! ## Checking what clients do -/

namespace System

variable {s : System n}

/-- The client unpins or writes only what a call of it has pinned. -/
def movesPinned (s : System n) : Move → Bool
  | .event e => s.usesPins e
  | .modifyData callId _ => (s.calls callId).any fun activity =>
    activity.call.wanted.any fun pageId => s.pinsFor activity.client pageId callId

/-- A move that passes the test keeps the discipline. -/
theorem disciplined_of_movesPinned (h : s.Ordered) {m : Move} (hcheck : s.movesPinned m = true) :
    s.Disciplined m := by
  cases m with
  | event e => exact (unpins_and_marks h hcheck).1
  | modifyData callId data =>
      rcases (Option.any_eq_true _ _).mp hcheck with ⟨activity, -, hwanted⟩
      rcases (Option.any_eq_true _ _).mp hwanted with ⟨pageId, -, hpins⟩
      rcases (pinsFor_spec h hpins).1 with ⟨_, frameId, -, -, -, hholds⟩
      exact ⟨pageId, frameId, hholds⟩

end System

/-- A client writes to a page before and after a flush of it and unpins it; then another
client fetches a second page into the only frame. -/
def writeAndEvict : List Move :=
  writeAround ++ [.event (.start 0 (.unpinPage 0) (some 0)), .event (.proceed 2 .none),
    .event (.start 1 (.fetchPage 1) none), .event (.proceed 3 .none),
    .event (.proceed 3 (.write .ok)), .event (.proceed 3 (.read (.ok fun _ => 4096))),
    .event (.proceed 3 .none), .event (.proceed 3 .none)]

/-- The path of the moves above. -/
def writeAndEvictPath : List (Move × System 1) :=
  follow System.move (System.new 1 []) writeAndEvict

/-- The moves are possible one after the other. -/
theorem isPath_writeAndEvict :
    IsPath (fun s m s' => s.move m = some s') (System.new 1 []) writeAndEvictPath :=
  isPath_follow System.move (System.new 1 []) writeAndEvict

/-- No move is a `new_page` or meets a failing disk. -/
theorem writeAndEvict_plain : EveryStep (fun _ m _ => m.Plain) (System.new 1 []) writeAndEvictPath := by
  refine everyStep_follow ?_ _
  simp [writeAndEvict, writeAround, Move.Plain, Event.Plain, Io.Succeeds, -List.reduceReplicate]

/-- All moves pass the tests, and no write falls into a flush. -/
theorem writeAndEvict_checks :
    writeAndEvictPath.length = 22 ∧
      EveryStep (fun s m s' => (s.movesPinned m = true ∧ s'.nextCall ≤ 255) ∧ s.WritesApart m)
        (System.new 1 []) writeAndEvictPath := by
  decide +kernel

/-- The clients unpin and write what they have pinned. -/
theorem writeAndEvict_disciplined :
    EveryStep (fun s m _ => s.Disciplined m) (System.new 1 []) writeAndEvictPath := by
  have hordered : EveryState System.Ordered (System.new 1 []) writeAndEvictPath := by
    refine isPath_writeAndEvict.everyState writeAndEvict_plain (System.new_idle 1 []).ordered ?_
    intro s m s' h hmove hplain
    cases m with
    | event e => exact h.step hmove hplain
    | modifyData callId data =>
        rcases Option.map_eq_some_iff.mp hmove with ⟨frameId, -, rfl⟩
        rcases h.consistent with ⟨slot, hslot⟩
        exact ⟨h.lt_nextCall, h.plain, slot, hslot.modifyFrame frameId data⟩
  exact (hordered.everyStep.and writeAndEvict_checks.2).imp fun _ _ _ h =>
    System.disciplined_of_movesPinned h.1.1 h.2.1.1

/-- There are fewer calls than a page may have pins. -/
theorem writeAndEvict_pinsBounded :
    EveryState System.PinsBounded (System.new 1 []) writeAndEvictPath := by
  have hfew : EveryState (fun s : System 1 => s.nextCall ≤ 255) (System.new 1 []) writeAndEvictPath :=
    (writeAndEvict_checks.2.imp fun _ _ _ h => h.1.2).everyState (Nat.zero_le _)
  exact hfew.imp fun s hle pageId => (s.card_holders_le pageId).trans hle

/-- The page of the first client is seen unchanged when the second one evicts it. -/
theorem shared_view_writeAndEvict :
    writeAndEvictPath.length = 22 ∧
      EveryStep (fun s m s' => s'.pool.view = s.viewAfter m) (System.new 1 []) writeAndEvictPath ∧
        EveryState System.ReadsView (System.new 1 []) writeAndEvictPath :=
  ⟨writeAndEvict_checks.1, shared_view (System.new_ready 1 []) (new_cleanStored 1 [])
    isPath_writeAndEvict writeAndEvict_plain writeAndEvict_disciplined writeAndEvict_pinsBounded
    (writeAndEvict_checks.2.imp fun _ _ _ => And.right)⟩

end Storage
end TaskPool
