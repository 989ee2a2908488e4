import TaskPool.Storage.BufferPool.Interleaving

/-!
# Writes of clients

A client that has fetched a page may replace its bytes at any time, also while a
`flush_page` has the frame.  The flush copies the bytes, writes them to the disk without
any lock and then clears the dirty bit, whatever the frame contains by that time.

Main results:

- Structure `Backed`: clean pages, and the bytes that calls have read, are those of the
  disk.
- Theorem `Effect.backed`: a section keeps them so.
- Theorem `clean_pages_stored`: a resident clean page is on the disk in every run in which
  no write falls between the copy and the clearing of a flush.
- Theorem `flush_loses_write`: a run in which one does.
-/

namespace TaskPool
namespace Storage

open BufferPoolManager Library

variable {n : Nat}

/-- The page whose bytes a clean frame has. -/
def Slot.backedBy : Slot → Option PageId
  | .resident pageId => some pageId
  | .loaded _ pageId => some pageId
  | .flushing _ pageId => some pageId
  | _ => none

/-- The frame whose bytes a `flush_page` has copied, and whose dirty bit it will clear. -/
def Pc.copied : Pc n → Option (Fin n)
  | .flushWrite _ frameId _ _ .flushPage => some frameId
  | .flushFinish _ frameId (.ok ()) .flushPage => some frameId
  | _ => none

/-- The frame that a returned `fetch_page` has pinned. -/
def Pc.fetched : Pc n → Option (Fin n)
  | .returned (.fetched frameId) => some frameId
  | _ => none

namespace BufferPoolManager

/-- Bytes that a call has read or copied are those of the disk or of the frame. -/
def Agrees (pool : BufferPoolManager n) : Pc n → Prop
  | .fetchLoad pageId _ buffer => buffer = pool.diskManager.page pageId
  | .evictCommit pageId _ _ buffer => buffer = pool.diskManager.page pageId
  | .evictFailed _ _ _ _ => False
  | .flushWrite pageId frameId dirtyPageId data caller =>
    dirtyPageId = pageId ∧ (caller = .flushPage → data = (pool.frames frameId).data)
  | .flushFinish pageId frameId (.ok ()) .flushPage =>
    (pool.frames frameId).data = pool.diskManager.page pageId
  | _ => True

/-- A resident page that is not dirty is on the disk. -/
def CleanStored (pool : BufferPoolManager n) : Prop :=
  ∀ pageId frameId, pool.pageTable pageId = some frameId →
    (pool.frames frameId).state = .resident → (pool.frames frameId).isDirty = false →
    (pool.frames frameId).data = pool.diskManager.page pageId

/-- `modify_data` on a frame. -/
def modifyFrame (pool : BufferPoolManager n) (frameId : Fin n) (data : List UInt8) :
    BufferPoolManager n :=
  pool.setFrame frameId ((pool.frames frameId).modifyData data).2

end BufferPoolManager

/-- Clean frames have the bytes of their pages, and calls those they have read or
copied. -/
structure Backed (pool : BufferPoolManager n) (pcs : CallId → Option (Pc n))
    (slot : Fin n → Slot) : Prop where
  clean : ∀ frameId pageId, (slot frameId).backedBy = some pageId →
    (pool.frames frameId).isDirty = false →
    (pool.frames frameId).data = pool.diskManager.page pageId
  agrees : ∀ callId pc, pcs callId = some pc → pool.Agrees pc

/-- A frame that was copied is being flushed. -/
theorem Pc.owned_of_copied {pc : Pc n} {frameId : Fin n} (h : pc.copied = some frameId)
    (callId : CallId) : ∃ pageId, pc.owned callId = some (frameId, .flushing callId pageId) := by
  unfold Pc.copied at h
  split at h
  · exact ⟨_, by rw [← Option.some_inj.mp h]; rfl⟩
  · exact ⟨_, by rw [← Option.some_inj.mp h]; rfl⟩
  · cases h

namespace BufferPoolManager.Agrees

variable {pool pool' : BufferPoolManager n} {pc : Pc n}

/-- What a call has to do with the pool depends on the frame it has copied and on the
pages of its frame only. -/
theorem congr (h : pool.Agrees pc) (callId : CallId)
    (hdata : ∀ frameId, pc.copied = some frameId →
      (pool'.frames frameId).data = (pool.frames frameId).data)
    (hpage : ∀ frameId taken pageId, pc.owned callId = some (frameId, taken) →
      taken.located = some pageId ∨ taken.incoming = some (callId, pageId) →
      pool'.diskManager.page pageId = pool.diskManager.page pageId) : pool'.Agrees pc := by
  cases pc with
  | fetchLoad pageId frameId buffer => exact h.trans (hpage _ _ pageId rfl (.inr rfl)).symm
  | evictCommit pageId victim oldPageId buffer =>
      exact h.trans (hpage _ _ pageId rfl (.inr rfl)).symm
  | evictFailed => exact h
  | flushWrite pageId frameId dirtyPageId data caller =>
      refine ⟨h.1, ?_⟩
      rintro rfl
      exact (h.2 rfl).trans (hdata frameId rfl).symm
  | flushFinish pageId frameId written caller =>
      cases written with
      | error e => trivial
      | ok written =>
          cases caller with
          | flushPage =>
              exact (hdata frameId rfl).trans (h.trans (hpage _ _ pageId rfl (.inl rfl)).symm)
          | deletePage => trivial
  | _ => trivial

/-- Signals change no bytes. -/
theorem receive (h : pool.Agrees pc) (signal : Signal) : pool.Agrees (pc.receive signal) := by
  cases pc <;> exact h

/-- A call starts without bytes. -/
theorem entry (pool : BufferPoolManager n) (call : Call) : pool.Agrees call.entry := by
  cases call <;> trivial

end BufferPoolManager.Agrees

namespace Consistent

variable {pool : BufferPoolManager n} {pcs : CallId → Option (Pc n)} {slot : Fin n → Slot}
  {frameId other : Fin n} {pageId : PageId}

/-- A page in the table is in the one frame, and no frame waits for it. -/
theorem eq_of_uses (h : Consistent pool pcs slot) (hlocated : (slot frameId).located = some pageId)
    (caller : CallId) (huses : (slot other).located = some pageId ∨
      (slot other).incoming = some (caller, pageId)) : other = frameId := by
  have htable := h.table_of_located hlocated
  rcases huses with hother | hincoming
  · rw [h.table_of_located hother, Option.some_inj] at htable
    exact htable
  · rw [(h.layout.incoming other caller pageId hincoming).2] at htable
    cases htable

/-- A page has one frame with its bytes. -/
theorem eq_of_backedBy (h : Consistent pool pcs slot)
    (hlocated : (slot frameId).located = some pageId)
    (hbacked : (slot other).backedBy = some pageId) : other = frameId := by
  cases hslot : slot other with
  | loaded caller page =>
      rw [hslot] at hbacked
      cases hbacked
      exact h.eq_of_uses hlocated caller (.inr (by rw [hslot]; rfl))
  | resident page | flushing owner page =>
      rw [hslot] at hbacked
      exact h.eq_of_uses hlocated 0 (.inl (by rw [hslot]; exact hbacked))
  | free | loading | evicting | deleting | allocating =>
      rw [hslot] at hbacked
      cases hbacked

end Consistent

/-- The frame of a page is in the page table unless a call has taken it. -/
theorem Slot.located_of_backedBy {slot : Slot} {pageId : PageId}
    (h : slot.backedBy = some pageId) (howner : slot.owner = none) :
    slot.located = some pageId := by
  cases slot <;> first
    | exact h
    | cases howner

/-- A frame that has the bytes of a page holds it. -/
theorem Slot.held_of_backedBy {slot : Slot} {pageId : PageId} (h : slot.backedBy = some pageId) :
    slot.held = some pageId := by
  cases slot <;> first
    | exact h
    | cases h

/-- A slot that adds no page with bytes of its own adds none to the pool. -/
theorem Slot.backedBy_update {slot : Fin n → Slot} {frameId : Fin n} {next : Slot}
    (hnext : ∀ pageId, next.backedBy = some pageId → (slot frameId).backedBy = some pageId)
    (other : Fin n) (pageId : PageId)
    (hother : (Function.update slot frameId next other).backedBy = some pageId) :
    (slot other).backedBy = some pageId := by
  by_cases heq : other = frameId
  · rw [heq, Function.update_self] at hother
    rw [heq]
    exact hnext pageId hother
  · rwa [Function.update_of_ne heq] at hother

/-- The write of a client keeps the pool consistent. -/
theorem Consistent.modifyFrame {pool : BufferPoolManager n} {pcs : CallId → Option (Pc n)}
    {slot : Fin n → Slot} (h : Consistent pool pcs slot) (frameId : Fin n) (data : List UInt8) :
    Consistent (pool.modifyFrame frameId data) pcs slot where
  layout := h.layout
  frame := by
    intro other
    have hother := h.frame other
    rw [BufferPoolManager.modifyFrame, frames_setFrame]
    by_cases heq : other = frameId
    · rw [← heq, Function.update_self]
      exact ⟨by rw [Frame.state_modifyData, hother.state_eq],
        by rw [Frame.heldPage_modifyData, hother.held_eq],
        by rw [Frame.pins_modifyData]; exact hother.pins_ok⟩
    · rwa [Function.update_of_ne heq]
  owned := h.owned
  owner := h.owner
  rollback := h.rollback

namespace Backed

variable {pool pool' : BufferPoolManager n} {pcs : CallId → Option (Pc n)}
  {slot slot' : Fin n → Slot} {callId : CallId} {pc pc' : Pc n} {frameId : Fin n} {frame : Frame}
  {taken next : Slot} {pageId : PageId}

/-- A section that leaves the disk and the frames of all other calls alone. -/
theorem change (hb : Backed pool pcs slot) (h : Consistent pool pcs slot)
    (hdisk : pool'.diskManager = pool.diskManager)
    (hdata : ∀ frameId caller, (slot frameId).owner = some caller → caller ≠ callId →
      (pool'.frames frameId).data = (pool.frames frameId).data)
    (hclean : ∀ frameId pageId, (slot' frameId).backedBy = some pageId →
      (pool'.frames frameId).isDirty = false →
      (pool'.frames frameId).data = pool.diskManager.page pageId)
    (hagrees : pool'.Agrees pc') : Backed pool' (Function.update pcs callId (some pc')) slot' where
  clean := by
    rw [hdisk]
    exact hclean
  agrees := by
    intro caller pc₁ hpc₁
    by_cases hcaller : caller = callId
    · rw [hcaller, Function.update_self, Option.some_inj] at hpc₁
      rwa [← hpc₁]
    · rw [Function.update_of_ne hcaller] at hpc₁
      refine (hb.agrees caller pc₁ hpc₁).congr caller ?_ fun _ _ _ _ _ => by rw [hdisk]
      intro other hcopied
      rcases Pc.owned_of_copied hcopied caller with ⟨page, howned⟩
      refine hdata other caller ?_ hcaller
      rw [h.owned caller pc₁ other _ hpc₁ howned]
      rfl

/-- A section that leaves all bytes alone and cleans no frame. -/
theorem still (hb : Backed pool pcs slot) (h : Consistent pool pcs slot)
    (hdisk : pool'.diskManager = pool.diskManager)
    (hdata : ∀ frameId, (pool'.frames frameId).data = (pool.frames frameId).data)
    (hdirty : ∀ frameId, (pool'.frames frameId).isDirty = false →
      (pool.frames frameId).isDirty = false)
    (hslot : ∀ frameId pageId, (slot' frameId).backedBy = some pageId →
      (slot frameId).backedBy = some pageId)
    (hagrees : pool'.Agrees pc') : Backed pool' (Function.update pcs callId (some pc')) slot' := by
  refine hb.change h hdisk (fun other _ _ _ => hdata other) ?_ hagrees
  intro other page hbacked hclean
  rw [hdata]
  exact hb.clean other page (hslot other page hbacked) (hdirty other hclean)

/-- A section that leaves the disk and all frames alone. -/
theorem same (hb : Backed pool pcs slot) (h : Consistent pool pcs slot)
    (hdisk : pool'.diskManager = pool.diskManager) (hframes : pool'.frames = pool.frames)
    (hagrees : pool'.Agrees pc') : Backed pool' (Function.update pcs callId (some pc')) slot :=
  hb.still h hdisk (fun _ => by rw [hframes]) (fun _ => by rw [hframes]; exact id)
    (fun _ _ => id) hagrees

/-- A section that gives one frame, which no other call has taken, other bytes. -/
theorem replace (hb : Backed pool pcs slot) (h : Consistent pool pcs slot)
    (hslot : slot frameId = taken) (howner : taken.owner = none ∨ taken.owner = some callId)
    (hdisk : pool'.diskManager = pool.diskManager)
    (hframes : pool'.frames = Function.update pool.frames frameId frame)
    (hclean : ∀ pageId, next.backedBy = some pageId → frame.isDirty = false →
      frame.data = pool.diskManager.page pageId)
    (hagrees : pool'.Agrees pc') :
    Backed pool' (Function.update pcs callId (some pc')) (Function.update slot frameId next) := by
  refine hb.change h hdisk ?_ ?_ hagrees
  · intro other caller hother hcaller
    have hne : other ≠ frameId := by
      rintro rfl
      rw [hslot] at hother
      rcases howner with hnone | hself
      · rw [hnone] at hother
        cases hother
      · rw [hself, Option.some_inj] at hother
        exact hcaller hother.symm
    rw [hframes, Function.update_of_ne hne]
  · intro other page
    rw [hframes]
    by_cases hother : other = frameId
    · rw [hother, Function.update_self, Function.update_self]
      exact hclean page
    · rw [Function.update_of_ne hother, Function.update_of_ne hother]
      exact hb.clean other page

/-- A section that changes one frame, but not its bytes, and does not clean it. -/
theorem touch (hb : Backed pool pcs slot) (h : Consistent pool pcs slot)
    (hdisk : pool'.diskManager = pool.diskManager)
    (hframes : pool'.frames = Function.update pool.frames frameId frame)
    (hdata : frame.data = (pool.frames frameId).data)
    (hdirty : frame.isDirty = false → (pool.frames frameId).isDirty = false)
    (hslot : ∀ frameId pageId, (slot' frameId).backedBy = some pageId →
      (slot frameId).backedBy = some pageId)
    (hagrees : pool'.Agrees pc') : Backed pool' (Function.update pcs callId (some pc')) slot' := by
  refine hb.still h hdisk ?_ ?_ hslot hagrees <;> intro other <;> rw [hframes] <;>
    by_cases hother : other = frameId
  · rw [hother, Function.update_self, hdata]
  · rw [Function.update_of_ne hother]
  · rw [hother, Function.update_self]
    exact hdirty
  · rw [Function.update_of_ne hother]
    exact id

/-- A write of the page of a frame that the call has taken. -/
theorem writeThen (hb : Backed pool pcs slot) (h : Consistent pool pcs slot)
    (hslot : slot frameId = taken) (howner : taken.owner = some callId)
    (hlocated : taken.located = some pageId) {data : Buffer pageSize}
    {after : Except IoError Unit → Pc n}
    (hclean : taken.backedBy = some pageId → (pool.frames frameId).data = data)
    (hagrees : (pool.writeThen pageId data .ok after).pool.Agrees (after (.ok ()))) :
    Backed (pool.writeThen pageId data .ok after).pool
      (Function.update pcs callId (some (after (.ok ())))) slot where
  clean := by
    intro other page hbacked hother
    by_cases hpage : page = pageId
    · rw [hpage] at hbacked ⊢
      rw [← hslot] at hlocated hclean
      cases h.eq_of_backedBy hlocated hbacked
      exact (hclean hbacked).trans (DiskManager.page_writePage_ok ..).symm
    · have hold := hb.clean other page hbacked hother
      rwa [← DiskManager.page_writePage_of_ne pool.diskManager hpage data .ok] at hold
  agrees := by
    intro caller pc₁ hpc₁
    by_cases hcaller : caller = callId
    · rw [hcaller, Function.update_self, Option.some_inj] at hpc₁
      rwa [← hpc₁]
    · rw [Function.update_of_ne hcaller] at hpc₁
      refine (hb.agrees caller pc₁ hpc₁).congr caller (fun _ _ => rfl) ?_
      intro other taken' page howned huses
      refine DiskManager.page_writePage_of_ne pool.diskManager ?_ data .ok
      rintro rfl
      have hother := h.owned caller pc₁ other _ hpc₁ howned
      rw [← hother] at huses
      rw [← hslot] at hlocated howner
      -- a page is used by the call that has taken its frame only
      rw [h.eq_of_uses hlocated caller huses] at hother
      rw [hother, owner_of_owned howned, Option.some_inj] at howner
      exact hcaller howner

end Backed

/-- The reservation of a victim leaves all bytes and dirty bits alone. -/
theorem victim_bytes {pool : BufferPoolManager n} {frames : Fin n → Frame}
    (hframes : ∀ frameId, Frame.SameButReference (pool.frames frameId) (frames frameId))
    (victim other : Fin n) {frame : Frame}
    (hframe : Function.update frames victim { frames victim with state := .reserved } other =
      frame) :
    frame.data = (pool.frames other).data ∧ frame.isDirty = (pool.frames other).isDirty := by
  rw [← hframe, ← (hframes other).data_eq, ← (hframes other).isDirty_eq]
  by_cases hother : other = victim
  · rw [hother, Function.update_self]
    exact ⟨rfl, rfl⟩
  · rw [Function.update_of_ne hother]
    exact ⟨rfl, rfl⟩

namespace Effect

variable {pool : BufferPoolManager n} {pcs : CallId → Option (Pc n)} {slot slot' : Fin n → Slot}
  {callId : CallId} {pc : Pc n} {io : Io} {next : Next n} {pageId : PageId}

/-- The decision of a fetch keeps the clean frames backed by their pages. -/
theorem backed_fetchStart {missRecorded : Bool}
    (heffect : Effect callId pool slot (.fetchStart pageId missRecorded) io next slot')
    (h : Consistent pool pcs slot) (hb : Backed pool pcs slot) :
    Backed next.pool (Function.update pcs callId (some next.pc)) slot' := by
  rcases recordMissOnce_eq pool missRecorded with ⟨metrics, hmetrics⟩
  cases heffect with
  | fetchWait => exact hb.same h rfl rfl trivial
  | fetchHit =>
      refine hb.touch h rfl rfl rfl ?_ (fun _ _ => id) trivial
      rw [Frame.isDirty_touched]
      exact id
  | fetchJoin =>
      rw [hmetrics]
      exact hb.same h rfl rfl trivial
  | fetchTake =>
      rw [hmetrics]
      exact hb.touch h rfl rfl rfl id (Slot.backedBy_update nofun) trivial
  | fetchSleep _ _ hframes | fetchGiveUp _ _ hframes =>
      rw [hmetrics]
      refine hb.still h rfl (fun other => (hframes other).data_eq) ?_ (fun _ _ => id) trivial
      intro other
      exact (hframes other).isDirty_eq.symm.trans
  | fetchVictim _ _ hframes =>
      rw [hmetrics]
      dsimp only
      split_ifs <;>
        exact hb.still h rfl (fun other => (victim_bytes hframes _ other rfl).1)
          (fun other => (victim_bytes hframes _ other rfl).2.symm.trans)
          (Slot.backedBy_update nofun) trivial

/-- The write of a flush makes the page the copy of the bytes. -/
theorem backed_flushWrite {frameId : Fin n} {dirtyPageId : PageId} {data : Buffer pageSize}
    {caller : FlushCaller}
    (heffect : Effect callId pool slot (.flushWrite pageId frameId dirtyPageId data caller) io next
      slot')
    (h : Consistent pool pcs slot) (hb : Backed pool pcs slot)
    (hpc : pcs callId = some (.flushWrite pageId frameId dirtyPageId data caller))
    (hio : io.Succeeds) : Backed next.pool (Function.update pcs callId (some next.pc)) slot' := by
  have hslot := h.owned _ _ _ _ hpc rfl
  rcases hb.agrees callId _ hpc with ⟨rfl, hdata⟩
  cases heffect with
  | @flushWrite _ _ _ _ _ outcome =>
      cases outcome with
      | fail error left => exact absurd hio id
      | ok =>
          cases caller with
          | flushPage =>
              have hdata := (hdata rfl).symm
              exact hb.writeThen h hslot rfl rfl (fun _ => hdata)
                (hdata.trans (DiskManager.page_writePage_ok ..).symm)
          | deletePage => exact hb.writeThen h hslot rfl rfl nofun trivial

/-- The section that clears the dirty bit finds the bytes of the frame on the disk. -/
theorem backed_flushFinish {frameId : Fin n} {written : Except IoError Unit} {caller : FlushCaller}
    (heffect : Effect callId pool slot (.flushFinish pageId frameId written caller) io next slot')
    (h : Consistent pool pcs slot) (hb : Backed pool pcs slot)
    (hpc : pcs callId = some (.flushFinish pageId frameId written caller))
    (hplain : (Pc.flushFinish pageId frameId written caller).Plain) :
    Backed next.pool (Function.update pcs callId (some next.pc)) slot' := by
  have hslot := h.owned _ _ _ _ hpc rfl
  have hagrees := hb.agrees callId _ hpc
  have hself := Function.update_eq_self frameId slot
  cases heffect with
  | flushUndo => exact absurd hplain id
  | flushDone =>
      cases caller with
      | flushPage =>
          rw [← hself, hslot]
          refine hb.replace h hslot (.inr rfl) rfl rfl ?_ trivial
          rintro page ⟨⟩ -
          exact hagrees
      | deletePage =>
          rw [← hself, hslot]
          exact hb.replace h hslot (.inr rfl) rfl rfl nofun trivial

/-- What a section does to the bytes of frames and pages. -/
theorem backed (heffect : Effect callId pool slot pc io next slot') (h : Consistent pool pcs slot)
    (hb : Backed pool pcs slot) (hpc : pcs callId = some pc) (hplain : pc.Plain)
    (hio : io.Succeeds) : Backed next.pool (Function.update pcs callId (some next.pc)) slot' := by
  have hagrees := hb.agrees callId pc hpc
  cases pc with
  | fetchStart => exact heffect.backed_fetchStart h hb
  | fetchRead pageId frameId =>
      cases heffect with
      | readOk => exact hb.same h rfl rfl rfl
      | readFail => exact absurd hio id
  | fetchLoad pageId frameId buffer =>
      have hslot := h.owned _ _ _ _ hpc rfl
      cases heffect
      refine hb.replace h hslot (.inr rfl) rfl rfl ?_ trivial
      rintro page ⟨⟩ -
      exact hagrees
  | fetchPublish pageId frameId =>
      have hslot := h.owned _ _ _ _ hpc rfl
      cases heffect
      refine hb.still h rfl (fun _ => rfl) (fun _ => id) (Slot.backedBy_update ?_) trivial
      rw [hslot]
      exact fun _ => id
  | fetchReadFailed pageId frameId error =>
      cases heffect
      exact hb.touch h rfl rfl rfl id (Slot.backedBy_update nofun) trivial
  | evictWrite pageId victim oldPageId oldData =>
      have hslot := h.owned _ _ _ _ hpc rfl
      cases heffect with
      | evictWriteOk =>
          exact hb.writeThen h hslot rfl rfl nofun trivial
      | evictWriteFail => exact absurd hio id
  | evictRead pageId victim oldPageId =>
      cases heffect with
      | evictReadOk => exact hb.same h rfl rfl rfl
      | evictReadFail => exact absurd hio id
  | evictCommit pageId victim oldPageId buffer =>
      have hslot := h.owned _ _ _ _ hpc rfl
      cases heffect
      refine hb.replace h hslot (.inr rfl) rfl rfl ?_ trivial
      rintro page ⟨⟩ -
      exact hagrees
  | evictFailed => exact absurd hagrees id
  | unpinStart pageId =>
      cases heffect with
      | unpinFail => exact hb.same h rfl rfl trivial
      | unpin =>
          refine hb.touch h rfl rfl rfl ?_ (fun _ _ => id) trivial
          rw [Frame.isDirty_unpinned]
          exact id
  | markDirtyStart pageId =>
      cases heffect with
      | markDirtyFail => exact hb.same h rfl rfl trivial
      | markDirty hslot =>
          refine hb.touch h rfl rfl rfl ?_ (fun _ _ => id) trivial
          rw [Frame.isDirty_withDirty_true (Frame.metadata_ne_none (h.heldPage_of_slot hslot))]
          exact nofun
  | flushStart pageId =>
      cases heffect with
      | flushFail => exact hb.same h rfl rfl trivial
      | flushClean => exact hb.touch h rfl rfl rfl id (fun _ _ => id) trivial
      | flushTake hslot =>
          refine hb.touch h rfl rfl rfl id (Slot.backedBy_update ?_) trivial
          rw [hslot]
          exact fun _ => id
  | deleteStart pageId =>
      cases heffect with
      | deleteFail => exact hb.same h rfl rfl trivial
      | deleteClean hslot =>
          exact hb.replace h hslot (.inl rfl) rfl (Function.update_idem ..) nofun trivial
      | deleteTake => exact hb.touch h rfl rfl rfl id (Slot.backedBy_update nofun) trivial
  | flushCheck pageId frameId caller =>
      cases heffect with
      | checkDirty =>
          exact hb.same h rfl rfl ⟨rfl, fun _ => rfl⟩
      | checkClean =>
          cases caller <;>
            exact hb.same h rfl rfl trivial
  | flushWrite => exact heffect.backed_flushWrite h hb hpc hio
  | flushFinish => exact heffect.backed_flushFinish h hb hpc hplain
  | flushRelease pageId frameId =>
      have hslot := h.owned _ _ _ _ hpc rfl
      cases heffect
      refine hb.touch h rfl rfl rfl id (Slot.backedBy_update ?_) trivial
      rw [hslot]
      exact fun _ => id
  | deleteFinish pageId frameId =>
      have hslot := h.owned _ _ _ _ hpc rfl
      cases heffect
      exact hb.replace h hslot (.inr rfl) rfl rfl nofun trivial
  | deleteRollback | newStart | newWrite | newRollback | newCommit => exact absurd hplain id
  | fetchNotify waiter result =>
      cases heffect
      cases result <;> exact hb.same h rfl rfl trivial
  | _ => cases heffect <;> exact hb.same h rfl rfl trivial

end Effect

/-! ## Writes between the sections of calls -/

/-- What happens next: a call starts or goes on, or a client writes to a frame. -/
inductive Move where
  | event (e : Event)
  | modifyData (callId : CallId) (data : List UInt8)

/-- The move neither starts a `new_page` nor makes the disk fail. -/
def Move.Plain : Move → Prop
  | .event e => e.Plain
  | .modifyData _ _ => True

/-- The move starts an `unpin_page`. -/
def Move.unpins : Move → Bool
  | .event (.start _ (.unpinPage _) _) => true
  | _ => false

namespace System

variable {s s' : System n}

/-- The frame that the call has fetched for its client. -/
def fetchedFrame (s : System n) (callId : CallId) : Option (Fin n) := (s.pcs callId).bind Pc.fetched

/-- The system after a move.  A client writes to the frame of a `fetch_page` that has
returned. -/
def move (s : System n) : Move → Option (System n)
  | .event e => s.step e
  | .modifyData callId data =>
    (s.fetchedFrame callId).map fun frameId => { s with pool := s.pool.modifyFrame frameId data }

/-- No write changes the bytes of a frame between the section in which a `flush_page`
copies them and the one in which it clears the dirty bit. -/
def WritesApart (s : System n) : Move → Prop
  | .event _ => True
  | .modifyData callId data => ∀ frameId, s.fetchedFrame callId = some frameId →
    ((s.pool.frames frameId).modifyData data).2.data ≠ (s.pool.frames frameId).data →
    ∀ caller < s.nextCall, (s.pcs caller).bind Pc.copied ≠ some frameId

instance (s : System n) (m : Move) : Decidable (s.WritesApart m) := by
  unfold WritesApart
  split <;> infer_instance

/-- The invariant of runs in which writes keep apart from flushes. -/
def Sheltered (s : System n) : Prop :=
  s.Ordered ∧ ∃ slot, Consistent s.pool s.pcs slot ∧ Backed s.pool s.pcs slot

/-- An idle system whose clean pages are on the disk meets the invariant. -/
theorem Idle.sheltered (h : s.Idle) (hstored : s.pool.CleanStored) : s.Sheltered := by
  refine ⟨h.ordered, s.pool.restSlot, h.sound.consistent fun _ _ => h.returned_pcs, ?_, ?_⟩
  · intro frameId pageId hbacked
    have hlocated := Slot.located_of_backedBy hbacked (owner_restSlot s.pool frameId)
    rw [located_restSlot] at hlocated
    exact hstored pageId frameId ((h.sound.table_iff pageId frameId).mpr hlocated)
      (h.sound.resident frameId pageId hlocated)
  · intro callId pc hpc
    rcases h.returned_pcs hpc with ⟨result, rfl⟩
    trivial

/-- A call starts or runs a section. -/
theorem Sheltered.event {e : Event} (h : s.Sheltered) (hstep : s.Step e s') (hplain : e.Plain) :
    s'.Sheltered := by
  rcases h with ⟨hordered, slot, hconsistent, hbacked⟩
  refine ⟨hordered.step hstep hplain, ?_⟩
  rcases step_cases hstep with ⟨client, call, releases, rfl, rfl⟩ |
    ⟨callId, io, activity, next, rfl, hactivity, hnext, rfl⟩
  · refine ⟨slot, hordered.numbered.consistent_launch hconsistent client call releases, ?_⟩
    rcases record_eq s.pool call with ⟨metrics, hmetrics⟩
    rw [pcs_launch, System.launch, hmetrics]
    exact hbacked.still hconsistent rfl (fun _ => rfl) (fun _ => id) (fun _ _ => id)
      (.entry _ call)
  · have hpc := pcs_eq_some hactivity
    rcases hconsistent.advance_effect hpc hnext with ⟨slot', heffect⟩
    have hbacked' := heffect.backed hconsistent hbacked hpc (hordered.plain callId _ hpc) hplain
    refine ⟨slot', hordered.resume hconsistent hactivity heffect, hbacked'.clean, ?_⟩
    intro caller pc hcaller
    rw [pcs_resume] at hcaller
    rcases Option.map_eq_some_iff.mp hcaller with ⟨before, hbefore, rfl⟩
    exact (hbacked'.agrees caller before hbefore).receive next.signal

/-- A client writes to a frame. -/
theorem Sheltered.write {callId : CallId} {data : List UInt8} {frameId : Fin n} (h : s.Sheltered)
    (hframe : s.fetchedFrame callId = some frameId)
    (hapart : s.WritesApart (.modifyData callId data)) :
    Sheltered { s with pool := s.pool.modifyFrame frameId data } := by
  rcases h with ⟨hordered, slot, hconsistent, hbacked⟩
  have hconsistent' : Consistent (s.pool.modifyFrame frameId data) s.pcs slot :=
    hconsistent.modifyFrame frameId data
  refine ⟨⟨hordered.lt_nextCall, hordered.plain, ⟨slot, hconsistent'⟩⟩, slot, hconsistent', ?_, ?_⟩
  · intro other page hslot
    rw [BufferPoolManager.modifyFrame, frames_setFrame]
    by_cases hother : other = frameId
    · -- a write that changes the frame makes it dirty
      have hmeta : (s.pool.frames frameId).metadata ≠ none := by
        have hmatches := (hconsistent.frame other).held_eq
        rw [Slot.held_of_backedBy hslot, hother] at hmatches
        exact Frame.metadata_ne_none hmatches
      rw [hother, Function.update_self]
      rcases Frame.modifyData_cases (s.pool.frames frameId) data with heq | ⟨bytes, heq⟩
      · rw [heq, ← hother]
        exact hbacked.clean other page hslot
      · rw [heq, Frame.isDirty_withDirty_true (by exact hmeta)]
        exact nofun
    · rw [Function.update_of_ne hother]
      exact hbacked.clean other page hslot
  · intro caller pc (hpc : s.pcs caller = some pc)
    refine (hbacked.agrees caller pc hpc).congr caller ?_ fun _ _ _ _ _ => rfl
    intro other hcopied
    rw [BufferPoolManager.modifyFrame, frames_setFrame]
    by_cases hother : other = frameId
    · rw [hother, Function.update_self]
      by_contra hne
      rcases Option.map_eq_some_iff.mp hpc with ⟨activity, hactivity, -⟩
      refine hapart frameId hframe hne caller (hordered.lt_nextCall caller activity hactivity) ?_
      rw [hpc, Option.bind_some, hcopied, hother]
    · rw [Function.update_of_ne hother]

/-- The invariant has the clean pages on the disk. -/
theorem Sheltered.cleanStored (h : s.Sheltered) : s.pool.CleanStored := by
  rcases h with ⟨-, slot, hconsistent, hbacked⟩
  intro pageId frameId htable hstate
  have hslot : slot frameId = .resident pageId := by
    apply hconsistent.resident_of_table htable
    rw [Frame.isReserved, hstate]
    rfl
  exact hbacked.clean frameId pageId (by rw [hslot]; rfl)

/-- A move keeps the invariant, when writes keep apart from flushes. -/
theorem Sheltered.move {m : Move} (h : s.Sheltered) (hmove : s.move m = some s')
    (hplain : m.Plain) (hapart : s.WritesApart m) : s'.Sheltered := by
  cases m with
  | event e => exact h.event hmove hplain
  | modifyData callId data =>
      rcases Option.map_eq_some_iff.mp hmove with ⟨frameId, hframe, rfl⟩
      exact h.write hframe hapart

end System

/-- From an idle system whose clean pages are on the disk, in every state of every run
without `new_page` and disk failures, in which clients write to the frames they have
fetched at any time but between the copy and the clearing of a `flush_page`: a resident
page that is not dirty is on the disk. -/
theorem clean_pages_stored {s : System n} (hidle : s.Idle) (hstored : s.pool.CleanStored)
    {path : List (Move × System n)}
    (hpath : IsPath (fun s m s' => s.move m = some s') s path)
    (hplain : EveryStep (fun _ m _ => m.Plain) s path)
    (hapart : EveryStep (fun s m _ => s.WritesApart m) s path) :
    EveryState (fun s => s.pool.CleanStored) s path := by
  have hsheltered : EveryState System.Sheltered s path := by
    refine hpath.everyState (hplain.and hapart) (hidle.sheltered hstored) ?_
    exact fun _ _ _ h hmove hboth => h.move hmove hboth.1 hboth.2
  exact hsheltered.imp fun _ => System.Sheltered.cleanStored

/-- A pool without pages has no clean pages. -/
theorem new_cleanStored (n : Nat) (file : List UInt8) :
    (BufferPoolManager.new n file).CleanStored := by
  intro pageId frameId htable
  cases htable

/-- A client fetches a page and writes to it; the page is flushed, and after that the
client writes to it again. -/
def writeAround : List Move :=
  [.event (.start 0 (.fetchPage 0) none), .event (.proceed 0 .none),
    .event (.proceed 0 (.read (.ok fun _ => 4096))), .event (.proceed 0 .none),
    .event (.proceed 0 .none), .event (.proceed 0 .none), .modifyData 0 (List.replicate 4096 1),
    .event (.start 1 (.flushPage 0) none), .event (.proceed 1 .none), .event (.proceed 1 .none),
    .event (.proceed 1 (.write .ok)), .event (.proceed 1 .none), .event (.proceed 1 .none),
    .modifyData 0 (List.replicate 4096 2)]

/-- The clean pages are on the disk when writes keep apart from the flush. -/
theorem clean_pages_stored_writeAround :
    (follow System.move (System.new 1 []) writeAround).length = 14 ∧
      EveryState (fun s => s.pool.CleanStored) (System.new 1 [])
        (follow System.move (System.new 1 []) writeAround) := by
  refine ⟨by decide +kernel, ?_⟩
  refine clean_pages_stored (System.new_idle 1 []) (new_cleanStored 1 [])
    (isPath_follow System.move _ writeAround) ?_ (by decide +kernel)
  refine everyStep_follow ?_ _
  simp [writeAround, Move.Plain, Event.Plain, Io.Succeeds, -List.reduceReplicate]

/-- The same, but the second write comes while the disk is busy. -/
def writeWithin : List Move :=
  [.event (.start 0 (.fetchPage 0) none), .event (.proceed 0 .none),
    .event (.proceed 0 (.read (.ok fun _ => 4096))), .event (.proceed 0 .none),
    .event (.proceed 0 .none), .event (.proceed 0 .none), .modifyData 0 (List.replicate 4096 1),
    .event (.start 1 (.flushPage 0) none), .event (.proceed 1 .none), .event (.proceed 1 .none),
    .modifyData 0 (List.replicate 4096 2), .event (.proceed 1 (.write .ok)),
    .event (.proceed 1 .none), .event (.proceed 1 .none)]

/-- A resident page that is clean but not on the disk in the end. -/
theorem not_cleanStored {s : System n} {path : List (Move × System n)} (pageId : PageId)
    (frameId : Fin n) (hlost : (lastState s path).pool.pageTable pageId = some frameId ∧
      ((lastState s path).pool.frames frameId).state = .resident ∧
      ((lastState s path).pool.frames frameId).isDirty = false ∧
      ((lastState s path).pool.frames frameId).data ≠
        (lastState s path).pool.diskManager.page pageId) :
    ¬ EveryState (fun s => s.pool.CleanStored) s path := by
  rcases hlost with ⟨htable, hstate, hclean, hbytes⟩
  intro hevery
  exact hbytes (hevery.last pageId frameId htable hstate hclean)

/-- No pin is given back, and the second write is lost: the flush clears the dirty bit
behind it. -/
theorem flush_loses_write :
    (follow System.move (System.new 1 []) writeWithin).length = 14 ∧
      (∀ m ∈ writeWithin, m.Plain ∧ m.unpins = false) ∧
      ¬ EveryState (fun s => s.pool.CleanStored) (System.new 1 [])
        (follow System.move (System.new 1 []) writeWithin) := by
  refine ⟨by decide +kernel, ?_, ?_⟩
  · simp [writeWithin, Move.Plain, Event.Plain, Io.Succeeds, Move.unpins, -List.reduceReplicate]
  · exact not_cleanStored 0 0 (by decide +kernel)

end Storage
end TaskPool
