import TaskPool.Storage.BufferPool.Partition
import Mathlib.Data.List.Perm.Basic

/-!
# Calls that fail

A call that meets a disk failure takes back what it has done, in five places of the
source and each time by hand.  `Pc.undone` says for every section what the pool would be
after taking back; no section changes that pool, so that the call ends with it.

The eviction path of `new_page` takes nothing back when the page table refuses the new
page: by then the victim is overwritten, pinned and marked dirty.

Main results:

- Definition `Pc.undone`: the pool after what a call has done is taken back.
- Theorem `Reverts.advance`: no section changes that pool.
- Theorem `disk_failure_unchanged`: a call that returns a disk error has changed nothing.
- Theorem `new_page_intact_iff`: every refused `new_page` leaves the pool intact exactly in
  the sequences in which the page table accepts every new page.
-/

namespace TaskPool
namespace Storage

open BufferPoolManager Library

variable {n : Nat}

namespace BufferPoolManager

/-- The page table, the next identifier, the free frames, and of every frame the page,
the pins, the dirty bit and the bytes are as before. -/
structure Intact (pool pool' : BufferPoolManager n) : Prop where
  pageTable : pool'.pageTable = pool.pageTable
  freeFrames : pool'.freeFrames.Perm pool.freeFrames
  nextPageId : pool'.nextPageId = pool.nextPageId
  heldPage : ∀ frameId, (pool'.frames frameId).heldPage = (pool.frames frameId).heldPage
  pins : ∀ frameId, (pool'.frames frameId).pins = (pool.frames frameId).pins
  isDirty : ∀ frameId, (pool'.frames frameId).isDirty = (pool.frames frameId).isDirty
  data : ∀ frameId, (pool'.frames frameId).data = (pool.frames frameId).data

/-- Besides, the states of the frames and the loads in flight are as before. -/
structure Unchanged (pool pool' : BufferPoolManager n) : Prop extends Intact pool pool' where
  state : ∀ frameId, (pool'.frames frameId).state = (pool.frames frameId).state
  inFlightLoads : pool'.inFlightLoads = pool.inFlightLoads

end BufferPoolManager

/-- The pool after what the call has done so far is taken back; `none` when no disk
failure can stop the call any more. -/
def Pc.undone (pool : BufferPoolManager n) : Pc n → Option (BufferPoolManager n)
  | .fetchRead pageId frameId | .fetchReadFailed pageId frameId _ =>
    some (((pool.setFrame frameId (pool.frames frameId).setFree).addFrame frameId).removeLoad pageId)
  | .evictWrite pageId victim _ _ | .evictRead pageId victim _ | .evictFailed pageId victim _ _ =>
    some ((pool.setFrame victim (pool.frames victim).setResident).removeLoad pageId)
  | .flushCheck _ frameId _ | .flushWrite _ frameId _ _ _ | .flushFinish _ frameId (.error _) _
  | .deleteRollback _ frameId (.diskError _) | .newWrite _ frameId _ _
  | .newRollback _ frameId _ _ =>
    some (pool.setFrame frameId (pool.frames frameId).setResident)
  | .fetchStart _ _ | .fetchWaitState _ _ _ | .fetchCheckLoad _ _ | .fetchWaitLoad _ _ _
  | .fetchNotify _ (.error (.diskError _)) | .returned (.failed (.diskError _))
  | .unpinStart _ | .markDirtyStart _ | .flushStart _ | .deleteStart _ | .newStart => some pool
  | _ => none

namespace BufferPoolManager

variable {pool pool₁ pool' : BufferPoolManager n} {frameId victim : Fin n} {pageId : PageId}
  {callId : CallId}

/-! ## Taking back -/

/-- Setting a frame twice is setting it the second time. -/
theorem setFrame_setFrame (pool : BufferPoolManager n) (frameId : Fin n) (frame frame' : Frame) :
    (pool.setFrame frameId frame).setFrame frameId frame' = pool.setFrame frameId frame' := by
  simp [setFrame, Function.update_idem]

/-- Setting a frame to what it is changes nothing. -/
theorem setFrame_eq_self {frame : Frame} (h : pool.frames frameId = frame) :
    pool.setFrame frameId frame = pool := by
  rw [setFrame, ← h, Function.update_eq_self]

/-- Setting a frame to `Resident` takes its reservation back. -/
theorem setResident_reserveFrame (hstate : (pool.frames frameId).state = .resident) :
    (pool.reserveFrame frameId).setFrame frameId
      ((pool.reserveFrame frameId).frames frameId).setResident = pool := by
  rw [reserveFrame, setFrame_setFrame, frames_setFrame, Function.update_self]
  apply setFrame_eq_self
  rw [Frame.setResident, ← hstate]

/-- Setting a frame to `Free` takes its reservation back as well. -/
theorem setFree_reserveFrame (hstate : (pool.frames frameId).state = .free) :
    (pool.reserveFrame frameId).setFrame frameId
      ((pool.reserveFrame frameId).frames frameId).setFree = pool := by
  rw [reserveFrame, setFrame_setFrame, frames_setFrame, Function.update_self]
  apply setFrame_eq_self
  rw [Frame.setFree, ← hstate]

/-- Removing a load takes its entry back. -/
theorem removeLoad_insertLoad (hload : pool.inFlightLoads pageId = none) :
    (pool.insertLoad pageId callId).removeLoad pageId = pool := by
  simp only [insertLoad, removeLoad, Function.update_idem]
  rw [← hload, Function.update_eq_self]

namespace Unchanged

/-- A pool is unchanged from itself. -/
theorem refl (pool : BufferPoolManager n) : Unchanged pool pool := by
  constructor
  · constructor <;> simp
  · simp
  · rfl

/-- Two stretches without a change are one. -/
theorem trans (h : Unchanged pool pool₁) (h' : Unchanged pool₁ pool') : Unchanged pool pool' where
  pageTable := h'.pageTable.trans h.pageTable
  freeFrames := h'.freeFrames.trans h.freeFrames
  nextPageId := h'.nextPageId.trans h.nextPageId
  heldPage := fun frameId => (h'.heldPage frameId).trans (h.heldPage frameId)
  pins := fun frameId => (h'.pins frameId).trans (h.pins frameId)
  isDirty := fun frameId => (h'.isDirty frameId).trans (h.isDirty frameId)
  data := fun frameId => (h'.data frameId).trans (h.data frameId)
  state := fun frameId => (h'.state frameId).trans (h.state frameId)
  inFlightLoads := h'.inFlightLoads.trans h.inFlightLoads

/-- The file, the clock and the metrics may change, and so may reference bits. -/
theorem of_sameButReference (htable : pool'.pageTable = pool.pageTable)
    (hfree : pool'.freeFrames.Perm pool.freeFrames) (hnext : pool'.nextPageId = pool.nextPageId)
    (hloads : pool'.inFlightLoads = pool.inFlightLoads)
    (hframes : ∀ frameId, Frame.SameButReference (pool.frames frameId) (pool'.frames frameId)) :
    Unchanged pool pool' where
  pageTable := htable
  freeFrames := hfree
  nextPageId := hnext
  heldPage := fun frameId => (hframes frameId).heldPage_eq
  pins := fun frameId => (hframes frameId).pins_eq
  isDirty := fun frameId => (hframes frameId).isDirty_eq
  data := fun frameId => (hframes frameId).data_eq
  state := fun frameId => (hframes frameId).state_eq
  inFlightLoads := hloads

/-- The counters may change. -/
theorem withMetrics (pool : BufferPoolManager n) (metrics : BufferPoolMetrics) :
    Unchanged pool { pool with metrics := metrics } :=
  of_sameButReference rfl (List.Perm.refl _) rfl rfl fun _ => Frame.SameButReference.refl _

/-- The file may change. -/
theorem withDisk (pool : BufferPoolManager n) (disk : DiskManager) :
    Unchanged pool { pool with diskManager := disk } :=
  of_sameButReference rfl (List.Perm.refl _) rfl rfl fun _ => Frame.SameButReference.refl _

/-- A search for a victim changes the hand and reference bits only. -/
theorem swept {frames : Fin n → Frame} {found : Option (Fin n)} (clock : ClockReplacer n)
    (hspec : ClockReplacer.VictimSpec pool.frames found frames) :
    Unchanged pool (pool.swept clock frames) :=
  of_sameButReference rfl (List.Perm.refl _) rfl rfl hspec.sameButReference

/-- The frames are partitioned as before. -/
theorem partitioned (h : Unchanged pool pool') (hpool : pool.Partitioned) : pool'.Partitioned where
  free_nodup := h.freeFrames.nodup_iff.mpr hpool.free_nodup
  mem_free := by
    intro frameId
    rw [h.freeFrames.mem_iff, h.state]
    exact hpool.mem_free frameId
  free := by
    intro frameId hstate
    rw [h.state] at hstate
    rcases hpool.free frameId hstate with ⟨hmetadata, hoff⟩
    refine ⟨?_, h.pageTable ▸ hoff⟩
    have hheld := h.heldPage frameId
    simpa [Frame.heldPage, hmetadata] using hheld
  resident := by
    intro frameId hstate
    rw [h.state] at hstate ⊢
    rcases hpool.resident frameId hstate with ⟨hresident, hmetadata⟩
    refine ⟨hresident, fun hnone => hmetadata ?_⟩
    have hheld := h.heldPage frameId
    simpa [Frame.heldPage, hnone, eq_comm] using hheld
  not_reserved := by
    intro frameId
    rw [h.state]
    exact hpool.not_reserved frameId
  injective := h.pageTable ▸ hpool.injective

end Unchanged

/-! ## The sections -/

/-- Taking back what the call has done leads to the pool it started with. -/
def Reverts (origin : BufferPoolManager n) (next : Next n) : Prop :=
  ∀ undone, next.pc.undone next.pool = some undone → Unchanged origin undone

section

variable {origin : BufferPoolManager n}

/-- Nothing is left to take back. -/
theorem reverts_of_none {next : Next n} (h : next.pc.undone next.pool = none) :
    Reverts origin next := by
  intro undone hundone
  rw [h] at hundone
  cases hundone

/-- A section reverts when what is taken back is the pool of the start. -/
theorem reverts_of_some {next : Next n} {undone : BufferPoolManager n}
    (hundone : next.pc.undone next.pool = some undone) (h : Unchanged origin undone) :
    Reverts origin next := by
  intro found hfound
  rw [hundone, Option.some_inj] at hfound
  rwa [← hfound]

/-- Reserving a victim can be taken back. -/
theorem reverts_reserveVictim {whenDirty : PageId → Buffer pageSize → Pc n}
    {whenClean : PageId → Pc n} (hstate : (pool.frames victim).state = .resident)
    (hdirty : ∀ page buffer,
      Reverts origin ⟨pool.reserveFrame victim, whenDirty page buffer, .none⟩)
    (hclean : ∀ page, Reverts origin ⟨pool.reserveFrame victim, whenClean page, .none⟩) :
    Reverts origin (pool.reserveVictim victim whenDirty whenClean) := by
  have hreserved : (pool.frames victim).isReserved = false := by
    simp [Frame.isReserved, hstate]
  unfold reserveVictim
  rw [Frame.reserve_eq_ok hreserved]
  dsimp only
  cases Frame.getPageId { pool.frames victim with state := .reserved } with
  | error e => exact reverts_of_none rfl
  | ok page =>
      dsimp only
      split_ifs
      · exact hdirty page _
      · exact hclean page

namespace Unchanged

/-- Without free frames, a victim is `Resident`. -/
theorem state_victim (h : Unchanged origin pool) (horigin : origin.Partitioned)
    (hfree : pool.freeFrames = []) (clock : ClockReplacer n) {frames : Fin n → Frame}
    (hspec : ClockReplacer.VictimSpec pool.frames (some victim) frames) :
    ((pool.swept clock frames).frames victim).state = .resident := by
  exact (hspec.sameButReference victim).state_eq.trans
    ((h.partitioned horigin).all_resident hfree victim).1

/-- The search of a fetch for a victim can be taken back, with the entry of its load. -/
theorem fetchEvict (h : Unchanged origin pool) (horigin : origin.Partitioned)
    (hload : pool.inFlightLoads pageId = none) (hfree : pool.freeFrames = []) :
    Reverts origin ((pool.insertLoad pageId callId).fetchEvict pageId) := by
  rcases ClockReplacer.findVictim_spec pool.clockReplacer pool.frames with
    ⟨found, clock, frames, hfind, hspec⟩
  have hfind' : (pool.insertLoad pageId callId).clockReplacer.findVictim
      (pool.insertLoad pageId callId).frames = .ok (found, clock, frames) := hfind
  have hswept : Unchanged origin (pool.swept clock frames) := h.trans (swept clock hspec)
  unfold BufferPoolManager.fetchEvict
  rw [hfind']
  cases found with
  | none =>
      -- between two calls no frame is reserved, so that the fetch gives up
      have hnone : ¬ ∃ frameId, (frames frameId).isReserved := by
        rintro ⟨frameId, hreserved⟩
        cases ((hswept.partitioned horigin).isReserved_eq_false frameId).symm.trans hreserved
      dsimp only
      rw [if_neg hnone]
      exact reverts_of_none rfl
  | some victim =>
      have hstate := h.state_victim horigin hfree clock hspec
      have hback : (((pool.insertLoad pageId callId).swept clock frames).reserveFrame victim).setFrame
          victim ((((pool.insertLoad pageId callId).swept clock frames).reserveFrame
            victim).frames victim).setResident = (pool.swept clock frames).insertLoad pageId callId :=
        setResident_reserveFrame hstate
      have hundone : Unchanged origin
          (((pool.swept clock frames).insertLoad pageId callId).removeLoad pageId) := by
        rwa [removeLoad_insertLoad (by exact hload)]
      rw [← hback] at hundone
      exact reverts_reserveVictim hstate (fun _ _ => reverts_of_some rfl hundone)
        fun _ => reverts_of_some rfl hundone

/-- A miss can be taken back. -/
theorem fetchMiss (h : Unchanged origin pool) (horigin : origin.Partitioned) :
    Reverts origin (pool.fetchMiss callId pageId) := by
  unfold BufferPoolManager.fetchMiss
  cases hload : pool.inFlightLoads pageId with
  | some waiter => exact reverts_of_some rfl h
  | none =>
      have hfrees : (pool.insertLoad pageId callId).freeFrames = pool.freeFrames := rfl
      simp only [hfrees]
      cases hfree : pool.freeFrames with
      | nil => exact h.fetchEvict horigin hload hfree
      | cons frameId rest =>
          have hmem : frameId ∈ pool.freeFrames := hfree ▸ List.mem_cons_self
          have hstate := ((h.partitioned horigin).mem_free frameId).mp hmem
          have hreserved : ((pool.insertLoad pageId callId).frames frameId).isReserved = false :=
            (h.partitioned horigin).isReserved_eq_false frameId
          simp only [Frame.reserve_eq_ok hreserved]
          have hback : ((((pool.insertLoad pageId callId).withFree rest).reserveFrame
              frameId).setFrame frameId ((((pool.insertLoad pageId callId).withFree
                rest).reserveFrame frameId).frames frameId).setFree) =
              (pool.withFree rest).insertLoad pageId callId := setFree_reserveFrame hstate
          have hundone : Unchanged origin
              ((((pool.withFree rest).insertLoad pageId callId).addFrame frameId).removeLoad
                pageId) := by
            change Unchanged origin
              (((pool.withFree (rest ++ [frameId])).insertLoad pageId callId).removeLoad pageId)
            rw [removeLoad_insertLoad (by exact hload)]
            refine h.trans (of_sameButReference rfl ?_ rfl rfl fun _ => .refl _)
            rw [hfree]
            exact List.perm_append_singleton frameId rest
          rw [← hback] at hundone
          exact reverts_of_some rfl hundone

/-- The decision of a fetch can be taken back. -/
theorem fetchDecide (h : Unchanged origin pool) (horigin : origin.Partitioned)
    (missRecorded : Bool) : Reverts origin (pool.fetchDecide callId pageId missRecorded) := by
  unfold BufferPoolManager.fetchDecide
  cases pool.pageTable pageId with
  | some frameId =>
      unfold fetchHit
      dsimp only
      split_ifs
      · exact reverts_of_some rfl h
      · cases (pool.recordHit.frames frameId).pin with
        | error e => exact reverts_of_none rfl
        | ok frame =>
            dsimp only
            cases frame.markReferenced <;> exact reverts_of_none rfl
  | none =>
      rcases recordMissOnce_eq pool missRecorded with ⟨metrics, hmetrics⟩
      dsimp only
      rw [hmetrics]
      exact (h.trans (withMetrics pool metrics)).fetchMiss horigin

/-- A mapped frame is `Resident`. -/
theorem state_mapped (h : Unchanged origin pool) (horigin : origin.Partitioned)
    (htable : pool.pageTable pageId = some frameId) : (pool.frames frameId).state = .resident := by
  have hpool := h.partitioned horigin
  have hne : (pool.frames frameId).state ≠ .free := by
    intro hstate
    exact (hpool.free frameId hstate).2 pageId htable
  exact (hpool.resident frameId hne).1

/-- No disk failure stops an unpin or a mark. -/
theorem changeResident (pool : BufferPoolManager n) (pageId : PageId)
    (change : Frame → Except IoError Frame) :
    Reverts origin (pool.changeResident pageId change) := by
  unfold BufferPoolManager.changeResident
  cases pool.pageTable pageId with
  | none => exact reverts_of_none rfl
  | some frameId =>
      dsimp only
      split_ifs
      · exact reverts_of_none rfl
      · cases change (pool.frames frameId) <;> exact reverts_of_none rfl

/-- A reservation for a flush can be taken back. -/
theorem flushTake (h : Unchanged origin pool)
    (hstate : (pool.frames frameId).state = .resident) (caller : FlushCaller) :
    Reverts origin ⟨pool.reserveFrame frameId, .flushCheck pageId frameId caller, .none⟩ := by
  apply reverts_of_some rfl
  dsimp only
  rwa [setResident_reserveFrame hstate]

/-- The start of a flush can be taken back. -/
theorem flushPage (h : Unchanged origin pool) (horigin : origin.Partitioned) :
    Reverts origin (pool.flushPage pageId) := by
  unfold BufferPoolManager.flushPage
  cases htable : pool.pageTable pageId with
  | none => exact reverts_of_none rfl
  | some frameId =>
      have hstate := h.state_mapped horigin htable
      have hreserved := (h.partitioned horigin).isReserved_eq_false frameId
      simp only [hreserved, Bool.false_eq_true, if_false, Frame.reserve_eq_ok hreserved]
      split_ifs
      · exact h.flushTake hstate .flushPage
      · exact reverts_of_none rfl

/-- The start of a deletion can be taken back. -/
theorem deletePage (h : Unchanged origin pool) (horigin : origin.Partitioned) :
    Reverts origin (pool.deletePage pageId) := by
  unfold BufferPoolManager.deletePage
  cases htable : pool.pageTable pageId with
  | none => exact reverts_of_none rfl
  | some frameId =>
      have hstate := h.state_mapped horigin htable
      have hreserved := (h.partitioned horigin).isReserved_eq_false frameId
      simp only [Frame.reserve_eq_ok hreserved]
      split_ifs
      · exact h.flushTake hstate .deletePage
      · exact reverts_of_none rfl
      · exact reverts_of_none rfl

/-- The start of `new_page` can be taken back. -/
theorem newPage (h : Unchanged origin pool) (horigin : origin.Partitioned) :
    Reverts origin pool.newPage := by
  unfold BufferPoolManager.newPage
  dsimp only
  split_ifs
  · exact reverts_of_none rfl
  cases hfree : pool.freeFrames with
  | cons frameId rest =>
      simp only [loadNew_eq_ok]
      exact reverts_of_none rfl
  | nil =>
      rcases ClockReplacer.findVictim_spec pool.clockReplacer pool.frames with
        ⟨found, clock, frames, hfind, hspec⟩
      simp only [hfind]
      cases found with
      | none => exact reverts_of_none rfl
      | some victim =>
          have hstate := h.state_victim horigin hfree clock hspec
          have hundone := h.trans (swept clock hspec)
          rw [← setResident_reserveFrame hstate] at hundone
          simp only [BufferPoolManager.swept, hfree] at hstate hundone
          exact reverts_reserveVictim hstate (fun _ _ => reverts_of_some rfl hundone)
            fun _ => reverts_of_none rfl

end Unchanged

namespace Reverts

/-- The frame that is being flushed is still reserved. -/
theorem flushCheck {caller : FlushCaller} {signal : Signal}
    (h : Reverts origin ⟨pool, .flushCheck pageId frameId caller, signal⟩) :
    Reverts origin (pool.flushCheck pageId frameId caller) := by
  unfold BufferPoolManager.flushCheck
  dsimp only
  split_ifs
  · cases caller <;> exact reverts_of_none rfl
  · cases (pool.frames frameId).getPageId with
    | error e => cases caller <;> exact reverts_of_none rfl
    | ok page => exact reverts_of_some rfl (h _ rfl)
  · cases caller <;> exact reverts_of_none rfl

/-- What can be taken back before the end of a flush can be taken back behind it. -/
theorem flushFinish {written : Except IoError Unit} {caller : FlushCaller} {signal : Signal}
    (h : Reverts origin ⟨pool, .flushFinish pageId frameId written caller, signal⟩) :
    Reverts origin (pool.flushFinish pageId frameId written caller) := by
  unfold BufferPoolManager.flushFinish
  cases written with
  | error e =>
      have hundone := h _ rfl
      cases caller with
      | flushPage => exact reverts_of_some rfl hundone
      | deletePage =>
          -- the frame will be set to `Resident` a second time
          refine reverts_of_some rfl ?_
          change Unchanged origin ((pool.setFrame frameId (pool.frames frameId).setResident).setFrame
            frameId ((pool.setFrame frameId (pool.frames frameId).setResident).frames
              frameId).setResident)
          rwa [setFrame_setFrame, frames_setFrame, Function.update_self]
  | ok done =>
      dsimp only
      cases (pool.frames frameId).clearDirty with
      | error e => cases caller <;> exact reverts_of_none rfl
      | ok frame => cases caller <;> exact reverts_of_none rfl

/-- No section changes what the pool is after taking back. -/
theorem advance (horigin : origin.Partitioned) {pc : Pc n} {signal : Signal} {io : Io}
    {next : Next n} (h : Reverts origin ⟨pool, pc, signal⟩)
    (hnext : pool.advance callId pc io = some next) : Reverts origin next := by
  cases pc with
  | fetchStart pageId missRecorded =>
      cases io <;> cases hnext
      exact (h _ rfl).fetchDecide horigin missRecorded
  | fetchWaitState | fetchWaitLoad =>
      cases io <;> cases hnext
      exact reverts_of_some rfl (h _ rfl)
  | fetchCheckLoad pageId waiter =>
      cases io <;> simp only [BufferPoolManager.advance, reduceCtorEq] at hnext
      split_ifs at hnext <;> cases hnext <;> exact reverts_of_some rfl (h _ rfl)
  | fetchRead pageId frameId =>
      rcases io with _ | outcome | outcome | _ <;> cases hnext
      cases outcome with
      | ok sizes => exact reverts_of_none rfl
      | fail error => exact reverts_of_some rfl (h _ rfl)
  | fetchLoad pageId frameId buffer =>
      cases io <;> simp only [BufferPoolManager.advance, Option.some_inj, reduceCtorEq] at hnext
      rw [← hnext, fetchLoad_eq]
      exact reverts_of_none rfl
  | fetchPublish pageId frameId =>
      cases io <;> cases hnext
      exact reverts_of_none rfl
  | fetchReadFailed pageId frameId error =>
      cases io <;> cases hnext
      exact reverts_of_some rfl (h _ rfl)
  | evictWrite pageId victim oldPageId oldData =>
      rcases io with _ | outcome | outcome | _ <;> cases hnext
      cases outcome <;> exact reverts_of_some rfl ((h _ rfl).trans (Unchanged.withDisk _ _))
  | evictRead pageId victim oldPageId =>
      rcases io with _ | outcome | outcome | _ <;> cases hnext
      cases outcome with
      | ok sizes => exact reverts_of_none rfl
      | fail error => exact reverts_of_some rfl (h _ rfl)
  | evictCommit pageId victim oldPageId buffer =>
      cases io <;> simp only [BufferPoolManager.advance, Option.some_inj, reduceCtorEq] at hnext
      rw [← hnext, evictCommit_eq]
      cases pool.pageTable.replace oldPageId pageId victim <;> exact reverts_of_none rfl
  | evictFailed pageId victim oldPageId error =>
      cases io <;> cases hnext
      exact reverts_of_some rfl (h _ rfl)
  | fetchNotify waiter result =>
      cases io <;> cases hnext
      rcases result with error | frameId
      · cases error with
        | diskError error => exact reverts_of_some rfl (h _ rfl)
        | _ => exact reverts_of_none rfl
      · exact reverts_of_none rfl
  | unpinStart pageId =>
      cases io <;> cases hnext
      exact Unchanged.changeResident pool pageId Frame.unpin
  | markDirtyStart pageId =>
      cases io <;> cases hnext
      exact Unchanged.changeResident pool pageId Frame.markDirty
  | flushStart pageId =>
      cases io <;> cases hnext
      exact (h _ rfl).flushPage horigin
  | deleteStart pageId =>
      cases io <;> cases hnext
      exact (h _ rfl).deletePage horigin
  | flushCheck pageId frameId caller =>
      cases io <;> cases hnext
      exact h.flushCheck
  | flushWrite pageId frameId dirtyPageId data caller =>
      rcases io with _ | outcome | outcome | _ <;> cases hnext
      cases outcome with
      | ok => exact reverts_of_none rfl
      | fail error left => exact reverts_of_some rfl ((h _ rfl).trans (Unchanged.withDisk _ _))
  | flushFinish pageId frameId written caller =>
      cases io <;> cases hnext
      exact h.flushFinish
  | flushRelease pageId frameId =>
      cases io <;> cases hnext
      exact reverts_of_none rfl
  | deleteRollback pageId frameId error =>
      cases io <;> cases hnext
      cases error with
      | diskError error => exact reverts_of_some rfl (h _ rfl)
      | _ => exact reverts_of_none rfl
  | deleteFinish pageId frameId =>
      cases io <;> cases hnext
      exact reverts_of_none rfl
  | newStart =>
      cases io <;> cases hnext
      exact (h _ rfl).newPage horigin
  | newWrite newPageId victim oldPageId oldData =>
      rcases io with _ | outcome | outcome | _ <;> cases hnext
      cases outcome with
      | ok => exact reverts_of_none rfl
      | fail error left => exact reverts_of_some rfl ((h _ rfl).trans (Unchanged.withDisk _ _))
  | newRollback newPageId victim oldPageId error =>
      cases io <;> cases hnext
      exact reverts_of_some rfl (h _ rfl)
  | newCommit newPageId victim oldPageId =>
      cases io <;> simp only [BufferPoolManager.advance, Option.some_inj, reduceCtorEq] at hnext
      rw [← hnext, newCommit_eq]
      cases pool.pageTable.replace oldPageId newPageId victim <;> exact reverts_of_none rfl
  | returned result => cases io <;> cases hnext

end Reverts

end

/-- A call that returns a disk error has changed nothing. -/
theorem Partitioned.serve_diskError (h : pool.Partitioned) {request : Request} {error : IoError}
    (hserve : pool.serve request = some (pool', .failed (.diskError error))) :
    Unchanged pool pool' := by
  have hrun : Reverts pool ⟨pool', .returned (.failed (.diskError error)), .none⟩ := by
    apply solo_induction (motive := fun pool' pc => Reverts pool ⟨pool', pc, .none⟩) ?_ ?_
      (serve_eq_some.mp hserve)
    · intro pool₁ pc io next hpool hnext undone hundone
      exact hpool.advance h hnext undone hundone
    · rcases record_eq pool request.call with ⟨metrics, hmetrics⟩
      rw [hmetrics]
      have hstart := Unchanged.withMetrics pool metrics
      cases request.call <;> exact reverts_of_some rfl hstart
  exact hrun pool' rfl

end BufferPoolManager

/-- In every sequence of calls without concurrency, on any pages and whatever the disk
does, a call that returns a disk error leaves the pool as it was. -/
theorem disk_failure_unchanged (n : Nat) (file : List UInt8)
    {path : List (Request × BufferPoolManager n)}
    (hpath : IsPath BufferPoolManager.Answers (BufferPoolManager.new n file) path) :
    EveryStep (fun pool request pool' => ∀ error,
      pool.serve request = some (pool', .failed (.diskError error)) → pool.Unchanged pool')
      (BufferPoolManager.new n file) path := by
  apply hpath.everyStep hpath.everyStep_self (new_partitioned n file)
  rintro pool request pool' hpool ⟨result, hserve⟩ -
  exact ⟨hpool.serve hserve, fun error hfailed => hpool.serve_diskError hfailed⟩

/-- A disk that refuses the flush, the deletion, both evictions of a dirty page, the read
behind an eviction and the read into a free frame. -/
def refusals : List Request :=
  [⟨.fetchPage 7, 0, [.none, .read (.fail ⟨.other, "io"⟩), .none, .none]⟩,
    ⟨.newPage, 1, [.none]⟩, ⟨.flushPage 0, 2, [.none, .none, .write (.fail ⟨.other, "io"⟩ []), .none]⟩,
    ⟨.unpinPage 0, 3, [.none]⟩,
    ⟨.deletePage 0, 4, [.none, .none, .write (.fail ⟨.other, "io"⟩ []), .none, .none]⟩,
    ⟨.newPage, 5, [.none, .write (.fail ⟨.other, "io"⟩ [9]), .none]⟩,
    ⟨.fetchPage 7, 6, [.none, .write (.fail ⟨.other, "io"⟩ [9]), .none, .none]⟩,
    ⟨.fetchPage 7, 7, [.none, .write .ok, .read (.fail ⟨.other, "io"⟩), .none, .none]⟩]

/-- Requests that are served one after the other are a run. -/
theorem isPath_answers_served (n : Nat) (requests : List Request) :
    IsPath BufferPoolManager.Answers (BufferPoolManager.new n []) (served n requests) := by
  have hpath := isPath_follow (fun pool request => (pool.serve request).map Prod.fst)
    (BufferPoolManager.new n []) requests
  refine hpath.imp hpath.everyStep_self ?_
  rintro pool request pool' hserve -
  rcases Option.map_eq_some_iff.mp hserve with ⟨⟨pool₁, result⟩, hresult, rfl⟩
  exact ⟨result, hresult⟩

/-- Every refusal leaves the pool unchanged, and the page dirty. -/
theorem disk_failure_unchanged_refusals :
    (served 1 refusals).length = 8 ∧
      ((lastState (BufferPoolManager.new 1 []) (served 1 refusals)).frames 0).isDirty = true ∧
      EveryStep (fun pool request pool' => ∀ error,
        pool.serve request = some (pool', .failed (.diskError error)) → pool.Unchanged pool')
        (BufferPoolManager.new 1 []) (served 1 refusals) :=
  ⟨by decide +kernel, by decide +kernel,
    disk_failure_unchanged 1 [] (isPath_answers_served 1 refusals)⟩

/-! ## Page tables that refuse a new page -/

namespace BufferPoolManager

variable {pool pool' : BufferPoolManager n} {victim : Fin n} {page : PageId} {callId : CallId}
  {ios : List Io} {result : CallResult n}

/-- If `new_page` has to evict, the page table maps the page of the victim to the victim,
and it does not know the next identifier yet. -/
def AcceptsNew (pool : BufferPoolManager n) : Prop :=
  pool.nextPageId < 65535 → pool.freeFrames = [] → ∀ victim clock frames page,
    pool.clockReplacer.findVictim pool.frames = .ok (some victim, clock, frames) →
      (pool.frames victim).heldPage = some page →
        pool.pageTable page = some victim ∧ pool.pageTable pool.nextPageId = none

/-- Between two calls, the victim of a search without free frames holds a page. -/
theorem Partitioned.exists_heldPage (h : pool.Partitioned) (hfree : pool.freeFrames = [])
    {frames : Fin n → Frame}
    (hspec : ClockReplacer.VictimSpec pool.frames (some victim) frames) :
    ∃ page, (pool.frames victim).heldPage = some page ∧ (pool.frames victim).pins = 0 ∧
      (frames victim).heldPage = some page ∧ (frames victim).isReserved = false := by
  rcases hspec.victim_spec victim rfl with ⟨hpinned, hreserved⟩
  have hsame := hspec.sameButReference victim
  rcases Option.ne_none_iff_exists'.mp (h.all_resident hfree victim).2 with ⟨found, hfound⟩
  have hheld : (pool.frames victim).heldPage = some found.pageId := by
    rw [Frame.heldPage, hfound, Option.map_some]
  exact ⟨found.pageId, hheld, Frame.isPinned_eq_false_iff.mp hpinned, hsame.heldPage_eq.trans hheld,
    hsame.isReserved_eq.trans hreserved⟩

/-- A refused page stands in the frame of the victim. -/
theorem Partitioned.not_intact (h : pool.Partitioned) (hios : ∀ io ∈ ios, io.Succeeds)
    (hrefuses : ¬ pool.AcceptsNew)
    (hsolo : solo callId ios pool .newStart = some (pool', .returned result)) :
    (∃ error, result = .failed (.pageTableError error)) ∧ ¬ Intact pool pool' := by
  simp only [AcceptsNew, not_forall] at hrefuses
  rcases hrefuses with ⟨hlt, hfree, victim, clock, frames, page, hfind, hheld, hnot⟩
  rcases ClockReplacer.findVictim_spec pool.clockReplacer pool.frames with
    ⟨found, clock', frames', hfind', hspec⟩
  rw [hfind] at hfind'
  cases hfind'
  rcases h.exists_heldPage hfree hspec with ⟨page', hpage', hpins, hheld', hreserved⟩
  rw [hheld, Option.some_inj] at hpage'
  subst hpage'
  have hcommit := solo_newStart_evict hios hlt hfree hfind hreserved hheld' hsolo
  rw [newCommit_eq, pageTable_writeBack] at hcommit
  cases hreplace : ((pool.swept clock frames).reserveFrame victim).pageTable.replace page
      pool.nextPageId victim with
  | ok table =>
      have haccepts := PageTable.replace_eq_ok_iff.mp hreplace
      exact absurd ⟨haccepts.1, haccepts.2.1⟩ hnot
  | error e =>
      simp only [hreplace, fail, finish, Next.mk.injEq, Pc.returned.injEq, and_true] at hcommit
      refine ⟨⟨e, hcommit.2.symm⟩, fun hintact => ?_⟩
      have hpinned := hintact.pins victim
      rw [← hcommit.1, frames_setFrame, Function.update_self, hpins] at hpinned
      cases hpinned

/-- Where the table accepts the new page, it does not refuse it. -/
theorem Partitioned.not_pageTableError (h : pool.Partitioned) (hios : ∀ io ∈ ios, io.Succeeds)
    (haccepts : pool.AcceptsNew) {error : PageTableError} :
    solo callId ios pool .newStart ≠ some (pool', .returned (.failed (.pageTableError error))) := by
  intro hsolo
  have hstart := hsolo
  cases ios with
  | nil => cases hsolo
  | cons io ios =>
      rcases solo_cons_eq_some.mp hsolo with ⟨next, hnext, hrest⟩
      cases io <;> simp only [advance, Option.some_inj, reduceCtorEq] at hnext
      subst hnext
      by_cases hlt : pool.nextPageId < 65535
      · cases hfree : pool.freeFrames with
        | cons frameId rest =>
            rw [Consistent.newPage_eq_take pool hlt hfree] at hrest
            cases (solo_returned hrest).2
        | nil =>
            rcases ClockReplacer.findVictim_spec pool.clockReplacer pool.frames with
              ⟨found, clock, frames, hfind, hspec⟩
            cases found with
            | none =>
                simp only [newPage, UInt16.not_le.mpr hlt, if_false, hfree, hfind] at hrest
                cases (solo_returned hrest).2
            | some victim =>
                rcases h.exists_heldPage hfree hspec with ⟨page, hheld, -, hheld', hreserved⟩
                rcases haccepts hlt hfree victim clock frames page hfind hheld with ⟨hold, hnew⟩
                have hcommit := solo_newStart_evict hios hlt hfree hfind hreserved hheld' hstart
                rw [newCommit_eq, pageTable_writeBack] at hcommit
                have hreplace : ((pool.swept clock frames).reserveFrame victim).pageTable.replace
                    page pool.nextPageId victim = .ok _ := PageTable.replace_eq_ok hold hnew
                simp only [hreplace, finish, Next.mk.injEq, Pc.returned.injEq, reduceCtorEq,
                  and_false, false_and] at hcommit
      · simp only [newPage, UInt16.not_lt.mp hlt, if_true] at hrest
        cases (solo_returned hrest).2

end BufferPoolManager

/-- A `new_page` that the page table refuses leaves the pool intact. -/
def BufferPoolManager.RefusedIntact (pool : BufferPoolManager n) (request : Request)
    (pool' : BufferPoolManager n) : Prop :=
  ∀ error, request.call = .newPage →
    pool.serve request = some (pool', .failed (.pageTableError error)) → pool.Intact pool'

/-- Of all sequences of calls on a new pool whose disk does not fail, those in which every
refused `new_page` leaves the pool intact are those in which the table accepts each. -/
theorem new_page_intact_iff (n : Nat) (file : List UInt8)
    {path : List (Request × BufferPoolManager n)}
    (hpath : IsPath BufferPoolManager.Serves (BufferPoolManager.new n file) path) :
    EveryStep BufferPoolManager.RefusedIntact (BufferPoolManager.new n file) path ↔
      EveryStep (fun pool request _ => request.call = .newPage → pool.AcceptsNew)
        (BufferPoolManager.new n file) path := by
  apply hpath.everyStep_iff (new_partitioned n file)
  · rintro pool ⟨call, callId, ios⟩ pool' hpool ⟨hios, result, hserve⟩ haccepts
    refine ⟨hpool.serve hserve, fun error hcall hfailed => ?_⟩
    cases hcall
    exact absurd (serve_eq_some.mp hfailed) (hpool.not_pageTableError hios (haccepts rfl))
  · rintro pool ⟨call, callId, ios⟩ pool' hpool ⟨hios, result, hserve⟩ hintact hcall
    cases hcall
    by_contra hrefuses
    rcases hpool.not_intact hios hrefuses (serve_eq_some.mp hserve) with ⟨⟨error, rfl⟩, hnot⟩
    exact hnot (hintact error rfl hserve)

/-- The condition holds when every page is fetched after it was allocated. -/
theorem new_page_intact_iff_allocateThenFetch :
    (served 2 allocateThenFetch).length = 3 ∧
      (EveryStep BufferPoolManager.RefusedIntact (BufferPoolManager.new 2 [])
        (served 2 allocateThenFetch) ↔
      EveryStep (fun pool request _ => request.call = .newPage → pool.AcceptsNew)
        (BufferPoolManager.new 2 []) (served 2 allocateThenFetch)) :=
  ⟨by decide +kernel, new_page_intact_iff 2 []
    (isPath_served 2 allocateThenFetch (by simp [allocateThenFetch, Io.Succeeds]))⟩

/-- Two pages are fetched, one of them the next to be allocated, and the other is evicted. -/
def fetchNextThenEvict : List Request :=
  [⟨.fetchPage 0, 0, [.none, .read (.ok fun _ => 4096), .none, .none, .none]⟩,
    ⟨.fetchPage 5, 1, [.none, .read (.ok fun _ => 4096), .none, .none, .none]⟩,
    ⟨.unpinPage 5, 2, [.none]⟩, ⟨.newPage, 3, [.none, .none]⟩]

/-- The table refuses page 0 when it is already in the frame of page 5, and pinned. -/
theorem refused_after_eviction :
    ∃ path, IsPath BufferPoolManager.Serves (BufferPoolManager.new 2 []) path ∧
      ¬ EveryStep BufferPoolManager.RefusedIntact (BufferPoolManager.new 2 []) path := by
  have hpath := isPath_served 2 fetchNextThenEvict (by simp [fetchNextThenEvict, Io.Succeeds])
  refine ⟨_, hpath, fun hintact => ?_⟩
  have hpins : EveryStep (fun pool request pool' => request.call = .newPage →
      (pool.serve request).map Prod.snd = some (.failed (.pageTableError .pageAlreadyExist)) →
        (pool'.frames 1).pins = (pool.frames 1).pins) (BufferPoolManager.new 2 [])
      (served 2 fetchNextThenEvict) := by
    refine (hintact.and hpath.everyStep_self).imp ?_
    rintro pool request pool' ⟨hintact, -, result, hserve⟩ hcall hfailed
    rw [hserve, Option.map_some, Option.some_inj] at hfailed
    dsimp only at hfailed
    rw [hfailed] at hserve
    exact (hintact _ hcall hserve).pins 1
  exact absurd hpins (by decide +kernel)

end Storage
end TaskPool
