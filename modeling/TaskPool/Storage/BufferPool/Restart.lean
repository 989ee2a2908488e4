import TaskPool.Storage.BufferPool.Checkpoint

/-!
# A second pool on the same file

`DiskManager::new` keeps the file, but `BufferPoolManager::new` counts page identifiers
from 0 again.  The first `new_page` of a second pool therefore hands out a page of the
first one, as an empty page that is marked dirty, and whatever writes this page back
overwrites the old one.

Main results:

- Definition `BufferPoolManager.writtenPage`: the page that a call writes to the disk.
- Theorem `Partitioned.callWrites`: in a pool that is not written to, every call writes this
  page only, and the dirty frames are empty pages.
- Theorem `pages_survive_restart_iff`: the pages of the first pool survive exactly as long
  as no call writes back one that is not empty on the disk.
-/

namespace TaskPool
namespace Storage

open BufferPoolManager Library

variable {n : Nat}

/-- The calls that neither mark pages dirty nor delete them. -/
def Call.ReadsOnly : Call → Prop
  | .markDirtyPage _ => False
  | .deletePage _ => False
  | _ => True

namespace BufferPoolManager

/-- The frame that CLOCK would evict. -/
def victim (pool : BufferPoolManager n) : Option (Fin n) :=
  match pool.clockReplacer.findVictim pool.frames with
  | .ok (found, _, _) => found
  | .error _ => none

/-- The frame that a call flushes or evicts. -/
def leaving (pool : BufferPoolManager n) : Call → Option (Fin n)
  | .flushPage pageId => pool.pageTable pageId
  | .fetchPage pageId =>
    if pool.pageTable pageId = none ∧ pool.inFlightLoads pageId = none ∧ pool.freeFrames = [] then
      pool.victim
    else none
  | .newPage => if pool.nextPageId < 65535 ∧ pool.freeFrames = [] then pool.victim else none
  | _ => none

/-- A fetch evicts when its page is nowhere and no frame is free. -/
theorem leaving_fetchPage (pool : BufferPoolManager n) (pageId : PageId) :
    pool.leaving (.fetchPage pageId) =
      if pool.pageTable pageId = none ∧ pool.inFlightLoads pageId = none ∧
        pool.freeFrames = [] then pool.victim else none := rfl

/-- A `new_page` evicts when it has an id and no frame is free. -/
theorem leaving_newPage (pool : BufferPoolManager n) :
    pool.leaving .newPage =
      if pool.nextPageId < 65535 ∧ pool.freeFrames = [] then pool.victim else none := rfl

/-- The page that a call writes to the disk: that of the frame it flushes or evicts, if the
frame is dirty. -/
def writtenPage (pool : BufferPoolManager n) (call : Call) : Option PageId :=
  match pool.leaving call with
  | some frameId =>
    if (pool.frames frameId).isDirty then (pool.frames frameId).heldPage else none
  | none => none

/-- What a call does to the disk and to the dirty frames, when no client writes to a page. -/
structure CallWrites (pool : BufferPoolManager n) (call : Call) (pool' : BufferPoolManager n) :
    Prop where
  disk : pool.writtenPage call = none ∧ pool'.diskManager = pool.diskManager ∨
    ∃ frameId page, pool.writtenPage call = some page ∧ (pool.frames frameId).isDirty = true ∧
      pool'.diskManager = (pool.diskManager.writePage page (pool.frames frameId).data .ok).2
  frames : ∀ frameId, (pool'.frames frameId).isDirty = true →
    (pool'.frames frameId).data = Buffer.zero pageSize ∨
      (pool.frames frameId).isDirty = true ∧
        (pool'.frames frameId).data = (pool.frames frameId).data

variable {pool pool' : BufferPoolManager n} {frameId victim : Fin n} {pageId page : PageId}
  {callId : CallId} {ios : List Io} {result : CallResult n} {call : Call}

/-! ## The frames -/

/-- All frames but one keep their bytes and dirty bits, and the one is clean or empty. -/
theorem frames_of_one (frameId : Fin n)
    (hothers : ∀ other, other ≠ frameId →
      Frame.SameButReference (pool.frames other) (pool'.frames other))
    (hframe : (pool'.frames frameId).isDirty = true →
      (pool'.frames frameId).data = Buffer.zero pageSize ∨
        (pool.frames frameId).isDirty = true ∧
          (pool'.frames frameId).data = (pool.frames frameId).data)
    (other : Fin n) (hdirty : (pool'.frames other).isDirty = true) :
    (pool'.frames other).data = Buffer.zero pageSize ∨
      (pool.frames other).isDirty = true ∧
        (pool'.frames other).data = (pool.frames other).data := by
  by_cases hother : other = frameId
  · subst hother
    exact hframe hdirty
  · have hsame := hothers other hother
    rw [hsame.isDirty_eq] at hdirty
    exact .inr ⟨hdirty, hsame.data_eq⟩

/-- A dirty frame that is the same but for its reference bit was dirty before, with these
bytes. -/
theorem frames_of_same
    (hframes : ∀ other, Frame.SameButReference (pool.frames other) (pool'.frames other))
    (other : Fin n) (hdirty : (pool'.frames other).isDirty = true) :
    (pool'.frames other).data = Buffer.zero pageSize ∨
      (pool.frames other).isDirty = true ∧
        (pool'.frames other).data = (pool.frames other).data := by
  rw [(hframes other).isDirty_eq] at hdirty
  exact .inr ⟨hdirty, (hframes other).data_eq⟩

/-! ## The disk -/

/-- A call that flushes and evicts nothing leaves the disk. -/
theorem disk_of_nothing (hleaving : pool.leaving call = none)
    (hdisk : pool'.diskManager = pool.diskManager) :
    pool.writtenPage call = none ∧ pool'.diskManager = pool.diskManager ∨
      ∃ frameId page, pool.writtenPage call = some page ∧ (pool.frames frameId).isDirty = true ∧
        pool'.diskManager = (pool.diskManager.writePage page (pool.frames frameId).data .ok).2 := by
  simp [writtenPage, hleaving, hdisk]

/-- The frame that leaves is written back. -/
theorem disk_of_leaving (hleaving : pool.leaving call = some frameId)
    (hheld : (pool.frames frameId).heldPage = some page)
    (hdisk : pool'.diskManager = (pool.writeBack frameId page).diskManager) :
    pool.writtenPage call = none ∧ pool'.diskManager = pool.diskManager ∨
      ∃ frameId page, pool.writtenPage call = some page ∧ (pool.frames frameId).isDirty = true ∧
        pool'.diskManager = (pool.diskManager.writePage page (pool.frames frameId).data .ok).2 := by
  unfold writeBack at hdisk
  by_cases hdirty : (pool.frames frameId).isDirty = true
  · rw [if_pos hdirty] at hdisk
    exact .inr ⟨frameId, page, by simp [writtenPage, hleaving, hdirty, hheld], hdirty, hdisk⟩
  · rw [if_neg hdirty] at hdisk
    exact .inl ⟨by simp [writtenPage, hleaving, hdirty], hdisk⟩

/-! ## Flushes and allocations -/

/-- A flush writes its page when the frame is dirty. -/
theorem Flushes.callWrites (hios : ∀ io ∈ ios, io.Succeeds)
    (h : Flushes pool pageId ios pool' result) : CallWrites pool (.flushPage pageId) pool' := by
  cases h with
  | missing htable =>
      exact ⟨disk_of_nothing htable rfl, frames_of_same fun _ => .refl _⟩
  | @stored frameId page htable hheld =>
      refine ⟨disk_of_leaving htable hheld rfl, frames_of_one frameId ?_ ?_⟩
      · intro other hother
        rw [frames_setFrame, frames_writeBack, Function.update_of_ne hother]
        exact .refl _
      · rw [frames_setFrame, Function.update_self, Frame.isDirty_withDirty_false]
        exact nofun
  | refused htable hheld hdirty hfails => exact absurd (hios _ hfails) id

/-- The commit of `new_page` zeroes its frame and leaves the disk. -/
theorem newCommit_frames (pool : BufferPoolManager n) (newPageId : PageId) (victim : Fin n)
    (page : PageId) : (pool.newCommit newPageId victim page).pool.frames =
      Function.update pool.frames victim (.fresh newPageId) ∧
        (pool.newCommit newPageId victim page).pool.diskManager = pool.diskManager := by
  rw [newCommit_eq]
  cases pool.pageTable.replace page newPageId victim <;> exact ⟨rfl, rfl⟩

/-- A frame is written back when it is dirty. -/
theorem diskManager_writeBack (pool : BufferPoolManager n) (frameId : Fin n) (page : PageId) :
    (pool.writeBack frameId page).diskManager =
      if (pool.frames frameId).isDirty then
        (pool.diskManager.writePage page (pool.frames frameId).data .ok).2
      else pool.diskManager := by
  unfold writeBack
  split_ifs <;> rfl

/-- The search for the victim does not change what is written back. -/
theorem diskManager_writeBack_victim {clock : ClockReplacer n} {frames : Fin n → Frame}
    (hsame : Frame.SameButReference (pool.frames victim) (frames victim)) (page : PageId) :
    (((pool.swept clock frames).reserveFrame victim).writeBack victim page).diskManager =
      (pool.writeBack victim page).diskManager := by
  have hframe : ((pool.swept clock frames).reserveFrame victim).frames victim =
      { frames victim with state := .reserved } := Function.update_self ..
  have hdirty : Frame.isDirty { frames victim with state := .reserved } =
      (pool.frames victim).isDirty := hsame.isDirty_eq
  rw [diskManager_writeBack, diskManager_writeBack, hframe, hdirty, hsame.data_eq]
  rfl

/-- The frames after the victim is loaded anew. -/
theorem sameButReference_of_victim {clock : ClockReplacer n} {frames : Fin n → Frame}
    (hspec : ClockReplacer.VictimSpec pool.frames (some victim) frames) (frame : Frame)
    (other : Fin n) (hother : other ≠ victim) :
    Frame.SameButReference (pool.frames other) (Function.update
      (((pool.swept clock frames).reserveFrame victim).writeBack victim page).frames victim frame
        other) := by
  rw [frames_writeBack, Function.update_of_ne hother, reserveFrame, frames_setFrame,
    Function.update_of_ne hother]
  exact hspec.sameButReference other

/-- The victim is what the search finds. -/
theorem victim_eq {clock : ClockReplacer n} {frames : Fin n → Frame} {found : Option (Fin n)}
    (hfind : pool.clockReplacer.findVictim pool.frames = .ok (found, clock, frames)) :
    pool.victim = found := by
  unfold BufferPoolManager.victim
  rw [hfind]

/-- A `new_page` writes the dirty victim that it evicts, and nothing else. -/
theorem Partitioned.callWrites_newPage (h : pool.Partitioned) (hios : ∀ io ∈ ios, io.Succeeds)
    (hsolo : solo callId ios pool .newStart = some (pool', .returned result)) :
    CallWrites pool .newPage pool' := by
  have hstart := hsolo
  rcases solo_step (by rintro _ ⟨⟩) hsolo with ⟨io, rest, next, rfl, hnext, hrest⟩
  cases io <;> simp only [advance, Option.some_inj, reduceCtorEq] at hnext
  subst hnext
  by_cases hlt : pool.nextPageId < 65535
  · cases hfree : pool.freeFrames with
    | cons frameId free =>
        rw [Consistent.newPage_eq_take pool hlt hfree] at hrest
        rcases solo_returned hrest with ⟨rfl, -⟩
        refine ⟨disk_of_nothing (by simp [leaving_newPage, hfree]) rfl,
          frames_of_one frameId ?_ ?_⟩
        · intro other hother
          exact congrArg Frame.unreferenced (Function.update_of_ne hother ..).symm
        · intro _
          have hframe : ((pool.withFree free).setFrame frameId (.fresh pool.nextPageId)).frames
              frameId = .fresh pool.nextPageId := Function.update_self ..
          exact .inl (congrArg Frame.data hframe)
    | nil =>
        rcases ClockReplacer.findVictim_spec pool.clockReplacer pool.frames with
          ⟨found, clock, frames, hfind, hspec⟩
        cases found with
        | none =>
            simp only [newPage, UInt16.not_le.mpr hlt, if_false, hfree, hfind] at hrest
            rcases solo_returned hrest with ⟨rfl, -⟩
            exact ⟨disk_of_nothing (by simp [leaving_newPage, victim_eq hfind]) rfl,
              frames_of_same hspec.sameButReference⟩
        | some victim =>
            rcases h.exists_heldPage hfree hspec with ⟨page, hheld, -, hheld', hreserved⟩
            have hcommit := congrArg Next.pool
              (solo_newStart_evict hios hlt hfree hfind hreserved hheld' hstart)
            rcases newCommit_frames (((pool.swept clock frames).reserveFrame victim).writeBack victim
              page) pool.nextPageId victim page with ⟨hframes, hdisk⟩
            rw [hcommit] at hframes hdisk
            change pool'.frames = _ at hframes
            change pool'.diskManager = _ at hdisk
            rw [diskManager_writeBack_victim (hspec.sameButReference victim)] at hdisk
            refine ⟨disk_of_leaving ?_ hheld hdisk, frames_of_one victim ?_ ?_⟩
            · simp [leaving_newPage, hlt, hfree, victim_eq hfind]
            · rw [hframes]
              exact sameButReference_of_victim hspec _
            · intro _
              rw [hframes, Function.update_self]
              exact .inl rfl
  · simp only [newPage, UInt16.not_lt.mp hlt, if_true] at hrest
    rcases solo_returned hrest with ⟨rfl, -⟩
    exact ⟨disk_of_nothing (by simp [leaving_newPage, hlt]) rfl, frames_of_same fun _ => .refl _⟩

/-! ## Fetches -/

/-- Behind its end a fetch changes nothing. -/
theorem solo_fetchNotify {waiter : Option CallId} {outcome : Except BufferPoolError (Fin n)}
    (hsolo : solo callId ios pool (.fetchNotify waiter outcome) = some (pool', .returned result)) :
    pool' = pool := by
  rcases solo_step (by rintro _ ⟨⟩) hsolo with ⟨io, rest, next, rfl, hnext, hrest⟩
  cases io <;> cases hnext
  exact (solo_returned hrest).1

/-- A fetch that has read its page into a free frame loads and publishes it. -/
theorem solo_fetchLoad {buffer : Buffer pageSize}
    (hsolo : solo callId ios pool (.fetchLoad pageId frameId buffer) =
      some (pool', .returned result)) :
    pool'.frames = Function.update pool.frames frameId (.loaded pageId buffer) ∧
      pool'.diskManager = pool.diskManager := by
  rcases solo_step (by rintro _ ⟨⟩) hsolo with ⟨io, rest, next, rfl, hnext, hrest⟩
  cases io <;> simp only [advance, fetchLoad_eq, Option.some_inj, reduceCtorEq] at hnext
  subst hnext
  rcases solo_step (by rintro _ ⟨⟩) hrest with ⟨io, rest, next, rfl, hnext, hrest⟩
  cases io <;> cases hnext
  rw [solo_fetchNotify hrest]
  exact ⟨rfl, rfl⟩

/-- A fetch that has read its page for the victim loads it, even if the table refuses it. -/
theorem solo_evictCommit {buffer : Buffer pageSize}
    (hsolo : solo callId ios pool (.evictCommit pageId victim page buffer) =
      some (pool', .returned result)) :
    pool'.frames = Function.update pool.frames victim (.loaded pageId buffer) ∧
      pool'.diskManager = pool.diskManager := by
  rcases solo_step (by rintro _ ⟨⟩) hsolo with ⟨io, rest, next, rfl, hnext, hrest⟩
  cases io <;> simp only [advance, Option.some_inj, reduceCtorEq] at hnext
  subst hnext
  rw [evictCommit_eq] at hrest
  cases hreplace : pool.pageTable.replace page pageId victim with
  | error e =>
      simp only [hreplace] at hrest
      rw [(solo_returned hrest).1]
      exact ⟨rfl, rfl⟩
  | ok table =>
      simp only [hreplace] at hrest
      rw [solo_fetchNotify hrest]
      exact ⟨rfl, rfl⟩

/-- On a disk that does not fail, an eviction for a fetch writes the victim back and loads
the page. -/
theorem solo_evict (hios : ∀ io ∈ ios, io.Succeeds) {frame : Frame} (hframe : pool.frames victim = frame)
    (hsolo : solo callId ios pool
      (if frame.isDirty then .evictWrite pageId victim page frame.data
      else .evictRead pageId victim page) = some (pool', .returned result)) :
    ∃ buffer, pool'.frames = Function.update pool.frames victim (.loaded pageId buffer) ∧
      pool'.diskManager = (pool.writeBack victim page).diskManager := by
  have hread : ∀ {ios pool}, (∀ io ∈ ios, io.Succeeds) →
      solo callId ios pool (.evictRead pageId victim page) = some (pool', .returned result) →
      ∃ buffer, pool'.frames = Function.update pool.frames victim (.loaded pageId buffer) ∧
        pool'.diskManager = pool.diskManager := by
    intro ios pool hios hsolo
    rcases solo_step (by rintro _ ⟨⟩) hsolo with ⟨io, rest, next, rfl, hnext, hrest⟩
    rcases io with _ | outcome | outcome | _ <;> cases hnext
    cases outcome with
    | ok sizes => exact ⟨_, solo_evictCommit hrest⟩
    | fail error => exact absurd (hios _ List.mem_cons_self) id
  rw [writeBack, hframe]
  by_cases hdirty : frame.isDirty = true
  · rw [if_pos hdirty] at hsolo ⊢
    rcases solo_step (by rintro _ ⟨⟩) hsolo with ⟨io, rest, next, rfl, hnext, hrest⟩
    rcases io with _ | outcome | outcome | _ <;> cases hnext
    cases outcome with
    | ok => exact hread (fun io hio => hios io (List.mem_cons_of_mem _ hio)) hrest
    | fail error left => exact absurd (hios _ List.mem_cons_self) id
  · rw [if_neg hdirty] at hsolo ⊢
    exact hread hios hsolo

/-- A call that waits for a load which nobody ends does not return. -/
theorem solo_fetchCheckLoad {waiter : CallId} (hload : pool.inFlightLoads pageId ≠ none) :
    solo callId ios pool (.fetchCheckLoad pageId waiter) ≠ some (pool', .returned result) := by
  intro hsolo
  have hwaits : pool'.inFlightLoads pageId ≠ none ∧
      ((Pc.returned result : Pc n) = .fetchCheckLoad pageId waiter ∨
        ∃ notified, (Pc.returned result : Pc n) = .fetchWaitLoad pageId waiter notified) := by
    apply solo_induction (motive := fun pool pc => pool.inFlightLoads pageId ≠ none ∧
      (pc = .fetchCheckLoad pageId waiter ∨ ∃ notified, pc = .fetchWaitLoad pageId waiter notified))
      ?_ ⟨hload, .inl rfl⟩ hsolo
    rintro pool pc io next ⟨hload, rfl | ⟨notified, rfl⟩⟩ hnext
    · have hsome : (pool.inFlightLoads pageId).isSome = true := Option.isSome_iff_ne_none.mpr hload
      cases io <;> simp only [advance, hsome, if_true, Option.some_inj, reduceCtorEq] at hnext
      rw [← hnext]
      exact ⟨hload, .inr ⟨_, rfl⟩⟩
    · cases io <;> cases hnext
      exact ⟨hload, .inl rfl⟩
  rcases hwaits.2 with hcheck | ⟨notified, hwait⟩
  · cases hcheck
  · cases hwait

/-- A miss with a free frame writes nothing. -/
theorem Partitioned.callWrites_fetchFree (h : pool.Partitioned) (hios : ∀ io ∈ ios, io.Succeeds)
    (hload : pool.inFlightLoads pageId = none) {free : List (Fin n)}
    (hfree : pool.freeFrames = frameId :: free)
    (hsolo : solo callId ios (pool.fetchMiss callId pageId).pool (pool.fetchMiss callId pageId).pc =
      some (pool', .returned result)) : CallWrites pool (.fetchPage pageId) pool' := by
  have hfrees : (pool.insertLoad pageId callId).freeFrames = pool.freeFrames := rfl
  have hreserved : ((pool.insertLoad pageId callId).frames frameId).isReserved = false :=
    h.isReserved_eq_false frameId
  simp only [fetchMiss, hload, hfrees, hfree, Frame.reserve_eq_ok hreserved] at hsolo
  rcases solo_step (by rintro _ ⟨⟩) hsolo with ⟨io, rest, next, rfl, hnext, hrest⟩
  rcases io with _ | outcome | outcome | _ <;> cases hnext
  cases outcome with
  | ok sizes =>
      rcases solo_fetchLoad hrest with ⟨hframes, hdisk⟩
      refine ⟨disk_of_nothing (by simp [leaving_fetchPage, hfree]) hdisk, frames_of_one frameId ?_ ?_⟩
      · intro other hother
        rw [hframes, Function.update_of_ne hother]
        exact congrArg Frame.unreferenced (Function.update_of_ne hother ..).symm
      · rw [hframes, Function.update_self]
        rintro ⟨⟩
  | fail error => exact absurd (hios _ List.mem_cons_self) id

/-- A miss without a free frame writes a dirty victim. -/
theorem Partitioned.callWrites_fetchEvict (h : pool.Partitioned) (hios : ∀ io ∈ ios, io.Succeeds)
    (htable : pool.pageTable pageId = none) (hload : pool.inFlightLoads pageId = none)
    (hfree : pool.freeFrames = [])
    (hsolo : solo callId ios (pool.fetchMiss callId pageId).pool (pool.fetchMiss callId pageId).pc =
      some (pool', .returned result)) : CallWrites pool (.fetchPage pageId) pool' := by
  have hfrees : (pool.insertLoad pageId callId).freeFrames = pool.freeFrames := rfl
  rcases ClockReplacer.findVictim_spec pool.clockReplacer pool.frames with
    ⟨found, clock, frames, hfind, hspec⟩
  have hfind' : (pool.insertLoad pageId callId).clockReplacer.findVictim
      (pool.insertLoad pageId callId).frames = .ok (found, clock, frames) := hfind
  simp only [fetchMiss, hload, hfrees, hfree, fetchEvict, hfind'] at hsolo
  cases found with
  | none =>
      have hnone : ¬ ∃ frameId, (frames frameId).isReserved := by
        rintro ⟨frameId, hreserved⟩
        rw [(hspec.sameButReference frameId).isReserved_eq] at hreserved
        cases (h.isReserved_eq_false frameId).symm.trans hreserved
      simp only [hnone, if_false] at hsolo
      rw [(solo_returned hsolo).1]
      exact ⟨disk_of_nothing (by simp [leaving_fetchPage, victim_eq hfind]) rfl,
        frames_of_same hspec.sameButReference⟩
  | some victim =>
      rcases h.exists_heldPage hfree hspec with ⟨page, hheld, -, hheld', hreserved⟩
      dsimp only at hsolo
      rw [reserveVictim_eq (by exact hreserved) (by exact hheld')] at hsolo
      have hevict : solo callId ios
          (((pool.insertLoad pageId callId).swept clock frames).reserveFrame victim)
          (if Frame.isDirty { frames victim with state := .reserved } then
            .evictWrite pageId victim page (frames victim).data
          else .evictRead pageId victim page) = some (pool', .returned result) := by
        rw [swept, hfrees, hfree]
        exact hsolo
      rcases solo_evict hios (Function.update_self ..) hevict with ⟨buffer, hframes, hdisk⟩
      have hwritten : pool'.diskManager = (pool.writeBack victim page).diskManager := by
        have hsame : Frame.SameButReference ((pool.insertLoad pageId callId).frames victim)
            (frames victim) := hspec.sameButReference victim
        rw [hdisk, diskManager_writeBack_victim hsame, diskManager_writeBack,
          diskManager_writeBack]
        rfl
      refine ⟨disk_of_leaving ?_ hheld hwritten, frames_of_one victim ?_ ?_⟩
      · simp [leaving_fetchPage, htable, hload, hfree, victim_eq hfind]
      · intro other hother
        rw [hframes, Function.update_of_ne hother, reserveFrame, frames_setFrame,
          Function.update_of_ne hother]
        exact hspec.sameButReference other
      · rw [hframes, Function.update_self]
        rintro ⟨⟩

/-- A miss writes the dirty victim that it evicts, and nothing else. -/
theorem Partitioned.callWrites_fetchMiss (h : pool.Partitioned) (hios : ∀ io ∈ ios, io.Succeeds)
    (htable : pool.pageTable pageId = none)
    (hsolo : solo callId ios (pool.fetchMiss callId pageId).pool (pool.fetchMiss callId pageId).pc =
      some (pool', .returned result)) : CallWrites pool (.fetchPage pageId) pool' := by
  cases hload : pool.inFlightLoads pageId with
  | some waiter =>
      simp only [fetchMiss, hload] at hsolo
      exact absurd hsolo (solo_fetchCheckLoad (by simp [hload]))
  | none =>
      cases hfree : pool.freeFrames with
      | cons frameId free => exact h.callWrites_fetchFree hios hload hfree hsolo
      | nil => exact h.callWrites_fetchEvict hios htable hload hfree hsolo

/-- A fetch writes the dirty victim that it evicts, and nothing else. -/
theorem Partitioned.callWrites_fetchPage (h : pool.Partitioned) (hios : ∀ io ∈ ios, io.Succeeds)
    (hsolo : solo callId ios pool (.fetchStart pageId false) = some (pool', .returned result)) :
    CallWrites pool (.fetchPage pageId) pool' := by
  rcases solo_step (by rintro _ ⟨⟩) hsolo with ⟨io, rest, next, rfl, hnext, hrest⟩
  have hsucceed : ∀ io ∈ rest, io.Succeeds := fun io hio => hios io (List.mem_cons_of_mem _ hio)
  cases io <;> simp only [advance, Option.some_inj, reduceCtorEq] at hnext
  subst hnext
  unfold fetchDecide at hrest
  cases htable : pool.pageTable pageId with
  | none =>
      simp only [htable] at hrest
      have hmiss : (pool.recordMissOnce false).Partitioned :=
        (Unchanged.withMetrics pool _).partitioned h
      have hwrites := hmiss.callWrites_fetchMiss hsucceed htable hrest
      exact ⟨hwrites.disk, hwrites.frames⟩
  | some frameId =>
      have hstate := (Unchanged.refl pool).state_mapped h htable
      have hreserved := h.isReserved_eq_false frameId
      have hmetadata : (pool.frames frameId).metadata ≠ none :=
        (h.resident frameId (by simp [hstate])).2
      rcases Frame.pin_eq_ok hmetadata with ⟨pinned, hpin, hmark⟩
      have hpin' : (pool.recordHit.frames frameId).pin = .ok pinned := hpin
      simp only [htable, fetchHit, hreserved, Bool.false_eq_true, if_false, hpin', hmark] at hrest
      rw [(solo_returned hrest).1]
      refine ⟨disk_of_nothing (by simp [leaving_fetchPage, htable]) rfl, frames_of_one frameId ?_ ?_⟩
      · intro other hother
        exact congrArg Frame.unreferenced (Function.update_of_ne hother ..).symm
      · intro hdirty
        have hframe : (pool.recordHit.setFrame frameId (pool.frames frameId).touched).frames frameId =
            (pool.frames frameId).touched := Function.update_self ..
        rw [finish, hframe] at hdirty ⊢
        rw [Frame.isDirty_touched] at hdirty
        exact .inr ⟨hdirty, Frame.data_mapMeta ..⟩

/-! ## All calls -/

/-- Removing a pin changes neither the bytes nor the dirty bit. -/
theorem isDirty_of_unpin {frame frame' : Frame} (h : frame.unpin = .ok frame') :
    frame'.isDirty = frame.isDirty ∧ frame'.data = frame.data := by
  unfold Frame.unpin at h
  cases hmeta : frame.metadata with
  | none => simp [hmeta] at h
  | some found =>
      simp only [hmeta] at h
      split_ifs at h
      cases h
      simp [Frame.isDirty, hmeta]

/-- `unpin_page` fails and does nothing, or it changes one frame. -/
theorem solo_unpinStart
    (hsolo : solo callId ios pool (.unpinStart pageId) = some (pool', .returned result)) :
    pool' = pool ∨ ∃ frameId frame, (pool.frames frameId).unpin = .ok frame ∧
      pool' = pool.setFrame frameId frame := by
  rcases solo_step (by rintro _ ⟨⟩) hsolo with ⟨io, rest, next, rfl, hnext, hrest⟩
  cases io <;> simp only [advance, Option.some_inj, reduceCtorEq] at hnext
  subst hnext
  unfold unpinPage changeResident at hrest
  cases htable : pool.pageTable pageId with
  | none =>
      simp only [htable] at hrest
      exact .inl (solo_returned hrest).1
  | some frameId =>
      simp only [htable] at hrest
      split_ifs at hrest with hreserved
      · exact .inl (solo_returned hrest).1
      · cases hunpin : (pool.frames frameId).unpin with
        | error e =>
            simp only [hunpin] at hrest
            exact .inl (solo_returned hrest).1
        | ok frame =>
            simp only [hunpin] at hrest
            exact .inr ⟨frameId, frame, hunpin, (solo_returned hrest).1⟩

/-- An unpin writes nothing. -/
theorem callWrites_unpinPage
    (hsolo : solo callId ios pool (.unpinStart pageId) = some (pool', .returned result)) :
    CallWrites pool (.unpinPage pageId) pool' := by
  rcases solo_unpinStart hsolo with rfl | ⟨frameId, frame, hunpin, rfl⟩
  · exact ⟨disk_of_nothing rfl rfl, frames_of_same fun _ => .refl _⟩
  · rcases isDirty_of_unpin hunpin with ⟨hdirty, hdata⟩
    refine ⟨disk_of_nothing rfl rfl, frames_of_one frameId ?_ ?_⟩
    · intro other hother
      rw [frames_setFrame, Function.update_of_ne hother]
      exact .refl _
    · rw [frames_setFrame, Function.update_self, hdirty, hdata]
      exact fun hdirty => .inr ⟨hdirty, rfl⟩

/-- A call that only reads writes the page that leaves, if any, and nothing else. -/
theorem Partitioned.callWrites (h : pool.Partitioned) {request : Request}
    (hserves : pool.Serves request pool') (hreads : request.call.ReadsOnly) :
    CallWrites pool request.call pool' := by
  rcases request with ⟨call, callId, ios⟩
  rcases hserves with ⟨hios, result, hserve⟩
  have hsolo := serve_eq_some.mp hserve
  cases call with
  | fetchPage pageId =>
      have hfetch : pool.recordFetch.Partitioned := (Unchanged.withMetrics pool _).partitioned h
      have hwrites := hfetch.callWrites_fetchPage hios hsolo
      exact ⟨hwrites.disk, hwrites.frames⟩
  | unpinPage pageId => exact callWrites_unpinPage hsolo
  | markDirtyPage pageId => cases hreads
  | flushPage pageId => exact (h.flushes hserve).callWrites hios
  | deletePage pageId => cases hreads
  | newPage => exact h.callWrites_newPage hios hsolo

/-! ## The second pool -/

/-- The pages have the bytes that they have on the given disk. -/
def Stored (disk : DiskManager) (pages : List PageId) (pool : BufferPoolManager n) : Prop :=
  ∀ pageId ∈ pages, pool.diskManager.page pageId = disk.page pageId

/-- A call writes back none of the pages that are not empty on the disk. -/
def Spares (pages : List PageId) (pool : BufferPoolManager n) (request : Request)
    (_ : BufferPoolManager n) : Prop :=
  ∀ pageId ∈ pages, pool.writtenPage request.call = some pageId →
    pool.diskManager.page pageId = Buffer.zero pageSize

/-- A pool that is only read: its dirty frames are empty pages, and the pages are those of
the given disk. -/
structure Reopened (disk : DiskManager) (pages : List PageId) (pool : BufferPoolManager n) :
    Prop where
  partitioned : pool.Partitioned
  empty : ∀ frameId, (pool.frames frameId).isDirty = true →
    (pool.frames frameId).data = Buffer.zero pageSize
  stored : Stored disk pages pool

/-- A new pool on the file shows its pages. -/
theorem new_reopened (n : Nat) (disk : DiskManager) (pages : List PageId) :
    Reopened disk pages (new n disk.file) where
  partitioned := new_partitioned n disk.file
  empty := nofun
  stored := fun _ _ => rfl

namespace Reopened

variable {disk : DiskManager} {pages : List PageId} {request : Request}

/-- A call that spares the pages keeps them. -/
theorem step (h : Reopened disk pages pool) (hserves : pool.Serves request pool')
    (hreads : request.call.ReadsOnly) (hspares : pool.Spares pages request pool') :
    Reopened disk pages pool' := by
  have hwrites := h.partitioned.callWrites hserves hreads
  rcases hserves with ⟨hios, result, hserve⟩
  constructor
  · exact h.partitioned.serve hserve
  · intro frameId hdirty
    rcases hwrites.frames frameId hdirty with hempty | ⟨hold, hdata⟩
    · exact hempty
    · rw [hdata, h.empty frameId hold]
  · intro pageId hpage
    rw [← h.stored pageId hpage]
    rcases hwrites.disk with ⟨-, hdisk⟩ | ⟨frameId, page, hwritten, hdirty, hdisk⟩
    · rw [hdisk]
    · rw [hdisk]
      by_cases heq : pageId = page
      · subst heq
        rw [DiskManager.page_writePage_ok, h.empty frameId hdirty, hspares pageId hpage hwritten]
      · exact DiskManager.page_writePage_of_ne _ heq _ _

/-- A call after which the pages are still there has spared them. -/
theorem spares (h : Reopened disk pages pool) (hserves : pool.Serves request pool')
    (hreads : request.call.ReadsOnly) (hstored : Stored disk pages pool') :
    pool.Spares pages request pool' := by
  intro pageId hpage hwritten
  rcases (h.partitioned.callWrites hserves hreads).disk with
    ⟨hnone, -⟩ | ⟨frameId, page, hpage', hdirty, hdisk⟩
  · rw [hwritten] at hnone
    cases hnone
  · rw [hwritten, Option.some_inj] at hpage'
    subst hpage'
    rw [h.stored pageId hpage, ← hstored pageId hpage, hdisk, DiskManager.page_writePage_ok,
      h.empty frameId hdirty]

end Reopened

end BufferPoolManager

/-- A session on a file that ends with a successful `flush_all_pages`. -/
structure FirstSession (n : Nat) where
  file : List UInt8
  path : List (Action × Session n)
  last : BufferPoolManager n
  isPath : IsPath (fun s action s' => s.act action = some s') (Session.new n file) path
  flushed : ∃ callId ios ids,
    (lastState (Session.new n file) path).pool.pageTable.ListsResidents ids ∧
      flushAllPages callId ios (lastState (Session.new n file) path).pool ids = some (last, .ok ())

namespace FirstSession

/-- The pages that the session has allocated. -/
def allocated (first : FirstSession n) : List PageId :=
  (lastState (Session.new n first.file) first.path).allocated

end FirstSession

/-- After every session that ends with a successful `flush_all_pages`, a second pool is
opened on the file.  Of all sequences of calls on it that only read, on a disk that does not
fail, those in which the allocated pages keep their bytes are those in which no call writes
back an allocated page that is not empty on the disk. -/
theorem pages_survive_restart_iff {n : Nat} (first : FirstSession n) (m : Nat)
    {second : List (Request × BufferPoolManager m)}
    (hsecond : IsPath BufferPoolManager.Serves
      (BufferPoolManager.new m first.last.diskManager.file) second)
    (hreads : EveryStep (fun _ request _ => request.call.ReadsOnly)
      (BufferPoolManager.new m first.last.diskManager.file) second) :
    EveryStep (fun _ _ pool' => Stored first.last.diskManager first.allocated pool')
        (BufferPoolManager.new m first.last.diskManager.file) second ↔
      EveryStep (BufferPoolManager.Spares first.allocated)
        (BufferPoolManager.new m first.last.diskManager.file) second := by
  have hserves := hsecond.imp hreads fun _ _ _ hserves hreads => And.intro hserves hreads
  apply hserves.everyStep_iff (new_reopened m first.last.diskManager first.allocated)
  · rintro pool request pool' h ⟨hserves, hreads⟩ hspares
    have h' := h.step hserves hreads hspares
    exact ⟨h', h'.stored⟩
  · rintro pool request pool' h ⟨hserves, hreads⟩ hstored
    exact h.spares hserves hreads hstored

/-- A new page is written to. -/
@[irreducible] def writeOnePage : List Action :=
  [.request ⟨.newPage, 0, [.none]⟩, .write 0 (List.replicate 4096 7),
    .request ⟨.unpinPage 0, 1, [.none]⟩]

/-- What `flush_all_pages` returns after the session. -/
def writeOnePageFlush : Option (BufferPoolManager 1 × Except BufferPoolError Unit) :=
  flushAllPages 2 (fun _ => [.none, .none, .write .ok, .none, .none])
    (lastState (Session.new 1 []) (follow Session.act (Session.new 1 []) writeOnePage)).pool
    (lastState (Session.new 1 []) (follow Session.act (Session.new 1 [])
      writeOnePage)).pool.residentIds

/-- Page 0 is written to and flushed. -/
def writeOnePageSession : FirstSession 1 where
  file := []
  path := follow Session.act (Session.new 1 []) writeOnePage
  last := (writeOnePageFlush.map Prod.fst).getD (BufferPoolManager.new 1 [])
  isPath := isPath_follow _ _ writeOnePage
  flushed := by
    have htracks := Session.tracks_lastState 1 [] (isPath_follow _ _ writeOnePage)
      (by decide +kernel)
    have hok : writeOnePageFlush.map Prod.snd = some (.ok ()) := by decide +kernel
    rcases Option.map_eq_some_iff.mp hok with ⟨⟨last, outcome⟩, hflush, rfl⟩
    refine ⟨2, fun _ => [.none, .none, .write .ok, .none, .none], _,
      htracks.settled.listsResidents_residentIds, ?_⟩
    rw [hflush]
    exact hflush

/-- A page is allocated and flushed. -/
@[irreducible] def allocateThenFlush : List Request :=
  [⟨.newPage, 0, [.none]⟩, ⟨.flushPage 0, 1, [.none, .none, .write .ok, .none, .none]⟩]

/-- The pools that serve them, after the first session. -/
def allocateThenFlushPath : List (Request × BufferPoolManager 1) :=
  follow (fun pool request => (pool.serve request).map Prod.fst)
    (BufferPoolManager.new 1 writeOnePageSession.last.diskManager.file) allocateThenFlush

/-- Both calls are served. -/
theorem isPath_allocateThenFlush : IsPath BufferPoolManager.Serves
    (BufferPoolManager.new 1 writeOnePageSession.last.diskManager.file) allocateThenFlushPath :=
  isPath_follow_serve _ allocateThenFlush (by simp [allocateThenFlush, Io.Succeeds])

/-- Neither of them marks a page dirty or deletes one. -/
theorem readsOnly_allocateThenFlush : EveryStep (fun _ request _ => request.call.ReadsOnly)
    (BufferPoolManager.new 1 writeOnePageSession.last.diskManager.file) allocateThenFlushPath :=
  everyStep_follow (by simp [allocateThenFlush, Call.ReadsOnly]) _

/-- The equivalence for these two calls. -/
theorem pages_survive_restart_iff_allocateThenFlush :
    allocateThenFlushPath.length = 2 ∧
      (EveryStep (fun _ _ pool' => Stored writeOnePageSession.last.diskManager
          writeOnePageSession.allocated pool')
        (BufferPoolManager.new 1 writeOnePageSession.last.diskManager.file) allocateThenFlushPath ↔
      EveryStep (BufferPoolManager.Spares writeOnePageSession.allocated)
        (BufferPoolManager.new 1 writeOnePageSession.last.diskManager.file)
        allocateThenFlushPath) :=
  ⟨by decide +kernel, pages_survive_restart_iff writeOnePageSession 1 isPath_allocateThenFlush
    readsOnly_allocateThenFlush⟩

/-- Page 0 of the first session is overwritten with zeros. -/
theorem reallocated_page_overwritten :
    ∃ (first : FirstSession 1) (second : List (Request × BufferPoolManager 1)),
      IsPath BufferPoolManager.Serves
        (BufferPoolManager.new 1 first.last.diskManager.file) second ∧
      EveryStep (fun _ request _ => request.call.ReadsOnly)
        (BufferPoolManager.new 1 first.last.diskManager.file) second ∧
      ¬ EveryStep (fun _ _ pool' => Stored first.last.diskManager first.allocated pool')
        (BufferPoolManager.new 1 first.last.diskManager.file) second := by
  refine ⟨writeOnePageSession, allocateThenFlushPath, isPath_allocateThenFlush,
    readsOnly_allocateThenFlush, fun hstored => ?_⟩
  have hfirst : EveryStep (fun _ _ pool' => (pool'.diskManager.page 0).bytes.head? =
      (writeOnePageSession.last.diskManager.page 0).bytes.head?)
      (BufferPoolManager.new 1 writeOnePageSession.last.diskManager.file)
      allocateThenFlushPath := by
    apply hstored.imp
    intro _ _ pool' hstored
    rw [hstored 0 (by decide +kernel)]
  exact absurd hfirst (by decide +kernel)

end Storage
end TaskPool
