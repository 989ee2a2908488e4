import TaskPool.Storage.BufferPool.FailedCalls
import TaskPool.Storage.BufferPool.Transparency

/-!
# A checkpoint of the pool

`flush_all_pages` flushes the resident pages one after the other, in the order in which
the page table lists them, and stops at the first error.  A flush changes no frame but its
own, and there the dirty bit only; on the disk it changes the page of its frame only.

Main results:

- Definition `BufferPoolManager.flushAllPages`: the loop over the resident pages.
- Theorem `Partitioned.flushes`: what a whole `flush_page` does.
- Theorem `Settled.flushAllPages`: what every loop over pages keeps, and which pages are
  clean afterwards.
- Theorem `flush_all_is_checkpoint`: after a loop without errors the disk has every page,
  and after any other loop the pages that it does not have are still marked dirty.
-/

namespace TaskPool
namespace Storage

open BufferPoolManager Library

variable {n : Nat}

/-- `PageTable::get_resident_ids`: the pages in the table, in any order. -/
structure PageTable.ListsResidents (table : PageTable n) (ids : List PageId) : Prop where
  nodup : ids.Nodup
  mem_iff : ∀ pageId, pageId ∈ ids ↔ table pageId ≠ none

/-- The resident pages may be listed in any order. -/
theorem PageTable.ListsResidents.perm {table : PageTable n} {ids ids' : List PageId}
    (h : table.ListsResidents ids) (hperm : ids'.Perm ids) : table.ListsResidents ids' where
  nodup := hperm.nodup_iff.mpr h.nodup
  mem_iff := by
    intro pageId
    rw [hperm.mem_iff, h.mem_iff]

namespace BufferPoolManager

/-- The pages in the table among those that have been allocated, in ascending order. -/
def residentIds (pool : BufferPoolManager n) : List PageId :=
  ((List.range pool.nextPageId.toNat).map UInt16.ofNat).filter fun pageId =>
    (pool.pageTable pageId).isSome

/-- `flush_all_pages`, with what the outside world contributes to the flush of each page. -/
def flushAllPages (callId : CallId) (ios : PageId → List Io) :
    BufferPoolManager n → List PageId → Option (BufferPoolManager n × Except BufferPoolError Unit)
  | pool, [] => some (pool, .ok ())
  | pool, pageId :: ids =>
    match pool.serve ⟨.flushPage pageId, callId, ios pageId⟩ with
    | none => none
    | some (pool, .failed e) => some (pool, .error e)
    | some (pool, _) => flushAllPages callId ios pool ids

/-! ## A whole flush -/

/-- What `flush_page` does to a pool in which no frame is reserved. -/
inductive Flushes (pool : BufferPoolManager n) (pageId : PageId) (ios : List Io) :
    BufferPoolManager n → CallResult n → Prop
  | missing (htable : pool.pageTable pageId = none) :
      Flushes pool pageId ios pool (.failed (.pageNotFound pageId))
  | stored {frameId page} (htable : pool.pageTable pageId = some frameId)
      (hheld : (pool.frames frameId).heldPage = some page) :
      Flushes pool pageId ios
        ((pool.writeBack frameId page).setFrame frameId ((pool.frames frameId).withDirty false)) .done
  | refused {frameId page error left} (htable : pool.pageTable pageId = some frameId)
      (hheld : (pool.frames frameId).heldPage = some page)
      (hdirty : (pool.frames frameId).isDirty = true) (hfails : .write (.fail error left) ∈ ios) :
      Flushes pool pageId ios
        { pool with
          diskManager := (pool.diskManager.writePage page (pool.frames frameId).data
            (.fail error left)).2 }
        (.failed (.diskError error))

variable {pool pool' : BufferPoolManager n} {frameId : Fin n} {pageId page : PageId}
  {callId : CallId} {ios : List Io} {result : CallResult n}

/-- A flush may be offered more than it asks for. -/
theorem Flushes.cons (io : Io) (h : Flushes pool pageId ios pool' result) :
    Flushes pool pageId (io :: ios) pool' result := by
  cases h with
  | missing htable => exact .missing htable
  | stored htable hheld => exact .stored htable hheld
  | refused htable hheld hdirty hfails =>
      exact .refused htable hheld hdirty (List.mem_cons_of_mem io hfails)

/-- A clean frame stays as it is when its dirty bit is cleared. -/
theorem withDirty_false_eq_self {frame : Frame} (h : frame.isDirty = false) :
    frame.withDirty false = frame := by
  rcases frame with ⟨data, metadata, state⟩
  cases metadata with
  | none => rfl
  | some found =>
      rcases found with ⟨pageId, pinCount, dirty, reference⟩
      simp only [Frame.isDirty, Option.any_some] at h
      simp [Frame.withDirty, Frame.mapMeta, h]

/-- A reserved frame after its flush. -/
theorem setResident_withDirty {frame : Frame} (hstate : frame.state = .resident) :
    (Frame.withDirty { frame with state := .reserved } false).setResident =
      frame.withDirty false := by
  simp [Frame.withDirty, Frame.mapMeta, Frame.setResident, hstate]

/-- A frame that is reserved changes its state only. -/
theorem reserveFrame_self (pool : BufferPoolManager n) (frameId : Fin n) :
    (pool.reserveFrame frameId).frames frameId = { pool.frames frameId with state := .reserved } :=
  Function.update_self ..

/-- Behind a successful write the frame is clean and `Resident`. -/
theorem solo_flushFinish_ok (hstate : (pool.frames frameId).state = .resident)
    (hmetadata : (pool.frames frameId).metadata ≠ none)
    (hsolo : solo callId ios (pool.reserveFrame frameId)
      (.flushFinish pageId frameId (.ok ()) .flushPage) = some (pool', .returned result)) :
    pool' = pool.setFrame frameId ((pool.frames frameId).withDirty false) ∧ result = .done := by
  have hfinish : (pool.reserveFrame frameId).flushFinish pageId frameId (.ok ()) .flushPage =
      ⟨pool.setFrame frameId (Frame.withDirty { pool.frames frameId with state := .reserved } false),
        .flushRelease pageId frameId, .none⟩ := by
    have hclear : Frame.clearDirty { pool.frames frameId with state := .reserved } =
        .ok (Frame.withDirty { pool.frames frameId with state := .reserved } false) := by
      rw [Frame.clearDirty, Frame.updateMeta_of_ne_none (by exact hmetadata), Frame.withDirty]
    unfold flushFinish
    simp only [reserveFrame_self, hclear]
    rw [reserveFrame, setFrame_setFrame, flushReturn]
  rcases solo_step (by rintro _ ⟨⟩) hsolo with ⟨io, rest, next, rfl, hnext, hrest⟩
  cases io <;> simp only [advance, hfinish, Option.some_inj, reduceCtorEq] at hnext
  subst hnext
  rcases solo_step (by rintro _ ⟨⟩) hrest with ⟨io, rest, next, rfl, hrelease, hrest⟩
  cases io <;> cases hrelease
  rcases solo_returned hrest with ⟨rfl, rfl⟩
  refine ⟨?_, rfl⟩
  rw [releaseFrame, finish, setFrame_setFrame, frames_setFrame, Function.update_self,
    setResident_withDirty hstate]

/-- Behind a failed write the frame is `Resident` as before. -/
theorem solo_flushFinish_error {error : IoError} (hstate : (pool.frames frameId).state = .resident)
    (hsolo : solo callId ios (pool.reserveFrame frameId)
      (.flushFinish pageId frameId (.error error) .flushPage) = some (pool', .returned result)) :
    pool' = pool ∧ result = .failed (.diskError error) := by
  rcases solo_step (by rintro _ ⟨⟩) hsolo with ⟨io, rest, next, rfl, hnext, hrest⟩
  cases io <;> cases hnext
  rcases solo_returned hrest with ⟨rfl, rfl⟩
  exact ⟨setResident_reserveFrame hstate, rfl⟩

/-- The sections of a flush behind the reservation of a dirty frame. -/
theorem solo_flushCheck (hstate : (pool.frames frameId).state = .resident)
    (htable : pool.pageTable pageId = some frameId)
    (hheld : (pool.frames frameId).heldPage = some page)
    (hdirty : (pool.frames frameId).isDirty = true)
    (hsolo : solo callId ios (pool.reserveFrame frameId) (.flushCheck pageId frameId .flushPage) =
      some (pool', .returned result)) : Flushes pool pageId ios pool' result := by
  have hcheck : (pool.reserveFrame frameId).flushCheck pageId frameId .flushPage =
      ⟨pool.reserveFrame frameId,
        .flushWrite pageId frameId page (pool.frames frameId).data .flushPage, .none⟩ := by
    have hpage : ({ pool.frames frameId with state := .reserved } : Frame).getPageId = .ok page :=
      Frame.getPageId_eq_ok hheld
    unfold flushCheck
    simp only [reserveFrame_self, hpage]
    rw [if_neg (by simp [Frame.isReserved]), if_pos (by exact hdirty)]
  rcases solo_step (by rintro _ ⟨⟩) hsolo with ⟨io, rest, next, rfl, hnext, hrest⟩
  cases io <;> simp only [advance, hcheck, Option.some_inj, reduceCtorEq] at hnext
  subst hnext
  rcases solo_step (by rintro _ ⟨⟩) hrest with ⟨io, rest, next, rfl, hwrite, hrest⟩
  rcases io with _ | outcome | outcome | _ <;> cases hwrite
  cases outcome with
  | ok =>
      have hwritten : pool.writeBack frameId page = { pool with
          diskManager := (pool.diskManager.writePage page (pool.frames frameId).data .ok).2 } :=
        if_pos hdirty
      have hfinish : solo callId rest ((pool.writeBack frameId page).reserveFrame frameId)
          (.flushFinish pageId frameId (.ok ()) .flushPage) = some (pool', .returned result) := by
        rw [hwritten]
        exact hrest
      have hmetadata := Frame.metadata_ne_none hheld
      rcases solo_flushFinish_ok (by rwa [frames_writeBack]) (by rwa [frames_writeBack]) hfinish with
        ⟨rfl, rfl⟩
      rw [frames_writeBack]
      exact .stored htable hheld
  | fail error left =>
      have hfinish : solo callId rest (({ pool with
          diskManager := (pool.diskManager.writePage page (pool.frames frameId).data
            (.fail error left)).2 } : BufferPoolManager n).reserveFrame frameId)
          (.flushFinish pageId frameId (.error error) .flushPage) = some (pool', .returned result) :=
        hrest
      rcases solo_flushFinish_error (by exact hstate) hfinish with ⟨rfl, rfl⟩
      exact .refused htable hheld hdirty (List.mem_cons_of_mem _ List.mem_cons_self)

/-- A pool at rest between two calls is flushed in one of these ways. -/
theorem Partitioned.flushes (h : pool.Partitioned)
    (hserve : pool.serve ⟨.flushPage pageId, callId, ios⟩ = some (pool', result)) :
    Flushes pool pageId ios pool' result := by
  have hsolo : solo callId ios pool (.flushStart pageId) = some (pool', .returned result) :=
    serve_eq_some.mp hserve
  rcases solo_step (by rintro _ ⟨⟩) hsolo with ⟨io, rest, next, rfl, hnext, hrest⟩
  cases io <;> simp only [advance, Option.some_inj, reduceCtorEq] at hnext
  subst hnext
  unfold flushPage at hrest
  cases htable : pool.pageTable pageId with
  | none =>
      simp only [htable] at hrest
      rcases solo_returned hrest with ⟨rfl, rfl⟩
      exact .missing htable
  | some frameId =>
      have hstate := (Unchanged.refl pool).state_mapped h htable
      have hreserved := h.isReserved_eq_false frameId
      have hne : (pool.frames frameId).state ≠ .free := by
        rw [hstate]
        rintro ⟨⟩
      rcases Option.ne_none_iff_exists'.mp (h.resident frameId hne).2 with ⟨found, hfound⟩
      have hheld : (pool.frames frameId).heldPage = some found.pageId := by
        rw [Frame.heldPage, hfound, Option.map_some]
      simp only [htable, hreserved, Bool.false_eq_true, if_false,
        Frame.reserve_eq_ok hreserved] at hrest
      by_cases hdirty : (pool.frames frameId).isDirty = true
      · rw [if_pos (by exact hdirty)] at hrest
        exact (solo_flushCheck hstate htable hheld hdirty hrest).cons _
      · rw [if_neg (by exact hdirty)] at hrest
        rcases solo_returned hrest with ⟨rfl, rfl⟩
        have hback : pool.setFrame frameId
            (Frame.setResident { pool.frames frameId with state := .reserved }) = pool := by
          apply setFrame_eq_self
          rw [Frame.setResident, ← hstate]
        have hstored : Flushes pool pageId (.none :: rest) _ _ := .stored htable hheld
        rw [writeBack, if_neg hdirty, withDirty_false_eq_self (Bool.eq_false_iff.mpr hdirty),
          setFrame_eq_self rfl] at hstored
        rwa [finish, hback]

/-! ## The loop over the pages -/

/-- What a flush leaves alone: the page table, the bytes and the pins of every frame, the
clean frames, and the stored pages that are not resident. -/
structure FlushKeeps (pool pool' : BufferPoolManager n) : Prop where
  pageTable : pool'.pageTable = pool.pageTable
  data : ∀ frameId, (pool'.frames frameId).data = (pool.frames frameId).data
  pins : ∀ frameId, (pool'.frames frameId).pins = (pool.frames frameId).pins
  clean : ∀ frameId, (pool.frames frameId).isDirty = false → (pool'.frames frameId).isDirty = false
  others : ∀ pageId, pool.pageTable pageId = none →
    pool'.diskManager.page pageId = pool.diskManager.page pageId

/-- Doing nothing keeps what a flush keeps. -/
theorem FlushKeeps.refl (pool : BufferPoolManager n) : FlushKeeps pool pool := by
  constructor <;> simp

/-- Two flushes keep what one of them does. -/
theorem FlushKeeps.trans {pool₁ : BufferPoolManager n} (h : FlushKeeps pool pool₁)
    (h' : FlushKeeps pool₁ pool') : FlushKeeps pool pool' where
  pageTable := h'.pageTable.trans h.pageTable
  data := fun frameId => (h'.data frameId).trans (h.data frameId)
  pins := fun frameId => (h'.pins frameId).trans (h.pins frameId)
  clean := fun frameId hclean => h'.clean frameId (h.clean frameId hclean)
  others := by
    intro pageId hnone
    rw [h'.others pageId (h.pageTable ▸ hnone), h.others pageId hnone]

/-- A pool at rest is partitioned. -/
theorem Sound.partitioned (h : pool.Sound) : pool.Partitioned := by
  have hstate : ∀ frameId, (pool.frames frameId).state = .free ↔
      (pool.frames frameId).heldPage = none := by
    intro frameId
    refine ⟨fun hfree => ?_, h.free frameId⟩
    cases hheld : (pool.frames frameId).heldPage with
    | none => rfl
    | some page =>
        rw [h.resident frameId page hheld] at hfree
        cases hfree
  have hresident : ∀ frameId, (pool.frames frameId).state ≠ .free →
      (pool.frames frameId).state = .resident ∧ (pool.frames frameId).metadata ≠ none := by
    intro frameId hne
    rw [Ne, hstate] at hne
    rcases Option.ne_none_iff_exists'.mp hne with ⟨page, hheld⟩
    exact ⟨h.resident frameId page hheld, Frame.metadata_ne_none hheld⟩
  constructor
  · exact h.free_nodup
  · intro frameId
    rw [h.mem_free, hstate]
  · intro frameId hfree
    rw [hstate] at hfree
    refine ⟨by simpa [Frame.heldPage] using hfree, fun pageId htable => ?_⟩
    rw [h.table_iff, hfree] at htable
    cases htable
  · exact hresident
  · intro frameId hreserved
    have hne : (pool.frames frameId).state ≠ .free := by simp [hreserved]
    simp [(hresident frameId hne).1] at hreserved
  · intro pageId pageId' frameId htable htable'
    rw [h.table_iff] at htable htable'
    rwa [htable, Option.some_inj] at htable'

/-- A flush ends with success or with an error. -/
theorem Flushes.result_cases (h : Flushes pool pageId ios pool' result) :
    result = .done ∨ ∃ error, result = .failed error := by
  cases h with
  | stored => exact .inl rfl
  | missing | refused => exact .inr ⟨_, rfl⟩

/-- Writing a page back leaves the other pages of the disk. -/
theorem page_writeBack_of_ne {other : PageId} (hne : other ≠ page) :
    (pool.writeBack frameId page).diskManager.page other = pool.diskManager.page other := by
  unfold writeBack
  split_ifs
  · exact DiskManager.page_writePage_of_ne _ hne _ _
  · rfl

/-- A flush leaves all this alone, and a successful one leaves the page clean. -/
theorem Flushes.keeps (h : pool.Sound) (hflushes : Flushes pool pageId ios pool' result) :
    FlushKeeps pool pool' ∧ (result = .done →
      ∀ frameId, pool.pageTable pageId = some frameId → (pool'.frames frameId).isDirty = false) := by
  cases hflushes with
  | missing htable => exact ⟨.refl pool, by rintro ⟨⟩⟩
  | @stored frameId page htable hheld =>
      have hmapped := (h.table_iff page frameId).mpr hheld
      have hframe : ∀ other, ((pool.writeBack frameId page).setFrame frameId
          ((pool.frames frameId).withDirty false)).frames other = pool.frames other ∨
          other = frameId ∧ ((pool.writeBack frameId page).setFrame frameId
            ((pool.frames frameId).withDirty false)).frames other =
              (pool.frames other).withDirty false := by
        intro other
        rw [frames_setFrame, frames_writeBack]
        by_cases hother : other = frameId
        · rw [hother, Function.update_self]
          exact .inr ⟨rfl, rfl⟩
        · exact .inl (Function.update_of_ne hother ..)
      constructor
      · constructor
        · exact pageTable_writeBack pool frameId page
        · intro other
          rcases hframe other with hsame | ⟨-, hcleared⟩
          · rw [hsame]
          · rw [hcleared, Frame.withDirty, Frame.data_mapMeta]
        · intro other
          rcases hframe other with hsame | ⟨-, hcleared⟩
          · rw [hsame]
          · rw [hcleared, Frame.pins_withDirty]
        · intro other hclean
          rcases hframe other with hsame | ⟨-, hcleared⟩
          · rwa [hsame]
          · rw [hcleared, Frame.isDirty_withDirty_false]
        · intro other hnone
          apply page_writeBack_of_ne
          rintro rfl
          rw [hmapped] at hnone
          cases hnone
      · intro _ other hother
        rw [htable, Option.some_inj] at hother
        subst hother
        rw [frames_setFrame, Function.update_self, Frame.isDirty_withDirty_false]
  | @refused frameId page error left htable hheld hdirty hfails =>
      have hmapped := (h.table_iff page frameId).mpr hheld
      refine ⟨⟨rfl, fun _ => rfl, fun _ => rfl, fun _ hclean => hclean, fun other hnone => ?_⟩,
        by rintro ⟨⟩⟩
      apply DiskManager.page_writePage_of_ne
      rintro rfl
      rw [hmapped] at hnone
      cases hnone

end BufferPoolManager

/-- A loop over pages leaves all this alone, and without an error its pages are clean. -/
theorem Settled.flushAllPages {pool pool' : BufferPoolManager n} {callId : CallId}
    {ios : PageId → List Io} {ids : List PageId} {outcome : Except BufferPoolError Unit}
    (h : Settled pool) (hflush : flushAllPages callId ios pool ids = some (pool', outcome)) :
    Settled pool' ∧ FlushKeeps pool pool' ∧ (outcome = .ok () → ∀ pageId ∈ ids, ∀ frameId,
      pool.pageTable pageId = some frameId → (pool'.frames frameId).isDirty = false) := by
  induction ids generalizing pool with
  | nil =>
      simp only [BufferPoolManager.flushAllPages, Option.some_inj, Prod.mk.injEq] at hflush
      rw [← hflush.1]
      exact ⟨h, .refl pool, by simp⟩
  | cons pageId ids ih =>
      unfold BufferPoolManager.flushAllPages at hflush
      cases hserve : pool.serve ⟨.flushPage pageId, callId, ios pageId⟩ with
      | none => simp [hserve] at hflush
      | some reached =>
          rcases reached with ⟨pool₁, result⟩
          have hsettled := (h.serve (by rintro _ ⟨⟩) hserve).1
          have hflushes := h.sound.partitioned.flushes hserve
          rcases hflushes.keeps h.sound with ⟨hkeeps, hclean⟩
          rcases hflushes.result_cases with rfl | ⟨error, rfl⟩
          · simp only [hserve] at hflush
            rcases ih hsettled hflush with ⟨hsettled', hkeeps', hrest⟩
            refine ⟨hsettled', hkeeps.trans hkeeps', fun hok page hmem frameId htable => ?_⟩
            rcases List.mem_cons.mp hmem with rfl | hmem
            · exact hkeeps'.clean frameId (hclean rfl frameId htable)
            · exact hrest hok page hmem frameId (hkeeps.pageTable ▸ htable)
          · simp only [hserve, Option.some_inj, Prod.mk.injEq] at hflush
            rw [← hflush.1, ← hflush.2]
            exact ⟨hsettled, hkeeps, nofun⟩

/-! ## The checkpoint -/

namespace BufferPoolManager

/-- What `flush_all_pages` promises when it returns `Ok`. -/
structure Checkpoint (pool pool' : BufferPoolManager n) : Prop where
  clean : ∀ frameId, (pool'.frames frameId).isDirty = false
  stored : ∀ pageId frameId, pool'.pageTable pageId = some frameId →
    pool'.diskManager.page pageId = (pool'.frames frameId).data
  pageTable : pool'.pageTable = pool.pageTable
  pins : ∀ frameId, (pool'.frames frameId).pins = (pool.frames frameId).pins
  data : ∀ frameId, (pool'.frames frameId).data = (pool.frames frameId).data
  others : ∀ pageId, pool.pageTable pageId = none →
    pool'.diskManager.page pageId = pool.diskManager.page pageId

/-- Every resident page whose bytes are not those of the disk is marked dirty. -/
def KeepsUnsaved (pool : BufferPoolManager n) : Prop :=
  ∀ pageId frameId, pool.pageTable pageId = some frameId →
    pool.diskManager.page pageId ≠ (pool.frames frameId).data →
      (pool.frames frameId).isDirty = true

end BufferPoolManager

namespace Settled

variable {pool pool' : BufferPoolManager n}

/-- Only allocated pages are resident. -/
theorem listsResidents_residentIds (h : Settled pool) :
    pool.pageTable.ListsResidents pool.residentIds := by
  constructor
  · apply List.Nodup.filter
    apply List.Nodup.map_on ?_ List.nodup_range
    intro i hi j hj heq
    have hlt := pool.nextPageId.toNat_lt
    rw [List.mem_range] at hi hj
    rw [← UInt16.toNat_inj, UInt16.toNat_ofNat', UInt16.toNat_ofNat'] at heq
    omega
  · intro pageId
    simp only [residentIds, List.mem_filter, List.mem_map, List.mem_range,
      Option.isSome_iff_ne_none, and_iff_right_iff_imp]
    intro hne
    have hlt := h.bounded pageId hne
    exact ⟨pageId.toNat, UInt16.lt_iff_toNat_lt.mp hlt, UInt16.ofNat_toNat⟩

/-- A clean resident page is the one on the disk. -/
theorem stored_of_clean (h : Settled pool) {pageId : PageId} {frameId : Fin n}
    (htable : pool.pageTable pageId = some frameId)
    (hclean : (pool.frames frameId).isDirty = false) :
    pool.diskManager.page pageId = (pool.frames frameId).data := by
  have hstored := h.coherent pageId (pool.frames frameId).data (held_of_table htable)
  rw [dirty_of_table htable, store_cache] at hstored
  exact (hstored hclean).symm

/-- In a settled pool every page that differs from the disk is dirty. -/
theorem keepsUnsaved (h : Settled pool) : pool.KeepsUnsaved := by
  intro pageId frameId htable hne
  by_contra hclean
  exact hne (h.stored_of_clean htable (Bool.eq_false_iff.mpr hclean))

/-- Every dirty frame is in the page table, so that no dirty frame is left. -/
theorem checkpoint (h : Settled pool) {callId : CallId} {ios : PageId → List Io}
    {ids : List PageId} (hids : pool.pageTable.ListsResidents ids)
    (hflush : BufferPoolManager.flushAllPages callId ios pool ids = some (pool', .ok ())) :
    Checkpoint pool pool' := by
  rcases h.flushAllPages hflush with ⟨hsettled, hkeeps, hclean⟩
  have hmapped : ∀ pageId frameId, pool.pageTable pageId = some frameId →
      (pool'.frames frameId).isDirty = false := by
    intro pageId frameId htable
    have hmem : pageId ∈ ids := by simp [hids.mem_iff, htable]
    exact hclean rfl pageId hmem frameId htable
  constructor
  · intro frameId
    cases hheld : (pool'.frames frameId).heldPage with
    | none =>
        have hnone : (pool'.frames frameId).metadata = none := by
          simpa [Frame.heldPage] using hheld
        simp [Frame.isDirty, hnone]
    | some pageId =>
        rw [← hsettled.sound.table_iff, hkeeps.pageTable] at hheld
        exact hmapped pageId frameId hheld
  · intro pageId frameId htable
    exact hsettled.stored_of_clean htable (hmapped pageId frameId (hkeeps.pageTable ▸ htable))
  · exact hkeeps.pageTable
  · exact hkeeps.pins
  · exact hkeeps.data
  · exact hkeeps.others

end Settled

/-- After a session whose fetches are after allocated pages, the pool is settled. -/
theorem Session.tracks_lastState (n : Nat) (file : List UInt8) {path : List (Action × Session n)}
    (hpath : IsPath (fun s action s' => s.act action = some s') (Session.new n file) path)
    (hfetch : EveryStep Session.FetchesAllocated (Session.new n file) path) :
    (lastState (Session.new n file) path).Tracks := by
  have htracks : EveryState Session.Tracks (Session.new n file) path :=
    hpath.everyState hfetch (Session.new_tracks n file) fun _ _ _ h hact hfetch =>
      (h.act hact hfetch).1
  exact htracks.last

/-- After every session whose fetches are after allocated pages, whatever the disk does and
in whatever order the page table lists its pages: a `flush_all_pages` that returns `Ok` is a
checkpoint, and one that returns an error leaves the pages marked dirty that are not on the
disk. -/
theorem flush_all_is_checkpoint (n : Nat) (file : List UInt8) {path : List (Action × Session n)}
    (hpath : IsPath (fun s action s' => s.act action = some s') (Session.new n file) path)
    (hfetch : EveryStep Session.FetchesAllocated (Session.new n file) path)
    {callId : CallId} {ios : PageId → List Io} {ids : List PageId} {pool' : BufferPoolManager n}
    {outcome : Except BufferPoolError Unit}
    (hids : (lastState (Session.new n file) path).pool.pageTable.ListsResidents ids)
    (hflush : BufferPoolManager.flushAllPages callId ios (lastState (Session.new n file) path).pool
      ids = some (pool', outcome)) :
    (outcome = .ok () → Checkpoint (lastState (Session.new n file) path).pool pool') ∧
      (∀ error, outcome = .error error → pool'.KeepsUnsaved) := by
  have hsettled := (Session.tracks_lastState n file hpath hfetch).settled
  constructor
  · rintro rfl
    exact hsettled.checkpoint hids hflush
  · rintro error -
    exact (hsettled.flushAllPages hflush).1.keepsUnsaved

/-- Two new pages are written to. -/
@[irreducible] def writeTwoPages : List Action :=
  [.request ⟨.newPage, 0, [.none]⟩, .write 0 (List.replicate 4096 7),
    .request ⟨.newPage, 1, [.none]⟩, .write 1 (List.replicate 4096 8)]

/-- Nothing is fetched. -/
theorem fetchesAllocated_writeTwoPages :
    EveryStep Session.FetchesAllocated (Session.new 2 [])
      (follow Session.act (Session.new 2 []) writeTwoPages) := by
  decide +kernel

/-- The page table may list its pages with the last one first. -/
theorem listsResidents_writeTwoPages :
    (lastState (Session.new 2 []) (follow Session.act (Session.new 2 [])
      writeTwoPages)).pool.pageTable.ListsResidents [1, 0] := by
  have htracks := Session.tracks_lastState 2 [] (isPath_follow _ _ writeTwoPages)
    fetchesAllocated_writeTwoPages
  apply htracks.settled.listsResidents_residentIds.perm
  decide +kernel

/-- Flushing both pages in reverse is a checkpoint. -/
theorem flush_all_is_checkpoint_writeTwoPages :
    ∃ pool', BufferPoolManager.flushAllPages 2 (fun _ => [.none, .none, .write .ok, .none, .none])
        (lastState (Session.new 2 []) (follow Session.act (Session.new 2 []) writeTwoPages)).pool
        [1, 0] = some (pool', .ok ()) ∧
      Checkpoint (lastState (Session.new 2 []) (follow Session.act (Session.new 2 [])
        writeTwoPages)).pool pool' := by
  have hok : (BufferPoolManager.flushAllPages 2 (fun _ => [.none, .none, .write .ok, .none, .none])
      (lastState (Session.new 2 []) (follow Session.act (Session.new 2 []) writeTwoPages)).pool
      [1, 0]).map Prod.snd = some (.ok ()) := by decide +kernel
  rcases Option.map_eq_some_iff.mp hok with ⟨⟨pool', outcome⟩, hflush, rfl⟩
  exact ⟨pool', hflush, (flush_all_is_checkpoint 2 [] (isPath_follow _ _ writeTwoPages)
    fetchesAllocated_writeTwoPages listsResidents_writeTwoPages hflush).1 rfl⟩

end Storage
end TaskPool
