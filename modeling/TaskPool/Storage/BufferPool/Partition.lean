import TaskPool.Storage.BufferPool.Truth

/-!
# The free list and the frames in use

Whatever pages clients ask for, a frame is on the free list, or it holds a page and is
`Resident`, or some call has it in hand.  This is less than consistency: the page table
may be wrong about the pages that frames hold, but it never maps two pages to one frame,
and it maps no frame that is free.

Main results:

- Structure `Parted`: the invariant, for any number of calls.
- Theorem `Parted.change`: a section that changes one frame keeps it.
- Theorem `Parted.advance`: every section keeps it.
- Theorem `frames_partitioned`: between the calls of a client without concurrency the free
  list contains exactly the frames in state `Free`.
-/

namespace TaskPool
namespace Storage

open BufferPoolManager Library

variable {n : Nat}

/-- How a call holds the frame it has in hand. -/
inductive Grip where
  /-- Taken from the free list, and nothing loaded yet. -/
  | empty
  /-- Loaded and pinned, and not in the page table yet. -/
  | loaded
  /-- Reserved, and in the table under no page but the given one. -/
  | reserved (only : Option PageId)
  /-- Given back, and about to be set to `Resident` once more. -/
  | restored

/-- The frame that a call has in hand. -/
def Pc.grip : Pc n → Option (Fin n × Grip)
  | .fetchRead _ frameId => some (frameId, .empty)
  | .fetchLoad _ frameId _ => some (frameId, .empty)
  | .fetchReadFailed _ frameId _ => some (frameId, .empty)
  | .fetchPublish _ frameId => some (frameId, .loaded)
  | .evictWrite _ victim _ _ => some (victim, .reserved none)
  | .evictRead _ victim _ => some (victim, .reserved none)
  | .evictCommit _ victim _ _ => some (victim, .reserved none)
  | .evictFailed _ victim _ _ => some (victim, .reserved none)
  | .flushCheck pageId frameId caller => some (frameId, .reserved (deleted pageId caller))
  | .flushWrite pageId frameId _ _ caller => some (frameId, .reserved (deleted pageId caller))
  | .flushFinish pageId frameId _ caller => some (frameId, .reserved (deleted pageId caller))
  | .flushRelease _ frameId => some (frameId, .reserved none)
  | .deleteRollback _ frameId _ => some (frameId, .restored)
  | .deleteFinish pageId frameId => some (frameId, .reserved (some pageId))
  | .newWrite _ victim _ _ => some (victim, .reserved none)
  | .newRollback _ victim _ _ => some (victim, .reserved none)
  | .newCommit _ victim _ => some (victim, .reserved none)
  | _ => none
where
  /-- The page that is about to be removed from the table. -/
  deleted (pageId : PageId) : FlushCaller → Option PageId
    | .flushPage => none
    | .deletePage => some pageId

namespace BufferPoolManager

/-- The page table maps no page to the frame. -/
def OffTable (pool : BufferPoolManager n) (frameId : Fin n) : Prop :=
  ∀ pageId, pool.pageTable pageId ≠ some frameId

/-- The frame is free. -/
structure IsFree (pool : BufferPoolManager n) (frameId : Fin n) : Prop where
  state : (pool.frames frameId).state = .free
  metadata : (pool.frames frameId).metadata = none
  offTable : pool.OffTable frameId

/-- The frame holds a page. -/
structure IsResident (pool : BufferPoolManager n) (frameId : Fin n) : Prop where
  state : (pool.frames frameId).state = .resident
  metadata : (pool.frames frameId).metadata ≠ none

/-- A frame in hand looks as the call expects it. -/
def Grips (pool : BufferPoolManager n) (frameId : Fin n) : Grip → Prop
  | .empty => (pool.frames frameId).state = .reserved ∧ (pool.frames frameId).metadata = none ∧
      pool.OffTable frameId
  | .loaded => (pool.frames frameId).state = .resident ∧ 0 < (pool.frames frameId).pins ∧
      pool.OffTable frameId
  | .reserved only => (pool.frames frameId).state = .reserved ∧
      (pool.frames frameId).metadata ≠ none ∧
        ∀ deleted pageId, only = some deleted → pool.pageTable pageId = some frameId →
          pageId = deleted
  | .restored => pool.IsResident frameId

/-- The frame is on the free list, in the hand of a call, or in use. -/
def Stands (pool : BufferPoolManager n) (frameId : Fin n) : Option Grip → Prop
  | none => frameId ∈ pool.freeFrames ∧ pool.IsFree frameId ∨
      frameId ∉ pool.freeFrames ∧ pool.IsResident frameId
  | some grip => frameId ∉ pool.freeFrames ∧ pool.Grips frameId grip

end BufferPoolManager

/-- Every frame is on the free list, in the hand of one call, or in use. -/
structure Parted (pool : BufferPoolManager n) (hand : CallId → Option (Fin n × Grip)) : Prop where
  free_nodup : pool.freeFrames.Nodup
  injective : ∀ pageId pageId' frameId, pool.pageTable pageId = some frameId →
    pool.pageTable pageId' = some frameId → pageId = pageId'
  held : ∀ callId frameId grip, hand callId = some (frameId, grip) →
    pool.Stands frameId (some grip)
  unheld : ∀ frameId, (∀ callId grip, hand callId ≠ some (frameId, grip)) →
    pool.Stands frameId none
  unique : ∀ callId caller frameId grip grip', hand callId = some (frameId, grip) →
    hand caller = some (frameId, grip') → caller = callId

namespace BufferPoolManager

variable {pool pool' : BufferPoolManager n} {frameId : Fin n} {grip : Grip}

/-- A frame stays off the table when no entry for it is added. -/
theorem OffTable.mono (h : pool.OffTable frameId)
    (htable : ∀ pageId, pool'.pageTable pageId = some frameId →
      pool.pageTable pageId = some frameId) : pool'.OffTable frameId :=
  fun pageId hmapped => h pageId (htable pageId hmapped)

/-- A frame in hand that is not empty has metadata. -/
theorem Grips.metadata_ne_none (h : pool.Grips frameId grip) (hempty : grip ≠ .empty) :
    (pool.frames frameId).metadata ≠ none := by
  cases grip with
  | empty => exact absurd rfl hempty
  | loaded =>
      intro hnone
      have hpins := h.2.1
      simp [Frame.pins, hnone] at hpins
  | reserved only => exact h.2.1
  | restored => exact h.metadata

/-- A frame stands as before when it changes at most its reference bit and is not added
to the table or the free list. -/
theorem Stands.mono {grip : Option Grip} (h : pool.Stands frameId grip)
    (hframe : Frame.SameButReference (pool.frames frameId) (pool'.frames frameId))
    (htable : ∀ pageId, pool'.pageTable pageId = some frameId →
      pool.pageTable pageId = some frameId)
    (hfree : frameId ∈ pool'.freeFrames ↔ frameId ∈ pool.freeFrames) :
    pool'.Stands frameId grip := by
  have hstate := hframe.state_eq
  have hnone := hframe.metadata_eq_none_iff
  cases grip with
  | none =>
      rcases h with ⟨hmem, hisFree⟩ | ⟨hmem, hresident⟩
      · exact .inl ⟨hfree.mpr hmem, hstate.trans hisFree.state, hnone.mpr hisFree.metadata,
          hisFree.offTable.mono htable⟩
      · exact .inr ⟨fun hmem' => hmem (hfree.mp hmem'), hstate.trans hresident.state,
          fun h => hresident.metadata (hnone.mp h)⟩
  | some grip =>
      refine ⟨fun hmem => h.1 (hfree.mp hmem), ?_⟩
      have hgrips := h.2
      cases grip with
      | empty => exact ⟨hstate.trans hgrips.1, hnone.mpr hgrips.2.1, hgrips.2.2.mono htable⟩
      | loaded =>
          exact ⟨hstate.trans hgrips.1, hframe.pins_eq ▸ hgrips.2.1, hgrips.2.2.mono htable⟩
      | reserved only =>
          exact ⟨hstate.trans hgrips.1, fun h => hgrips.2.1 (hnone.mp h),
            fun deleted pageId honly hmapped =>
              hgrips.2.2 deleted pageId honly (htable pageId hmapped)⟩
      | restored =>
          exact ⟨hstate.trans hgrips.state, fun h => hgrips.metadata (hnone.mp h)⟩

end BufferPoolManager

namespace Parted

variable {pool pool' : BufferPoolManager n} {hand : CallId → Option (Fin n × Grip)}
  {callId : CallId} {taken : Option (Fin n × Grip)} {frameId : Fin n} {grip : Grip}
  {pageId : PageId}

/-- No other call has the frame in hand. -/
def Unheld (hand : CallId → Option (Fin n × Grip)) (callId : CallId) (frameId : Fin n) : Prop :=
  ∀ other grip, other ≠ callId → hand other ≠ some (frameId, grip)

/-- A section after which every frame stands as before. -/
theorem keep (h : Parted pool hand)
    (hframes : ∀ other, Frame.SameButReference (pool.frames other) (pool'.frames other))
    (htable : pool'.pageTable = pool.pageTable) (hfree : pool'.freeFrames = pool.freeFrames) :
    Parted pool' hand := by
  have hstands : ∀ {other grip}, pool.Stands other grip → pool'.Stands other grip := by
    intro other grip hstands
    exact hstands.mono (hframes other) (by rw [htable]; exact fun _ => id) (by rw [hfree])
  exact
    { free_nodup := hfree ▸ h.free_nodup
      injective := htable ▸ h.injective
      held := fun caller other grip hgrip => hstands (h.held caller other grip hgrip)
      unheld := fun other hnone => hstands (h.unheld other hnone)
      unique := h.unique }

/-- A section that changes one frame, which no other call has in hand. -/
theorem change (h : Parted pool hand) (hunheld : Unheld hand callId frameId)
    (hbefore : ∀ other grip, hand callId = some (other, grip) → other = frameId)
    (hafter : ∀ other grip, taken = some (other, grip) → other = frameId)
    (hframes : ∀ other, other ≠ frameId →
      Frame.SameButReference (pool.frames other) (pool'.frames other))
    (htable : ∀ other, other ≠ frameId → ∀ pageId, pool'.pageTable pageId = some other →
      pool.pageTable pageId = some other)
    (hinjective : ∀ pageId pageId', pool'.pageTable pageId = some frameId →
      pool'.pageTable pageId' = some frameId → pageId = pageId')
    (hnodup : pool'.freeFrames.Nodup)
    (hfree : ∀ other, other ≠ frameId → (other ∈ pool'.freeFrames ↔ other ∈ pool.freeFrames))
    (hstands : pool'.Stands frameId (taken.map Prod.snd)) :
    Parted pool' (Function.update hand callId taken) where
  free_nodup := hnodup
  injective := by
    intro page page' other hpage hpage'
    by_cases hother : other = frameId
    · rw [hother] at hpage hpage'
      exact hinjective page page' hpage hpage'
    · exact h.injective page page' other (htable other hother page hpage)
        (htable other hother page' hpage')
  held := by
    intro caller other grip hgrip
    by_cases hcaller : caller = callId
    · rw [hcaller, Function.update_self] at hgrip
      rw [hafter other grip hgrip]
      rwa [hgrip] at hstands
    · rw [Function.update_of_ne hcaller] at hgrip
      have hother : other ≠ frameId := by
        rintro rfl
        exact hunheld caller grip hcaller hgrip
      exact (h.held caller other grip hgrip).mono (hframes other hother) (htable other hother)
        (hfree other hother)
  unheld := by
    intro other hnone
    by_cases hother : other = frameId
    · subst hother
      cases htaken : taken with
      | none => rwa [htaken] at hstands
      | some found =>
          refine absurd ?_ (hnone callId found.2)
          rw [Function.update_self, htaken, ← hafter _ _ htaken]
    · refine (h.unheld other ?_).mono (hframes other hother) (htable other hother)
        (hfree other hother)
      intro caller grip hgrip
      by_cases hcaller : caller = callId
      · rw [hcaller] at hgrip
        exact hother (hbefore other grip hgrip)
      · exact hnone caller grip (by rwa [Function.update_of_ne hcaller])
  unique := by
    intro caller caller' other grip grip' hgrip hgrip'
    by_cases hcaller : caller = callId <;> by_cases hcaller' : caller' = callId
    · rw [hcaller, hcaller']
    · rw [hcaller, Function.update_self] at hgrip
      rw [Function.update_of_ne hcaller', hafter other grip hgrip] at hgrip'
      exact absurd hgrip' (hunheld caller' grip' hcaller')
    · rw [hcaller', Function.update_self] at hgrip'
      rw [Function.update_of_ne hcaller, hafter other grip' hgrip'] at hgrip
      exact absurd hgrip (hunheld caller grip hcaller)
    · rw [Function.update_of_ne hcaller] at hgrip
      rw [Function.update_of_ne hcaller'] at hgrip'
      exact h.unique caller caller' other grip grip' hgrip hgrip'

/-! ## Frames that no call has in hand -/

/-- A frame in use that no other call has in hand. -/
structure AtRest (pool : BufferPoolManager n) (hand : CallId → Option (Fin n × Grip))
    (callId : CallId) (frameId : Fin n) : Prop where
  not_mem_free : frameId ∉ pool.freeFrames
  resident : pool.IsResident frameId
  unheld : Unheld hand callId frameId

/-- A frame is in one hand. -/
theorem unheld_of_held (h : Parted pool hand) (hgrip : hand callId = some (frameId, grip)) :
    Unheld hand callId frameId := by
  intro other grip' hother hgrip'
  exact hother (h.unique callId other frameId grip grip' hgrip hgrip')

/-- A frame on the free list is in no hand. -/
theorem not_held_of_mem (h : Parted pool hand) (hmem : frameId ∈ pool.freeFrames)
    (caller : CallId) (grip : Grip) : hand caller ≠ some (frameId, grip) :=
  fun hgrip => (h.held caller frameId grip hgrip).1 hmem

/-- A frame on the free list is free. -/
theorem isFree_of_mem (h : Parted pool hand) (hmem : frameId ∈ pool.freeFrames) :
    pool.IsFree frameId := by
  rcases h.unheld frameId (h.not_held_of_mem hmem) with ⟨-, hisFree⟩ | ⟨hnot, -⟩
  · exact hisFree
  · exact absurd hmem hnot

/-- A frame that is not reserved is in no other hand when it is mapped or not pinned. -/
theorem unheld_of_not_reserved (h : Parted pool hand)
    (hothers : ∀ other frameId, other ≠ callId → hand other ≠ some (frameId, .restored))
    (hreserved : (pool.frames frameId).isReserved = false)
    (hloaded : (pool.frames frameId).pins = 0 ∨ ¬ pool.OffTable frameId) :
    Unheld hand callId frameId := by
  have hstate : (pool.frames frameId).state ≠ .reserved := by
    simpa [Frame.isReserved] using hreserved
  intro other grip hother hgrip
  have hgrips := (h.held other frameId grip hgrip).2
  cases grip with
  | empty => exact hstate hgrips.1
  | reserved only => exact hstate hgrips.1
  | loaded =>
      rcases hloaded with hpins | htable
      · exact absurd hpins hgrips.2.1.ne'
      · exact htable hgrips.2.2
  | restored => exact hothers other frameId hother hgrip

/-- A frame in no hand that is not on the free list is at rest. -/
theorem atRest (h : Parted pool hand) (hnone : hand callId = none)
    (hunheld : Unheld hand callId frameId) (hmem : frameId ∉ pool.freeFrames) :
    AtRest pool hand callId frameId := by
  refine ⟨hmem, ?_, hunheld⟩
  have hnot : ∀ caller grip, hand caller ≠ some (frameId, grip) := by
    intro caller grip hgrip
    by_cases hcaller : caller = callId
    · rw [hcaller, hnone] at hgrip
      cases hgrip
    · exact hunheld caller grip hcaller hgrip
  rcases h.unheld frameId hnot with ⟨hmem', -⟩ | ⟨-, hresident⟩
  · exact absurd hmem' hmem
  · exact hresident

/-- A mapped frame that is not reserved is at rest. -/
theorem atRest_of_table (h : Parted pool hand) (hnone : hand callId = none)
    (hothers : ∀ other frameId, other ≠ callId → hand other ≠ some (frameId, .restored))
    (htable : pool.pageTable pageId = some frameId)
    (hreserved : (pool.frames frameId).isReserved = false) : AtRest pool hand callId frameId := by
  refine h.atRest hnone (h.unheld_of_not_reserved hothers hreserved (.inr ?_)) ?_
  · exact fun hoff => hoff pageId htable
  · exact fun hmem => (h.isFree_of_mem hmem).offTable pageId htable

/-! ## The ways in which a section changes a frame -/

/-- An empty hand has no other frame. -/
theorem only_of_none {found : Option (Fin n × Grip)} (h : found = none) (other : Fin n)
    (grip' : Grip) (hother : found = some (other, grip')) : other = frameId := by
  rw [h] at hother
  cases hother

/-- A hand has one frame. -/
theorem only_of_held {found : Option (Fin n × Grip)} (h : found = some (frameId, grip))
    (other : Fin n) (grip' : Grip) (hother : found = some (other, grip')) : other = frameId := by
  rw [h, Option.some_inj, Prod.mk.injEq] at hother
  exact hother.1.symm

/-- A section after which every frame stands as before, in the same hand. -/
theorem stay (h : Parted pool hand) (hhand : hand callId = taken)
    (hframes : ∀ other, Frame.SameButReference (pool.frames other) (pool'.frames other))
    (htable : pool'.pageTable = pool.pageTable) (hfree : pool'.freeFrames = pool.freeFrames) :
    Parted pool' (Function.update hand callId taken) := by
  rw [← hhand, Function.update_eq_self]
  exact h.keep hframes htable hfree

/-- A section that changes one frame in place. -/
theorem changeFrame (h : Parted pool hand) (hunheld : Unheld hand callId frameId)
    (hbefore : ∀ other grip, hand callId = some (other, grip) → other = frameId)
    (hafter : ∀ other grip, taken = some (other, grip) → other = frameId)
    (hframes : ∀ other, other ≠ frameId →
      Frame.SameButReference (pool.frames other) (pool'.frames other))
    (htable : pool'.pageTable = pool.pageTable) (hfree : pool'.freeFrames = pool.freeFrames)
    (hstands : pool'.Stands frameId (taken.map Prod.snd)) :
    Parted pool' (Function.update hand callId taken) := by
  refine h.change hunheld hbefore hafter hframes ?_ ?_ ?_ ?_ hstands
  · rw [htable]
    exact fun _ _ _ => id
  · rw [htable]
    exact fun page page' => h.injective page page' frameId
  · rw [hfree]
    exact h.free_nodup
  · intro other _
    rw [hfree]

/-- A section of a call with empty hands on a frame at rest, which it may reserve. -/
theorem touch (h : Parted pool hand) (hnone : hand callId = none)
    (hrest : AtRest pool hand callId frameId)
    (hframes : ∀ other, other ≠ frameId →
      Frame.SameButReference (pool.frames other) (pool'.frames other))
    (htable : pool'.pageTable = pool.pageTable) (hfree : pool'.freeFrames = pool.freeFrames)
    (hmetadata : (pool'.frames frameId).metadata ≠ none)
    (htaken : taken = none ∧ (pool'.frames frameId).state = .resident ∨
      (pool'.frames frameId).state = .reserved ∧ ∃ only, taken = some (frameId, .reserved only) ∧
        ∀ deleted pageId, only = some deleted → pool.pageTable pageId = some frameId →
          pageId = deleted) :
    Parted pool' (Function.update hand callId taken) := by
  have hmem : frameId ∉ pool'.freeFrames := hfree ▸ hrest.not_mem_free
  refine h.changeFrame hrest.unheld ?_ ?_ hframes htable hfree ?_
  · exact only_of_none hnone
  · intro other grip hafter
    rcases htaken with ⟨rfl, -⟩ | ⟨-, only, rfl, -⟩
    · cases hafter
    · exact only_of_held rfl other grip hafter
  · rcases htaken with ⟨rfl, hstate⟩ | ⟨hstate, only, rfl, honly⟩
    · exact .inr ⟨hmem, hstate, hmetadata⟩
    · refine ⟨hmem, hstate, hmetadata, ?_⟩
      rw [htable]
      exact honly

/-- A section of a call on the frame it has in hand. -/
theorem work (h : Parted pool hand) (hgrip : hand callId = some (frameId, grip))
    (hframes : ∀ other, other ≠ frameId → pool'.frames other = pool.frames other)
    (htable : pool'.pageTable = pool.pageTable) (hfree : pool'.freeFrames = pool.freeFrames)
    (hstands : (pool'.frames frameId).state = .resident ∧
      (pool'.frames frameId).metadata ≠ none ∧ taken = none ∨
      ∃ grip', taken = some (frameId, grip') ∧ pool'.Grips frameId grip') :
    Parted pool' (Function.update hand callId taken) := by
  have hmem : frameId ∉ pool'.freeFrames := hfree ▸ (h.held callId frameId grip hgrip).1
  refine h.changeFrame (h.unheld_of_held hgrip) (only_of_held hgrip) ?_ ?_ htable hfree ?_
  · intro other grip' hafter
    rcases hstands with ⟨-, -, rfl⟩ | ⟨grip', rfl, -⟩
    · cases hafter
    · exact only_of_held rfl other _ hafter
  · intro other hother
    rw [hframes other hother]
    exact Frame.SameButReference.refl _
  · rcases hstands with ⟨hstate, hmetadata, rfl⟩ | ⟨grip', rfl, hgrips⟩
    · exact .inr ⟨hmem, hstate, hmetadata⟩
    · exact ⟨hmem, hgrips⟩

/-- A section that puts a frame on the free list. -/
theorem give (h : Parted pool hand) (hunheld : Unheld hand callId frameId)
    (hbefore : ∀ other grip, hand callId = some (other, grip) → other = frameId)
    (hmem : frameId ∉ pool.freeFrames)
    (hframes : ∀ other, other ≠ frameId → pool'.frames other = pool.frames other)
    (htable : ∀ pageId other, pool'.pageTable pageId = some other →
      pool.pageTable pageId = some other)
    (hfree : pool'.freeFrames = pool.freeFrames ++ [frameId]) (hisFree : pool'.IsFree frameId) :
    Parted pool' (Function.update hand callId none) := by
  refine h.change hunheld hbefore (only_of_none rfl) ?_ (fun other _ pageId => htable pageId other)
    ?_ ?_ ?_ (.inl ⟨by simp [hfree], hisFree⟩)
  · intro other hother
    rw [hframes other hother]
    exact Frame.SameButReference.refl _
  · exact fun page page' hpage => absurd hpage (hisFree.offTable page)
  · rw [hfree, ← List.concat_eq_append, List.nodup_concat]
    exact ⟨hmem, h.free_nodup⟩
  · intro other hother
    simp [hfree, hother]

/-- A section that enters a frame into a table which does not map it. -/
theorem enter {table : PageTable n} (h : Parted pool hand) (hunheld : Unheld hand callId frameId)
    (hbefore : ∀ other grip, hand callId = some (other, grip) → other = frameId)
    (hframes : ∀ other, other ≠ frameId → pool'.frames other = pool.frames other)
    (hentered : pool'.pageTable = table.insert pageId frameId)
    (htable : ∀ page other, table page = some other → pool.pageTable page = some other)
    (hoff : ∀ page, table page ≠ some frameId) (hnodup : pool'.freeFrames.Nodup)
    (hmem : frameId ∉ pool'.freeFrames)
    (hfree : ∀ other, other ≠ frameId → (other ∈ pool'.freeFrames ↔ other ∈ pool.freeFrames))
    (hresident : pool'.IsResident frameId) :
    Parted pool' (Function.update hand callId none) := by
  refine h.change hunheld hbefore (only_of_none rfl) ?_ ?_ ?_ hnodup hfree (.inr ⟨hmem, hresident⟩)
  · intro other hother
    rw [hframes other hother]
    exact Frame.SameButReference.refl _
  · intro other hother page hpage
    rw [hentered, PageTable.insert] at hpage
    by_cases hid : page = pageId
    · rw [hid, Function.update_self, Option.some_inj] at hpage
      exact absurd hpage.symm hother
    · rw [Function.update_of_ne hid] at hpage
      exact htable page other hpage
  · have hid : ∀ page, pool'.pageTable page = some frameId → page = pageId := by
      intro page hpage
      by_contra hid
      rw [hentered, PageTable.insert, Function.update_of_ne hid] at hpage
      exact hoff page hpage
    intro page page' hpage hpage'
    rw [hid page hpage, hid page' hpage']

/-! ## The sections -/

/-- The conclusion of every section below. -/
abbrev Keeps (hand : CallId → Option (Fin n × Grip)) (callId : CallId) (next : Next n) : Prop :=
  Parted next.pool (Function.update hand callId next.pc.grip)

variable {oldPageId : PageId} {victim : Fin n} {buffer : Buffer pageSize}

/-- Setting a frame leaves the others. -/
theorem others_unchanged (pool : BufferPoolManager n) (frameId : Fin n) (frame : Frame) (other : Fin n)
    (hother : other ≠ frameId) : (pool.setFrame frameId frame).frames other = pool.frames other :=
  Function.update_of_ne hother ..

/-- Setting a frame sets it. -/
theorem frame_changed (pool : BufferPoolManager n) (frameId : Fin n) (frame : Frame) :
    (pool.setFrame frameId frame).frames frameId = frame :=
  Function.update_self ..

/-- Nothing that the invariant speaks of changes. -/
theorem same (h : Parted pool hand) (hhand : hand callId = taken)
    (hframes : pool'.frames = pool.frames) (htable : pool'.pageTable = pool.pageTable)
    (hfree : pool'.freeFrames = pool.freeFrames) :
    Parted pool' (Function.update hand callId taken) := by
  refine h.stay hhand ?_ htable hfree
  intro other
  rw [hframes]
  exact Frame.SameButReference.refl _

/-- A section of a call with empty hands that replaces a frame at rest. -/
theorem replace {frame : Frame} (h : Parted pool hand) (hnone : hand callId = none)
    (hrest : AtRest pool hand callId frameId)
    (hframes : pool'.frames = Function.update pool.frames frameId frame)
    (htable : pool'.pageTable = pool.pageTable) (hfree : pool'.freeFrames = pool.freeFrames)
    (hstate : frame.state = .resident) (hmetadata : frame.metadata ≠ none) :
    Parted pool' (Function.update hand callId none) := by
  refine h.touch hnone hrest ?_ htable hfree ?_ (.inl ⟨rfl, ?_⟩)
  · intro other hother
    rw [hframes, Function.update_of_ne hother]
    exact Frame.SameButReference.refl _
  · rwa [hframes, Function.update_self]
  · rwa [hframes, Function.update_self]

/-- A hit changes a frame in use. -/
theorem fetchHit (h : Parted pool hand) (hnone : hand callId = none)
    (hothers : ∀ other frameId, other ≠ callId → hand other ≠ some (frameId, .restored))
    (htable : pool.pageTable pageId = some frameId) (missRecorded : Bool) :
    Keeps hand callId (pool.fetchHit pageId missRecorded frameId) := by
  unfold BufferPoolManager.fetchHit
  by_cases hreserved : (pool.frames frameId).isReserved = true
  · simp only [hreserved, if_true]
    exact h.same hnone rfl rfl rfl
  · have hrest := h.atRest_of_table hnone hothers htable (Bool.eq_false_iff.mpr hreserved)
    rcases Frame.pin_eq_ok hrest.resident.metadata with ⟨pinned, hpin, hmark⟩
    have hpin' : (pool.recordHit.frames frameId).pin = .ok pinned := hpin
    simp only [hreserved, hpin', hmark]
    exact h.replace hnone hrest rfl rfl rfl hrest.resident.state
      (Frame.mapMeta_ne_none hrest.resident.metadata _)

/-- Without free frames, a victim is at rest, and a section may reserve it. -/
theorem takeVictim (h : Parted pool hand) (hnone : hand callId = none)
    (hothers : ∀ other frameId, other ≠ callId → hand other ≠ some (frameId, .restored))
    (hfree : pool.freeFrames = []) {clock : ClockReplacer n} {frames : Fin n → Frame}
    (hspec : ClockReplacer.VictimSpec pool.frames (some victim) frames)
    {whenDirty : PageId → Buffer pageSize → Pc n} {whenClean : PageId → Pc n}
    (hdirty : ∀ pageId buffer, (whenDirty pageId buffer).grip = some (victim, .reserved none))
    (hclean : ∀ pageId, (whenClean pageId).grip = some (victim, .reserved none)) :
    Keeps hand callId ((pool.swept clock frames).reserveVictim victim whenDirty whenClean) := by
  rcases hspec.victim_spec victim rfl with ⟨hpinned, hreserved⟩
  have hpins := Frame.isPinned_eq_false_iff.mp hpinned
  have hrest : AtRest pool hand callId victim :=
    h.atRest hnone (h.unheld_of_not_reserved hothers hreserved (.inl hpins))
      (by simp [hfree])
  have hsame := hspec.sameButReference victim
  have hmetadata : (frames victim).metadata ≠ none :=
    fun hmeta => hrest.resident.metadata (hsame.metadata_eq_none_iff.mp hmeta)
  rcases Option.ne_none_iff_exists'.mp hmetadata with ⟨found, hfound⟩
  have hheld : ((pool.swept clock frames).frames victim).heldPage = some found.pageId :=
    congrArg (Option.map PageMeta.pageId) hfound
  rw [reserveVictim_eq (hsame.isReserved_eq.trans hreserved) hheld]
  have hgrip : (if ((pool.swept clock frames).frames victim).isDirty = true then
      whenDirty found.pageId ((pool.swept clock frames).frames victim).data
      else whenClean found.pageId).grip = some (victim, .reserved none) := by
    split_ifs
    · exact hdirty _ _
    · exact hclean _
  refine h.touch hnone hrest ?_ rfl rfl ?_ (.inr ⟨?_, none, hgrip, nofun⟩)
  · intro other hother
    exact (hspec.sameButReference other).trans
      (congrArg Frame.unreferenced (others_unchanged (pool.swept clock frames) victim _ other hother)).symm
  · rw [reserveFrame, frame_changed]
    exact hmetadata
  · rw [reserveFrame, frame_changed]

/-- What is left of the free list without its first frame. -/
theorem rest_of_free (h : Parted pool hand) {rest : List (Fin n)}
    (hfree : pool.freeFrames = frameId :: rest) : rest.Nodup ∧ frameId ∉ rest ∧
      ∀ other, other ≠ frameId → (other ∈ rest ↔ other ∈ pool.freeFrames) := by
  have hnodup := h.free_nodup
  rw [hfree, List.nodup_cons] at hnodup
  refine ⟨hnodup.2, hnodup.1, fun other hother => ?_⟩
  simp [hfree, hother]

/-- The first free frame is reserved for a page. -/
theorem takeFree (h : Parted pool hand) (hnone : hand callId = none) {rest : List (Fin n)}
    (hfree : pool.freeFrames = frameId :: rest) :
    Parted ((pool.withFree rest).reserveFrame frameId)
      (Function.update hand callId (some (frameId, .empty))) := by
  have hmem : frameId ∈ pool.freeFrames := hfree ▸ List.mem_cons_self
  have hisFree := h.isFree_of_mem hmem
  rcases h.rest_of_free hfree with ⟨hnodup, hnot, hothers⟩
  refine h.change (fun other grip _ => h.not_held_of_mem hmem other grip) (only_of_none hnone)
    (only_of_held rfl) ?_ (fun _ _ _ => id) (h.injective · · frameId) hnodup hothers ⟨hnot, ?_⟩
  · intro other hother
    exact (congrArg Frame.unreferenced
      (others_unchanged (pool.withFree rest) frameId _ other hother)).symm
  · refine ⟨?_, ?_, hisFree.offTable⟩
    · rw [reserveFrame, frame_changed]
    · rw [reserveFrame, frame_changed]
      exact hisFree.metadata

/-- A miss takes a free frame or a victim in hand, or none. -/
theorem fetchMiss (h : Parted pool hand) (hnone : hand callId = none)
    (hothers : ∀ other frameId, other ≠ callId → hand other ≠ some (frameId, .restored)) :
    Keeps hand callId (pool.fetchMiss callId pageId) := by
  unfold BufferPoolManager.fetchMiss
  cases hload : pool.inFlightLoads pageId with
  | some waiter => exact h.same hnone rfl rfl rfl
  | none =>
      have hload' : Parted (pool.insertLoad pageId callId) hand :=
        h.keep (fun _ => Frame.SameButReference.refl _) rfl rfl
      have hfrees : (pool.insertLoad pageId callId).freeFrames = pool.freeFrames := rfl
      simp only [hfrees]
      cases hfree : pool.freeFrames with
      | nil =>
          unfold fetchEvict
          rcases ClockReplacer.findVictim_spec pool.clockReplacer pool.frames with
            ⟨found, clock, frames, hfind, hspec⟩
          have hfind' : (pool.insertLoad pageId callId).clockReplacer.findVictim
              (pool.insertLoad pageId callId).frames = .ok (found, clock, frames) := hfind
          rw [hfind']
          cases found with
          | none =>
              dsimp only
              split_ifs
              · exact hload'.stay hnone hspec.sameButReference rfl rfl
              · exact hload'.stay hnone hspec.sameButReference rfl rfl
          | some victim =>
              exact hload'.takeVictim hnone hothers hfree hspec (fun _ _ => rfl) fun _ => rfl
      | cons frameId rest =>
          have hisFree := h.isFree_of_mem (hfree ▸ List.mem_cons_self : frameId ∈ pool.freeFrames)
          have hreserved : ((pool.insertLoad pageId callId).frames frameId).isReserved = false := by
            change (pool.frames frameId).isReserved = false
            simp [Frame.isReserved, hisFree.state]
          simp only [Frame.reserve_eq_ok hreserved]
          exact hload'.takeFree hnone hfree

/-- The decision of a fetch keeps the frames parted. -/
theorem fetchDecide (h : Parted pool hand) (hnone : hand callId = none)
    (hothers : ∀ other frameId, other ≠ callId → hand other ≠ some (frameId, .restored))
    (missRecorded : Bool) : Keeps hand callId (pool.fetchDecide callId pageId missRecorded) := by
  unfold BufferPoolManager.fetchDecide
  cases htable : pool.pageTable pageId with
  | some frameId => exact h.fetchHit hnone hothers htable missRecorded
  | none =>
      have hmiss : Parted (pool.recordMissOnce missRecorded) hand := by
        rcases recordMissOnce_eq pool missRecorded with ⟨metrics, hmetrics⟩
        rw [hmetrics]
        exact h.keep (fun _ => Frame.SameButReference.refl _) rfl rfl
      exact hmiss.fetchMiss hnone hothers

/-- Loading fills the empty frame in hand. -/
theorem fetchLoad (h : Parted pool hand) (hgrip : hand callId = some (frameId, .empty)) :
    Keeps hand callId (pool.fetchLoad pageId frameId buffer) := by
  rw [fetchLoad_eq]
  refine h.work hgrip (others_unchanged pool frameId _) rfl rfl (.inr ⟨_, rfl, ?_, ?_, ?_⟩)
  · rw [frame_changed]
    rfl
  · rw [frame_changed]
    exact Nat.one_pos
  · exact (h.held callId frameId _ hgrip).2.2.2

/-- Publishing puts the loaded frame into use. -/
theorem fetchPublish (h : Parted pool hand) (hgrip : hand callId = some (frameId, .loaded)) :
    Keeps hand callId (pool.fetchPublish pageId frameId) := by
  have hheld := h.held callId frameId _ hgrip
  exact h.enter (h.unheld_of_held hgrip) (only_of_held hgrip)
    (fun _ _ => rfl) rfl (fun _ _ => id) hheld.2.2.2 h.free_nodup hheld.1 (fun _ _ => Iff.rfl)
    ⟨hheld.2.1, hheld.2.metadata_ne_none nofun⟩

/-- A frame without a page goes back to the free list. -/
theorem fetchReadFailed (h : Parted pool hand) (hgrip : hand callId = some (frameId, .empty))
    (error : IoError) : Keeps hand callId (pool.fetchReadFailed pageId frameId error) := by
  have hheld := h.held callId frameId _ hgrip
  refine h.give (h.unheld_of_held hgrip) (only_of_held hgrip) hheld.1
    (others_unchanged pool frameId _) (fun _ _ => id) rfl ⟨?_, ?_, hheld.2.2.2⟩
  · exact congrArg Frame.state (frame_changed pool frameId _)
  · exact (congrArg Frame.metadata (frame_changed pool frameId _)).trans hheld.2.2.1

/-- A reserved frame is set to `Resident`. -/
theorem evictFailed (h : Parted pool hand) {only : Option PageId}
    (hgrip : hand callId = some (victim, .reserved only)) (error : IoError) :
    Keeps hand callId (pool.evictFailed pageId victim error) := by
  have hheld := h.held callId victim _ hgrip
  refine h.work hgrip (others_unchanged pool victim _) rfl rfl (.inl ⟨?_, ?_, rfl⟩)
  · exact congrArg Frame.state (frame_changed pool victim _)
  · exact ne_of_eq_of_ne (congrArg Frame.metadata (frame_changed pool victim _)) hheld.2.2.1

/-- A frame with a new page takes the place of the old one. -/
theorem replacePage {frame : Frame} {table : PageTable n} (h : Parted pool hand)
    (hgrip : hand callId = some (victim, .reserved none))
    (hreplace : pool.pageTable.replace oldPageId pageId victim = .ok table)
    (hframes : pool'.frames = Function.update pool.frames victim frame)
    (htable : pool'.pageTable = table) (hfree : pool'.freeFrames = pool.freeFrames)
    (hstate : frame.state = .resident) (hmetadata : frame.metadata ≠ none) :
    Parted pool' (Function.update hand callId none) := by
  have hheld := h.held callId victim _ hgrip
  rcases PageTable.replace_eq_ok_iff.mp hreplace with ⟨hold, -, rfl⟩
  refine h.enter (h.unheld_of_held hgrip) (only_of_held hgrip) ?_ htable ?_ ?_
    (hfree ▸ h.free_nodup) (hfree ▸ hheld.1) (fun _ _ => by rw [hfree]) ⟨?_, ?_⟩
  · intro other hother
    rw [hframes, Function.update_of_ne hother]
  · exact fun page other hpage => (PageTable.removePage_eq_some hpage).2
  · intro page hpage
    rcases PageTable.removePage_eq_some hpage with ⟨hid, hpage⟩
    exact hid (h.injective page oldPageId victim hpage hold)
  · rw [hframes, Function.update_self, hstate]
  · rwa [hframes, Function.update_self]

/-- A frame with a new page that the table refuses. -/
theorem refusePage {frame : Frame} (h : Parted pool hand)
    (hgrip : hand callId = some (victim, .reserved none)) (hstate : frame.state = .resident)
    (hmetadata : frame.metadata ≠ none) :
    Parted (pool.setFrame victim frame) (Function.update hand callId none) := by
  refine h.work hgrip (others_unchanged pool victim frame) rfl rfl (.inl ⟨?_, ?_, rfl⟩)
  · rw [frame_changed, hstate]
  · rwa [frame_changed]

/-- The commit of an eviction lets go of the reserved frame. -/
theorem evictCommit (h : Parted pool hand) (hgrip : hand callId = some (victim, .reserved none)) :
    Keeps hand callId (pool.evictCommit pageId victim oldPageId buffer) := by
  rw [evictCommit_eq]
  cases hreplace : pool.pageTable.replace oldPageId pageId victim with
  | error e => exact h.refusePage hgrip rfl nofun
  | ok table => exact h.replacePage hgrip hreplace rfl rfl rfl rfl nofun

/-- The commit of `new_page` lets go of the reserved frame. -/
theorem newCommit (h : Parted pool hand) (hgrip : hand callId = some (victim, .reserved none)) :
    Keeps hand callId (pool.newCommit pageId victim oldPageId) := by
  rw [newCommit_eq]
  cases hreplace : pool.pageTable.replace oldPageId pageId victim with
  | error e => exact h.refusePage hgrip rfl nofun
  | ok table => exact h.replacePage hgrip hreplace rfl rfl rfl rfl nofun

/-- A change of metadata keeps a frame in use. -/
theorem changeResident (h : Parted pool hand) (hnone : hand callId = none)
    (hothers : ∀ other frameId, other ≠ callId → hand other ≠ some (frameId, .restored))
    {change : Frame → Except IoError Frame} (hchange : Frame.ChangesMeta change) :
    Keeps hand callId (pool.changeResident pageId change) := by
  unfold BufferPoolManager.changeResident
  cases htable : pool.pageTable pageId with
  | none => exact h.same hnone rfl rfl rfl
  | some frameId =>
      dsimp only
      split_ifs with hreserved
      · exact h.same hnone rfl rfl rfl
      · have hrest := h.atRest_of_table hnone hothers htable (Bool.eq_false_iff.mpr hreserved)
        cases hframe : change (pool.frames frameId) with
        | error e => exact h.same hnone rfl rfl rfl
        | ok frame =>
            rcases hchange _ _ hframe with ⟨hstate, hmetadata⟩
            exact h.replace hnone hrest rfl rfl rfl (hstate.trans hrest.resident.state) hmetadata

/-- A mapped frame is reserved for a flush. -/
theorem takeMapped (h : Parted pool hand) (hnone : hand callId = none)
    (hothers : ∀ other frameId, other ≠ callId → hand other ≠ some (frameId, .restored))
    (htable : pool.pageTable pageId = some frameId)
    (hreserved : (pool.frames frameId).isReserved = false) (caller : FlushCaller) :
    Parted (pool.reserveFrame frameId) (Function.update hand callId
      (some (frameId, .reserved (Pc.grip.deleted pageId caller)))) := by
  have hrest := h.atRest_of_table hnone hothers htable hreserved
  refine h.touch hnone hrest ?_ rfl rfl ?_ (.inr ⟨?_, _, rfl, ?_⟩)
  · intro other hother
    exact (congrArg Frame.unreferenced (others_unchanged pool frameId _ other hother)).symm
  · rw [reserveFrame, frame_changed]
    exact hrest.resident.metadata
  · rw [reserveFrame, frame_changed]
  · intro deleted page hdeleted hpage
    have hpage := h.injective page pageId frameId hpage htable
    cases caller <;> cases hdeleted
    exact hpage

/-- The start of a flush takes a frame in hand, or none. -/
theorem flushPage (h : Parted pool hand) (hnone : hand callId = none)
    (hothers : ∀ other frameId, other ≠ callId → hand other ≠ some (frameId, .restored)) :
    Keeps hand callId (pool.flushPage pageId) := by
  unfold BufferPoolManager.flushPage
  cases htable : pool.pageTable pageId with
  | none => exact h.same hnone rfl rfl rfl
  | some frameId =>
      dsimp only
      split_ifs with hreserved
      · exact h.same hnone rfl rfl rfl
      · have hreserved := Bool.eq_false_iff.mpr hreserved
        have hrest := h.atRest_of_table hnone hothers htable hreserved
        rw [Frame.reserve_eq_ok hreserved]
        dsimp only
        split_ifs with hdirty
        · exact h.takeMapped hnone hothers htable hreserved .flushPage
        · exact h.replace hnone hrest rfl rfl rfl rfl hrest.resident.metadata

/-- The page of a frame is removed, and the frame goes back to the free list. -/
theorem dropPage (h : Parted pool hand) (hunheld : Unheld hand callId frameId)
    (hbefore : ∀ other grip, hand callId = some (other, grip) → other = frameId)
    (hmem : frameId ∉ pool.freeFrames)
    (honly : ∀ page, pool.pageTable page = some frameId → page = pageId) :
    Keeps hand callId (pool.dropPage pageId frameId) := by
  refine h.give hunheld hbefore hmem (others_unchanged _ frameId _) ?_ rfl ⟨?_, ?_, ?_⟩
  · exact fun page other hpage => (PageTable.removePage_eq_some hpage).2
  · exact congrArg Frame.state (frame_changed _ frameId _)
  · exact congrArg Frame.metadata (frame_changed _ frameId _)
  · intro page hpage
    rcases PageTable.removePage_eq_some hpage with ⟨hid, hpage⟩
    exact hid (honly page hpage)

/-- The start of a deletion takes a frame in hand, or none. -/
theorem deletePage (h : Parted pool hand) (hnone : hand callId = none)
    (hothers : ∀ other frameId, other ≠ callId → hand other ≠ some (frameId, .restored)) :
    Keeps hand callId (pool.deletePage pageId) := by
  unfold BufferPoolManager.deletePage
  cases htable : pool.pageTable pageId with
  | none => exact h.same hnone rfl rfl rfl
  | some frameId =>
      dsimp only
      split_ifs with hloose
      · have hreserved : (pool.frames frameId).isReserved = false := by
          rw [Bool.and_eq_true] at hloose
          simpa using hloose.2
        have hrest := h.atRest_of_table hnone hothers htable hreserved
        rw [Frame.reserve_eq_ok hreserved]
        dsimp only
        split_ifs with hdirty
        · exact h.takeMapped hnone hothers htable hreserved .deletePage
        · have htaken := h.takeMapped hnone hothers htable hreserved .deletePage
          have hheld : Function.update hand callId (some (frameId, .reserved (some pageId))) callId =
              some (frameId, .reserved (some pageId)) := Function.update_self ..
          have honly : ∀ page, (pool.reserveFrame frameId).pageTable page = some frameId →
              page = pageId := fun page hpage => h.injective page pageId frameId hpage htable
          have hdrop := htaken.dropPage (htaken.unheld_of_held hheld) (only_of_held hheld)
            hrest.not_mem_free honly
          rwa [Keeps, Function.update_idem] at hdrop
      · exact h.same hnone rfl rfl rfl

/-- A frame in hand that holds a page is set to `Resident`. -/
theorem releaseFrame (h : Parted pool hand) (hgrip : hand callId = some (frameId, grip))
    (hempty : grip ≠ .empty) (result : CallResult n) :
    Keeps hand callId (pool.releaseFrame frameId result) := by
  refine h.work hgrip (others_unchanged pool frameId _) rfl rfl (.inl ⟨?_, ?_, rfl⟩)
  · exact congrArg Frame.state (frame_changed pool frameId _)
  · exact ne_of_eq_of_ne (congrArg Frame.metadata (frame_changed pool frameId _))
      ((h.held callId frameId _ hgrip).2.metadata_ne_none hempty)

/-- Looking at the frame in hand keeps it there. -/
theorem flushCheck (h : Parted pool hand) {caller : FlushCaller}
    (hgrip : hand callId = some (frameId, .reserved (Pc.grip.deleted pageId caller))) :
    Keeps hand callId (pool.flushCheck pageId frameId caller) := by
  have hheld := (h.held callId frameId _ hgrip).2
  have hreserved : (pool.frames frameId).isReserved = true := by
    simp [Frame.isReserved, hheld.1]
  rcases Option.ne_none_iff_exists'.mp hheld.2.1 with ⟨found, hfound⟩
  unfold BufferPoolManager.flushCheck
  simp only [hreserved, Bool.not_true, Bool.false_eq_true, if_false, Frame.getPageId, hfound]
  split_ifs
  · exact h.same hgrip rfl rfl rfl
  · cases caller <;> exact h.same hgrip rfl rfl rfl

/-- The end of a flush keeps the frames parted, whatever the write has returned. -/
theorem flushFinish (h : Parted pool hand) {caller : FlushCaller}
    (hgrip : hand callId = some (frameId, .reserved (Pc.grip.deleted pageId caller)))
    (written : Except IoError Unit) :
    Keeps hand callId (pool.flushFinish pageId frameId written caller) := by
  have hheld := (h.held callId frameId _ hgrip).2
  unfold BufferPoolManager.flushFinish
  cases written with
  | error e =>
      have hstate := congrArg Frame.state
        (frame_changed pool frameId (pool.frames frameId).setResident)
      have hmetadata : ((pool.setFrame frameId (pool.frames frameId).setResident).frames
          frameId).metadata ≠ none :=
        ne_of_eq_of_ne (congrArg Frame.metadata (frame_changed pool frameId _)) hheld.2.1
      cases caller with
      | flushPage =>
          exact h.work hgrip (others_unchanged pool frameId _) rfl rfl
            (.inl ⟨hstate, hmetadata, rfl⟩)
      | deletePage =>
          exact h.work hgrip (others_unchanged pool frameId _) rfl rfl
            (.inr ⟨.restored, rfl, hstate, hmetadata⟩)
  | ok _ =>
      simp only [Frame.clearDirty, Frame.updateMeta_of_ne_none hheld.2.1]
      have hcleared : (pool.setFrame frameId ((pool.frames frameId).withDirty false)).Grips frameId
          (.reserved (Pc.grip.deleted pageId caller)) := by
        refine ⟨?_, ?_, hheld.2.2⟩
        · exact (congrArg Frame.state (frame_changed pool frameId _)).trans hheld.1
        · rw [frame_changed]
          exact Frame.mapMeta_ne_none hheld.2.1 _
      cases caller with
      | flushPage =>
          exact h.work hgrip (others_unchanged pool frameId _) rfl rfl (.inr ⟨_, rfl, hcleared⟩)
      | deletePage =>
          exact h.work hgrip (others_unchanged pool frameId _) rfl rfl (.inr ⟨_, rfl, hcleared⟩)

/-- The decision of `new_page` puts a free frame into use, takes a victim in hand, or neither.
-/
theorem newPage (h : Parted pool hand) (hnone : hand callId = none)
    (hothers : ∀ other frameId, other ≠ callId → hand other ≠ some (frameId, .restored)) :
    Keeps hand callId pool.newPage := by
  by_cases hnext : pool.nextPageId ≥ 65535
  · unfold BufferPoolManager.newPage
    simp only [hnext, if_true]
    exact h.same hnone rfl rfl rfl
  cases hfree : pool.freeFrames with
  | cons frameId rest =>
      have hmem : frameId ∈ pool.freeFrames := hfree ▸ List.mem_cons_self
      rcases h.rest_of_free hfree with ⟨hnodup, hnot, hothers⟩
      rw [Consistent.newPage_eq_take pool (UInt16.not_le.mp hnext) hfree]
      refine h.enter (fun other grip _ => h.not_held_of_mem hmem other grip) (only_of_none hnone)
        (others_unchanged _ frameId _) rfl (fun _ _ => id) (h.isFree_of_mem hmem).offTable hnodup
        hnot hothers ⟨?_, ?_⟩
      · exact congrArg Frame.state (frame_changed (pool.withFree rest) frameId _)
      · exact ne_of_eq_of_ne (congrArg Frame.metadata (frame_changed (pool.withFree rest) frameId _))
          nofun
  | nil =>
      rcases ClockReplacer.findVictim_spec pool.clockReplacer pool.frames with
        ⟨found, clock, frames, hfind, hspec⟩
      unfold BufferPoolManager.newPage
      simp only [hnext, if_false, hfree, hfind]
      cases found with
      | none => exact h.stay hnone hspec.sameButReference rfl hfree.symm
      | some victim =>
          have hvictim : Keeps hand callId ((pool.swept clock frames).reserveVictim victim
              (.newWrite pool.nextPageId victim) (.newCommit pool.nextPageId victim)) :=
            h.takeVictim hnone hothers hfree hspec (fun _ _ => rfl) fun _ => rfl
          rw [swept, hfree] at hvictim
          exact hvictim

/-- Every section keeps the frames apart, if no other call is about to restore a frame. -/
theorem advance (h : Parted pool hand) {pc : Pc n} (hhand : hand callId = pc.grip)
    (hothers : ∀ other frameId, other ≠ callId → hand other ≠ some (frameId, .restored))
    {io : Io} {next : Next n} (hnext : pool.advance callId pc io = some next) :
    Keeps hand callId next := by
  cases pc with
  | fetchStart pageId missRecorded =>
      cases io <;> cases hnext
      exact h.fetchDecide hhand hothers missRecorded
  | fetchCheckLoad pageId waiter =>
      cases io <;> simp only [BufferPoolManager.advance, reduceCtorEq] at hnext
      split_ifs at hnext <;> cases hnext <;> exact h.same hhand rfl rfl rfl
  | fetchRead pageId frameId =>
      rcases io with _ | outcome | outcome | _ <;> cases hnext
      cases outcome <;> exact h.same hhand rfl rfl rfl
  | fetchLoad pageId frameId buffer =>
      cases io <;> cases hnext
      exact h.fetchLoad hhand
  | fetchPublish pageId frameId =>
      cases io <;> cases hnext
      exact h.fetchPublish hhand
  | fetchReadFailed pageId frameId error =>
      cases io <;> cases hnext
      exact h.fetchReadFailed hhand error
  | evictWrite pageId victim oldPageId oldData =>
      rcases io with _ | outcome | outcome | _ <;> cases hnext
      cases outcome <;> exact h.same hhand rfl rfl rfl
  | evictRead pageId victim oldPageId =>
      rcases io with _ | outcome | outcome | _ <;> cases hnext
      cases outcome <;> exact h.same hhand rfl rfl rfl
  | evictCommit pageId victim oldPageId buffer =>
      cases io <;> simp only [BufferPoolManager.advance, Option.some_inj, reduceCtorEq] at hnext
      rw [← hnext]
      exact h.evictCommit hhand
  | evictFailed pageId victim oldPageId error =>
      cases io <;> cases hnext
      exact h.evictFailed hhand error
  | unpinStart pageId =>
      cases io <;> cases hnext
      exact h.changeResident hhand hothers Frame.changesMeta_unpin
  | markDirtyStart pageId =>
      cases io <;> cases hnext
      exact h.changeResident hhand hothers (Frame.changesMeta_updateMeta _)
  | flushStart pageId =>
      cases io <;> cases hnext
      exact h.flushPage hhand hothers
  | deleteStart pageId =>
      cases io <;> cases hnext
      exact h.deletePage hhand hothers
  | flushCheck pageId frameId caller =>
      cases io <;> cases hnext
      exact h.flushCheck hhand
  | flushWrite pageId frameId dirtyPageId bufferData caller =>
      rcases io with _ | outcome | outcome | _ <;> cases hnext
      exact h.same hhand rfl rfl rfl
  | flushFinish pageId frameId written caller =>
      cases io <;> cases hnext
      exact h.flushFinish hhand written
  | flushRelease pageId frameId =>
      cases io <;> cases hnext
      exact h.releaseFrame hhand (by rintro ⟨⟩) _
  | deleteRollback pageId frameId error =>
      cases io <;> cases hnext
      exact h.releaseFrame hhand (by rintro ⟨⟩) _
  | deleteFinish pageId frameId =>
      cases io <;> cases hnext
      have hheld := h.held callId frameId _ hhand
      exact h.dropPage (h.unheld_of_held hhand) (only_of_held hhand) hheld.1
        fun page hpage => hheld.2.2.2 pageId page rfl hpage
  | newStart =>
      cases io <;> cases hnext
      exact h.newPage hhand hothers
  | newWrite newPageId victim oldPageId oldData =>
      rcases io with _ | outcome | outcome | _ <;> cases hnext
      cases outcome <;> exact h.same hhand rfl rfl rfl
  | newRollback newPageId victim oldPageId error =>
      cases io <;> cases hnext
      exact h.releaseFrame hhand (by rintro ⟨⟩) _
  | newCommit newPageId victim oldPageId =>
      cases io <;> simp only [BufferPoolManager.advance, Option.some_inj, reduceCtorEq] at hnext
      rw [← hnext]
      exact h.newCommit hhand
  | fetchWaitState | fetchWaitLoad | fetchNotify =>
      cases io <;> cases hnext
      exact h.same hhand rfl rfl rfl
  | returned result => cases io <;> cases hnext

end Parted

/-! ## Between two calls -/

namespace BufferPoolManager

/-- The free list contains exactly the frames in state `Free`, each of them once; these
are empty and in no entry of the page table.  All others are `Resident` and hold a page,
none is left `Reserved`, and no two pages share a frame. -/
structure Partitioned (pool : BufferPoolManager n) : Prop where
  free_nodup : pool.freeFrames.Nodup
  mem_free : ∀ frameId, frameId ∈ pool.freeFrames ↔ (pool.frames frameId).state = .free
  free : ∀ frameId, (pool.frames frameId).state = .free →
    (pool.frames frameId).metadata = none ∧ ∀ pageId, pool.pageTable pageId ≠ some frameId
  resident : ∀ frameId, (pool.frames frameId).state ≠ .free →
    (pool.frames frameId).state = .resident ∧ (pool.frames frameId).metadata ≠ none
  not_reserved : ∀ frameId, (pool.frames frameId).state ≠ .reserved
  injective : ∀ pageId pageId' frameId, pool.pageTable pageId = some frameId →
    pool.pageTable pageId' = some frameId → pageId = pageId'

/-- Between two calls no frame is reserved. -/
theorem Partitioned.isReserved_eq_false {pool : BufferPoolManager n} (h : pool.Partitioned)
    (frameId : Fin n) : (pool.frames frameId).isReserved = false :=
  decide_eq_false (h.not_reserved frameId)

/-- Without a free frame all frames are resident. -/
theorem Partitioned.all_resident {pool : BufferPoolManager n} (h : pool.Partitioned)
    (hfree : pool.freeFrames = []) (frameId : Fin n) :
    (pool.frames frameId).state = .resident ∧ (pool.frames frameId).metadata ≠ none := by
  apply h.resident frameId
  rw [Ne, ← h.mem_free, hfree]
  exact List.not_mem_nil

/-- A pool is partitioned exactly when no frame needs to be in a hand. -/
theorem partitioned_iff {pool : BufferPoolManager n} :
    pool.Partitioned ↔ Parted pool fun _ => none := by
  constructor
  · intro h
    refine ⟨h.free_nodup, h.injective, nofun, fun frameId _ => ?_, nofun⟩
    by_cases hstate : (pool.frames frameId).state = .free
    · rcases h.free frameId hstate with ⟨hmetadata, hoff⟩
      exact .inl ⟨(h.mem_free frameId).mpr hstate, hstate, hmetadata, hoff⟩
    · rcases h.resident frameId hstate with ⟨hresident, hmetadata⟩
      exact .inr ⟨fun hmem => hstate ((h.mem_free frameId).mp hmem), hresident, hmetadata⟩
  · intro h
    have hstands : ∀ frameId, pool.Stands frameId none := fun frameId => h.unheld frameId nofun
    refine ⟨h.free_nodup, fun frameId => ?_, fun frameId hstate => ?_, fun frameId hstate => ?_,
      fun frameId => ?_, h.injective⟩ <;>
    rcases hstands frameId with ⟨hmem, hfree⟩ | ⟨hnot, hresident⟩
    · exact iff_of_true hmem hfree.state
    · exact iff_of_false hnot (by simp [hresident.state])
    · exact ⟨hfree.metadata, hfree.offTable⟩
    · simp [hresident.state] at hstate
    · exact absurd hfree.state hstate
    · exact ⟨hresident.state, hresident.metadata⟩
    · simp [hfree.state]
    · simp [hresident.state]

/-- All frames of a new pool are on the free list. -/
theorem new_partitioned (n : Nat) (file : List UInt8) : (new n file).Partitioned where
  free_nodup := List.nodup_finRange n
  mem_free := fun frameId => iff_of_true (List.mem_finRange frameId) rfl
  free := fun _ _ => ⟨rfl, nofun⟩
  resident := fun _ hstate => absurd rfl hstate
  not_reserved := nofun
  injective := nofun

/-- A request leaves the frames partitioned. -/
theorem Partitioned.serve {pool pool' : BufferPoolManager n} (h : pool.Partitioned)
    {request : Request} {result : CallResult n}
    (hserve : pool.serve request = some (pool', result)) : pool'.Partitioned := by
  have hrun : Parted pool' (Function.update (fun _ => none) request.callId
      (Pc.returned result).grip) := by
    apply solo_induction (motive := fun pool pc =>
      Parted pool (Function.update (fun _ => none) request.callId pc.grip)) ?_ ?_
      (serve_eq_some.mp hserve)
    · intro pool pc io next hpool hnext
      have hstep := hpool.advance (Function.update_self ..) ?_ hnext
      · rwa [Parted.Keeps, Function.update_idem] at hstep
      · intro other frameId hother
        rw [Function.update_of_ne hother]
        exact nofun
    · have hentry : (request.call.entry : Pc n).grip = none := by
        cases request.call <;> rfl
      rcases record_eq pool request.call with ⟨metrics, hmetrics⟩
      rw [hentry, hmetrics]
      exact (partitioned_iff.mp h).same rfl rfl rfl rfl
  have hempty : (Pc.returned result).grip = none := rfl
  rwa [hempty, Function.update_eq_self_iff.mpr rfl, ← partitioned_iff] at hrun

end BufferPoolManager

/-- A step of a client without concurrency, whatever the disk does. -/
def BufferPoolManager.Answers (pool : BufferPoolManager n) (request : Request)
    (pool' : BufferPoolManager n) : Prop := ∃ result, pool.serve request = some (pool', result)

/-- In every sequence of calls without concurrency, on any pages and whatever the disk
does, the frames of the pool are partitioned between the calls. -/
theorem frames_partitioned (n : Nat) (file : List UInt8) {path : List (Request × BufferPoolManager n)}
    (hpath : IsPath BufferPoolManager.Answers (BufferPoolManager.new n file) path) :
    EveryState BufferPoolManager.Partitioned (BufferPoolManager.new n file) path := by
  apply hpath.invariant (new_partitioned n file)
  rintro pool request pool' h ⟨result, hserve⟩
  exact h.serve hserve

/-- The frames are partitioned although both hold the same page. -/
theorem frames_partitioned_fetchThenAllocate :
    (served 2 fetchThenAllocate).length = 2 ∧
      EveryState BufferPoolManager.Partitioned (BufferPoolManager.new 2 [])
        (served 2 fetchThenAllocate) := by
  have hserves := isPath_served 2 fetchThenAllocate (by simp [fetchThenAllocate, Io.Succeeds])
  refine ⟨by decide +kernel, frames_partitioned 2 [] ?_⟩
  exact hserves.imp hserves.everyStep_self fun _ _ _ h _ => h.2

end Storage
end TaskPool
