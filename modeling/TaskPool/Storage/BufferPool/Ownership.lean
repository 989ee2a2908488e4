import TaskPool.Storage.BufferPool.Manager

/-!
# What every frame is used for

A slot says what a frame is used for at a moment between two sections: it is free,
it holds a page, or a call has taken it and is loading, evicting, flushing, deleting
or allocating.  The shared state of the pool and the program counters of all calls
are consistent when they agree with one assignment of slots to frames.

Main results:

- Inductive `Slot`: the uses of a frame.
- Structure `Layout`: the page table, the free list and the loads agree with the
  slots; one lemma for each way in which a section changes them.
- Structure `Consistent`: the invariant of the buffer pool.
- Theorem `Consistent.change`: a section that changes the slot of one frame, which no
  other call has taken, keeps the invariant.
-/

namespace TaskPool
namespace Storage

variable {n : Nat}

/-- What a frame is used for. -/
inductive Slot where
  | free
  | resident (pageId : PageId)
  | loading (owner : CallId) (pageId : PageId)
  | loaded (owner : CallId) (pageId : PageId)
  | evicting (owner : CallId) (oldPageId pageId : PageId)
  | flushing (owner : CallId) (pageId : PageId)
  | deleting (owner : CallId) (pageId : PageId)
  | allocating (owner : CallId) (oldPageId newPageId : PageId)
deriving DecidableEq

namespace Slot

/-- The call that has taken the frame. -/
def owner : Slot → Option CallId
  | free => none
  | resident _ => none
  | loading owner _ => some owner
  | loaded owner _ => some owner
  | evicting owner _ _ => some owner
  | flushing owner _ => some owner
  | deleting owner _ => some owner
  | allocating owner _ _ => some owner

/-- The page under which the page table maps the frame. -/
def located : Slot → Option PageId
  | free => none
  | resident pageId => some pageId
  | loading _ _ => none
  | loaded _ _ => none
  | evicting _ oldPageId _ => some oldPageId
  | flushing _ pageId => some pageId
  | deleting _ pageId => some pageId
  | allocating _ oldPageId _ => some oldPageId

/-- The load that will put a page into the frame. -/
def incoming : Slot → Option (CallId × PageId)
  | loading owner pageId => some (owner, pageId)
  | loaded owner pageId => some (owner, pageId)
  | evicting owner _ pageId => some (owner, pageId)
  | _ => none

/-- The state of the frame. -/
def state : Slot → FrameState
  | free => .free
  | resident _ => .resident
  | loaded _ _ => .resident
  | _ => .reserved

/-- The page in the metadata of the frame. -/
def held : Slot → Option PageId
  | loaded _ pageId => some pageId
  | slot => slot.located

/-- A frame that is loaded is pinned; one that loses its page is not. -/
def PinsOk : Slot → Nat → Prop
  | loaded _ _, pins => 0 < pins
  | evicting _ _ _, pins => pins = 0
  | deleting _ _, pins => pins = 0
  | allocating _ _ _, pins => pins = 0
  | _, _ => True

/-- The frame looks as its slot says. -/
structure Matches (slot : Slot) (frame : Frame) : Prop where
  state_eq : frame.state = slot.state
  held_eq : frame.heldPage = slot.held
  pins_ok : slot.PinsOk frame.pins

/-- A frame is reserved when its slot says so. -/
theorem Matches.isReserved_iff {slot : Slot} {frame : Frame} (h : slot.Matches frame) :
    frame.isReserved = true ↔ slot.state = .reserved := by
  rw [Frame.isReserved, h.state_eq, decide_eq_true_eq]

/-- Slots say nothing of reference bits. -/
theorem Matches.sameButReference {slot : Slot} {frame frame' : Frame} (h : slot.Matches frame)
    (hsame : Frame.SameButReference frame frame') : slot.Matches frame' where
  state_eq := hsame.state_eq.trans h.state_eq
  held_eq := hsame.heldPage_eq.trans h.held_eq
  pins_ok := by
    rw [hsame.pins_eq]
    exact h.pins_ok

/-- A frame that is mapped and not reserved holds its page. -/
theorem eq_resident {slot : Slot} {pageId : PageId} (hlocated : slot.located = some pageId)
    (hstate : slot.state ≠ .reserved) : slot = .resident pageId := by
  cases slot with
  | resident held =>
      simp only [located, Option.some_inj] at hlocated
      rw [hlocated]
  | free => cases hlocated
  | loading owner page => cases hlocated
  | loaded owner page => cases hlocated
  | evicting owner old page => exact absurd rfl hstate
  | flushing owner page => exact absurd rfl hstate
  | deleting owner page => exact absurd rfl hstate
  | allocating owner old page => exact absurd rfl hstate

/-- A frame that is neither free, reserved nor pinned holds a page. -/
theorem Matches.exists_resident {slot : Slot} {frame : Frame} (h : slot.Matches frame)
    (hfree : slot ≠ .free) (hreserved : frame.isReserved = false) (hpins : frame.pins = 0) :
    ∃ pageId, slot = .resident pageId := by
  have hstate : slot.state ≠ .reserved := by
    rw [Ne, ← h.isReserved_iff, hreserved]
    exact Bool.false_ne_true
  cases slot with
  | resident pageId => exact ⟨pageId, rfl⟩
  | free => exact absurd rfl hfree
  | loaded owner page => exact absurd hpins h.pins_ok.ne'
  | loading owner page => exact absurd rfl hstate
  | evicting owner old page => exact absurd rfl hstate
  | flushing owner page => exact absurd rfl hstate
  | deleting owner page => exact absurd rfl hstate
  | allocating owner old page => exact absurd rfl hstate

end Slot

/-- The frame a call has taken, and its slot. -/
def Pc.owned (callId : CallId) : Pc n → Option (Fin n × Slot)
  | .fetchRead pageId frameId => some (frameId, .loading callId pageId)
  | .fetchLoad pageId frameId _ => some (frameId, .loading callId pageId)
  | .fetchReadFailed pageId frameId _ => some (frameId, .loading callId pageId)
  | .fetchPublish pageId frameId => some (frameId, .loaded callId pageId)
  | .evictWrite pageId victim oldPageId _ => some (victim, .evicting callId oldPageId pageId)
  | .evictRead pageId victim oldPageId => some (victim, .evicting callId oldPageId pageId)
  | .evictCommit pageId victim oldPageId _ => some (victim, .evicting callId oldPageId pageId)
  | .evictFailed pageId victim oldPageId _ => some (victim, .evicting callId oldPageId pageId)
  | .flushCheck pageId frameId caller => some (frameId, flushSlot callId pageId caller)
  | .flushWrite pageId frameId _ _ caller => some (frameId, flushSlot callId pageId caller)
  | .flushFinish pageId frameId _ caller => some (frameId, flushSlot callId pageId caller)
  | .flushRelease pageId frameId => some (frameId, .flushing callId pageId)
  | .deleteFinish pageId frameId => some (frameId, .deleting callId pageId)
  | .newWrite newPageId victim oldPageId _ => some (victim, .allocating callId oldPageId newPageId)
  | .newRollback newPageId victim oldPageId _ => some (victim, .allocating callId oldPageId newPageId)
  | .newCommit newPageId victim oldPageId => some (victim, .allocating callId oldPageId newPageId)
  | _ => none
where
  /-- The slot of a frame in `flush_reserved_frame`. -/
  flushSlot (callId : CallId) (pageId : PageId) : FlushCaller → Slot
    | .flushPage => .flushing callId pageId
    | .deletePage => .deleting callId pageId

/-- A frame that a call has taken carries the call in its slot. -/
theorem owner_of_owned {callId : CallId} {pc : Pc n} {frameId : Fin n} {taken : Slot}
    (h : pc.owned callId = some (frameId, taken)) : taken.owner = some callId := by
  have hflush : ∀ pageId caller, (Pc.owned.flushSlot callId pageId caller).owner = some callId := by
    intro pageId caller
    cases caller <;> rfl
  cases pc <;> simp only [Pc.owned, Option.some_inj, Prod.mk.injEq, reduceCtorEq] at h <;>
    rw [← h.2] <;> first
      | rfl
      | exact hflush _ _

/-! ## The page table, the free list and the loads -/

/-- The page table, the free list and the loads agree with the slots. -/
structure Layout (table : PageTable n) (freeFrames : List (Fin n))
    (loads : PageId → Option CallId) (slot : Fin n → Slot) : Prop where
  table_iff : ∀ pageId frameId, table pageId = some frameId ↔
    (slot frameId).located = some pageId
  free_nodup : freeFrames.Nodup
  mem_free : ∀ frameId, frameId ∈ freeFrames ↔ slot frameId = .free
  incoming : ∀ frameId owner pageId, (slot frameId).incoming = some (owner, pageId) →
    loads pageId = some owner ∧ table pageId = none

namespace Layout

variable {table : PageTable n} {freeFrames rest : List (Fin n)} {loads : PageId → Option CallId}
  {slot : Fin n → Slot} {frameId : Fin n} {next : Slot} {pageId oldPageId : PageId}
  {owner : CallId}

/-- A load of a page that nobody loads. -/
theorem insertLoad (h : Layout table freeFrames loads slot) (hload : loads pageId = none) :
    Layout table freeFrames (Function.update loads pageId (some owner)) slot where
  table_iff := h.table_iff
  free_nodup := h.free_nodup
  mem_free := h.mem_free
  incoming := by
    intro other caller page hincoming
    have hold := h.incoming other caller page hincoming
    have hne : page ≠ pageId := by
      rintro rfl
      simp [hload] at hold
    rwa [Function.update_of_ne hne]

/-- The end of a load that no frame waits for. -/
theorem removeLoad (h : Layout table freeFrames loads slot)
    (hnone : ∀ other caller, (slot other).incoming ≠ some (caller, pageId)) :
    Layout table freeFrames (Function.update loads pageId none) slot where
  table_iff := h.table_iff
  free_nodup := h.free_nodup
  mem_free := h.mem_free
  incoming := by
    intro other caller page hincoming
    have hne : page ≠ pageId := by
      rintro rfl
      exact hnone other caller hincoming
    rw [Function.update_of_ne hne]
    exact h.incoming other caller page hincoming

/-- A new use of one frame, with a new table and a new free list. -/
theorem update {table' : PageTable n} {freeFrames' : List (Fin n)}
    (h : Layout table freeFrames loads slot)
    (htable : ∀ page, table' page = some frameId ↔ next.located = some page)
    (htable_other : ∀ page other, other ≠ frameId →
      (table' page = some other ↔ table page = some other))
    (hnodup : freeFrames'.Nodup) (hfree : frameId ∈ freeFrames' ↔ next = .free)
    (hfree_other : ∀ other, other ≠ frameId → (other ∈ freeFrames' ↔ other ∈ freeFrames))
    (hincoming : ∀ caller page, next.incoming = some (caller, page) →
      loads page = some caller ∧ table' page = none)
    (hincoming_other : ∀ other, other ≠ frameId → ∀ caller page,
      (slot other).incoming = some (caller, page) → table page = none → table' page = none) :
    Layout table' freeFrames' loads (Function.update slot frameId next) where
  table_iff := by
    intro page other
    by_cases hother : other = frameId
    · subst hother
      rw [Function.update_self, htable]
    · rw [Function.update_of_ne hother, htable_other page other hother, h.table_iff]
  free_nodup := hnodup
  mem_free := by
    intro other
    by_cases hother : other = frameId
    · subst hother
      rw [Function.update_self, hfree]
    · rw [Function.update_of_ne hother, hfree_other other hother, h.mem_free]
  incoming := by
    intro other caller page hin
    by_cases hother : other = frameId
    · subst hother
      rw [Function.update_self] at hin
      exact hincoming caller page hin
    · rw [Function.update_of_ne hother] at hin
      have hold := h.incoming other caller page hin
      exact ⟨hold.1, hincoming_other other hother caller page hin hold.2⟩

/-- A new use of a frame that stays where it is in the table. -/
theorem reslot (h : Layout table freeFrames loads slot)
    (hlocated : next.located = (slot frameId).located)
    (hfree : next = .free ↔ slot frameId = .free)
    (hincoming : ∀ owner pageId, next.incoming = some (owner, pageId) →
      loads pageId = some owner ∧ table pageId = none) :
    Layout table freeFrames loads (Function.update slot frameId next) := by
  refine h.update ?_ (fun _ _ _ => Iff.rfl) h.free_nodup ?_ (fun _ _ => Iff.rfl) hincoming
    (fun _ _ _ _ _ hnone => hnone)
  · intro page
    rw [hlocated, h.table_iff]
  · rw [hfree, h.mem_free]

/-- A free frame is not in the table. -/
theorem not_located_of_free (h : Layout table freeFrames loads slot)
    (hfree : freeFrames = frameId :: rest) : (slot frameId).located = none := by
  rw [(h.mem_free frameId).mp (by simp [hfree])]
  rfl

/-- Taking the first free frame. -/
theorem take {table' : PageTable n} (h : Layout table freeFrames loads slot)
    (hfree : freeFrames = frameId :: rest) (hnext : next ≠ .free)
    (htable : ∀ page, table' page = some frameId ↔ next.located = some page)
    (htable_other : ∀ page other, other ≠ frameId →
      (table' page = some other ↔ table page = some other))
    (hincoming : ∀ caller page, next.incoming = some (caller, page) →
      loads page = some caller ∧ table' page = none)
    (hincoming_other : ∀ other, other ≠ frameId → ∀ caller page,
      (slot other).incoming = some (caller, page) → table page = none → table' page = none) :
    Layout table' rest loads (Function.update slot frameId next) := by
  have hnodup := h.free_nodup
  rw [hfree, List.nodup_cons] at hnodup
  refine h.update htable htable_other hnodup.2 (iff_of_false hnodup.1 hnext) ?_ hincoming
    hincoming_other
  intro other hother
  rw [hfree, List.mem_cons]
  simp [hother]

/-- Giving a frame back that is in the new table no more. -/
theorem give {table' : PageTable n} (h : Layout table freeFrames loads slot)
    (hfree : slot frameId ≠ .free) (htable : ∀ page, table' page ≠ some frameId)
    (htable_other : ∀ page other, other ≠ frameId →
      (table' page = some other ↔ table page = some other))
    (hnone : ∀ page, table page = none → table' page = none) :
    Layout table' (freeFrames ++ [frameId]) loads (Function.update slot frameId .free) := by
  refine h.update ?_ htable_other ?_ (by simp) ?_ nofun
    (fun _ _ _ page _ hold => hnone page hold)
  · intro page
    exact iff_of_false (htable page) nofun
  · rw [← List.concat_eq_append, List.nodup_concat]
    exact ⟨fun hmem => hfree ((h.mem_free frameId).mp hmem), h.free_nodup⟩
  · intro other hother
    simp [hother]

/-! ### Writes to the page table -/

/-- A page that is not in the table is mapped to one frame. -/
theorem insert_self (h : Layout table freeFrames loads slot)
    (hlocated : (slot frameId).located = none) (page : PageId) :
    table.insert pageId frameId page = some frameId ↔
      (Slot.resident pageId).located = some page := by
  unfold PageTable.insert
  by_cases hpage : page = pageId
  · simp [hpage, Slot.located]
  · rw [Function.update_of_ne hpage, h.table_iff, hlocated]
    simp [Slot.located, Ne.symm hpage]

/-- Inserting an entry for one frame leaves the entries of the others. -/
theorem insert_other (htable : table pageId = none) (page : PageId) {other : Fin n}
    (hother : other ≠ frameId) :
    table.insert pageId frameId page = some other ↔ table page = some other := by
  unfold PageTable.insert
  by_cases hpage : page = pageId
  · subst hpage
    rw [Function.update_self, htable]
    simp [Ne.symm hother]
  · rw [Function.update_of_ne hpage]

/-- Removing the page of one frame leaves the entries of the others. -/
theorem removePage_other (hmapped : table pageId = some frameId) (page : PageId) {other : Fin n}
    (hother : other ≠ frameId) :
    table.removePage pageId page = some other ↔ table page = some other := by
  unfold PageTable.removePage
  by_cases hpage : page = pageId
  · subst hpage
    rw [Function.update_self, hmapped]
    simp [Ne.symm hother]
  · rw [Function.update_of_ne hpage]

/-- Removing a page adds no entry. -/
theorem removePage_none {page : PageId} (h : table page = none) :
    table.removePage pageId page = none := by
  unfold PageTable.removePage
  by_cases hpage : page = pageId
  · rw [hpage, Function.update_self]
  · rwa [Function.update_of_ne hpage]

/-- Once its page is removed, a frame is not in the table. -/
theorem removePage_self (h : Layout table freeFrames loads slot)
    (hlocated : (slot frameId).located = some pageId) (page : PageId) :
    table.removePage pageId page ≠ some frameId := by
  unfold PageTable.removePage
  by_cases hpage : page = pageId
  · rw [hpage, Function.update_self]
    simp
  · rw [Function.update_of_ne hpage, Ne, h.table_iff, hlocated]
    simp [Ne.symm hpage]

/-- No page but `pageId` gets into the table. -/
theorem insert_none {page : PageId} (hpage : page ≠ pageId) (h : table page = none) :
    table.insert pageId frameId page = none := by
  rwa [PageTable.insert, Function.update_of_ne hpage]

/-! ### The ways in which a section changes the layout -/

/-- Taking the first free frame for a load. -/
theorem takeForLoad (h : Layout table freeFrames loads slot) (hfree : freeFrames = frameId :: rest)
    (hload : loads pageId = some owner) (htable : table pageId = none) :
    Layout table rest loads (Function.update slot frameId (.loading owner pageId)) := by
  refine h.take hfree (by simp) ?_ (fun _ _ _ => Iff.rfl) ?_ (fun _ _ _ _ _ hnone => hnone)
  · intro page
    rw [h.table_iff, h.not_located_of_free hfree]
    rfl
  · intro caller page hin
    simp only [Slot.incoming, Option.some_inj, Prod.mk.injEq] at hin
    rw [← hin.1, ← hin.2]
    exact ⟨hload, htable⟩

/-- Taking the first free frame for a page that is not in the table. -/
theorem takeForPage (h : Layout table freeFrames loads slot) (hfree : freeFrames = frameId :: rest)
    (htable : table pageId = none)
    (hothers : ∀ other caller, (slot other).incoming ≠ some (caller, pageId)) :
    Layout (table.insert pageId frameId) rest loads
      (Function.update slot frameId (.resident pageId)) := by
  refine h.take hfree (by simp) (h.insert_self (h.not_located_of_free hfree))
    (fun page other hother => insert_other htable page hother) nofun ?_
  intro other _ caller page hin hnone
  refine insert_none ?_ hnone
  rintro rfl
  exact hothers other caller hin

/-- Giving back a frame that is not in the table. -/
theorem giveBack (h : Layout table freeFrames loads slot)
    (hlocated : (slot frameId).located = none) (hfree : slot frameId ≠ .free) :
    Layout table (freeFrames ++ [frameId]) loads (Function.update slot frameId .free) := by
  refine h.give hfree ?_ (fun _ _ _ => Iff.rfl) (fun _ hnone => hnone)
  intro page
  rw [Ne, h.table_iff, hlocated]
  simp

/-- Removing the page of a frame and giving the frame back. -/
theorem dropPage (h : Layout table freeFrames loads slot)
    (hlocated : (slot frameId).located = some pageId) :
    Layout (table.removePage pageId) (freeFrames ++ [frameId]) loads
      (Function.update slot frameId .free) := by
  refine h.give ?_ (h.removePage_self hlocated)
    (fun page other hother => removePage_other ((h.table_iff pageId frameId).mpr hlocated) page hother)
    (fun _ hnone => removePage_none hnone)
  intro hfree
  rw [hfree] at hlocated
  cases hlocated

/-- Mapping a page that is not in the table to a loaded frame. -/
theorem publish (h : Layout table freeFrames loads slot) (htable : table pageId = none)
    (hlocated : (slot frameId).located = none) (hfree : slot frameId ≠ .free)
    (hothers : ∀ other, other ≠ frameId → ∀ caller,
      (slot other).incoming ≠ some (caller, pageId)) :
    Layout (table.insert pageId frameId) freeFrames loads
      (Function.update slot frameId (.resident pageId)) := by
  refine h.update (h.insert_self hlocated) (fun page other hother => insert_other htable page hother)
    h.free_nodup (iff_of_false (fun hmem => hfree ((h.mem_free frameId).mp hmem)) (by simp))
    (fun _ _ => Iff.rfl) nofun ?_
  intro other hother caller page hin hnone
  refine insert_none ?_ hnone
  rintro rfl
  exact hothers other hother caller hin

/-- Moving a frame from one page to another. -/
theorem replacePage (h : Layout table freeFrames loads slot)
    (hlocated : (slot frameId).located = some oldPageId) (htable : table pageId = none)
    (hothers : ∀ other, other ≠ frameId → ∀ caller,
      (slot other).incoming ≠ some (caller, pageId)) :
    Layout ((table.removePage oldPageId).insert pageId frameId) freeFrames loads
      (Function.update slot frameId (.resident pageId)) := by
  have hmapped := (h.table_iff oldPageId frameId).mpr hlocated
  refine h.update ?_ ?_ h.free_nodup ?_ (fun _ _ => Iff.rfl) nofun ?_
  · intro page
    unfold PageTable.insert
    by_cases hpage : page = pageId
    · simp [hpage, Slot.located]
    · rw [Function.update_of_ne hpage]
      exact iff_of_false (h.removePage_self hlocated page) (by simp [Slot.located, Ne.symm hpage])
  · intro page other hother
    rw [insert_other (removePage_none htable) page hother, removePage_other hmapped page hother]
  · refine iff_of_false (fun hmem => ?_) (by simp)
    rw [(h.mem_free frameId).mp hmem] at hlocated
    cases hlocated
  · intro other hother caller page hin hnone
    refine insert_none ?_ (removePage_none hnone)
    rintro rfl
    exact hothers other hother caller hin

end Layout

/-! ## The invariant -/

/-- The shared state and the program counters of all calls agree with the slots. -/
structure Consistent (pool : BufferPoolManager n) (pcs : CallId → Option (Pc n))
    (slot : Fin n → Slot) : Prop where
  layout : Layout pool.pageTable pool.freeFrames pool.inFlightLoads slot
  frame : ∀ frameId, (slot frameId).Matches (pool.frames frameId)
  owned : ∀ callId pc frameId taken, pcs callId = some pc →
    pc.owned callId = some (frameId, taken) → slot frameId = taken
  owner : ∀ frameId callId, (slot frameId).owner = some callId →
    ∃ pc, pcs callId = some pc ∧ pc.owned callId = some (frameId, slot frameId)
  rollback : ∀ callId pageId frameId error,
    pcs callId = some (.deleteRollback pageId frameId error) → slot frameId = .resident pageId

/-- No call other than `callId` is about to restore a frame it has already given up. -/
def NoOtherRollback (pcs : CallId → Option (Pc n)) (callId : CallId) : Prop :=
  ∀ other, other ≠ callId → ∀ pageId frameId error,
    pcs other ≠ some (.deleteRollback pageId frameId error)

namespace Consistent

variable {pool pool' : BufferPoolManager n} {pcs : CallId → Option (Pc n)} {slot : Fin n → Slot}
  {callId : CallId} {pc pc' : Pc n} {frameId : Fin n} {next : Slot}

/-- Every frame a call has taken is the one its program counter names. -/
theorem eq_of_owner (h : Consistent pool pcs slot) (hpc : pcs callId = some pc)
    (howned : pc.owned callId = some (frameId, next)) {other : Fin n}
    (howner : (slot other).owner = some callId) : other = frameId := by
  rcases h.owner other callId howner with ⟨pc', hpc', howned'⟩
  rw [hpc, Option.some_inj] at hpc'
  subst hpc'
  rw [howned, Option.some_inj, Prod.mk.injEq] at howned'
  exact howned'.1.symm

/-- Only the frame of its loader waits for a page. -/
theorem incoming_ne (h : Consistent pool pcs slot) (hpc : pcs callId = some pc)
    (howned : pc.owned callId = some (frameId, next)) {pageId : PageId}
    (hincoming : next.incoming = some (callId, pageId)) {other : Fin n} (hother : other ≠ frameId)
    (caller : CallId) : (slot other).incoming ≠ some (caller, pageId) := by
  intro hin
  have hload := (h.layout.incoming other caller pageId hin).1
  have hslot := h.owned callId pc frameId next hpc howned
  rw [← hslot] at hincoming
  have hload' := (h.layout.incoming frameId callId pageId hincoming).1
  rw [hload, Option.some_inj] at hload'
  subst hload'
  apply hother
  apply h.eq_of_owner hpc howned
  cases hcase : slot other <;> rw [hcase] at hin <;> simp_all [Slot.incoming, Slot.owner]

/-- A section that changes the slot of one frame, which no other call has taken. -/
theorem change (h : Consistent pool pcs slot) (hpc : pcs callId = some pc)
    (hothers : NoOtherRollback pcs callId)
    (hbefore : ∀ other taken, pc.owned callId = some (other, taken) → other = frameId)
    (hunowned : ∀ owner, (slot frameId).owner = some owner → owner = callId)
    (hafter : ∀ other taken, pc'.owned callId = some (other, taken) →
      other = frameId ∧ taken = next)
    (howner : ∀ owner, next.owner = some owner →
      owner = callId ∧ pc'.owned callId = some (frameId, next))
    (hrollback : ∀ pageId other error, pc' = .deleteRollback pageId other error →
      other = frameId ∧ next = .resident pageId)
    (hlayout : Layout pool'.pageTable pool'.freeFrames pool'.inFlightLoads
      (Function.update slot frameId next))
    (hframe : next.Matches (pool'.frames frameId))
    (hframes : ∀ other, other ≠ frameId → (slot other).Matches (pool'.frames other)) :
    Consistent pool' (Function.update pcs callId (some pc')) (Function.update slot frameId next) where
  layout := hlayout
  frame := by
    intro other
    by_cases hother : other = frameId
    · subst hother
      rwa [Function.update_self]
    · rw [Function.update_of_ne hother]
      exact hframes other hother
  owned := by
    intro caller pc₁ other taken hpc₁ howned
    by_cases hcaller : caller = callId
    · subst hcaller
      rw [Function.update_self, Option.some_inj] at hpc₁
      subst hpc₁
      rcases hafter other taken howned with ⟨rfl, rfl⟩
      rw [Function.update_self]
    · rw [Function.update_of_ne hcaller] at hpc₁
      have hslot := h.owned caller pc₁ other taken hpc₁ howned
      have hne : other ≠ frameId := by
        rintro rfl
        apply hcaller
        apply hunowned
        rw [hslot]
        exact owner_of_owned howned
      rw [Function.update_of_ne hne, hslot]
  owner := by
    intro other caller hin
    by_cases hother : other = frameId
    · subst hother
      rw [Function.update_self] at hin
      rcases howner caller hin with ⟨rfl, howned⟩
      refine ⟨pc', by rw [Function.update_self], ?_⟩
      rwa [Function.update_self]
    · rw [Function.update_of_ne hother] at hin
      rcases h.owner other caller hin with ⟨pc₁, hpc₁, howned⟩
      have hcaller : caller ≠ callId := by
        rintro rfl
        rw [hpc, Option.some_inj] at hpc₁
        subst hpc₁
        exact hother (hbefore other _ howned)
      refine ⟨pc₁, by rwa [Function.update_of_ne hcaller], ?_⟩
      rwa [Function.update_of_ne hother]
  rollback := by
    intro caller pageId other error hin
    by_cases hcaller : caller = callId
    · subst hcaller
      rw [Function.update_self, Option.some_inj] at hin
      rcases hrollback pageId other error hin with ⟨rfl, rfl⟩
      rw [Function.update_self]
    · rw [Function.update_of_ne hcaller] at hin
      exact absurd hin (hothers caller hcaller pageId other error)

end Consistent

end Storage
end TaskPool
