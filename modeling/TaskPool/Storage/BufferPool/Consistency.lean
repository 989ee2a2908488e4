import TaskPool.Storage.BufferPool.Effect

/-!
# Sections keep the pool consistent

A section leaves the slots alone, or takes a frame, or gives a frame up.  Each of the
three keeps the invariant under the same few conditions, and every effect is one of
them.

Main results:

- Theorems `Consistent.keep`, `Consistent.take` and `Consistent.release`: the three
  kinds of sections.
- Theorem `Effect.consistent`: every section keeps the invariant, provided the page
  it allocates is a new one and no other call is about to restore a frame it has
  given up.
-/

namespace TaskPool
namespace Storage

open BufferPoolManager Library

variable {n : Nat}

namespace Slot

variable {slot next : Slot} {frame : Frame} {pageId : PageId}

/-! ## Frames that change their state -/

/-- A frame that is reserved matches a slot that is, if the page stays. -/
theorem Matches.reserve (h : slot.Matches frame) (hstate : next.state = .reserved)
    (hheld : next.held = slot.held) (hpins : next.PinsOk frame.pins) :
    next.Matches { frame with state := .reserved } where
  state_eq := hstate.symm
  held_eq := h.held_eq.trans hheld.symm
  pins_ok := hpins

/-- A frame with a page that is put back matches the slot of that page. -/
theorem Matches.setResident (h : slot.Matches frame) (hheld : slot.held = some pageId) :
    (Slot.resident pageId).Matches frame.setResident where
  state_eq := rfl
  held_eq := h.held_eq.trans hheld
  pins_ok := trivial

/-- A frame without a page that is put back matches the free slot. -/
theorem Matches.setFree (h : slot.Matches frame) (hheld : slot.held = none) :
    Slot.free.Matches frame.setFree where
  state_eq := rfl
  held_eq := h.held_eq.trans hheld
  pins_ok := trivial

/-- The metadata of a page in the table may change, except for the page itself. -/
theorem Matches.ofResident {frame' : Frame} (h : slot.Matches frame)
    (hslot : slot = .resident pageId) (hstate : frame'.state = frame.state)
    (hheld : frame'.heldPage = frame.heldPage) : slot.Matches frame' where
  state_eq := hstate.trans h.state_eq
  held_eq := hheld.trans h.held_eq
  pins_ok := by
    rw [hslot]
    trivial

/-- Slots say nothing of the dirty flag. -/
theorem Matches.withDirty (h : slot.Matches frame) (dirty : Bool) :
    slot.Matches (frame.withDirty dirty) where
  state_eq := h.state_eq
  held_eq := (Frame.heldPage_withDirty frame dirty).trans h.held_eq
  pins_ok := by
    rw [Frame.pins_withDirty]
    exact h.pins_ok

/-- A frame into which a page is loaded is loaded. -/
theorem matches_loaded (callId : CallId) (pageId : PageId) (buffer : Buffer pageSize) :
    (Slot.loaded callId pageId).Matches (.loaded pageId buffer) :=
  ⟨rfl, rfl, Nat.one_pos⟩

/-- A frame into which a page is loaded looks like a resident one. -/
theorem resident_matches_loaded (pageId : PageId) (buffer : Buffer pageSize) :
    (Slot.resident pageId).Matches (.loaded pageId buffer) :=
  ⟨rfl, rfl, trivial⟩

/-- The frame of a new page is resident. -/
theorem resident_matches_fresh (pageId : PageId) :
    (Slot.resident pageId).Matches (.fresh pageId) :=
  ⟨rfl, rfl, trivial⟩

/-- A frame that is reset is free. -/
theorem free_matches_reset (frame : Frame) : Slot.free.Matches frame.reset :=
  ⟨rfl, rfl, trivial⟩

end Slot

namespace Consistent

variable {pool pool' : BufferPoolManager n} {pcs : CallId → Option (Pc n)} {slot : Fin n → Slot}
  {callId : CallId} {pc pc' : Pc n} {frames : Fin n → Frame} {frameId : Fin n} {frame : Frame}
  {taken next : Slot} {pageId : PageId}

/-! ## The three kinds of sections -/

/-- A section after which every frame is used as before. -/
theorem keep (h : Consistent pool pcs slot) (hpc : pcs callId = some pc)
    (howned : pc'.owned callId = pc.owned callId)
    (hrollback : ∀ page other error, pc' ≠ .deleteRollback page other error)
    (hlayout : Layout pool'.pageTable pool'.freeFrames pool'.inFlightLoads slot)
    (hframes : ∀ other, (slot other).Matches (pool'.frames other)) :
    Consistent pool' (Function.update pcs callId (some pc')) slot where
  layout := hlayout
  frame := hframes
  owned := by
    intro caller pc₁ other taken hpc₁ htaken
    by_cases hcaller : caller = callId
    · subst hcaller
      rw [Function.update_self, Option.some_inj] at hpc₁
      subst hpc₁
      rw [howned] at htaken
      exact h.owned caller pc other taken hpc htaken
    · rw [Function.update_of_ne hcaller] at hpc₁
      exact h.owned caller pc₁ other taken hpc₁ htaken
  owner := by
    intro other caller howner
    rcases h.owner other caller howner with ⟨pc₁, hpc₁, htaken⟩
    by_cases hcaller : caller = callId
    · subst hcaller
      rw [hpc, Option.some_inj] at hpc₁
      subst hpc₁
      exact ⟨pc', by rw [Function.update_self], by rw [howned, htaken]⟩
    · exact ⟨pc₁, by rwa [Function.update_of_ne hcaller], htaken⟩
  rollback := by
    intro caller page other error hin
    by_cases hcaller : caller = callId
    · subst hcaller
      rw [Function.update_self, Option.some_inj] at hin
      exact absurd hin (hrollback page other error)
    · rw [Function.update_of_ne hcaller] at hin
      exact h.rollback caller page other error hin

/-- A section that changes one frame within its use. -/
theorem keepFrame (h : Consistent pool pcs slot) (hpc : pcs callId = some pc)
    (howned : pc'.owned callId = pc.owned callId)
    (hrollback : ∀ page other error, pc' ≠ .deleteRollback page other error)
    (hlayout : Layout pool'.pageTable pool'.freeFrames pool'.inFlightLoads slot)
    (hframes : pool'.frames = Function.update pool.frames frameId frame)
    (hframe : (slot frameId).Matches frame) :
    Consistent pool' (Function.update pcs callId (some pc')) slot := by
  refine h.keep hpc howned hrollback hlayout ?_
  intro other
  rw [hframes]
  by_cases hother : other = frameId
  · rwa [hother, Function.update_self]
  · rw [Function.update_of_ne hother]
    exact h.frame other

/-- A section of a call that has taken no frame and takes one. -/
theorem take (h : Consistent pool pcs slot) (hpc : pcs callId = some pc)
    (hothers : NoOtherRollback pcs callId) (hnone : pc.owned callId = none)
    (hunowned : (slot frameId).owner = none) (howned : pc'.owned callId = some (frameId, next))
    (hlayout : Layout pool'.pageTable pool'.freeFrames pool'.inFlightLoads
      (Function.update slot frameId next))
    (hframes : pool'.frames = Function.update frames frameId frame)
    (hsame : ∀ other, Frame.SameButReference (pool.frames other) (frames other))
    (hframe : next.Matches frame) :
    Consistent pool' (Function.update pcs callId (some pc')) (Function.update slot frameId next) := by
  have hnext := owner_of_owned howned
  refine h.change hpc hothers ?_ ?_ ?_ ?_ ?_ hlayout ?_ ?_
  · intro other taken htaken
    rw [hnone] at htaken
    cases htaken
  · intro owner howner
    rw [hunowned] at howner
    cases howner
  · intro other taken htaken
    rw [howned, Option.some_inj, Prod.mk.injEq] at htaken
    exact ⟨htaken.1.symm, htaken.2.symm⟩
  · intro owner howner
    rw [hnext, Option.some_inj] at howner
    exact ⟨howner.symm, howned⟩
  · rintro page other error rfl
    cases howned
  · rwa [hframes, Function.update_self]
  · intro other hother
    rw [hframes, Function.update_of_ne hother]
    exact (h.frame other).sameButReference (hsame other)

/-- A section that changes the use of one frame, after which the call has taken none. -/
theorem release (h : Consistent pool pcs slot) (hpc : pcs callId = some pc)
    (hothers : NoOtherRollback pcs callId)
    (hbefore : ∀ other taken, pc.owned callId = some (other, taken) → other = frameId)
    (hunowned : ∀ owner, (slot frameId).owner = some owner → owner = callId)
    (hnone : pc'.owned callId = none) (hnext : next.owner = none)
    (hrollback : ∀ page other error, pc' = .deleteRollback page other error →
      other = frameId ∧ next = .resident page)
    (hlayout : Layout pool'.pageTable pool'.freeFrames pool'.inFlightLoads
      (Function.update slot frameId next))
    (hframes : pool'.frames = Function.update pool.frames frameId frame)
    (hframe : next.Matches frame) :
    Consistent pool' (Function.update pcs callId (some pc')) (Function.update slot frameId next) := by
  refine h.change hpc hothers hbefore hunowned ?_ ?_ hrollback hlayout ?_ ?_
  · intro other taken htaken
    rw [hnone] at htaken
    cases htaken
  · intro owner howner
    rw [hnext] at howner
    cases howner
  · rwa [hframes, Function.update_self]
  · intro other hother
    rw [hframes, Function.update_of_ne hother]
    exact h.frame other

/-- A section that gives up the frame the call has taken. -/
theorem giveUp (h : Consistent pool pcs slot) (hpc : pcs callId = some pc)
    (hothers : NoOtherRollback pcs callId) (howned : pc.owned callId = some (frameId, taken))
    (hnone : pc'.owned callId = none) (hnext : next.owner = none)
    (hrollback : ∀ page other error, pc' = .deleteRollback page other error →
      other = frameId ∧ next = .resident page)
    (hlayout : Layout pool'.pageTable pool'.freeFrames pool'.inFlightLoads
      (Function.update slot frameId next))
    (hframes : pool'.frames = Function.update pool.frames frameId frame)
    (hframe : next.Matches frame) :
    Consistent pool' (Function.update pcs callId (some pc')) (Function.update slot frameId next) := by
  refine h.release hpc hothers ?_ ?_ hnone hnext hrollback hlayout hframes hframe
  · intro other taken' htaken
    rw [howned, Option.some_inj, Prod.mk.injEq] at htaken
    exact htaken.1.symm
  · intro owner howner
    rw [h.owned callId pc frameId taken hpc howned, owner_of_owned howned, Option.some_inj] at howner
    exact howner.symm

/-- A section that goes on with the frame the call has taken, in another use. -/
theorem exchange (h : Consistent pool pcs slot) (hpc : pcs callId = some pc)
    (hothers : NoOtherRollback pcs callId) (howned : pc.owned callId = some (frameId, taken))
    (howned' : pc'.owned callId = some (frameId, next))
    (hlayout : Layout pool'.pageTable pool'.freeFrames pool'.inFlightLoads
      (Function.update slot frameId next))
    (hframes : pool'.frames = Function.update pool.frames frameId frame)
    (hframe : next.Matches frame) :
    Consistent pool' (Function.update pcs callId (some pc')) (Function.update slot frameId next) := by
  have hslot := h.owned callId pc frameId taken hpc howned
  refine h.change hpc hothers ?_ ?_ ?_ ?_ ?_ hlayout ?_ ?_
  · intro other taken' htaken
    rw [howned, Option.some_inj, Prod.mk.injEq] at htaken
    exact htaken.1.symm
  · intro owner howner
    rw [hslot, owner_of_owned howned, Option.some_inj] at howner
    exact howner.symm
  · intro other taken' htaken
    rw [howned', Option.some_inj, Prod.mk.injEq] at htaken
    exact ⟨htaken.1.symm, htaken.2.symm⟩
  · intro owner howner
    rw [owner_of_owned howned', Option.some_inj] at howner
    exact ⟨howner.symm, howned'⟩
  · rintro page other error rfl
    cases howned'
  · rwa [hframes, Function.update_self]
  · intro other hother
    rw [hframes, Function.update_of_ne hother]
    exact h.frame other

/-! ## Slots and loads -/

/-- Once the frame of a loader is used otherwise, no frame waits for the page. -/
theorem incoming_ne_update (h : Consistent pool pcs slot) (hpc : pcs callId = some pc)
    (howned : pc.owned callId = some (frameId, taken))
    (hincoming : taken.incoming = some (callId, pageId)) (hnext : next.incoming = none)
    (other : Fin n) (caller : CallId) :
    (Function.update slot frameId next other).incoming ≠ some (caller, pageId) := by
  by_cases hother : other = frameId
  · rw [hother, Function.update_self, hnext]
    exact nofun
  · rw [Function.update_of_ne hother]
    exact h.incoming_ne hpc howned hincoming hother caller

end Consistent

/-- Recording a miss changes the metrics only. -/
theorem recordMissOnce_eq (pool : BufferPoolManager n) (missRecorded : Bool) :
    ∃ metrics, pool.recordMissOnce missRecorded = { pool with metrics := metrics } := by
  cases missRecorded with
  | false => exact ⟨_, rfl⟩
  | true => exact ⟨pool.metrics, rfl⟩

/-- The start of a call changes the metrics only. -/
theorem record_eq (pool : BufferPoolManager n) (call : Call) :
    ∃ metrics, pool.record call = { pool with metrics := metrics } := by
  cases call <;> exact ⟨_, rfl⟩

/-! ## The effects of the sections -/

/-- The page that the section allocates, if there is one, is neither in the table nor
about to be. -/
def AllocatesFresh (pool : BufferPoolManager n) (slot : Fin n → Slot) : Pc n → Prop
  | .newStart => pool.nextPageId < 65535 → pool.freeFrames ≠ [] → IsFresh pool.nextPageId
  | .newCommit newPageId _ oldPageId => newPageId = oldPageId ∨ IsFresh newPageId
  | _ => True
where
  IsFresh (pageId : PageId) : Prop :=
    pool.pageTable pageId = none ∧
      ∀ other caller, (slot other).incoming ≠ some (caller, pageId)

namespace Effect

variable {pool : BufferPoolManager n} {pcs : CallId → Option (Pc n)} {slot slot' : Fin n → Slot}
  {callId : CallId} {io : Io} {next : Next n} {pageId oldPageId newPageId : PageId}
  {frameId victim : Fin n}

/-- The conclusion of every case below. -/
abbrev Keeps (pcs : CallId → Option (Pc n)) (callId : CallId) (next : Next n)
    (slot' : Fin n → Slot) : Prop :=
  Consistent next.pool (Function.update pcs callId (some next.pc)) slot'

/-- The decision of a fetch keeps the pool consistent, whether it hits, waits or takes a frame.
-/
theorem consistent_fetchStart {missRecorded : Bool}
    (heffect : Effect callId pool slot (.fetchStart pageId missRecorded) io next slot')
    (h : Consistent pool pcs slot) (hpc : pcs callId = some (.fetchStart pageId missRecorded))
    (hothers : NoOtherRollback pcs callId) : Keeps pcs callId next slot' := by
  rcases recordMissOnce_eq pool missRecorded with ⟨metrics, hmetrics⟩
  cases heffect with
  | fetchWait htable hreserved => exact h.keep hpc rfl nofun h.layout h.frame
  | fetchHit hslot =>
      exact h.keepFrame hpc rfl nofun h.layout rfl
        ((h.frame _).ofResident hslot rfl (Frame.heldPage_touched _))
  | fetchJoin htable hload =>
      rw [hmetrics]
      exact h.keep hpc rfl nofun h.layout h.frame
  | fetchTake htable hload hfree =>
      rw [hmetrics]
      have hslot := (h.layout.mem_free _).mp (hfree ▸ List.mem_cons_self)
      refine h.take hpc hothers rfl (by rw [hslot, Slot.owner]) rfl ?_ rfl
        (fun _ => Frame.SameButReference.refl _) ?_
      · exact (h.layout.insertLoad hload).takeForLoad hfree (Function.update_self ..) htable
      · refine (h.frame _).reserve rfl ?_ trivial
        rw [hslot]
        rfl
  | fetchSleep htable hload hframes =>
      rw [hmetrics]
      exact h.keep hpc rfl (by rintro _ _ _ ⟨⟩) (h.layout.insertLoad hload)
        fun other => (h.frame other).sameButReference (hframes other)
  | fetchGiveUp htable hload hframes =>
      rw [hmetrics]
      exact h.keep hpc rfl (by rintro _ _ _ ⟨⟩) (h.layout.insertLoad hload)
        fun other => (h.frame other).sameButReference (hframes other)
  | fetchVictim htable hload hframes hslot hpins =>
      rw [hmetrics]
      refine h.take hpc hothers rfl (by rw [hslot, Slot.owner]) ?_ ?_ rfl hframes ?_
      · split_ifs <;> rfl
      · refine (h.layout.insertLoad hload).reslot (by rw [hslot]; rfl) (by simp [hslot]) ?_
        intro owner page hincoming
        simp only [Slot.incoming, Option.some_inj, Prod.mk.injEq] at hincoming
        rw [← hincoming.1, ← hincoming.2]
        exact ⟨Function.update_self .., htable⟩
      · refine ((h.frame _).sameButReference (hframes _)).reserve rfl (by rw [hslot]; rfl) ?_
        exact (hframes _).pins_eq.trans hpins

/-- Reading the page for a free frame keeps the pool consistent. -/
theorem consistent_fetchRead
    (heffect : Effect callId pool slot (.fetchRead pageId frameId) io next slot')
    (h : Consistent pool pcs slot) (hpc : pcs callId = some (.fetchRead pageId frameId)) :
    Keeps pcs callId next slot' := by
  cases heffect with
  | readOk => exact h.keep hpc rfl nofun h.layout h.frame
  | readFail => exact h.keep hpc rfl nofun h.layout h.frame

/-- Loading the page into the reserved frame keeps the pool consistent. -/
theorem consistent_fetchLoad {buffer : Buffer pageSize}
    (heffect : Effect callId pool slot (.fetchLoad pageId frameId buffer) io next slot')
    (h : Consistent pool pcs slot) (hpc : pcs callId = some (.fetchLoad pageId frameId buffer))
    (hothers : NoOtherRollback pcs callId) : Keeps pcs callId next slot' := by
  have hslot := h.owned _ _ _ _ hpc rfl
  cases heffect with
  | load =>
      refine h.exchange hpc hothers rfl rfl ?_ rfl (Slot.matches_loaded callId pageId buffer)
      refine h.layout.reslot (by rw [hslot]; rfl) (by simp [hslot]) ?_
      intro owner page hincoming
      apply h.layout.incoming frameId
      rw [hslot]
      exact hincoming

/-- Publishing the loaded page keeps the pool consistent, and ends the load. -/
theorem consistent_fetchPublish
    (heffect : Effect callId pool slot (.fetchPublish pageId frameId) io next slot')
    (h : Consistent pool pcs slot) (hpc : pcs callId = some (.fetchPublish pageId frameId))
    (hothers : NoOtherRollback pcs callId) : Keeps pcs callId next slot' := by
  have hslot := h.owned _ _ _ _ hpc rfl
  have htable := (h.layout.incoming frameId callId pageId (by rw [hslot, Slot.incoming])).2
  cases heffect with
  | publish =>
      refine h.giveUp hpc hothers rfl rfl rfl (by rintro _ _ _ ⟨⟩) ?_ (Function.update_eq_self _ _).symm ?_
      · refine (h.layout.publish htable (by rw [hslot, Slot.located]) (by simp [hslot]) ?_).removeLoad
          (h.incoming_ne_update hpc rfl rfl rfl)
        exact fun other hother caller => h.incoming_ne hpc rfl rfl hother caller
      · have hmatches := h.frame frameId
        rw [hslot] at hmatches
        exact ⟨hmatches.state_eq, hmatches.held_eq, trivial⟩

/-- After a failed read the frame goes back to the free list. -/
theorem consistent_fetchReadFailed {error : IoError}
    (heffect : Effect callId pool slot (.fetchReadFailed pageId frameId error) io next slot')
    (h : Consistent pool pcs slot) (hpc : pcs callId = some (.fetchReadFailed pageId frameId error))
    (hothers : NoOtherRollback pcs callId) : Keeps pcs callId next slot' := by
  have hslot := h.owned _ _ _ _ hpc rfl
  cases heffect with
  | giveBack =>
      refine h.giveUp hpc hothers rfl rfl rfl nofun ?_ rfl ?_
      · exact (h.layout.giveBack (by rw [hslot, Slot.located]) (by simp [hslot])).removeLoad
          (h.incoming_ne_update hpc rfl rfl rfl)
      · exact (h.frame frameId).setFree (by rw [hslot]; rfl)

/-- Writing the victim back keeps the pool consistent. -/
theorem consistent_evictWrite {oldData : Buffer pageSize}
    (heffect : Effect callId pool slot (.evictWrite pageId victim oldPageId oldData) io next slot')
    (h : Consistent pool pcs slot)
    (hpc : pcs callId = some (.evictWrite pageId victim oldPageId oldData)) :
    Keeps pcs callId next slot' := by
  cases heffect with
  | evictWriteOk => exact h.keep hpc rfl nofun h.layout h.frame
  | evictWriteFail => exact h.keep hpc rfl nofun h.layout h.frame

/-- Reading the page for a victim keeps the pool consistent. -/
theorem consistent_evictRead
    (heffect : Effect callId pool slot (.evictRead pageId victim oldPageId) io next slot')
    (h : Consistent pool pcs slot) (hpc : pcs callId = some (.evictRead pageId victim oldPageId)) :
    Keeps pcs callId next slot' := by
  cases heffect with
  | evictReadOk => exact h.keep hpc rfl nofun h.layout h.frame
  | evictReadFail => exact h.keep hpc rfl nofun h.layout h.frame

/-- The commit of an eviction keeps the pool consistent, and ends the load. -/
theorem consistent_evictCommit {buffer : Buffer pageSize}
    (heffect : Effect callId pool slot (.evictCommit pageId victim oldPageId buffer) io next slot')
    (h : Consistent pool pcs slot)
    (hpc : pcs callId = some (.evictCommit pageId victim oldPageId buffer))
    (hothers : NoOtherRollback pcs callId) : Keeps pcs callId next slot' := by
  have hslot := h.owned _ _ _ _ hpc rfl
  have htable := (h.layout.incoming victim callId pageId (by rw [hslot, Slot.incoming])).2
  cases heffect with
  | commit =>
      refine h.giveUp hpc hothers rfl rfl rfl (by rintro _ _ _ ⟨⟩) ?_ rfl
        (Slot.resident_matches_loaded pageId buffer)
      refine (h.layout.replacePage (by rw [hslot, Slot.located]) htable ?_).removeLoad
        (h.incoming_ne_update hpc rfl rfl rfl)
      exact fun other hother caller => h.incoming_ne hpc rfl rfl hother caller

/-- After a failed eviction the victim is resident again. -/
theorem consistent_evictFailed {error : IoError}
    (heffect : Effect callId pool slot (.evictFailed pageId victim oldPageId error) io next slot')
    (h : Consistent pool pcs slot)
    (hpc : pcs callId = some (.evictFailed pageId victim oldPageId error))
    (hothers : NoOtherRollback pcs callId) : Keeps pcs callId next slot' := by
  have hslot := h.owned _ _ _ _ hpc rfl
  cases heffect with
  | restore =>
      have hlayout : Layout pool.pageTable pool.freeFrames pool.inFlightLoads
          (Function.update slot victim (.resident oldPageId)) :=
        h.layout.reslot (by rw [hslot]; rfl) (by simp [hslot]) nofun
      exact h.giveUp hpc hothers rfl rfl rfl nofun
        (hlayout.removeLoad (h.incoming_ne_update hpc rfl rfl rfl)) rfl
        ((h.frame victim).setResident (by rw [hslot]; rfl))

/-- An unpin keeps the pool consistent. -/
theorem consistent_unpinStart
    (heffect : Effect callId pool slot (.unpinStart pageId) io next slot')
    (h : Consistent pool pcs slot) (hpc : pcs callId = some (.unpinStart pageId)) :
    Keeps pcs callId next slot' := by
  cases heffect with
  | unpinFail => exact h.keep hpc rfl nofun h.layout h.frame
  | unpin hslot hpins =>
      exact h.keepFrame hpc rfl nofun h.layout rfl
        ((h.frame _).ofResident hslot rfl (Frame.heldPage_unpinned _))

/-- Marking a page dirty keeps the pool consistent. -/
theorem consistent_markDirtyStart
    (heffect : Effect callId pool slot (.markDirtyStart pageId) io next slot')
    (h : Consistent pool pcs slot) (hpc : pcs callId = some (.markDirtyStart pageId)) :
    Keeps pcs callId next slot' := by
  cases heffect with
  | markDirtyFail => exact h.keep hpc rfl nofun h.layout h.frame
  | markDirty hslot =>
      exact h.keepFrame hpc rfl nofun h.layout rfl ((h.frame _).withDirty true)

/-- Reserving a frame for a flush keeps the pool consistent. -/
theorem consistent_flushStart
    (heffect : Effect callId pool slot (.flushStart pageId) io next slot')
    (h : Consistent pool pcs slot) (hpc : pcs callId = some (.flushStart pageId))
    (hothers : NoOtherRollback pcs callId) : Keeps pcs callId next slot' := by
  cases heffect with
  | flushFail => exact h.keep hpc rfl nofun h.layout h.frame
  | flushClean hslot =>
      refine h.keepFrame hpc rfl nofun h.layout rfl ((h.frame _).ofResident hslot ?_ rfl)
      rw [(h.frame _).state_eq, hslot]
      rfl
  | flushTake hslot hdirty =>
      refine h.take hpc hothers rfl (by rw [hslot, Slot.owner]) rfl ?_ rfl
        (fun _ => Frame.SameButReference.refl _) ((h.frame _).reserve rfl (by rw [hslot]; rfl) trivial)
      exact h.layout.reslot (by rw [hslot]; rfl) (by simp [hslot]) (by rintro _ _ ⟨⟩)

/-- Reserving a frame for a deletion keeps the pool consistent. -/
theorem consistent_deleteStart
    (heffect : Effect callId pool slot (.deleteStart pageId) io next slot')
    (h : Consistent pool pcs slot) (hpc : pcs callId = some (.deleteStart pageId))
    (hothers : NoOtherRollback pcs callId) : Keeps pcs callId next slot' := by
  cases heffect with
  | deleteFail => exact h.keep hpc rfl nofun h.layout h.frame
  | deleteClean hslot hpins hclean =>
      refine h.release hpc hothers nofun (by simp [hslot, Slot.owner]) rfl rfl nofun ?_
        (Function.update_idem ..) (Slot.free_matches_reset _)
      exact h.layout.dropPage (by rw [hslot, Slot.located])
  | deleteTake hslot hpins hdirty =>
      refine h.take hpc hothers rfl (by rw [hslot, Slot.owner]) rfl ?_ rfl
        (fun _ => Frame.SameButReference.refl _) ((h.frame _).reserve rfl (by rw [hslot]; rfl) hpins)
      exact h.layout.reslot (by rw [hslot]; rfl) (by simp [hslot]) (by rintro _ _ ⟨⟩)

/-- Looking at the reserved frame keeps the pool consistent. -/
theorem consistent_flushCheck {caller : FlushCaller}
    (heffect : Effect callId pool slot (.flushCheck pageId frameId caller) io next slot')
    (h : Consistent pool pcs slot) (hpc : pcs callId = some (.flushCheck pageId frameId caller)) :
    Keeps pcs callId next slot' := by
  cases heffect with
  | checkDirty hdirty => exact h.keep hpc rfl nofun h.layout h.frame
  | checkClean hclean => cases caller <;> exact h.keep hpc rfl nofun h.layout h.frame

/-- Writing the copy keeps the pool consistent. -/
theorem consistent_flushWrite {dirtyPageId : PageId} {data : Buffer pageSize} {caller : FlushCaller}
    (heffect : Effect callId pool slot (.flushWrite pageId frameId dirtyPageId data caller) io next
      slot')
    (h : Consistent pool pcs slot)
    (hpc : pcs callId = some (.flushWrite pageId frameId dirtyPageId data caller)) :
    Keeps pcs callId next slot' := by
  cases heffect with
  | flushWrite => exact h.keep hpc rfl nofun h.layout h.frame

/-- The end of a flush keeps the pool consistent, for all callers and outcomes. -/
theorem consistent_flushFinish {written : Except IoError Unit} {caller : FlushCaller}
    (heffect : Effect callId pool slot (.flushFinish pageId frameId written caller) io next slot')
    (h : Consistent pool pcs slot)
    (hpc : pcs callId = some (.flushFinish pageId frameId written caller))
    (hothers : NoOtherRollback pcs callId) : Keeps pcs callId next slot' := by
  have hslot := h.owned _ _ _ _ hpc rfl
  cases heffect with
  | flushDone =>
      cases caller <;>
        exact h.keepFrame hpc rfl nofun h.layout rfl ((h.frame frameId).withDirty false)
  | flushUndo =>
      have hheld : (slot frameId).held = some pageId := by
        rw [hslot]
        cases caller <;> rfl
      have hlocated : (Slot.resident pageId).located = (slot frameId).located := by
        rw [hslot]
        cases caller <;> rfl
      have hfree : slot frameId ≠ .free := by
        rw [hslot]
        cases caller <;> exact nofun
      have hlayout := h.layout.reslot hlocated (iff_of_false nofun hfree) nofun
      have hframe := (h.frame frameId).setResident hheld
      cases caller with
      | flushPage => exact h.giveUp hpc hothers rfl rfl rfl nofun hlayout rfl hframe
      | deletePage =>
          refine h.giveUp hpc hothers rfl rfl rfl ?_ hlayout rfl hframe
          rintro page other error ⟨⟩
          exact ⟨rfl, rfl⟩

/-- After a flush the frame is resident again. -/
theorem consistent_flushRelease
    (heffect : Effect callId pool slot (.flushRelease pageId frameId) io next slot')
    (h : Consistent pool pcs slot) (hpc : pcs callId = some (.flushRelease pageId frameId))
    (hothers : NoOtherRollback pcs callId) : Keeps pcs callId next slot' := by
  have hslot := h.owned _ _ _ _ hpc rfl
  cases heffect with
  | flushRelease =>
      refine h.giveUp hpc hothers rfl rfl rfl nofun ?_ rfl
        ((h.frame frameId).setResident (by rw [hslot]; rfl))
      exact h.layout.reslot (by rw [hslot]; rfl) (by simp [hslot]) nofun

/-- The rollback of a deletion keeps the pool consistent. -/
theorem consistent_deleteRollback {error : BufferPoolError}
    (heffect : Effect callId pool slot (.deleteRollback pageId frameId error) io next slot')
    (h : Consistent pool pcs slot)
    (hpc : pcs callId = some (.deleteRollback pageId frameId error)) :
    Keeps pcs callId next slot' := by
  have hslot := h.rollback callId pageId frameId error hpc
  cases heffect with
  | deleteUndo =>
      refine h.keepFrame hpc rfl nofun h.layout rfl ((h.frame frameId).ofResident hslot ?_ rfl)
      rw [(h.frame frameId).state_eq, hslot]
      rfl

/-- After a deletion the frame is free, and its page in no table. -/
theorem consistent_deleteFinish
    (heffect : Effect callId pool slot (.deleteFinish pageId frameId) io next slot')
    (h : Consistent pool pcs slot) (hpc : pcs callId = some (.deleteFinish pageId frameId))
    (hothers : NoOtherRollback pcs callId) : Keeps pcs callId next slot' := by
  have hslot := h.owned _ _ _ _ hpc rfl
  cases heffect with
  | deleteDone =>
      exact h.giveUp hpc hothers rfl rfl rfl nofun (h.layout.dropPage (by rw [hslot, Slot.located]))
        rfl (Slot.free_matches_reset _)

/-- The decision of `new_page` keeps the pool consistent when the new id is not in the table.
-/
theorem consistent_newStart
    (heffect : Effect callId pool slot .newStart io next slot')
    (h : Consistent pool pcs slot) (hpc : pcs callId = some .newStart)
    (hothers : NoOtherRollback pcs callId) (hfresh : AllocatesFresh pool slot .newStart) :
    Keeps pcs callId next slot' := by
  cases heffect with
  | newFail => exact h.keep hpc rfl nofun h.layout h.frame
  | newGiveUp hframes =>
      exact h.keep hpc rfl nofun h.layout fun other => (h.frame other).sameButReference (hframes other)
  | newTake hnext hfree =>
      have hslot := (h.layout.mem_free _).mp (hfree ▸ List.mem_cons_self)
      rcases hfresh hnext (hfree ▸ List.cons_ne_nil _ _) with ⟨htable, hincoming⟩
      refine h.release hpc hothers nofun (by simp [hslot, Slot.owner]) rfl rfl nofun ?_ rfl
        (Slot.resident_matches_fresh _)
      exact h.layout.takeForPage hfree htable hincoming
  | newVictim hnext hfree hfind hframes hslot hpins =>
      refine h.take hpc hothers rfl (by rw [hslot, Slot.owner]) ?_ ?_ rfl hframes ?_
      · split_ifs <;> rfl
      · exact h.layout.reslot (by rw [hslot]; rfl) (by simp [hslot]) (by rintro _ _ ⟨⟩)
      · refine ((h.frame _).sameButReference (hframes _)).reserve rfl (by rw [hslot]; rfl) ?_
        exact (hframes _).pins_eq.trans hpins

/-- Writing the victim of `new_page` back keeps the pool consistent. -/
theorem consistent_newWrite {oldData : Buffer pageSize}
    (heffect : Effect callId pool slot (.newWrite newPageId victim oldPageId oldData) io next slot')
    (h : Consistent pool pcs slot)
    (hpc : pcs callId = some (.newWrite newPageId victim oldPageId oldData)) :
    Keeps pcs callId next slot' := by
  cases heffect with
  | newWriteOk => exact h.keep hpc rfl nofun h.layout h.frame
  | newWriteFail => exact h.keep hpc rfl nofun h.layout h.frame

/-- After a failed write the victim of `new_page` is resident again. -/
theorem consistent_newRollback {error : IoError}
    (heffect : Effect callId pool slot (.newRollback newPageId victim oldPageId error) io next slot')
    (h : Consistent pool pcs slot)
    (hpc : pcs callId = some (.newRollback newPageId victim oldPageId error))
    (hothers : NoOtherRollback pcs callId) : Keeps pcs callId next slot' := by
  have hslot := h.owned _ _ _ _ hpc rfl
  cases heffect with
  | newUndo =>
      refine h.giveUp hpc hothers rfl rfl rfl nofun ?_ rfl
        ((h.frame victim).setResident (by rw [hslot]; rfl))
      exact h.layout.reslot (by rw [hslot]; rfl) (by simp [hslot]) nofun

/-- The commit of `new_page` keeps the pool consistent when the new id is not in the table. -/
theorem consistent_newCommit
    (heffect : Effect callId pool slot (.newCommit newPageId victim oldPageId) io next slot')
    (h : Consistent pool pcs slot) (hpc : pcs callId = some (.newCommit newPageId victim oldPageId))
    (hothers : NoOtherRollback pcs callId)
    (hfresh : AllocatesFresh pool slot (.newCommit newPageId victim oldPageId)) :
    Keeps pcs callId next slot' := by
  have hslot := h.owned _ _ _ _ hpc rfl
  have hlocated : (slot victim).located = some oldPageId := by rw [hslot, Slot.located]
  have hold := h.table_of_located hlocated
  cases heffect with
  | newCommit htable =>
      rcases hfresh with rfl | ⟨_, hincoming⟩
      · rw [hold] at htable
        cases htable
      · refine h.giveUp hpc hothers rfl rfl rfl (by rintro _ _ _ ⟨⟩) ?_ rfl
          (Slot.resident_matches_fresh newPageId)
        exact h.layout.replacePage hlocated htable fun other _ caller => hincoming other caller
  | newCollide htable =>
      rcases hfresh with rfl | ⟨hnone, _⟩
      · refine h.giveUp hpc hothers rfl rfl rfl (by rintro _ _ _ ⟨⟩) ?_ rfl
          (Slot.resident_matches_fresh newPageId)
        exact h.layout.reslot (by rw [hlocated]; rfl) (by simp [hslot]) (by rintro _ _ ⟨⟩)
      · exact absurd hnone htable

/-! ## All sections -/

/-- Every section keeps the invariant. -/
theorem consistent {pc : Pc n} (heffect : Effect callId pool slot pc io next slot')
    (h : Consistent pool pcs slot) (hpc : pcs callId = some pc)
    (hothers : NoOtherRollback pcs callId) (hfresh : AllocatesFresh pool slot pc) :
    Keeps pcs callId next slot' := by
  cases pc with
  | fetchStart pageId missRecorded => exact heffect.consistent_fetchStart h hpc hothers
  | fetchWaitState pageId missRecorded notified =>
      cases heffect
      exact h.keep hpc rfl nofun h.layout h.frame
  | fetchCheckLoad pageId waiter =>
      cases heffect <;> exact h.keep hpc rfl nofun h.layout h.frame
  | fetchWaitLoad pageId waiter notified =>
      cases heffect
      exact h.keep hpc rfl nofun h.layout h.frame
  | fetchRead pageId frameId => exact heffect.consistent_fetchRead h hpc
  | fetchLoad pageId frameId buffer => exact heffect.consistent_fetchLoad h hpc hothers
  | fetchPublish pageId frameId => exact heffect.consistent_fetchPublish h hpc hothers
  | fetchReadFailed pageId frameId error => exact heffect.consistent_fetchReadFailed h hpc hothers
  | evictWrite pageId victim oldPageId oldData => exact heffect.consistent_evictWrite h hpc
  | evictRead pageId victim oldPageId => exact heffect.consistent_evictRead h hpc
  | evictCommit pageId victim oldPageId buffer => exact heffect.consistent_evictCommit h hpc hothers
  | evictFailed pageId victim oldPageId error => exact heffect.consistent_evictFailed h hpc hothers
  | fetchNotify waiter result =>
      cases heffect
      exact h.keep hpc rfl nofun h.layout h.frame
  | unpinStart pageId => exact heffect.consistent_unpinStart h hpc
  | markDirtyStart pageId => exact heffect.consistent_markDirtyStart h hpc
  | flushStart pageId => exact heffect.consistent_flushStart h hpc hothers
  | deleteStart pageId => exact heffect.consistent_deleteStart h hpc hothers
  | flushCheck pageId frameId caller => exact heffect.consistent_flushCheck h hpc
  | flushWrite pageId frameId dirtyPageId bufferData caller =>
      exact heffect.consistent_flushWrite h hpc
  | flushFinish pageId frameId written caller => exact heffect.consistent_flushFinish h hpc hothers
  | flushRelease pageId frameId => exact heffect.consistent_flushRelease h hpc hothers
  | deleteRollback pageId frameId error => exact heffect.consistent_deleteRollback h hpc
  | deleteFinish pageId frameId => exact heffect.consistent_deleteFinish h hpc hothers
  | newStart => exact heffect.consistent_newStart h hpc hothers hfresh
  | newWrite newPageId victim oldPageId oldData => exact heffect.consistent_newWrite h hpc
  | newRollback newPageId victim oldPageId error => exact heffect.consistent_newRollback h hpc hothers
  | newCommit newPageId victim oldPageId => exact heffect.consistent_newCommit h hpc hothers hfresh
  | returned result => cases heffect

end Effect

/-! ## Calls that start, wait and end -/

namespace Consistent

variable {pool : BufferPoolManager n} {pcs pcs' : CallId → Option (Pc n)} {slot : Fin n → Slot}
  {callId : CallId}

/-- A call that starts has taken nothing yet. -/
theorem enter (h : Consistent pool pcs slot) (hpc : pcs callId = none) (call : Call)
    (metrics : BufferPoolMetrics) :
    Consistent { pool with metrics := metrics }
      (Function.update pcs callId (some call.entry)) slot where
  layout := h.layout
  frame := h.frame
  owned := by
    intro caller pc frameId taken hpc₁ howned
    by_cases hcaller : caller = callId
    · subst hcaller
      rw [Function.update_self, Option.some_inj] at hpc₁
      subst hpc₁
      cases call <;> cases howned
    · rw [Function.update_of_ne hcaller] at hpc₁
      exact h.owned caller pc frameId taken hpc₁ howned
  owner := by
    intro frameId caller howner
    rcases h.owner frameId caller howner with ⟨pc, hpc₁, howned⟩
    have hcaller : caller ≠ callId := by
      rintro rfl
      rw [hpc] at hpc₁
      cases hpc₁
    exact ⟨pc, by rwa [Function.update_of_ne hcaller], howned⟩
  rollback := by
    intro caller page frameId error hin
    by_cases hcaller : caller = callId
    · subst hcaller
      rw [Function.update_self, Option.some_inj] at hin
      cases call <;> cases hin
    · rw [Function.update_of_ne hcaller] at hin
      exact h.rollback caller page frameId error hin

/-- Calls that move without taking or giving up a frame. -/
theorem relabel (h : Consistent pool pcs slot)
    (hnew : ∀ caller pc, pcs' caller = some pc → ∃ pc₁, pcs caller = some pc₁ ∧
      pc.owned caller = pc₁.owned caller ∧
        ∀ page frameId error, pc = .deleteRollback page frameId error → pc₁ = pc)
    (hold : ∀ caller pc₁, pcs caller = some pc₁ → (pc₁.owned caller).isSome →
      ∃ pc, pcs' caller = some pc ∧ pc.owned caller = pc₁.owned caller) :
    Consistent pool pcs' slot where
  layout := h.layout
  frame := h.frame
  owned := by
    intro caller pc frameId taken hpc howned
    rcases hnew caller pc hpc with ⟨pc₁, hpc₁, heq, -⟩
    rw [heq] at howned
    exact h.owned caller pc₁ frameId taken hpc₁ howned
  owner := by
    intro frameId caller howner
    rcases h.owner frameId caller howner with ⟨pc₁, hpc₁, howned⟩
    rcases hold caller pc₁ hpc₁ (by rw [howned]; rfl) with ⟨pc, hpc, heq⟩
    exact ⟨pc, hpc, heq.trans howned⟩
  rollback := by
    intro caller page frameId error hin
    rcases hnew caller _ hin with ⟨pc₁, hpc₁, -, heq⟩
    rw [heq page frameId error rfl] at hpc₁
    exact h.rollback caller page frameId error hpc₁

end Consistent

/-! ## Pools at rest -/

namespace BufferPoolManager

/-- The page table of a pool at rest tells the truth: it maps exactly the pages that
frames hold, these frames are `Resident`, and all others are free. -/
structure Sound (pool : BufferPoolManager n) : Prop where
  table_iff : ∀ pageId frameId, pool.pageTable pageId = some frameId ↔
    (pool.frames frameId).heldPage = some pageId
  resident : ∀ frameId pageId, (pool.frames frameId).heldPage = some pageId →
    (pool.frames frameId).state = .resident
  free : ∀ frameId, (pool.frames frameId).heldPage = none → (pool.frames frameId).state = .free
  free_nodup : pool.freeFrames.Nodup
  mem_free : ∀ frameId, frameId ∈ pool.freeFrames ↔ (pool.frames frameId).heldPage = none

/-- What a frame of a pool at rest is used for. -/
def restSlot (pool : BufferPoolManager n) (frameId : Fin n) : Slot :=
  match (pool.frames frameId).heldPage with
  | none => .free
  | some pageId => .resident pageId

/-- At rest no frame is taken. -/
theorem owner_restSlot (pool : BufferPoolManager n) (frameId : Fin n) :
    (pool.restSlot frameId).owner = none := by
  unfold restSlot
  cases (pool.frames frameId).heldPage <;> rfl

/-- At rest the page table maps a frame under the page it holds. -/
theorem located_restSlot (pool : BufferPoolManager n) (frameId : Fin n) :
    (pool.restSlot frameId).located = (pool.frames frameId).heldPage := by
  unfold restSlot
  cases (pool.frames frameId).heldPage <;> rfl

/-- At rest no page is on its way. -/
theorem incoming_restSlot (pool : BufferPoolManager n) (frameId : Fin n) :
    (pool.restSlot frameId).incoming = none := by
  unfold restSlot
  cases (pool.frames frameId).heldPage <;> rfl

/-- A pool at rest is consistent when no call has taken a frame. -/
theorem Sound.consistent {pool : BufferPoolManager n} (h : pool.Sound)
    {pcs : CallId → Option (Pc n)}
    (hpcs : ∀ callId pc, pcs callId = some pc → ∃ result, pc = .returned result) :
    Consistent pool pcs pool.restSlot where
  layout :=
    { table_iff := by
        intro pageId frameId
        rw [h.table_iff, located_restSlot]
      free_nodup := h.free_nodup
      mem_free := by
        intro frameId
        rw [h.mem_free, restSlot]
        cases (pool.frames frameId).heldPage <;> simp
      incoming := by
        intro frameId owner pageId hincoming
        rw [incoming_restSlot] at hincoming
        cases hincoming }
  frame := by
    intro frameId
    unfold restSlot
    cases hheld : (pool.frames frameId).heldPage with
    | none => exact ⟨h.free frameId hheld, hheld, trivial⟩
    | some pageId => exact ⟨h.resident frameId pageId hheld, hheld, trivial⟩
  owned := by
    intro callId pc frameId taken hpc howned
    rcases hpcs callId pc hpc with ⟨result, rfl⟩
    cases howned
  owner := by
    intro frameId callId howner
    rw [owner_restSlot] at howner
    cases howner
  rollback := by
    intro callId pageId frameId error hpc
    rcases hpcs callId _ hpc with ⟨result, hresult⟩
    cases hresult

/-- A pool at rest is consistent when there are no calls. -/
theorem Sound.consistent_rest {pool : BufferPoolManager n} (h : pool.Sound) :
    Consistent pool (fun _ => none) pool.restSlot := by
  apply h.consistent
  intro callId pc hpc
  cases hpc

/-- When no call has taken a frame, a consistent pool is at rest. -/
theorem sound_of_consistent {pool : BufferPoolManager n} {pcs : CallId → Option (Pc n)}
    {slot : Fin n → Slot} (h : Consistent pool pcs slot)
    (hpcs : ∀ callId pc, pcs callId = some pc → pc.owned callId = none) : pool.Sound := by
  have howner : ∀ frameId, (slot frameId).owner = none := by
    intro frameId
    cases howner : (slot frameId).owner with
    | none => rfl
    | some callId =>
        rcases h.owner frameId callId howner with ⟨pc, hpc, howned⟩
        rw [hpcs callId pc hpc] at howned
        cases howned
  have hcases : ∀ frameId, slot frameId = .free ∨ ∃ pageId, slot frameId = .resident pageId := by
    intro frameId
    have hnone := howner frameId
    cases hslot : slot frameId <;> simp_all [Slot.owner]
  have hlocated : ∀ frameId, (slot frameId).located = (pool.frames frameId).heldPage := by
    intro frameId
    rw [(h.frame frameId).held_eq]
    rcases hcases frameId with hslot | ⟨pageId, hslot⟩ <;> rw [hslot] <;> rfl
  exact
    { table_iff := by
        intro pageId frameId
        rw [h.layout.table_iff, hlocated]
      resident := by
        intro frameId pageId hheld
        rw [(h.frame frameId).state_eq]
        rw [← hlocated] at hheld
        rcases hcases frameId with hslot | ⟨page, hslot⟩ <;> rw [hslot] at hheld ⊢
        · cases hheld
        · rfl
      free := by
        intro frameId hheld
        rw [(h.frame frameId).state_eq]
        rw [← hlocated] at hheld
        rcases hcases frameId with hslot | ⟨page, hslot⟩ <;> rw [hslot] at hheld ⊢
        · rfl
        · cases hheld
      free_nodup := h.layout.free_nodup
      mem_free := by
        intro frameId
        rw [h.layout.mem_free, ← hlocated]
        rcases hcases frameId with hslot | ⟨page, hslot⟩ <;> rw [hslot] <;> simp [Slot.located] }

/-- A pool without pages is at rest. -/
theorem new_sound (n : Nat) (file : List UInt8) : (new n file).Sound where
  table_iff := fun _ _ => iff_of_false nofun nofun
  resident := nofun
  free := fun _ _ => rfl
  free_nodup := List.nodup_finRange n
  mem_free := fun frameId => iff_of_true (List.mem_finRange frameId) rfl

end BufferPoolManager

end Storage
end TaskPool
