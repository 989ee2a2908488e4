import TaskPool.Storage.BufferPool.Interleaving

/-!
# What a section does to pins

A section pins a page in the table, puts a page into a frame and pins it, publishes a
pinned page, takes a pin back, or leaves all pins alone.

Main results:

- Inductive `PinEffect`: the five kinds of sections.
- Theorem `Effect.pinEffect`: every section without `new_page` is of one of them.
-/

namespace TaskPool
namespace Storage

open BufferPoolManager Library

variable {n : Nat}

/-- The page and the frame that a call has pinned for its client. -/
def Call.pinned : Call → Pc n → Option (PageId × Fin n)
  | .fetchPage pageId, .fetchPublish _ frameId => some (pageId, frameId)
  | .fetchPage pageId, .fetchNotify _ (.ok frameId) => some (pageId, frameId)
  | .fetchPage pageId, .returned (.fetched frameId) => some (pageId, frameId)
  | .newPage, .returned (.allocated pageId frameId) => some (pageId, frameId)
  | _, _ => none

/-- Pinned frames keep their pages and pins, and stay in the table. -/
def KeepsPins (pool pool' : BufferPoolManager n) (slot slot' : Fin n → Slot) : Prop :=
  ∀ frameId pageId, 0 < (pool.frames frameId).pins → (slot frameId).held = some pageId →
    (slot' frameId).held = some pageId ∧
    ((slot frameId).located = some pageId → (slot' frameId).located = some pageId) ∧
    (pool'.frames frameId).pins = (pool.frames frameId).pins

/-- The kinds of sections, with the program counters and the slots they leave behind. -/
inductive PinEffect (callId : CallId) (pool : BufferPoolManager n) (slot : Fin n → Slot) :
    Pc n → Next n → (Fin n → Slot) → Prop
  | hit {pageId missRecorded frameId next} (hslot : slot frameId = .resident pageId)
      (hnext : next.pc = .returned (.fetched frameId))
      (hpins : (next.pool.frames frameId).pins = min 255 ((pool.frames frameId).pins + 1))
      (hothers : ∀ other, other ≠ frameId →
        (next.pool.frames other).pins = (pool.frames other).pins) :
      PinEffect callId pool slot (.fetchStart pageId missRecorded) next slot
  | install {pc pageId frameId next slotAfter} (hfetching : pc.fetching = some pageId)
      (hpc : ∀ call : Call, call.pinned pc = none)
      (hincoming : (slot frameId).incoming = some (callId, pageId))
      (hunpinned : (slot frameId).held = none ∨ (pool.frames frameId).pins = 0)
      (hheld : slotAfter.held = some pageId)
      (hnext : (next.pc = .fetchPublish pageId frameId) ∨
        slotAfter.located = some pageId ∧ ∃ waiter, next.pc = .fetchNotify waiter (.ok frameId))
      (hpins : 0 < (next.pool.frames frameId).pins)
      (hothers : ∀ other, other ≠ frameId →
        (next.pool.frames other).pins = (pool.frames other).pins) :
      PinEffect callId pool slot pc next (Function.update slot frameId slotAfter)
  | publish {pageId frameId next waiter} (hslot : slot frameId = .loaded callId pageId)
      (hnext : next.pc = .fetchNotify waiter (.ok frameId))
      (hpins : ∀ other, (next.pool.frames other).pins = (pool.frames other).pins) :
      PinEffect callId pool slot (.fetchPublish pageId frameId) next
        (Function.update slot frameId (.resident pageId))
  | unpin {pageId frameId next} (hslot : slot frameId = .resident pageId)
      (hpositive : 0 < (pool.frames frameId).pins) (hnext : next.pc = .returned .done)
      (hpins : (next.pool.frames frameId).pins = (pool.frames frameId).pins - 1)
      (hothers : ∀ other, other ≠ frameId →
        (next.pool.frames other).pins = (pool.frames other).pins) :
      PinEffect callId pool slot (.unpinStart pageId) next slot
  | rest {pc next slot'} (hpinned : ∀ call : Call, call.pinned next.pc = call.pinned pc)
      (hpublish : ∀ pageId frameId, pc ≠ .fetchPublish pageId frameId)
      (hunpin : ∀ pageId, pc = .unpinStart pageId → ∃ error, next.pc = .returned (.failed error))
      (hkeeps : KeepsPins pool next.pool slot slot') : PinEffect callId pool slot pc next slot'

namespace KeepsPins

variable {pool pool' : BufferPoolManager n} {slot : Fin n → Slot} {frames : Fin n → Frame}
  {frameId : Fin n} {frame : Frame} {slotAfter : Slot}

/-- A section that changes no use of a frame and no pin count. -/
theorem of_pins_eq (hpins : ∀ other, (pool'.frames other).pins = (pool.frames other).pins) :
    KeepsPins pool pool' slot slot :=
  fun other _ _ hheld => ⟨hheld, id, hpins other⟩

/-- A section that changes one frame, which is not pinned. -/
theorem of_unpinned (hframes : pool'.frames = Function.update frames frameId frame)
    (hsame : ∀ other, Frame.SameButReference (pool.frames other) (frames other))
    (hunpinned : (slot frameId).held = none ∨ (pool.frames frameId).pins = 0) :
    KeepsPins pool pool' slot (Function.update slot frameId slotAfter) := by
  intro other pageId hpositive hheld
  have hother : other ≠ frameId := by
    rintro rfl
    rcases hunpinned with hnone | hzero
    · rw [hheld] at hnone
      cases hnone
    · exact absurd hzero hpositive.ne'
  rw [Function.update_of_ne hother, hframes, Function.update_of_ne hother]
  exact ⟨hheld, id, (hsame other).pins_eq⟩

/-- A section that changes one frame, which keeps its page and its pins. -/
theorem of_kept (hframes : pool'.frames = Function.update pool.frames frameId frame)
    (hpins : frame.pins = (pool.frames frameId).pins) (hheld : slotAfter.held = (slot frameId).held)
    (hlocated : slotAfter.located = (slot frameId).located) :
    KeepsPins pool pool' slot (Function.update slot frameId slotAfter) := by
  intro other pageId hpositive hother
  rw [hframes]
  by_cases hid : other = frameId
  · subst hid
    rw [Function.update_self, Function.update_self, hheld, hlocated]
    exact ⟨hother, id, hpins⟩
  · rw [Function.update_of_ne hid, Function.update_of_ne hid]
    exact ⟨hother, id, rfl⟩

end KeepsPins

/-- Sections in which a call may have pinned a frame. -/
def Pc.mayPin : Pc n → Bool
  | .fetchPublish _ _ => true
  | .fetchNotify _ (.ok _) => true
  | .returned (.fetched _) => true
  | .returned (.allocated _ _) => true
  | _ => false

/-- A call that may not pin has no pin. -/
theorem Call.pinned_eq_none {pc : Pc n} (h : pc.mayPin = false) (call : Call) :
    call.pinned pc = none := by
  unfold Call.pinned
  split <;> first
    | rfl
    | cases h

/-- A call has a pin of one page at a time. -/
theorem Call.pinned_ne {call : Call} {pc : Pc n} {page pageId : PageId} {frame : Fin n}
    (h : call.pinned pc = some (page, frame)) (hpage : pageId ≠ page) (other : Fin n) :
    call.pinned pc ≠ some (pageId, other) := by
  intro hnew
  rw [h, Option.some_inj, Prod.mk.injEq] at hnew
  exact hpage hnew.1.symm

namespace PinEffect

variable {pool : BufferPoolManager n} {slot slot' : Fin n → Slot} {callId : CallId} {pc : Pc n}
  {next : Next n}

/-- A section without pins before and after it. -/
theorem quiet (hpc : pc.mayPin = false) (hnext : next.pc.mayPin = false)
    (hunpin : ∀ pageId, pc ≠ .unpinStart pageId) (hkeeps : KeepsPins pool next.pool slot slot') :
    PinEffect callId pool slot pc next slot' := by
  refine .rest ?_ ?_ ?_ hkeeps
  · intro call
    rw [Call.pinned_eq_none hnext, Call.pinned_eq_none hpc]
  · intro pageId frameId hpublish
    rw [hpublish] at hpc
    cases hpc
  · intro pageId hstart
    exact absurd hstart (hunpin pageId)

end PinEffect

namespace BufferPoolManager

/-! ### Pin counts after one frame has changed -/

/-- A frame that is set has its own pins. -/
theorem pins_setFrame_self (pool : BufferPoolManager n) (frameId : Fin n) (frame : Frame) :
    ((pool.setFrame frameId frame).frames frameId).pins = frame.pins :=
  congrArg Frame.pins (Function.update_self ..)

/-- The pins of the other frames stay. -/
theorem pins_setFrame_of_ne (pool : BufferPoolManager n) {frameId other : Fin n}
    (h : other ≠ frameId) (frame : Frame) :
    ((pool.setFrame frameId frame).frames other).pins = (pool.frames other).pins :=
  congrArg Frame.pins (Function.update_of_ne h ..)

/-- A frame that changes without its pins. -/
theorem pins_setFrame (pool : BufferPoolManager n) {frameId : Fin n} {frame : Frame}
    (h : frame.pins = (pool.frames frameId).pins) (other : Fin n) :
    ((pool.setFrame frameId frame).frames other).pins = (pool.frames other).pins := by
  by_cases hother : other = frameId
  · rw [hother, pins_setFrame_self, h]
  · exact pins_setFrame_of_ne pool hother frame

end BufferPoolManager

/-- The pins of a frame are what its slot allows. -/
theorem Consistent.pins_ok_of_slot {pool : BufferPoolManager n} {pcs : CallId → Option (Pc n)}
    {slot : Fin n → Slot} (h : Consistent pool pcs slot) {frameId : Fin n} {taken : Slot}
    (hslot : slot frameId = taken) : taken.PinsOk (pool.frames frameId).pins := by
  rw [← hslot]
  exact (h.frame frameId).pins_ok

namespace Effect

variable {pool : BufferPoolManager n} {pcs : CallId → Option (Pc n)} {slot slot' : Fin n → Slot}
  {callId : CallId} {pc : Pc n} {io : Io} {next : Next n}

/-- Without `new_page` and disk failures, every section does one of these to pins. -/
theorem pinEffect (heffect : Effect callId pool slot pc io next slot')
    (h : Consistent pool pcs slot) (hpc : pcs callId = some pc) (hplain : pc.Plain) :
    PinEffect callId pool slot pc next slot' := by
  cases heffect with
  | fetchWait htable hreserved => exact .quiet rfl rfl nofun (.of_pins_eq fun _ => rfl)
  | fetchHit hslot =>
      refine .hit hslot rfl ?_ fun other hother => pins_setFrame_of_ne _ hother _
      refine (pins_setFrame_self _ _ _).trans (Frame.pins_touched ?_)
      exact Frame.metadata_ne_none (h.heldPage_of_slot hslot)
  | @fetchJoin _ missRecorded _ htable hload =>
      rcases recordMissOnce_eq pool missRecorded with ⟨metrics, hmetrics⟩
      exact .quiet rfl rfl nofun (.of_pins_eq fun _ => by rw [hmetrics])
  | @fetchTake _ missRecorded frameId _ htable hload hfree =>
      rcases recordMissOnce_eq pool missRecorded with ⟨metrics, hmetrics⟩
      have hslot := (h.layout.mem_free frameId).mp (hfree ▸ List.mem_cons_self)
      rw [hmetrics]
      exact .quiet rfl rfl nofun (.of_unpinned rfl (fun _ => Frame.SameButReference.refl _)
        (.inl (by rw [hslot]; rfl)))
  | fetchSleep htable hload hframes =>
      exact .quiet rfl rfl nofun (.of_pins_eq fun other => (hframes other).pins_eq)
  | fetchGiveUp htable hload hframes =>
      exact .quiet rfl rfl nofun (.of_pins_eq fun other => (hframes other).pins_eq)
  | fetchVictim htable hload hframes hslot hpins =>
      refine .quiet rfl ?_ nofun (.of_unpinned rfl hframes (.inr hpins))
      dsimp only
      split_ifs <;> rfl
  | @load pageId frameId buffer =>
      have hslot := h.owned _ _ _ _ hpc rfl
      refine .install rfl (Call.pinned_eq_none rfl) (by rw [hslot]; rfl) (.inl (by rw [hslot]; rfl))
        rfl (.inl rfl) ?_ fun other hother => pins_setFrame_of_ne _ hother _
      rw [pins_setFrame_self]
      exact Nat.one_pos
  | publish => exact .publish (h.owned _ _ _ _ hpc rfl) rfl fun _ => rfl
  | giveBack =>
      have hslot := h.owned _ _ _ _ hpc rfl
      exact .quiet rfl rfl nofun (.of_unpinned rfl (fun _ => Frame.SameButReference.refl _)
        (.inl (by rw [hslot]; rfl)))
  | commit =>
      have hslot := h.owned _ _ _ _ hpc rfl
      have hpins := h.pins_ok_of_slot hslot
      refine .install rfl (Call.pinned_eq_none rfl) (by rw [hslot]; rfl) (.inr hpins) rfl
        (.inr ⟨rfl, _, rfl⟩) ?_ fun other hother => pins_setFrame_of_ne _ hother _
      exact (pins_setFrame_self pool _ _).symm ▸ Nat.one_pos
  | restore =>
      have hslot := h.owned _ _ _ _ hpc rfl
      have hpins := h.pins_ok_of_slot hslot
      exact .quiet rfl rfl nofun (.of_unpinned rfl (fun _ => Frame.SameButReference.refl _)
        (.inr hpins))
  | @notify waiter result =>
      refine .rest ?_ nofun nofun (.of_pins_eq fun _ => rfl)
      intro call
      cases call <;> cases result <;> rfl
  | unpinFail =>
      refine .rest ?_ nofun ?_ (.of_pins_eq fun _ => rfl)
      · exact fun call => (Call.pinned_eq_none rfl call).trans (Call.pinned_eq_none rfl call).symm
      · exact fun _ _ => ⟨_, rfl⟩
  | unpin hslot hpositive =>
      refine .unpin hslot hpositive rfl ?_ fun other hother => pins_setFrame_of_ne _ hother _
      exact (pins_setFrame_self pool _ _).trans (Frame.pins_unpinned hpositive)
  | markDirty hslot =>
      exact .quiet rfl rfl nofun
        (.of_pins_eq (pins_setFrame pool (Frame.pins_withDirty _ true)))
  | flushClean hslot => exact .quiet rfl rfl nofun (.of_pins_eq (pins_setFrame pool rfl))
  | flushTake hslot hdirty =>
      exact .quiet rfl rfl nofun (.of_kept rfl rfl (by rw [hslot]; rfl) (by rw [hslot]; rfl))
  | deleteClean hslot hpins hclean =>
      exact .quiet rfl rfl nofun (.of_unpinned (Function.update_idem ..)
        (fun _ => Frame.SameButReference.refl _) (.inr hpins))
  | deleteTake hslot hpins hdirty =>
      exact .quiet rfl rfl nofun (.of_unpinned rfl (fun _ => Frame.SameButReference.refl _)
        (.inr hpins))
  | @checkClean _ _ caller hclean =>
      cases caller <;> exact .quiet rfl rfl nofun (.of_pins_eq fun _ => rfl)
  | @flushDone _ _ caller =>
      cases caller <;>
        exact .quiet rfl rfl nofun (.of_pins_eq (pins_setFrame pool (Frame.pins_withDirty _ false)))
  -- sections of `new_page` and rollbacks
  | flushUndo | deleteUndo | newFail | newGiveUp | newTake | newVictim | newWriteOk | newWriteFail
  | newUndo | newCommit | newCollide => exact absurd hplain id
  | flushRelease =>
      have hslot := h.owned _ _ _ _ hpc rfl
      exact .quiet rfl rfl nofun (.of_kept rfl rfl (by rw [hslot]; rfl) (by rw [hslot]; rfl))
  | deleteDone =>
      have hslot := h.owned _ _ _ _ hpc rfl
      have hpins := h.pins_ok_of_slot hslot
      exact .quiet rfl rfl nofun (.of_unpinned rfl (fun _ => Frame.SameButReference.refl _)
        (.inr hpins))
  | _ => exact .quiet rfl rfl nofun (.of_pins_eq fun _ => rfl)

end Effect

/-- No section leads back to the start of an `unpin_page`. -/
theorem Effect.next_ne_unpinStart {pool : BufferPoolManager n} {slot slot' : Fin n → Slot}
    {callId : CallId} {pc : Pc n} {io : Io} {next : Next n}
    (heffect : Effect callId pool slot pc io next slot') (pageId : PageId) :
    next.pc ≠ .unpinStart pageId := by
  intro h
  cases heffect with
  | fetchVictim =>
      dsimp only at h
      split_ifs at h
  | @checkClean _ _ caller _ => cases caller <;> cases h
  | @flushDone _ _ caller => cases caller <;> cases h
  | @flushUndo _ _ caller _ => cases caller <;> cases h
  | newVictim =>
      dsimp only at h
      split_ifs at h
  | _ => cases h

namespace PinEffect

variable {pool : BufferPoolManager n} {slot slot' : Fin n → Slot} {callId : CallId} {pc : Pc n}
  {next : Next n}

/-- A call keeps its pin. -/
theorem pinned_or (heffect : PinEffect callId pool slot pc next slot') {call : Call}
    (hfetching : ∀ pageId, pc.fetching = some pageId → call = .fetchPage pageId) :
    call.pinned pc = none ∨ call.pinned next.pc = call.pinned pc := by
  cases heffect with
  | hit => exact .inl (Call.pinned_eq_none rfl call)
  | install _ hpc => exact .inl (hpc call)
  | publish hslot hnext =>
      right
      rw [hfetching _ rfl, hnext]
      rfl
  | unpin => exact .inl (Call.pinned_eq_none rfl call)
  | rest hpinned => exact .inr (hpinned call)

/-- An `unpin_page` is a single section. -/
theorem returned_of_unpinStart {pageId : PageId}
    (heffect : PinEffect callId pool slot (.unpinStart pageId) next slot') :
    ∃ result, next.pc = .returned result := by
  cases heffect with
  | install hfetching => cases hfetching
  | unpin _ _ hnext => exact ⟨_, hnext⟩
  | rest _ _ hunpin =>
      rcases hunpin _ rfl with ⟨error, hnext⟩
      exact ⟨_, hnext⟩

end PinEffect

end Storage
end TaskPool
