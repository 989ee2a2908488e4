import TaskPool.Storage.BufferPool.Interleaving

/-!
# Allocating page identifiers

`new_page` reads `next_page_id` in its first section.  With a free frame the same
section also advances it; without one a later section sets it to the identifier read
plus one, whatever it has become in between.

Main results:

- Theorem `advance_ids`: the sections that touch `next_page_id` and return identifiers.
- Theorem `new_page_repeats_id`: two calls return the same identifier, and
  `next_page_id` decreases.
- Theorem `ids_grow_iff`: identifiers are unique and `next_page_id` never decreases
  exactly in the runs in which every commit finds the identifier it has read.
-/

namespace TaskPool
namespace Storage

open BufferPoolManager Library

variable {n : Nat}

/-- The identifier that a `new_page` has read or returned. -/
def Pc.allocation : Pc n → Option PageId
  | .newWrite newPageId _ _ _ => some newPageId
  | .newRollback newPageId _ _ _ => some newPageId
  | .newCommit newPageId _ _ => some newPageId
  | .returned (.allocated newPageId _) => some newPageId
  | _ => none

namespace BufferPoolManager

/-- The section touches no identifier. -/
def KeepsIds (pool : BufferPoolManager n) (next : Next n) : Prop :=
  next.pool.nextPageId = pool.nextPageId ∧ next.pc.allocation = none

variable {pool pool' : BufferPoolManager n} {pageId : PageId} {frameId : Fin n} {callId : CallId}

/-! ## Sections that touch no identifier -/

/-- Reserving a victim touches no identifier. -/
theorem keepsIds_reserveVictim {whenDirty : PageId → Buffer pageSize → Pc n}
    {whenClean : PageId → Pc n} (hdirty : ∀ page data, (whenDirty page data).allocation = none)
    (hclean : ∀ page, (whenClean page).allocation = none)
    (hpool : pool'.nextPageId = pool.nextPageId) :
    KeepsIds pool (pool'.reserveVictim frameId whenDirty whenClean) := by
  unfold reserveVictim
  cases (pool'.frames frameId).reserve with
  | error e => exact ⟨hpool, rfl⟩
  | ok frame =>
      dsimp only
      cases frame.getPageId with
      | error e => exact ⟨hpool, rfl⟩
      | ok oldPageId =>
          dsimp only
          split_ifs
          · exact ⟨hpool, hdirty oldPageId frame.data⟩
          · exact ⟨hpool, hclean oldPageId⟩

/-- The search of a fetch for a victim touches no identifier. -/
theorem keepsIds_fetchEvict (hpool : pool'.nextPageId = pool.nextPageId) :
    KeepsIds pool (pool'.fetchEvict pageId) := by
  unfold fetchEvict
  cases pool'.clockReplacer.findVictim pool'.frames with
  | error e => exact ⟨hpool, rfl⟩
  | ok found =>
      rcases found with ⟨_ | victim, clock, frames⟩
      · dsimp only
        split_ifs <;> exact ⟨hpool, rfl⟩
      · exact keepsIds_reserveVictim (fun _ _ => rfl) (fun _ => rfl) hpool

/-- The decision of a fetch touches no identifier. -/
theorem keepsIds_fetchDecide {missRecorded : Bool} :
    KeepsIds pool (pool.fetchDecide callId pageId missRecorded) := by
  unfold fetchDecide
  cases pool.pageTable pageId with
  | some frameId =>
      dsimp only
      unfold fetchHit
      split_ifs
      · exact ⟨rfl, rfl⟩
      · dsimp only
        split
        · exact ⟨rfl, rfl⟩
        · split <;> exact ⟨rfl, rfl⟩
  | none =>
      rcases recordMissOnce_eq pool missRecorded with ⟨metrics, hmetrics⟩
      dsimp only
      rw [hmetrics]
      unfold fetchMiss
      cases pool.inFlightLoads pageId with
      | some waiter => exact ⟨rfl, rfl⟩
      | none =>
          dsimp only [insertLoad]
          cases pool.freeFrames with
          | nil => exact keepsIds_fetchEvict rfl
          | cons freeFrame rest =>
              dsimp only
              cases (pool.frames freeFrame).reserve <;> exact ⟨rfl, rfl⟩

/-- Loading a page touches no identifier. -/
theorem keepsIds_fetchLoad {buffer : Buffer pageSize} :
    KeepsIds pool (pool.fetchLoad pageId frameId buffer) := by
  unfold fetchLoad
  rw [Frame.loadPage_bytes]
  exact ⟨rfl, rfl⟩

/-- The commit of an eviction touches no identifier. -/
theorem keepsIds_evictCommit {victim : Fin n} {oldPageId : PageId} {buffer : Buffer pageSize} :
    KeepsIds pool (pool.evictCommit pageId victim oldPageId buffer) := by
  unfold evictCommit
  rw [Frame.loadPage_bytes]
  dsimp only [Frame.pin, Frame.updateMeta, Frame.markReferenced, setFrame]
  cases pool.pageTable.replace oldPageId pageId victim <;> exact ⟨rfl, rfl⟩

/-- Unpinning a page and marking it dirty touch no identifier. -/
theorem keepsIds_changeResident {change : Frame → Except IoError Frame} :
    KeepsIds pool (pool.changeResident pageId change) := by
  unfold changeResident
  cases pool.pageTable pageId with
  | none => exact ⟨rfl, rfl⟩
  | some frameId =>
      dsimp only
      split_ifs
      · exact ⟨rfl, rfl⟩
      · cases change (pool.frames frameId) <;> exact ⟨rfl, rfl⟩

/-- Returning from a flush touches no identifier. -/
theorem keepsIds_flushReturn {caller : FlushCaller} {result : Except BufferPoolError Unit}
    (hpool : pool'.nextPageId = pool.nextPageId) :
    KeepsIds pool (pool'.flushReturn pageId frameId caller result) := by
  cases caller <;> cases result <;> exact ⟨hpool, rfl⟩

/-- The start of a flush touches no identifier. -/
theorem keepsIds_flushPage : KeepsIds pool (pool.flushPage pageId) := by
  unfold flushPage
  cases pool.pageTable pageId with
  | none => exact ⟨rfl, rfl⟩
  | some frameId =>
      dsimp only
      split_ifs
      · exact ⟨rfl, rfl⟩
      · cases (pool.frames frameId).reserve with
        | error e => exact ⟨rfl, rfl⟩
        | ok frame =>
            dsimp only
            split_ifs <;> exact ⟨rfl, rfl⟩

/-- Looking at a reserved frame touches no identifier. -/
theorem keepsIds_flushCheck {caller : FlushCaller} :
    KeepsIds pool (pool.flushCheck pageId frameId caller) := by
  unfold flushCheck
  dsimp only
  split_ifs
  · exact keepsIds_flushReturn rfl
  · cases (pool.frames frameId).getPageId with
    | error e => exact keepsIds_flushReturn rfl
    | ok dirtyPageId => exact ⟨rfl, rfl⟩
  · exact keepsIds_flushReturn rfl

/-- The end of a flush touches no identifier. -/
theorem keepsIds_flushFinish {written : Except IoError Unit} {caller : FlushCaller} :
    KeepsIds pool (pool.flushFinish pageId frameId written caller) := by
  unfold flushFinish
  cases written with
  | error e => exact keepsIds_flushReturn rfl
  | ok _ =>
      dsimp only
      cases (pool.frames frameId).clearDirty <;> exact keepsIds_flushReturn rfl

/-- The start of a deletion touches no identifier. -/
theorem keepsIds_deletePage : KeepsIds pool (pool.deletePage pageId) := by
  unfold deletePage
  cases pool.pageTable pageId with
  | none => exact ⟨rfl, rfl⟩
  | some frameId =>
      dsimp only
      split_ifs
      · cases (pool.frames frameId).reserve with
        | error e => exact ⟨rfl, rfl⟩
        | ok frame =>
            dsimp only
            split_ifs <;> exact ⟨rfl, rfl⟩
      · exact ⟨rfl, rfl⟩

/-! ## All sections -/

/-- What a section does to identifiers: nothing; or it reads one, passes one on, takes
one with a free frame, or takes the one read before. -/
inductive IdEffect (pool : BufferPoolManager n) : Pc n → Next n → Prop
  | keep {pc next} (hkeeps : KeepsIds pool next) : IdEffect pool pc next
  | read {next} (hlt : pool.nextPageId < 65535) (hpool : next.pool.nextPageId = pool.nextPageId)
      (hpc : next.pc.allocation = some pool.nextPageId)
      (hrunning : ∀ result, next.pc ≠ .returned result) : IdEffect pool .newStart next
  | pass {pc next} (hpool : next.pool.nextPageId = pool.nextPageId)
      (hpc : next.pc.allocation = pc.allocation)
      (hrunning : ∀ result, pc ≠ .returned result ∧ next.pc ≠ .returned result) :
      IdEffect pool pc next
  | take {frameId next} (hlt : pool.nextPageId < 65535)
      (hpool : next.pool.nextPageId = pool.nextPageId + 1)
      (hpc : next.pc = .returned (.allocated pool.nextPageId frameId)) :
      IdEffect pool .newStart next
  | commit {newPageId victim oldPageId table next}
      (hreplace : pool.pageTable.replace oldPageId newPageId victim = .ok table)
      (hpool : next.pool.nextPageId = newPageId + 1)
      (hpc : next.pc = .returned (.allocated newPageId victim)) :
      IdEffect pool (.newCommit newPageId victim oldPageId) next

/-- The decision of `new_page` takes the next identifier, reads it for later, or fails. -/
theorem newPage_ids (pool : BufferPoolManager n) : IdEffect pool .newStart pool.newPage := by
  unfold newPage
  by_cases hnext : pool.nextPageId ≥ 65535
  · simp only [hnext, if_true]
    exact .keep ⟨rfl, rfl⟩
  have hlt : pool.nextPageId < 65535 := UInt16.not_le.mp hnext
  simp only [hnext, if_false]
  cases pool.freeFrames with
  | cons frameId rest =>
      simp only [loadNew_eq_ok]
      exact .take hlt rfl rfl
  | nil =>
      dsimp only
      cases pool.clockReplacer.findVictim pool.frames with
      | error e => exact .keep ⟨rfl, rfl⟩
      | ok found =>
          rcases found with ⟨_ | victim, clock, frames⟩
          · exact .keep ⟨rfl, rfl⟩
          dsimp only
          unfold reserveVictim
          cases (frames victim).reserve with
          | error e => exact .keep ⟨rfl, rfl⟩
          | ok frame =>
              dsimp only
              cases frame.getPageId with
              | error e => exact .keep ⟨rfl, rfl⟩
              | ok oldPageId =>
                  dsimp only
                  split_ifs <;> exact .read hlt rfl rfl nofun

/-- The commit of `new_page` takes the identifier it has read before, whatever the next one is
by now. -/
theorem newCommit_ids (pool : BufferPoolManager n) (newPageId : PageId) (victim : Fin n)
    (oldPageId : PageId) :
    IdEffect pool (.newCommit newPageId victim oldPageId)
      (pool.newCommit newPageId victim oldPageId) := by
  unfold newCommit
  rw [loadNew_eq_ok]
  dsimp only [setFrame]
  cases hreplace : pool.pageTable.replace oldPageId newPageId victim with
  | error e => exact .keep ⟨rfl, rfl⟩
  | ok table => exact .commit hreplace rfl rfl

/-- Every section does one of these to identifiers. -/
theorem advance_ids {pc : Pc n} {io : Io} {next : Next n}
    (h : pool.advance callId pc io = some next) : IdEffect pool pc next := by
  cases pc with
  | fetchStart => cases io <;> cases h; exact .keep keepsIds_fetchDecide
  | fetchWaitState => cases io <;> cases h; exact .keep ⟨rfl, rfl⟩
  | fetchCheckLoad =>
      cases io <;> simp only [advance, reduceCtorEq] at h
      split_ifs at h <;> cases h <;> exact .keep ⟨rfl, rfl⟩
  | fetchWaitLoad => cases io <;> cases h; exact .keep ⟨rfl, rfl⟩
  | fetchRead =>
      rcases io with _ | outcome | outcome | _ <;> cases h
      cases outcome <;> exact .keep ⟨rfl, rfl⟩
  | fetchLoad => cases io <;> cases h; exact .keep keepsIds_fetchLoad
  | fetchPublish => cases io <;> cases h; exact .keep ⟨rfl, rfl⟩
  | fetchReadFailed => cases io <;> cases h; exact .keep ⟨rfl, rfl⟩
  | evictWrite =>
      rcases io with _ | outcome | outcome | _ <;> cases h
      cases outcome <;> exact .keep ⟨rfl, rfl⟩
  | evictRead =>
      rcases io with _ | outcome | outcome | _ <;> cases h
      cases outcome <;> exact .keep ⟨rfl, rfl⟩
  | evictCommit => cases io <;> cases h; exact .keep keepsIds_evictCommit
  | evictFailed => cases io <;> cases h; exact .keep ⟨rfl, rfl⟩
  | fetchNotify waiter result =>
      cases io <;> cases h
      cases result <;> exact .keep ⟨rfl, rfl⟩
  | unpinStart => cases io <;> cases h; exact .keep keepsIds_changeResident
  | markDirtyStart => cases io <;> cases h; exact .keep keepsIds_changeResident
  | flushStart => cases io <;> cases h; exact .keep keepsIds_flushPage
  | deleteStart => cases io <;> cases h; exact .keep keepsIds_deletePage
  | flushCheck => cases io <;> cases h; exact .keep keepsIds_flushCheck
  | flushWrite => cases io <;> cases h; exact .keep ⟨rfl, rfl⟩
  | flushFinish => cases io <;> cases h; exact .keep keepsIds_flushFinish
  | flushRelease => cases io <;> cases h; exact .keep ⟨rfl, rfl⟩
  | deleteRollback => cases io <;> cases h; exact .keep ⟨rfl, rfl⟩
  | deleteFinish => cases io <;> cases h; exact .keep ⟨rfl, rfl⟩
  | newStart => cases io <;> cases h; exact newPage_ids pool
  | newWrite newPageId victim oldPageId oldData =>
      rcases io with _ | outcome | outcome | _ <;> cases h
      cases outcome <;> exact .pass rfl rfl fun _ => ⟨by rintro ⟨⟩, by rintro ⟨⟩⟩
  | newRollback => cases io <;> cases h; exact .keep ⟨rfl, rfl⟩
  | newCommit newPageId victim oldPageId =>
      cases io <;> simp only [advance, Option.some_inj, reduceCtorEq] at h
      rw [← h]
      exact newCommit_ids pool newPageId victim oldPageId
  | returned result => cases io <;> cases h

end BufferPoolManager

/-! ## Identifiers along a run -/

/-- Signals carry no identifier. -/
theorem Pc.allocation_receive (signal : Signal) (pc : Pc n) :
    (pc.receive signal).allocation = pc.allocation := by
  cases pc <;> rfl

/-- A call starts without an identifier. -/
theorem Call.allocation_entry (call : Call) : (call.entry : Pc n).allocation = none := by
  cases call <;> rfl

namespace System

/-- A `new_page` has returned the identifier. -/
def Allocated (s : System n) (callId : CallId) (pageId : PageId) : Prop :=
  ∃ frameId, s.pcs callId = some (.returned (.allocated pageId frameId))

/-- No two calls have returned the same identifier. -/
def UniqueIds (s : System n) : Prop :=
  ∀ callId caller pageId, s.Allocated callId pageId → s.Allocated caller pageId → callId = caller

/-- `next_page_id` does not decrease, and no identifier has been returned twice. -/
def IdsGrow (s : System n) (_ : Event) (s' : System n) : Prop :=
  s.pool.nextPageId ≤ s'.pool.nextPageId ∧ s'.UniqueIds

/-- A `new_page` that commits an eviction finds in `next_page_id` the identifier it
has read. -/
def CommitsCurrent (s : System n) : Event → System n → Prop
  | .proceed callId _, _ =>
    match s.pcs callId with
    | some (.newCommit newPageId victim oldPageId) =>
      (s.pool.pageTable.replace oldPageId newPageId victim).isOk → s.pool.nextPageId = newPageId
    | _ => True
  | .start _ _ _, _ => True

instance (s : System n) (e : Event) (s' : System n) : Decidable (s.CommitsCurrent e s') := by
  unfold CommitsCurrent
  split
  · split <;> infer_instance
  · infer_instance

/-- The invariant: the identifiers below `next_page_id` are those that have been
returned, once each, and no call has read a later one. -/
structure Counting (s : System n) : Prop where
  lt_nextCall : ∀ callId pc, s.pcs callId = some pc → callId < s.nextCall
  read : ∀ callId pc pageId, s.pcs callId = some pc → pc.allocation = some pageId →
    (∀ result, pc ≠ .returned result) → pageId ≤ s.pool.nextPageId ∧ pageId < 65535
  allocated_iff : ∀ pageId, (∃ callId, s.Allocated callId pageId) ↔ pageId < s.pool.nextPageId
  unique : s.UniqueIds

/-- A new pool has returned no identifier. -/
theorem new_counting (n : Nat) (file : List UInt8) : (System.new n file).Counting where
  lt_nextCall := by
    intro callId pc hpc
    cases hpc
  read := by
    intro callId pc pageId hpc
    cases hpc
  allocated_iff := by
    intro pageId
    refine iff_of_false ?_ UInt16.not_lt_zero
    rintro ⟨callId, frameId, hpc⟩
    cases hpc
  unique := by
    rintro callId caller pageId ⟨frameId, hpc⟩
    cases hpc

variable {s : System n} {callId caller : CallId} {activity : Activity n} {next : Next n}
  {pageId : PageId}

/-- A start returns no identifier. -/
theorem allocated_launch (h : s.Counting) {client : Nat} {call : Call}
    {releases : Option CallId} :
    (s.launch client call releases).Allocated caller pageId ↔ s.Allocated caller pageId := by
  unfold Allocated
  rw [pcs_launch]
  by_cases hcaller : caller = s.nextCall
  · subst hcaller
    rw [Function.update_self]
    refine iff_of_false ?_ ?_
    · rintro ⟨frameId, hpc⟩
      cases call <;> cases hpc
    · rintro ⟨frameId, hpc⟩
      exact absurd (h.lt_nextCall _ _ hpc) (Nat.lt_irrefl _)
  · rw [Function.update_of_ne hcaller]

/-- A start keeps the invariant. -/
theorem Counting.launch (h : s.Counting) (client : Nat) (call : Call) (releases : Option CallId) :
    (s.launch client call releases).Counting where
  lt_nextCall := Numbered.launch h.lt_nextCall client call releases
  read := by
    intro caller pc pageId hpc hid hrunning
    rcases record_eq s.pool call with ⟨metrics, hmetrics⟩
    rw [System.launch, hmetrics]
    rcases pcs_launch_cases hpc with ⟨-, rfl⟩ | ⟨-, hpc⟩
    · rw [Call.allocation_entry] at hid
      cases hid
    · exact h.read caller pc pageId hpc hid hrunning
  allocated_iff := by
    intro pageId
    rcases record_eq s.pool call with ⟨metrics, hmetrics⟩
    simp only [allocated_launch h]
    rw [h.allocated_iff, System.launch, hmetrics]
  unique := by
    intro caller caller' pageId hcaller hcaller'
    rw [allocated_launch h] at hcaller hcaller'
    exact h.unique caller caller' pageId hcaller hcaller'

/-- The identifiers returned after a section: those before it, and the one it returns. -/
theorem allocated_resume (hactivity : s.calls callId = some activity)
    (hreturned : ∀ result, activity.pc ≠ .returned result) :
    (s.resume callId activity next).Allocated caller pageId ↔
      s.Allocated caller pageId ∨
        caller = callId ∧ ∃ frameId, next.pc = .returned (.allocated pageId frameId) := by
  constructor
  · rintro ⟨frameId, hpc⟩
    rcases pcs_resume_cases hpc with ⟨rfl, heq⟩ | ⟨-, before, hbefore, heq⟩
    · exact .inr ⟨rfl, frameId, Pc.receive_eq_returned.mp heq.symm⟩
    · rw [Pc.receive_eq_returned.mp heq.symm] at hbefore
      exact .inl ⟨frameId, hbefore⟩
  · rintro (⟨frameId, hpc⟩ | ⟨rfl, frameId, hpc⟩)
    · have hcaller : caller ≠ callId := by
        rintro rfl
        rw [pcs_eq_some hactivity, Option.some_inj] at hpc
        exact hreturned _ hpc
      refine ⟨frameId, ?_⟩
      rw [pcs_resume, Function.update_of_ne hcaller, hpc]
      rfl
    · refine ⟨frameId, ?_⟩
      rw [pcs_resume, Function.update_self, hpc]
      rfl

/-- A section that returns no identifier and leaves `next_page_id` alone. -/
theorem Counting.resume_of_eq (h : s.Counting) (hactivity : s.calls callId = some activity)
    (hreturned : ∀ result, activity.pc ≠ .returned result)
    (hpool : next.pool.nextPageId = s.pool.nextPageId)
    (hnone : ∀ page frameId, next.pc ≠ .returned (.allocated page frameId))
    (hread : ∀ page, next.pc.allocation = some page → (∀ result, next.pc ≠ .returned result) →
      page ≤ s.pool.nextPageId ∧ page < 65535) :
    (s.resume callId activity next).Counting where
  lt_nextCall := Numbered.resume h.lt_nextCall hactivity next
  read := by
    intro caller pc page hpc hid hrunning
    rw [System.resume, hpool]
    rcases pcs_resume_cases hpc with ⟨-, rfl⟩ | ⟨-, before, hbefore, rfl⟩
    · rw [Pc.allocation_receive] at hid
      exact hread page hid fun result hresult => hrunning result (Pc.receive_eq_returned.mpr hresult)
    · rw [Pc.allocation_receive] at hid
      exact h.read caller before page hbefore hid
        fun result hresult => hrunning result (Pc.receive_eq_returned.mpr hresult)
  allocated_iff := by
    intro page
    simp only [allocated_resume hactivity hreturned, hnone, exists_false, and_false, or_false]
    rw [h.allocated_iff, System.resume, hpool]
  unique := by
    intro caller caller' page hcaller hcaller'
    simp only [allocated_resume hactivity hreturned, hnone, exists_false, and_false,
      or_false] at hcaller hcaller'
    exact h.unique caller caller' page hcaller hcaller'

/-- A section that returns the current identifier and advances `next_page_id`. -/
theorem Counting.resume_of_succ (h : s.Counting) (hactivity : s.calls callId = some activity)
    (hreturned : ∀ result, activity.pc ≠ .returned result) (hlt : s.pool.nextPageId < 65535)
    (hpool : next.pool.nextPageId = s.pool.nextPageId + 1) {frameId : Fin n}
    (hpc : next.pc = .returned (.allocated s.pool.nextPageId frameId)) :
    (s.resume callId activity next).Counting := by
  have hsucc := PageId.toNat_succ hlt
  have hallocated : ∀ caller page, (s.resume callId activity next).Allocated caller page ↔
      s.Allocated caller page ∨ caller = callId ∧ page = s.pool.nextPageId := by
    intro caller page
    rw [allocated_resume hactivity hreturned]
    simp only [hpc, Pc.returned.injEq, CallResult.allocated.injEq, exists_and_left, exists_eq',
      and_true, eq_comm]
  -- the identifier has not been returned before
  have hfresh : ∀ caller, ¬ s.Allocated caller s.pool.nextPageId := by
    intro caller hcaller
    exact UInt16.lt_irrefl _ ((h.allocated_iff _).mp ⟨caller, hcaller⟩)
  refine
    { lt_nextCall := Numbered.resume h.lt_nextCall hactivity next
      read := ?_
      allocated_iff := ?_
      unique := ?_ }
  · intro caller pc page hcaller hid hrunning
    rcases pcs_resume_cases hcaller with ⟨-, rfl⟩ | ⟨-, before, hbefore, rfl⟩
    · exact absurd (Pc.receive_eq_returned.mpr hpc) (hrunning _)
    · rw [Pc.allocation_receive] at hid
      have hread := h.read caller before page hbefore hid
        fun result hresult => hrunning result (Pc.receive_eq_returned.mpr hresult)
      rw [System.resume, hpool, UInt16.le_iff_toNat_le, hsucc]
      exact ⟨(UInt16.le_iff_toNat_le.mp hread.1).trans (Nat.le_succ _), hread.2⟩
  · intro page
    simp only [hallocated]
    rw [System.resume, hpool, UInt16.lt_iff_toNat_lt, hsucc, Nat.lt_succ_iff, Nat.le_iff_lt_or_eq,
      ← UInt16.lt_iff_toNat_lt, ← h.allocated_iff, UInt16.toNat_inj]
    constructor
    · rintro ⟨caller, hcaller | ⟨-, heq⟩⟩
      · exact .inl ⟨caller, hcaller⟩
      · exact .inr heq
    · rintro (⟨caller, hcaller⟩ | heq)
      · exact ⟨caller, .inl hcaller⟩
      · exact ⟨callId, .inr ⟨rfl, heq⟩⟩
  · intro caller caller' page hcaller hcaller'
    rw [hallocated] at hcaller hcaller'
    rcases hcaller with hcaller | ⟨rfl, rfl⟩ <;> rcases hcaller' with hcaller' | ⟨rfl, hpage⟩
    · exact h.unique caller caller' page hcaller hcaller'
    · rw [hpage] at hcaller
      exact absurd hcaller (hfresh caller)
    · exact absurd hcaller' (hfresh caller')
    · rfl

/-- A step in which a commit finds the identifier it has read. -/
theorem Counting.step {s' : System n} {e : Event} (h : s.Counting) (hstep : s.Step e s')
    (hcurrent : s.CommitsCurrent e s') : s'.Counting ∧ s.IdsGrow e s' := by
  -- uniqueness is part of the invariant
  suffices hsuff : s'.Counting ∧ s.pool.nextPageId ≤ s'.pool.nextPageId from
    ⟨hsuff.1, hsuff.2, hsuff.1.unique⟩
  rcases step_cases hstep with ⟨client, call, releases, rfl, rfl⟩ |
    ⟨callId, io, activity, next, rfl, hactivity, hnext, rfl⟩
  · refine ⟨h.launch client call releases, ?_⟩
    rcases record_eq s.pool call with ⟨metrics, hmetrics⟩
    rw [System.launch, hmetrics]
    exact UInt16.le_refl _
  have hpc := pcs_eq_some hactivity
  have hreturned : ∀ result, activity.pc ≠ .returned result := by
    intro result hresult
    rw [hresult] at hnext
    cases io <;> cases hnext
  have hids := advance_ids hnext
  generalize hpc' : activity.pc = pc at hids
  cases hids with
  | keep hkeeps =>
      refine ⟨h.resume_of_eq hactivity hreturned hkeeps.1 ?_ ?_, UInt16.le_of_eq hkeeps.1.symm⟩
      · intro page frameId hallocated
        have hnone := hkeeps.2
        rw [hallocated] at hnone
        cases hnone
      · intro page hpage
        rw [hkeeps.2] at hpage
        cases hpage
  | read hlt hpool hread hrunning =>
      refine ⟨h.resume_of_eq hactivity hreturned hpool (fun _ _ => hrunning _) ?_,
        UInt16.le_of_eq hpool.symm⟩
      intro page hpage _
      rw [hread, Option.some_inj] at hpage
      rw [← hpage]
      exact ⟨UInt16.le_refl _, hlt⟩
  | pass hpool hpass hrunning =>
      refine ⟨h.resume_of_eq hactivity hreturned hpool (fun _ _ => (hrunning _).2) ?_,
        UInt16.le_of_eq hpool.symm⟩
      intro page hpage _
      rw [hpass, ← hpc'] at hpage
      exact h.read callId activity.pc page hpc hpage hreturned
  | take hlt hpool htake =>
      refine ⟨h.resume_of_succ hactivity hreturned hlt hpool htake, ?_⟩
      rw [System.resume, hpool, UInt16.le_iff_toNat_le, PageId.toNat_succ hlt]
      exact Nat.le_succ _
  | @commit newPageId victim oldPageId table _ hreplace hpool hcommit =>
      have hcurrent : s.pool.nextPageId = newPageId := by
        simp only [CommitsCurrent, hpc, hpc', hreplace] at hcurrent
        exact hcurrent rfl
      have hlt := (h.read callId activity.pc newPageId hpc (by rw [hpc']; rfl) hreturned).2
      subst hcurrent
      refine ⟨h.resume_of_succ hactivity hreturned hlt hpool hcommit, ?_⟩
      rw [System.resume, hpool, UInt16.le_iff_toNat_le, PageId.toNat_succ hlt]
      exact Nat.le_succ _

/-- A commit that finds a later identifier returns one that has been returned before. -/
theorem Counting.commitsCurrent {s' : System n} {e : Event} (h : s.Counting)
    (hstep : s.Step e s') (hgrow : s.IdsGrow e s') : s.CommitsCurrent e s' := by
  rcases step_cases hstep with ⟨client, call, releases, rfl, rfl⟩ |
    ⟨callId, io, activity, next, rfl, hactivity, hnext, rfl⟩
  · trivial
  have hpc := pcs_eq_some hactivity
  unfold CommitsCurrent
  dsimp only
  rw [hpc]
  split
  next newPageId victim oldPageId hcommit =>
    rw [Option.some_inj] at hcommit
    intro hok
    have hreturned : ∀ result, activity.pc ≠ .returned result := by
      rw [hcommit]
      exact nofun
    rcases h.read callId activity.pc newPageId hpc (by rw [hcommit]; rfl) hreturned with ⟨hle, -⟩
    rw [hcommit] at hnext
    have hallocated : ∃ frameId, next.pc = .returned (.allocated newPageId frameId) := by
      cases hreplace : s.pool.pageTable.replace oldPageId newPageId victim with
      | error e =>
          rw [hreplace] at hok
          cases hok
      | ok table =>
          cases io <;> simp only [advance, Option.some_inj, reduceCtorEq] at hnext
          rw [← hnext]
          unfold newCommit
          rw [loadNew_eq_ok]
          simp only [setFrame, hreplace]
          exact ⟨victim, rfl⟩
    by_contra hne
    have hlt : newPageId < s.pool.nextPageId := by
      rcases UInt16.lt_or_eq_of_le hle with hlt | heq
      · exact hlt
      · exact absurd heq.symm hne
    rcases (h.allocated_iff newPageId).mpr hlt with ⟨caller, hcaller⟩
    have heq : caller = callId := hgrow.2 caller callId newPageId
      ((allocated_resume hactivity hreturned).mpr (.inl hcaller))
      ((allocated_resume hactivity hreturned).mpr (.inr ⟨rfl, hallocated⟩))
    rcases hcaller with ⟨frameId, hreturned'⟩
    rw [heq, hpc, Option.some_inj] at hreturned'
    exact hreturned _ hreturned'
  next => trivial

end System

/-- Of all runs of a new pool, those in which `next_page_id` never decreases and every
identifier is returned once are those in which every commit is current. -/
theorem ids_grow_iff (n : Nat) (file : List UInt8) {path : List (Event × System n)}
    (hpath : IsPath System.Step (System.new n file) path) :
    EveryStep System.IdsGrow (System.new n file) path ↔
      EveryStep System.CommitsCurrent (System.new n file) path :=
  hpath.everyStep_iff (System.new_counting n file) (fun _ _ _ => System.Counting.step)
    fun _ _ _ => System.Counting.commitsCurrent

/-- The event belongs to a `new_page`, `fetch_page` or `unpin_page`, and the disk does
not fail. -/
def Event.Allocating : Event → Prop
  | .start _ .newPage _ => True
  | .start _ (.fetchPage _) _ => True
  | .start _ (.unpinPage _) _ => True
  | .start _ _ _ => False
  | .proceed _ io => io.Succeeds

/-- A pool of two frames with two pages.  Two calls read identifier 2 and evict one
page each.  The first commits; its page is unpinned and evicted for a call that
returns 3; then the second commits. -/
def staleCommit : List Event :=
  [.start 0 .newPage none, .proceed 0 .none, .start 0 (.unpinPage 0) (some 0), .proceed 1 .none,
    .start 0 .newPage none, .proceed 2 .none, .start 0 (.unpinPage 1) (some 2), .proceed 3 .none,
    .start 1 .newPage none, .start 2 .newPage none, .proceed 4 .none, .proceed 5 .none,
    .proceed 4 (.write .ok), .proceed 4 .none, .start 1 (.unpinPage 2) (some 4), .proceed 6 .none,
    .start 3 .newPage none, .proceed 7 .none, .proceed 7 (.write .ok), .proceed 7 .none,
    .proceed 5 (.write .ok), .proceed 5 .none]

/-- Identifier 2 is returned twice, and `next_page_id` falls from 4 to 3. -/
theorem new_page_repeats_id :
    ∃ path : List (Event × System 2), IsPath System.Step (System.new 2 []) path ∧
      EveryStep (fun _ e _ => e.Allocating) (System.new 2 []) path ∧
      ¬ EveryStep (fun s _ s' => s.pool.nextPageId ≤ s'.pool.nextPageId) (System.new 2 []) path ∧
      ¬ (lastState (System.new 2 []) path).UniqueIds := by
  refine ⟨follow System.step (System.new 2 []) staleCommit, isPath_follow .., ?_, ?_, ?_⟩
  · exact everyStep_follow (by simp [staleCommit, Event.Allocating, Io.Succeeds]) _
  · decide +kernel
  · intro hunique
    have hfirst : (lastState (System.new 2 []) (follow System.step (System.new 2 []) staleCommit)).pcs
        4 = some (.returned (.allocated 2 0)) := by decide +kernel
    have hsecond : (lastState (System.new 2 []) (follow System.step (System.new 2 [])
        staleCommit)).pcs 5 = some (.returned (.allocated 2 1)) := by decide +kernel
    exact absurd (hunique 4 5 2 ⟨0, hfirst⟩ ⟨1, hsecond⟩) (by decide)

/-- A pool of one frame: the second `new_page` evicts the page of the first. -/
def currentCommit : List Event :=
  [.start 0 .newPage none, .proceed 0 .none, .start 0 (.unpinPage 0) (some 0), .proceed 1 .none,
    .start 0 .newPage none, .proceed 2 .none, .proceed 2 (.write .ok), .proceed 2 .none]

/-- The identifiers grow when the commit is current. -/
theorem ids_grow_currentCommit :
    (follow System.step (System.new 1 []) currentCommit).length = 8 ∧
      EveryStep System.IdsGrow (System.new 1 [])
        (follow System.step (System.new 1 []) currentCommit) :=
  ⟨by decide +kernel, (ids_grow_iff 1 []
    (isPath_follow System.step (System.new 1 []) currentCommit)).mpr (by decide +kernel)⟩

end Storage
end TaskPool
