import TaskPool.Storage.BufferPool.Truth
import TaskPool.Storage.BufferPool.Interleaving

/-!
# Who owns a reservation

A call that moves a frame to `Reserved` works on it without `state_lock`, so nobody
else may touch the frame until the call gives it back.  The rollback of `delete_page`
does: when the write of the page fails, `flush_reserved_frame` has set the frame to
`Resident` already, and `delete_page` sets it to `Resident` once more, without
`state_lock` and whatever has become of the frame in between.

Main results:

- Structure `Ledger`: a system with the owners of all reserved frames.
- Theorem `Consistent.untouched`: what a section may change.
- Theorem `reservations_respected_iff`: reservations are respected exactly in the runs in
  which every rollback of `delete_page` finds its frame `Resident`.
- Theorem `rollback_breaks_reservation`: a run in which it does not.
-/

namespace TaskPool
namespace Storage

open BufferPoolManager Library

variable {n : Nat}

/-- The section runs under `state_lock`. -/
def Pc.holdsStateLock : Pc n → Bool
  | .fetchStart _ _ => true
  | .fetchPublish _ _ => true
  | .fetchReadFailed _ _ _ => true
  | .evictCommit _ _ _ _ => true
  | .evictFailed _ _ _ _ => true
  | .unpinStart _ => true
  | .markDirtyStart _ => true
  | .flushStart _ => true
  | .deleteStart _ => true
  | .deleteFinish _ _ => true
  | .newStart => true
  | .newCommit _ _ _ => true
  | _ => false

/-- The section belongs to a `new_page`. -/
def Pc.allocates : Pc n → Bool
  | .newStart => true
  | .newWrite _ _ _ _ => true
  | .newRollback _ _ _ _ => true
  | .newCommit _ _ _ => true
  | _ => false

/-- The call whose reservation keeps others from the frame. -/
def Slot.reserver : Slot → Option CallId
  | .loaded _ _ => none
  | slot => slot.owner

/-! ## A system and the owners of its frames -/

/-- A system with the calls that own the reservations of its frames. -/
structure Ledger (n : Nat) where
  system : System n
  owner : Fin n → Option CallId

namespace Ledger

/-- Nobody owns a frame. -/
def ofSystem (s : System n) : Ledger n := ⟨s, fun _ => none⟩

/-- The owner of a frame after a step: the call that has moved it to `Reserved`, until
this call itself moves it to another state. -/
def ownerAfter (l : Ledger n) (e : Event) (s' : System n) (frameId : Fin n) : Option CallId :=
  if !(l.system.pool.frames frameId).isReserved && (s'.pool.frames frameId).isReserved then e.caller
  else if l.owner frameId = e.caller ∧ (s'.pool.frames frameId).isReserved = false then none
  else l.owner frameId

/-- The ledger after an event. -/
def step (l : Ledger n) (e : Event) : Option (Ledger n) :=
  (l.system.step e).map fun s' => ⟨s', l.ownerAfter e s'⟩

/-- The step relation. -/
def Step (l : Ledger n) (e : Event) (l' : Ledger n) : Prop := l.step e = some l'

end Ledger

namespace System

/-- The event is a section that runs under `state_lock`. -/
def holdsStateLock (s : System n) : Event → Bool
  | .start _ _ _ => false
  | .proceed callId _ => (s.pcs callId).any Pc.holdsStateLock

/-- A `delete_page` that is about to restore its frame finds it `Resident`. -/
def rollsBackResident (s : System n) : Event → Bool
  | .start _ _ _ => true
  | .proceed callId _ =>
    match s.pcs callId with
    | some (.deleteRollback _ frameId _) => (s.pool.frames frameId).state = .resident
    | _ => true

end System

/-- The event starts no `new_page`. -/
def Event.NoNewPage : Event → Prop
  | .start _ call _ => call ≠ .newPage
  | .proceed _ _ => True

/-- A step respects the reservations: it leaves the frames of other calls alone, and it
changes the state of a frame only when the call owns the frame or holds `state_lock`. -/
structure Ledger.Respects (l : Ledger n) (e : Event) (l' : Ledger n) : Prop where
  reserved : ∀ frameId owner, l.owner frameId = some owner → e.caller ≠ some owner →
    l'.system.pool.frames frameId = l.system.pool.frames frameId
  state : ∀ frameId, (l'.system.pool.frames frameId).state ≠ (l.system.pool.frames frameId).state →
    (∃ caller, e.caller = some caller ∧ l.owner frameId = some caller) ∨
      l.system.holdsStateLock e = true

/-! ## What a section may change -/

namespace BufferPoolManager

variable {pool : BufferPoolManager n} {frameId : Fin n} {pageId : PageId} {callId : CallId}

/-- Reserving a victim leaves the frames that are reserved already. -/
theorem reserveVictim_reserved {victim : Fin n} (whenDirty : PageId → Buffer pageSize → Pc n)
    (whenClean : PageId → Pc n) (hreserved : (pool.frames frameId).isReserved = true) :
    (pool.reserveVictim victim whenDirty whenClean).pool.frames frameId = pool.frames frameId := by
  unfold reserveVictim
  cases hreserve : (pool.frames victim).reserve with
  | error e => rfl
  | ok frame =>
      have hne : frameId ≠ victim := by
        rintro rfl
        have hstate : (pool.frames frameId).state = .reserved := by
          simpa [Frame.isReserved] using hreserved
        simp [Frame.reserve, hstate] at hreserve
      dsimp only
      cases frame.getPageId with
      | error e => exact Function.update_of_ne hne ..
      | ok oldPageId =>
          dsimp only
          split_ifs <;> exact Function.update_of_ne hne ..

/-- A miss leaves the reserved frames. -/
theorem fetchMiss_reserved (hreserved : (pool.frames frameId).isReserved = true) :
    (pool.fetchMiss callId pageId).pool.frames frameId = pool.frames frameId := by
  unfold fetchMiss
  cases pool.inFlightLoads pageId with
  | some waiter => rfl
  | none =>
      dsimp only
      cases hfree : (pool.insertLoad pageId callId).freeFrames with
      | cons freeFrame rest =>
          dsimp only
          cases hreserve : ((pool.insertLoad pageId callId).frames freeFrame).reserve with
          | error e => rfl
          | ok frame =>
              refine Function.update_of_ne ?_ ..
              rintro rfl
              have hstate : (pool.frames frameId).state = .reserved := by
                simpa [Frame.isReserved] using hreserved
              have herror : (pool.frames frameId).reserve = .ok frame := hreserve
              simp [Frame.reserve, hstate] at herror
      | nil =>
          dsimp only
          unfold fetchEvict
          cases hfind : (pool.insertLoad pageId callId).clockReplacer.findVictim
              (pool.insertLoad pageId callId).frames with
          | error e => rfl
          | ok found =>
              rcases found with ⟨victim, clock, frames⟩
              have hsame : frames frameId = pool.frames frameId :=
                ClockReplacer.findVictim_reserved hfind hreserved
              have hreserved' : (frames frameId).isReserved = true := by rwa [hsame]
              cases victim with
              | none =>
                  dsimp only
                  split_ifs <;> exact hsame
              | some victim =>
                  exact (reserveVictim_reserved _ _ hreserved').trans hsame

/-- A fetch that decides leaves reserved frames alone. -/
theorem fetchDecide_reserved (missRecorded : Bool)
    (hreserved : (pool.frames frameId).isReserved = true) :
    (pool.fetchDecide callId pageId missRecorded).pool.frames frameId = pool.frames frameId := by
  unfold fetchDecide
  cases pool.pageTable pageId with
  | none =>
      have hframes := frames_recordMissOnce pool missRecorded
      exact (fetchMiss_reserved (by rwa [hframes])).trans (congrFun hframes frameId)
  | some other =>
      dsimp only
      unfold fetchHit
      split_ifs with hwait
      · rfl
      · have hne : frameId ≠ other := by
          rintro rfl
          exact hwait hreserved
        dsimp only
        split
        · rfl
        · split <;> exact Function.update_of_ne hne ..

end BufferPoolManager

namespace Slot

variable {slot : Slot}

/-- The reserver of a frame is its owner as long as it is reserved. -/
theorem reserver_eq_some_iff {owner : CallId} :
    slot.reserver = some owner ↔ slot.owner = some owner ∧ slot.state = .reserved := by
  cases slot <;> simp [reserver, Slot.owner, Slot.state]

/-- A frame without a reserver is not reserved. -/
theorem reserver_eq_none_iff : slot.reserver = none ↔ slot.state ≠ .reserved := by
  cases slot <;> simp [reserver, Slot.owner, Slot.state]

end Slot

namespace Consistent

variable {pool : BufferPoolManager n} {pcs : CallId → Option (Pc n)} {slot slot' : Fin n → Slot}
  {callId : CallId} {pc : Pc n} {io : Io} {next : Next n}

/-- A section leaves a frame unchanged, or the call owns the reservation of the frame, or
nobody owns it and the call holds `state_lock`. -/
theorem untouched (h : Consistent pool pcs slot) (hpc : pcs callId = some pc)
    (heffect : Effect callId pool slot pc io next slot')
    (hnext : pool.advance callId pc io = some next) (hnew : pc.allocates = false)
    (hrollback : ∀ pageId frameId error, pc ≠ .deleteRollback pageId frameId error)
    (frameId : Fin n) :
    next.pool.frames frameId = pool.frames frameId ∨ (slot frameId).reserver = some callId ∨
      (slot frameId).reserver = none ∧ pc.holdsStateLock = true := by
  have howned := h.owned callId pc
  -- a section that changes one frame
  have hone : ∀ (other : Fin n) (frame : Frame),
      next.pool.frames = Function.update pool.frames other frame →
      ((slot other).reserver = some callId ∨
        (slot other).reserver = none ∧ pc.holdsStateLock = true) →
      next.pool.frames frameId = pool.frames frameId ∨ (slot frameId).reserver = some callId ∨
        (slot frameId).reserver = none ∧ pc.holdsStateLock = true := by
    intro other frame hframes hother
    by_cases hframe : frameId = other
    · rw [hframe]
      exact .inr hother
    · rw [hframes, Function.update_of_ne hframe]
      exact .inl rfl
  cases pc with
  | fetchStart pageId missRecorded =>
      by_cases hreserver : (slot frameId).reserver = none
      · exact .inr (.inr ⟨hreserver, rfl⟩)
      · rw [Slot.reserver_eq_none_iff, not_not, ← (h.frame frameId).isReserved_iff] at hreserver
        cases io <;> cases hnext
        exact .inl (fetchDecide_reserved missRecorded hreserver)
  | fetchLoad _ other | fetchReadFailed _ other | evictCommit _ other | evictFailed _ other
  | flushRelease _ other | deleteFinish _ other =>
      cases heffect
      exact hone other _ rfl (.inl (by rw [howned _ _ hpc rfl]; rfl))
  | unpinStart pageId =>
      cases heffect with
      | unpinFail => exact .inl rfl
      | unpin hslot => exact hone _ _ rfl (.inr ⟨by rw [hslot]; rfl, rfl⟩)
  | markDirtyStart pageId =>
      cases heffect with
      | markDirtyFail => exact .inl rfl
      | markDirty hslot => exact hone _ _ rfl (.inr ⟨by rw [hslot]; rfl, rfl⟩)
  | flushStart pageId =>
      cases heffect with
      | flushFail => exact .inl rfl
      | flushClean hslot => exact hone _ _ rfl (.inr ⟨by rw [hslot]; rfl, rfl⟩)
      | flushTake hslot => exact hone _ _ rfl (.inr ⟨by rw [hslot]; rfl, rfl⟩)
  | deleteStart pageId =>
      cases heffect with
      | deleteFail => exact .inl rfl
      | deleteClean hslot =>
          exact hone _ _ (Function.update_idem ..) (.inr ⟨by rw [hslot]; rfl, rfl⟩)
      | deleteTake hslot => exact hone _ _ rfl (.inr ⟨by rw [hslot]; rfl, rfl⟩)
  | flushFinish pageId other written caller =>
      have hreserver : (slot other).reserver = some callId := by
        rw [howned _ _ hpc rfl]
        cases caller <;> rfl
      cases heffect <;> cases caller <;> exact hone other _ rfl (.inl hreserver)
  | deleteRollback pageId other error => exact absurd rfl (hrollback pageId other error)
  | flushCheck pageId other caller =>
      cases heffect with
      | checkDirty => exact .inl rfl
      | checkClean => cases caller <;> exact .inl rfl
  | newStart | newWrite | newRollback | newCommit => cases hnew
  | _ => cases heffect <;> exact .inl rfl

end Consistent

/-! ## Frames of other calls -/

namespace Consistent

variable {pool pool' : BufferPoolManager n} {pcs : CallId → Option (Pc n)} {slot slot' : Fin n → Slot}
  {callId owner : CallId} {pc' : Pc n} {frameId : Fin n}

/-- A call that runs no section keeps its frame. -/
theorem slot_eq_of_owner (h : Consistent pool pcs slot)
    (h' : Consistent pool' (Function.update pcs callId (some pc')) slot') (hne : owner ≠ callId)
    (howner : (slot frameId).owner = some owner) : slot' frameId = slot frameId := by
  rcases h.owner frameId owner howner with ⟨pc, hpc, howned⟩
  exact h'.owned owner pc frameId _ (by rwa [Function.update_of_ne hne]) howned

/-- A call that runs no section takes no frame. -/
theorem slot_eq_of_owner' (h : Consistent pool pcs slot)
    (h' : Consistent pool' (Function.update pcs callId (some pc')) slot') (hne : owner ≠ callId)
    (howner : (slot' frameId).owner = some owner) : slot' frameId = slot frameId := by
  rcases h'.owner frameId owner howner with ⟨pc, hpc, howned⟩
  rw [Function.update_of_ne hne] at hpc
  exact (h.owned owner pc frameId _ hpc howned).symm

/-- Whether a frame is reserved is read off its slot. -/
theorem isReserved_eq (h : Consistent pool pcs slot) (frameId : Fin n) :
    (pool.frames frameId).isReserved = (slot frameId).reserver.isSome := by
  rw [Bool.eq_iff_iff, (h.frame frameId).isReserved_iff, Option.isSome_iff_ne_none, Ne,
    Slot.reserver_eq_none_iff, not_not]

end Consistent

namespace Ledger

variable {l l' : Ledger n} {e : Event} {callId : CallId}

/-- The ledger names the reservers before and after a section of a call. -/
theorem ownerAfter_eq {s' : System n} {pcs : CallId → Option (Pc n)} {slot slot' : Fin n → Slot}
    {pc' : Pc n} (h : Consistent l.system.pool pcs slot)
    (h' : Consistent s'.pool (Function.update pcs callId (some pc')) slot')
    (hcaller : e.caller = some callId) {frameId : Fin n}
    (howner : l.owner frameId = (slot frameId).reserver) :
    l.ownerAfter e s' frameId = (slot' frameId).reserver := by
  have hkept : ∀ owner, owner ≠ callId → (slot frameId).reserver = some owner ∨
      (slot' frameId).reserver = some owner → slot' frameId = slot frameId := by
    rintro owner hne (hreserver | hreserver)
    · exact h.slot_eq_of_owner h' hne (Slot.reserver_eq_some_iff.mp hreserver).1
    · exact h.slot_eq_of_owner' h' hne (Slot.reserver_eq_some_iff.mp hreserver).1
  rw [ownerAfter, h.isReserved_eq, h'.isReserved_eq, howner, hcaller]
  cases hbefore : (slot frameId).reserver with
  | none =>
      cases hafter : (slot' frameId).reserver with
      | none => simp
      | some owner =>
          by_cases hne : owner = callId
          · simp [hne]
          · rw [hkept owner hne (.inr hafter), hbefore] at hafter
            cases hafter
  | some owner =>
      by_cases hne : owner = callId
      · cases hafter : (slot' frameId).reserver with
        | none => simp [hne]
        | some owner' =>
            by_cases hne' : owner' = callId
            · simp [hne, hne']
            · rw [hkept owner' hne' (.inr hafter), hbefore] at hafter
              simpa using hafter
      · rw [hkept owner hne (.inl hbefore), hbefore]
        simp [hne]

end Ledger

/-! ## Runs -/

/-- A call that is about to restore a frame it has given up counts as returned. -/
def Pc.settle : Pc n → Pc n
  | .deleteRollback _ _ error => .returned (.failed error)
  | pc => pc

/-- A call that counts as returned has the frame it had. -/
theorem Pc.owned_settle (callId : CallId) (pc : Pc n) : pc.settle.owned callId = pc.owned callId := by
  cases pc <;> rfl

/-- Signals leave a call that counts as returned. -/
theorem Pc.settle_receive (signal : Signal) (pc : Pc n) :
    (pc.receive signal).settle = (pc.settle.receive signal).settle := by
  cases pc <;> rfl

/-- What counts as returned is no rollback. -/
theorem Pc.settle_ne (pc : Pc n) (pageId : PageId) (frameId : Fin n) (error : BufferPoolError) :
    pc.settle ≠ .deleteRollback pageId frameId error := by
  cases pc <;> nofun

/-- All other calls count as what they are. -/
theorem Pc.settle_eq {pc : Pc n}
    (h : ∀ pageId frameId error, pc ≠ .deleteRollback pageId frameId error) : pc.settle = pc := by
  cases pc with
  | deleteRollback pageId frameId error => exact absurd rfl (h pageId frameId error)
  | _ => rfl

namespace System

/-- The sections of all calls, without the rollbacks of `delete_page`. -/
def settled (s : System n) : CallId → Option (Pc n) := fun callId => (s.pcs callId).map Pc.settle

variable {s : System n}

/-- A call that is not in a rollback counts as being in its section. -/
theorem settled_eq_some {callId : CallId} {activity : Activity n}
    (hactivity : s.calls callId = some activity)
    (hrollback : ∀ pageId frameId error, activity.pc ≠ .deleteRollback pageId frameId error) :
    s.settled callId = some activity.pc := by
  rw [settled, pcs_eq_some hactivity, Option.map_some, Pc.settle_eq hrollback]

/-- Among calls that count as returned there is no rollback. -/
theorem noOtherRollback_settled (s : System n) (callId : CallId) :
    NoOtherRollback s.settled callId := by
  intro other _ pageId frameId error hother
  rcases Option.map_eq_some_iff.mp hother with ⟨pc, -, hpc⟩
  exact pc.settle_ne pageId frameId error hpc

/-- A signal changes no frame, and neither does leaving out a rollback. -/
theorem consistent_resume {callId : CallId} {activity : Activity n} {next : Next n} {pc : Pc n}
    {slot : Fin n → Slot} (hpc : pc.settle = next.pc.settle)
    (h : Consistent next.pool (Function.update s.settled callId (some pc)) slot) :
    Consistent (s.resume callId activity next).pool (s.resume callId activity next).settled slot := by
  have hsettled : ∀ other, (s.resume callId activity next).settled other =
      (Function.update s.settled callId (some pc) other).map
        fun pc => (pc.receive next.signal).settle := by
    intro other
    rw [settled, pcs_resume, Option.map_map]
    by_cases hother : other = callId
    · rw [hother, Function.update_self, Function.update_self, Option.map_some, Option.map_some,
        Function.comp_apply, Pc.settle_receive, ← hpc, ← Pc.settle_receive]
    · rw [Function.update_of_ne hother, Function.update_of_ne hother, settled, Option.map_map]
      exact Option.map_congr fun pc _ => Pc.settle_receive next.signal pc
  have howned : ∀ (pc : Pc n) caller, (pc.receive next.signal).settle.owned caller = pc.owned caller :=
    fun pc caller => (Pc.owned_settle caller _).trans (Pc.owned_receive next.signal caller pc)
  apply h.relabel
  · intro caller pc' hpc'
    rw [hsettled] at hpc'
    rcases Option.map_eq_some_iff.mp hpc' with ⟨pc₁, hpc₁, rfl⟩
    refine ⟨pc₁, hpc₁, howned pc₁ caller, fun page frameId error hrollback => ?_⟩
    exact absurd hrollback (Pc.settle_ne _ page frameId error)
  · intro caller pc₁ hpc₁ _
    exact ⟨_, by rw [hsettled, hpc₁, Option.map_some], howned pc₁ caller⟩

end System

/-- A call other than `new_page` does not become one. -/
theorem Effect.allocates {callId : CallId} {pool : BufferPoolManager n} {slot slot' : Fin n → Slot}
    {pc : Pc n} {io : Io} {next : Next n} (heffect : Effect callId pool slot pc io next slot')
    (h : pc.allocates = false) : next.pc.allocates = false := by
  cases heffect with
  | fetchVictim =>
      dsimp only
      split_ifs <;> rfl
  | @checkClean _ _ caller _ => cases caller <;> rfl
  | @flushDone _ _ caller => cases caller <;> rfl
  | @flushUndo _ _ caller _ => cases caller <;> rfl
  | newFail | newGiveUp | newTake | newVictim | newWriteOk | newWriteFail | newUndo | newCommit
  | newCollide => cases h
  | _ => rfl

/-- A call other than `new_page` allocates nothing. -/
theorem Pc.allocatesFresh {pc : Pc n} (h : pc.allocates = false) (pool : BufferPoolManager n)
    (slot : Fin n → Slot) : AllocatesFresh pool slot pc := by
  cases pc <;> trivial

namespace Ledger

/-- The invariant: the pool is consistent but for rollbacks, and the ledger names the
reservers. -/
structure Kept (l : Ledger n) : Prop where
  numbered : l.system.Numbered
  old : ∀ callId pc, l.system.pcs callId = some pc → pc.allocates = false
  consistent : ∃ slot, Consistent l.system.pool l.system.settled slot ∧
    ∀ frameId, l.owner frameId = (slot frameId).reserver

variable {l l' : Ledger n} {e : Event} {callId : CallId} {activity : Activity n} {io : Io}
  {next : Next n}

/-- The ledger of an idle system meets the invariant. -/
theorem ofSystem_kept {s : System n} (h : s.Idle) : (ofSystem s).Kept where
  numbered := h.ordered.numbered
  old := by
    intro callId pc hpc
    rcases h.returned_pcs hpc with ⟨result, rfl⟩
    rfl
  consistent := by
    refine ⟨s.pool.restSlot, h.sound.consistent ?_, fun frameId => ?_⟩
    · intro callId pc hpc
      rcases Option.map_eq_some_iff.mp hpc with ⟨pc₁, hpc₁, rfl⟩
      rcases h.returned_pcs hpc₁ with ⟨result, rfl⟩
      exact ⟨result, rfl⟩
    · unfold restSlot
      cases (s.pool.frames frameId).heldPage <;> simp [ofSystem, Slot.reserver, Slot.owner]

/-- The pool and the owners after the start of a call. -/
theorem Kept.launch (h : l.Kept) {client : Nat} {call : Call} {releases : Option CallId}
    (hcall : call ≠ .newPage) :
    (⟨l.system.launch client call releases,
      l.ownerAfter (.start client call releases) (l.system.launch client call releases)⟩ :
        Ledger n).Kept := by
  rcases h.consistent with ⟨slot, hconsistent, howner⟩
  rcases record_eq l.system.pool call with ⟨metrics, hmetrics⟩
  have hnone : l.system.settled l.system.nextCall = none := by
    rw [System.settled, h.numbered.pcs_nextCall, Option.map_none]
  have hstep : l.system.Step (.start client call releases)
      (l.system.launch client call releases) := rfl
  refine
    { numbered := h.numbered.step hstep
      old := ?_
      consistent := ⟨slot, ?_, fun frameId => ?_⟩ }
  · intro caller pc hpc
    rw [System.pcs_launch] at hpc
    by_cases hcaller : caller = l.system.nextCall
    · rw [hcaller, Function.update_self, Option.some_inj] at hpc
      rw [← hpc]
      cases call <;> first
        | rfl
        | exact absurd rfl hcall
    · rw [Function.update_of_ne hcaller] at hpc
      exact h.old caller pc hpc
  · have hsettled : (l.system.launch client call releases).settled =
        Function.update l.system.settled l.system.nextCall (some call.entry) := by
      ext1 caller
      rw [System.settled, System.pcs_launch]
      by_cases hcaller : caller = l.system.nextCall
      · rw [hcaller, Function.update_self, Function.update_self]
        cases call <;> rfl
      · rw [Function.update_of_ne hcaller, Function.update_of_ne hcaller, System.settled]
    rw [hsettled, System.launch, hmetrics]
    exact hconsistent.enter hnone call metrics
  · change l.ownerAfter _ _ frameId = _
    rw [← howner frameId, ownerAfter, System.launch, hmetrics]
    cases hreserved : (l.system.pool.frames frameId).isReserved with
    | true => simp
    | false =>
        have hempty : l.owner frameId = none := by
          rw [hconsistent.isReserved_eq, Option.isSome_eq_false_iff, Option.isNone_iff_eq_none]
            at hreserved
          rw [howner, hreserved]
        simp [hempty, Event.caller]

/-- The pool and the owners after a section that is no rollback. -/
theorem Kept.resume (h : l.Kept) (hactivity : l.system.calls callId = some activity)
    (hnext : l.system.pool.advance callId activity.pc io = some next)
    (hrollback : ∀ pageId frameId error, activity.pc ≠ .deleteRollback pageId frameId error) :
    (⟨l.system.resume callId activity next, l.ownerAfter (.proceed callId io)
      (l.system.resume callId activity next)⟩ : Ledger n).Kept := by
  rcases h.consistent with ⟨slot, hconsistent, howner⟩
  have hold := h.old callId _ (System.pcs_eq_some hactivity)
  have hpc := System.settled_eq_some hactivity hrollback
  rcases hconsistent.advance_effect hpc hnext with ⟨slot', heffect⟩
  have hkeeps : Effect.Keeps l.system.settled callId next slot' :=
    heffect.consistent hconsistent hpc (l.system.noOtherRollback_settled callId)
      (Pc.allocatesFresh hold _ _)
  refine
    { numbered := h.numbered.resume hactivity next
      old := fun caller pc hcaller => ?_
      consistent := ⟨slot', System.consistent_resume rfl hkeeps, fun frameId => ?_⟩ }
  · have hreceive : ∀ pc : Pc n, (pc.receive next.signal).allocates = pc.allocates := by
      intro pc
      cases pc <;> rfl
    rcases System.pcs_resume_cases hcaller with ⟨-, rfl⟩ | ⟨-, before, hbefore, rfl⟩
    · exact (hreceive next.pc).trans (heffect.allocates hold)
    · exact (hreceive before).trans (h.old caller before hbefore)
  · exact ownerAfter_eq hconsistent hkeeps rfl (howner frameId)

/-- A section that is no rollback respects the reservations. -/
theorem Kept.respects (h : l.Kept) (hactivity : l.system.calls callId = some activity)
    (hnext : l.system.pool.advance callId activity.pc io = some next)
    (hrollback : ∀ pageId frameId error, activity.pc ≠ .deleteRollback pageId frameId error) :
    l.Respects (.proceed callId io) ⟨l.system.resume callId activity next,
      l.ownerAfter (.proceed callId io) (l.system.resume callId activity next)⟩ := by
  rcases h.consistent with ⟨slot, hconsistent, howner⟩
  have hold := h.old callId _ (System.pcs_eq_some hactivity)
  have hpc := System.settled_eq_some hactivity hrollback
  rcases hconsistent.advance_effect hpc hnext with ⟨slot', heffect⟩
  have huntouched := hconsistent.untouched hpc heffect hnext hold hrollback
  constructor
  · intro frameId owner hreserver hne
    rw [howner] at hreserver
    rcases huntouched frameId with hsame | hself | ⟨hnone, -⟩
    · exact hsame
    · rw [hreserver, Option.some_inj] at hself
      exact absurd (congrArg some hself.symm) hne
    · rw [hreserver] at hnone
      cases hnone
  · intro frameId hchanged
    rcases huntouched frameId with hsame | hself | ⟨-, hlock⟩
    · exact absurd (congrArg Frame.state hsame) hchanged
    · exact .inl ⟨callId, rfl, (howner frameId).trans hself⟩
    · refine .inr ?_
      rw [System.holdsStateLock, System.pcs_eq_some hactivity]
      exact hlock

/-- A rollback that finds its frame `Resident` changes nothing. -/
theorem Kept.rollback (h : l.Kept) (hactivity : l.system.calls callId = some activity)
    {pageId : PageId} {frameId : Fin n} {error : BufferPoolError}
    (hpc : activity.pc = .deleteRollback pageId frameId error)
    (hnext : l.system.pool.advance callId activity.pc io = some next)
    (hresident : (l.system.pool.frames frameId).state = .resident) :
    (⟨l.system.resume callId activity next, l.ownerAfter (.proceed callId io)
      (l.system.resume callId activity next)⟩ : Ledger n).Kept ∧
    l.Respects (.proceed callId io) ⟨l.system.resume callId activity next,
      l.ownerAfter (.proceed callId io) (l.system.resume callId activity next)⟩ := by
  rcases h.consistent with ⟨slot, hconsistent, howner⟩
  rw [hpc] at hnext
  cases io <;> cases hnext
  have hframes : (l.system.pool.releaseFrame frameId (.failed error)).pool.frames =
      l.system.pool.frames := by
    have hsame : (l.system.pool.frames frameId).setResident = l.system.pool.frames frameId := by
      rw [Frame.setResident, ← hresident]
    exact (congrArg (Function.update l.system.pool.frames frameId) hsame).trans
      (Function.update_eq_self ..)
  have hsettled : l.system.settled callId = some (.returned (.failed error)) := by
    rw [System.settled, System.pcs_eq_some hactivity, hpc]
    rfl
  have hkeeps : Consistent (l.system.pool.releaseFrame frameId (.failed error)).pool
      (Function.update l.system.settled callId (some (.returned (.failed error)))) slot :=
    hconsistent.keep hsettled rfl nofun hconsistent.layout (by rw [hframes]; exact hconsistent.frame)
  refine ⟨⟨h.numbered.resume hactivity _, ?_, slot, System.consistent_resume rfl hkeeps,
    fun other => ?_⟩, ?_, ?_⟩
  · intro caller pc hcaller
    rcases System.pcs_resume_cases hcaller with ⟨-, rfl⟩ | ⟨-, before, hbefore, rfl⟩
    · rfl
    · have hbefore := h.old caller before hbefore
      cases before <;> exact hbefore
  · exact ownerAfter_eq hconsistent hkeeps rfl (howner other)
  · exact fun other _ _ _ => congrFun hframes other
  · exact fun other hchanged => absurd (congrArg Frame.state (congrFun hframes other)) hchanged

/-- A step whose rollback, if it is one, finds its frame `Resident`. -/
theorem Kept.step (h : l.Kept) (hstep : l.Step e l') (hcalls : e.NoNewPage)
    (hback : l.system.rollsBackResident e = true) : l'.Kept ∧ l.Respects e l' := by
  rcases Option.map_eq_some_iff.mp hstep with ⟨s', hs', rfl⟩
  rcases System.step_cases hs' with ⟨client, call, releases, rfl, rfl⟩ |
    ⟨callId, io, activity, next, rfl, hactivity, hnext, rfl⟩
  · refine ⟨h.launch hcalls, ?_⟩
    have hframes : (l.system.launch client call releases).pool.frames = l.system.pool.frames := by
      rcases record_eq l.system.pool call with ⟨metrics, hmetrics⟩
      rw [System.launch, hmetrics]
    exact
      { reserved := fun frameId _ _ _ => congrFun hframes frameId
        state := fun frameId hchanged =>
          absurd (congrArg Frame.state (congrFun hframes frameId)) hchanged }
  · by_cases hrollback : ∃ pageId frameId error,
        activity.pc = .deleteRollback pageId frameId error
    · rcases hrollback with ⟨pageId, frameId, error, hpc⟩
      refine h.rollback hactivity hpc hnext ?_
      rw [System.rollsBackResident, System.pcs_eq_some hactivity, hpc] at hback
      simpa using hback
    · have hrollback : ∀ pageId frameId error,
          activity.pc ≠ .deleteRollback pageId frameId error :=
        fun pageId frameId error hpc => hrollback ⟨pageId, frameId, error, hpc⟩
      exact ⟨h.resume hactivity hnext hrollback, h.respects hactivity hnext hrollback⟩

/-- A rollback that finds its frame in another state changes it without being its owner
and without holding `state_lock`. -/
theorem Kept.rollsBackResident (h : l.Kept) (hstep : l.Step e l') (hrespects : l.Respects e l') :
    l.system.rollsBackResident e = true := by
  rcases Option.map_eq_some_iff.mp hstep with ⟨s', hs', rfl⟩
  rcases System.step_cases hs' with ⟨client, call, releases, rfl, rfl⟩ |
    ⟨callId, io, activity, next, rfl, hactivity, hnext, rfl⟩
  · rfl
  · rw [System.rollsBackResident, System.pcs_eq_some hactivity]
    cases hpc : activity.pc with
    | deleteRollback pageId frameId error =>
        by_contra hstate
        rw [hpc] at hnext
        cases io <;> cases hnext
        have hframe : (l.system.pool.releaseFrame frameId (.failed error)).pool.frames frameId =
            (l.system.pool.frames frameId).setResident := Function.update_self ..
        have hchanged : ((l.system.pool.releaseFrame frameId (.failed error)).pool.frames
            frameId).state ≠ (l.system.pool.frames frameId).state := by
          intro heq
          exact hstate (decide_eq_true (heq.symm.trans (congrArg Frame.state hframe)))
        rcases hrespects.state frameId hchanged with ⟨caller, hcaller, howned⟩ | hlock
        · rcases h.consistent with ⟨slot, hconsistent, howner⟩
          rw [howner, Slot.reserver_eq_some_iff] at howned
          rcases hconsistent.owner frameId caller howned.1 with ⟨pc, hsettled, hhas⟩
          rw [← Option.some_inj.mp hcaller, System.settled, System.pcs_eq_some hactivity, hpc,
            Option.map_some, Option.some_inj] at hsettled
          rw [← hsettled] at hhas
          cases hhas
        · rw [System.holdsStateLock, System.pcs_eq_some hactivity, hpc] at hlock
          cases hlock
    | _ => rfl

end Ledger

/-- From an idle system, in every run without `new_page` and whatever the disk does,
reservations are respected exactly when every rollback of `delete_page` finds its frame
`Resident`. -/
theorem reservations_respected_iff {s : System n} (hidle : s.Idle) {path : List (Event × Ledger n)}
    (hpath : IsPath Ledger.Step (Ledger.ofSystem s) path)
    (hcalls : EveryStep (fun _ e _ => e.NoNewPage) (Ledger.ofSystem s) path) :
    EveryStep Ledger.Respects (Ledger.ofSystem s) path ↔
      EveryStep (fun l e _ => l.system.rollsBackResident e = true) (Ledger.ofSystem s) path := by
  have hsteps : IsPath (fun l e l' => l.Step e l' ∧ e.NoNewPage) (Ledger.ofSystem s) path :=
    hpath.imp hcalls fun _ _ _ => And.intro
  apply hsteps.everyStep_iff (Ledger.ofSystem_kept hidle)
  · exact fun l e l' h hstep hback => h.step hstep.1 hstep.2 hback
  · exact fun l e l' h hstep hrespects => h.rollsBackResident hstep.1 hrespects

/-! ## A page that cannot be written -/

/-- Page 0 is allocated and unpinned. -/
@[irreducible] def allocateAndUnpin : List Request :=
  [⟨.newPage, 0, [.none]⟩, ⟨.unpinPage 0, 1, [.none]⟩]

/-- A pool of one frame that holds page 0, which is dirty and not pinned. -/
def onePageDirty : BufferPoolManager 1 :=
  lastState (BufferPoolManager.new 1 []) (served 1 allocateAndUnpin)

/-- The pool is at rest. -/
theorem onePageDirty_sound : onePageDirty.Sound := by
  have hserves := isPath_served 1 allocateAndUnpin (by simp [allocateAndUnpin, Io.Succeeds])
  have hunmapped : EveryStep BufferPoolManager.AllocatesUnmapped (BufferPoolManager.new 1 [])
      (served 1 allocateAndUnpin) := allocatesUnmapped_of_none (by decide +kernel)
  have hsound : EveryState BufferPoolManager.Sound (BufferPoolManager.new 1 [])
      (served 1 allocateAndUnpin) :=
    hserves.everyState hunmapped (new_sound 1 []) fun _ _ _ h hstep hnone => (h.step hstep hnone).1
  exact hsound.last

/-- A `delete_page` whose write fails, up to its rollback. -/
def deleteInVain : List Event :=
  [.start 0 (.deletePage 0) none, .proceed 0 .none, .proceed 0 .none,
    .proceed 0 (.write (.fail ⟨.other, "No space left on device"⟩ [])), .proceed 0 .none]

/-- The run of a list of events over this pool. -/
def ledgerRun (events : List Event) : List (Event × Ledger 1) :=
  follow Ledger.step (Ledger.ofSystem (System.withPool onePageDirty)) events

/-- Reservations are respected when the rollback comes at once. -/
theorem reservations_respected_deleteInVain :
    (ledgerRun (deleteInVain ++ [.proceed 0 .none])).length = 6 ∧
      EveryStep Ledger.Respects (Ledger.ofSystem (System.withPool onePageDirty))
        (ledgerRun (deleteInVain ++ [.proceed 0 .none])) := by
  have hcalls : EveryStep (fun _ e _ => e.NoNewPage) (Ledger.ofSystem (System.withPool onePageDirty))
      (ledgerRun (deleteInVain ++ [.proceed 0 .none])) :=
    everyStep_follow (by simp [deleteInVain, Event.NoNewPage]) _
  exact ⟨by decide +kernel, (reservations_respected_iff (System.withPool_idle onePageDirty_sound)
    (isPath_follow Ledger.step _ _) hcalls).mpr (by decide +kernel)⟩

/-- Before the rollback another client fetches page 1, and the eviction reserves the frame. -/
def fetchBeforeRollback : List Event :=
  deleteInVain ++ [.start 1 (.fetchPage 1) none, .proceed 1 .none, .proceed 0 .none]

/-- The rollback takes the frame away from the eviction. -/
theorem rollback_breaks_reservation :
    ∃ s : System 1, s.Idle ∧ ∃ path, IsPath Ledger.Step (Ledger.ofSystem s) path ∧
      EveryStep (fun _ e _ => e.NoNewPage) (Ledger.ofSystem s) path ∧
      ¬ EveryStep Ledger.Respects (Ledger.ofSystem s) path := by
  refine ⟨System.withPool onePageDirty, System.withPool_idle onePageDirty_sound,
    ledgerRun fetchBeforeRollback, isPath_follow Ledger.step _ fetchBeforeRollback,
    everyStep_follow (by simp [fetchBeforeRollback, deleteInVain, Event.NoNewPage]) _, fun h => ?_⟩
  have hkept : EveryStep (fun l e l' => l.owner 0 = some 1 → e.caller ≠ some 1 →
      (l'.system.pool.frames 0).state = (l.system.pool.frames 0).state)
      (Ledger.ofSystem (System.withPool onePageDirty)) (ledgerRun fetchBeforeRollback) :=
    h.imp fun l e l' hrespects howner hcaller =>
      congrArg Frame.state (hrespects.reserved 0 1 howner hcaller)
  exact absurd hkept (by decide +kernel)

end Storage
end TaskPool
