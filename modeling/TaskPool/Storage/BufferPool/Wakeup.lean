import TaskPool.Storage.BufferPool.Partition
import TaskPool.Storage.BufferPool.Interleaving

/-!
# Waiting on `state_cv`

A `fetch_page` that finds its frame reserved waits on `state_cv`, and so does one that
finds every frame pinned or reserved.  Some call has a frame in hand at that time, but
not every call notifies `state_cv` when it gives its frame back.

Main results:

- Theorem `Parted.outcome`: what a section does to a waiting call.
- Theorem `Attended.step`: a fetch sleeps only while another call has a frame in hand.
- Theorem `wake_up_due`: no wake-up is lost in the runs in which no call gives its frame
  back silently and leaves a sleeping fetch alone.
- Theorem `fetch_sleeps_after_flush`: a run with a lost wake-up.
-/

namespace TaskPool
namespace Storage

open BufferPoolManager Library

variable {n : Nat}

/-- The call waits on `state_cv` and was not notified yet. -/
def Pc.asleep : Pc n → Bool
  | .fetchWaitState _ _ notified => !notified
  | _ => false

/-- The call has moved a frame to `Reserved` and has not returned. -/
def Pc.hasReserved : Pc n → Bool
  | .fetchNotify _ _ => true
  | pc => pc.grip.isSome

/-- The section gives a frame back and notifies nobody on `state_cv`. -/
def Pc.silent (table : PageTable n) : Pc n → Bool
  | .evictCommit pageId victim oldPageId _ => !(table.replace oldPageId pageId victim).isOk
  | .flushRelease _ _ => true
  | .deleteFinish _ _ => true
  | .newCommit _ _ _ => true
  | _ => false

/-- The sections that a run without disk failures reaches. -/
def Pc.Smooth : Pc n → Prop
  | .flushFinish _ _ (.error _) _ => False
  | .deleteRollback _ _ _ => False
  | .newRollback _ _ _ _ => False
  | _ => True

/-- What a section does to the calls that wait on `state_cv`. -/
structure Outcome (pool : BufferPoolManager n) (pc : Pc n) (next : Next n) : Prop where
  smooth : next.pc.Smooth
  asleep : next.pc.asleep = true → ∃ frameId, (next.pool.frames frameId).isReserved = true
  signal : pc.grip.isSome = true → next.pc.grip = none →
    next.signal = .state ∨ pc.silent pool.pageTable = true

namespace Outcome

variable {pool pool' : BufferPoolManager n} {pc : Pc n} {next : Next n} {callId : CallId}
  {pageId : PageId} {frameId : Fin n}

/-- A section that goes on without falling asleep. -/
theorem goOn (hsmooth : next.pc.Smooth) (hasleep : next.pc.asleep = false)
    (hgrip : pc.grip = none ∨ next.pc.grip.isSome = true ∨ next.signal = .state ∨
      pc.silent pool.pageTable = true) : Outcome pool pc next where
  smooth := hsmooth
  asleep := by simp [hasleep]
  signal := by
    intro hsome hnone
    rcases hgrip with hgrip | hgrip | hgrip
    · simp [hgrip] at hsome
    · simp [hnone] at hgrip
    · exact hgrip

/-- Reserving a victim puts it in the hand of the call, or fails. -/
theorem reserveVictim (hpc : pc.grip = none) {whenDirty : PageId → Buffer pageSize → Pc n}
    {whenClean : PageId → Pc n}
    (hdirty : ∀ page data, (whenDirty page data).Smooth ∧ (whenDirty page data).asleep = false)
    (hclean : ∀ page, (whenClean page).Smooth ∧ (whenClean page).asleep = false) :
    Outcome pool pc (pool'.reserveVictim frameId whenDirty whenClean) := by
  unfold BufferPoolManager.reserveVictim
  cases (pool'.frames frameId).reserve with
  | error e => exact goOn trivial rfl (.inl hpc)
  | ok frame =>
      dsimp only
      cases frame.getPageId with
      | error e => exact goOn trivial rfl (.inl hpc)
      | ok oldPageId =>
          dsimp only
          split_ifs
          · exact goOn (hdirty _ _).1 (hdirty _ _).2 (.inl hpc)
          · exact goOn (hclean _).1 (hclean _).2 (.inl hpc)

/-- A section of `fetch_page` that finds no frame falls asleep only while some frame is
reserved. -/
theorem fetchEvict (hpc : pc.grip = none) : Outcome pool pc (pool'.fetchEvict pageId) := by
  unfold BufferPoolManager.fetchEvict
  split
  · exact goOn trivial rfl (.inl hpc)
  · dsimp only
    split
    · exact reserveVictim hpc (fun _ _ => ⟨trivial, rfl⟩) fun _ => ⟨trivial, rfl⟩
    · split_ifs with hreserved
      · exact
          { smooth := trivial
            asleep := fun _ => hreserved
            signal := by simp [hpc] }
      · exact goOn trivial rfl (.inl hpc)

/-- A fetch goes to sleep only when a frame is reserved. -/
theorem fetchDecide (missRecorded : Bool) :
    Outcome pool (.fetchStart pageId missRecorded)
      (pool.fetchDecide callId pageId missRecorded) := by
  unfold BufferPoolManager.fetchDecide
  split
  · unfold BufferPoolManager.fetchHit
    rename_i frameId htable
    split_ifs with hreserved
    · exact
        { smooth := trivial
          asleep := fun _ => ⟨frameId, hreserved⟩
          signal := nofun }
    · dsimp only
      split
      · exact goOn trivial rfl (.inl rfl)
      · split <;> exact goOn trivial rfl (.inl rfl)
  · unfold BufferPoolManager.fetchMiss
    split
    · exact goOn trivial rfl (.inl rfl)
    · dsimp only
      split
      · split <;> exact goOn trivial rfl (.inl rfl)
      · exact fetchEvict rfl

/-- Unpinning a page and marking it dirty give no frame back. -/
theorem changeResident (hpc : pc.grip = none) (change : Frame → Except IoError Frame) :
    Outcome pool pc (pool.changeResident pageId change) := by
  unfold BufferPoolManager.changeResident
  split
  · split_ifs
    · exact goOn trivial rfl (.inl hpc)
    · split <;> exact goOn trivial rfl (.inl hpc)
  · exact goOn trivial rfl (.inl hpc)

/-- The start of a flush takes its frame in hand, or fails. -/
theorem flushPage : Outcome pool (.flushStart pageId) (pool.flushPage pageId) := by
  unfold BufferPoolManager.flushPage
  split
  · split_ifs
    · exact goOn trivial rfl (.inl rfl)
    · split
      · exact goOn trivial rfl (.inl rfl)
      · split_ifs <;> exact goOn trivial rfl (.inl rfl)
  · exact goOn trivial rfl (.inl rfl)

/-- The start of a deletion takes its frame in hand, or fails. -/
theorem deletePage : Outcome pool (.deleteStart pageId) (pool.deletePage pageId) := by
  unfold BufferPoolManager.deletePage
  split
  · split_ifs
    · split
      · exact goOn trivial rfl (.inl rfl)
      · dsimp only
        split_ifs <;> exact goOn trivial rfl (.inl rfl)
    · exact goOn trivial rfl (.inl rfl)
  · exact goOn trivial rfl (.inl rfl)

/-- The start of `new_page` takes a victim in hand, or none. -/
theorem newPage : Outcome pool .newStart pool.newPage := by
  unfold BufferPoolManager.newPage
  dsimp only
  split_ifs
  · exact goOn trivial rfl (.inl rfl)
  · split
    · split <;> exact goOn trivial rfl (.inl rfl)
    · split
      · exact goOn trivial rfl (.inl rfl)
      · split
        · exact reserveVictim rfl (fun _ _ => ⟨trivial, rfl⟩) fun _ => ⟨trivial, rfl⟩
        · exact goOn trivial rfl (.inl rfl)

/-- An eviction notifies unless the page table refuses the new page. -/
theorem evictCommit {oldPageId : PageId} {buffer : Buffer pageSize} :
    Outcome pool (.evictCommit pageId frameId oldPageId buffer)
      (pool.evictCommit pageId frameId oldPageId buffer) := by
  rw [evictCommit_eq]
  cases hreplace : pool.pageTable.replace oldPageId pageId frameId with
  | error e =>
      refine goOn trivial rfl (.inr (.inr (.inr ?_)))
      rw [Pc.silent, hreplace]
      rfl
  | ok table => exact goOn trivial rfl (.inr (.inr (.inl rfl)))

/-- The commit of `new_page` gives its frame back in silence. -/
theorem newCommit {oldPageId : PageId} :
    Outcome pool (.newCommit pageId frameId oldPageId)
      (pool.newCommit pageId frameId oldPageId) := by
  rw [newCommit_eq]
  split <;> exact goOn trivial rfl (.inr (.inr (.inr rfl)))

end Outcome

namespace Parted

variable {pool : BufferPoolManager n} {hand : CallId → Option (Fin n × Grip)} {callId : CallId}
  {pageId : PageId} {frameId : Fin n} {caller : FlushCaller}

/-- Looking at a frame keeps it in hand. -/
theorem outcome_flushCheck (h : Parted pool hand)
    (hhand : hand callId = some (frameId, .reserved (Pc.grip.deleted pageId caller))) :
    Outcome pool (.flushCheck pageId frameId caller) (pool.flushCheck pageId frameId caller) := by
  have hheld := (h.held callId frameId _ hhand).2
  have hreserved : (pool.frames frameId).isReserved = true := by
    simp [Frame.isReserved, hheld.1]
  rcases Option.ne_none_iff_exists'.mp hheld.2.1 with ⟨found, hfound⟩
  unfold BufferPoolManager.flushCheck
  simp only [hreserved, Bool.not_true, Bool.false_eq_true, if_false, Frame.getPageId, hfound]
  split_ifs
  · exact .goOn trivial rfl (.inr (.inl rfl))
  · cases caller <;> exact .goOn trivial rfl (.inr (.inl rfl))

/-- After a successful write the frame is still in hand. -/
theorem outcome_flushFinish (h : Parted pool hand)
    (hhand : hand callId = some (frameId, .reserved (Pc.grip.deleted pageId caller)))
    {written : Except IoError Unit} (hsmooth : (Pc.flushFinish pageId frameId written caller).Smooth) :
    Outcome pool (.flushFinish pageId frameId written caller)
      (pool.flushFinish pageId frameId written caller) := by
  have hheld := (h.held callId frameId _ hhand).2
  cases written with
  | error e => exact hsmooth.elim
  | ok _ =>
      unfold BufferPoolManager.flushFinish
      simp only [Frame.clearDirty, Frame.updateMeta_of_ne_none hheld.2.1]
      cases caller <;> exact .goOn trivial rfl (.inr (.inl rfl))

/-- What the next section of a call does to the calls that wait on `state_cv`. -/
theorem outcome (h : Parted pool hand) {pc : Pc n} (hhand : hand callId = pc.grip)
    (hsmooth : pc.Smooth) {io : Io} (hio : io.Succeeds) {next : Next n}
    (hnext : pool.advance callId pc io = some next) : Outcome pool pc next := by
  cases pc with
  | fetchStart pageId missRecorded =>
      cases io <;> cases hnext
      exact .fetchDecide missRecorded
  | fetchCheckLoad pageId waiter =>
      cases io <;> simp only [BufferPoolManager.advance, reduceCtorEq] at hnext
      split_ifs at hnext <;> cases hnext <;> exact .goOn trivial rfl (.inl rfl)
  | fetchRead pageId frameId =>
      rcases io with _ | outcome | outcome | _ <;> cases hnext
      cases outcome <;> exact .goOn trivial rfl (.inr (.inl rfl))
  | fetchLoad pageId frameId buffer =>
      cases io <;> cases hnext
      rw [fetchLoad_eq]
      exact .goOn trivial rfl (.inr (.inl rfl))
  | fetchPublish pageId frameId | fetchReadFailed pageId frameId error
  | evictFailed pageId victim oldPageId error =>
      cases io <;> cases hnext
      exact .goOn trivial rfl (.inr (.inr (.inl rfl)))
  | evictWrite pageId victim oldPageId oldData =>
      rcases io with _ | outcome | outcome | _ <;> cases hnext
      cases outcome <;> exact .goOn trivial rfl (.inr (.inl rfl))
  | evictRead pageId victim oldPageId =>
      rcases io with _ | outcome | outcome | _ <;> cases hnext
      cases outcome <;> exact .goOn trivial rfl (.inr (.inl rfl))
  | evictCommit pageId victim oldPageId buffer =>
      cases io <;> simp only [BufferPoolManager.advance, Option.some_inj, reduceCtorEq] at hnext
      rw [← hnext]
      exact .evictCommit
  | unpinStart pageId | markDirtyStart pageId =>
      cases io <;> cases hnext
      exact .changeResident rfl _
  | flushStart pageId =>
      cases io <;> cases hnext
      exact .flushPage
  | deleteStart pageId =>
      cases io <;> cases hnext
      exact .deletePage
  | flushCheck pageId frameId caller =>
      cases io <;> cases hnext
      exact h.outcome_flushCheck hhand
  | flushWrite pageId frameId dirtyPageId bufferData caller =>
      rcases io with _ | outcome | outcome | _ <;> cases hnext
      cases outcome with
      | ok => exact .goOn trivial rfl (.inr (.inl rfl))
      | fail error left => exact hio.elim
  | flushFinish pageId frameId written caller =>
      cases io <;> cases hnext
      exact h.outcome_flushFinish hhand hsmooth
  | flushRelease pageId frameId | deleteFinish pageId frameId =>
      cases io <;> cases hnext
      exact .goOn trivial rfl (.inr (.inr (.inr rfl)))
  | deleteRollback pageId frameId error => exact hsmooth.elim
  | newStart =>
      cases io <;> cases hnext
      exact .newPage
  | newWrite newPageId victim oldPageId oldData =>
      rcases io with _ | outcome | outcome | _ <;> cases hnext
      cases outcome with
      | ok => exact .goOn trivial rfl (.inr (.inl rfl))
      | fail error left => exact hio.elim
  | newRollback newPageId victim oldPageId error => exact hsmooth.elim
  | newCommit newPageId victim oldPageId =>
      cases io <;> simp only [BufferPoolManager.advance, Option.some_inj, reduceCtorEq] at hnext
      rw [← hnext]
      exact .newCommit
  | fetchWaitState | fetchWaitLoad | fetchNotify =>
      cases io <;> cases hnext
      exact .goOn trivial rfl (.inl rfl)
  | returned result => cases io <;> cases hnext

end Parted

/-! ## Runs -/

/-- Signals leave what a call has in hand. -/
theorem Pc.grip_receive (signal : Signal) (pc : Pc n) : (pc.receive signal).grip = pc.grip := by
  cases pc <;> rfl

/-- Signals lead to no failure. -/
theorem Pc.Smooth.receive {pc : Pc n} (h : pc.Smooth) (signal : Signal) :
    (pc.receive signal).Smooth := by
  cases pc <;> exact h

/-- A call that sleeps on after a signal slept before, and the signal was another one. -/
theorem Pc.asleep_receive {signal : Signal} {pc : Pc n} (h : (pc.receive signal).asleep = true) :
    pc.asleep = true ∧ signal ≠ .state := by
  cases pc with
  | fetchWaitState pageId missRecorded notified =>
      simp only [receive, asleep, Bool.not_eq_true', Bool.or_eq_false_iff,
        decide_eq_false_iff_not] at h
      exact ⟨by simp [asleep, h.1], h.2⟩
  | _ => cases h

/-- The disk access of the section, if there is one, succeeds. -/
def Event.DiskSucceeds : Event → Prop
  | .start _ _ _ => True
  | .proceed _ io => io.Succeeds

namespace System

/-- The frames that the calls have in hand. -/
def hands (s : System n) : CallId → Option (Fin n × Grip) := fun callId => (s.pcs callId).bind Pc.grip

/-- A fetch is left asleep only while another call that has moved a frame to `Reserved`
has not returned. -/
def WakeUpDue (s : System n) : Prop :=
  ∀ callId pc, s.pcs callId = some pc → pc.asleep = true →
    ∃ other pc', other ≠ callId ∧ s.pcs other = some pc' ∧ pc'.hasReserved = true

/-- A call gives its frame back silently while a fetch sleeps, and no other call has a
frame in hand. -/
def leavesAsleep (s : System n) : Event → Bool
  | .start _ _ _ => false
  | .proceed callId _ => (s.pcs callId).any (Pc.silent s.pool.pageTable) &&
      ((List.range s.nextCall).any fun caller => (s.pcs caller).any Pc.asleep) &&
      (List.range s.nextCall).all fun other => other = callId || (s.hands other).isNone

/-- The invariant of runs whose disk does not fail: a fetch sleeps only while some call
has a frame in hand. -/
structure Attended (s : System n) : Prop where
  numbered : s.Numbered
  parted : Parted s.pool s.hands
  smooth : ∀ callId pc, s.pcs callId = some pc → pc.Smooth
  attended : ∀ callId pc, s.pcs callId = some pc → pc.asleep = true →
    ∃ other, (s.hands other).isSome = true

variable {s s' : System n} {e : Event} {callId : CallId} {activity : Activity n} {next : Next n}

/-- A call starts with nothing in hand. -/
theorem hands_launch (h : s.Numbered) (client : Nat) (call : Call) (releases : Option CallId) :
    (s.launch client call releases).hands = s.hands := by
  ext1 other
  rw [hands, pcs_launch]
  by_cases hother : other = s.nextCall
  · rw [hands, hother, Function.update_self, h.pcs_nextCall]
    cases call <;> rfl
  · rw [Function.update_of_ne hother, hands]

/-- A section changes what its own call has in hand. -/
theorem hands_resume (s : System n) (callId : CallId) (activity : Activity n) (next : Next n) :
    (s.resume callId activity next).hands = Function.update s.hands callId next.pc.grip := by
  ext1 other
  rw [hands, pcs_resume]
  by_cases hother : other = callId
  · rw [hother, Function.update_self, Function.update_self]
    exact Pc.grip_receive next.signal next.pc
  · rw [Function.update_of_ne hother, Function.update_of_ne hother, hands]
    cases s.pcs other with
    | none => rfl
    | some pc => exact Pc.grip_receive next.signal pc

/-- A call has in hand what its section says. -/
theorem hands_eq (hactivity : s.calls callId = some activity) :
    s.hands callId = activity.pc.grip := by
  rw [hands, pcs_eq_some hactivity, Option.bind_some]

/-- A frame that is reserved is in some hand. -/
theorem exists_hand {pool : BufferPoolManager n} {hand : CallId → Option (Fin n × Grip)}
    (h : Parted pool hand) {frameId : Fin n} (hreserved : (pool.frames frameId).isReserved = true) :
    ∃ other, (hand other).isSome = true := by
  by_contra hnone
  have hempty : ∀ other grip, hand other ≠ some (frameId, grip) := by
    intro other grip hgrip
    exact hnone ⟨other, by rw [hgrip]; rfl⟩
  have hstate : (pool.frames frameId).state = .reserved := by
    simpa [Frame.isReserved] using hreserved
  rcases h.unheld frameId hempty with ⟨-, hfree⟩ | ⟨-, hresident⟩
  · rw [hfree.state] at hstate
    cases hstate
  · rw [hresident.state] at hstate
    cases hstate

/-- The calls are apart before and after a section. -/
theorem Attended.parted_resume (h : s.Attended) (hactivity : s.calls callId = some activity)
    {io : Io} (hnext : s.pool.advance callId activity.pc io = some next) :
    Parted next.pool (Function.update s.hands callId next.pc.grip) := by
  refine h.parted.advance (hands_eq hactivity) ?_ hnext
  intro other frameId _ hrestored
  rcases Option.bind_eq_some_iff.mp hrestored with ⟨pc, hpc, hgrip⟩
  have hsmooth := h.smooth other pc hpc
  cases pc <;> first
    | exact hsmooth
    | cases hgrip

/-- A fetch that sleeps after a section is attended. -/
theorem Attended.attended_resume (h : s.Attended) (hactivity : s.calls callId = some activity)
    {io : Io} (hnext : s.pool.advance callId activity.pc io = some next)
    (houtcome : Outcome s.pool activity.pc next)
    (hleaves : s.leavesAsleep (.proceed callId io) = false) {caller : CallId} {pc : Pc n}
    (hpc : (s.resume callId activity next).pcs caller = some pc) (hasleep : pc.asleep = true) :
    ∃ other, (Function.update s.hands callId next.pc.grip other).isSome = true := by
  rcases pcs_resume_cases hpc with ⟨-, rfl⟩ | ⟨-, before, hbefore, rfl⟩
  · -- the call itself falls asleep
    rcases houtcome.asleep (Pc.asleep_receive hasleep).1 with ⟨frameId, hreserved⟩
    exact exists_hand (h.parted_resume hactivity hnext) hreserved
  · rcases Pc.asleep_receive hasleep with ⟨hslept, hsignal⟩
    rcases h.attended caller before hbefore hslept with ⟨other, hother⟩
    by_cases hself : other = callId
    · subst hself
      cases hgrip : next.pc.grip with
      | some taken => exact ⟨other, by rw [Function.update_self]; rfl⟩
      | none =>
          -- the section gives a frame back, but the sleeping call is not notified
          rw [hands_eq hactivity] at hother
          have hsilent := (houtcome.signal hother hgrip).resolve_left hsignal
          by_contra hnone
          apply Bool.eq_false_iff.mp hleaves
          simp only [leavesAsleep, Bool.and_eq_true, List.any_eq_true, List.all_eq_true,
            List.mem_range, Bool.or_eq_true, decide_eq_true_eq]
          refine ⟨⟨?_, caller, h.numbered caller before hbefore, ?_⟩, ?_⟩
          · rw [pcs_eq_some hactivity]
            exact hsilent
          · rw [hbefore]
            exact hslept
          · intro third _
            by_cases hthird : third = other
            · exact .inl hthird
            · refine .inr (Option.isNone_iff_eq_none.mpr (Option.not_isSome_iff_eq_none.mp ?_))
              intro hsome
              exact hnone ⟨third, by rwa [Function.update_of_ne hthird]⟩
    · exact ⟨other, by rwa [Function.update_of_ne hself]⟩

/-- Every step keeps some call with a frame in hand while a fetch sleeps, if no frame is given
back in silence. -/
theorem Attended.step (h : s.Attended) (hstep : s.Step e s') (hdisk : e.DiskSucceeds)
    (hleaves : s.leavesAsleep e = false) : s'.Attended := by
  have hnumbered := h.numbered.step hstep
  rcases step_cases hstep with ⟨client, call, releases, rfl, rfl⟩ |
    ⟨callId, io, activity, next, rfl, hactivity, hnext, rfl⟩
  · refine
      { numbered := hnumbered
        parted := ?_
        smooth := ?_
        attended := ?_ }
    · rcases record_eq s.pool call with ⟨metrics, hmetrics⟩
      rw [hands_launch h.numbered, launch, hmetrics]
      exact h.parted.keep (fun _ => Frame.SameButReference.refl _) rfl rfl
    · intro caller pc hpc
      rcases pcs_launch_cases hpc with ⟨-, rfl⟩ | ⟨-, hpc⟩
      · cases call <;> trivial
      · exact h.smooth caller pc hpc
    · intro caller pc hpc hasleep
      rw [hands_launch h.numbered]
      rcases pcs_launch_cases hpc with ⟨-, rfl⟩ | ⟨-, hpc⟩
      · cases call <;> cases hasleep
      · exact h.attended caller pc hpc hasleep
  · have houtcome := h.parted.outcome (hands_eq hactivity)
      (h.smooth callId _ (pcs_eq_some hactivity)) hdisk hnext
    refine
      { numbered := hnumbered
        parted := ?_
        smooth := ?_
        attended := ?_ }
    · rw [hands_resume]
      exact h.parted_resume hactivity hnext
    · intro caller pc hpc
      rcases pcs_resume_cases hpc with ⟨-, rfl⟩ | ⟨-, before, hbefore, rfl⟩
      · exact houtcome.smooth.receive next.signal
      · exact (h.smooth caller before hbefore).receive next.signal
    · intro caller pc hpc hasleep
      rw [hands_resume]
      exact h.attended_resume hactivity hnext houtcome hleaves hpc hasleep

/-- A call with a frame in hand has moved it to `Reserved`. -/
theorem Attended.wakeUpDue (h : s.Attended) : s.WakeUpDue := by
  intro caller pc hpc hasleep
  rcases h.attended caller pc hpc hasleep with ⟨other, hother⟩
  cases hpc' : s.pcs other with
  | none => simp [hands, hpc'] at hother
  | some pc' =>
      have hgrip : pc'.grip.isSome = true := by simpa [hands, hpc'] using hother
      refine ⟨other, pc', ?_, hpc', ?_⟩
      · rintro rfl
        rw [hpc, Option.some_inj] at hpc'
        subst hpc'
        cases pc <;> first
          | cases hasleep
          | cases hgrip
      · cases pc' <;> first
          | rfl
          | exact hgrip

/-- In a new pool nobody sleeps. -/
theorem new_attended (n : Nat) (file : List UInt8) : (System.new n file).Attended where
  numbered := new_numbered n file
  parted := partitioned_iff.mp (new_partitioned n file)
  smooth := by rintro callId pc ⟨⟩
  attended := by rintro callId pc ⟨⟩

end System

/-- In every run whose disk does not fail, and in which no call gives its frame back
silently and leaves a sleeping fetch alone, a fetch sleeps on `state_cv` only while another
call that has moved a frame to `Reserved` has not returned. -/
theorem wake_up_due (n : Nat) (file : List UInt8) {path : List (Event × System n)}
    (hpath : IsPath System.Step (System.new n file) path)
    (hdisk : EveryStep (fun _ e _ => e.DiskSucceeds) (System.new n file) path)
    (hleaves : EveryStep (fun s e _ => s.leavesAsleep e = false) (System.new n file) path) :
    EveryState System.WakeUpDue (System.new n file) path := by
  have hattended : EveryState System.Attended (System.new n file) path :=
    hpath.everyState (hdisk.and hleaves) (System.new_attended n file)
      fun s e s' h hstep hboth => h.step hstep hboth.1 hboth.2
  exact hattended.imp fun s => System.Attended.wakeUpDue

/-- While a client evicts page 0 for page 1, another one fetches page 0, sleeps, and is
notified when the eviction is done. -/
def fetchDuringEviction : List Event :=
  [.start 0 .newPage none, .proceed 0 .none, .start 0 (.unpinPage 0) (some 0), .proceed 1 .none,
    .start 0 (.fetchPage 1) none, .proceed 2 .none, .start 1 (.fetchPage 0) none,
    .proceed 3 .none, .proceed 2 (.write .ok), .proceed 2 (.read (.ok fun _ => 4096)),
    .proceed 2 .none, .proceed 3 .wake]

/-- The fetch is woken up when the eviction is done. -/
theorem wake_up_due_fetchDuringEviction :
    (follow System.step (System.new 1 []) fetchDuringEviction).length = 12 ∧
      EveryState System.WakeUpDue (System.new 1 [])
        (follow System.step (System.new 1 []) fetchDuringEviction) :=
  ⟨by decide +kernel, wake_up_due 1 [] (isPath_follow System.step _ fetchDuringEviction)
    (everyStep_follow (by simp [fetchDuringEviction, Event.DiskSucceeds, Io.Succeeds]) _)
    (by decide +kernel)⟩

/-- A client fetches a page while another one flushes it. -/
def fetchDuringFlush : List Event :=
  [.start 0 .newPage none, .proceed 0 .none, .start 0 (.flushPage 0) none, .proceed 1 .none,
    .start 1 (.fetchPage 0) none, .proceed 2 .none, .proceed 1 .none, .proceed 1 (.write .ok),
    .proceed 1 .none, .proceed 1 .none]

/-- The flush returns without a word, and the fetch sleeps on. -/
theorem fetch_sleeps_after_flush :
    ∃ path, IsPath System.Step (System.new 1 []) path ∧
      EveryStep (fun _ e _ => e.DiskSucceeds) (System.new 1 []) path ∧
      EveryStep (fun s e _ => s.wakesNotified e = true) (System.new 1 []) path ∧
      ¬ EveryState System.WakeUpDue (System.new 1 []) path := by
  have hpath := isPath_follow System.step (System.new 1 []) fetchDuringFlush
  refine ⟨_, hpath, everyStep_follow (by simp [fetchDuringFlush, Event.DiskSucceeds, Io.Succeeds]) _,
    by decide +kernel, fun hdue => ?_⟩
  have hnumbered : EveryState System.Numbered (System.new 1 [])
      (follow System.step (System.new 1 []) fetchDuringFlush) :=
    hpath.invariant (System.new_numbered 1 []) fun _ _ _ => System.Numbered.step
  have hlast : (lastState (System.new 1 []) (follow System.step (System.new 1 [])
      fetchDuringFlush)).pcs 2 = some (.fetchWaitState 0 false false) := by decide +kernel
  rcases hdue.last 2 _ hlast rfl with ⟨other, pc, -, hother, hreserved⟩
  have hreturned : ((List.range (lastState (System.new 1 []) (follow System.step (System.new 1 [])
      fetchDuringFlush)).nextCall).any fun other => ((lastState (System.new 1 [])
        (follow System.step (System.new 1 []) fetchDuringFlush)).pcs other).any Pc.hasReserved) =
      false := by decide +kernel
  rw [List.any_eq_false] at hreturned
  exact hreturned other (List.mem_range.mpr (hnumbered.last other pc hother)) (by rwa [hother])

end Storage
end TaskPool
