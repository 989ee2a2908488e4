import TaskPool.Storage.BufferPool.SingleFlight
import TaskPool.Storage.BufferPool.Wakeup

/-!
# Calls get on

A fetch waits in two places: on `state_cv` for a frame that is reserved, and on the
condition variable of a load.  The variable belongs to the loader whose entry the fetch has
found; by the time the fetch goes to sleep the load may be over and another call may be
loading the page, which will notify a variable of its own.

Main results:

- Structure `System.Moving`: every entry has a loader at work, and every fetch that sleeps
  for a load will be notified.
- Theorem `never_stuck`: when every fetch finds its page or a frame, no call gives a frame
  back silently, and no fetch goes to sleep too late, some call can always go on until all
  have returned.
- Theorem `fetch_sleeps_too_late`: a run in which one goes to sleep too late.
-/

namespace TaskPool
namespace Storage

open BufferPoolManager Library

variable {n : Nat}

/-- The variable that the call is about to notify. -/
def Pc.notifies : Pc n → Option CallId
  | .fetchNotify waiter _ => waiter
  | _ => none

/-- Signals give no call anybody to notify. -/
theorem Pc.notifies_receive (signal : Signal) (pc : Pc n) :
    (pc.receive signal).notifies = pc.notifies := by
  cases pc <;> rfl

/-- A fetch that sleeps for a load after a signal slept before, and the signal was another
one. -/
theorem Pc.receive_eq_fetchWaitLoad {signal : Signal} {pc : Pc n} {pageId : PageId}
    {waiter : CallId} (h : pc.receive signal = .fetchWaitLoad pageId waiter false) :
    pc = .fetchWaitLoad pageId waiter false ∧ signal ≠ .load waiter := by
  cases pc with
  | fetchWaitLoad page other notified =>
      simp only [receive, Pc.fetchWaitLoad.injEq, Bool.or_eq_false_iff,
        decide_eq_false_iff_not] at h
      rcases h with ⟨rfl, rfl, rfl, hsignal⟩
      exact ⟨rfl, hsignal⟩
  | _ => cases h

/-- The call has not returned, and it does not wait for a signal. -/
def Pc.hasSection (pc : Pc n) : Bool := !pc.isReturned && pc.notified

/-- A call with a frame in hand has a section to run. -/
theorem Pc.hasSection_of_grip {pc : Pc n} {hand : Fin n × Grip} (h : pc.grip = some hand) :
    pc.hasSection = true := by
  cases pc <;> first
    | rfl
    | cases h

/-- A call that loads a page has a section to run. -/
theorem Pc.hasSection_of_loading {pc : Pc n} {pageId : PageId} (h : pc.loading = some pageId) :
    pc.hasSection = true := by
  cases pc <;> first
    | rfl
    | cases h

/-- A call that is about to notify others has a section to run. -/
theorem Pc.hasSection_of_notifies {pc : Pc n} {waiter : CallId} (h : pc.notifies = some waiter) :
    pc.hasSection = true := by
  cases pc <;> first
    | rfl
    | cases h

/-- A call with a section to run runs it when its disk access succeeds. -/
theorem exists_advance (pool : BufferPoolManager n) (callId : CallId) {pc : Pc n}
    (h : pc.hasSection = true) :
    ∃ io next, io.Succeeds ∧ pool.advance callId pc io = some next := by
  cases pc with
  | fetchCheckLoad pageId waiter =>
      refine ⟨.none, ?_⟩
      rw [advance]
      split_ifs <;> exact ⟨_, trivial, rfl⟩
  | fetchRead | evictRead => exact ⟨.read (.ok fun _ => 0), _, trivial, rfl⟩
  | evictWrite | flushWrite | newWrite => exact ⟨.write .ok, _, trivial, rfl⟩
  | fetchWaitState | fetchWaitLoad => exact ⟨.wake, _, trivial, rfl⟩
  | returned => cases h
  | _ => exact ⟨.none, _, trivial, rfl⟩

/-- A section that is run without an unasked wake-up was there to run. -/
theorem hasSection_of_advance {pool : BufferPoolManager n} {callId : CallId} {pc : Pc n} {io : Io}
    {next : Next n} (hnext : pool.advance callId pc io = some next)
    (hwake : io = .wake → pc.notified = true) : pc.hasSection = true := by
  cases pc with
  | fetchWaitState | fetchWaitLoad =>
      cases io with
      | wake => exact hwake rfl
      | _ => cases hnext
  | returned => cases io <;> cases hnext
  | _ => rfl

namespace Effect

variable {pool : BufferPoolManager n} {slot slot' : Fin n → Slot} {callId : CallId} {pc : Pc n}
  {io : Io} {next : Next n} {pageId : PageId}

/-- A fetch goes to sleep for a load after a check that the page is being loaded. -/
theorem of_fetchWaitLoad (heffect : Effect callId pool slot pc io next slot')
    (hadvance : pool.advance callId pc io = some next) {waiter : CallId}
    (hnext : next.pc = .fetchWaitLoad pageId waiter false) :
    pc = .fetchCheckLoad pageId waiter ∧ io = .none ∧ next.pool = pool ∧
      pool.inFlightLoads pageId ≠ none := by
  cases heffect with
  | checkAgain =>
      cases hnext
      refine ⟨rfl, rfl, rfl, fun hnone => ?_⟩
      rw [advance, hnone] at hadvance
      cases hadvance
  | fetchVictim | newVictim =>
      dsimp only at hnext
      split_ifs at hnext
  | @checkClean _ _ caller => cases caller <;> cases hnext
  | @flushDone _ _ caller => cases caller <;> cases hnext
  | @flushUndo _ _ caller => cases caller <;> cases hnext
  | _ => cases hnext

/-- A loader goes on loading, or is about to notify those who wait for it. -/
theorem loading_or_notifies (heffect : Effect callId pool slot pc io next slot')
    (hloading : pc.loading = some pageId) :
    next.pc.loading = some pageId ∨ next.pc.notifies = pool.inFlightLoads pageId := by
  cases heffect with
  | readOk | readFail | load | evictWriteOk | evictWriteFail | evictReadOk | evictReadFail =>
      exact .inl hloading
  | publish | giveBack | commit | restore =>
      cases hloading
      exact .inr rfl
  | _ => cases hloading

end Effect

namespace System

variable {s s' : System n} {e : Event} {callId : CallId} {activity : Activity n} {next : Next n}

/-- A fetch that finds its page neither resident nor being loaded finds no frame either. -/
def findsNoFrame (s : System n) : Event → Bool
  | .start _ _ _ => false
  | .proceed callId _ => ((s.pcs callId).bind Pc.lookedUp).any s.pool.findsNoFrame

/-- The load that a fetch is about to wait for is over, and those who have waited for it
are notified; another call is loading the page. -/
def sleepsTooLate (s : System n) : Event → Bool
  | .start _ _ _ => false
  | .proceed callId _ =>
    match s.pcs callId with
    | some (.fetchCheckLoad pageId waiter) =>
      (s.pool.inFlightLoads pageId).any (· ≠ waiter) &&
        decide ((s.pcs waiter).bind Pc.notifies ≠ some waiter)
    | _ => false

/-- The invariant: every entry has a loader at work, and every fetch that sleeps for a load
waits for the loader of its page or will be notified. -/
structure Moving (s : System n) : Prop where
  ordered : s.Ordered
  attended : s.Attended
  entered : s.LoadersEntered
  loader : ∀ pageId loader, s.pool.inFlightLoads pageId = some loader →
    ∃ pc, s.pcs loader = some pc ∧ pc.loading = some pageId
  awaited : ∀ callId pageId waiter, s.pcs callId = some (.fetchWaitLoad pageId waiter false) →
    s.pool.inFlightLoads pageId = some waiter ∨
      ∃ pc, s.pcs waiter = some pc ∧ pc.notifies = some waiter

/-- A new pool meets the invariant. -/
theorem new_moving (n : Nat) (file : List UInt8) : (System.new n file).Moving where
  ordered := (new_idle n file).ordered
  attended := new_attended n file
  entered := new_loadersEntered n file
  loader := by rintro pageId loader ⟨⟩
  awaited := by rintro callId pageId waiter ⟨⟩

/-- A call that has started before goes on when another one starts. -/
theorem pcs_launch_of_some (h : s.Numbered) {caller : CallId} {pc : Pc n}
    (hpc : s.pcs caller = some pc) (client : Nat) (call : Call) (releases : Option CallId) :
    (s.launch client call releases).pcs caller = some pc := by
  rw [pcs_launch, Function.update_of_ne (h caller pc hpc).ne, hpc]

/-- Every entry has a loader at work after a section. -/
theorem Moving.loader_resume (h : s.Moving) {before : Pc n} (hpc : s.pcs callId = some before)
    (heffect : LoadEffect callId s.pool before next)
    (hfinds : ∀ pageId, before.lookedUp = some pageId → s.pool.findsNoFrame pageId = false)
    {pageId : PageId} {loader : CallId} (hload : next.pool.inFlightLoads pageId = some loader)
    (activity : Activity n) :
    ∃ pc, (s.resume callId activity next).pcs loader = some pc ∧ pc.loading = some pageId := by
  have hself : next.pc.loading = some pageId → loader = callId →
      ∃ pc, (s.resume callId activity next).pcs loader = some pc ∧ pc.loading = some pageId := by
    rintro hloading rfl
    exact ⟨_, pcs_resume_self s loader activity next, by rw [Pc.loading_receive, hloading]⟩
  have hkept : s.pool.inFlightLoads pageId = some loader →
      (before.loading = some pageId → next.pc.loading = some pageId) →
      ∃ pc, (s.resume callId activity next).pcs loader = some pc ∧ pc.loading = some pageId := by
    intro hentry hstays
    rcases h.loader pageId loader hentry with ⟨pc, hloader, hloading⟩
    by_cases heq : loader = callId
    · rw [heq, hpc, Option.some_inj] at hloader
      exact hself (hstays (hloader ▸ hloading)) heq
    · exact ⟨_, pcs_resume_of_some hloader heq activity next,
        by rw [Pc.loading_receive, hloading]⟩
  cases heffect with
  | @begins page _ _ _ _ hnext _ hloads =>
      rw [hloads] at hload
      by_cases hpage : pageId = page
      · rw [hpage, Function.update_self, Option.some_inj] at hload
        exact hself (hpage ▸ hnext) hload.symm
      · rw [Function.update_of_ne hpage] at hload
        exact hkept hload nofun
  | leaves hnone => exact absurd hnone (by rw [hfinds _ rfl]; exact Bool.false_ne_true)
  | @ends _ page _ hends _ _ hloads =>
      rw [hloads] at hload
      by_cases hpage : pageId = page
      · rw [hpage, Function.update_self] at hload
        cases hload
      · rw [Function.update_of_ne hpage] at hload
        refine hkept hload fun hloading => ?_
        rw [hends, Option.some_inj] at hloading
        exact absurd hloading.symm hpage
  | keeps hnext _ _ hloads =>
      rw [hloads] at hload
      exact hkept hload fun hloading => hnext.trans hloading

/-- Every fetch that sleeps for a load after a section will be notified. -/
theorem Moving.awaited_resume (h : s.Moving) (hactivity : s.calls callId = some activity) {io : Io}
    (hnext : s.pool.advance callId activity.pc io = some next) {slot slot' : Fin n → Slot}
    (heffect : Effect callId s.pool slot activity.pc io next slot')
    (hlate : s.sleepsTooLate (.proceed callId io) = false) {caller : CallId} {pageId : PageId}
    {waiter : CallId}
    (hcaller : (s.resume callId activity next).pcs caller = some (.fetchWaitLoad pageId waiter false)) :
    next.pool.inFlightLoads pageId = some waiter ∨
      ∃ pc, (s.resume callId activity next).pcs waiter = some pc ∧ pc.notifies = some waiter := by
  have hpc := pcs_eq_some hactivity
  have hothers : ∀ pc, s.pcs waiter = some pc → pc.notifies = some waiter → waiter ≠ callId →
      ∃ pc, (s.resume callId activity next).pcs waiter = some pc ∧ pc.notifies = some waiter := by
    intro pc hwaiter hnotifies hne
    exact ⟨_, pcs_resume_of_some hwaiter hne activity next, by rw [Pc.notifies_receive, hnotifies]⟩
  rcases pcs_resume_cases hcaller with ⟨rfl, hreceive⟩ | ⟨-, before, hbefore, hreceive⟩
  · -- the call itself goes to sleep
    rcases heffect.of_fetchWaitLoad hnext (Pc.receive_eq_fetchWaitLoad hreceive.symm).1 with
      ⟨hcheck, rfl, hpool, hsome⟩
    rw [hcheck] at hpc
    rw [hpool]
    cases hentry : s.pool.inFlightLoads pageId with
    | none => exact absurd hentry hsome
    | some loader =>
        by_cases heq : loader = waiter
        · exact .inl (by rw [heq])
        · right
          simp only [sleepsTooLate, hpc, hentry, Option.any_some, ne_eq, heq, decide_false,
            Bool.not_false, Bool.true_and, decide_not, Bool.not_eq_false', decide_eq_true_eq]
            at hlate
          rcases Option.bind_eq_some_iff.mp hlate with ⟨pc, hwaiter, hnotifies⟩
          refine hothers pc hwaiter hnotifies ?_
          rintro rfl
          rw [hpc, Option.some_inj] at hwaiter
          rw [← hwaiter] at hnotifies
          cases hnotifies
  · rcases Pc.receive_eq_fetchWaitLoad hreceive.symm with ⟨rfl, hsignal⟩
    rcases h.awaited caller pageId waiter hbefore with hentry | ⟨pc, hwaiter, hnotifies⟩
    · rcases (KeepsEntries.advance hnext).others pageId waiter hentry with hkept | hloading
      · exact .inl hkept
      · -- the load that the fetch waits for goes on, or its end is about to be notified
        have hself := h.entered callId _ pageId hpc hloading
        rw [hentry, Option.some_inj] at hself
        subst hself
        rcases heffect.loading_or_notifies hloading with hstays | hends
        · have hentered := h.entered.resume hactivity (KeepsEntries.advance hnext)
          exact .inl (hentered waiter _ pageId (pcs_resume_self s waiter activity next)
            (by rw [Pc.loading_receive, hstays]))
        · exact .inr ⟨_, pcs_resume_self s waiter activity next,
            by rw [Pc.notifies_receive, hends, hentry]⟩
    · refine .inr (hothers pc hwaiter hnotifies ?_)
      rintro rfl
      rw [hpc, Option.some_inj] at hwaiter
      subst hwaiter
      -- the section of the notifier is the notification
      cases hcase : activity.pc with
      | fetchNotify signalled result =>
          rw [hcase] at hnotifies heffect
          cases heffect
          exact hsignal (by rw [show signalled = some waiter from hnotifies]; rfl)
      | _ =>
          rw [hcase] at hnotifies
          cases hnotifies

/-- Every step that meets the conditions keeps the invariant. -/
theorem Moving.step (h : s.Moving) (hstep : s.Step e s') (hplain : e.Plain)
    (hfinds : s.findsNoFrame e = false) (hleaves : s.leavesAsleep e = false)
    (hlate : s.sleepsTooLate e = false) : s'.Moving := by
  have hdisk : e.DiskSucceeds := by
    cases e with
    | start => trivial
    | proceed callId io => exact hplain
  refine ⟨h.ordered.step hstep hplain, h.attended.step hstep hdisk hleaves, h.entered.step hstep,
    ?_, ?_⟩
  all_goals
    rcases step_cases hstep with ⟨client, call, releases, rfl, rfl⟩ |
      ⟨callId, io, activity, next, rfl, hactivity, hnext, rfl⟩
  · intro pageId loader hload
    rcases record_eq s.pool call with ⟨metrics, hmetrics⟩
    rw [launch, hmetrics] at hload
    rcases h.loader pageId loader hload with ⟨pc, hpc, hloading⟩
    exact ⟨pc, pcs_launch_of_some h.ordered.numbered hpc client call releases, hloading⟩
  · intro pageId loader hload
    rcases h.ordered.effect hactivity hnext with ⟨slot, slot', -, heffect⟩
    refine h.loader_resume (pcs_eq_some hactivity) (heffect.loadEffect hnext) ?_ hload activity
    intro page hlookup
    simpa [findsNoFrame, pcs_eq_some hactivity, hlookup] using hfinds
  · intro callId pageId waiter hpc
    rcases record_eq s.pool call with ⟨metrics, hmetrics⟩
    rcases pcs_launch_cases hpc with ⟨-, hentry⟩ | ⟨-, hpc⟩
    · cases call <;> cases hentry
    · rcases h.awaited callId pageId waiter hpc with hload | ⟨pc, hwaiter, hnotifies⟩
      · left
        rw [launch, hmetrics]
        exact hload
      · exact .inr ⟨pc, pcs_launch_of_some h.ordered.numbered hwaiter client call releases,
          hnotifies⟩
  · intro caller pageId waiter hcaller
    rcases h.ordered.effect hactivity hnext with ⟨slot, slot', -, heffect⟩
    exact h.awaited_resume hactivity hnext heffect hlate hcaller

/-- All calls have returned, or some call can run its next section: it does not wait, or it
was notified, and its disk access, if it has one, succeeds. -/
def CanGoOn (s : System n) : Prop :=
  (∀ callId pc, s.pcs callId = some pc → pc.isReturned = true) ∨
    ∃ callId io s', io.Succeeds ∧ s.wakesNotified (.proceed callId io) = true ∧
      s.Step (.proceed callId io) s'

/-- A call that has a section to run can run it. -/
theorem canGoOn_of_hasSection {pc : Pc n} (hpc : s.pcs callId = some pc)
    (hsection : pc.hasSection = true) : s.CanGoOn := by
  rcases Option.map_eq_some_iff.mp hpc with ⟨activity, hactivity, rfl⟩
  rcases exists_advance s.pool callId hsection with ⟨io, next, hsucceeds, hnext⟩
  refine .inr ⟨callId, io, s.resume callId activity next, hsucceeds, ?_, ?_⟩
  · cases io with
    | wake =>
        rw [wakesNotified, pcs_eq_some hactivity, Option.any_some]
        exact (Bool.and_eq_true_iff.mp hsection).2
    | _ => rfl
  · rw [Step, step, hactivity, Option.bind_eq_bind, Option.bind_some, hnext, Option.bind_eq_bind,
      Option.bind_some]

/-- Some call has a section to run when one can go on. -/
theorem CanGoOn.exists_hasSection (h : s.CanGoOn) {pc : Pc n} (hpc : s.pcs callId = some pc)
    (hreturned : pc.isReturned = false) :
    ∃ other pc, s.pcs other = some pc ∧ pc.hasSection = true := by
  rcases h with hall | ⟨other, io, s', -, hwakes, hstep⟩
  · rw [hall callId pc hpc] at hreturned
    cases hreturned
  · rcases step_cases hstep with ⟨_, _, _, hstart, -⟩ |
      ⟨_, _, activity, next, hproceed, hactivity, hnext, -⟩
    · cases hstart
    · cases hproceed
      refine ⟨other, activity.pc, pcs_eq_some hactivity, hasSection_of_advance hnext ?_⟩
      rintro rfl
      rwa [wakesNotified, pcs_eq_some hactivity, Option.any_some] at hwakes

/-- Under the invariant some call can run a section, unless all have returned. -/
theorem Moving.canGoOn (h : s.Moving) : s.CanGoOn := by
  by_cases hall : ∀ callId pc, s.pcs callId = some pc → pc.isReturned = true
  · exact .inl hall
  push Not at hall
  rcases hall with ⟨callId, pc, hpc, hreturned⟩
  rw [ne_eq, Bool.not_eq_true] at hreturned
  cases hnotified : pc.notified with
  | true => exact canGoOn_of_hasSection hpc (by rw [Pc.hasSection, hreturned, hnotified]; rfl)
  | false =>
      cases pc with
      | fetchWaitState pageId missRecorded notified =>
          -- some other call has a frame in hand
          rcases h.attended.attended callId _ hpc (by
            rw [Pc.asleep, show notified = false from hnotified]; rfl) with ⟨other, hother⟩
          rcases Option.isSome_iff_exists.mp hother with ⟨hand, hhand⟩
          rcases Option.bind_eq_some_iff.mp hhand with ⟨pc, hpc, hgrip⟩
          exact canGoOn_of_hasSection hpc (Pc.hasSection_of_grip hgrip)
      | fetchWaitLoad pageId waiter notified =>
          rw [show notified = false from hnotified] at hpc
          rcases h.awaited callId pageId waiter hpc with hload | ⟨pc, hpc, hnotifies⟩
          · rcases h.loader pageId waiter hload with ⟨pc, hpc, hloading⟩
            exact canGoOn_of_hasSection hpc (Pc.hasSection_of_loading hloading)
          · exact canGoOn_of_hasSection hpc (Pc.hasSection_of_notifies hnotifies)
      | _ => cases hnotified

end System

/-- In every run without `new_page` and without disk failures, in which every fetch finds its
page or a frame, no call gives a frame back silently and leaves a sleeping fetch alone, and
no fetch goes to sleep for a load that is over, the pool is never stuck: as long as some
call has not returned, some call can go on without a wake-up that nobody has given. -/
theorem never_stuck (n : Nat) (file : List UInt8) {path : List (Event × System n)}
    (hpath : IsPath System.Step (System.new n file) path)
    (hplain : EveryStep (fun _ e _ => e.Plain) (System.new n file) path)
    (hfinds : EveryStep (fun s e _ => s.findsNoFrame e = false) (System.new n file) path)
    (hleaves : EveryStep (fun s e _ => s.leavesAsleep e = false) (System.new n file) path)
    (hlate : EveryStep (fun s e _ => s.sleepsTooLate e = false) (System.new n file) path) :
    EveryState System.CanGoOn (System.new n file) path := by
  have hmoving : EveryState System.Moving (System.new n file) path :=
    hpath.everyState (hplain.and (hfinds.and (hleaves.and hlate))) (System.new_moving n file)
      fun s e s' h hstep hgood => h.step hstep hgood.1 hgood.2.1 hgood.2.2.1 hgood.2.2.2
  exact hmoving.imp fun s => System.Moving.canGoOn

/-- The two fetches can go on in every state. -/
theorem never_stuck_twoFetches :
    (follow System.step (System.new 1 []) twoFetches).length = 12 ∧
      EveryState System.CanGoOn (System.new 1 [])
        (follow System.step (System.new 1 []) twoFetches) :=
  ⟨by decide +kernel, never_stuck 1 [] (isPath_follow System.step _ twoFetches)
    (everyStep_follow (by simp [twoFetches, Event.Plain, Io.Succeeds]) _)
    (by decide +kernel) (by decide +kernel) (by decide +kernel)⟩

/-- A fetch finds page 0 being loaded and comes to its condition variable after the load is
over, the page was deleted, and another fetch loads it again. -/
def fetchBetweenLoads : List Event :=
  [.start 0 (.fetchPage 0) none, .start 1 (.fetchPage 0) none, .proceed 0 .none, .proceed 1 .none,
    .proceed 0 (.read (.ok fun _ => 4096)), .proceed 0 .none, .proceed 0 .none, .proceed 0 .none,
    .start 0 (.unpinPage 0) (some 0), .proceed 2 .none, .start 0 (.deletePage 0) none,
    .proceed 3 .none, .start 0 (.fetchPage 0) none, .proceed 4 .none, .proceed 1 .none,
    .proceed 4 (.read (.ok fun _ => 4096)), .proceed 4 .none, .proceed 4 .none, .proceed 4 .none]

/-- All others have returned, and the fetch sleeps on. -/
theorem fetch_sleeps_too_late :
    ∃ path, IsPath System.Step (System.new 1 []) path ∧
      EveryStep (fun _ e _ => e.Plain) (System.new 1 []) path ∧
      EveryStep (fun s e _ => s.findsNoFrame e = false ∧ s.leavesAsleep e = false)
        (System.new 1 []) path ∧
      ¬ EveryState System.CanGoOn (System.new 1 []) path := by
  have hpath := isPath_follow System.step (System.new 1 []) fetchBetweenLoads
  refine ⟨_, hpath, everyStep_follow (by simp [fetchBetweenLoads, Event.Plain, Io.Succeeds]) _,
    by decide +kernel, fun hgoOn => ?_⟩
  have hnumbered : EveryState System.Numbered (System.new 1 [])
      (follow System.step (System.new 1 []) fetchBetweenLoads) :=
    hpath.invariant (System.new_numbered 1 []) fun _ _ _ => System.Numbered.step
  have hlast : (lastState (System.new 1 []) (follow System.step (System.new 1 [])
        fetchBetweenLoads)).pcs 1 = some (.fetchWaitLoad 0 0 false) ∧
      ((List.range (lastState (System.new 1 []) (follow System.step (System.new 1 [])
        fetchBetweenLoads)).nextCall).any fun other => ((lastState (System.new 1 [])
          (follow System.step (System.new 1 []) fetchBetweenLoads)).pcs other).any Pc.hasSection) =
        false := by decide +kernel
  rcases hgoOn.last.exists_hasSection hlast.1 rfl with ⟨other, pc, hother, hsection⟩
  refine List.any_eq_false.mp hlast.2 other ?_ (by rwa [hother])
  exact List.mem_range.mpr (hnumbered.last other pc hother)

end Storage
end TaskPool
