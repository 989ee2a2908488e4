import TaskPool.Storage.BufferPool.Loads
import TaskPool.Storage.BufferPool.Sections

/-!
# One loader for every page

Before a fetch reads a page from the disk, it enters itself as the loader of the page, and
it stays the loader until it has published the page or given up.  An entry is made only
where there is none, and only its owner removes it, whatever the other calls and the disk
do.

Main results:

- Structure `KeepsEntries`: what a section does to the entries of the loads.
- Theorem `KeepsEntries.advance`: every section of every call keeps to this.
- Theorem `single_flight`: no two calls load the same page at the same time.
-/

namespace TaskPool
namespace Storage

open BufferPoolManager Library

variable {n : Nat}

/-- A section removes only the entry of its own load, and is about to load only a page
whose entry is its own. -/
structure KeepsEntries (callId : CallId) (pool : BufferPoolManager n) (pc : Pc n) (next : Next n) :
    Prop where
  others : ∀ pageId owner, pool.inFlightLoads pageId = some owner →
    next.pool.inFlightLoads pageId = some owner ∨ pc.loading = some pageId
  own : ∀ pageId, next.pc.loading = some pageId →
    next.pool.inFlightLoads pageId = some callId ∨
      pc.loading = some pageId ∧ next.pool.inFlightLoads pageId = pool.inFlightLoads pageId

/-! ## Whose load a section is for -/

/-- Behind a flush no page is loaded. -/
theorem Pc.loading_of_afterFlush {pc : Pc n} (h : pc.afterFlush = true) : pc.loading = none := by
  cases pc <;> first
    | rfl
    | cases h

/-- A call whose result is there loads nothing. -/
theorem Pc.loading_of_over {pc : Pc n} (h : pc.over = true) : pc.loading = none := by
  cases pc <;> first
    | rfl
    | cases h

/-- A section that ends a load belongs to it. -/
theorem Pc.loading_of_ends {pc : Pc n} {pageId : PageId} (h : pc.ends = some pageId) :
    pc.loading = some pageId := by
  cases pc <;> first
    | exact h
    | cases h

/-- A fetch that has begun loads its page, or nothing. -/
theorem Pc.Begun.loading {pc : Pc n} {pageId : PageId} (h : pc.Begun pageId) :
    pc.loading = none ∨ pc.loading = some pageId := by
  cases pc with
  | fetchRead | evictWrite | evictRead => exact .inr (congrArg some h)
  | fetchWaitState | returned => exact .inl rfl
  | _ => cases h

/-- A call goes on with its load, or leaves it. -/
theorem Pc.Follows.loading {pc pc' : Pc n} (h : pc.Follows pc') :
    pc'.loading = none ∨ pc'.loading = pc.loading := by
  cases h with
  | flushCheckReturns hpc' | flushFinish hpc' => exact .inl (Pc.loading_of_afterFlush hpc')
  | fetchRead | fetchReadFails | fetchLoad | evictWrite | evictWriteFails | evictRead
  | evictReadFails => exact .inr rfl
  | _ => exact .inl rfl

namespace KeepsEntries

variable {callId : CallId} {pool : BufferPoolManager n} {pc : Pc n} {io : Io} {next : Next n}
  {pageId : PageId}

/-- A section that changes no entry and begins no load. -/
theorem quiet (hloads : next.pool.inFlightLoads = pool.inFlightLoads)
    (hloading : next.pc.loading = none ∨ next.pc.loading = pc.loading) :
    KeepsEntries callId pool pc next where
  others := by
    intro page owner hentry
    exact .inl (hloads ▸ hentry)
  own := by
    intro page hpage
    rcases hloading with hnone | hsame
    · rw [hnone] at hpage
      cases hpage
    · exact .inr ⟨hsame ▸ hpage, congrFun hloads page⟩

/-- A section that makes an entry where there was none, or removes it at once. -/
theorem begins (hnone : pool.inFlightLoads pageId = none)
    (hloads : ∀ page, page ≠ pageId → next.pool.inFlightLoads page = pool.inFlightLoads page)
    (hloading : next.pc.loading = none ∨
      next.pc.loading = some pageId ∧ next.pool.inFlightLoads pageId = some callId) :
    KeepsEntries callId pool pc next where
  others := by
    intro page owner hentry
    have hne : page ≠ pageId := by
      rintro rfl
      rw [hnone] at hentry
      cases hentry
    exact .inl (by rw [hloads page hne, hentry])
  own := by
    intro page hpage
    rcases hloading with hnothing | ⟨hself, hentry⟩
    · rw [hnothing] at hpage
      cases hpage
    · rw [hself, Option.some_inj] at hpage
      exact .inl (hpage ▸ hentry)

/-- A section that ends its load. -/
theorem ends (hpc : pc.loading = some pageId) (hnext : next.pc.loading = none)
    (hloads : next.pool.inFlightLoads = Function.update pool.inFlightLoads pageId none) :
    KeepsEntries callId pool pc next where
  others := by
    intro page owner hentry
    by_cases hpage : page = pageId
    · exact .inr (hpage ▸ hpc)
    · exact .inl (by rw [hloads, Function.update_of_ne hpage, hentry])
  own := by
    intro page hpage
    rw [hnext] at hpage
    cases hpage

/-- Every section keeps the entries of the other loads. -/
theorem of_section (hsection : Section callId pool pc next) : KeepsEntries callId pool pc next := by
  cases hsection with
  | straight hpc hquiet => exact quiet hquiet.loads_eq hpc.loading
  | waits hpc hquiet => exact quiet hquiet.loads_eq (.inl (by rw [hpc]; rfl))
  | joins _ hpc hloads => exact quiet hloads (.inl (by rw [hpc]; rfl))
  | begins hload hpc hloads =>
      refine begins hload (fun page hpage => ?_) (hpc.loading.imp id fun hself => ⟨hself, ?_⟩)
      · rw [hloads, Function.update_of_ne hpage]
      · rw [hloads, Function.update_self]
  | fails hload hpc hloads =>
      refine begins hload (fun page hpage => ?_) (.inl (by rw [hpc]; rfl))
      rw [hloads, Function.update_of_ne hpage]
  | ends hends hpc hloads =>
      exact ends (Pc.loading_of_ends hends) (Pc.loading_of_over hpc) hloads
  | wakes | wakesToCheck | sleeps | retries | notifies => exact quiet rfl (.inl rfl)

/-- Every section keeps the entries of the loads of other calls. -/
theorem advance (hnext : pool.advance callId pc io = some next) :
    KeepsEntries callId pool pc next :=
  of_section (.advance hnext)

end KeepsEntries

/-! ## Every interleaving -/

@[simp] theorem Pc.loading_receive (signal : Signal) (pc : Pc n) :
    (pc.receive signal).loading = pc.loading := by
  cases pc <;> rfl

namespace System

variable {s s' : System n} {e : Event}

/-- Every call that loads a page has the entry of the page. -/
def LoadersEntered (s : System n) : Prop :=
  ∀ callId pc pageId, s.pcs callId = some pc → pc.loading = some pageId →
    s.pool.inFlightLoads pageId = some callId

/-- No two calls load the same page. -/
def SingleFlight (s : System n) : Prop :=
  ∀ callId caller pc pc' pageId, s.pcs callId = some pc → s.pcs caller = some pc' →
    pc.loading = some pageId → pc'.loading = some pageId → caller = callId

/-- When all loaders have their entries, there is one for a page. -/
theorem LoadersEntered.singleFlight (h : s.LoadersEntered) : s.SingleFlight := by
  intro callId caller pc pc' pageId hpc hpc' hloading hloading'
  have hentry := h callId pc pageId hpc hloading
  rw [h caller pc' pageId hpc' hloading', Option.some_inj] at hentry
  exact hentry

/-- A call starts without loading. -/
theorem LoadersEntered.launch (h : s.LoadersEntered) (client : Nat) (call : Call)
    (releases : Option CallId) : (s.launch client call releases).LoadersEntered := by
  intro callId pc pageId hpc hloading
  rcases record_eq s.pool call with ⟨metrics, hmetrics⟩
  rw [System.launch, hmetrics]
  rcases pcs_launch_cases hpc with ⟨-, rfl⟩ | ⟨-, hpc⟩
  · cases call <;> cases hloading
  · exact h callId pc pageId hpc hloading

/-- A section that keeps the entries keeps the loaders. -/
theorem LoadersEntered.resume (h : s.LoadersEntered) {callId : CallId} {activity : Activity n}
    (hactivity : s.calls callId = some activity) {next : Next n}
    (hkeeps : KeepsEntries callId s.pool activity.pc next) :
    (s.resume callId activity next).LoadersEntered := by
  have hpc := pcs_eq_some hactivity
  intro caller pc pageId hcaller hloading
  rcases pcs_resume_cases hcaller with ⟨rfl, rfl⟩ | ⟨hne, before, hbefore, rfl⟩
  · rw [Pc.loading_receive] at hloading
    rcases hkeeps.own pageId hloading with hentry | ⟨hself, hsame⟩
    · exact hentry
    · exact hsame.trans (h caller _ pageId hpc hself)
  · rw [Pc.loading_receive] at hloading
    have hentry := h caller before pageId hbefore hloading
    rcases hkeeps.others pageId caller hentry with hkept | hself
    · exact hkept
    · -- the entry of another call is not that of the load which ends
      rw [h callId _ pageId hpc hself, Option.some_inj] at hentry
      exact absurd hentry.symm hne

/-- Every step keeps the loaders entered, whatever the disk does. -/
theorem LoadersEntered.step (h : s.LoadersEntered) (hstep : s.Step e s') : s'.LoadersEntered := by
  rcases step_cases hstep with ⟨client, call, releases, rfl, rfl⟩ |
    ⟨callId, io, activity, next, rfl, hactivity, hnext, rfl⟩
  · exact h.launch client call releases
  · exact h.resume hactivity (.advance hnext)

/-- A new pool loads nothing. -/
theorem new_loadersEntered (n : Nat) (file : List UInt8) : (System.new n file).LoadersEntered := by
  rintro callId pc pageId ⟨⟩

end System

/-- In every interleaving of any calls, and whatever the disk does, no two calls load the
same page at the same time. -/
theorem single_flight (n : Nat) (file : List UInt8) {path : List (Event × System n)}
    (hpath : IsPath System.Step (System.new n file) path) :
    EveryState System.SingleFlight (System.new n file) path := by
  have hentered : EveryState System.LoadersEntered (System.new n file) path :=
    hpath.invariant (System.new_loadersEntered n file) fun _ _ _ => System.LoadersEntered.step
  exact hentered.imp fun _ => System.LoadersEntered.singleFlight

/-- The disk fails to read a page for which a second fetch is waiting; that one becomes
the loader then. -/
def fetchAfterFailure : List Event :=
  [.start 0 (.fetchPage 0) none, .proceed 0 .none, .start 1 (.fetchPage 0) none, .proceed 1 .none,
    .proceed 1 .none, .proceed 0 (.read (.fail ⟨.other, "unreadable"⟩)), .proceed 0 .none,
    .proceed 0 .none, .proceed 1 .wake, .proceed 1 .none, .proceed 1 .none,
    .proceed 1 (.read (.ok fun _ => 4096))]

/-- After a failed load another fetch loads the page, and again only one. -/
theorem single_flight_fetchAfterFailure :
    (follow System.step (System.new 1 []) fetchAfterFailure).length = 12 ∧
      EveryState System.SingleFlight (System.new 1 [])
        (follow System.step (System.new 1 []) fetchAfterFailure) :=
  ⟨by decide +kernel, single_flight 1 [] (isPath_follow System.step _ fetchAfterFailure)⟩

end Storage
end TaskPool
