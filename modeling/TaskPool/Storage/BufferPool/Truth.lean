import TaskPool.Library.TransitionSystem
import TaskPool.Storage.BufferPool.Sequential

/-!
# Does the page table tell the truth?

`fetch_page` does not ask whether a page was ever allocated, so a page may be resident
before `new_page` gets to its identifier.  `new_page` then overwrites the entry of the
page with a free frame, or loads the page into a victim before `replace` refuses the
entry.  Either way two frames hold the page.

Main results:

- Theorem `fetch_before_allocation`: a fetch and an allocation that collide.
- Theorem `truthful_iff`: the page table is true after every call exactly in the
  sequences in which no allocation collides.
-/

namespace TaskPool
namespace Storage

open BufferPoolManager Library

variable {n : Nat}

namespace BufferPoolManager

/-- The page table tells the truth: an entry names a `Resident` frame that holds the
page, every `Resident` frame is the one the table maps its page to, and no two frames
hold the same page. -/
structure Truthful (pool : BufferPoolManager n) : Prop where
  entry : ∀ pageId frameId, pool.pageTable pageId = some frameId →
    (pool.frames frameId).state = .resident ∧ (pool.frames frameId).heldPage = some pageId
  resident : ∀ frameId, (pool.frames frameId).state = .resident →
    ∃ pageId, (pool.frames frameId).heldPage = some pageId ∧
      pool.pageTable pageId = some frameId
  unique : ∀ frameId other pageId, (pool.frames frameId).heldPage = some pageId →
    (pool.frames other).heldPage = some pageId → frameId = other

/-- The page table of a pool at rest tells the truth. -/
theorem Sound.truthful {pool : BufferPoolManager n} (h : pool.Sound) : pool.Truthful where
  entry := by
    intro pageId frameId htable
    have hheld := (h.table_iff pageId frameId).mp htable
    exact ⟨h.resident frameId pageId hheld, hheld⟩
  resident := by
    intro frameId hstate
    cases hheld : (pool.frames frameId).heldPage with
    | none =>
        rw [h.free frameId hheld] at hstate
        cases hstate
    | some pageId => exact ⟨pageId, rfl, (h.table_iff pageId frameId).mpr hheld⟩
  unique := by
    intro frameId other pageId hheld hheld'
    rw [← h.table_iff] at hheld hheld'
    rwa [hheld, Option.some_inj] at hheld'

/-- A step of a client without concurrency: the pool serves a request, and the disk
does not fail. -/
def Serves (pool : BufferPoolManager n) (request : Request) (pool' : BufferPoolManager n) : Prop :=
  (∀ io ∈ request.ios, io.Succeeds) ∧ ∃ result, pool.serve request = some (pool', result)

/-- No collision: a `new_page` with an identifier to give finds its page not resident,
unless no frame is free and the victim of CLOCK is the frame of this page. -/
def AllocatesUnmapped (pool : BufferPoolManager n) (request : Request)
    (_ : BufferPoolManager n) : Prop :=
  pool.Unmapped (request.call.entry : Pc n)

/-! ## Collisions -/

variable {pool pool' : BufferPoolManager n} {frameId other : Fin n}

/-- A table that maps a page to one frame lies when another `Resident` frame holds it. -/
theorem not_truthful_of_resident (pageId : PageId) (frameId : Fin n)
    (htable : pool.pageTable pageId = some other) (hne : frameId ≠ other)
    (hstate : (pool.frames frameId).state = .resident)
    (hheld : (pool.frames frameId).heldPage = some pageId) : ¬ pool.Truthful := by
  intro htruth
  rcases htruth.resident frameId hstate with ⟨page, hpage, hmapped⟩
  rw [hheld, Option.some_inj] at hpage
  rw [← hpage, htable, Option.some_inj] at hmapped
  exact hne hmapped.symm

/-- An allocation overwrites the entry of a resident page. -/
theorem not_truthful_of_take (h : pool.Sound) (hlt : pool.nextPageId < 65535)
    (htable : pool.pageTable pool.nextPageId = some other) {rest : List (Fin n)}
    (hfree : pool.freeFrames = frameId :: rest) : ¬ pool.newPage.pool.Truthful := by
  have hne : other ≠ frameId := by
    rintro rfl
    have hnone := (h.mem_free other).mp (hfree ▸ List.mem_cons_self)
    rw [(h.table_iff _ _).mp htable] at hnone
    cases hnone
  rw [Consistent.newPage_eq_take pool hlt hfree]
  have hheld := (h.table_iff _ _).mp htable
  have hsame : ((pool.withFree rest).setFrame frameId (.fresh pool.nextPageId)).frames other =
      pool.frames other := Function.update_of_ne hne ..
  refine not_truthful_of_resident pool.nextPageId other (Function.update_self ..) hne ?_ ?_
  · exact (congrArg Frame.state hsame).trans (h.resident other _ hheld)
  · exact (congrArg Frame.heldPage hsame).trans hheld

/-- An allocation puts a resident page into a second frame. -/
theorem not_truthful_of_commit {newPageId oldPageId : PageId} {victim : Fin n}
    {result : CallResult n} (htable : pool.pageTable newPageId = some other) (hne : victim ≠ other)
    (hcommit : pool.newCommit newPageId victim oldPageId = pool'.finish result) :
    ¬ pool'.Truthful := by
  have hcollides : ∃ error, pool.newCommit newPageId victim oldPageId =
      (pool.setFrame victim (.fresh newPageId)).fail (.pageTableError error) :=
    Consistent.newCommit_eq_collide (by rw [htable]; exact Option.some_ne_none other)
  rcases hcollides with ⟨error, hcollide⟩
  rw [hcollide] at hcommit
  have hpool' : pool.setFrame victim (.fresh newPageId) = pool' := congrArg Next.pool hcommit
  have hframe : (pool.setFrame victim (.fresh newPageId)).frames victim = .fresh newPageId :=
    Function.update_self ..
  rw [← hpool']
  exact not_truthful_of_resident newPageId victim htable hne (congrArg Frame.state hframe)
    (congrArg Frame.heldPage hframe)

/-- A `new_page` that collides leaves a table that lies. -/
theorem not_truthful_of_collision (h : pool.Sound) {callId : CallId} {ios : List Io}
    {result : CallResult n} (hios : ∀ io ∈ ios, io.Succeeds)
    (hmapped : ¬ pool.Unmapped (.newStart : Pc n))
    (hsolo : solo callId ios pool .newStart = some (pool', .returned result)) :
    ¬ pool'.Truthful := by
  have hconsistent := h.consistent_rest
  simp only [Unmapped, not_forall] at hmapped
  rcases hmapped with ⟨other, hlt, htable, hcollision⟩
  cases hfree : pool.freeFrames with
  | cons frameId rest =>
      rcases solo_step (by rintro _ ⟨⟩) hsolo with ⟨io, ios, next, rfl, hnext, hrest⟩
      cases io <;> cases hnext
      have hlies := not_truthful_of_take h hlt htable hfree
      rw [Consistent.newPage_eq_take pool hlt hfree] at hlies hrest
      rwa [(solo_returned hrest).1]
  | nil =>
      simp only [hfree, true_and, not_forall] at hcollision
      rcases hcollision with ⟨victim, clock, frames, hfind, hne⟩
      rcases ClockReplacer.findVictim_spec pool.clockReplacer pool.frames with
        ⟨victim', clock', frames', hfind', hspec⟩
      rw [hfind] at hfind'
      cases hfind'
      rcases hconsistent.exists_resident_victim hfree hspec rfl with ⟨oldPageId, hslot, -⟩
      have hsame := hspec.sameButReference victim
      have hcommit := solo_newStart_evict hios hlt hfree hfind
        (hsame.isReserved_eq.trans (hconsistent.isReserved_of_slot hslot))
        (hsame.heldPage_eq.trans (hconsistent.heldPage_of_slot hslot)) hsolo
      refine not_truthful_of_commit ?_ hne hcommit
      rw [pageTable_writeBack]
      exact htable

/-! ## The sequences without collisions -/

/-- Without a collision the pool is at rest again, and its table true. -/
theorem Sound.step {request : Request} (h : pool.Sound) (hserves : pool.Serves request pool')
    (hunmapped : pool.AllocatesUnmapped request pool') : pool'.Sound ∧ pool'.Truthful := by
  rcases hserves with ⟨-, result, hserve⟩
  have hsound := h.serve hunmapped hserve
  exact ⟨hsound, hsound.truthful⟩

/-- Only calls without a collision leave a true table. -/
theorem Sound.allocatesUnmapped {request : Request} (h : pool.Sound)
    (hserves : pool.Serves request pool') (htruthful : pool'.Truthful) :
    pool.AllocatesUnmapped request pool' := by
  rcases hserves with ⟨hios, result, hserve⟩
  rcases request with ⟨call, callId, ios⟩
  unfold AllocatesUnmapped
  cases call with
  | newPage =>
      by_contra hmapped
      exact not_truthful_of_collision h hios hmapped (serve_eq_some.mp hserve) htruthful
  | _ => trivial

/-- No call collides that finds the next identifier unmapped. -/
theorem allocatesUnmapped_of_none {path : List (Request × BufferPoolManager n)}
    (h : EveryStep (fun pool request _ => request.call = .newPage →
      pool.pageTable pool.nextPageId = none) pool path) :
    EveryStep BufferPoolManager.AllocatesUnmapped pool path := by
  apply h.imp
  intro pool request _ hnone
  unfold BufferPoolManager.AllocatesUnmapped
  cases hcall : request.call with
  | newPage =>
      intro frameId _ htable
      rw [hnone hcall] at htable
      cases htable
  | _ => trivial

end BufferPoolManager

/-- Of all sequences of calls on a new pool whose disk does not fail, those in which the
page table is true after every call are those without a collision. -/
theorem truthful_iff (n : Nat) (file : List UInt8) {path : List (Request × BufferPoolManager n)}
    (hpath : IsPath BufferPoolManager.Serves (BufferPoolManager.new n file) path) :
    EveryStep (fun _ _ pool' => pool'.Truthful) (BufferPoolManager.new n file) path ↔
      EveryStep BufferPoolManager.AllocatesUnmapped (BufferPoolManager.new n file) path :=
  hpath.everyStep_iff (new_sound n file) (fun _ _ _ => Sound.step)
    fun _ _ _ => Sound.allocatesUnmapped

/-- The sequence of pools that serve the requests. -/
def served (n : Nat) (requests : List Request) : List (Request × BufferPoolManager n) :=
  follow (fun pool request => (pool.serve request).map Prod.fst) (BufferPoolManager.new n []) requests

/-- Requests whose disk accesses succeed, served one after the other. -/
theorem isPath_follow_serve (pool : BufferPoolManager n) (requests : List Request)
    (hios : ∀ request ∈ requests, ∀ io ∈ request.ios, io.Succeeds) :
    IsPath BufferPoolManager.Serves pool
      (follow (fun pool request => (pool.serve request).map Prod.fst) pool requests) := by
  refine (isPath_follow _ _ requests).imp (everyStep_follow hios _) ?_
  intro pool request pool' hserve hsucceeds
  rcases Option.map_eq_some_iff.mp hserve with ⟨⟨pool₁, result⟩, hresult, rfl⟩
  exact ⟨hsucceeds, result, hresult⟩

/-- Requests that are served on a disk that does not fail are a run. -/
theorem isPath_served (n : Nat) (requests : List Request)
    (hios : ∀ request ∈ requests, ∀ io ∈ request.ios, io.Succeeds) :
    IsPath BufferPoolManager.Serves (BufferPoolManager.new n []) (served n requests) :=
  isPath_follow_serve _ requests hios

/-- Page 0 is fetched before it is allocated. -/
def fetchThenAllocate : List Request :=
  [⟨.fetchPage 0, 0, [.none, .read (.ok fun _ => 4096), .none, .none, .none]⟩,
    ⟨.newPage, 1, [.none]⟩]

/-- Afterwards both frames of the pool hold page 0. -/
theorem fetch_before_allocation :
    ∃ path, IsPath BufferPoolManager.Serves (BufferPoolManager.new 2 []) path ∧
      ¬ EveryStep (fun _ _ pool' => pool'.Truthful) (BufferPoolManager.new 2 []) path := by
  refine ⟨served 2 fetchThenAllocate, isPath_served 2 fetchThenAllocate ?_, ?_⟩
  · simp [fetchThenAllocate, Io.Succeeds]
  · intro htruthful
    have hstates : EveryState BufferPoolManager.Truthful (BufferPoolManager.new 2 [])
        (served 2 fetchThenAllocate) := EveryStep.everyState htruthful (new_sound 2 []).truthful
    have hlast := hstates.last
    have hfirst : ((lastState (BufferPoolManager.new 2 []) (served 2 fetchThenAllocate)).frames
        0).heldPage = some 0 := by decide +kernel
    have hsecond : ((lastState (BufferPoolManager.new 2 []) (served 2 fetchThenAllocate)).frames
        1).heldPage = some 0 := by decide +kernel
    exact absurd (hlast.unique 0 1 0 hfirst hsecond) (by decide)

/-- Two pages are allocated, and the first one is fetched in between. -/
@[irreducible] def allocateThenFetch : List Request :=
  [⟨.newPage, 0, [.none]⟩, ⟨.fetchPage 0, 1, [.none]⟩, ⟨.newPage, 2, [.none]⟩]

/-- The page table tells the truth when every page is fetched after it was allocated. -/
theorem truthful_allocateThenFetch :
    (served 2 allocateThenFetch).length = 3 ∧
      EveryStep (fun _ _ pool' => pool'.Truthful) (BufferPoolManager.new 2 [])
        (served 2 allocateThenFetch) := by
  have hpath : IsPath BufferPoolManager.Serves (BufferPoolManager.new 2 [])
      (served 2 allocateThenFetch) := isPath_served 2 allocateThenFetch
      (by simp [allocateThenFetch, Io.Succeeds])
  refine ⟨by decide +kernel, (truthful_iff 2 [] hpath).mpr ?_⟩
  exact allocatesUnmapped_of_none (by decide +kernel)

end Storage
end TaskPool
