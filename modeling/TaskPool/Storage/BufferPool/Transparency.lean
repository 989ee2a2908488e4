import TaskPool.Library.TransitionSystem
import TaskPool.Storage.BufferPool.Fidelity

/-!
# The buffer pool is a transparent cache

A client without concurrency makes requests, whose disk accesses may fail in any way,
and writes to resident pages in between.  What it sees of a page is never changed by a
call, except for the empty pages of `new_page`.

Main results:

- Theorem `Settled.serve`: what a request does to the represented cache.
- Theorem `Settled.modifyPage`: what a write does to it.
- Theorem `session_transparent`: calls, failed or not, change no page; writes change
  their own page; a fetched frame has the data of its page.
-/

namespace TaskPool
namespace Storage

open BufferPoolManager Library

variable {n : Nat}

/-- A pool at rest whose clean pages are those of the file and whose resident pages were
allocated. -/
structure Settled (pool : BufferPoolManager n) : Prop where
  sound : pool.Sound
  coherent : pool.cache.Coherent
  bounded : pool.Bounded

namespace BufferPoolManager

/-- `modify_data` on the frame of a resident page. -/
def modifyPage (pool : BufferPoolManager n) (pageId : PageId) (data : List UInt8) :
    Option (BufferPoolManager n) :=
  (pool.pageTable pageId).map fun frameId =>
    pool.setFrame frameId ((pool.frames frameId).modifyData data).2

/-- What the pages are after a call: a new page is empty, the others are as before. -/
def viewAfter (pool : BufferPoolManager n) : Call → CallResult n → PageId → Buffer pageSize
  | .newPage, .allocated pageId _ => Function.update pool.view pageId (Buffer.zero pageSize)
  | _, _ => pool.view

/-- A frame of a pool at rest changes, but not its state and its page. -/
theorem Sound.setFrame {pool : BufferPoolManager n} (h : pool.Sound) {frameId : Fin n}
    {frame : Frame} (hstate : frame.state = (pool.frames frameId).state)
    (hheld : frame.heldPage = (pool.frames frameId).heldPage) :
    (pool.setFrame frameId frame).Sound := by
  have hframes : ∀ other, ((pool.setFrame frameId frame).frames other).state =
      (pool.frames other).state ∧ ((pool.setFrame frameId frame).frames other).heldPage =
      (pool.frames other).heldPage := by
    intro other
    rw [frames_setFrame]
    by_cases hother : other = frameId
    · rw [hother, Function.update_self]
      exact ⟨hstate, hheld⟩
    · rw [Function.update_of_ne hother]
      exact ⟨rfl, rfl⟩
  constructor
  · intro pageId other
    rw [(hframes other).2]
    exact h.table_iff pageId other
  · intro other pageId
    rw [(hframes other).1, (hframes other).2]
    exact h.resident other pageId
  · intro other
    rw [(hframes other).1, (hframes other).2]
    exact h.free other
  · exact h.free_nodup
  · intro other
    rw [(hframes other).2]
    exact h.mem_free other

end BufferPoolManager

namespace Settled

variable {pool pool' : BufferPoolManager n} {pageId : PageId}

/-- A new pool is settled. -/
theorem new_settled (n : Nat) (file : List UInt8) : Settled (BufferPoolManager.new n file) where
  sound := new_sound n file
  coherent := nofun
  bounded := fun _ hne => absurd rfl hne

/-- The call of a request starts faithfully. -/
theorem faithful (h : Settled pool) (callId : CallId) (call : Call)
    (hallocated : ∀ pageId, call = .fetchPage pageId → pageId < pool.nextPageId) :
    Faithful (pool.record call) callId call call.entry pool.restSlot := by
  -- a new page cannot collide, because only allocated pages are resident
  have hunmapped : pool.Unmapped (call.entry : Pc n) := by
    cases call with
    | newPage =>
        intro frameId _ htable
        exact absurd (h.bounded _ (htable ▸ Option.some_ne_none frameId)) (UInt16.lt_irrefl _)
    | _ => trivial
  have hlone := h.sound.lone callId call hunmapped
  rcases record_eq pool call with ⟨metrics, hmetrics⟩
  rw [hmetrics] at hlone ⊢
  refine ⟨hlone, h.coherent, h.bounded, ?_, ?_⟩
  · intro pageId hpage
    cases call with
    | fetchPage page =>
        cases hpage
        exact ⟨rfl, hallocated _ rfl⟩
    | _ => cases hpage
  · cases call with
    | newPage => rfl
    | _ => trivial

/-- What the sections of a request preserve as long as they are faithful holds when the
request has returned. -/
theorem serve_induction {motive : BufferPoolManager n → Pc n → Prop} (h : Settled pool)
    {request : Request} {result : CallResult n}
    (hallocated : ∀ pageId, request.call = .fetchPage pageId → pageId < pool.nextPageId)
    (hserve : pool.serve request = some (pool', result))
    (hstart : motive (pool.record request.call) request.call.entry)
    (hstep : ∀ {pool pc slot io next}, Faithful pool request.callId request.call pc slot →
      pc.BelongsTo request.call → pool.advance request.callId pc io = some next →
      motive pool pc → motive next.pool next.pc) :
    (∃ slot, Faithful pool' request.callId request.call (.returned result) slot) ∧
      motive pool' (.returned result) := by
  have hrun : ((∃ slot, Faithful pool' request.callId request.call (.returned result) slot) ∧
      (Pc.returned result).BelongsTo request.call) ∧ motive pool' (.returned result) := by
    apply solo_induction (motive := fun pool pc =>
      ((∃ slot, Faithful pool request.callId request.call pc slot) ∧ pc.BelongsTo request.call) ∧
        motive pool pc) ?_ ?_ (serve_eq_some.mp hserve)
    · rintro pool₁ pc io next ⟨⟨⟨slot, hfaithful⟩, hbelongs⟩, hmotive⟩ hnext
      rcases hfaithful.toLone.step hnext with ⟨slot₁, heffect, -⟩
      rcases hfaithful.step hnext with ⟨slot₂, hfaithful', -⟩
      exact ⟨⟨⟨slot₂, hfaithful'⟩, heffect.belongsTo hbelongs⟩,
        hstep hfaithful hbelongs hnext hmotive⟩
    · exact ⟨⟨⟨pool.restSlot, h.faithful request.callId request.call hallocated⟩,
        Call.belongsTo_entry _⟩, hstart⟩
  exact ⟨hrun.1.1, hrun.2⟩

/-- A request, failed or not, simulates the cache. -/
theorem serve (h : Settled pool) {request : Request} {result : CallResult n}
    (hallocated : ∀ pageId, request.call = .fetchPage pageId → pageId < pool.nextPageId)
    (hserve : pool.serve request = some (pool', result)) :
    Settled pool' ∧ Simulates pool pool' result.allocatedPage ∧
      Content request.call pool' (.returned result) := by
  -- the run invariant: the sections so far simulate the cache of the first pool
  have hrun : (∃ slot, Faithful pool' request.callId request.call (.returned result) slot) ∧
      Simulates pool pool' (Pc.returned result).allocatedPage := by
    apply h.serve_induction (motive := fun pool' pc => Simulates pool pool' pc.allocatedPage)
      hallocated hserve
    · rcases record_eq pool request.call with ⟨metrics, hmetrics⟩
      rw [hmetrics]
      cases request.call <;> exact ⟨rfl, .refl⟩
    · intro pool₁ pc slot io next hfaithful _ hnext hsimulates
      rcases hfaithful.step hnext with ⟨-, -, hsimulates'⟩
      rw [Pc.allocatedPage_of_advance hnext] at hsimulates
      exact hsimulates.trans hsimulates'
  rcases hrun with ⟨⟨slot, hfaithful⟩, hsimulates⟩
  exact ⟨⟨hfaithful.sound, hfaithful.coherent, hfaithful.bounded⟩, hsimulates, hfaithful.content⟩

/-- A write of a whole page puts it into the cache. -/
theorem modifyPage (h : Settled pool) {data : List UInt8} (hlength : data.length = pageSize)
    (hmodify : pool.modifyPage pageId data = some pool') :
    Settled pool' ∧ pool'.nextPageId = pool.nextPageId ∧
      pool'.cache = pool.cache.put pageId ⟨data, hlength⟩ := by
  rcases Option.map_eq_some_iff.mp hmodify with ⟨frameId, htable, rfl⟩
  have hheld := (h.sound.table_iff pageId frameId).mp htable
  have hmeta := Frame.metadata_ne_none hheld
  rw [Frame.modifyData_eq hlength]
  have hother : ∀ page, pool.pageTable page = some frameId → page = pageId := by
    intro page hpage
    rw [h.sound.table_iff, hheld, Option.some_inj] at hpage
    exact hpage.symm
  have hcache : (pool.setFrame frameId (Frame.withDirty
      { pool.frames frameId with data := ⟨data, hlength⟩ } true)).cache = _ :=
    cache_insert hother (PageTable.insert_eq_self htable).symm rfl rfl
  rw [Frame.isDirty_withDirty_true (by exact hmeta)] at hcache
  refine ⟨⟨h.sound.setFrame rfl (Frame.heldPage_withDirty _ true), ?_, h.bounded⟩, rfl, hcache⟩
  rw [hcache]
  exact h.coherent.put

/-- A write of any other length does nothing. -/
theorem modifyPage_of_length_ne {data : List UInt8} (hlength : data.length ≠ pageSize)
    (hmodify : pool.modifyPage pageId data = some pool') : pool' = pool := by
  rcases Option.map_eq_some_iff.mp hmodify with ⟨frameId, htable, rfl⟩
  rw [Frame.modifyData_of_length_ne hlength, setFrame, Function.update_eq_self]

end Settled

/-! ## Sessions -/

/-- What a client does. -/
inductive Action where
  | request (request : Request)
  | write (pageId : PageId) (data : List UInt8)

/-- A pool, the pages that `new_page` has returned, and the result of the last call. -/
structure Session (n : Nat) where
  pool : BufferPoolManager n
  allocated : List PageId
  result : Option (CallResult n)

namespace Session

/-- A session on a new pool. -/
def new (n : Nat) (file : List UInt8) : Session n := ⟨BufferPoolManager.new n file, [], none⟩

/-- The session after an action. -/
def act (s : Session n) : Action → Option (Session n)
  | .request request => do
    let (pool, result) ← s.pool.serve request
    pure ⟨pool, result.allocatedPage.toList ++ s.allocated, some result⟩
  | .write pageId data => do
    let pool ← s.pool.modifyPage pageId data
    pure ⟨pool, s.allocated, none⟩

/-- Only pages are fetched that an earlier `new_page` returned. -/
def FetchesAllocated (s : Session n) (action : Action) (_ : Session n) : Prop :=
  match action with
  | .request ⟨.fetchPage pageId, _, _⟩ => pageId ∈ s.allocated
  | _ => True

instance (s : Session n) (action : Action) (s' : Session n) :
    Decidable (s.FetchesAllocated action s') := by
  unfold FetchesAllocated
  split <;> infer_instance

/-- A call changes no page, except that a new page is empty, and a fetched frame has the
data of its page; a write changes its own page only. -/
def Transparent (s : Session n) (action : Action) (s' : Session n) : Prop :=
  match action with
  | .request request => ∃ result, s'.result = some result ∧
      s'.pool.view = s.pool.viewAfter request.call result ∧
      ∀ pageId frameId, request.call = .fetchPage pageId → result = .fetched frameId →
        (s'.pool.frames frameId).data = s'.pool.view pageId
  | .write pageId data =>
      (∀ other, other ≠ pageId → s'.pool.view other = s.pool.view other) ∧
        (data.length = pageSize → (s'.pool.view pageId).bytes = data)

/-- The pool is settled, and the returned pages were allocated. -/
structure Tracks (s : Session n) : Prop where
  settled : Settled s.pool
  allocated : ∀ pageId ∈ s.allocated, pageId < s.pool.nextPageId

/-- A new session has allocated nothing. -/
theorem new_tracks (n : Nat) (file : List UInt8) : (new n file).Tracks where
  settled := Settled.new_settled n file
  allocated := nofun

variable {s s' : Session n}

/-- The page of a request to fetch was allocated. -/
theorem Tracks.requested (h : s.Tracks) {request : Request}
    (hfetch : s.FetchesAllocated (.request request) s') (pageId : PageId)
    (hcall : request.call = .fetchPage pageId) : pageId < s.pool.nextPageId := by
  rcases request with ⟨call, callId, ios⟩
  cases hcall
  exact h.allocated pageId hfetch

/-- A request is transparent. -/
theorem Tracks.request (h : s.Tracks) {request : Request}
    (hact : s.act (.request request) = some s')
    (hfetch : s.FetchesAllocated (.request request) s') :
    s'.Tracks ∧ s.Transparent (.request request) s' := by
  rcases Option.bind_eq_some_iff.mp hact with ⟨⟨pool, result⟩, hserve, hs'⟩
  cases hs'
  rcases h.settled.serve (h.requested hfetch) hserve with ⟨hsettled, hsimulates, hcontent⟩
  refine ⟨⟨hsettled, ?_⟩, result, rfl, ?_, ?_⟩
  · intro pageId hpage
    rcases List.mem_append.mp hpage with hnew | hold
    · exact hsimulates.lt_nextPageId (.inr (Option.mem_toList.mp hnew))
    · exact hsimulates.lt_nextPageId (.inl (h.allocated pageId hold))
  · cases result with
    | allocated pageId frameId =>
        have hcall : request.call = .newPage := hcontent
        rw [hcall]
        exact hsimulates.view_of_some h.settled.coherent
    | fetched frameId | done | failed error =>
        have hview := hsimulates.view_of_none h.settled.coherent
        cases request.call <;> exact hview
  · rintro pageId frameId hcall rfl
    exact hcontent pageId hcall

/-- A write is transparent. -/
theorem Tracks.write (h : s.Tracks) {pageId : PageId} {data : List UInt8}
    (hact : s.act (.write pageId data) = some s') :
    s'.Tracks ∧ s.Transparent (.write pageId data) s' := by
  rcases Option.bind_eq_some_iff.mp hact with ⟨pool, hmodify, hs'⟩
  cases hs'
  by_cases hlength : data.length = pageSize
  · rcases h.settled.modifyPage hlength hmodify with ⟨hsettled, hnext, hcache⟩
    have hview : ∀ page, pool.view page =
        Function.update s.pool.cache.view pageId ⟨data, hlength⟩ page := by
      intro page
      rw [← view_cache, hcache, Cache.view_put]
    refine ⟨⟨hsettled, ?_⟩, ?_, ?_⟩
    · intro page hpage
      exact hnext ▸ h.allocated page hpage
    · intro other hother
      rw [hview, Function.update_of_ne hother, view_cache]
    · intro _
      rw [hview, Function.update_self]
  · cases Settled.modifyPage_of_length_ne hlength hmodify
    exact ⟨⟨h.settled, h.allocated⟩, fun _ _ => rfl, fun heq => absurd heq hlength⟩

/-- Every action keeps the pages tracked and is transparent. -/
theorem Tracks.act (h : s.Tracks) {action : Action} (hact : s.act action = some s')
    (hfetch : s.FetchesAllocated action s') : s'.Tracks ∧ s.Transparent action s' := by
  cases action with
  | request request => exact h.request hact hfetch
  | write pageId data => exact h.write hact

end Session

/-- In every session whose fetches are after allocated pages, whatever the disk does,
calls change no page but the new ones, writes change their own page only, and every
fetched frame has the data of its page. -/
theorem session_transparent (n : Nat) (file : List UInt8) {path : List (Action × Session n)}
    (hpath : IsPath (fun s action s' => s.act action = some s') (Session.new n file) path)
    (hfetch : EveryStep Session.FetchesAllocated (Session.new n file) path) :
    EveryStep Session.Transparent (Session.new n file) path :=
  hpath.everyStep hfetch (Session.new_tracks n file) fun _ _ _ htracks => htracks.act

/-- Two pages take turns in the only frame, and once the disk refuses to write: the page
that was written to survives both.  Irreducible, so that nothing but `decide` runs it. -/
@[irreducible] def takeTurns : List Action :=
  [.request ⟨.newPage, 0, [.none]⟩, .write 0 (List.replicate 4096 7),
    .request ⟨.unpinPage 0, 1, [.none]⟩,
    .request ⟨.newPage, 2, [.none, .write (.fail ⟨.other, "no space"⟩ [1, 2, 3]), .none]⟩,
    .request ⟨.newPage, 3, [.none, .write .ok, .none]⟩, .request ⟨.unpinPage 1, 4, [.none]⟩,
    .request ⟨.fetchPage 0, 5, [.none, .write .ok, .read (.ok fun _ => 4096), .none, .none]⟩]

/-- All actions are possible, and the fetch is after an allocated page. -/
theorem takeTurns_fetchesAllocated :
    (follow Session.act (Session.new 1 []) takeTurns).length = 7 ∧
      EveryStep Session.FetchesAllocated (Session.new 1 [])
        (follow Session.act (Session.new 1 []) takeTurns) := by
  decide +kernel

/-- All these actions are transparent. -/
theorem session_transparent_takeTurns :
    (follow Session.act (Session.new 1 []) takeTurns).length = 7 ∧
      EveryStep Session.Transparent (Session.new 1 [])
        (follow Session.act (Session.new 1 []) takeTurns) :=
  ⟨takeTurns_fetchesAllocated.1, session_transparent 1 [] (isPath_follow _ _ takeTurns)
    takeTurns_fetchesAllocated.2⟩

end Storage
end TaskPool
