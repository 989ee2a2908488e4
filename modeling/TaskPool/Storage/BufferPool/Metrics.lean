import TaskPool.Storage.BufferPool.Interleaving

/-!
# Counting hits and misses

A `fetch_page` counts itself when it starts, and a hit or a miss later, in whichever
round of its loop it finds out.  Between the two it is unrecorded.  The flag that the
loop carries guards the counter of misses only: a fetch that has recorded a miss,
waits for the load of another fetch and then finds the page records a hit as well.

Main results:

- Theorem `Effect.recorded`: a section records nothing, or records a fetch that was
  unrecorded.
- Theorem `fetches_counted`: hits and misses add up to the fetches, in all runs in
  which no fetch hits after it has recorded a miss.
- Theorem `fetch_counted_twice`: a run with such a fetch.
-/

namespace TaskPool
namespace Storage

open BufferPoolManager Library

variable {n : Nat}

/-- The fetches that are counted as a hit or as a miss. -/
def BufferPoolMetrics.recorded (metrics : BufferPoolMetrics) : UInt64 :=
  metrics.cacheHits + metrics.cacheMisses

/-- A fetch that has recorded neither a hit nor a miss. -/
def Pc.unrecorded : Pc n → Bool
  | .fetchStart _ missRecorded => !missRecorded
  | .fetchWaitState _ missRecorded _ => !missRecorded
  | _ => false

/-- The page that a fetch looks up after it has recorded a miss. -/
def Pc.retried : Pc n → Option PageId
  | .fetchStart pageId true => some pageId
  | _ => none

/-- A section after which the call is as unrecorded as before, or which records it. -/
def Records (pool : BufferPoolManager n) (pc : Pc n) (next : Next n) : Prop :=
  next.pool.metrics.fetches = pool.metrics.fetches ∧
    (next.pc.unrecorded = pc.unrecorded ∧
        next.pool.metrics.recorded = pool.metrics.recorded ∨
      pc.unrecorded = true ∧ next.pc.unrecorded = false ∧
        next.pool.metrics.recorded = pool.metrics.recorded + 1)

/-- A hit is one more record. -/
theorem recorded_recordHit (pool : BufferPoolManager n) :
    pool.recordHit.metrics.recorded = pool.metrics.recorded + 1 := by
  simp only [recordHit, BufferPoolMetrics.recorded, UInt64.add_assoc,
    UInt64.add_comm 1 pool.metrics.cacheMisses]

/-- A miss is one more record. -/
theorem recorded_recordMiss (pool : BufferPoolManager n) :
    pool.recordMiss.metrics.recorded = pool.metrics.recorded + 1 := by
  simp only [recordMiss, BufferPoolMetrics.recorded, UInt64.add_assoc]

/-- A miss is recorded once. -/
theorem Records.ofMiss {pool : BufferPoolManager n} {pageId : PageId} {missRecorded : Bool}
    {next : Next n} (hmetrics : next.pool.metrics = (pool.recordMissOnce missRecorded).metrics)
    (hpc : next.pc.unrecorded = false) :
    Records pool (.fetchStart pageId missRecorded) next := by
  rw [Records, hmetrics]
  cases missRecorded with
  | true => exact ⟨rfl, .inl ⟨hpc, rfl⟩⟩
  | false => exact ⟨rfl, .inr ⟨rfl, hpc, recorded_recordMiss pool⟩⟩

/-- What a section records, unless a fetch hits that has recorded a miss. -/
theorem Effect.recorded {pool : BufferPoolManager n} {pcs : CallId → Option (Pc n)}
    {slot slot' : Fin n → Slot} {callId : CallId} {pc : Pc n} {io : Io} {next : Next n}
    (heffect : Effect callId pool slot pc io next slot') (h : Consistent pool pcs slot)
    (hhit : ∀ pageId frameId, pc = .fetchStart pageId true →
      pool.pageTable pageId = some frameId → (pool.frames frameId).isReserved = true) :
    Records pool pc next := by
  cases heffect with
  | fetchWait => exact ⟨rfl, .inl ⟨rfl, rfl⟩⟩
  | @fetchHit pageId missRecorded frameId hslot =>
      cases missRecorded with
      | false => exact ⟨rfl, .inr ⟨rfl, rfl, recorded_recordHit pool⟩⟩
      | true =>
          have htable := h.table_of_located (by rw [hslot, Slot.located])
          have hreserved := hhit pageId frameId rfl htable
          rw [h.isReserved_of_slot hslot] at hreserved
          cases hreserved
  | fetchJoin => exact .ofMiss rfl rfl
  | fetchTake => exact .ofMiss rfl rfl
  | fetchSleep => exact .ofMiss rfl rfl
  | fetchGiveUp => exact .ofMiss rfl rfl
  | fetchVictim =>
      apply Records.ofMiss rfl
      dsimp only
      split_ifs <;> rfl
  | @checkClean _ _ caller => cases caller <;> exact ⟨rfl, .inl ⟨rfl, rfl⟩⟩
  | @flushDone _ _ caller => cases caller <;> exact ⟨rfl, .inl ⟨rfl, rfl⟩⟩
  | @flushUndo _ _ caller => cases caller <;> exact ⟨rfl, .inl ⟨rfl, rfl⟩⟩
  | newVictim =>
      refine ⟨rfl, .inl ⟨?_, rfl⟩⟩
      dsimp only
      split_ifs <;> rfl
  | _ => exact ⟨rfl, .inl ⟨rfl, rfl⟩⟩

/-- An unrecorded call is a fetch. -/
theorem Pc.exists_fetching {pc : Pc n} (h : pc.unrecorded = true) :
    ∃ pageId, pc.fetching = some pageId := by
  cases pc <;> first
    | exact ⟨_, rfl⟩
    | cases h

/-- Signals record nothing. -/
theorem Pc.unrecorded_receive (pc : Pc n) (signal : Signal) :
    (pc.receive signal).unrecorded = pc.unrecorded := by
  cases pc <;> rfl

namespace System

variable {s s' : System n} {callId caller : CallId} {activity : Activity n} {next : Next n}

/-- The fetches that have recorded neither a hit nor a miss. -/
def unrecorded (s : System n) : Finset CallId :=
  (Finset.range s.nextCall).filter fun callId => (s.pcs callId).any Pc.unrecorded

/-- Whenever all fetches have returned, each has been counted as a hit or as a miss. -/
def FetchesCounted (s : System n) : Prop :=
  (∀ callId activity pageId, s.calls callId = some activity → activity.call = .fetchPage pageId →
    ∃ result, activity.pc = .returned result) →
  s.pool.metrics.cacheHits + s.pool.metrics.cacheMisses = s.pool.metrics.fetches

/-- A fetch that has recorded a miss looks its page up, and finds it in a frame that is
not reserved. -/
def hitsAfterMiss (s : System n) : Event → Bool
  | .start _ _ _ => false
  | .proceed callId _ => ((s.pcs callId).bind Pc.retried).any fun pageId =>
      (s.pool.pageTable pageId).any fun frameId => !(s.pool.frames frameId).isReserved

/-- What a fetch finds in the table after a miss is reserved. -/
theorem isReserved_of_retried {io : Io} {pageId : PageId} {frameId : Fin n}
    (h : s.hitsAfterMiss (.proceed callId io) = false)
    (hpc : s.pcs callId = some (.fetchStart pageId true))
    (htable : s.pool.pageTable pageId = some frameId) :
    (s.pool.frames frameId).isReserved = true := by
  simpa [hitsAfterMiss, hpc, Pc.retried, htable] using h

/-- The unrecorded fetches are those in an unrecorded section. -/
theorem mem_unrecorded (h : s.Ordered) :
    callId ∈ s.unrecorded ↔ ∃ pc, s.pcs callId = some pc ∧ pc.unrecorded = true := by
  unfold unrecorded
  rw [Finset.mem_filter, Finset.mem_range, Option.any_eq_true]
  constructor
  · exact And.right
  · rintro ⟨pc, hpc, hunrecorded⟩
    rcases Option.map_eq_some_iff.mp hpc with ⟨activity, hactivity, -⟩
    exact ⟨h.lt_nextCall callId activity hactivity, pc, hpc, hunrecorded⟩

/-- The fetches a step leaves unrecorded are those of before, apart from the caller. -/
theorem mem_unrecorded_resume (h : s.Ordered) (h' : (s.resume callId activity next).Ordered) :
    caller ∈ (s.resume callId activity next).unrecorded ↔
      caller = callId ∧ next.pc.unrecorded = true ∨ caller ≠ callId ∧ caller ∈ s.unrecorded := by
  rw [mem_unrecorded h', mem_unrecorded h]
  simp only [pcs_resume, Option.map_eq_some_iff]
  by_cases hcaller : caller = callId
  · subst hcaller
    simp [Pc.unrecorded_receive]
  · simp [hcaller, Pc.unrecorded_receive]

/-- The invariant of the counters. -/
structure Counted (s : System n) : Prop where
  ordered : s.Ordered
  belongs : s.Belongs
  recorded_eq : s.pool.metrics.recorded + UInt64.ofNat s.unrecorded.card = s.pool.metrics.fetches

/-- A call starts. -/
theorem Counted.launch (h : s.Counted) {client : Nat} {call : Call} {releases : Option CallId}
    (h' : (s.launch client call releases).Ordered) : (s.launch client call releases).Counted := by
  have hmem : ∀ caller, caller ∈ (s.launch client call releases).unrecorded ↔
      caller = s.nextCall ∧ (call.entry : Pc n).unrecorded = true ∨ caller ∈ s.unrecorded := by
    intro caller
    rw [mem_unrecorded h', mem_unrecorded h.ordered, pcs_launch]
    by_cases hcaller : caller = s.nextCall
    · subst hcaller
      simp [h.ordered.numbered.pcs_nextCall]
    · simp [hcaller]
  refine ⟨h', h.belongs.launch client call releases, ?_⟩
  have hnew : s.nextCall ∉ s.unrecorded := by
    rw [mem_unrecorded h.ordered, h.ordered.numbered.pcs_nextCall]
    rintro ⟨pc, hpc, -⟩
    cases hpc
  have heq := h.recorded_eq
  cases call with
  | fetchPage pageId =>
      have hset : (s.launch client (.fetchPage pageId) releases).unrecorded =
          insert s.nextCall s.unrecorded := by
        ext caller
        rw [hmem, Finset.mem_insert]
        simp [Call.entry, Pc.unrecorded]
      rw [hset, Finset.card_insert_of_notMem hnew, UInt64.ofNat_add, ← UInt64.add_assoc]
      exact congrArg (· + 1) heq
  | _ =>
      have hset : ∀ call : Call, (call.entry : Pc n).unrecorded = false →
          ∀ caller, caller = s.nextCall ∧ (call.entry : Pc n).unrecorded = true ∨
            caller ∈ s.unrecorded ↔ caller ∈ s.unrecorded := by
        intro call hentry caller
        simp [hentry]
      have hsame : (s.launch client _ releases).unrecorded = s.unrecorded :=
        Finset.ext fun caller => (hmem caller).trans (hset _ rfl caller)
      rw [hsame]
      exact heq

/-- A call runs a section. -/
theorem Counted.resume (h : s.Counted) (hactivity : s.calls callId = some activity)
    (h' : (s.resume callId activity next).Ordered)
    (hbelongs : (s.resume callId activity next).Belongs)
    (hrecords : Records s.pool activity.pc next) : (s.resume callId activity next).Counted := by
  refine ⟨h', hbelongs, ?_⟩
  have hself : callId ∈ s.unrecorded ↔ activity.pc.unrecorded = true := by
    rw [mem_unrecorded h.ordered, pcs_eq_some hactivity]
    simp
  have heq := h.recorded_eq
  rcases hrecords with ⟨hfetches, ⟨hsame, hrecorded⟩ | ⟨hbefore, hafter, hrecorded⟩⟩
  · have hset : (s.resume callId activity next).unrecorded = s.unrecorded := by
      ext caller
      rw [mem_unrecorded_resume h.ordered h', hsame, ← hself]
      by_cases hcaller : caller = callId
      · simp [hcaller]
      · simp [hcaller]
    rw [hset]
    exact (congrArg (· + _) hrecorded).trans (heq.trans hfetches.symm)
  · have hset : (s.resume callId activity next).unrecorded = s.unrecorded.erase callId := by
      ext caller
      rw [mem_unrecorded_resume h.ordered h', hafter, Finset.mem_erase]
      simp
    have hcard : s.unrecorded.card = (s.unrecorded.erase callId).card + 1 :=
      (Finset.card_erase_add_one (hself.mpr hbefore)).symm
    rw [hcard, UInt64.ofNat_add, UInt64.add_comm _ (UInt64.ofNat 1), ← UInt64.add_assoc] at heq
    rw [hset]
    exact (congrArg (· + _) hrecorded).trans (heq.trans hfetches.symm)

/-- Every step in which no fetch hits after a miss keeps the invariant. -/
theorem Counted.step {e : Event} (h : s.Counted) (hstep : s.Step e s') (hplain : e.Plain)
    (hhit : s.hitsAfterMiss e = false) : s'.Counted := by
  have h' := h.ordered.step hstep hplain
  rcases step_cases hstep with ⟨client, call, releases, rfl, rfl⟩ |
    ⟨callId, io, activity, next, rfl, hactivity, hnext, rfl⟩
  · exact h.launch h'
  · rcases h.ordered.effect hactivity hnext with ⟨slot, slot', hconsistent, heffect⟩
    have hpc := pcs_eq_some hactivity
    refine h.resume hactivity h' (h.belongs.resume hactivity heffect)
      (heffect.recorded hconsistent ?_)
    intro pageId frameId hstart
    exact isReserved_of_retried hhit (hpc.trans (congrArg some hstart))

/-- When all fetches have returned, none is unrecorded. -/
theorem Counted.fetchesCounted (h : s.Counted) : s.FetchesCounted := by
  intro hreturned
  have hnone : s.unrecorded = ∅ := by
    rw [Finset.eq_empty_iff_forall_notMem]
    intro callId hmem
    rcases (mem_unrecorded h.ordered).mp hmem with ⟨pc, hpc, hunrecorded⟩
    rcases Option.map_eq_some_iff.mp hpc with ⟨activity, hactivity, rfl⟩
    rcases Pc.exists_fetching hunrecorded with ⟨pageId, hfetching⟩
    have hcall := (h.belongs callId activity hactivity).of_fetching hfetching
    rcases hreturned callId activity pageId hactivity hcall with ⟨result, hresult⟩
    rw [hresult] at hunrecorded
    cases hunrecorded
  have heq := h.recorded_eq
  rw [hnone, Finset.card_empty] at heq
  exact (UInt64.add_zero _).symm.trans heq

/-- In an idle system no fetch is unrecorded. -/
theorem Idle.counted (h : s.Idle)
    (hcounted : s.pool.metrics.recorded = s.pool.metrics.fetches) : s.Counted where
  ordered := h.ordered
  belongs := h.belongs
  recorded_eq := by
    have hnone : s.unrecorded = ∅ := by
      rw [Finset.eq_empty_iff_forall_notMem]
      intro callId hmem
      rcases (mem_unrecorded h.ordered).mp hmem with ⟨pc, hpc, hunrecorded⟩
      rcases h.returned_pcs hpc with ⟨result, rfl⟩
      cases hunrecorded
    rw [hnone, Finset.card_empty]
    exact (UInt64.add_zero _).trans hcounted

end System

/-- From an idle system whose counters agree, in every state of every run without
`new_page` and without disk failures, in which no fetch hits after it has recorded a
miss. -/
theorem fetches_counted {s : System n} (hidle : s.Idle)
    (hcounted : s.pool.metrics.cacheHits + s.pool.metrics.cacheMisses = s.pool.metrics.fetches)
    {path : List (Event × System n)} (hpath : IsPath System.Step s path)
    (hplain : EveryStep (fun _ e _ => e.Plain) s path)
    (hhit : EveryStep (fun s e _ => s.hitsAfterMiss e = false) s path) :
    EveryState System.FetchesCounted s path := by
  have hinvariant : EveryState System.Counted s path :=
    hpath.everyState (hplain.and hhit) (hidle.counted hcounted) fun _ _ _ h hstep hgood =>
      h.step hstep hgood.1 hgood.2
  exact hinvariant.imp fun _ => System.Counted.fetchesCounted

/-- Call 1 finds the load of page 0 and sleeps until page 1 has taken the frame, so it
misses page 0 once more and loads it.  Call 4 finds the frame reserved for page 1, sleeps
as well, and finds page 0 when it is back. -/
def fetchAfterWaiting : List Event :=
  [.start 0 (.fetchPage 0) none, .proceed 0 .none, .start 1 (.fetchPage 0) none, .proceed 1 .none,
    .proceed 1 .none, .proceed 0 (.read (.ok fun _ => 4096)), .proceed 0 .none, .proceed 0 .none,
    .proceed 0 .none, .start 0 (.unpinPage 0) (some 0), .proceed 2 .none,
    .start 0 (.fetchPage 1) none, .proceed 3 .none, .start 2 (.fetchPage 0) none, .proceed 4 .none,
    .proceed 3 (.read (.ok fun _ => 4096)), .proceed 3 .none, .proceed 3 .none,
    .start 0 (.unpinPage 1) (some 3), .proceed 5 .none, .proceed 1 .wake, .proceed 1 .none,
    .proceed 1 .none, .proceed 1 (.read (.ok fun _ => 4096)), .proceed 1 .none, .proceed 1 .none,
    .proceed 4 .wake, .proceed 4 .none]

/-- The four fetches are three misses and one hit. -/
theorem fetches_counted_fetchAfterWaiting :
    (follow System.step (System.new 1 []) fetchAfterWaiting).length = 28 ∧
      (lastState (System.new 1 []) (follow System.step (System.new 1 [])
        fetchAfterWaiting)).pool.metrics = ⟨4, 1, 3, 2⟩ ∧
      EveryState System.FetchesCounted (System.new 1 [])
        (follow System.step (System.new 1 []) fetchAfterWaiting) := by
  refine ⟨by decide +kernel, by decide +kernel, ?_⟩
  apply fetches_counted (System.new_idle 1 []) rfl
    (isPath_follow System.step (System.new 1 []) fetchAfterWaiting)
  · exact everyStep_follow (by simp [fetchAfterWaiting, Event.Plain, Io.Succeeds]) _
  · decide +kernel

/-- A client fetches a page; another one finds its load, and the page after it. -/
def fetchDuringLoad : List Event :=
  [.start 0 (.fetchPage 0) none, .proceed 0 .none, .start 1 (.fetchPage 0) none, .proceed 1 .none,
    .proceed 0 (.read (.ok fun _ => 4096)), .proceed 0 .none, .proceed 0 .none, .proceed 0 .none,
    .proceed 1 .none, .proceed 1 .none]

/-- The second fetch is counted as a miss and as a hit. -/
theorem fetch_counted_twice :
    ∃ path, IsPath System.Step (System.new 1 []) path ∧
      EveryStep (fun _ e _ => e.Plain) (System.new 1 []) path ∧
      ¬ EveryState System.FetchesCounted (System.new 1 []) path := by
  have hpath := isPath_follow System.step (System.new 1 []) fetchDuringLoad
  have hplain : EveryStep (fun _ e _ => e.Plain) (System.new 1 [])
      (follow System.step (System.new 1 []) fetchDuringLoad) :=
    everyStep_follow (by simp [fetchDuringLoad, Event.Plain, Io.Succeeds]) _
  refine ⟨_, hpath, hplain, fun hcounted => ?_⟩
  have hordered : EveryState System.Ordered (System.new 1 [])
      (follow System.step (System.new 1 []) fetchDuringLoad) :=
    hpath.everyState hplain (System.new_idle 1 []).ordered fun _ _ _ => System.Ordered.step
  have hreturned : ∀ callId, callId < (lastState (System.new 1 [])
      (follow System.step (System.new 1 []) fetchDuringLoad)).nextCall →
      ((lastState (System.new 1 []) (follow System.step (System.new 1 [])
        fetchDuringLoad)).pcs callId).all Pc.isReturned = true := by decide +kernel
  have hequal := hcounted.last fun callId activity pageId hactivity _ =>
    hordered.last.returned hreturned hactivity
  have hmetrics : (lastState (System.new 1 []) (follow System.step (System.new 1 [])
      fetchDuringLoad)).pool.metrics = ⟨2, 1, 2, 0⟩ := by decide +kernel
  rw [hmetrics] at hequal
  exact absurd hequal (by decide)

end Storage
end TaskPool
