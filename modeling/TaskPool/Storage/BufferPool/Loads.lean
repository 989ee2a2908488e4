import TaskPool.Storage.BufferPool.Interleaving

/-!
# Who owns a load

A `fetch_page` that finds its page neither resident nor being loaded enters itself as
the loader of the page before it looks for a frame.  It removes the entry at the end of
the load.  When it finds no frame, it leaves the entry behind: it goes to sleep until
some frame is no longer reserved, or gives up, and in both cases the entry stays.

Main results:

- Inductive `LoadEffect`: what a section does to the entries.
- Theorem `Effect.loadEffect`: every section does one of these.
- Theorem `never_awaits_itself`: no fetch waits for its own load, in all runs in which
  no fetch goes to sleep with an entry of its own.
- Theorem `fetch_awaits_itself`: a run in which a fetch does.
-/

namespace TaskPool
namespace Storage

open BufferPoolManager Library

variable {n : Nat}

/-- The page the call is loading. -/
def Pc.loading : Pc n → Option PageId
  | .fetchRead pageId _ => some pageId
  | .fetchLoad pageId _ _ => some pageId
  | .fetchPublish pageId _ => some pageId
  | .fetchReadFailed pageId _ _ => some pageId
  | .evictWrite pageId _ _ _ => some pageId
  | .evictRead pageId _ _ => some pageId
  | .evictCommit pageId _ _ _ => some pageId
  | .evictFailed pageId _ _ _ => some pageId
  | _ => none

/-- The fetch is in its loop and has not become a loader. -/
def Pc.looping : Pc n → Bool
  | .fetchStart _ _ => true
  | .fetchWaitState _ _ _ => true
  | .fetchCheckLoad _ _ => true
  | .fetchWaitLoad _ _ _ => true
  | _ => false

/-- The call whose load the fetch waits for. -/
def Pc.awaited : Pc n → Option CallId
  | .fetchCheckLoad _ waiter => some waiter
  | .fetchWaitLoad _ waiter _ => some waiter
  | _ => none

namespace BufferPoolManager

/-- A fetch of the page becomes its loader and finds no frame: none is free, and every
frame is pinned or reserved. -/
def findsNoFrame (pool : BufferPoolManager n) (pageId : PageId) : Bool :=
  (pool.pageTable pageId).isNone && (pool.inFlightLoads pageId).isNone && pool.freeFrames.isEmpty &&
    decide (∀ frameId, (pool.frames frameId).isPinned || (pool.frames frameId).isReserved)

/-- Some frame is reserved. -/
def hasReserved (pool : BufferPoolManager n) : Bool :=
  decide (∃ frameId, (pool.frames frameId).isReserved)

variable {pool : BufferPoolManager n} {callId : CallId} {pageId : PageId} {missRecorded : Bool}

/-- The test looks for a reserved frame. -/
theorem hasReserved_iff :
    pool.hasReserved = true ↔ ∃ frameId, (pool.frames frameId).isReserved = true := by
  unfold hasReserved
  rw [decide_eq_true_eq]

/-- A fetch finds no frame when its page is nowhere, no frame is free, and all are pinned or
reserved. -/
theorem findsNoFrame_iff : pool.findsNoFrame pageId = true ↔
    pool.pageTable pageId = none ∧ pool.inFlightLoads pageId = none ∧ pool.freeFrames = [] ∧
      ∀ frameId, (pool.frames frameId).isPinned = true ∨ (pool.frames frameId).isReserved = true := by
  simp [findsNoFrame, and_assoc]

/-- Reserving a victim is neither waiting nor giving up. -/
theorem reserveVictim_pc {victim : Fin n} {whenDirty : PageId → Buffer pageSize → Pc n}
    {whenClean : PageId → Pc n} {pc : Pc n}
    (hdirty : ∀ page data, whenDirty page data ≠ pc) (hclean : ∀ page, whenClean page ≠ pc)
    (herror : ∀ error, pc ≠ .returned (.failed (.frameError error))) :
    (pool.reserveVictim victim whenDirty whenClean).pc ≠ pc := by
  unfold reserveVictim
  split
  · exact fun h => herror _ h.symm
  · dsimp only
    split
    · exact fun h => herror _ h.symm
    · split_ifs
      · exact hdirty _ _
      · exact hclean _

/-- A fetch that waits or gives up while it looks for a frame has found none. -/
theorem noFrame_of_fetchDecide (htable : pool.pageTable pageId = none)
    (hload : pool.inFlightLoads pageId = none)
    (hpc : (pool.fetchDecide callId pageId missRecorded).pc = .fetchWaitState pageId true false ∨
      (pool.fetchDecide callId pageId missRecorded).pc = .returned (.failed .noEvictableFrame)) :
    pool.findsNoFrame pageId = true ∧
      (pool.hasReserved = true ↔
        (pool.fetchDecide callId pageId missRecorded).pc = .fetchWaitState pageId true false) := by
  rcases recordMissOnce_eq pool missRecorded with ⟨metrics, hmetrics⟩
  have hdecide : pool.fetchDecide callId pageId missRecorded =
      fetchMiss { pool with metrics := metrics } callId pageId := by
    rw [fetchDecide, htable, hmetrics]
  rw [hdecide] at hpc ⊢
  unfold fetchMiss at hpc ⊢
  simp only [hload] at hpc ⊢
  cases hfree : pool.freeFrames with
  | cons freeFrame rest =>
      simp only [insertLoad, hfree] at hpc
      split at hpc <;> simp [abandonLoad] at hpc
  | nil =>
      simp only [insertLoad, hfree] at hpc ⊢
      rcases ClockReplacer.findVictim_spec pool.clockReplacer pool.frames with
        ⟨victim, clock, frames, hfind, hspec⟩
      unfold fetchEvict at hpc ⊢
      simp only [hfind] at hpc ⊢
      cases victim with
      | some victim =>
          rcases hpc with hpc | hpc
          · exact absurd hpc (reserveVictim_pc nofun nofun nofun)
          · exact absurd hpc (reserveVictim_pc nofun nofun nofun)
      | none =>
          refine ⟨findsNoFrame_iff.mpr ⟨htable, hload, hfree,
            ClockReplacer.findVictim_eq_none hfind⟩, ?_⟩
          have hreserved : pool.hasReserved = true ↔ ∃ frameId, (frames frameId).isReserved := by
            rw [hasReserved_iff]
            exact exists_congr fun frameId => by rw [(hspec.sameButReference frameId).isReserved_eq]
          rw [hreserved]
          by_cases hexists : ∃ frameId, (frames frameId).isReserved
          · simp [hexists]
          · simp [hexists, fail, finish]

end BufferPoolManager

/-! ## Sections and entries -/

/-- What a section does to the entries of the loads. -/
inductive LoadEffect (callId : CallId) (pool : BufferPoolManager n) : Pc n → Next n → Prop
  | begins {pageId missRecorded next} (htable : pool.pageTable pageId = none)
      (hload : pool.inFlightLoads pageId = none) (hnext : next.pc.loading = some pageId)
      (hlooping : next.pc.looping = false)
      (hloads : next.pool.inFlightLoads =
        Function.update pool.inFlightLoads pageId (some callId)) :
      LoadEffect callId pool (.fetchStart pageId missRecorded) next
  | leaves {pageId missRecorded next} (hnone : pool.findsNoFrame pageId = true)
      (hnext : pool.hasReserved = true ∧ next.pc = .fetchWaitState pageId true false ∨
        pool.hasReserved = false ∧ next.pc = .returned (.failed .noEvictableFrame))
      (hloads : next.pool.inFlightLoads =
        Function.update pool.inFlightLoads pageId (some callId)) :
      LoadEffect callId pool (.fetchStart pageId missRecorded) next
  | ends {pc pageId next} (hpc : pc.loading = some pageId) (hnext : next.pc.loading = none)
      (hlooping : next.pc.looping = false)
      (hloads : next.pool.inFlightLoads = Function.update pool.inFlightLoads pageId none) :
      LoadEffect callId pool pc next
  | keeps {pc next} (hnext : next.pc.loading = pc.loading)
      (hlooping : next.pc.looping = true → pc.looping = true)
      (hawaited : ∀ waiter, next.pc.awaited = some waiter →
        pc.awaited = some waiter ∨ ∃ pageId, pool.inFlightLoads pageId = some waiter)
      (hloads : next.pool.inFlightLoads = pool.inFlightLoads) : LoadEffect callId pool pc next

/-- A section without entries before and after it. -/
theorem LoadEffect.quiet {callId : CallId} {pool : BufferPoolManager n} {pc : Pc n} {next : Next n}
    (hnext : next.pc.loading = pc.loading) (hlooping : next.pc.looping = false)
    (hawaited : next.pc.awaited = none)
    (hloads : next.pool.inFlightLoads = pool.inFlightLoads) : LoadEffect callId pool pc next := by
  refine .keeps hnext (fun h => ?_) (fun waiter h => ?_) hloads
  · rw [hlooping] at h
    cases h
  · rw [hawaited] at h
    cases h

/-- The page that a fetch is about to look up. -/
def Pc.lookedUp : Pc n → Option PageId
  | .fetchStart pageId _ => some pageId
  | _ => none

/-- Only a fetch in its loop waits for a load. -/
theorem Pc.looping_of_awaited {pc : Pc n} {waiter : CallId} (h : pc.awaited = some waiter) :
    pc.looping = true := by
  cases pc <;> first
    | rfl
    | cases h

namespace LoadEffect

variable {callId : CallId} {pool : BufferPoolManager n} {pc : Pc n} {next : Next n}

/-- A call that stays in its loop and does not go to sleep as a loader changes no entry. -/
theorem stays (h : LoadEffect callId pool pc next) (hlooping : next.pc.looping = true)
    (hsleep : ∀ pageId, pc.lookedUp = some pageId → pool.findsNoFrame pageId = true →
      pool.hasReserved = false) :
    pool.inFlightLoads = next.pool.inFlightLoads ∧ pc.looping = true := by
  cases h with
  | begins _ _ _ hnot | ends _ _ hnot =>
      rw [hnot] at hlooping
      cases hlooping
  | leaves hnone hnext _ =>
      rcases hnext with ⟨hreserved, -⟩ | ⟨-, hreturned⟩
      · rw [hsleep _ rfl hnone] at hreserved
        cases hreserved
      · rw [hreturned] at hlooping
        cases hlooping
  | keeps _ hbefore _ hloads => exact ⟨hloads.symm, hbefore hlooping⟩

/-- A call waits for a call that it has waited for before, or has found as a loader. -/
theorem awaited {waiter : CallId} (h : LoadEffect callId pool pc next)
    (hawaited : next.pc.awaited = some waiter) :
    pc.awaited = some waiter ∨ ∃ pageId, pool.inFlightLoads pageId = some waiter := by
  have hlooping := Pc.looping_of_awaited hawaited
  cases h with
  | begins _ _ _ hnot | ends _ _ hnot =>
      rw [hnot] at hlooping
      cases hlooping
  | leaves _ hnext _ =>
      rcases hnext with ⟨-, hnext⟩ | ⟨-, hnext⟩ <;> rw [hnext] at hawaited <;> cases hawaited
  | keeps _ _ hbefore _ => exact hbefore waiter hawaited

end LoadEffect

/-- Every section has one of these effects. -/
theorem Effect.loadEffect {pool : BufferPoolManager n} {slot slot' : Fin n → Slot}
    {callId : CallId} {pc : Pc n} {io : Io} {next : Next n}
    (heffect : Effect callId pool slot pc io next slot')
    (hadvance : pool.advance callId pc io = some next) : LoadEffect callId pool pc next := by
  cases heffect with
  | fetchWait => exact .keeps rfl (fun _ => rfl) nofun rfl
  | fetchJoin htable hload =>
      refine .keeps rfl (fun _ => rfl) ?_ (inFlightLoads_recordMissOnce pool _)
      rintro waiter ⟨⟩
      exact .inr ⟨_, hload⟩
  | fetchTake htable hload hfree =>
      refine .begins htable hload rfl rfl ?_
      exact congrArg (Function.update · _ _) (inFlightLoads_recordMissOnce pool _)
  | @fetchSleep pageId missRecorded clock frames htable hload hframes =>
      have hpc := congrArg Next.pc (Option.some_inj.mp hadvance)
      have hnone := noFrame_of_fetchDecide htable hload (.inl hpc)
      refine .leaves hnone.1 (.inl ⟨hnone.2.mpr hpc, rfl⟩) ?_
      exact congrArg (Function.update · _ _) (inFlightLoads_recordMissOnce pool _)
  | @fetchGiveUp pageId missRecorded clock frames htable hload hframes =>
      have hpc := congrArg Next.pc (Option.some_inj.mp hadvance)
      have hnone := noFrame_of_fetchDecide htable hload (.inr hpc)
      refine .leaves hnone.1 (.inr ⟨?_, rfl⟩) ?_
      · rw [← Bool.not_eq_true, hnone.2, hpc]
        exact nofun
      · exact congrArg (Function.update · _ _) (inFlightLoads_recordMissOnce pool _)
  | fetchVictim htable hload hframes hslot hpins =>
      refine .begins htable hload ?_ ?_ ?_
      · dsimp only
        split_ifs <;> rfl
      · dsimp only
        split_ifs <;> rfl
      · exact congrArg (Function.update · _ _) (inFlightLoads_recordMissOnce pool _)
  | wakeState => exact .keeps rfl (fun _ => rfl) nofun rfl
  | checkAgain => exact .keeps rfl (fun _ => rfl) (fun _ => .inl) rfl
  | checkDone => exact .keeps rfl (fun _ => rfl) nofun rfl
  | wakeLoad => exact .keeps rfl (fun _ => rfl) (fun _ => .inl) rfl
  | publish => exact .ends rfl rfl rfl rfl
  | giveBack => exact .ends rfl rfl rfl rfl
  | commit => exact .ends rfl rfl rfl rfl
  | restore => exact .ends rfl rfl rfl rfl
  | @checkClean _ _ caller => cases caller <;> exact .quiet rfl rfl rfl rfl
  | @flushDone _ _ caller => cases caller <;> exact .quiet rfl rfl rfl rfl
  | @flushUndo _ _ caller => cases caller <;> exact .quiet rfl rfl rfl rfl
  | newVictim => split_ifs <;> exact .quiet rfl rfl rfl rfl
  | _ => exact .quiet rfl rfl rfl rfl

/-! ## Waiting for one's own load -/

@[simp] theorem Pc.looping_receive (pc : Pc n) (signal : Signal) :
    (pc.receive signal).looping = pc.looping := by
  cases pc <;> rfl

@[simp] theorem Pc.awaited_receive (pc : Pc n) (signal : Signal) :
    (pc.receive signal).awaited = pc.awaited := by
  cases pc <;> rfl

/-- No call starts with waiting. -/
theorem Call.awaited_entry (call : Call) : (call.entry : Pc n).awaited = none := by
  cases call <;> rfl

namespace System

variable {s s' : System n} {callId : CallId} {activity : Activity n} {next : Next n}

/-- A fetch goes to sleep until some frame is no longer reserved, and leaves its own
entry behind. -/
def sleepsAsLoader (s : System n) : Event → Bool
  | .start _ _ _ => false
  | .proceed callId _ => ((s.pcs callId).bind Pc.lookedUp).any fun pageId =>
      s.pool.findsNoFrame pageId && s.pool.hasReserved

/-- No fetch waits for the load that it has entered itself. -/
def AwaitsOthers (s : System n) : Prop :=
  ∀ callId pageId notified, s.pcs callId ≠ some (.fetchWaitLoad pageId callId notified)

/-- The invariant: a fetch in its loop has no entry, and waits for another call. -/
structure Untangled (s : System n) : Prop where
  ordered : s.Ordered
  loader_lt : ∀ pageId loader, s.pool.inFlightLoads pageId = some loader → loader < s.nextCall
  loader_busy : ∀ pageId loader pc, s.pool.inFlightLoads pageId = some loader →
    s.pcs loader = some pc → pc.looping = false
  awaited_ne : ∀ callId pc, s.pcs callId = some pc → pc.awaited ≠ some callId

/-- The invariant has no fetch that waits for itself. -/
theorem Untangled.awaitsOthers (h : s.Untangled) : s.AwaitsOthers :=
  fun callId _ _ hpc => h.awaited_ne callId _ hpc rfl

/-- An idle system without loads. -/
theorem Idle.untangled (h : s.Idle) (hloads : ∀ pageId, s.pool.inFlightLoads pageId = none) :
    s.Untangled where
  ordered := h.ordered
  loader_lt := by
    intro pageId loader hload
    rw [hloads] at hload
    cases hload
  loader_busy := by
    intro pageId loader pc hload
    rw [hloads] at hload
    cases hload
  awaited_ne := by
    intro callId pc hpc
    rcases h.returned_pcs hpc with ⟨result, rfl⟩
    exact nofun

/-- A call starts. -/
theorem Untangled.launch (h : s.Untangled) {client : Nat} {call : Call} {releases : Option CallId}
    (h' : (s.launch client call releases).Ordered) :
    (s.launch client call releases).Untangled := by
  have hloads : (s.launch client call releases).pool.inFlightLoads = s.pool.inFlightLoads := by
    rcases record_eq s.pool call with ⟨metrics, hmetrics⟩
    rw [System.launch, hmetrics]
  refine ⟨h', ?_, ?_, ?_⟩
  · intro pageId loader hload
    rw [hloads] at hload
    exact Nat.lt_succ_of_lt (h.loader_lt pageId loader hload)
  · intro pageId loader pc hload hpc
    rw [hloads] at hload
    rw [pcs_launch, Function.update_of_ne (h.loader_lt pageId loader hload).ne] at hpc
    exact h.loader_busy pageId loader pc hload hpc
  · intro callId pc hpc
    rcases pcs_launch_cases hpc with ⟨rfl, rfl⟩ | ⟨-, hbefore⟩
    · rw [Call.awaited_entry]
      rintro ⟨⟩
    · exact h.awaited_ne callId pc hbefore

/-- The entries after a section belong to the call that has run it and has left its loop,
or they were there before. -/
theorem loader_resume {pc : Pc n} (heffect : LoadEffect callId s.pool pc next)
    (hsleep : next.pc.looping = true → s.pool.inFlightLoads = next.pool.inFlightLoads)
    {pageId : PageId} {loader : CallId} (hload : next.pool.inFlightLoads pageId = some loader) :
    s.pool.inFlightLoads pageId = some loader ∨ loader = callId ∧ next.pc.looping = false := by
  by_cases hlooping : next.pc.looping = true
  · rw [hsleep hlooping]
    exact .inl hload
  · have hupdate : ∀ page, next.pool.inFlightLoads = Function.update s.pool.inFlightLoads page
        (some callId) → s.pool.inFlightLoads pageId = some loader ∨ loader = callId := by
      intro page hloads
      rw [hloads] at hload
      by_cases hpage : pageId = page
      · rw [hpage, Function.update_self, Option.some_inj] at hload
        exact .inr hload.symm
      · rw [Function.update_of_ne hpage] at hload
        exact .inl hload
    rw [Bool.not_eq_true] at hlooping
    cases heffect with
    | begins _ _ _ _ hloads => exact (hupdate _ hloads).imp id fun h => ⟨h, hlooping⟩
    | leaves _ _ hloads => exact (hupdate _ hloads).imp id fun h => ⟨h, hlooping⟩
    | @ends _ page _ _ _ _ hloads =>
        left
        rw [hloads] at hload
        by_cases hpage : pageId = page
        · rw [hpage, Function.update_self] at hload
          cases hload
        · rwa [Function.update_of_ne hpage] at hload
    | keeps _ _ _ hloads => exact .inl (hloads ▸ hload)

/-- A call runs a section and does not go to sleep as a loader. -/
theorem Untangled.resume (h : s.Untangled) (hactivity : s.calls callId = some activity)
    (h' : (s.resume callId activity next).Ordered)
    (heffect : LoadEffect callId s.pool activity.pc next)
    (hsleep : ∀ pageId, activity.pc.lookedUp = some pageId → s.pool.findsNoFrame pageId = true →
      s.pool.hasReserved = false) : (s.resume callId activity next).Untangled := by
  have hpc := pcs_eq_some hactivity
  have hstays := fun hlooping => heffect.stays hlooping hsleep
  refine ⟨h', ?_, ?_, ?_⟩
  · intro pageId loader hload
    rcases loader_resume heffect (fun hlooping => (hstays hlooping).1) hload with hold | ⟨rfl, -⟩
    · exact h.loader_lt pageId loader hold
    · exact h.ordered.lt_nextCall loader activity hactivity
  · intro pageId loader pc hload hloader
    rcases pcs_resume_cases hloader with ⟨rfl, rfl⟩ | ⟨hne, before, hbefore, rfl⟩
    · rw [Pc.looping_receive, ← Bool.not_eq_true]
      intro hlooping
      rcases hstays hlooping with ⟨hloads, hbefore⟩
      rw [h.loader_busy pageId loader _ (hloads ▸ hload) hpc] at hbefore
      cases hbefore
    · rw [Pc.looping_receive]
      rcases loader_resume heffect (fun hlooping => (hstays hlooping).1) hload with hold | ⟨heq, -⟩
      · exact h.loader_busy pageId loader before hold hbefore
      · exact absurd heq hne
  · intro caller pc hcaller
    rcases pcs_resume_cases hcaller with ⟨rfl, rfl⟩ | ⟨-, before, hbefore, rfl⟩
    · rw [Pc.awaited_receive]
      intro hself
      have hlooping := Pc.looping_of_awaited hself
      rcases heffect.awaited hself with hold | ⟨pageId, hload⟩
      · exact h.awaited_ne caller activity.pc hpc hold
      · have hbusy := (hstays hlooping).2
        rw [h.loader_busy pageId caller _ hload hpc] at hbusy
        cases hbusy
    · rw [Pc.awaited_receive]
      exact h.awaited_ne caller before hbefore

/-- Every step in which no fetch goes to sleep as a loader keeps the invariant. -/
theorem Untangled.step {e : Event} (h : s.Untangled) (hstep : s.Step e s') (hplain : e.Plain)
    (hsleep : s.sleepsAsLoader e = false) : s'.Untangled := by
  have h' := h.ordered.step hstep hplain
  rcases step_cases hstep with ⟨client, call, releases, rfl, rfl⟩ |
    ⟨callId, io, activity, next, rfl, hactivity, hnext, rfl⟩
  · exact h.launch h'
  · rcases h.ordered.effect hactivity hnext with ⟨slot, slot', hconsistent, heffect⟩
    have hpc := pcs_eq_some hactivity
    refine h.resume hactivity h' (heffect.loadEffect hnext) ?_
    intro pageId hlookup hnone
    simpa [sleepsAsLoader, hpc, hlookup, hnone] using hsleep

end System

/-- From an idle system without loads, in every state of every run without `new_page`
and without disk failures, in which no fetch goes to sleep as a loader. -/
theorem never_awaits_itself {s : System n} (hidle : s.Idle)
    (hloads : ∀ pageId, s.pool.inFlightLoads pageId = none) {path : List (Event × System n)}
    (hpath : IsPath System.Step s path) (hplain : EveryStep (fun _ e _ => e.Plain) s path)
    (hsleep : EveryStep (fun s e _ => s.sleepsAsLoader e = false) s path) :
    EveryState System.AwaitsOthers s path := by
  have hinvariant : EveryState System.Untangled s path :=
    hpath.everyState (hplain.and hsleep) (hidle.untangled hloads) fun _ _ _ h hstep hgood =>
      h.step hstep hgood.1 hgood.2
  exact hinvariant.imp fun _ => System.Untangled.awaitsOthers

/-- The second fetch waits for the first one. -/
theorem never_awaits_itself_twoFetches :
    (follow System.step (System.new 1 []) twoFetches).length = 12 ∧
      EveryState System.AwaitsOthers (System.new 1 [])
        (follow System.step (System.new 1 []) twoFetches) :=
  ⟨by decide +kernel, never_awaits_itself (System.new_idle 1 []) (fun _ => rfl)
    (isPath_follow System.step (System.new 1 []) twoFetches)
    (everyStep_follow (by simp [twoFetches, Event.Plain, Io.Succeeds]) _) (by decide +kernel)⟩

/-- While the only frame is being loaded, another page is fetched; its fetch sleeps until
the load is published, and then finds its own entry. -/
def fetchWhileReserved : List Event :=
  [.start 0 (.fetchPage 0) none, .proceed 0 .none, .start 1 (.fetchPage 1) none, .proceed 1 .none,
    .proceed 0 (.read (.ok fun _ => 4096)), .proceed 0 .none, .proceed 0 .none, .proceed 0 .none,
    .proceed 1 .wake, .proceed 1 .none, .proceed 1 .none]

/-- Although the disk does not fail and nobody wakes up unasked, the second fetch ends up
waiting for itself. -/
theorem fetch_awaits_itself :
    ∃ path, IsPath System.Step (System.new 1 []) path ∧
      EveryStep (fun s e _ => e.Plain ∧ s.wakesNotified e = true) (System.new 1 []) path ∧
      ¬ EveryState System.AwaitsOthers (System.new 1 []) path := by
  have hpath := isPath_follow System.step (System.new 1 []) fetchWhileReserved
  have hplain : EveryStep (fun _ e _ => e.Plain) (System.new 1 [])
      (follow System.step (System.new 1 []) fetchWhileReserved) :=
    everyStep_follow (by simp [fetchWhileReserved, Event.Plain, Io.Succeeds]) _
  have hnotified : EveryStep (fun s e _ => s.wakesNotified e = true) (System.new 1 [])
      (follow System.step (System.new 1 []) fetchWhileReserved) := by decide +kernel
  refine ⟨_, hpath, hplain.and hnotified, fun hothers => ?_⟩
  have hlast : (lastState (System.new 1 []) (follow System.step (System.new 1 [])
      fetchWhileReserved)).pcs 1 = some (.fetchWaitLoad 1 1 false) := by decide +kernel
  exact hothers.last 1 1 false hlast

end Storage
end TaskPool
