import TaskPool.Storage.BufferPool.PinCount
import TaskPool.Storage.BufferPool.Restart

/-!
# Evictions and the page table

A page comes into the table when it is loaded or created, and leaves it when it is deleted
or when its frame is taken by another page.  The metrics count the last kind, but only
where `fetch_page` takes the frame: `new_page` replaces the page in the table in the same
way and does not record it.

Main results:

- Inductive `Turns`: what a call does to the page table and the counter of evictions.
- Theorem `Settled.turned`: what a request has done is known by its result.
- Theorem `evictions_counted_iff`: the counter agrees with the table exactly in the
  sessions in which no `new_page` evicts.
- Theorem `new_page_eviction_unrecorded`: a session with such an eviction.
-/

namespace TaskPool
namespace Storage

open BufferPoolManager Library

variable {n : Nat}

/-! ## Pages in the table -/

namespace PageTable

variable {table : PageTable n} {pageId page : PageId} {frameId : Fin n}

/-- The pages in the table. -/
def pages (table : PageTable n) : Finset PageId :=
  ((Finset.range 65536).image UInt16.ofNat).filter fun pageId => table pageId ≠ none

@[simp] theorem mem_pages : page ∈ table.pages ↔ table page ≠ none := by
  have hall : page ∈ (Finset.range 65536).image UInt16.ofNat :=
    Finset.mem_image.mpr ⟨page.toNat, Finset.mem_range.mpr page.toNat_lt, UInt16.ofNat_toNat⟩
  rw [pages, Finset.mem_filter, and_iff_right hall]

@[simp] theorem pages_new : (PageTable.new : PageTable n).pages = ∅ := by
  ext page
  simp [PageTable.new]

/-- An insert adds its page. -/
theorem pages_insert : (table.insert pageId frameId).pages = Insert.insert pageId table.pages := by
  ext page
  by_cases hpage : page = pageId
  · simp [insert, hpage]
  · simp [insert, hpage]

/-- A removal takes its page. -/
theorem pages_removePage : (table.removePage pageId).pages = table.pages.erase pageId := by
  ext page
  by_cases hpage : page = pageId
  · simp [removePage, hpage]
  · simp [removePage, hpage]

/-- After an insert an entry is the new one or an old one. -/
theorem insert_eq_some {other : Fin n} (h : table.insert pageId frameId page = some other) :
    page = pageId ∧ other = frameId ∨ page ≠ pageId ∧ table page = some other := by
  by_cases hpage : page = pageId
  · rw [insert, hpage, Function.update_self, Option.some_inj] at h
    exact .inl ⟨hpage, h.symm⟩
  · rw [insert, Function.update_of_ne hpage] at h
    exact .inr ⟨hpage, h⟩

/-- The number of pages in the table. -/
def entries (table : PageTable n) : Nat := table.pages.card

/-- A new page table has no entries. -/
theorem entries_new : (PageTable.new : PageTable n).entries = 0 := by
  rw [entries, pages_new, Finset.card_empty]

/-- Inserting a page that is not in the table adds an entry. -/
theorem entries_insert (hnew : table pageId = none) :
    (table.insert pageId frameId).entries = table.entries + 1 := by
  rw [entries, pages_insert, Finset.card_insert_of_notMem (by simp [hnew]), entries]

/-- Removing a page that is in the table takes an entry. -/
theorem entries_removePage (hold : table pageId = some frameId) :
    (table.removePage pageId).entries + 1 = table.entries := by
  rw [entries, pages_removePage, Finset.card_erase_add_one (by simp [hold]), entries]

/-- A replacement keeps the number of entries. -/
theorem entries_replace {oldPageId : PageId} (hold : table oldPageId = some frameId)
    (hnew : table pageId = none) :
    ((table.removePage oldPageId).insert pageId frameId).entries = table.entries := by
  have hremoved : table.removePage oldPageId pageId = none := by
    by_contra hne
    exact of_removePage hne hnew
  rw [entries_insert hremoved, entries_removePage hold]

end PageTable

/-! ## What a call does to the table -/

/-- The ways in which a call changes the pages in the table. -/
inductive Turn where
  | loaded
  | created
  | deleted
deriving DecidableEq

/-- How the call has changed the pages in the table of the pool it found, or is about to
return that it has. -/
def Call.turn (pool : BufferPoolManager n) : Call → Pc n → Option Turn
  | .fetchPage pageId, .fetchNotify _ (.ok _) =>
    if pool.pageTable pageId = none then some .loaded else none
  | .fetchPage pageId, .returned (.fetched _) =>
    if pool.pageTable pageId = none then some .loaded else none
  | .newPage, .returned (.allocated _ _) => some .created
  | .deletePage _, .returned .done => some .deleted
  | _, _ => none

/-- What happens to the page table and to the counter of evictions: only a page that is
loaded records the eviction of another one. -/
inductive Turns (table table' : PageTable n) (evictions evictions' : UInt64) : Option Turn → Prop
  | same (htable : table' = table) (hevictions : evictions' = evictions) :
      Turns table table' evictions evictions' none
  | insert {turn pageId frameId} (hturn : turn ≠ .deleted) (hnew : table pageId = none)
      (hunmapped : ∀ page, table page ≠ some frameId)
      (htable : table' = table.insert pageId frameId) (hevictions : evictions' = evictions) :
      Turns table table' evictions evictions' (some turn)
  | replace {turn oldPageId pageId frameId} (hturn : turn ≠ .deleted)
      (hold : table oldPageId = some frameId) (hnew : table pageId = none)
      (htable : table' = (table.removePage oldPageId).insert pageId frameId)
      (hevictions : evictions' = evictions + if turn = .loaded then 1 else 0) :
      Turns table table' evictions evictions' (some turn)
  | remove {pageId frameId} (hold : table pageId = some frameId)
      (htable : table' = table.removePage pageId) (hevictions : evictions' = evictions) :
      Turns table table' evictions evictions' (some .deleted)

/-- What a call has done to a pool that has become another one. -/
def BufferPoolManager.Turned (pool pool' : BufferPoolManager n) (turn : Option Turn) : Prop :=
  Turns pool.pageTable pool'.pageTable pool.metrics.evictions pool'.metrics.evictions turn

/-- Sections after which a call may have changed the table. -/
def Pc.mayTurn : Pc n → Bool
  | .fetchNotify _ (.ok _) => true
  | .returned (.fetched _) => true
  | .returned (.allocated _ _) => true
  | .returned .done => true
  | _ => false

/-- Most sections cannot have changed the table. -/
theorem Call.turn_eq_none {pc : Pc n} (h : pc.mayTurn = false) (pool : BufferPoolManager n)
    (call : Call) : call.turn pool pc = none := by
  unfold Call.turn
  split <;> first
    | cases h
    | rfl

/-- What a call has changed depends on the table it found only. -/
theorem Call.turn_congr {pool pool' : BufferPoolManager n} (htable : pool'.pageTable = pool.pageTable)
    (call : Call) (pc : Pc n) : call.turn pool' pc = call.turn pool pc := by
  unfold Call.turn
  rw [htable]

/-- Calls that have changed the table are about to return. -/
theorem Call.turn_eq_some {pool : BufferPoolManager n} {call : Call} {pc : Pc n} {turn : Turn}
    (h : call.turn pool pc = some turn) :
    (∃ waiter frameId, pc = .fetchNotify waiter (.ok frameId)) ∨ ∃ result, pc = .returned result := by
  unfold Call.turn at h
  split at h
  · exact .inl ⟨_, _, rfl⟩
  · exact .inr ⟨_, rfl⟩
  · exact .inr ⟨_, rfl⟩
  · exact .inr ⟨_, rfl⟩
  · cases h

/-- Only a `new_page` creates pages. -/
theorem Call.turn_ne_created {pool : BufferPoolManager n} {call : Call} {pc : Pc n}
    (hcall : call ≠ .newPage) : call.turn pool pc ≠ some .created := by
  unfold Call.turn
  split
  · split_ifs <;> nofun
  · split_ifs <;> nofun
  · exact absurd rfl hcall
  · exact nofun
  · exact nofun

namespace BufferPoolManager.Turned

variable {call : Call} {pool pool' pool'' : BufferPoolManager n} {pc : Pc n}

/-- Nothing has changed so far. -/
theorem still (hpc : pc.mayTurn = false) (htable : pool'.pageTable = pool.pageTable)
    (hevictions : pool'.metrics.evictions = pool.metrics.evictions) :
    Turned pool pool' (call.turn pool pc) := by
  rw [Call.turn_eq_none hpc]
  exact .same htable hevictions

/-- A section that follows sections which changed nothing. -/
theorem trans (h : Turned pool pool' none) (h' : Turned pool' pool'' (call.turn pool' pc)) :
    Turned pool pool'' (call.turn pool pc) := by
  cases h with
  | same htable hevictions =>
      rw [Turned, htable, hevictions, Call.turn_congr htable] at h'
      exact h'

end BufferPoolManager.Turned

namespace Faithful

variable {pool : BufferPoolManager n} {callId : CallId} {call : Call} {pc : Pc n}
  {slot slot' : Fin n → Slot} {io : Io} {next : Next n} {pageId oldPageId : PageId}
  {frameId victim : Fin n}

/-- The decision of a fetch changes no entry. -/
theorem turned_fetchStart {missRecorded : Bool}
    (h : Faithful pool callId call (.fetchStart pageId missRecorded) slot)
    (heffect : Effect callId pool slot (.fetchStart pageId missRecorded) io next slot') :
    Turned pool next.pool (call.turn pool next.pc) := by
  have hcall := (h.requested pageId rfl).1
  have hevictions : (pool.recordMissOnce missRecorded).metrics.evictions =
      pool.metrics.evictions := by
    cases missRecorded <;> rfl
  cases heffect with
  | @fetchHit _ _ frameId hslot =>
      have hmapped : pool.pageTable pageId ≠ none := by
        rw [h.consistent.table_of_slot hslot]
        exact Option.some_ne_none _
      have hturn : (Call.fetchPage pageId).turn pool (.returned (.fetched frameId) : Pc n) = none :=
        if_neg hmapped
      subst hcall
      rw [finish, hturn]
      exact .same rfl rfl
  | fetchWait => exact .still rfl rfl rfl
  | fetchJoin | fetchTake | fetchSleep | fetchGiveUp =>
      exact .still rfl (pageTable_recordMissOnce pool missRecorded) hevictions
  | fetchVictim =>
      dsimp only
      split_ifs <;>
        exact .still rfl (pageTable_recordMissOnce pool missRecorded) hevictions

/-- With a free frame, `new_page` adds the entry of its page. -/
theorem turned_newStart (h : Faithful pool callId call .newStart slot)
    (heffect : Effect callId pool slot .newStart io next slot') :
    Turned pool next.pool (call.turn pool next.pc) := by
  have hcall : call = .newPage := h.content
  subst hcall
  cases heffect with
  | newFail | newGiveUp => exact .same rfl rfl
  | newTake _ hfree =>
      have hslot := (h.consistent.layout.mem_free _).mp (hfree ▸ List.mem_cons_self)
      exact .insert nofun h.table_next
        (h.consistent.not_table_of_located (by rw [hslot]; rfl)) rfl rfl
  | newVictim =>
      dsimp only
      split_ifs <;> exact .same rfl rfl

/-- The commit of `new_page` puts its page in place of the victim. -/
theorem turned_newCommit {newPageId : PageId}
    (h : Faithful pool callId call (.newCommit newPageId victim oldPageId) slot)
    (heffect : Effect callId pool slot (.newCommit newPageId victim oldPageId) io next slot') :
    Turned pool next.pool (call.turn pool next.pc) := by
  have hslot := h.slot_of_owned rfl
  rcases h.content with ⟨⟨hcall, hnext, -⟩, -⟩
  subst hcall
  cases heffect with
  | newCommit htable =>
      have hold := h.consistent.table_of_located (by rw [hslot]; rfl)
      exact .replace nofun hold htable rfl (UInt64.add_zero _).symm
  | newCollide htable =>
      rw [hnext] at htable
      exact absurd h.table_next htable

/-- What a section does to the table, if nothing was done before it. -/
theorem turned (h : Faithful pool callId call pc slot)
    (heffect : Effect callId pool slot pc io next slot') (hbelongs : pc.BelongsTo call)
    (hnone : call.turn pool pc = none) : Turned pool next.pool (call.turn pool next.pc) := by
  cases pc with
  | fetchStart pageId missRecorded => exact h.turned_fetchStart heffect
  | newStart => exact h.turned_newStart heffect
  | newCommit => exact h.turned_newCommit heffect
  | fetchPublish pageId frameId =>
      have hslot := h.slot_of_owned rfl
      have hnew := (h.consistent.layout.incoming frameId callId pageId (by rw [hslot]; rfl)).2
      have hcall := (h.requested pageId rfl).1
      subst hcall
      cases heffect
      rw [endLoad, Call.turn, if_pos hnew]
      exact .insert nofun hnew (h.consistent.not_table_of_located (by rw [hslot]; rfl)) rfl rfl
  | evictCommit pageId victim oldPageId buffer =>
      have hslot := h.slot_of_owned rfl
      have hnew := (h.consistent.layout.incoming victim callId pageId (by rw [hslot]; rfl)).2
      have hold := h.consistent.table_of_located (by rw [hslot]; rfl)
      have hcall := (h.requested pageId rfl).1
      subst hcall
      cases heffect
      rw [endLoad, Call.turn, if_pos hnew]
      exact .replace nofun hold hnew rfl rfl
  | fetchNotify waiter result =>
      rcases hbelongs with ⟨pageId, rfl⟩
      cases heffect
      cases result with
      | error => exact .same rfl rfl
      | ok frameId =>
          have hsame : (Call.fetchPage pageId).turn pool
              (.returned (.ofFetch (.ok frameId)) : Pc n) = none := hnone
          rw [hsame]
          exact .same rfl rfl
  | unpinStart | markDirtyStart | flushStart =>
      cases hbelongs
      cases heffect <;> exact .same rfl rfl
  | deleteStart pageId =>
      cases hbelongs
      cases heffect with
      | deleteFail | deleteTake => exact .same rfl rfl
      | deleteClean hslot => exact .remove (h.consistent.table_of_slot hslot) rfl rfl
  | deleteFinish pageId frameId =>
      have hslot := h.slot_of_owned rfl
      cases hbelongs
      cases heffect
      exact .remove (h.consistent.table_of_located (by rw [hslot]; rfl)) rfl rfl
  | flushCheck _ _ caller | flushFinish _ _ _ caller =>
      cases caller <;> cases heffect <;> exact .still rfl rfl rfl
  | flushRelease =>
      cases hbelongs
      cases heffect
      exact .same rfl rfl
  | _ => cases heffect <;> exact .still rfl rfl rfl

end Faithful

/-! ## What a request does to the table -/

/-- The next section of a call on the first pool, which has led to the second one. -/
theorem BufferPoolManager.Turned.step {pool pool' : BufferPoolManager n} {callId : CallId}
    {call : Call} {pc : Pc n} {slot : Fin n → Slot} {io : Io} {next : Next n}
    (h : Turned pool pool' (call.turn pool pc)) (hfaithful : Faithful pool' callId call pc slot)
    (hbelongs : pc.BelongsTo call) (hnext : pool'.advance callId pc io = some next) :
    Turned pool next.pool (call.turn pool next.pc) := by
  rcases hfaithful.toLone.step hnext with ⟨slot', heffect, -⟩
  cases hturn : call.turn pool pc with
  | none =>
      -- the first section that may change the table
      rw [hturn] at h
      have htable : pool'.pageTable = pool.pageTable := by cases h; assumption
      rw [← Call.turn_congr htable] at hturn
      exact h.trans (hfaithful.turned heffect hbelongs hturn)
  | some turn =>
      -- the table was changed before, and the call is returning
      rcases Call.turn_eq_some hturn with ⟨waiter, frameId, rfl⟩ | ⟨result, rfl⟩
      · rcases hbelongs with ⟨pageId, rfl⟩
        cases heffect
        exact h
      · cases heffect

/-- What a request has done to the table and to the counter is known by its result. -/
theorem Settled.turned {pool pool' : BufferPoolManager n} (h : Settled pool) {request : Request}
    {result : CallResult n}
    (hallocated : ∀ pageId, request.call = .fetchPage pageId → pageId < pool.nextPageId)
    (hserve : pool.serve request = some (pool', result)) :
    Turned pool pool' (request.call.turn pool (.returned result)) := by
  refine (h.serve_induction (motive := fun pool' pc =>
    Turned pool pool' (request.call.turn pool pc)) hallocated hserve ?_ ?_).2
  · cases request.call <;> exact .same rfl rfl
  · intro pool₁ pc slot io next hfaithful hbelongs hnext hturned
    exact hturned.step hfaithful hbelongs hnext

/-! ## Pages that are displaced -/

namespace BufferPoolManager

variable {pool pool' : BufferPoolManager n} {frameId : Fin n} {page page' : PageId}

/-- The frames whose pages have made room for other ones. -/
def displacedFrames (pool pool' : BufferPoolManager n) : Finset (Fin n) :=
  Finset.univ.filter fun frameId => (pool.frames frameId).heldPage ≠ none ∧
    (pool'.frames frameId).heldPage ≠ none ∧
    (pool'.frames frameId).heldPage ≠ (pool.frames frameId).heldPage

/-- Between two calls, a frame has lost its page to the one that is in the table now. -/
theorem Sound.mem_displacedFrames (h : pool.Sound) (h' : pool'.Sound) :
    frameId ∈ displacedFrames pool pool' ↔ ∃ page page', page ≠ page' ∧
      pool.pageTable page = some frameId ∧ pool'.pageTable page' = some frameId := by
  simp only [displacedFrames, Finset.mem_filter, Finset.mem_univ, true_and, h.table_iff,
    h'.table_iff]
  constructor
  · rintro ⟨hheld, hheld', hne⟩
    rcases Option.ne_none_iff_exists'.mp hheld with ⟨page, hpage⟩
    rcases Option.ne_none_iff_exists'.mp hheld' with ⟨page', hpage'⟩
    refine ⟨page, page', ?_, hpage, hpage'⟩
    rintro rfl
    exact hne (hpage'.trans hpage.symm)
  · rintro ⟨page, page', hne, hpage, hpage'⟩
    simp [hpage, hpage', hne.symm]

/-- Pages that come into frames without a page displace none. -/
theorem Sound.displacedFrames_eq_empty (h : pool.Sound) (h' : pool'.Sound)
    (hcome : ∀ page' frameId, pool'.pageTable page' = some frameId →
      pool.pageTable page' = some frameId ∨ ∀ page, pool.pageTable page ≠ some frameId) :
    displacedFrames pool pool' = ∅ := by
  refine Finset.eq_empty_of_forall_notMem fun frameId hmem => ?_
  rcases (h.mem_displacedFrames h').mp hmem with ⟨page, page', hne, hpage, hpage'⟩
  rcases hcome page' frameId hpage' with hold | hunmapped
  · rw [h.table_iff] at hpage hold
    exact hne (Option.some_inj.mp (hpage.symm.trans hold))
  · exact hunmapped page hpage

/-- A page that replaces another one displaces it, and no other page. -/
theorem Sound.displacedFrames_replace (h : pool.Sound) (h' : pool'.Sound)
    (hold : pool.pageTable page = some frameId) (hnew : pool.pageTable page' = none)
    (htable : pool'.pageTable = (pool.pageTable.removePage page).insert page' frameId) :
    displacedFrames pool pool' = {frameId} := by
  ext other
  rw [h.mem_displacedFrames h', Finset.mem_singleton]
  constructor
  · rintro ⟨old, new, hne, hpage, hpage'⟩
    rw [htable] at hpage'
    rcases PageTable.insert_eq_some hpage' with ⟨-, hother⟩ | ⟨-, hremoved⟩
    · exact hother
    · have hstays := (PageTable.removePage_eq_some hremoved).2
      rw [h.table_iff] at hpage hstays
      exact absurd (Option.some_inj.mp (hpage.symm.trans hstays)) hne
  · rintro rfl
    refine ⟨page, page', ?_, hold, ?_⟩
    · rintro rfl
      cases hold.symm.trans hnew
    · rw [htable, PageTable.insert, Function.update_self]

/-- How often the call has changed the table in a way. -/
def times (turn : Option Turn) (kind : Turn) : Nat := if turn = some kind then 1 else 0

/-- Pages that were in the table or came into it are still there, were deleted, or were
displaced, and an eviction is recorded for the pages that a load has displaced. -/
theorem Turned.balance {turn : Option Turn} (hturned : Turned pool pool' turn) (h : pool.Sound)
    (h' : pool'.Sound) :
    pool'.pageTable.entries + times turn .deleted + (displacedFrames pool pool').card =
        pool.pageTable.entries + times turn .loaded + times turn .created ∧
      pool'.metrics.evictions = pool.metrics.evictions +
        if turn = some .created then 0 else UInt64.ofNat (displacedFrames pool pool').card := by
  cases hturned with
  | same htable hevictions =>
      have hnone : displacedFrames pool pool' = ∅ :=
        h.displacedFrames_eq_empty h' fun _ _ hpage => .inl (by rwa [htable] at hpage)
      simp [times, hnone, htable, hevictions]
  | @insert turn pageId frameId hturn hnew hunmapped htable hevictions =>
      have hnone : displacedFrames pool pool' = ∅ := by
        refine h.displacedFrames_eq_empty h' fun page other hpage => ?_
        rw [htable] at hpage
        rcases PageTable.insert_eq_some hpage with ⟨-, rfl⟩ | ⟨-, hold⟩
        · exact .inr hunmapped
        · exact .inl hold
      rw [htable, PageTable.entries_insert hnew, hnone, hevictions]
      cases turn <;> simp [times] at hturn ⊢
  | @replace turn oldPageId pageId frameId hturn hold hnew htable hevictions =>
      rw [h.displacedFrames_replace h' hold hnew htable, htable, PageTable.entries_replace hold hnew,
        hevictions]
      cases turn <;> simp [times] at hturn ⊢
  | @remove pageId frameId hold htable hevictions =>
      have hnone : displacedFrames pool pool' = ∅ := by
        refine h.displacedFrames_eq_empty h' fun page other hpage => ?_
        rw [htable] at hpage
        exact .inl (PageTable.removePage_eq_some hpage).2
      rw [hnone, htable, ← PageTable.entries_removePage hold, hevictions]
      simp [times]

end BufferPoolManager

/-! ## When `new_page` evicts -/

instance : (io : Io) → Decidable io.Succeeds
  | .read (.fail _) | .write (.fail _ _) => .isFalse id
  | .read (.ok _) | .write .ok | .none | .wake => .isTrue trivial

namespace BufferPoolManager

variable {pool pool' : BufferPoolManager n} {frameId victim : Fin n} {pageId : PageId}
  {callId : CallId} {ios : List Io} {result : CallResult n}

/-- A `new_page` evicts: it has an identifier left, no frame is free, CLOCK finds a victim,
and the disk accepts the page of the victim if it is dirty. -/
def EvictsForNew (pool : BufferPoolManager n) (ios : List Io) : Prop :=
  pool.leaving .newPage ≠ none ∧ ∀ io ∈ ios, io.Succeeds

instance (pool : BufferPoolManager n) (ios : List Io) : Decidable (pool.EvictsForNew ios) :=
  inferInstanceAs (Decidable (_ ∧ _))

/-- A call that has returned has no more sections. -/
theorem ios_eq_nil_of_returned {result' : CallResult n}
    (hsolo : solo callId ios pool (.returned result) = some (pool', .returned result')) :
    ios = [] := by
  cases ios with
  | nil => rfl
  | cons io ios =>
      rcases solo_cons_eq_some.mp hsolo with ⟨next, hnext, -⟩
      cases io <;> cases hnext

/-- When no frame exchanges its page for another one, none is displaced. -/
theorem displacedFrames_of_heldPage (hheld : ∀ frameId,
    (pool'.frames frameId).heldPage = (pool.frames frameId).heldPage ∨
      (pool.frames frameId).heldPage = none) : displacedFrames pool pool' = ∅ := by
  refine Finset.eq_empty_of_forall_notMem fun frameId hmem => ?_
  rcases (Finset.mem_filter.mp hmem).2 with ⟨hsome, -, hne⟩
  rcases hheld frameId with hsame | hnone
  · exact hne hsame
  · exact hsome hnone

/-- The commit of a new page is the last section of its call. -/
theorem ios_of_newCommit {newPageId page : PageId}
    (hsolo : solo callId ios pool (.newCommit newPageId victim page) =
      some (pool', .returned result)) : ios = [.none] := by
  rcases solo_step (by rintro _ ⟨⟩) hsolo with ⟨io, rest, next, rfl, hnext, hrest⟩
  cases io <;> simp only [advance, Option.some_inj, reduceCtorEq] at hnext
  subst hnext
  rw [newCommit_eq] at hrest
  cases hreplace : pool.pageTable.replace page newPageId victim with
  | error e =>
      rw [hreplace] at hrest
      rw [ios_eq_nil_of_returned hrest]
  | ok table =>
      rw [hreplace] at hrest
      rw [ios_eq_nil_of_returned hrest]

/-- A frame changes, but not its page. -/
theorem heldPage_setFrame (pool : BufferPoolManager n) {frame : Frame}
    (hframe : frame.heldPage = (pool.frames victim).heldPage) (frameId : Fin n) :
    ((pool.setFrame victim frame).frames frameId).heldPage = (pool.frames frameId).heldPage := by
  rw [frames_setFrame]
  by_cases hvictim : frameId = victim
  · rw [hvictim, Function.update_self, hframe]
  · rw [Function.update_of_ne hvictim]

/-- A page stays in the reserved frame if the disk refuses it. -/
theorem heldPage_of_newRollback {newPageId page : PageId} {error : IoError}
    (hsolo : solo callId ios pool (.newRollback newPageId victim page error) =
      some (pool', .returned result)) (frameId : Fin n) :
    (pool'.frames frameId).heldPage = (pool.frames frameId).heldPage := by
  rcases solo_step (by rintro _ ⟨⟩) hsolo with ⟨io, rest, next, rfl, hnext, hrest⟩
  cases io <;> cases hnext
  rw [(solo_returned hrest).1]
  exact heldPage_setFrame pool (by rfl) frameId

/-- A reserved victim loses its page only if the disk accepts it. -/
theorem succeeds_or_kept {newPageId page : PageId} {dirty : Bool} {data : Buffer pageSize}
    (hsolo : solo callId ios pool (if dirty then .newWrite newPageId victim page data
      else .newCommit newPageId victim page) = some (pool', .returned result)) :
    (∀ io ∈ ios, io.Succeeds) ∨
      ∀ frameId, (pool'.frames frameId).heldPage = (pool.frames frameId).heldPage := by
  cases dirty with
  | false =>
      rw [ios_of_newCommit hsolo]
      exact .inl (by simp [Io.Succeeds])
  | true =>
      rcases solo_step (by rintro _ ⟨⟩) hsolo with ⟨io, rest, next, rfl, hnext, hrest⟩
      rcases io with _ | outcome | outcome | _ <;> cases hnext
      cases outcome with
      | ok =>
          rw [ios_of_newCommit hrest]
          exact .inl (by simp [Io.Succeeds])
      | fail error left =>
          have hrollback : solo callId rest
              (pool.writeThen page data (.fail error left) fun _ => .newRollback newPageId victim
                page error).pool (.newRollback newPageId victim page error) =
              some (pool', .returned result) := hrest
          have hkept := heldPage_of_newRollback hrollback
          exact .inr hkept

end BufferPoolManager

namespace Settled

variable {pool pool' : BufferPoolManager n} {callId : CallId} {ios : List Io}
  {result : CallResult n}

/-- An eviction for a new page displaces the page of the victim, and the call succeeds. -/
theorem displaces_of_evictsForNew (h : Settled pool) (h' : Settled pool')
    (hevicts : pool.EvictsForNew ios)
    (hsolo : solo callId ios pool .newStart = some (pool', .returned result)) :
    (displacedFrames pool pool').card = 1 ∧ result.allocatedPage = some pool.nextPageId := by
  rcases hevicts with ⟨hleaving, hios⟩
  rw [leaving_newPage] at hleaving
  split_ifs at hleaving with hboth
  · rcases hboth with ⟨hlt, hfree⟩
    rcases ClockReplacer.findVictim_spec pool.clockReplacer pool.frames with
      ⟨found, clock, frames, hfind, hspec⟩
    rw [victim_eq hfind] at hleaving
    rcases Option.ne_none_iff_exists'.mp hleaving with ⟨victim, rfl⟩
    rcases h.sound.partitioned.exists_heldPage hfree hspec with ⟨page, hheld, -, hheld', hreserved⟩
    have hold : pool.pageTable page = some victim := (h.sound.table_iff page victim).mpr hheld
    have hnew : pool.pageTable pool.nextPageId = none := by
      by_contra hne
      exact UInt16.lt_irrefl _ (h.bounded _ hne)
    have hcommit := solo_newStart_evict hios hlt hfree hfind hreserved hheld' hsolo
    have hreplace : ((pool.swept clock frames).reserveFrame victim).pageTable.replace page
        pool.nextPageId victim = .ok _ := PageTable.replace_eq_ok hold hnew
    rw [newCommit_eq, pageTable_writeBack, hreplace] at hcommit
    have htable := congrArg (fun next => next.pool.pageTable) hcommit
    have hresult := congrArg (fun next => next.pc.allocatedPage) hcommit
    refine ⟨?_, hresult.symm⟩
    rw [h.sound.displacedFrames_replace h'.sound hold hnew htable.symm, Finset.card_singleton]
  · exact absurd rfl hleaving

/-- Without such an eviction, `new_page` displaces no page. -/
theorem evictsForNew_of_displaces (h : Settled pool)
    (hsolo : solo callId ios pool .newStart = some (pool', .returned result))
    (hdisplaces : displacedFrames pool pool' ≠ ∅) : pool.EvictsForNew ios := by
  rcases solo_step (by rintro _ ⟨⟩) hsolo with ⟨io, rest, next, rfl, hnext, hrest⟩
  cases io <;> simp only [advance, Option.some_inj, reduceCtorEq] at hnext
  subst hnext
  by_cases hlt : pool.nextPageId < 65535
  · cases hfree : pool.freeFrames with
    | cons frameId free =>
        rw [Consistent.newPage_eq_take pool hlt hfree] at hrest
        rw [(solo_returned hrest).1] at hdisplaces
        refine absurd (displacedFrames_of_heldPage fun other => ?_) hdisplaces
        by_cases hother : other = frameId
        · right
          rw [hother, ← h.sound.mem_free, hfree]
          exact List.mem_cons_self
        · exact .inl (congrArg Frame.heldPage (Function.update_of_ne hother ..))
    | nil =>
        rcases ClockReplacer.findVictim_spec pool.clockReplacer pool.frames with
          ⟨found, clock, frames, hfind, hspec⟩
        cases found with
        | none =>
            simp only [newPage, UInt16.not_le.mpr hlt, if_false, hfree, hfind] at hrest
            rw [(solo_returned hrest).1] at hdisplaces
            exact absurd (displacedFrames_of_heldPage fun other =>
              .inl (hspec.sameButReference other).heldPage_eq) hdisplaces
        | some victim =>
            rcases h.sound.partitioned.exists_heldPage hfree hspec with
              ⟨page, -, -, hheld', hreserved⟩
            rw [newPage_eq_evict hlt hfree hfind hreserved hheld'] at hrest
            rcases succeeds_or_kept hrest with hios | hkept
            · refine ⟨?_, ?_⟩
              · simp [leaving_newPage, hlt, hfree, victim_eq hfind]
              · simpa [Io.Succeeds] using hios
            · refine absurd (displacedFrames_of_heldPage fun other => .inl ?_) hdisplaces
              have hreserve : (((pool.swept clock frames).reserveFrame victim).frames other).heldPage =
                  (frames other).heldPage := heldPage_setFrame _ (by rfl) other
              rw [hkept, hreserve, (hspec.sameButReference other).heldPage_eq]
  · simp only [newPage, UInt16.not_lt.mp hlt, if_true] at hrest
    rw [(solo_returned hrest).1] at hdisplaces
    exact absurd (displacedFrames_of_heldPage fun _ => .inl rfl) hdisplaces

/-- What `new_page` has displaced goes unrecorded, unless it is nothing. -/
theorem recorded_iff (h : Settled pool) (h' : Settled pool')
    (hsolo : solo callId ios pool .newStart = some (pool', .returned result)) :
    (if Call.newPage.turn pool (.returned result) = some .created then 0
      else UInt64.ofNat (displacedFrames pool pool').card) =
        UInt64.ofNat (displacedFrames pool pool').card ↔ ¬ pool.EvictsForNew ios := by
  by_cases hevicts : pool.EvictsForNew ios
  · rcases h.displaces_of_evictsForNew h' hevicts hsolo with ⟨hcard, hallocated⟩
    have hturn : Call.newPage.turn pool (.returned result) = some .created := by
      cases result <;> first
        | rfl
        | cases hallocated
    rw [if_pos hturn, hcard]
    exact iff_of_false (by decide) (not_not_intro hevicts)
  · have hnone : displacedFrames pool pool' = ∅ := by
      by_contra hdisplaces
      exact hevicts (h.evictsForNew_of_displaces hsolo hdisplaces)
    rw [hnone, Finset.card_empty]
    exact iff_of_true (ite_self _) hevicts

end Settled

/-! ## Sessions -/

/-- How the call of an action has changed the pages in the table. -/
def Session.turnOf (s s' : Session n) : Action → Option Turn
  | .request request => s'.result.bind fun result => request.call.turn s.pool (.returned result)
  | .write _ _ => none

/-- What an action does to the table and to the counter of evictions. -/
theorem Session.Tracks.turned {s s' : Session n} (h : s.Tracks) {action : Action}
    (hact : s.act action = some s') (hfetch : s.FetchesAllocated action s') :
    Turned s.pool s'.pool (s.turnOf s' action) := by
  cases action with
  | request request =>
      rcases Option.bind_eq_some_iff.mp hact with ⟨⟨pool, result⟩, hserve, hs'⟩
      cases hs'
      exact h.settled.turned (h.requested hfetch) hserve
  | write pageId data =>
      rcases Option.bind_eq_some_iff.mp hact with ⟨pool, hmodify, hs'⟩
      rcases Option.map_eq_some_iff.mp hmodify with ⟨frameId, -, rfl⟩
      cases hs'
      exact .same rfl rfl

/-- A session with a count of the pages that were displaced, and of those that successful
calls have loaded, created and deleted. -/
structure Turnover (n : Nat) where
  session : Session n
  displaced : Nat
  count : Turn → Nat

namespace Turnover

/-- A new session. -/
def new (n : Nat) (file : List UInt8) : Turnover n := ⟨Session.new n file, 0, fun _ => 0⟩

/-- The session and its counts after an action. -/
def act (t : Turnover n) (action : Action) : Option (Turnover n) := do
  let session ← t.session.act action
  pure ⟨session, t.displaced + (displacedFrames t.session.pool session.pool).card,
    fun kind => t.count kind + times (t.session.turnOf session action) kind⟩

/-- Only pages are fetched that an earlier `new_page` returned. -/
def FetchesAllocated (t : Turnover n) (action : Action) (t' : Turnover n) : Prop :=
  t.session.FetchesAllocated action t'.session

instance (t : Turnover n) (action : Action) (t' : Turnover n) :
    Decidable (t.FetchesAllocated action t') :=
  inferInstanceAs (Decidable (t.session.FetchesAllocated action t'.session))

/-- The action is no `new_page` that evicts. -/
def NoNewEviction (t : Turnover n) (action : Action) (_ : Turnover n) : Prop :=
  match action with
  | .request ⟨.newPage, _, ios⟩ => ¬ t.session.pool.EvictsForNew ios
  | _ => True

instance (t : Turnover n) (action : Action) (t' : Turnover n) :
    Decidable (t.NoNewEviction action t') :=
  match action with
  | .request ⟨.newPage, _, ios⟩ => inferInstanceAs (Decidable (¬ t.session.pool.EvictsForNew ios))
  | .request ⟨.fetchPage _, _, _⟩ | .request ⟨.unpinPage _, _, _⟩
  | .request ⟨.markDirtyPage _, _, _⟩ | .request ⟨.flushPage _, _, _⟩
  | .request ⟨.deletePage _, _, _⟩ | .write _ _ => .isTrue trivial

/-- The counter is the number of displaced pages, and with it the entries of the table are
the loaded and created pages without the deleted and evicted ones. -/
structure EvictionsCounted (t : Turnover n) : Prop where
  evictions : t.session.pool.metrics.evictions = UInt64.ofNat t.displaced
  entries : UInt64.ofNat (t.session.pool.pageTable.entries + t.count .deleted) +
    t.session.pool.metrics.evictions = UInt64.ofNat (t.count .loaded + t.count .created)

/-- The entries of the table are the loaded and created pages without the deleted and
displaced ones. -/
structure Conserved (t : Turnover n) : Prop where
  tracks : t.session.Tracks
  balance : t.session.pool.pageTable.entries + t.count .deleted + t.displaced =
    t.count .loaded + t.count .created

/-- A new pool has no entries and has displaced nothing. -/
theorem new_conserved (n : Nat) (file : List UInt8) : (new n file).Conserved where
  tracks := Session.new_tracks n file
  balance := by
    have htable : (new n file).session.pool.pageTable = PageTable.new := rfl
    rw [htable, PageTable.entries_new]
    rfl

variable {t t' : Turnover n} {action : Action}

/-- A counter that is right about the displaced pages is right about the table. -/
theorem Conserved.evictionsCounted (h : t.Conserved)
    (hevictions : t.session.pool.metrics.evictions = UInt64.ofNat t.displaced) :
    t.EvictionsCounted := by
  refine ⟨hevictions, ?_⟩
  rw [hevictions, ← UInt64.ofNat_add, h.balance]

/-- Every action keeps the balance. -/
theorem Conserved.act (h : t.Conserved) (hact : t.act action = some t')
    (hfetch : t.FetchesAllocated action t') : t'.Conserved := by
  rcases Option.bind_eq_some_iff.mp hact with ⟨session, hsession, ht'⟩
  cases ht'
  have htracks := (h.tracks.act hsession hfetch).1
  have hturned := h.tracks.turned hsession hfetch
  have hbalance := (hturned.balance h.tracks.settled.sound htracks.settled.sound).1
  have hold := h.balance
  refine ⟨htracks, ?_⟩
  simp only
  omega

/-- The counter stays right exactly when no `new_page` evicts. -/
theorem Conserved.evictions_iff (h : t.Conserved)
    (hevictions : t.session.pool.metrics.evictions = UInt64.ofNat t.displaced)
    (hact : t.act action = some t') (hfetch : t.FetchesAllocated action t') :
    t'.session.pool.metrics.evictions = UInt64.ofNat t'.displaced ↔
      t.NoNewEviction action t' := by
  rcases Option.bind_eq_some_iff.mp hact with ⟨session, hsession, ht'⟩
  cases ht'
  have hsettled := (h.tracks.act hsession hfetch).1.settled
  have hturned := h.tracks.turned hsession hfetch
  have hrecorded := (hturned.balance h.tracks.settled.sound hsettled.sound).2
  simp only
  rw [hrecorded, hevictions, UInt64.ofNat_add, UInt64.add_right_inj]
  cases action with
  | write pageId data => exact iff_of_true rfl trivial
  | request request =>
      rcases Option.bind_eq_some_iff.mp hsession with ⟨⟨pool, result⟩, hserve, hs'⟩
      cases hs'
      rcases request with ⟨call, callId, ios⟩
      have hother : call ≠ .newPage → call.turn t.session.pool (.returned result) ≠ some .created :=
        Call.turn_ne_created
      cases call with
      | newPage => exact h.tracks.settled.recorded_iff hsettled (serve_eq_some.mp hserve)
      | _ => exact iff_of_true (if_neg (hother nofun)) trivial

end Turnover

/-- In sessions whose fetches are after allocated pages, whatever the disk does, the
counter of evictions is the number of displaced pages, and agrees with the entries of the
page table, exactly when no `new_page` evicts. -/
theorem evictions_counted_iff (n : Nat) (file : List UInt8) {path : List (Action × Turnover n)}
    (hpath : IsPath (fun t action t' => t.act action = some t') (Turnover.new n file) path)
    (hfetch : EveryStep Turnover.FetchesAllocated (Turnover.new n file) path) :
    EveryState Turnover.EvictionsCounted (Turnover.new n file) path ↔
      EveryStep Turnover.NoNewEviction (Turnover.new n file) path := by
  have hstart := Turnover.new_conserved n file
  have hcounted : (Turnover.new n file).EvictionsCounted := hstart.evictionsCounted rfl
  have hacts : IsPath (fun t action t' => t.act action = some t' ∧ t.FetchesAllocated action t')
      (Turnover.new n file) path := hpath.imp hfetch fun _ _ _ => And.intro
  have hsteps : EveryStep (fun _ _ t' => t'.EvictionsCounted) (Turnover.new n file) path ↔
      EveryStep Turnover.NoNewEviction (Turnover.new n file) path := by
    refine @IsPath.everyStep_iff _ _ _ _ _ (fun t : Turnover n => t.Conserved ∧ t.EvictionsCounted)
      _ _ hacts ⟨hstart, hcounted⟩ ?_ ?_
    · rintro t action t' ⟨hconserved, hcounted⟩ ⟨hact, hfetch⟩ hnot
      have hconserved' := hconserved.act hact hfetch
      have hcounted' := hconserved'.evictionsCounted
        ((hconserved.evictions_iff hcounted.evictions hact hfetch).mpr hnot)
      exact ⟨⟨hconserved', hcounted'⟩, hcounted'⟩
    · rintro t action t' ⟨hconserved, hcounted⟩ ⟨hact, hfetch⟩ hcounted'
      exact (hconserved.evictions_iff hcounted.evictions hact hfetch).mp hcounted'.evictions
  rw [← hsteps]
  exact ⟨fun h => h.everyStep.imp fun _ _ _ => And.right, fun h => h.everyState hcounted⟩

/-- Page 0 is deleted, page 1 is created in its frame, and a fetch of page 0 evicts it. -/
@[irreducible] def fetchEvicts : List Action :=
  [.request ⟨.newPage, 0, [.none]⟩, .request ⟨.unpinPage 0, 1, [.none]⟩,
    .request ⟨.deletePage 0, 2, [.none, .none, .write .ok, .none, .none]⟩,
    .request ⟨.newPage, 3, [.none]⟩, .request ⟨.unpinPage 1, 4, [.none]⟩,
    .request ⟨.fetchPage 0, 5, [.none, .write .ok, .read (.ok fun _ => 4096), .none, .none]⟩]

/-- The eviction by the fetch is counted. -/
theorem evictions_counted_fetchEvicts :
    (follow Turnover.act (Turnover.new 1 []) fetchEvicts).length = 6 ∧
      (lastState (Turnover.new 1 []) (follow Turnover.act (Turnover.new 1 [])
        fetchEvicts)).displaced = 1 ∧
      EveryState Turnover.EvictionsCounted (Turnover.new 1 [])
        (follow Turnover.act (Turnover.new 1 []) fetchEvicts) := by
  -- one evaluation of the run for all parts
  have hrun : (follow Turnover.act (Turnover.new 1 []) fetchEvicts).length = 6 ∧
      (lastState (Turnover.new 1 []) (follow Turnover.act (Turnover.new 1 [])
        fetchEvicts)).displaced = 1 ∧
      EveryStep Turnover.FetchesAllocated (Turnover.new 1 [])
        (follow Turnover.act (Turnover.new 1 []) fetchEvicts) ∧
      EveryStep Turnover.NoNewEviction (Turnover.new 1 [])
        (follow Turnover.act (Turnover.new 1 []) fetchEvicts) := by decide +kernel
  have hcounted := evictions_counted_iff 1 [] (isPath_follow _ _ fetchEvicts) hrun.2.2.1
  exact ⟨hrun.1, hrun.2.1, hcounted.mpr hrun.2.2.2⟩

/-- Page 0 is created in the only frame, and page 1 takes the frame from it. -/
@[irreducible] def newPageEvicts : List Action :=
  [.request ⟨.newPage, 0, [.none]⟩, .request ⟨.unpinPage 0, 1, [.none]⟩,
    .request ⟨.newPage, 2, [.none, .write .ok, .none]⟩]

/-- The eviction of page 0 is not counted. -/
theorem new_page_eviction_unrecorded :
    ∃ path, IsPath (fun t action t' => t.act action = some t') (Turnover.new 1 []) path ∧
      EveryStep Turnover.FetchesAllocated (Turnover.new 1 []) path ∧
      ¬ EveryState Turnover.EvictionsCounted (Turnover.new 1 []) path := by
  refine ⟨_, isPath_follow Turnover.act _ newPageEvicts, by decide +kernel, fun hcounted => ?_⟩
  exact absurd hcounted.last.evictions (by decide +kernel)

end Storage
end TaskPool
