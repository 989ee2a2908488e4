import TaskPool.Storage.BufferPool.PinEffect
import TaskPool.Storage.BufferPool.Transparency

/-!
# The pin count counts pins

A ledger keeps, for every page, how many calls have returned it and how many have
unpinned it since it last became resident.  The difference is the pin count of its
frame, until a `fetch_page` finds the count at 255: `saturating_add` leaves it there, and
from then on the page can be evicted or deleted while it is in use.

Main results:

- Theorem `Settled.accounts`: what a request does to the pin counts of all pages.
- Theorem `outstanding_pins_hold`: pages with outstanding pins are neither evicted nor
  deleted, as long as no `fetch_page` hits a page with 255 pins.
- Theorem `pins_forgotten`: after 256 pins and 255 calls of `unpin_page`, a page is
  deleted.
-/

namespace TaskPool
namespace Storage

open BufferPoolManager Library

variable {n : Nat}

/-- The pins of a page that is in the table. -/
def BufferPoolManager.pinCount (pool : BufferPoolManager n) (pageId : PageId) : Nat :=
  (pool.pageTable pageId).elim 0 fun frameId => (pool.frames frameId).pins

/-- The page that a call has returned, or is about to return, to its client. -/
def Call.taken : Call → Pc n → Option PageId
  | .fetchPage pageId, .fetchNotify _ (.ok _) => some pageId
  | .fetchPage pageId, .returned (.fetched _) => some pageId
  | .newPage, .returned (.allocated pageId _) => some pageId
  | _, _ => none

/-- The page that a call has unpinned. -/
def Call.given : Call → Pc n → Option PageId
  | .unpinPage pageId, .returned .done => some pageId
  | _, _ => none

/-- How often the page occurs. -/
def occurs (page : Option PageId) (pageId : PageId) : Nat := if page = some pageId then 1 else 0

@[simp] theorem occurs_none (pageId : PageId) : occurs none pageId = 0 := rfl

@[simp] theorem occurs_self (pageId : PageId) : occurs (some pageId) pageId = 1 := if_pos rfl

/-- A page does not occur in an answer with another one. -/
theorem occurs_of_ne {page pageId : PageId} (h : pageId ≠ page) : occurs (some page) pageId = 0 :=
  if_neg fun heq => h (Option.some_inj.mp heq).symm

namespace BufferPoolManager

variable {pool pool' : BufferPoolManager n} {pageId oldPageId : PageId} {frameId : Fin n}
  {frame : Frame}

/-- The pin count of a resident page is that of its frame. -/
theorem pinCount_of_table (htable : pool.pageTable pageId = some frameId) :
    pool.pinCount pageId = (pool.frames frameId).pins := by
  rw [pinCount, htable, Option.elim_some]

/-- A page that is not resident has no pins. -/
theorem pinCount_of_none (htable : pool.pageTable pageId = none) : pool.pinCount pageId = 0 := by
  rw [pinCount, htable, Option.elim_none]

/-- Pin counts depend on the page table and the pins of mapped frames. -/
theorem pinCount_congr (htable : pool'.pageTable = pool.pageTable)
    (hpins : ∀ page frameId, pool.pageTable page = some frameId →
      (pool'.frames frameId).pins = (pool.frames frameId).pins) :
    pool'.pinCount = pool.pinCount := by
  ext page
  unfold pinCount
  rw [htable]
  cases hpage : pool.pageTable page with
  | none => rfl
  | some frameId => exact hpins page frameId hpage

/-- One frame changes, but not its pins. -/
theorem pinCount_setFrame (hframes : pool'.frames = Function.update pool.frames frameId frame)
    (htable : pool'.pageTable = pool.pageTable) (hpins : frame.pins = (pool.frames frameId).pins) :
    pool'.pinCount = pool.pinCount := by
  refine pinCount_congr htable fun _ other _ => ?_
  rw [hframes]
  by_cases hother : other = frameId
  · rw [hother, Function.update_self, hpins]
  · rw [Function.update_of_ne hother]

/-- The entry of a page in the table changes, and the frame it is in or was in, where no
other page is. -/
theorem pinCount_update (hother : ∀ page, pool.pageTable page = some frameId → page = pageId)
    (hframes : pool'.frames = Function.update pool.frames frameId frame)
    {entry : Option (Fin n)} (htable : pool'.pageTable = Function.update pool.pageTable pageId entry) :
    pool'.pinCount = Function.update pool.pinCount pageId
      (entry.elim 0 fun other => (pool'.frames other).pins) := by
  ext page
  unfold pinCount
  rw [htable]
  by_cases hpage : page = pageId
  · rw [hpage, Function.update_self, Function.update_self]
  · rw [Function.update_of_ne hpage, Function.update_of_ne hpage]
    cases hframe : pool.pageTable page with
    | none => rfl
    | some other =>
        have hne : other ≠ frameId := fun heq => hpage (hother page (heq ▸ hframe))
        rw [Option.elim_some, Option.elim_some, hframes, Function.update_of_ne hne]

/-- A page that gets a frame has the pins of that frame. -/
theorem pinCount_insert (hother : ∀ page, pool.pageTable page = some frameId → page = pageId)
    (hframes : pool'.frames = Function.update pool.frames frameId frame)
    (htable : pool'.pageTable = pool.pageTable.insert pageId frameId) :
    pool'.pinCount = Function.update pool.pinCount pageId frame.pins := by
  rw [pinCount_update hother hframes htable, Option.elim_some, hframes, Function.update_self]

/-- A page that loses its frame has no pins. -/
theorem pinCount_remove (hother : ∀ page, pool.pageTable page = some frameId → page = pageId)
    (hframes : pool'.frames = Function.update pool.frames frameId frame)
    (htable : pool'.pageTable = pool.pageTable.removePage pageId) :
    pool'.pinCount = Function.update pool.pinCount pageId 0 := by
  rw [pinCount_update hother hframes htable, Option.elim_none]

/-- A page takes the frame of another one. -/
theorem pinCount_replace (hother : ∀ page, pool.pageTable page = some frameId → page = oldPageId)
    (hframes : pool'.frames = Function.update pool.frames frameId frame)
    (htable : pool'.pageTable = (pool.pageTable.removePage oldPageId).insert pageId frameId) :
    pool'.pinCount =
      Function.update (Function.update pool.pinCount oldPageId 0) pageId frame.pins := by
  have hremove : (pool.withTable (pool.pageTable.removePage oldPageId)).pinCount =
      Function.update pool.pinCount oldPageId 0 :=
    pinCount_remove hother (Function.update_eq_self frameId pool.frames).symm rfl
  rw [← hremove]
  refine pinCount_insert ?_ hframes htable
  intro page hpage
  rcases PageTable.removePage_eq_some hpage with ⟨hne, hold⟩
  exact absurd (hother page hold) hne

end BufferPoolManager

/-! ## What a section does to the pin counts -/

/-- Pin counts rise with the pages a call takes and fall with those it gives back, and
pages with pins stay where they are. -/
structure Accounts (call : Call) (pool : BufferPoolManager n) (pc : Pc n)
    (pool' : BufferPoolManager n) (pc' : Pc n) : Prop where
  balance : ∀ pageId, pool'.pinCount pageId + occurs (call.given pc') pageId +
    occurs (call.taken pc) pageId = pool.pinCount pageId + occurs (call.taken pc') pageId
  stays : ∀ pageId, 0 < pool.pinCount pageId → pool'.pageTable pageId = pool.pageTable pageId

/-- A call that may not pin takes no pin. -/
theorem Call.taken_eq_none {pc : Pc n} (h : pc.mayPin = false) (call : Call) :
    call.taken pc = none := by
  unfold Call.taken
  split <;> first
    | rfl
    | cases h

/-- Only a successful call gives a pin back. -/
theorem Call.given_eq_none {pc : Pc n} (h : pc ≠ .returned .done) (call : Call) :
    call.given pc = none := by
  unfold Call.given
  split
  · exact absurd rfl h
  · rfl

namespace Accounts

variable {call : Call} {pool pool' pool'' : BufferPoolManager n} {pc pc' pc'' : Pc n}
  {pageId : PageId}

/-- Nothing changes for pages with pins. -/
theorem quiet (htaken : call.taken pc' = call.taken pc) (hgiven : call.given pc' = none)
    (hcount : pool'.pinCount = pool.pinCount)
    (hstays : ∀ pageId, 0 < pool.pinCount pageId →
      pool'.pageTable pageId = pool.pageTable pageId) : Accounts call pool pc pool' pc' where
  balance := by
    intro page
    rw [htaken, hgiven, hcount, occurs_none, Nat.add_zero]
  stays := hstays

/-- A section without pins before and after it that changes no count and no page. -/
theorem still (hpc : pc.mayPin = false) (hpc' : pc'.mayPin = false)
    (hdone : pc' ≠ .returned .done) (hcount : pool'.pinCount = pool.pinCount)
    (htable : pool'.pageTable = pool.pageTable) : Accounts call pool pc pool' pc' := by
  refine .quiet ?_ (Call.given_eq_none hdone call) hcount fun page _ => congrFun htable page
  rw [Call.taken_eq_none hpc, Call.taken_eq_none hpc']

/-- A page is pinned. -/
theorem pin (htaken : call.taken pc = none) (htaken' : call.taken pc' = some pageId)
    (hgiven : call.given pc' = none)
    (hcount : pool'.pinCount = Function.update pool.pinCount pageId (pool.pinCount pageId + 1))
    (hstays : ∀ pageId, 0 < pool.pinCount pageId →
      pool'.pageTable pageId = pool.pageTable pageId) : Accounts call pool pc pool' pc' where
  balance := by
    intro page
    rw [htaken, htaken', hgiven, hcount]
    by_cases hpage : page = pageId
    · simp [hpage]
    · simp [hpage, occurs_of_ne]
  stays := hstays

/-- A section that follows the first ones of a call. -/
theorem trans (h : Accounts call pool pc pool' pc') (h' : Accounts call pool' pc' pool'' pc'')
    (htaken : call.taken pc = none) (hgiven : call.given pc' = none) :
    Accounts call pool pc pool'' pc'' where
  balance := by
    intro page
    have hbalance := h.balance page
    have hbalance' := h'.balance page
    rw [htaken, hgiven, occurs_none] at hbalance
    rw [htaken, occurs_none]
    omega
  stays := by
    intro page hpos
    have hbalance := h.balance page
    rw [htaken, hgiven, occurs_none] at hbalance
    rw [h'.stays page (by omega), h.stays page hpos]

end Accounts

namespace Faithful

variable {pool : BufferPoolManager n} {callId : CallId} {call : Call} {pc : Pc n}
  {slot slot' : Fin n → Slot} {io : Io} {next : Next n} {pageId oldPageId : PageId}
  {frameId victim : Fin n}

/-- A page takes the frame of an unpinned page. -/
theorem accounts_replace (h : Faithful pool callId call pc slot) {pool' : BufferPoolManager n}
    {pc' : Pc n} {frame : Frame} (hlocated : (slot victim).located = some oldPageId)
    (hpins : (pool.frames victim).pins = 0) (hnew : pool.pageTable pageId = none)
    (hframes : pool'.frames = Function.update pool.frames victim frame) (hone : frame.pins = 1)
    (htable : pool'.pageTable = (pool.pageTable.removePage oldPageId).insert pageId victim)
    (htaken : call.taken pc = none) (htaken' : call.taken pc' = some pageId)
    (hgiven : call.given pc' = none) : Accounts call pool pc pool' pc' := by
  have hold := h.consistent.table_of_located hlocated
  have hzero : pool.pinCount oldPageId = 0 := (pinCount_of_table hold).trans hpins
  refine .pin htaken htaken' hgiven ?_ ?_
  · rw [pinCount_replace (h.consistent.only_of_located hlocated) hframes htable, hone, ← hzero,
      Function.update_eq_self, pinCount_of_none hnew]
  · intro page hpos
    have hne : page ≠ pageId := by
      rintro rfl
      rw [pinCount_of_none hnew] at hpos
      exact Nat.lt_irrefl 0 hpos
    have hne' : page ≠ oldPageId := by
      rintro rfl
      exact hpos.ne' hzero
    rw [htable, PageTable.insert, PageTable.removePage, Function.update_of_ne hne,
      Function.update_of_ne hne']

/-- An unpinned page is removed. -/
theorem accounts_remove (h : Faithful pool callId call pc slot) {pool' : BufferPoolManager n}
    {pc' : Pc n} {frame : Frame} (hlocated : (slot frameId).located = some pageId)
    (hpins : (pool.frames frameId).pins = 0)
    (hframes : pool'.frames = Function.update pool.frames frameId frame)
    (htable : pool'.pageTable = pool.pageTable.removePage pageId)
    (htaken : call.taken pc' = call.taken pc) (hgiven : call.given pc' = none) :
    Accounts call pool pc pool' pc' := by
  have hzero : pool.pinCount pageId = 0 :=
    (pinCount_of_table (h.consistent.table_of_located hlocated)).trans hpins
  refine .quiet htaken hgiven ?_ ?_
  · rw [pinCount_remove (h.consistent.only_of_located hlocated) hframes htable, ← hzero,
      Function.update_eq_self]
  · intro page hpos
    have hne : page ≠ pageId := by
      rintro rfl
      exact hpos.ne' hzero
    rw [htable, PageTable.removePage, Function.update_of_ne hne]

/-- A page is put into an unmapped frame, with one pin. -/
theorem accounts_insert (h : Faithful pool callId call pc slot) {pool' : BufferPoolManager n}
    {frame : Frame} (hlocated : (slot frameId).located = none)
    (hnew : pool.pageTable pageId = none)
    (hframes : pool'.frames = Function.update pool.frames frameId frame) (hone : frame.pins = 1)
    (htable : pool'.pageTable = pool.pageTable.insert pageId frameId) {pc' : Pc n}
    (htaken : call.taken pc = none) (htaken' : call.taken pc' = some pageId)
    (hgiven : call.given pc' = none) : Accounts call pool pc pool' pc' := by
  have hunmapped := h.consistent.not_table_of_located hlocated
  refine .pin htaken htaken' hgiven ?_ ?_
  · rw [pinCount_insert (fun page hpage => absurd hpage (hunmapped page)) hframes htable, hone,
      pinCount_of_none hnew]
  · intro page hpos
    have hne : page ≠ pageId := by
      rintro rfl
      rw [pinCount_of_none hnew] at hpos
      exact Nat.lt_irrefl 0 hpos
    rw [htable, PageTable.insert, Function.update_of_ne hne]

/-- The reservation of a victim leaves all pin counts alone. -/
theorem pinCount_victim {clock : ClockReplacer n} {frames : Fin n → Frame}
    (hframes : ∀ frameId, Frame.SameButReference (pool.frames frameId) (frames frameId)) :
    ((pool.swept clock frames).reserveFrame victim).pinCount = pool.pinCount := by
  have hswept : (pool.swept clock frames).pinCount = pool.pinCount :=
    pinCount_congr rfl fun _ other _ => (hframes other).pins_eq
  rw [← hswept]
  exact pinCount_setFrame (frames_setFrame _ victim _) rfl rfl

/-- A hit adds a pin when there are fewer than 255. -/
theorem accounts_fetchStart {missRecorded : Bool}
    (h : Faithful pool callId call (.fetchStart pageId missRecorded) slot)
    (heffect : Effect callId pool slot (.fetchStart pageId missRecorded) io next slot')
    (hfit : pool.pinCount pageId < 255) :
    Accounts call pool (.fetchStart pageId missRecorded) next.pool next.pc := by
  have hcall := (h.requested pageId rfl).1
  rcases recordMissOnce_eq pool missRecorded with ⟨metrics, hmetrics⟩
  cases heffect with
  | fetchWait => exact .still rfl rfl nofun rfl rfl
  | @fetchHit _ _ frameId hslot =>
      have htable := h.consistent.table_of_slot hslot
      have hmeta := Frame.metadata_ne_none (h.consistent.heldPage_of_slot hslot)
      have hcount := pinCount_insert (h.consistent.only_of_located (by rw [hslot]; rfl))
        (frames_setFrame pool frameId (pool.frames frameId).touched)
        (PageTable.insert_eq_self htable).symm
      rw [pinCount_of_table htable] at hfit
      rw [Frame.pins_touched hmeta, Nat.min_eq_right hfit, ← pinCount_of_table htable] at hcount
      subst hcall
      exact .pin rfl rfl rfl hcount fun _ _ => rfl
  | fetchJoin =>
      rw [hmetrics]
      exact .still rfl rfl nofun rfl rfl
  | fetchTake =>
      rw [hmetrics]
      exact .still rfl rfl nofun (pinCount_setFrame rfl rfl rfl) rfl
  | fetchSleep _ _ hframes | fetchGiveUp _ _ hframes =>
      rw [hmetrics]
      exact .still rfl rfl nofun (pinCount_congr rfl fun _ other _ => (hframes other).pins_eq) rfl
  | fetchVictim _ _ hframes =>
      rw [hmetrics]
      dsimp only
      split_ifs <;> exact .still rfl rfl nofun (pinCount_victim hframes) rfl

/-- With a free frame, `new_page` returns its page with one pin. -/
theorem accounts_newStart (h : Faithful pool callId call .newStart slot)
    (heffect : Effect callId pool slot .newStart io next slot') :
    Accounts call pool .newStart next.pool next.pc := by
  have hcall : call = .newPage := h.content
  cases heffect with
  | newFail => exact .still rfl rfl nofun rfl rfl
  | newGiveUp hframes =>
      exact .still rfl rfl nofun (pinCount_congr rfl fun _ other _ => (hframes other).pins_eq) rfl
  | @newTake frameId rest _ hfree =>
      have hslot := (h.consistent.layout.mem_free frameId).mp (hfree ▸ List.mem_cons_self)
      subst hcall
      exact h.accounts_insert (by rw [hslot]; rfl) h.table_next rfl rfl rfl rfl rfl rfl
  | newVictim _ _ _ hframes =>
      dsimp only
      split_ifs <;> exact .still rfl rfl nofun (pinCount_victim hframes) rfl

/-- The commit of `new_page` returns its page with one pin, and displaces a page without pins.
-/
theorem accounts_newCommit {newPageId : PageId}
    (h : Faithful pool callId call (.newCommit newPageId victim oldPageId) slot)
    (heffect : Effect callId pool slot (.newCommit newPageId victim oldPageId) io next slot') :
    Accounts call pool (.newCommit newPageId victim oldPageId) next.pool next.pc := by
  have hslot := h.slot_of_owned rfl
  rcases h.content with ⟨⟨hcall, hnext, -⟩, -⟩
  subst hcall
  cases heffect with
  | newCommit htable =>
      exact h.accounts_replace (by rw [hslot]; rfl) (h.consistent.pins_ok_of_slot hslot) htable rfl
        rfl rfl rfl rfl rfl
  | newCollide htable =>
      rw [hnext] at htable
      exact absurd h.table_next htable

/-- The start of a deletion changes no pin. -/
theorem accounts_deleteStart
    (h : Faithful pool callId call (.deleteStart pageId) slot) (hcall : call = .deletePage pageId)
    (heffect : Effect callId pool slot (.deleteStart pageId) io next slot') :
    Accounts call pool (.deleteStart pageId) next.pool next.pc := by
  subst hcall
  cases heffect with
  | deleteFail => exact .still rfl rfl nofun rfl rfl
  | deleteClean hslot hpins =>
      exact h.accounts_remove (by rw [hslot]; rfl) hpins (Function.update_idem ..) rfl rfl rfl
  | deleteTake => exact .still rfl rfl nofun (pinCount_setFrame rfl rfl rfl) rfl

/-- An unpin that succeeds takes one pin. -/
theorem accounts_unpin (h : Faithful pool callId (.unpinPage pageId) pc slot)
    (hslot : slot frameId = .resident pageId) (hpins : 0 < (pool.frames frameId).pins) :
    Accounts (.unpinPage pageId) pool pc (pool.setFrame frameId (pool.frames frameId).unpinned)
      (.returned .done) where
  balance := by
    intro page
    have htable := h.consistent.table_of_slot hslot
    have hcount := pinCount_insert (h.consistent.only_of_located (by rw [hslot]; rfl))
      (frames_setFrame pool frameId (pool.frames frameId).unpinned)
      (PageTable.insert_eq_self htable).symm
    rw [Frame.pins_unpinned hpins] at hcount
    have htaken : (Call.unpinPage pageId).taken pc = none := by cases pc <;> rfl
    rw [htaken, hcount]
    by_cases hpage : page = pageId
    · rw [hpage, Function.update_self, pinCount_of_table htable]
      simp only [Call.given, occurs_self, Call.taken, occurs_none]
      omega
    · simp [hpage, occurs_of_ne, Call.given, Call.taken]
  stays := fun _ _ => rfl

/-- What a section does to the pin counts. -/
theorem accounts (h : Faithful pool callId call pc slot)
    (heffect : Effect callId pool slot pc io next slot') (hbelongs : pc.BelongsTo call)
    (hfit : ∀ pageId missRecorded, pc = .fetchStart pageId missRecorded →
      pool.pinCount pageId < 255) : Accounts call pool pc next.pool next.pc := by
  cases pc with
  | fetchStart pageId missRecorded => exact h.accounts_fetchStart heffect (hfit _ _ rfl)
  | newStart => exact h.accounts_newStart heffect
  | newCommit => exact h.accounts_newCommit heffect
  | deleteStart pageId => exact h.accounts_deleteStart hbelongs heffect
  | fetchLoad pageId frameId buffer =>
      have hslot := h.slot_of_owned rfl
      have hunmapped := h.consistent.not_table_of_located (by rw [hslot]; rfl)
      cases heffect
      refine .quiet ?_ ?_ ?_ fun _ _ => rfl
      · cases call <;> rfl
      · cases call <;> rfl
      · refine pinCount_congr rfl fun page other htable => ?_
        have hne : other ≠ frameId := fun heq => hunmapped page (heq ▸ htable)
        exact pins_setFrame_of_ne pool hne _
  | fetchPublish pageId frameId =>
      have hslot := h.slot_of_owned rfl
      have hnew := (h.consistent.layout.incoming frameId callId pageId (by rw [hslot]; rfl)).2
      have hcall := (h.requested pageId rfl).1
      have hone : (pool.frames frameId).pins = 1 := by
        rw [h.content]
        rfl
      subst hcall
      cases heffect
      exact h.accounts_insert (by rw [hslot]; rfl) hnew
        (by exact (Function.update_eq_self frameId pool.frames).symm) hone rfl rfl rfl rfl
  | evictCommit pageId victim oldPageId buffer =>
      have hslot := h.slot_of_owned rfl
      have hnew := (h.consistent.layout.incoming victim callId pageId (by rw [hslot]; rfl)).2
      have hcall := (h.requested pageId rfl).1
      subst hcall
      cases heffect
      exact h.accounts_replace (by rw [hslot]; rfl) (h.consistent.pins_ok_of_slot hslot) hnew rfl
        rfl rfl rfl rfl rfl
  | fetchNotify waiter result =>
      rcases hbelongs with ⟨pageId, rfl⟩
      cases heffect
      cases result <;> exact .quiet rfl rfl rfl fun _ _ => rfl
  | unpinStart pageId =>
      cases hbelongs
      cases heffect with
      | unpinFail => exact .still rfl rfl nofun rfl rfl
      | @unpin _ frameId hslot hpins => exact h.accounts_unpin hslot hpins
  | markDirtyStart pageId =>
      cases hbelongs
      cases heffect with
      | markDirtyFail => exact .still rfl rfl nofun rfl rfl
      | markDirty =>
          exact .quiet rfl rfl (pinCount_setFrame rfl rfl (Frame.pins_withDirty _ true))
            fun _ _ => rfl
  | flushStart pageId =>
      cases hbelongs
      cases heffect with
      | flushFail => exact .still rfl rfl nofun rfl rfl
      | flushClean => exact .quiet rfl rfl (pinCount_setFrame rfl rfl rfl) fun _ _ => rfl
      | flushTake => exact .still rfl rfl nofun (pinCount_setFrame rfl rfl rfl) rfl
  | flushCheck pageId frameId caller =>
      cases heffect with
      | checkDirty => exact .still rfl rfl nofun rfl rfl
      | checkClean => cases caller <;> exact .still rfl rfl nofun rfl rfl
  | flushFinish pageId frameId written caller =>
      cases heffect with
      | flushDone =>
          cases caller <;>
            exact .still rfl rfl nofun (pinCount_setFrame rfl rfl (Frame.pins_withDirty _ false)) rfl
      | flushUndo => cases caller <;> exact .still rfl rfl nofun (pinCount_setFrame rfl rfl rfl) rfl
  | flushRelease pageId frameId =>
      cases hbelongs
      cases heffect
      exact .quiet rfl rfl (pinCount_setFrame rfl rfl rfl) fun _ _ => rfl
  | deleteFinish pageId frameId =>
      have hslot := h.slot_of_owned rfl
      cases hbelongs
      cases heffect
      exact h.accounts_remove (by rw [hslot]; rfl) (h.consistent.pins_ok_of_slot hslot) rfl rfl rfl
        rfl
  | fetchReadFailed | evictFailed | deleteRollback | newRollback =>
      cases heffect
      exact .still rfl rfl nofun (pinCount_setFrame rfl rfl rfl) rfl
  | _ => cases heffect <;> exact .still rfl rfl nofun rfl rfl

end Faithful

/-- A `delete_page` that succeeds leaves its page unmapped. -/
theorem Effect.unmapped_of_deleted {pool : BufferPoolManager n} {slot slot' : Fin n → Slot}
    {callId : CallId} {pc : Pc n} {io : Io} {next : Next n} {pageId : PageId}
    (heffect : Effect callId pool slot pc io next slot')
    (hbelongs : pc.BelongsTo (.deletePage pageId)) (hdone : next.pc = .returned .done) :
    next.pool.pageTable pageId = none := by
  cases heffect with
  | fetchVictim | newVictim =>
      dsimp only at hdone
      split_ifs at hdone
  | @notify waiter result => rcases hbelongs with ⟨page, hcall⟩; cases hcall
  | unpin | markDirty | flushClean | flushRelease => cases hbelongs
  | @checkClean _ _ caller _ => cases caller <;> cases hdone
  | @flushDone _ _ caller => cases caller <;> cases hdone
  | @flushUndo _ _ caller _ => cases caller <;> cases hdone
  | deleteClean | deleteDone =>
      cases hbelongs
      exact Function.update_self ..
  | _ => cases hdone

/-! ## What a request does to the pin counts -/

/-- A call on the first pool, which has led to the second one by now. -/
structure Counting (callId : CallId) (call : Call) (pool pool' : BufferPoolManager n) (pc : Pc n) :
    Prop where
  faithful : ∃ slot, Faithful pool' callId call pc slot
  belongs : pc.BelongsTo call
  accounts : Accounts call pool call.entry pool' pc
  deleted : ∀ pageId, call = .deletePage pageId → pc = .returned .done →
    pool'.pageTable pageId = none

/-- A call starts without a pin. -/
theorem Call.taken_entry (call : Call) : call.taken (call.entry : Pc n) = none := by
  cases call <;> rfl

/-- The next section of the call. -/
theorem Counting.step {callId : CallId} {call : Call} {pool pool' : BufferPoolManager n}
    {pc : Pc n} {io : Io} {next : Next n} (h : Counting callId call pool pool' pc)
    (hfit : ∀ pageId, call = .fetchPage pageId → pool.pinCount pageId < 255)
    (hnext : pool'.advance callId pc io = some next) :
    Counting callId call pool next.pool next.pc := by
  rcases h.faithful with ⟨slot, hfaithful⟩
  rcases hfaithful.toLone.step hnext with ⟨slot₁, heffect, -⟩
  rcases hfaithful.step hnext with ⟨slot₂, hfaithful', -⟩
  have hgiven : call.given pc = none := by
    refine Call.given_eq_none ?_ call
    rintro rfl
    cases io <;> cases hnext
  have hfit' : ∀ pageId missRecorded, pc = .fetchStart pageId missRecorded →
      pool'.pinCount pageId < 255 := by
    rintro page missRecorded rfl
    -- a fetch in its loop has pinned nothing so far
    have hbalance := h.accounts.balance page
    rw [Call.taken_entry, hgiven, Call.taken_eq_none rfl] at hbalance
    have hlt := hfit page (h.belongs page rfl)
    simp only [occurs_none] at hbalance
    omega
  refine ⟨⟨slot₂, hfaithful'⟩, heffect.belongsTo h.belongs, ?_, ?_⟩
  · exact h.accounts.trans (hfaithful.accounts heffect h.belongs hfit') (Call.taken_entry call)
      hgiven
  · rintro page rfl hdone
    exact heffect.unmapped_of_deleted h.belongs hdone

/-- What a request does to the pin counts, and that it can only delete a page by
removing it. -/
theorem Settled.accounts {pool pool' : BufferPoolManager n} (h : Settled pool) {request : Request}
    {result : CallResult n}
    (hallocated : ∀ pageId, request.call = .fetchPage pageId → pageId < pool.nextPageId)
    (hfit : ∀ pageId, request.call = .fetchPage pageId → pool.pinCount pageId < 255)
    (hserve : pool.serve request = some (pool', result)) :
    Counting request.callId request.call pool pool' (.returned result) := by
  rcases record_eq pool request.call with ⟨metrics, hmetrics⟩
  have hstart := h.faithful request.callId request.call hallocated
  have hsolo := serve_eq_some.mp hserve
  rw [hmetrics] at hstart hsolo
  refine solo_induction (motive := Counting request.callId request.call pool)
    (fun hcounting hnext => hcounting.step hfit hnext) ?_ hsolo
  refine ⟨⟨_, hstart⟩, Call.belongsTo_entry _, .quiet rfl ?_ rfl fun _ _ => rfl, ?_⟩
  · cases request.call <;> rfl
  · intro page hcall
    rw [hcall]
    exact nofun

/-! ## The ledger of a session -/

/-- A session in which every page has a ledger: how many calls have returned it and how
many have unpinned it since it last became resident. -/
structure Tally (n : Nat) where
  session : Session n
  taken : PageId → Nat
  given : PageId → Nat

namespace Tally

/-- A new session. -/
def new (n : Nat) (file : List UInt8) : Tally n := ⟨Session.new n file, fun _ => 0, fun _ => 0⟩

/-- What a request has pinned or unpinned, by the result of the last call. -/
def countOf (count : Call → Pc n → Option PageId) (s : Session n) : Action → Option PageId
  | .request request => s.result.bind fun result => count request.call (.returned result)
  | .write _ _ => none

/-- A count goes on, from zero when the page was not resident. -/
def continueCount (pool : BufferPoolManager n) (count : PageId → Nat) (page : Option PageId)
    (pageId : PageId) : Nat :=
  (if pool.pageTable pageId = none then 0 else count pageId) + occurs page pageId

/-- The session and its ledger after an action. -/
def act (t : Tally n) (action : Action) : Option (Tally n) := do
  let session ← t.session.act action
  pure ⟨session, continueCount t.session.pool t.taken (countOf Call.taken session action),
    continueCount t.session.pool t.given (countOf Call.given session action)⟩

/-- Only pages are fetched that an earlier `new_page` returned. -/
def FetchesAllocated (t : Tally n) (action : Action) (t' : Tally n) : Prop :=
  t.session.FetchesAllocated action t'.session

instance (t : Tally n) (action : Action) (t' : Tally n) :
    Decidable (t.FetchesAllocated action t') :=
  inferInstanceAs (Decidable (t.session.FetchesAllocated action t'.session))

/-- No page with 255 pins is fetched. -/
def PinsFit (t : Tally n) (action : Action) (_ : Tally n) : Prop :=
  match action with
  | .request ⟨.fetchPage pageId, _, _⟩ => t.session.pool.pinCount pageId < 255
  | _ => True

instance (t : Tally n) (action : Action) (t' : Tally n) : Decidable (t.PinsFit action t') :=
  match action with
  | .request ⟨.fetchPage pageId, _, _⟩ =>
      inferInstanceAs (Decidable (t.session.pool.pinCount pageId < 255))
  | .request ⟨.newPage, _, _⟩ | .request ⟨.unpinPage _, _, _⟩ | .request ⟨.markDirtyPage _, _, _⟩
  | .request ⟨.flushPage _, _, _⟩ | .request ⟨.deletePage _, _, _⟩ | .write _ _ => .isTrue trivial

/-- A resident page that more calls have returned than unpinned. -/
def InUse (t : Tally n) (pageId : PageId) : Prop :=
  t.session.pool.pageTable pageId ≠ none ∧ t.given pageId < t.taken pageId

instance (t : Tally n) (pageId : PageId) : Decidable (t.InUse pageId) :=
  inferInstanceAs (Decidable (_ ∧ _))

/-- Pages in use stay in their frames, and no `delete_page` of them succeeds. -/
def PinsHold (t : Tally n) (action : Action) (t' : Tally n) : Prop :=
  ∀ pageId, t.InUse pageId →
    t'.session.pool.pageTable pageId = t.session.pool.pageTable pageId ∧
      ∀ callId ios, action = .request ⟨.deletePage pageId, callId, ios⟩ →
        t'.session.result ≠ some .done

/-- The pin counts are the balances of the ledger. -/
structure Balanced (t : Tally n) : Prop where
  tracks : t.session.Tracks
  balance : ∀ pageId, t.session.pool.pageTable pageId ≠ none →
    t.taken pageId = t.given pageId + t.session.pool.pinCount pageId

/-- In a new session no page has pins. -/
theorem new_balanced (n : Nat) (file : List UInt8) : (new n file).Balanced where
  tracks := Session.new_tracks n file
  balance := fun _ hne => absurd rfl hne

variable {t t' : Tally n}

/-- A request that does not hit a page with 255 pins. -/
theorem Balanced.request (h : t.Balanced) {request : Request}
    (hact : t.act (.request request) = some t')
    (hfetch : t.FetchesAllocated (.request request) t') (hfit : t.PinsFit (.request request) t') :
    t'.Balanced ∧ t.PinsHold (.request request) t' := by
  rcases Option.bind_eq_some_iff.mp hact with ⟨session, hsession, ht'⟩
  cases ht'
  have htracks := (h.tracks.act hsession hfetch).1
  rcases Option.bind_eq_some_iff.mp hsession with ⟨⟨pool, result⟩, hserve, hs⟩
  cases hs
  have hcounting : Counting request.callId request.call t.session.pool pool (.returned result) := by
    refine h.tracks.settled.accounts (h.tracks.requested hfetch) ?_ hserve
    intro page hcall
    rcases request with ⟨call, callId, ios⟩
    cases hcall
    exact hfit
  refine ⟨⟨htracks, ?_⟩, ?_⟩
  · intro page hpage
    have hbalance := hcounting.accounts.balance page
    rw [Call.taken_entry, occurs_none, Nat.add_zero] at hbalance
    simp only [continueCount, countOf, Option.bind_some]
    by_cases htable : t.session.pool.pageTable page = none
    · rw [pinCount_of_none htable] at hbalance
      simp only [htable, if_true]
      omega
    · have hold := h.balance page htable
      simp only [htable, if_false]
      omega
  · rintro page ⟨htable, hlt⟩
    have hpos : 0 < t.session.pool.pinCount page := by
      have hold := h.balance page htable
      omega
    have hstays := hcounting.accounts.stays page hpos
    refine ⟨hstays, ?_⟩
    rintro callId ios hdelete hdone
    cases hdelete
    have hnone := hcounting.deleted page rfl (congrArg Pc.returned (Option.some_inj.mp hdone))
    rw [hnone] at hstays
    exact htable hstays.symm

/-- A write leaves the pins alone. -/
theorem Balanced.write (h : t.Balanced) {pageId : PageId} {data : List UInt8}
    (hact : t.act (.write pageId data) = some t') :
    t'.Balanced ∧ t.PinsHold (.write pageId data) t' := by
  rcases Option.bind_eq_some_iff.mp hact with ⟨session, hsession, ht'⟩
  cases ht'
  have htracks := (h.tracks.act hsession trivial).1
  rcases Option.bind_eq_some_iff.mp hsession with ⟨pool, hmodify, hs⟩
  cases hs
  rcases Option.map_eq_some_iff.mp hmodify with ⟨frameId, -, rfl⟩
  have hcount : (t.session.pool.setFrame frameId
      ((t.session.pool.frames frameId).modifyData data).2).pinCount = t.session.pool.pinCount :=
    pinCount_setFrame rfl rfl (Frame.pins_modifyData _ data)
  refine ⟨⟨htracks, ?_⟩, ?_⟩
  · intro page (hpage : t.session.pool.pageTable page ≠ none)
    have hold := h.balance page hpage
    simp only [continueCount, countOf, occurs_none, Nat.add_zero, hcount, if_neg hpage, hold]
  · intro page _
    refine ⟨rfl, ?_⟩
    rintro callId ios ⟨⟩

/-- Every action keeps the balance, and the pins hold. -/
theorem Balanced.act (h : t.Balanced) {action : Action} (hact : t.act action = some t')
    (hfetch : t.FetchesAllocated action t') (hfit : t.PinsFit action t') :
    t'.Balanced ∧ t.PinsHold action t' := by
  cases action with
  | request request => exact h.request hact hfetch hfit
  | write pageId data => exact h.write hact

end Tally

/-- In every session whose fetches are after allocated pages, and in which no page with
255 pins is fetched, whatever the disk does: a page that was returned more often than
unpinned since it last became resident is neither evicted nor deleted. -/
theorem outstanding_pins_hold (n : Nat) (file : List UInt8) {path : List (Action × Tally n)}
    (hpath : IsPath (fun t action t' => t.act action = some t') (Tally.new n file) path)
    (hfetch : EveryStep Tally.FetchesAllocated (Tally.new n file) path)
    (hfit : EveryStep Tally.PinsFit (Tally.new n file) path) :
    EveryStep Tally.PinsHold (Tally.new n file) path :=
  hpath.everyStep (hfetch.and hfit) (Tally.new_balanced n file)
    fun _ _ _ hbalanced hact hboth => hbalanced.act hact hboth.1 hboth.2

/-- A page in use that leaves its frame is a pin that does not hold. -/
theorem Tally.not_pinsHold {t : Tally n} {path : List (Action × Tally n)} (pageId : PageId)
    (hleaves : ¬ EveryStep (fun t _ t' => t.InUse pageId →
      t'.session.pool.pageTable pageId = t.session.pool.pageTable pageId) t path) :
    ¬ EveryStep PinsHold t path := by
  intro hhold
  exact hleaves (hhold.imp fun _ _ _ hpins huse => (hpins pageId huse).1)

/-- A page with two pins, and then with one, resists a `new_page` and a `delete_page`. -/
@[irreducible] def pinTwice : List Action :=
  [.request ⟨.newPage, 0, [.none]⟩, .request ⟨.fetchPage 0, 1, [.none]⟩,
    .request ⟨.newPage, 2, [.none]⟩, .request ⟨.unpinPage 0, 3, [.none]⟩,
    .request ⟨.deletePage 0, 4, [.none]⟩]

/-- The page is in its frame as long as one pin is left. -/
theorem outstanding_pins_hold_pinTwice :
    (follow Tally.act (Tally.new 1 []) pinTwice).length = 5 ∧
      EveryStep Tally.PinsHold (Tally.new 1 []) (follow Tally.act (Tally.new 1 []) pinTwice) :=
  ⟨by decide +kernel, outstanding_pins_hold 1 [] (isPath_follow _ _ pinTwice)
    (by decide +kernel) (by decide +kernel)⟩

/-- A page that is pinned 256 times, unpinned 255 times and then deleted. -/
def overpinned : List Action :=
  .request ⟨.newPage, 0, [.none]⟩ ::
    ((List.range 255).map fun k => .request ⟨.fetchPage 0, k + 1, [.none]⟩) ++
    ((List.range 255).map fun k => .request ⟨.unpinPage 0, k + 256, [.none]⟩) ++
    [.request ⟨.deletePage 0, 511, [.none, .none, .write .ok, .none, .none]⟩]

/-- The 256th pin is not counted, and the page is deleted although one pin is left. -/
theorem pins_forgotten :
    (follow Tally.act (Tally.new 1 []) overpinned).length = 512 ∧
      EveryStep Tally.FetchesAllocated (Tally.new 1 [])
        (follow Tally.act (Tally.new 1 []) overpinned) ∧
      ¬ EveryStep Tally.PinsHold (Tally.new 1 [])
        (follow Tally.act (Tally.new 1 []) overpinned) := by
  -- one evaluation of the run for all three parts
  refine And.imp_right (And.imp_right (Tally.not_pinsHold 0)) ?_
  decide +kernel

end Storage
end TaskPool
