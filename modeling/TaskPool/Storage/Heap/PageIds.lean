import TaskPool.Storage.Page.FuzzTarget
import TaskPool.Storage.Heap.Synchronized
import TaskPool.Library.TransitionSystem

/-!
# Page identifiers of large heap files

The capacity of a heap file is a `usize` and its identifiers have 16 bits; `create_page`
casts the number of pages down.  The invariant of this module holds for every capacity:
the map knows exactly the identifiers below the number of pages, and every page is inside
its bounds.  While there are fewer than 65536 pages the cast is exact.

Main results:

- Structure `HeapFile.Sound`: the invariant.
- Theorems `HeapFile.Sound.createPage` and `HeapFile.Sound.insertPage_cases`: what the two
  calls that change pages and map together do.
- Theorem `HeapFile.Sound.apply`: every call keeps the invariant.
- Theorem `createPage_ids_iff`: in the states of which runs the identifier of the next page is
  its index.
-/

namespace TaskPool
namespace Storage

open Library

/-- Appending an element changes a list at its end only. -/
theorem getElem?_concat_of_ne {α : Type*} {xs : List α} {x : α} {i : Nat} (h : i ≠ xs.length) :
    (xs ++ [x])[i]? = xs[i]? := by
  rcases Nat.lt_or_gt_of_ne h with hbelow | habove
  · exact List.getElem?_append_left hbelow
  · rw [List.getElem?_eq_none (by simp; omega), List.getElem?_eq_none (by omega)]

/-! ## The room of a page -/

namespace SlottedPage

/-- The bytes between the directory and the free end. -/
def room (page : SlottedPage) : Nat :=
  page.freeEnd.toNat - page.directoryEnd

@[simp] theorem room_new : new.room = 4092 := by
  decide +kernel

/-- An empty page has the most room. -/
theorem Bounded.room_le {page : SlottedPage} (h : page.Bounded) : page.room ≤ 4092 := by
  have hle := h.freeEnd_le
  have hdirectory : page.directoryEnd = 4 + 4 * page.getSlotCount.toNat := rfl
  rw [room]
  omega

/-- The free space of a page is its room. -/
theorem Bounded.freeSpace_eq_room {page : SlottedPage} (h : page.Bounded) :
    ∃ free, page.freeSpace = some free ∧ free.toNat = page.room :=
  ⟨_, freeSpace_eq_some h, freeSpace_toNat h (freeSpace_eq_some h)⟩

/-- A record needs room for its bytes and a slot. -/
theorem Bounded.hasRoom_iff {page : SlottedPage} (h : page.Bounded) (record : List UInt8) :
    page.HasRoom record ↔ record.length + 4 ≤ page.room := by
  obtain ⟨free, hfree, hnat⟩ := h.freeSpace_eq_room
  simp only [HasRoom, hfree, Option.some_inj, exists_eq_left', slotSize, hnat]

end SlottedPage

namespace HeapFile

/-! ## The invariant -/

/-- The pages fit the capacity and are inside their bounds, and exactly the identifiers
below their number are in use in the map. -/
structure Sound (heap : HeapFile) : Prop where
  fsm_capacity_eq : heap.fsm.capacity = heap.capacity
  length_le : heap.pages.length ≤ heap.capacity
  wellFormed : heap.fsm.WellFormed
  inside : ∀ page ∈ heap.pages, page.Inside
  registered : ∀ pageId : PageId,
    heap.fsm.leafBucket pageId ≠ ⊥ ↔ pageId.toNat < heap.pages.length

variable {capacity : Nat} {heap heap' : HeapFile} {pageId : PageId} {page : SlottedPage}
  {record : List UInt8}

/-- A new heap file is sound and has no pages. -/
theorem new_sound (hnew : HeapFile.new capacity = .ok heap) :
    heap.Sound ∧ heap.pages = [] ∧ heap.capacity = capacity := by
  by_cases hpos : 0 < capacity
  · obtain ⟨fsm, hfsm, hcapacity, hwell, hbottom⟩ := FreeSpaceMap.new_eq_ok hpos
    rw [HeapFile.new, hfsm, Except.ok.injEq] at hnew
    subst hnew
    refine ⟨?_, rfl, rfl⟩
    exact
      { fsm_capacity_eq := hcapacity
        length_le := Nat.zero_le _
        wellFormed := hwell
        inside := by simp
        registered := fun pageId => by simp [hbottom pageId] }
  · rw [HeapFile.new, FreeSpaceMap.new, dif_pos (by omega)] at hnew
    cases hnew

namespace Sound

/-- Everything on a page of a sound heap file is inside of it. -/
theorem inside_of_getElem? (h : heap.Sound) {i : Nat} (hpage : heap.pages[i]? = some page) :
    page.Inside :=
  h.inside page (List.mem_of_getElem? hpage)

/-- Changing a page behind the back of the map. -/
theorem setPage (h : heap.Sound) (hinside : page.Inside) : (heap.setPage pageId page).Sound where
  fsm_capacity_eq := h.fsm_capacity_eq
  length_le := by simpa [HeapFile.setPage] using h.length_le
  wellFormed := h.wellFormed
  inside := by
    intro other hother
    rcases List.mem_or_eq_of_mem_set hother with hother | rfl
    · exact h.inside other hother
    · exact hinside
  registered := by simpa [HeapFile.setPage] using h.registered

/-- Reporting a page that exists. -/
theorem report (h : heap.Sound) {bucket : Bucket} {fsm : FreeSpaceMap}
    (hpage : pageId.toNat < heap.pages.length)
    (hreported : FreeSpaceMap.Reported heap.fsm pageId bucket fsm) :
    Sound { heap with fsm := fsm } where
  fsm_capacity_eq := hreported.capacity_eq.trans h.fsm_capacity_eq
  length_le := h.length_le
  wellFormed := hreported.wellFormed
  inside := h.inside
  registered := by
    intro other
    by_cases hother : other = pageId
    · subst hother
      simp [hreported.leafBucket_self, hpage]
    · rw [hreported.leafBucket_of_ne other hother]
      exact h.registered other

/-- Below the capacity a new page is appended and entered under the low 16 bits of its
index. -/
theorem createPage (h : heap.Sound) (hlt : heap.pages.length < heap.capacity) :
    ∃ heap', heap.createPage = some (.ok (UInt16.ofNat heap.pages.length), heap') ∧
      heap'.pages = heap.pages ++ [SlottedPage.new] ∧ heap'.capacity = heap.capacity ∧
      FreeSpaceMap.Reported heap.fsm (UInt16.ofNat heap.pages.length)
        (FreeSpaceMap.bucketOf 4092) heap'.fsm ∧ heap'.Sound := by
  have hfsm := h.fsm_capacity_eq
  have hlow : (UInt16.ofNat heap.pages.length).toNat = heap.pages.length % 65536 :=
    UInt16.toNat_ofNat'
  have hmod := Nat.mod_le heap.pages.length 65536
  obtain ⟨free, hfree, hnat⟩ := SlottedPage.new_inside.bounded.freeSpace_eq_room
  rw [SlottedPage.room_new] at hnat
  obtain ⟨fsm, hregister, hreported⟩ := FreeSpaceMap.registerPage_eq_ok h.wellFormed
    (show (UInt16.ofNat heap.pages.length).toNat < heap.fsm.capacity by omega)
    (show 4092 < 4096 by omega)
  refine ⟨{ heap with fsm := fsm, pages := heap.pages ++ [SlottedPage.new] }, ?_, rfl, rfl,
    hreported, ?_⟩
  · rw [HeapFile.createPage, if_neg (by omega)]
    simp only [hfree, hnat, hregister, Option.bind_eq_bind, Option.bind_some]
    rfl
  · refine
      { fsm_capacity_eq := hreported.capacity_eq.trans hfsm
        length_le := by simpa using Nat.succ_le_of_lt hlt
        wellFormed := hreported.wellFormed
        inside := ?_
        registered := ?_ }
    · intro page hpage
      rcases List.mem_append.mp hpage with hpage | hpage
      · exact h.inside page hpage
      · rw [List.mem_singleton.mp hpage]
        exact SlottedPage.new_inside
    · intro other
      rw [List.length_append, List.length_singleton]
      by_cases hother : other = UInt16.ofNat heap.pages.length
      · subst hother
        simp only [hreported.leafBucket_self, ne_eq, WithBot.coe_ne_bot, not_false_eq_true,
          true_iff]
        omega
      · rw [hreported.leafBucket_of_ne other hother, h.registered other]
        have hbound := other.toNat_lt
        have hne : other.toNat ≠ heap.pages.length % 65536 := fun heq =>
          hother (UInt16.toNat_inj.mp (heq.trans hlow.symm))
        omega

/-- An insert into an existing page either appends the record and reports the page, or is
refused and changes nothing. -/
theorem insertPage_cases (h : heap.Sound) (hpage : heap.pages[pageId.toNat]? = some page)
    (record : List UInt8) :
    (record.length + 4 ≤ page.room ∧ ∃ next heap',
      heap.insertPage pageId record = some (.ok (), heap') ∧
      SlottedPage.Appended page record next ∧
      heap'.pages = heap.pages.set pageId.toNat next ∧ heap'.capacity = heap.capacity ∧
      FreeSpaceMap.Reported heap.fsm pageId (FreeSpaceMap.bucketOf next.room) heap'.fsm ∧
      heap'.Sound) ∨
    (page.room < record.length + 4 ∧
      heap.insertPage pageId record =
        some (.error (.slottedPageError ⟨.other, "Out of memory..."⟩), heap)) := by
  have hinside := h.inside_of_getElem? hpage
  have hlt := (List.getElem?_eq_some_iff.mp hpage).1
  have hfsm := h.fsm_capacity_eq
  have hle := h.length_le
  by_cases hfits : record.length + 4 ≤ page.room
  · left
    obtain ⟨next, hinsert, happended⟩ := SlottedPage.insert_of_fits hinside.bounded record hfits
    have hnext : next.Inside := hinside.appended hfits happended
    have hroom := hnext.bounded.room_le
    obtain ⟨free, hfree, hnat⟩ := hnext.bounded.freeSpace_eq_room
    obtain ⟨fsm, hupdate, hreported⟩ := FreeSpaceMap.updatePage_eq_ok h.wellFormed
      (show pageId.toNat < heap.fsm.capacity by omega) ((h.registered pageId).mpr hlt)
      (show free.toNat < 4096 by omega)
    rw [hnat] at hreported
    refine ⟨hfits, next, { heap.setPage pageId next with fsm := fsm }, ?_, happended, rfl, rfl,
      hreported, (h.setPage hnext).report (by simpa [HeapFile.setPage] using hlt) hreported⟩
    rw [HeapFile.insertPage, getPage_eq_ok hpage]
    simp only [hinsert, hfree, Option.bind_eq_bind, Option.bind_some]
    rw [show (heap.setPage pageId next).fsm = heap.fsm from rfl, hupdate]
    rfl
  · right
    have hroom : page.room < record.length + 4 := by omega
    refine ⟨hroom, ?_⟩
    have hsame : heap.setPage pageId page = heap := by
      obtain ⟨hlt, rfl⟩ := List.getElem?_eq_some_iff.mp hpage
      rw [HeapFile.setPage, List.set_getElem_self]
    rw [HeapFile.insertPage, getPage_eq_ok hpage]
    simp only [SlottedPage.insert_of_not_fits hinside.bounded record hroom, Option.bind_eq_bind,
      Option.bind_some, hsame]
    rfl

/-- What `create_page` has done. -/
theorem createPage_inv {created : Except HeapFileError PageId} (h : heap.Sound)
    (hrun : heap.createPage = some (created, heap')) :
    created = .error .heapFileFull ∧ heap' = heap ∨
      heap.pages.length < heap.capacity ∧ created = .ok (UInt16.ofNat heap.pages.length) ∧
      heap'.pages = heap.pages ++ [SlottedPage.new] ∧ heap'.capacity = heap.capacity ∧
      FreeSpaceMap.Reported heap.fsm (UInt16.ofNat heap.pages.length)
        (FreeSpaceMap.bucketOf 4092) heap'.fsm ∧ heap'.Sound := by
  by_cases hlt : heap.pages.length < heap.capacity
  · obtain ⟨heap₁, hcreate, hchange⟩ := h.createPage hlt
    rw [hcreate, Option.some_inj, Prod.mk.injEq] at hrun
    obtain ⟨rfl, rfl⟩ := hrun
    exact .inr ⟨hlt, rfl, hchange⟩
  · rw [createPage_of_full (by omega), Option.some_inj, Prod.mk.injEq] at hrun
    exact .inl ⟨hrun.1.symm, hrun.2.symm⟩

/-- What an insert into one page has done. -/
theorem insertPage_inv {result : Except HeapFileError Unit} (h : heap.Sound)
    (hrun : heap.insertPage pageId record = some (result, heap')) :
    heap' = heap ∨ ∃ page next, heap.pages[pageId.toNat]? = some page ∧
      heap'.pages = heap.pages.set pageId.toNat next ∧ heap'.capacity = heap.capacity ∧
      FreeSpaceMap.Reported heap.fsm pageId (FreeSpaceMap.bucketOf next.room) heap'.fsm ∧
      heap'.Sound := by
  cases hpage : heap.pages[pageId.toNat]? with
  | none =>
      rw [HeapFile.insertPage, getPage, hpage, Option.some_inj, Prod.mk.injEq] at hrun
      exact .inl hrun.2.symm
  | some page =>
      rcases h.insertPage_cases hpage record with
        ⟨-, next, heap₁, hinsert, -, hchange⟩ | ⟨-, hinsert⟩
      · rw [hinsert, Option.some_inj, Prod.mk.injEq] at hrun
        obtain ⟨-, rfl⟩ := hrun
        exact .inr ⟨page, next, rfl, hchange⟩
      · rw [hinsert, Option.some_inj, Prod.mk.injEq] at hrun
        exact .inl hrun.2.symm

end Sound

/-! ## Calls -/

/-- What a call on a page, through `get_page_mut`, has done. -/
theorem apply_page_inv {op : PageOp} {outcome : HeapOutcome}
    (hrun : heap.apply (.page pageId op) = some (outcome, heap')) :
    heap' = heap ∨ ∃ page result next, heap.pages[pageId.toNat]? = some page ∧
      page.apply op = some (result, next) ∧ heap' = heap.setPage pageId next := by
  cases hpage : heap.pages[pageId.toNat]? with
  | none =>
      simp only [HeapFile.apply, getPage, hpage] at hrun
      cases hrun
      exact .inl rfl
  | some page =>
      simp only [HeapFile.apply, getPage_eq_ok hpage] at hrun
      obtain ⟨⟨result, next⟩, happly, hrest⟩ := Option.bind_eq_some_iff.mp hrun
      cases hrest
      exact .inr ⟨page, result, next, rfl, happly, rfl⟩

/-- A later heap file of the same run. -/
structure Extends (heap heap' : HeapFile) : Prop where
  sound : heap'.Sound
  capacity_eq : heap'.capacity = heap.capacity
  length_le : heap.pages.length ≤ heap'.pages.length

namespace Extends

variable {base : HeapFile}

/-- A sound heap file extends itself. -/
theorem refl (h : heap.Sound) : heap.Extends heap := ⟨h, rfl, le_rfl⟩

/-- Writing a page back extends the heap file. -/
theorem setPage (h : base.Extends heap) (hinside : page.Inside) :
    base.Extends (heap.setPage pageId page) :=
  ⟨h.sound.setPage hinside, h.capacity_eq, by simpa [HeapFile.setPage] using h.length_le⟩

/-- Creating a page, or failing to, extends the heap file. -/
theorem createPage {created : Except HeapFileError PageId} (h : base.Extends heap)
    (hrun : heap.createPage = some (created, heap')) : base.Extends heap' := by
  rcases h.sound.createPage_inv hrun with ⟨-, rfl⟩ | ⟨-, -, hpages, hcapacity, -, hsound⟩
  · exact h
  · have hlength := h.length_le
    exact ⟨hsound, hcapacity.trans h.capacity_eq, by simp [hpages]; omega⟩

/-- An attempt to put a record into a page extends the heap file. -/
theorem insertPage {result : Except HeapFileError Unit} (h : base.Extends heap)
    (hrun : heap.insertPage pageId record = some (result, heap')) : base.Extends heap' := by
  rcases h.sound.insertPage_inv hrun with rfl | ⟨page, next, -, hpages, hcapacity, -, hsound⟩
  · exact h
  · exact ⟨hsound, hcapacity.trans h.capacity_eq, by simpa [hpages] using h.length_le⟩

end Extends

/-- Every call leaves a later heap file of the same run. -/
theorem Sound.apply {op : HeapOp} {outcome : HeapOutcome} (h : heap.Sound)
    (hrun : heap.apply op = some (outcome, heap')) : heap.Extends heap' := by
  cases op with
  | createPage =>
      obtain ⟨⟨created, heap₁⟩, hcreate, hrest⟩ := Option.bind_eq_some_iff.mp hrun
      cases hrest
      exact (Extends.refl h).createPage hcreate
  | insert record =>
      obtain ⟨⟨result, heap₁⟩, hinsert, hrest⟩ := Option.bind_eq_some_iff.mp hrun
      cases hrest
      exact insert_keeps (fun _ _ _ hbase => hbase.createPage)
        (fun _ _ _ _ hbase => hbase.insertPage) (Extends.refl h) hinsert
  | page pageId op =>
      rcases apply_page_inv hrun with rfl | ⟨page, result, next, hpage, happly, rfl⟩
      · exact Extends.refl h
      · exact (Extends.refl h).setPage ((h.inside_of_getElem? hpage).apply happly)

/-! ## Identifiers -/

/-- The calls of a run; what they return does not matter to the next one. -/
def Calls (heap : HeapFile) (op : HeapOp) (heap' : HeapFile) : Prop :=
  ∃ outcome, heap.apply op = some (outcome, heap')

/-- Every heap file of a run is sound. -/
theorem sound_of_calls {path : List (HeapOp × HeapFile)} (h : heap.Sound)
    (hpath : IsPath Calls heap path) : EveryState Sound heap path :=
  hpath.invariant h fun _ _ _ hsound ⟨_, hrun⟩ => (hsound.apply hrun).sound

/-- A page that is created here is stored under its identifier, and the map keeps the
leaf of every page that exists. -/
def CreatesAtIndex (heap : HeapFile) : Prop :=
  ∀ pageId heap', heap.createPage = some (.ok pageId, heap') →
    pageId.toNat = heap.pages.length ∧ heap'.pages = heap.pages ++ [SlottedPage.new] ∧
      ∀ other : PageId, other.toNat < heap.pages.length →
        heap'.fsm.getLeafBucket other = heap.fsm.getLeafBucket other

/-- The identifier of the page that a call has created, be it `create_page` or `insert`. -/
def createdId (heap heap' : HeapFile) : Option PageId :=
  if heap.pages.length < heap'.pages.length then
    match heap.createPage with
    | some (.ok pageId, _) => some pageId
    | _ => none
  else none

/-- The identifiers that a run gives out. -/
def createdIds (heap : HeapFile) : List (HeapOp × HeapFile) → List PageId
  | [] => []
  | (_, heap') :: path => (heap.createdId heap').toList ++ createdIds heap' path

/-- The cast keeps the index of the next page, if there is to be one. -/
def IdsLeft (heap : HeapFile) : Prop :=
  heap.pages.length < heap.capacity → heap.pages.length < 65536

/-- Below 65536 pages the next page is created at its index; behind, its identifier is that
of an older page. -/
theorem Sound.createsAtIndex_iff (h : heap.Sound) : heap.CreatesAtIndex ↔ heap.IdsLeft := by
  have hlow : (UInt16.ofNat heap.pages.length).toNat = heap.pages.length % 65536 :=
    UInt16.toNat_ofNat'
  constructor
  · intro hindex hlt
    obtain ⟨heap', hcreate, -⟩ := h.createPage hlt
    have hsame := (hindex _ _ hcreate).1
    omega
  · intro hleft pageId heap' hcreate
    rcases h.createPage_inv hcreate with ⟨hfull, -⟩ | ⟨hlt, hid, hpages, -, hreported, -⟩
    · cases hfull
    · have hids := hleft hlt
      have hfsm := h.fsm_capacity_eq
      rw [Except.ok.injEq] at hid
      subst hid
      refine ⟨by omega, hpages, fun other hother => ?_⟩
      have hne : other ≠ UInt16.ofNat heap.pages.length := by
        rintro rfl
        omega
      have hcapacity := hreported.capacity_eq
      rw [FreeSpaceMap.getLeafBucket_eq_ok (by omega), FreeSpaceMap.getLeafBucket_eq_ok (by omega),
        hreported.leafBucket_of_ne other hne]

/-- The identifiers of a run that creates at the index do not repeat, and none is that of an
older page. -/
theorem nodup_createdIds {path : List (HeapOp × HeapFile)} (h : heap.Sound)
    (hpath : IsPath Calls heap path) (hindex : EveryState CreatesAtIndex heap path) :
    (createdIds heap path).Nodup ∧
      ∀ pageId ∈ createdIds heap path, heap.pages.length ≤ pageId.toNat := by
  induction path generalizing heap with
  | nil => exact ⟨List.nodup_nil, by simp [createdIds]⟩
  | cons move path ih =>
      obtain ⟨⟨outcome, hrun⟩, hrest⟩ := hpath
      have hextends := h.apply hrun
      obtain ⟨hnodup, hold⟩ := ih hextends.sound hrest hindex.2
      rw [createdIds]
      cases hid : heap.createdId move.2 with
      | none =>
          exact ⟨hnodup, fun pageId hmem => hextends.length_le.trans (hold pageId hmem)⟩
      | some created =>
          have hcreated : created.toNat = heap.pages.length ∧
              heap.pages.length < move.2.pages.length := by
            rw [createdId] at hid
            split at hid
            next hlt =>
              split at hid
              next pageId heap₁ hcreate =>
                rw [Option.some_inj] at hid
                exact ⟨hid ▸ (hindex.1 pageId heap₁ hcreate).1, hlt⟩
              next => cases hid
            next => cases hid
          refine ⟨List.nodup_cons.mpr ⟨fun hmem => ?_, hnodup⟩, fun pageId hmem => ?_⟩
          · have hle := hold created hmem
            omega
          · rcases List.mem_cons.mp hmem with rfl | hmem
            · omega
            · have hle := hold pageId hmem
              omega

/-- There is a run that creates as many pages as the capacity allows, and nothing else. -/
theorem Sound.exists_creations (h : heap.Sound) {n : Nat}
    (hn : heap.pages.length + n ≤ heap.capacity) :
    ∃ path, IsPath Calls heap path ∧ path.map Prod.fst = List.replicate n HeapOp.createPage ∧
      (createdIds heap path).length = n ∧
      (lastState heap path).pages = heap.pages ++ List.replicate n SlottedPage.new := by
  induction n generalizing heap with
  | zero => exact ⟨[], trivial, rfl, rfl, by simp [lastState]⟩
  | succ n ih =>
      obtain ⟨heap', hcreate, hpages, hcapacity, -, hsound⟩ := h.createPage (by omega)
      have hlength : heap'.pages.length = heap.pages.length + 1 := by simp [hpages]
      obtain ⟨path, hpath, hops, hids, hlast⟩ := ih hsound (by omega)
      refine ⟨(.createPage, heap') :: path, ⟨⟨_, by rw [HeapFile.apply, hcreate]; rfl⟩, hpath⟩,
        ?_, ?_, ?_⟩
      · rw [List.map_cons, hops, List.replicate_succ]
      · have hid : heap.createdId heap' = some (UInt16.ofNat heap.pages.length) := by
          rw [createdId, if_pos (by omega), hcreate]
        rw [createdIds, hid, List.length_append, hids]
        exact Nat.add_comm 1 n
      · rw [lastState, hlast, hpages, List.append_assoc, List.replicate_succ]
        rfl

end HeapFile

/-- Along a run of a heap file of any capacity: in every state `create_page`, if it succeeds,
returns the index at which it stores the page and changes no leaf of an older page, and no
identifier is given out twice, exactly when every state in which there is room for another
page has fewer than 65536 of them. -/
theorem createPage_ids_iff {capacity : Nat} {heap : HeapFile}
    (hnew : HeapFile.new capacity = .ok heap) {path : List (HeapOp × HeapFile)}
    (hpath : IsPath HeapFile.Calls heap path) :
    (EveryState HeapFile.CreatesAtIndex heap path ∧ (HeapFile.createdIds heap path).Nodup) ↔
      EveryState HeapFile.IdsLeft heap path := by
  have hsound := (HeapFile.new_sound hnew).1
  have hevery := HeapFile.sound_of_calls hsound hpath
  constructor
  · rintro ⟨hindex, -⟩
    exact (hevery.and hindex).imp fun _ h => h.1.createsAtIndex_iff.mp h.2
  · intro hleft
    have hindex := (hevery.and hleft).imp fun _ h => h.1.createsAtIndex_iff.mpr h.2
    exact ⟨hindex, (HeapFile.nodup_createdIds hsound hpath hindex).1⟩

/-- A heap file that may hold one page more than there are identifiers, filled. -/
theorem createPage_ids_iff_filled : ∃ heap path, HeapFile.new 65537 = .ok heap ∧
    IsPath HeapFile.Calls heap path ∧
    path.map Prod.fst = List.replicate 65537 HeapOp.createPage ∧
    ((EveryState HeapFile.CreatesAtIndex heap path ∧ (HeapFile.createdIds heap path).Nodup) ↔
      EveryState HeapFile.IdsLeft heap path) := by
  obtain ⟨fsm, hfsm, -⟩ := FreeSpaceMap.new_eq_ok (show 0 < 65537 by omega)
  have hnew : HeapFile.new 65537 = .ok ⟨[], fsm, 65537⟩ := by rw [HeapFile.new, hfsm]
  obtain ⟨path, hpath, hops, -⟩ :=
    (HeapFile.new_sound hnew).1.exists_creations (n := 65537) (by simp)
  exact ⟨_, path, hnew, hpath, hops, createPage_ids_iff hnew hpath⟩

/-- In that run two pages get the same identifier, the second one not its index. -/
theorem createPage_id_wraps : ∃ heap path, HeapFile.new 65537 = .ok heap ∧
    IsPath HeapFile.Calls heap path ∧
    path.map Prod.fst = List.replicate 65537 HeapOp.createPage ∧
    ¬ (HeapFile.createdIds heap path).Nodup ∧
    ¬ EveryState HeapFile.CreatesAtIndex heap path := by
  obtain ⟨fsm, hfsm, -⟩ := FreeSpaceMap.new_eq_ok (show 0 < 65537 by omega)
  have hnew : HeapFile.new 65537 = .ok ⟨[], fsm, 65537⟩ := by rw [HeapFile.new, hfsm]
  have hsound := (HeapFile.new_sound hnew).1
  obtain ⟨path, hpath, hops, hlength, -⟩ := hsound.exists_creations (n := 65537) (by simp)
  have hrepeats : ¬ (HeapFile.createdIds ⟨[], fsm, 65537⟩ path).Nodup := by
    intro hnodup
    have hcard := card_pageIds_le (HeapFile.createdIds ⟨[], fsm, 65537⟩ path).toFinset
    rw [List.toFinset_card_of_nodup hnodup] at hcard
    omega
  exact ⟨_, path, hnew, hpath, hops, hrepeats, fun hindex =>
    hrepeats (HeapFile.nodup_createdIds hsound hpath hindex).1⟩

end Storage
end TaskPool
