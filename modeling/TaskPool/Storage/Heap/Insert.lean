import TaskPool.Storage.Page.RecordStore
import TaskPool.Storage.Heap.HeapFile

/-!
# Inserting into a heap file

A heap file holds one record store per page.  The invariant ties the free space
map to the stores from one side only: a leaf may promise more room than its page
has, since inserts made directly on a page go unnoticed, but never less.  So every
page with room stays among the candidates of the search, and the retry loop ends
with a page that takes the record or with the proof that there is none.

Main results:

- Structure `HeapFile.Holds`: the invariant.
- Theorem `HeapFile.insert_holds`: what an insert returns and leaves behind.
- Theorem `HeapFile.run_holds`: the invariant after every sequence of calls.
- Theorem `heapFile_insert_contract`: the outcome of an insert in every reachable
  heap file.
-/

namespace TaskPool
namespace Storage

open Library

/-- The page reports enough free bytes for the record and its slot. -/
def SlottedPage.HasRoom (page : SlottedPage) (record : List UInt8) : Prop :=
  ∃ free, page.freeSpace = some free ∧ record.length + slotSize ≤ free.toNat

/-- The second page is the first one with one more slot, which holds the record. -/
structure SlottedPage.SlotAdded (page : SlottedPage) (record : List UInt8)
    (page' : SlottedPage) : Prop where
  slotCount_eq : page'.getSlotCount.toNat = page.getSlotCount.toNat + 1
  get_new : page'.get page.getSlotCount = some record
  get_old : ∀ slot : SlotId, slot.toNat < page.getSlotCount.toNat →
    page'.get slot = page.get slot

namespace RecordStore

/-- The store after one more record was accepted. -/
def append (store : RecordStore) (record : List UInt8) : RecordStore :=
  ⟨store.entries ++ [⟨record, true⟩]⟩

/-- A store with room accepts the record in its next slot. -/
theorem insert_of_fits {store : RecordStore} {record : List UInt8}
    (h : store.used + (record.length + 4) ≤ 4092) :
    store.insert record = (.ok (UInt16.ofNat store.entries.length), store.append record) := by
  rw [insert, if_pos h]
  rfl

/-- A store without room rejects the record. -/
theorem insert_of_not_fits {store : RecordStore} {record : List UInt8}
    (h : ¬ store.used + (record.length + 4) ≤ 4092) :
    store.insert record = (.error ⟨.other, "Out of memory..."⟩, store) := by
  rw [insert, if_neg h]

/-- A record uses its bytes and a slot. -/
theorem used_append (store : RecordStore) (record : List UInt8) :
    (store.append record).used = store.used + (record.length + 4) := by
  simp [append, used]

/-- A delete gives no bytes back. -/
theorem used_delete (store : RecordStore) (slot : SlotId) :
    (store.delete slot).2.used = store.used := by
  unfold delete
  split_ifs
  · rw [used_eq, used_eq]
    simp [prefixLength_modify]
  · rfl

/-- No operation gives bytes back. -/
theorem used_le_apply (store : RecordStore) (op : PageOp) :
    store.used ≤ (store.apply op).2.used := by
  cases op with
  | insert record =>
      by_cases hfits : store.used + (record.length + 4) ≤ 4092
      · simp only [apply, insert_of_fits hfits, used_append]
        exact Nat.le_add_right _ _
      · simp only [apply, insert_of_not_fits hfits]
        exact le_rfl
  | delete slot =>
      simp only [apply, used_delete]
      exact le_rfl

/-- The free space of a page is what its store has not used. -/
theorem Represents.freeSpace_eq {page : SlottedPage} {store : RecordStore}
    (h : Represents page store) :
    ∃ free, page.freeSpace = some free ∧ free.toNat = 4092 - store.used := by
  have hroom := h.free_add_used
  have hfree := SlottedPage.freeSpace_eq_some h.bounded
  refine ⟨_, hfree, ?_⟩
  rw [SlottedPage.freeSpace_toNat h.bounded hfree]
  omega

/-- A page has room when its store does. -/
theorem Represents.hasRoom_iff {page : SlottedPage} {store : RecordStore}
    (h : Represents page store) (record : List UInt8) :
    page.HasRoom record ↔ store.used + (record.length + 4) ≤ 4092 := by
  have hused := h.used_le
  rcases h.freeSpace_eq with ⟨free, hfree, hnat⟩
  simp only [SlottedPage.HasRoom, hfree, Option.some_inj, exists_eq_left', slotSize]
  omega

/-- An accepted insert adds one slot and changes no other. -/
theorem Represents.slotAdded {page : SlottedPage} {store : RecordStore}
    (h : Represents page store) {record : List UInt8}
    (hfits : store.used + (record.length + 4) ≤ 4092) :
    ∃ slot page', page.insert record = some (.ok slot, page') ∧
      Represents page' (store.append record) ∧ page.SlotAdded record page' := by
  have hcount := h.slotCount_eq
  rcases insert_represents h record with ⟨page', hinsert, hpage'⟩
  simp only [insert_of_fits hfits] at hinsert hpage'
  have hcount' := hpage'.slotCount_eq
  have hlength : (store.append record).entries.length = store.entries.length + 1 := by
    simp [append]
  refine ⟨_, page', hinsert, hpage', ?_⟩
  refine
    { slotCount_eq := by omega
      get_new := ?_
      get_old := ?_ }
  · rw [hpage'.get_eq (by omega), hcount]
    simp [get, contents, append, Entry.contents]
  · intro slot hslot
    have hslot' : slot.toNat < store.entries.length := by omega
    rw [hpage'.get_eq (by omega), h.get_eq hslot']
    simp [get, contents, append, List.getElem?_append_left, hslot']

end RecordStore

namespace HeapFile

/-- The heap file holds one record store per page, and no leaf of the free space
map promises less than the free space of its page. -/
structure Holds (capacity : Nat) (heap : HeapFile) (stores : List RecordStore) : Prop where
  capacity_eq : heap.capacity = capacity
  fsm_capacity_eq : heap.fsm.capacity = capacity
  capacity_le : capacity ≤ 65535
  length_eq : heap.pages.length = stores.length
  length_le : stores.length ≤ capacity
  wellFormed : heap.fsm.WellFormed
  represents : ∀ (i : Nat) page store, heap.pages[i]? = some page → stores[i]? = some store →
    RecordStore.Represents page store
  bucket_le : ∀ (page : PageId) store, stores[page.toNat]? = some store →
    (FreeSpaceMap.bucketOf (4092 - store.used) : WithBot Bucket) ≤ heap.fsm.leafBucket page
  unregistered : ∀ page : PageId, stores.length ≤ page.toNat → heap.fsm.leafBucket page = ⊥

variable {capacity : Nat} {heap heap' : HeapFile} {stores stores' : List RecordStore}
  {record : List UInt8}

/-- A new heap file holds no stores. -/
theorem new_holds (hpos : 0 < capacity) (hle : capacity ≤ 65535) :
    ∃ heap, HeapFile.new capacity = .ok heap ∧ Holds capacity heap [] := by
  rcases FreeSpaceMap.new_eq_ok hpos with ⟨fsm, hnew, hcapacity, hwellFormed, hleaf⟩
  refine ⟨⟨[], fsm, capacity⟩, by rw [HeapFile.new, hnew], ?_⟩
  exact
    { capacity_eq := rfl
      fsm_capacity_eq := hcapacity
      capacity_le := hle
      length_eq := rfl
      length_le := Nat.zero_le _
      wellFormed := hwellFormed
      represents := by simp
      bucket_le := by simp
      unregistered := fun page _ => hleaf page }

namespace Holds

/-- Every store has a page that represents it. -/
theorem exists_page (h : Holds capacity heap stores) {i : Nat} (hi : i < stores.length) :
    ∃ page store, heap.pages[i]? = some page ∧ stores[i]? = some store ∧
      RecordStore.Represents page store := by
  have hlength := h.length_eq
  have hpage := List.getElem?_eq_getElem (show i < heap.pages.length by omega)
  have hstore := List.getElem?_eq_getElem hi
  exact ⟨_, _, hpage, hstore, h.represents i _ _ hpage hstore⟩

/-- Replacing the store of one page, with a leaf that does not promise less. -/
theorem replace (h : Holds capacity heap stores) {page : PageId} {newPage : SlottedPage}
    {store : RecordStore} {fsm : FreeSpaceMap} (hpage : page.toNat < stores.length)
    (hrepresents : RecordStore.Represents newPage store)
    (hcapacity : fsm.capacity = heap.fsm.capacity) (hwellFormed : fsm.WellFormed)
    (hself : (FreeSpaceMap.bucketOf (4092 - store.used) : WithBot Bucket) ≤ fsm.leafBucket page)
    (hother : ∀ other, other ≠ page → fsm.leafBucket other = heap.fsm.leafBucket other) :
    Holds capacity { heap.setPage page newPage with fsm := fsm } (stores.set page.toNat store) where
  capacity_eq := h.capacity_eq
  fsm_capacity_eq := hcapacity.trans h.fsm_capacity_eq
  capacity_le := h.capacity_le
  length_eq := by simpa [setPage] using h.length_eq
  length_le := by simpa using h.length_le
  wellFormed := hwellFormed
  represents := by
    intro i found held hfound hheld
    by_cases hi : page.toNat = i
    · subst hi
      have hlength := h.length_eq
      simp only [setPage, List.getElem?_set_self (show page.toNat < heap.pages.length by omega),
        Option.some_inj] at hfound
      simp only [List.getElem?_set_self hpage, Option.some_inj] at hheld
      rwa [← hfound, ← hheld]
    · simp only [setPage, List.getElem?_set_ne hi] at hfound
      rw [List.getElem?_set_ne hi] at hheld
      exact h.represents i found held hfound hheld
  bucket_le := by
    intro other held hheld
    by_cases hi : other = page
    · subst hi
      simp only [List.getElem?_set_self hpage, Option.some_inj] at hheld
      rwa [← hheld]
    · rw [List.getElem?_set_ne fun heq => hi (UInt16.toNat_inj.mp heq.symm)] at hheld
      rw [hother other hi]
      exact h.bucket_le other held hheld
  unregistered := by
    intro other hlen
    rw [List.length_set] at hlen
    have hne : other ≠ page := by
      rintro rfl
      omega
    rw [hother other hne]
    exact h.unregistered other hlen

/-- Appending an empty page that is entered into the map. -/
theorem append_page (h : Holds capacity heap stores) {page : PageId} {fsm : FreeSpaceMap}
    (hpage : page.toNat = stores.length) (hlt : stores.length < capacity)
    (hreported : FreeSpaceMap.Reported heap.fsm page (FreeSpaceMap.bucketOf 4092) fsm) :
    Holds capacity { heap with fsm := fsm, pages := heap.pages ++ [SlottedPage.new] }
      (stores ++ [RecordStore.empty]) where
  capacity_eq := h.capacity_eq
  fsm_capacity_eq := hreported.capacity_eq.trans h.fsm_capacity_eq
  capacity_le := h.capacity_le
  length_eq := by simp [h.length_eq]
  length_le := by simpa using Nat.succ_le_of_lt hlt
  wellFormed := hreported.wellFormed
  represents := by
    intro i found held hfound hheld
    have hlength := h.length_eq
    by_cases hi : i < stores.length
    · simp only [List.getElem?_append_left (show i < heap.pages.length by omega)] at hfound
      rw [List.getElem?_append_left hi] at hheld
      exact h.represents i found held hfound hheld
    · simp only [List.getElem?_append_right (show heap.pages.length ≤ i by omega)] at hfound
      rw [List.getElem?_append_right (by omega)] at hheld
      have hnew := List.mem_of_getElem? hfound
      have hempty := List.mem_of_getElem? hheld
      rw [List.mem_singleton] at hnew hempty
      rw [hnew, hempty]
      exact RecordStore.new_represents
  bucket_le := by
    intro other held hheld
    by_cases hi : other.toNat < stores.length
    · rw [List.getElem?_append_left hi] at hheld
      have hne : other ≠ page := by
        rintro rfl
        omega
      rw [hreported.leafBucket_of_ne other hne]
      exact h.bucket_le other held hheld
    · have hle := (List.getElem?_eq_some_iff.mp hheld).1
      simp only [List.length_append, List.length_singleton] at hle
      have heq : other = page := UInt16.toNat_inj.mp (by omega)
      rw [heq, hreported.leafBucket_self, WithBot.coe_le_coe]
      exact FreeSpaceMap.bucketOf_mono (Nat.sub_le _ _) (by omega)
  unregistered := by
    intro other hle
    simp only [List.length_append, List.length_singleton] at hle
    have hne : other ≠ page := by
      rintro rfl
      omega
    rw [hreported.leafBucket_of_ne other hne]
    exact h.unregistered other (by omega)

/-- A page found by the search exists. -/
theorem lt_of_firstPage (h : Holds capacity heap stores) {bucket : Bucket}
    {excluded : Finset PageId} {page : PageId}
    (hfound : heap.fsm.firstPage bucket excluded = some page) : page.toNat < stores.length := by
  rcases FreeSpaceMap.firstPage_eq_some h.wellFormed hfound with ⟨-, -, hbucket⟩
  by_contra hle
  rw [h.unregistered page (by omega)] at hbucket
  exact absurd hbucket (by simp)

/-- When the search finds nothing, no page outside the excluded ones has room. -/
theorem full_of_firstPage (h : Holds capacity heap stores) {excluded : Finset PageId}
    (hnone : heap.fsm.firstPage (FreeSpaceMap.bucketOf (record.length + 4)) excluded = none)
    {page : PageId} (hpage : page ∉ excluded) {store : RecordStore}
    (hstore : stores[page.toNat]? = some store) :
    4092 < store.used + (record.length + 4) := by
  have hlt := (List.getElem?_eq_some_iff.mp hstore).1
  have hcapacity := h.fsm_capacity_eq
  have hlength := h.length_le
  have hbelow := FreeSpaceMap.firstPage_eq_none h.wellFormed hnone (by omega) hpage
  have hbucket := (h.bucket_le page store hstore).trans_lt hbelow
  rw [WithBot.coe_lt_coe] at hbucket
  by_contra hfits
  exact absurd hbucket (not_lt.mpr (FreeSpaceMap.bucketOf_mono (by omega) (by omega)))

end Holds

/-! ## One call -/

/-- A page is found under its index. -/
theorem getPage_eq_ok {page : PageId} {found : SlottedPage}
    (h : heap.pages[page.toNat]? = some found) : heap.getPage page = .ok found := by
  rw [getPage, h]

/-- At the capacity no page is created. -/
theorem createPage_of_full (h : heap.capacity ≤ heap.pages.length) :
    heap.createPage = some (.error .heapFileFull, heap) := by
  rw [createPage, if_pos h]

/-- Below the capacity a new page is appended and entered. -/
theorem createPage_holds (h : Holds capacity heap stores) (hlt : stores.length < capacity) :
    ∃ page heap', heap.createPage = some (.ok page, heap') ∧ page.toNat = stores.length ∧
      heap'.pages = heap.pages ++ [SlottedPage.new] ∧
      FreeSpaceMap.Reported heap.fsm page (FreeSpaceMap.bucketOf 4092) heap'.fsm ∧
      Holds capacity heap' (stores ++ [RecordStore.empty]) := by
  have hlength := h.length_eq
  have hcapacity := h.capacity_eq
  have hfsm := h.fsm_capacity_eq
  have hle := h.capacity_le
  have hpage : (UInt16.ofNat heap.pages.length).toNat = stores.length := by
    rw [toNat_ofNat_u16 (by omega), hlength]
  rcases RecordStore.new_represents.freeSpace_eq with ⟨free, hfree, hnat⟩
  have hfull : free.toNat = 4092 := by simpa [RecordStore.used, RecordStore.empty] using hnat
  rcases FreeSpaceMap.registerPage_eq_ok h.wellFormed
    (show (UInt16.ofNat heap.pages.length).toNat < heap.fsm.capacity by omega)
    (show 4092 < 4096 by omega) with ⟨fsm, hregister, hreported⟩
  refine ⟨_, _, ?_, hpage, ?_, hreported, h.append_page hpage hlt hreported⟩
  · rw [createPage, if_neg (by omega)]
    simp only [hfree, hfull, hregister, Option.bind_eq_bind, Option.bind_some]
    rfl
  · rfl

/-- An insert into a page with room is accepted and reported to the map. -/
theorem insertPage_holds (h : Holds capacity heap stores) {pageId : PageId} {page : SlottedPage}
    {store : RecordStore} (hpage : heap.pages[pageId.toNat]? = some page)
    (hstore : stores[pageId.toNat]? = some store)
    (hfits : store.used + (record.length + 4) ≤ 4092) :
    ∃ page' heap', heap.insertPage pageId record = some (.ok (), heap') ∧
      heap'.pages = heap.pages.set pageId.toNat page' ∧ page.SlotAdded record page' ∧
      FreeSpaceMap.Reported heap.fsm pageId
        (FreeSpaceMap.bucketOf (4092 - (store.append record).used)) heap'.fsm ∧
      Holds capacity heap' (stores.set pageId.toNat (store.append record)) := by
  have hlt := (List.getElem?_eq_some_iff.mp hstore).1
  have hlength := h.length_le
  have hcapacity := h.fsm_capacity_eq
  rcases (h.represents _ _ _ hpage hstore).slotAdded hfits with
    ⟨slot, page', hinsert, hrepresents, hadded⟩
  rcases hrepresents.freeSpace_eq with ⟨free, hfree, hnat⟩
  have hregistered : heap.fsm.leafBucket pageId ≠ ⊥ := by
    intro hbot
    have hbucket := h.bucket_le pageId store hstore
    rw [hbot] at hbucket
    exact absurd hbucket (by simp)
  rcases FreeSpaceMap.updatePage_eq_ok h.wellFormed
    (show pageId.toNat < heap.fsm.capacity by omega) hregistered
    (show free.toNat < 4096 by omega) with ⟨fsm, hupdate, hreported⟩
  rw [hnat] at hreported
  refine ⟨page', { heap.setPage pageId page' with fsm := fsm }, ?_, rfl, hadded, hreported,
    h.replace hlt hrepresents hreported.capacity_eq hreported.wellFormed
      hreported.leafBucket_self.ge hreported.leafBucket_of_ne⟩
  · rw [insertPage, getPage_eq_ok hpage]
    simp only [hinsert, hfree, Option.bind_eq_bind, Option.bind_some]
    rw [show (heap.setPage pageId page').fsm = heap.fsm from rfl, hupdate]
    rfl

/-- The loop when the map names no page. -/
theorem insertLoop_of_none {reqSpace : Nat} {excluded : Finset PageId}
    (h : heap.fsm.findPageExcluding reqSpace excluded = some (.ok none)) :
    heap.insertLoop record reqSpace excluded = (do
      let (result, heap) ← heap.createPage
      match result with
      | .error e => return (.error e, heap)
      | .ok pageId => heap.insertPage pageId record) := by
  rw [insertLoop]
  split <;> rename_i hfind <;> cases h.symm.trans hfind
  rfl

/-- The loop when the map names an existing page. -/
theorem insertLoop_of_some {reqSpace : Nat} {excluded : Finset PageId} {pageId : PageId}
    {page : SlottedPage} {free : UInt16}
    (h : heap.fsm.findPageExcluding reqSpace excluded = some (.ok (some pageId)))
    (hpage : heap.pages[pageId.toNat]? = some page) (hfree : page.freeSpace = some free) :
    heap.insertLoop record reqSpace excluded =
      if free.toNat ≥ reqSpace then heap.insertPage pageId record
      else heap.insertLoop record reqSpace (Insert.insert pageId excluded) := by
  rw [insertLoop]
  split <;> rename_i hfind <;> rw [h] at hfind <;> cases hfind
  simp only [getPage_eq_ok hpage, hfree]

/-- What an insert returns and leaves behind, in the heap file and in its stores. -/
inductive InsertOutcome (heap : HeapFile) (stores : List RecordStore) (record : List UInt8) :
    Except HeapFileError Unit → HeapFile → List RecordStore → Prop
  | tooLarge (hsize : 4092 < record.length + 4) :
      InsertOutcome heap stores record (.error .insufficientPageSpace) heap stores
  | full (hsize : record.length + 4 ≤ 4092)
      (hfull : ∀ store ∈ stores, 4092 < store.used + (record.length + 4))
      (hlength : stores.length = heap.capacity) :
      InsertOutcome heap stores record (.error .heapFileFull) heap stores
  | existing {i : Nat} {page page' : SlottedPage} {store : RecordStore} {heap' : HeapFile}
      (hsize : record.length + 4 ≤ 4092)
      (hpage : heap.pages[i]? = some page) (hstore : stores[i]? = some store)
      (hfits : store.used + (record.length + 4) ≤ 4092)
      (hadded : page.SlotAdded record page') (hpages : heap'.pages = heap.pages.set i page') :
      InsertOutcome heap stores record (.ok ()) heap' (stores.set i (store.append record))
  | created {page' : SlottedPage} {heap' : HeapFile}
      (hsize : record.length + 4 ≤ 4092)
      (hfull : ∀ store ∈ stores, 4092 < store.used + (record.length + 4))
      (hlength : stores.length < heap.capacity)
      (hadded : SlottedPage.new.SlotAdded record page')
      (hpages : heap'.pages = heap.pages ++ [page']) :
      InsertOutcome heap stores record (.ok ()) heap'
        (stores ++ [RecordStore.empty.append record])

/-- The retry loop: excluded pages have no room, and every retry excludes one more. -/
theorem insertLoop_holds (h : Holds capacity heap stores) (hsize : record.length + 4 ≤ 4092)
    (excluded : Finset PageId)
    (hexcluded : ∀ page ∈ excluded, ∀ store, stores[page.toNat]? = some store →
      4092 < store.used + (record.length + 4)) :
    ∃ result heap' stores', heap.insertLoop record (record.length + 4) excluded =
        some (result, heap') ∧ Holds capacity heap' stores' ∧
      InsertOutcome heap stores record result heap' stores' := by
  have hlength := h.length_eq
  have hcapacity := h.capacity_eq
  induction hn : 65536 - excluded.card using Nat.strong_induction_on generalizing excluded with
  | _ n ih =>
      have hfind := FreeSpaceMap.findPageExcluding_eq_firstPage h.wellFormed
        (show record.length + 4 < 4096 by omega) excluded
      cases hfirst : heap.fsm.firstPage (FreeSpaceMap.bucketOf (record.length + 4)) excluded with
      | none =>
          have hfull : ∀ store ∈ stores, 4092 < store.used + (record.length + 4) := by
            intro store hmem
            rcases List.getElem?_of_mem hmem with ⟨i, hi⟩
            have hlt := (List.getElem?_eq_some_iff.mp hi).1
            have hle := h.length_le
            have hle' := h.capacity_le
            have hpage : (UInt16.ofNat i).toNat = i := toNat_ofNat_u16 (by omega)
            rw [← hpage] at hi
            by_cases hmem' : UInt16.ofNat i ∈ excluded
            · exact hexcluded _ hmem' store hi
            · exact h.full_of_firstPage hfirst hmem' hi
          rw [hfirst] at hfind
          by_cases hlt : stores.length < capacity
          · rcases createPage_holds h hlt with ⟨page, heap₁, hcreate, hpage, hpages, -, hholds⟩
            have hnew : heap₁.pages[page.toNat]? = some SlottedPage.new := by
              rw [hpages, hpage, ← hlength, List.getElem?_concat_length]
            have hempty : (stores ++ [RecordStore.empty])[page.toNat]? = some RecordStore.empty := by
              rw [hpage, List.getElem?_concat_length]
            rcases insertPage_holds hholds hnew hempty
              (by simpa [RecordStore.used, RecordStore.empty] using hsize) with
              ⟨page', heap₂, hinsert, hpages', hadded, -, hholds'⟩
            refine ⟨.ok (), heap₂, _, ?_, hholds', ?_⟩
            · rw [insertLoop_of_none hfind, hcreate]
              exact hinsert
            · rw [hpage, List.set_append_right _ _ le_rfl, Nat.sub_self, List.set_cons_zero]
              refine .created hsize hfull (by omega) hadded ?_
              rw [hpages', hpages, hpage, ← hlength, List.set_append_right _ _ le_rfl, Nat.sub_self,
                List.set_cons_zero]
          · have hle := h.length_le
            refine ⟨.error .heapFileFull, heap, stores, ?_, h, .full hsize hfull (by omega)⟩
            rw [insertLoop_of_none hfind, createPage_of_full (by omega)]
            rfl
      | some page =>
          have hlt := h.lt_of_firstPage hfirst
          rcases h.exists_page hlt with ⟨found, store, hfound, hstore, hrepresents⟩
          rcases hrepresents.freeSpace_eq with ⟨free, hfree, hnat⟩
          have hused := hrepresents.used_le
          rw [hfirst] at hfind
          rw [insertLoop_of_some hfind hfound hfree]
          by_cases hfits : store.used + (record.length + 4) ≤ 4092
          · rcases insertPage_holds h hfound hstore hfits with
              ⟨page', heap', hinsert, hpages, hadded, -, hholds⟩
            refine ⟨.ok (), heap', _, ?_, hholds, .existing hsize hfound hstore hfits hadded hpages⟩
            rw [if_pos (by omega), hinsert]
          · -- a false positive of the map
            have hmem := (FreeSpaceMap.firstPage_eq_some h.wellFormed hfirst).2.1
            have hcard := Finset.card_insert_of_notMem hmem
            have hle := card_pageIds_le (Insert.insert page excluded)
            rw [if_neg (by omega)]
            refine ih _ (by omega) (Insert.insert page excluded) ?_ rfl
            intro other hother held hheld
            rcases Finset.mem_insert.mp hother with rfl | hother
            · rw [hstore, Option.some_inj] at hheld
              subst hheld
              omega
            · exact hexcluded other hother held hheld

/-- An insert always ends, with one of the outcomes, and its pages represent stores again. -/
theorem insert_holds (h : Holds capacity heap stores) (record : List UInt8) :
    ∃ result heap' stores', heap.insert record = some (result, heap') ∧
      Holds capacity heap' stores' ∧ InsertOutcome heap stores record result heap' stores' := by
  by_cases hsize : record.length + 4 ≤ 4092
  · rcases insertLoop_holds h hsize ∅ (by simp) with ⟨result, heap', stores', hloop, hholds, hout⟩
    refine ⟨result, heap', stores', ?_, hholds, hout⟩
    rw [insert, ← hloop]
    simp only [slotSize, maxAvailableSlottedPageSpace, pageSize, headerSize]
    rw [if_neg (by omega)]
  · refine ⟨_, heap, stores, ?_, h, .tooLarge (by omega)⟩
    rw [insert]
    simp only [slotSize, maxAvailableSlottedPageSpace, pageSize, headerSize]
    rw [if_pos (by omega)]

/-! ## Sequences of calls -/

/-- What one call returns and leaves behind. -/
inductive ApplyOutcome (heap : HeapFile) (stores : List RecordStore) :
    HeapOp → HeapOutcome → HeapFile → List RecordStore → Prop
  | createFull : ApplyOutcome heap stores .createPage (.created (.error .heapFileFull)) heap stores
  | created {page : PageId} {heap' : HeapFile} (hpage : page.toNat = stores.length)
      (hpages : heap'.pages = heap.pages ++ [SlottedPage.new]) :
      ApplyOutcome heap stores .createPage (.created (.ok page)) heap'
        (stores ++ [RecordStore.empty])
  | inserted {record : List UInt8} {result : Except HeapFileError Unit} {heap' : HeapFile}
      {stores' : List RecordStore} (h : InsertOutcome heap stores record result heap' stores') :
      ApplyOutcome heap stores (.insert record) (.inserted result) heap' stores'
  | noPage {page : PageId} {op : PageOp} (hpage : stores.length ≤ page.toNat) :
      ApplyOutcome heap stores (.page page op) (.page (.error .invalidPageId)) heap stores
  | page {page : PageId} {op : PageOp} {newPage : SlottedPage} {store : RecordStore}
      (hstore : stores[page.toNat]? = some store) :
      ApplyOutcome heap stores (.page page op) (.page (.ok (store.apply op).1))
        (heap.setPage page newPage) (stores.set page.toNat (store.apply op).2)

/-- Every call on a heap file or on one of its pages ends, and the pages represent stores again. -/
theorem apply_holds (h : Holds capacity heap stores) (op : HeapOp) :
    ∃ outcome heap' stores', heap.apply op = some (outcome, heap') ∧
      Holds capacity heap' stores' ∧ ApplyOutcome heap stores op outcome heap' stores' := by
  have hlength := h.length_eq
  have hcapacity := h.capacity_eq
  cases op with
  | createPage =>
      by_cases hlt : stores.length < capacity
      · rcases createPage_holds h hlt with ⟨page, heap', hcreate, hpage, hpages, -, hholds⟩
        exact ⟨_, heap', _, by simp [apply, hcreate], hholds, .created hpage hpages⟩
      · have hfull := createPage_of_full (show heap.capacity ≤ heap.pages.length by omega)
        exact ⟨_, heap, stores, by simp [apply, hfull], h, .createFull⟩
  | insert record =>
      rcases insert_holds h record with ⟨result, heap', stores', hinsert, hholds, hout⟩
      exact ⟨_, heap', stores', by simp [apply, hinsert], hholds, .inserted hout⟩
  | page pageId op =>
      by_cases hlt : pageId.toNat < stores.length
      · rcases h.exists_page hlt with ⟨page, store, hpage, hstore, hrepresents⟩
        rcases RecordStore.apply_represents hrepresents op with ⟨page', happly, hrepresents'⟩
        have hused := store.used_le_apply op
        have hbucket := h.bucket_le pageId store hstore
        refine ⟨_, heap.setPage pageId page', _, ?_, ?_, .page hstore⟩
        · simp [apply, getPage_eq_ok hpage, happly]
        · -- the map is not told, and the page has no more room than before
          refine h.replace hlt hrepresents' rfl h.wellFormed (hbucket.trans' ?_) fun _ _ => rfl
          rw [WithBot.coe_le_coe]
          exact FreeSpaceMap.bucketOf_mono (by omega) (by omega)
      · have hnone : heap.pages[pageId.toNat]? = none :=
          List.getElem?_eq_none (by omega)
        exact ⟨_, heap, stores, by simp [apply, getPage, hnone], h, .noPage (by omega)⟩

/-- Every sequence of calls runs without a panic and keeps the invariant. -/
theorem run_holds (h : Holds capacity heap stores) (ops : List HeapOp) :
    ∃ outcomes heap' stores', heap.run ops = some (outcomes, heap') ∧
      Holds capacity heap' stores' := by
  induction ops generalizing heap stores with
  | nil => exact ⟨[], heap, stores, rfl, h⟩
  | cons op ops ih =>
      rcases apply_holds h op with ⟨outcome, heap₁, stores₁, happly, hholds, -⟩
      rcases ih hholds with ⟨outcomes, heap₂, stores₂, hrun, hholds'⟩
      exact ⟨outcome :: outcomes, heap₂, stores₂, by simp [run, happly, hrun], hholds'⟩

/-! ## The outcome of an insert -/

/-- The record was appended as one slot of one page, which is a new page exactly
when no existing page had room; every other slot of every page is unchanged. -/
def Inserted (heap : HeapFile) (record : List UInt8) (heap' : HeapFile) : Prop :=
  (∃ i page page', heap.pages[i]? = some page ∧ page.HasRoom record ∧
    page.SlotAdded record page' ∧ heap'.pages = heap.pages.set i page') ∨
  ((∀ page ∈ heap.pages, ¬ page.HasRoom record) ∧ ∃ page',
    SlottedPage.new.SlotAdded record page' ∧ heap'.pages = heap.pages ++ [page'])

/-- What an insert promises. -/
structure InsertContract (heap : HeapFile) (record : List UInt8)
    (result : Except HeapFileError Unit) (heap' : HeapFile) : Prop where
  insufficientPageSpace_iff :
    result = .error .insufficientPageSpace ↔ record.length + slotSize > 4092
  heapFileFull_iff : record.length + slotSize ≤ 4092 →
    (result = .error .heapFileFull ↔
      (∀ page ∈ heap.pages, ¬ page.HasRoom record) ∧ heap.pages.length = heap.capacity)
  error_cases : ∀ error, result = .error error →
    (error = .insufficientPageSpace ∨ error = .heapFileFull) ∧ heap' = heap
  inserted : result = .ok () → heap.Inserted record heap'

/-- No page has room when no store has. -/
theorem Holds.not_hasRoom (h : Holds capacity heap stores)
    (hfull : ∀ store ∈ stores, 4092 < store.used + (record.length + 4)) :
    ∀ page ∈ heap.pages, ¬ page.HasRoom record := by
  intro page hpage
  have hlength := h.length_eq
  rcases List.getElem?_of_mem hpage with ⟨i, hi⟩
  have hlt := (List.getElem?_eq_some_iff.mp hi).1
  have hstore := List.getElem?_eq_getElem (show i < stores.length by omega)
  rw [(h.represents i _ _ hi hstore).hasRoom_iff]
  have := hfull _ (List.mem_of_getElem? hstore)
  omega

/-- The outcomes of an insert meet its contract. -/
theorem InsertOutcome.contract {result : Except HeapFileError Unit}
    (h : Holds capacity heap stores) (hout : InsertOutcome heap stores record result heap' stores') :
    InsertContract heap record result heap' := by
  have hlength := h.length_eq
  cases hout with
  | tooLarge hsize =>
      exact
        { insufficientPageSpace_iff := by simpa [slotSize] using hsize
          heapFileFull_iff := fun hle => absurd hle (by simpa using hsize)
          error_cases := by
            rintro error ⟨⟩
            exact ⟨.inl rfl, rfl⟩
          inserted := nofun }
  | full hsize hfull hcap =>
      exact
        { insufficientPageSpace_iff := by simpa [slotSize] using hsize
          heapFileFull_iff := fun _ =>
            ⟨fun _ => ⟨h.not_hasRoom hfull, by omega⟩, fun _ => rfl⟩
          error_cases := by
            rintro error ⟨⟩
            exact ⟨.inr rfl, rfl⟩
          inserted := nofun }
  | @existing i page page' store _ hsize hpage hstore hfits hadded hpages =>
      have hroom := ((h.represents i _ _ hpage hstore).hasRoom_iff record).mpr hfits
      exact
        { insufficientPageSpace_iff := by simpa [slotSize] using hsize
          heapFileFull_iff := fun _ =>
            ⟨nofun, fun hfull => absurd hroom (hfull.1 _ (List.mem_of_getElem? hpage))⟩
          error_cases := nofun
          inserted := fun _ => .inl ⟨i, page, page', hpage, hroom, hadded, hpages⟩ }
  | @created page' _ hsize hfull hlt hadded hpages =>
      exact
        { insufficientPageSpace_iff := by simpa [slotSize] using hsize
          heapFileFull_iff := fun _ => ⟨nofun, fun hcap => absurd hcap.2 (by omega)⟩
          error_cases := nofun
          inserted := fun _ => .inr ⟨h.not_hasRoom hfull, page', hadded, hpages⟩ }

end HeapFile

/-- In every heap file reachable by calls on the heap file and on its pages, an
insert terminates without a panic and keeps its promises. -/
theorem heapFile_insert_contract (capacity : Nat) (hpos : 0 < capacity) (hle : capacity ≤ 65535)
    (ops : List HeapOp) (record : List UInt8) :
    ∃ heap₀ outcomes heap result heap', HeapFile.new capacity = .ok heap₀ ∧
      heap₀.run ops = some (outcomes, heap) ∧ heap.capacity = capacity ∧
      heap.insert record = some (result, heap') ∧
      HeapFile.InsertContract heap record result heap' := by
  rcases HeapFile.new_holds hpos hle with ⟨heap₀, hnew, hholds₀⟩
  rcases HeapFile.run_holds hholds₀ ops with ⟨outcomes, heap, stores, hrun, hholds⟩
  rcases HeapFile.insert_holds hholds record with ⟨result, heap', stores', hinsert, -, hout⟩
  exact ⟨heap₀, outcomes, heap, result, heap', hnew, hrun, hholds.capacity_eq, hinsert,
    hout.contract hholds⟩

/-- A heap file of one page whose free space map was not told of a direct insert. -/
theorem heapFile_insert_contract_stale :
    ∃ heap₀ outcomes heap result heap', HeapFile.new 1 = .ok heap₀ ∧
      heap₀.run [.createPage, .page 0 (.insert (List.replicate 4000 7)), .page 0 (.delete 0)] =
        some (outcomes, heap) ∧ heap.capacity = 1 ∧
      heap.insert (List.replicate 200 9) = some (result, heap') ∧
      HeapFile.InsertContract heap (List.replicate 200 9) result heap' :=
  heapFile_insert_contract 1 (by decide) (by decide) _ _

end Storage
end TaskPool
