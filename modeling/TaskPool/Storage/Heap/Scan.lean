import TaskPool.Storage.Heap.Insert
import Mathlib.Data.List.Perm.Basic

/-!
# Scanning a heap file

A client that keeps a log of its accepted records, and forgets a record when it
deletes its slot, knows what a scan returns: the records of the log in the order
of their addresses.

Main results:

- Definition `HeapFile.runLog`: a sequence of calls with such a log.
- Theorem `HeapFileScan.next_eq`: one call of the cursor returns the first of the
  remaining records and leaves the others.
- Theorem `heapFile_scan_yields_log`: both scans return the log, sorted, and then
  nothing.
-/

namespace TaskPool
namespace Storage

open Library

/-- A record and the address of its slot. -/
structure Stored where
  page : Nat
  slot : Nat
  record : List UInt8
deriving DecidableEq

/-- The order of the addresses. -/
def Stored.Before (a b : Stored) : Prop :=
  a.page < b.page ∨ a.page = b.page ∧ a.slot < b.slot

/-! ## The log of a client -/

namespace HeapFile

/-- The number of slots of page `i`; a page that does not exist has none. -/
def slotCountAt (heap : HeapFile) (i : Nat) : Nat :=
  (heap.pages[i]?).elim 0 fun page => page.getSlotCount.toNat

/-- The page that has gained a slot. -/
def grownPage (heap heap' : HeapFile) : Nat :=
  (List.range heap'.pages.length).findIdx fun i => heap.slotCountAt i < heap'.slotCountAt i

/-- The log after a call: an accepted record enters it under the address of the new
slot, and a deleted slot leaves it. -/
def logged (heap heap' : HeapFile) (log : List Stored) : HeapOp → HeapOutcome → List Stored
  | .insert record, .inserted (.ok _) =>
      log ++ [⟨heap.grownPage heap', heap.slotCountAt (heap.grownPage heap'), record⟩]
  | .page page (.insert record), .page (.ok (.inserted (.ok slot))) =>
      log ++ [⟨page.toNat, slot.toNat, record⟩]
  | .page page (.delete slot), .page (.ok (.deleted (.ok _))) =>
      log.filter fun stored => ¬ (stored.page = page.toNat ∧ stored.slot = slot.toNat)
  | _, _ => log

/-- Execute calls in order, keeping the log. -/
def runLog (heap : HeapFile) (log : List Stored) : List HeapOp → Option (List Stored × HeapFile)
  | [] => some (log, heap)
  | op :: ops => do
    let (outcome, heap') ← heap.apply op
    heap'.runLog (heap.logged heap' log op outcome) ops

end HeapFile

/-- No empty record is inserted. -/
def HeapOp.NonEmpty : HeapOp → Prop
  | .insert record => record ≠ []
  | .page _ (.insert record) => record ≠ []
  | _ => True

/-! ## The records of the stores in the order of their addresses -/

/-- The live records of a list of entries, the first of which is in slot `slot`. -/
def slotsFrom (page slot : Nat) : List Entry → List Stored
  | [] => []
  | entry :: entries =>
      (if entry.live then [⟨page, slot, entry.record⟩] else []) ++ slotsFrom page (slot + 1) entries

/-- The live records of a list of stores, the first of which is page `page`. -/
def pagesFrom (page : Nat) : List RecordStore → List Stored
  | [] => []
  | store :: stores => slotsFrom page 0 store.entries ++ pagesFrom (page + 1) stores

/-- The live records at or behind a cursor. -/
def remaining (stores : List RecordStore) (page slot : Nat) : List Stored :=
  match stores[page]? with
  | none => []
  | some store =>
      slotsFrom page slot (store.entries.drop slot) ++ pagesFrom (page + 1) (stores.drop (page + 1))

/-- The slot at the address holds the record. -/
def InStores (stores : List RecordStore) (stored : Stored) : Prop :=
  ∃ store, stores[stored.page]? = some store ∧ ∃ entry, store.entries[stored.slot]? = some entry ∧
    entry.live = true ∧ entry.record = stored.record

/-- The records listed from a slot on are those of the live entries behind it. -/
theorem mem_slotsFrom {page slot : Nat} {entries : List Entry} {stored : Stored} :
    stored ∈ slotsFrom page slot entries ↔ stored.page = page ∧ slot ≤ stored.slot ∧
      ∃ entry, entries[stored.slot - slot]? = some entry ∧ entry.live = true ∧
        entry.record = stored.record := by
  induction entries generalizing slot with
  | nil => simp [slotsFrom]
  | cons entry entries ih =>
      rw [slotsFrom, List.mem_append, ih]
      constructor
      · rintro (hhead | ⟨hpage, hslot, found, hfound, hlive⟩)
        · by_cases hlive : entry.live = true
          · rw [if_pos hlive, List.mem_singleton] at hhead
            subst hhead
            exact ⟨rfl, le_rfl, entry, by simp, hlive, rfl⟩
          · simp [hlive] at hhead
        · refine ⟨hpage, by omega, found, ?_, hlive⟩
          rw [show stored.slot - slot = stored.slot - (slot + 1) + 1 by omega,
            List.getElem?_cons_succ]
          exact hfound
      · rintro ⟨hpage, hslot, found, hfound, hlive, hrecord⟩
        by_cases heq : stored.slot = slot
        · left
          rw [heq, Nat.sub_self, List.getElem?_cons_zero, Option.some_inj] at hfound
          subst hfound
          rw [if_pos hlive, List.mem_singleton, ← hpage, ← heq, hrecord]
        · right
          refine ⟨hpage, by omega, found, ?_, hlive, hrecord⟩
          rw [show stored.slot - slot = stored.slot - (slot + 1) + 1 by omega,
            List.getElem?_cons_succ] at hfound
          exact hfound

/-- The records listed from a page on are those of the live entries in the pages behind it. -/
theorem mem_pagesFrom {page : Nat} {stores : List RecordStore} {stored : Stored} :
    stored ∈ pagesFrom page stores ↔ page ≤ stored.page ∧
      ∃ store, stores[stored.page - page]? = some store ∧
        ∃ entry, store.entries[stored.slot]? = some entry ∧ entry.live = true ∧
          entry.record = stored.record := by
  induction stores generalizing page with
  | nil => simp [pagesFrom]
  | cons store stores ih =>
      rw [pagesFrom, List.mem_append, mem_slotsFrom, ih]
      constructor
      · rintro (⟨hpage, -, hentry⟩ | ⟨hpage, found, hfound, hentry⟩)
        · exact ⟨hpage.ge, store, by simp [hpage], by simpa using hentry⟩
        · refine ⟨by omega, found, ?_, hentry⟩
          rw [show stored.page - page = stored.page - (page + 1) + 1 by omega,
            List.getElem?_cons_succ]
          exact hfound
      · rintro ⟨hpage, found, hfound, hentry⟩
        by_cases heq : stored.page = page
        · left
          rw [heq, Nat.sub_self, List.getElem?_cons_zero, Option.some_inj] at hfound
          subst hfound
          exact ⟨heq, Nat.zero_le _, by simpa using hentry⟩
        · right
          refine ⟨by omega, found, ?_, hentry⟩
          rw [show stored.page - page = stored.page - (page + 1) + 1 by omega,
            List.getElem?_cons_succ] at hfound
          exact hfound

/-- The records of a page are listed in the order of their slots. -/
theorem pairwise_slotsFrom (page slot : Nat) (entries : List Entry) :
    (slotsFrom page slot entries).Pairwise Stored.Before := by
  induction entries generalizing slot with
  | nil => exact List.Pairwise.nil
  | cons entry entries ih =>
      rw [slotsFrom, List.pairwise_append]
      refine ⟨?_, ih (slot + 1), ?_⟩
      · split_ifs <;> simp
      · intro a ha b hb
        rw [mem_slotsFrom] at hb
        by_cases hlive : entry.live = true
        · rw [if_pos hlive, List.mem_singleton] at ha
          subst ha
          exact .inr ⟨hb.1.symm, hb.2.1⟩
        · simp [hlive] at ha

/-- The records of the pages are listed in the order of pages and slots. -/
theorem pairwise_pagesFrom (page : Nat) (stores : List RecordStore) :
    (pagesFrom page stores).Pairwise Stored.Before := by
  induction stores generalizing page with
  | nil => exact List.Pairwise.nil
  | cons store stores ih =>
      rw [pagesFrom, List.pairwise_append]
      refine ⟨pairwise_slotsFrom page 0 _, ih (page + 1), ?_⟩
      intro a ha b hb
      rw [mem_slotsFrom] at ha
      rw [mem_pagesFrom] at hb
      exact .inl (by omega)

/-- From the first page on all records of the stores are listed. -/
theorem mem_pagesFrom_zero {stores : List RecordStore} {stored : Stored} :
    stored ∈ pagesFrom 0 stores ↔ InStores stores stored := by
  simp [mem_pagesFrom, InStores]

/-! ## Moving the cursor -/

variable {stores : List RecordStore} {store : RecordStore} {page slot : Nat}

/-- At the start of a page, all later records remain. -/
theorem remaining_zero (stores : List RecordStore) (page : Nat) :
    remaining stores page 0 = pagesFrom page (stores.drop page) := by
  unfold remaining
  cases hstore : stores[page]? with
  | none => rw [List.drop_eq_nil_of_le (List.getElem?_eq_none_iff.mp hstore), pagesFrom]
  | some store =>
      rcases List.getElem?_eq_some_iff.mp hstore with ⟨hlt, rfl⟩
      rw [List.drop_eq_getElem_cons hlt, pagesFrom]
      rfl

/-- Behind the last slot of a page, the records of the later pages remain. -/
theorem remaining_of_le (hstore : stores[page]? = some store)
    (hslot : store.entries.length ≤ slot) :
    remaining stores page slot = remaining stores (page + 1) 0 := by
  rw [remaining_zero, remaining, hstore]
  simp only [List.drop_eq_nil_of_le hslot, slotsFrom, List.nil_append]

/-- In front of a slot, its record remains when it is live, and what is behind it. -/
theorem remaining_of_lt (hstore : stores[page]? = some store) (hslot : slot < store.entries.length) :
    remaining stores page slot =
      (if (store.entries[slot]).live then [⟨page, slot, (store.entries[slot]).record⟩] else []) ++
        remaining stores page (slot + 1) := by
  rw [remaining, remaining, hstore]
  simp only
  rw [List.drop_eq_getElem_cons hslot, slotsFrom, List.append_assoc]

namespace HeapFileScan

variable {capacity : Nat} {heap : HeapFile}

/-- Behind the last page a scan returns nothing and stays where it is. -/
theorem next_of_end {pageId : PageId} {slotId : SlotId}
    (h : heap.pages.length ≤ pageId.toNat) :
    next ⟨heap, pageId, slotId⟩ = some (none, ⟨heap, pageId, slotId⟩) := by
  rw [next, if_pos h]

/-- At the end of a page the cursor moves to the next one. -/
theorem next_of_pageEnd {pageId : PageId} {slotId : SlotId} {found : SlottedPage}
    (hfound : heap.pages[pageId.toNat]? = some found) (hslot : found.getSlotCount ≤ slotId)
    (hpage : pageId.toNat + 1 < 65536) :
    next ⟨heap, pageId, slotId⟩ = next ⟨heap, UInt16.ofNat (pageId.toNat + 1), 0⟩ := by
  have hlt := (List.getElem?_eq_some_iff.mp hfound).1
  have hnext : checkedAdd pageId 1 = some (UInt16.ofNat (pageId.toNat + 1)) :=
    checkedAdd_eq_some hpage
  rw [next, if_neg (by simpa using hlt)]
  simp only [HeapFile.getPage_eq_ok hfound, if_pos hslot]
  split <;> rename_i hadd <;> rw [hnext] at hadd <;> cases hadd
  rfl

/-- In front of a slot the cursor moves behind it, and stops when it is not empty. -/
theorem next_of_slot {pageId : PageId} {slotId : SlotId} {found : SlottedPage}
    {data : List UInt8} (hfound : heap.pages[pageId.toNat]? = some found)
    (hslot : ¬ found.getSlotCount ≤ slotId) (hlt : slotId.toNat + 1 < 65536)
    (hdata : found.get slotId = some data) :
    next ⟨heap, pageId, slotId⟩ =
      if data.isEmpty then next ⟨heap, pageId, UInt16.ofNat (slotId.toNat + 1)⟩
      else some (some data, ⟨heap, pageId, UInt16.ofNat (slotId.toNat + 1)⟩) := by
  have hpage := (List.getElem?_eq_some_iff.mp hfound).1
  have hnext : checkedAdd slotId 1 = some (UInt16.ofNat (slotId.toNat + 1)) :=
    checkedAdd_eq_some hlt
  rw [next, if_neg (by simpa using hpage)]
  simp only [HeapFile.getPage_eq_ok hfound, if_neg hslot]
  split <;> rename_i hadd <;> rw [hnext] at hadd <;> cases hadd
  simp only [hdata]

/-- One call returns the first remaining record and leaves the others. -/
theorem next_eq (h : HeapFile.Holds capacity heap stores)
    (hrecords : ∀ stored, InStores stores stored → stored.record ≠ [])
    (pageId : PageId) (slotId : SlotId) :
    ∃ scan, next ⟨heap, pageId, slotId⟩ =
        some ((remaining stores pageId.toNat slotId.toNat).head?.map Stored.record, scan) ∧
      scan.heapFile = heap ∧
      remaining stores scan.pageId.toNat scan.slotId.toNat =
        (remaining stores pageId.toNat slotId.toNat).tail := by
  have hlength := h.length_eq
  have hle := h.length_le
  have hcapacity := h.capacity_le
  induction hn : stores.length - pageId.toNat generalizing pageId slotId with
  | zero =>
      have hnone : stores[pageId.toNat]? = none := List.getElem?_eq_none (by omega)
      have hremaining : remaining stores pageId.toNat slotId.toNat = [] := by
        rw [remaining, hnone]
      refine ⟨⟨heap, pageId, slotId⟩, ?_, rfl, ?_⟩
      · rw [next_of_end (by omega), hremaining]
        rfl
      · rw [hremaining]
        rfl
  | succ n ihPage =>
      rcases h.exists_page (show pageId.toNat < stores.length by omega) with
        ⟨found, store, hfound, hstore, hrepresents⟩
      have hcount := hrepresents.slotCount_eq
      have hbound := hrepresents.bounded.slotCount_le
      have hpageNext : (UInt16.ofNat (pageId.toNat + 1)).toNat = pageId.toNat + 1 :=
        toNat_ofNat_u16 (by omega)
      induction hm : store.entries.length - slotId.toNat generalizing slotId with
      | zero =>
          have hend : found.getSlotCount ≤ slotId := by
            rw [UInt16.le_iff_toNat_le]
            omega
          rw [next_of_pageEnd hfound hend (by omega), remaining_of_le hstore (by omega)]
          have ih := ihPage (UInt16.ofNat (pageId.toNat + 1)) 0 (by omega)
          rw [hpageNext] at ih
          exact ih
      | succ m ihSlot =>
          have hlt : slotId.toNat < store.entries.length := by omega
          have hinside : ¬ found.getSlotCount ≤ slotId := by
            rw [UInt16.le_iff_toNat_le]
            omega
          have hslotNext : (UInt16.ofNat (slotId.toNat + 1)).toNat = slotId.toNat + 1 :=
            toNat_ofNat_u16 (by omega)
          have hdata := hrepresents.get_eq hlt
          rw [next_of_slot hfound hinside (by omega) hdata, remaining_of_lt hstore hlt]
          have hget : store.get slotId.toNat = (store.entries[slotId.toNat]).contents.getD [] := by
            simp [RecordStore.get, RecordStore.contents, List.getElem?_eq_getElem hlt]
          cases hlive : (store.entries[slotId.toNat]).live with
          | true =>
              have hrecord : (store.entries[slotId.toNat]).record ≠ [] :=
                hrecords ⟨pageId.toNat, slotId.toNat, _⟩
                  ⟨store, hstore, _, List.getElem?_eq_getElem hlt, hlive, rfl⟩
              have hcontents : store.get slotId.toNat = (store.entries[slotId.toNat]).record := by
                rw [hget, Entry.contents, if_pos hlive]
                rfl
              rw [hcontents, if_neg (by simpa using hrecord)]
              refine ⟨_, rfl, rfl, ?_⟩
              rw [hslotNext]
              rfl
          | false =>
              have hcontents : store.get slotId.toNat = [] := by
                rw [hget, Entry.contents, if_neg (by simp [hlive])]
                rfl
              rw [hcontents, if_pos (by rfl)]
              have ih := ihSlot (UInt16.ofNat (slotId.toNat + 1)) (by omega)
              rw [hslotNext] at ih
              simpa using ih

/-- The first `k` calls return the first `k` remaining records, and nothing behind
the last one. -/
theorem collectCalls_next (h : HeapFile.Holds capacity heap stores)
    (hrecords : ∀ stored, InStores stores stored → stored.record ≠ []) (k : Nat)
    (scan : HeapFileScan) (hscan : scan.heapFile = heap) :
    collectCalls next k scan = some ((List.range k).map fun i =>
      (remaining stores scan.pageId.toNat scan.slotId.toNat)[i]?.map Stored.record) := by
  induction k generalizing scan with
  | zero => rfl
  | succ k ih =>
      subst hscan
      rcases next_eq h hrecords scan.pageId scan.slotId with ⟨scan', hnext, hheap, htail⟩
      rw [collectCalls, show scan = ⟨scan.heapFile, scan.pageId, scan.slotId⟩ from rfl, hnext]
      simp only [Option.bind_eq_bind, Option.bind_some]
      rw [ih scan' hheap, htail, List.range_succ_eq_map, List.map_cons, List.map_map]
      simp only [Option.bind_some, List.head?_eq_getElem?, Function.comp_def, List.getElem?_tail]
      rfl

end HeapFileScan

/-- Copying the records changes nothing. -/
theorem collectCalls_owned (k : Nat) (scan : HeapFileScan) :
    collectCalls OwnedAdapter.next k ⟨scan⟩ = collectCalls HeapFileScan.next k scan := by
  induction k generalizing scan with
  | zero => rfl
  | succ k ih =>
      simp only [collectCalls, OwnedAdapter.next, Option.bind_eq_bind]
      cases scan.next with
      | none => rfl
      | some found => simp [ih]

/-! ## The log holds the records of the stores -/

/-- The log lists the live records of the stores, each once, and none is empty. -/
structure Logs (stores : List RecordStore) (log : List Stored) : Prop where
  nodup : log.Nodup
  mem_iff : ∀ stored, stored ∈ log ↔ InStores stores stored
  nonEmpty : ∀ stored ∈ log, stored.record ≠ []

/-- A page that changes contributes its new records, the others what they had. -/
theorem inStores_set {i : Nat} (hi : i < stores.length) (store' : RecordStore) (stored : Stored) :
    InStores (stores.set i store') stored ↔
      (stored.page = i ∧ ∃ entry, store'.entries[stored.slot]? = some entry ∧
        entry.live = true ∧ entry.record = stored.record) ∨
      (stored.page ≠ i ∧ InStores stores stored) := by
  by_cases hpage : stored.page = i
  · simp [InStores, hpage, List.getElem?_set_self hi]
  · simp [InStores, hpage, List.getElem?_set_ne (Ne.symm hpage)]

/-- Accepting a record adds it under the next slot. -/
theorem inStores_append (hstore : stores[page]? = some store) (record : List UInt8)
    (stored : Stored) :
    InStores (stores.set page (store.append record)) stored ↔
      InStores stores stored ∨ stored = ⟨page, store.entries.length, record⟩ := by
  have hlt := (List.getElem?_eq_some_iff.mp hstore).1
  rw [inStores_set hlt]
  by_cases hpage : stored.page = page
  · have hold : InStores stores stored ↔ ∃ entry, store.entries[stored.slot]? = some entry ∧
        entry.live = true ∧ entry.record = stored.record := by
      simp [InStores, hpage, hstore]
    rw [hold]
    rcases stored with ⟨storedPage, storedSlot, storedRecord⟩
    simp only at hpage
    subst hpage
    rcases Nat.lt_trichotomy storedSlot store.entries.length with hslot | hslot | hslot
    · have hne : storedSlot ≠ store.entries.length := by omega
      simp [RecordStore.append, List.getElem?_append_left hslot, hne]
    · subst hslot
      simpa [RecordStore.append] using eq_comm
    · have hne : storedSlot ≠ store.entries.length := by omega
      have hnone : store.entries[storedSlot]? = none := List.getElem?_eq_none (by omega)
      have hnone' : (store.entries ++ [⟨record, true⟩])[storedSlot]? = none :=
        List.getElem?_eq_none (by simp; omega)
      simp [RecordStore.append, hnone, hnone', hne]
  · have hne : stored ≠ ⟨page, store.entries.length, record⟩ := by
      rintro rfl
      exact hpage rfl
    simp [hpage, hne]

/-- Deleting a slot removes exactly its record. -/
theorem inStores_delete {slot : SlotId} (hstore : stores[page]? = some store)
    (hslot : slot.toNat < store.entries.length) (stored : Stored) :
    InStores (stores.set page (store.delete slot).2) stored ↔
      InStores stores stored ∧ ¬ (stored.page = page ∧ stored.slot = slot.toNat) := by
  have hlt := (List.getElem?_eq_some_iff.mp hstore).1
  rw [inStores_set hlt, RecordStore.delete, if_pos hslot]
  by_cases hpage : stored.page = page
  · simp only [InStores, hpage, hstore, List.getElem?_modify, Option.some_inj, exists_eq_left',
      true_and, ne_eq, not_true_eq_false, false_and, or_false]
    by_cases heq : slot.toNat = stored.slot
    · simp [heq, List.getElem?_eq_getElem (show stored.slot < store.entries.length by omega)]
    · have hne : ¬ stored.slot = slot.toNat := fun h => heq h.symm
      simp [heq, hne]
  · simp [hpage]

/-- A new page contributes no record. -/
theorem inStores_append_empty (stored : Stored) :
    InStores (stores ++ [RecordStore.empty]) stored ↔ InStores stores stored := by
  unfold InStores
  rcases Nat.lt_trichotomy stored.page stores.length with hpage | hpage | hpage
  · rw [List.getElem?_append_left hpage]
  · have hnone : stores[stored.page]? = none := List.getElem?_eq_none (by omega)
    rw [hnone, hpage, List.getElem?_concat_length]
    simp [RecordStore.empty]
  · have hnone : stores[stored.page]? = none := List.getElem?_eq_none (by omega)
    have hnone' : (stores ++ [RecordStore.empty])[stored.page]? = none :=
      List.getElem?_eq_none (by simp; omega)
    rw [hnone, hnone']

namespace Logs

variable {log : List Stored} {stores' : List RecordStore}

/-- The log after a record was accepted under a new address. -/
theorem append (h : Logs stores log) {stored : Stored} (hrecord : stored.record ≠ [])
    (hnew : ¬ InStores stores stored)
    (hstores : ∀ other, InStores stores' other ↔ InStores stores other ∨ other = stored) :
    Logs stores' (log ++ [stored]) where
  nodup := by
    rw [← List.concat_eq_append, List.nodup_concat]
    exact ⟨fun hmem => hnew ((h.mem_iff stored).mp hmem), h.nodup⟩
  mem_iff other := by rw [List.mem_append, List.mem_singleton, h.mem_iff, hstores]
  nonEmpty := by
    intro other hother
    rw [List.mem_append, List.mem_singleton] at hother
    rcases hother with hother | rfl
    · exact h.nonEmpty other hother
    · exact hrecord

/-- The log after a record was accepted by the store of a page. -/
theorem append_store (h : Logs stores log) (hstore : stores[page]? = some store)
    {record : List UInt8} (hrecord : record ≠ []) :
    Logs (stores.set page (store.append record))
      (log ++ [⟨page, store.entries.length, record⟩]) := by
  refine h.append hrecord ?_ (inStores_append hstore record)
  rintro ⟨held, hheld, entry, hentry, -⟩
  simp only [hstore, Option.some_inj] at hheld
  subst hheld
  simp at hentry

/-- A new page leaves the log right. -/
theorem append_empty (h : Logs stores log) : Logs (stores ++ [RecordStore.empty]) log where
  nodup := h.nodup
  mem_iff stored := by rw [h.mem_iff, inStores_append_empty]
  nonEmpty := h.nonEmpty

/-- The log after a slot was deleted. -/
theorem delete (h : Logs stores log) {slot : SlotId} (hstore : stores[page]? = some store)
    (hslot : slot.toNat < store.entries.length) :
    Logs (stores.set page (store.delete slot).2)
      (log.filter fun stored => ¬ (stored.page = page ∧ stored.slot = slot.toNat)) where
  nodup := h.nodup.filter _
  mem_iff stored := by rw [List.mem_filter, h.mem_iff, inStores_delete hstore hslot, decide_eq_true_eq]
  nonEmpty stored hstored := h.nonEmpty stored (List.mem_filter.mp hstored).1

end Logs

namespace HeapFile

variable {capacity : Nat} {heap heap' : HeapFile} {stores' : List RecordStore} {log : List Stored}

/-- A page has a slot for every entry of its store. -/
theorem Holds.slotCountAt_eq (h : Holds capacity heap stores) (i : Nat) :
    heap.slotCountAt i = (stores[i]?).elim 0 fun store => store.entries.length := by
  have hlength := h.length_eq
  unfold slotCountAt
  by_cases hi : i < stores.length
  · rcases h.exists_page hi with ⟨found, store, hfound, hstore, hrepresents⟩
    rw [hfound, hstore]
    exact hrepresents.slotCount_eq
  · rw [List.getElem?_eq_none (show heap.pages.length ≤ i by omega),
      List.getElem?_eq_none (show stores.length ≤ i by omega)]
    rfl

/-- The page that has gained a slot is the one whose store has gained an entry. -/
theorem grownPage_eq (h : Holds capacity heap stores) (h' : Holds capacity heap' stores') {i : Nat}
    (hstore : stores'[i]? = some store)
    (hgrown : (stores[i]?).elim 0 (fun store => store.entries.length) < store.entries.length)
    (hsame : ∀ j < i, stores'[j]? = stores[j]?) : heap.grownPage heap' = i := by
  have hlength := h'.length_eq
  have hi := (List.getElem?_eq_some_iff.mp hstore).1
  rw [grownPage, List.findIdx_eq (by simp; omega)]
  simp only [List.getElem_range, decide_eq_true_eq, decide_eq_false_iff_not, h.slotCountAt_eq,
    h'.slotCountAt_eq]
  refine ⟨by simpa [hstore] using hgrown, ?_⟩
  intro j hj
  rw [hsame j hj]
  exact lt_irrefl _

/-- The log stays right with an insert, whichever page takes the record. -/
theorem logs_insert (h : Holds capacity heap stores) (h' : Holds capacity heap' stores')
    (hlog : Logs stores log) {record : List UInt8} (hrecord : record ≠ [])
    {result : Except HeapFileError Unit}
    (hout : InsertOutcome heap stores record result heap' stores') :
    Logs stores' (heap.logged heap' log (.insert record) (.inserted result)) := by
  cases hout with
  | tooLarge hsize => exact hlog
  | full hsize hfull hlength => exact hlog
  | @existing i page page' store _ hsize hpage hstore hfits hadded hpages =>
      have hlt := (List.getElem?_eq_some_iff.mp hstore).1
      have hgrown : heap.grownPage heap' = i := by
        apply grownPage_eq h h' (List.getElem?_set_self hlt)
        · simp [hstore, RecordStore.append]
        · intro j hj
          rw [List.getElem?_set_ne (by omega)]
      simp only [logged, hgrown, h.slotCountAt_eq, hstore]
      exact hlog.append_store hstore hrecord
  | @created page' _ hsize hfull hlength hadded hpages =>
      have hnone : stores[stores.length]? = none := List.getElem?_eq_none le_rfl
      have hgrown : heap.grownPage heap' = stores.length := by
        apply grownPage_eq h h' List.getElem?_concat_length
        · simp [RecordStore.append]
        · intro j hj
          rw [List.getElem?_append_left hj]
      have hset : stores ++ [RecordStore.empty.append record] =
          (stores ++ [RecordStore.empty]).set stores.length (RecordStore.empty.append record) := by
        rw [List.set_append_right _ _ le_rfl, Nat.sub_self, List.set_cons_zero]
      simp only [logged, hgrown, h.slotCountAt_eq, hnone, hset]
      exact hlog.append_empty.append_store List.getElem?_concat_length hrecord

/-- The log stays right with an operation on a single page. -/
theorem logs_page (h : Holds capacity heap stores) (hlog : Logs stores log) {pageId : PageId}
    {op : PageOp} (hop : HeapOp.NonEmpty (.page pageId op))
    (hstore : stores[pageId.toNat]? = some store) :
    Logs (stores.set pageId.toNat (store.apply op).2)
      (heap.logged heap' log (.page pageId op) (.page (.ok (store.apply op).1))) := by
  rcases h.exists_page (List.getElem?_eq_some_iff.mp hstore).1 with
    ⟨found, held, -, hheld, hrepresents⟩
  rw [hstore, Option.some_inj] at hheld
  subst hheld
  have hcount := hrepresents.slotCount_eq
  have hbound := hrepresents.bounded.slotCount_le
  have hsame : stores.set pageId.toNat store = stores := by
    rcases List.getElem?_eq_some_iff.mp hstore with ⟨hlt, rfl⟩
    exact List.set_getElem_self hlt
  cases op with
  | insert record =>
      by_cases hfits : store.used + (record.length + 4) ≤ 4092
      · simp only [RecordStore.apply, RecordStore.insert_of_fits hfits, logged]
        rw [toNat_ofNat_u16 (by omega)]
        exact hlog.append_store hstore hop
      · simp only [RecordStore.apply, RecordStore.insert_of_not_fits hfits, logged, hsame]
        exact hlog
  | delete slot =>
      by_cases hslot : slot.toNat < store.entries.length
      · have hresult : (store.delete slot).1 = .ok () := by rw [RecordStore.delete, if_pos hslot]
        simp only [RecordStore.apply, hresult, logged]
        exact hlog.delete hstore hslot
      · have hresult : store.delete slot = (.error ⟨.invalidInput, "Slot doesn't exist..."⟩, store) := by
          rw [RecordStore.delete, if_neg hslot]
        simp only [RecordStore.apply, hresult, logged, hsame]
        exact hlog

/-- One call keeps the log in step with the stores. -/
theorem logs_apply (h : Holds capacity heap stores) (h' : Holds capacity heap' stores')
    (hlog : Logs stores log) {op : HeapOp} (hop : op.NonEmpty) {outcome : HeapOutcome}
    (hout : ApplyOutcome heap stores op outcome heap' stores') :
    Logs stores' (heap.logged heap' log op outcome) := by
  cases hout with
  | createFull => exact hlog
  | created hpage hpages => exact hlog.append_empty
  | inserted hout => exact logs_insert h h' hlog hop hout
  | @noPage page op hpage => cases op <;> exact hlog
  | page hstore => exact logs_page h hlog hop hstore

/-- Every sequence of calls keeps the log in step with the stores. -/
theorem runLog_logs (h : Holds capacity heap stores) (hlog : Logs stores log) (ops : List HeapOp)
    (hops : ∀ op ∈ ops, op.NonEmpty) :
    ∃ log' heap' stores', heap.runLog log ops = some (log', heap') ∧
      Holds capacity heap' stores' ∧ Logs stores' log' := by
  induction ops generalizing heap stores log with
  | nil => exact ⟨log, heap, stores, rfl, h, hlog⟩
  | cons op ops ih =>
      rcases apply_holds h op with ⟨outcome, heap₁, stores₁, happly, hholds, hout⟩
      have hlog₁ := logs_apply h hholds hlog (hops op List.mem_cons_self) hout
      rcases ih hholds hlog₁ (fun op hop => hops op (List.mem_cons_of_mem _ hop)) with
        ⟨log', heap', stores', hrun, hholds', hlog'⟩
      exact ⟨log', heap', stores', by simp [runLog, happly, hrun], hholds', hlog'⟩

end HeapFile

/-- After every sequence of calls that insert no empty record, both scans return
the records of the log, each once and in the order of their addresses, and then
nothing on every later call. -/
theorem heapFile_scan_yields_log (capacity : Nat) (hpos : 0 < capacity) (hle : capacity ≤ 65535)
    (ops : List HeapOp) (hops : ∀ op ∈ ops, op.NonEmpty) :
    ∃ heap₀ log heap items, HeapFile.new capacity = .ok heap₀ ∧
      heap₀.runLog [] ops = some (log, heap) ∧
      List.Perm items log ∧ items.Pairwise Stored.Before ∧
      ∀ k, collectCalls HeapFileScan.next k heap.scan =
          some ((List.range k).map fun i => items[i]?.map Stored.record) ∧
        collectCalls OwnedAdapter.next k heap.scanOwned =
          some ((List.range k).map fun i => items[i]?.map Stored.record) := by
  rcases HeapFile.new_holds hpos hle with ⟨heap₀, hnew, hholds₀⟩
  have hlog₀ : Logs [] [] :=
    { nodup := List.nodup_nil
      mem_iff := by simp [InStores]
      nonEmpty := by simp }
  rcases HeapFile.runLog_logs hholds₀ hlog₀ ops hops with
    ⟨log, heap, stores, hrun, hholds, hlog⟩
  have hsorted := pairwise_pagesFrom 0 stores
  have hnodup : (pagesFrom 0 stores).Nodup := hsorted.imp fun {a b} hab => by
    rintro rfl
    unfold Stored.Before at hab
    omega
  have hscan : ∀ k, collectCalls HeapFileScan.next k heap.scan =
      some ((List.range k).map fun i => (pagesFrom 0 stores)[i]?.map Stored.record) := by
    intro k
    have hcalls := HeapFileScan.collectCalls_next hholds
      (fun stored hstored => hlog.nonEmpty stored ((hlog.mem_iff stored).mpr hstored)) k
      heap.scan rfl
    rw [show remaining stores heap.scan.pageId.toNat heap.scan.slotId.toNat = pagesFrom 0 stores from
      remaining_zero stores 0] at hcalls
    exact hcalls
  refine ⟨heap₀, log, heap, pagesFrom 0 stores, hnew, hrun, ?_, hsorted, fun k => ⟨hscan k, ?_⟩⟩
  · rw [List.perm_ext_iff_of_nodup hnodup hlog.nodup]
    intro stored
    rw [mem_pagesFrom_zero, hlog.mem_iff]
  · rw [HeapFile.scanOwned, collectCalls_owned, hscan]

/-- Two records, the first of which is deleted again. -/
theorem heapFile_scan_yields_log_deleted :
    ∃ heap₀ log heap items, HeapFile.new 2 = .ok heap₀ ∧
      heap₀.runLog [] [.insert [1, 2], .insert [3], .page 0 (.delete 0)] = some (log, heap) ∧
      List.Perm items log ∧ items.Pairwise Stored.Before ∧
      ∀ k, collectCalls HeapFileScan.next k heap.scan =
          some ((List.range k).map fun i => items[i]?.map Stored.record) ∧
        collectCalls OwnedAdapter.next k heap.scanOwned =
          some ((List.range k).map fun i => items[i]?.map Stored.record) := by
  refine heapFile_scan_yields_log 2 (by decide) (by decide) _ ?_
  simp [HeapOp.NonEmpty]

end Storage
end TaskPool
