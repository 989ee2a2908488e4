import TaskPool.Library.Packing
import TaskPool.Storage.Fsm.ReportTable
import TaskPool.Storage.Heap.Insert

/-!
# Where a record goes

The search of the free space map with its retries is a first fit: the record goes to the
first page, in the order of the leaves, with room for it.  A page is created only for a
record that fits nowhere else, so any two pages hold more than one page can.

Main results:

- Theorem `insertLoop_eq_place`: the retry loop is a scan of the pages.
- Theorem `heapFile_insert_first_fit`: in every reachable heap file, `insert` is first fit.
- Theorem `heapFile_half_full`: without `create_page`, a heap file has fewer than twice as
  many pages as any packing of the accepted records.
-/

namespace TaskPool
namespace Storage

open Library

namespace HeapFile

variable {capacity : Nat} {heap heap' : HeapFile} {stores stores' : List RecordStore}
  {record : List UInt8} {excluded : Finset PageId}

/-! ## First fit -/

/-- The page has enough free bytes for the record and its slot. -/
def fits (heap : HeapFile) (record : List UInt8) (pageId : PageId) : Bool :=
  (heap.pages[pageId.toNat]?).any fun page =>
    page.freeSpace.any fun free => decide (record.length + slotSize ≤ free.toNat)

/-- The first page with room, in the order of the leaves. -/
def firstFit (heap : HeapFile) (record : List UInt8) : Option PageId :=
  heap.fsm.table.pages.find? (heap.fits record)

/-- Put a record into a page, or into a new one. -/
def place (heap : HeapFile) (record : List UInt8) :
    Option PageId → Option (Except HeapFileError Unit × HeapFile)
  | some pageId => heap.insertPage pageId record
  | none => do
    let created ← heap.createPage
    match created.1 with
    | .error e => some (.error e, created.2)
    | .ok pageId => created.2.insertPage pageId record

/-- A page of a heap file has room when its store has. -/
theorem Holds.fits_iff (h : Holds capacity heap stores) {pageId : PageId} :
    heap.fits record pageId = true ↔
      ∃ store, stores[pageId.toNat]? = some store ∧ store.used + (record.length + 4) ≤ 4092 := by
  have hlength := h.length_eq
  unfold fits
  by_cases hlt : pageId.toNat < stores.length
  · rcases h.exists_page hlt with ⟨page, store, hpage, hstore, hrepresents⟩
    rcases hrepresents.freeSpace_eq with ⟨free, hfree, hnat⟩
    have hused := hrepresents.used_le
    simp only [hpage, hfree, hstore, Option.any_some, decide_eq_true_eq, slotSize, Option.some_inj,
      exists_eq_left']
    omega
  · rw [List.getElem?_eq_none (by omega), List.getElem?_eq_none (by omega)]
    simp

/-- A page that the map does not offer has no room. -/
theorem Holds.fits_eq_false (h : Holds capacity heap stores)
    (hexcluded : ∀ page ∈ excluded, heap.fits record page = false) {pageId : PageId}
    (hoffered : ¬ (pageId ∉ excluded ∧
      (FreeSpaceMap.bucketOf (record.length + 4) : WithBot Bucket) ≤ heap.fsm.leafBucket pageId)) :
    heap.fits record pageId = false := by
  by_cases hmem : pageId ∈ excluded
  · exact hexcluded pageId hmem
  · have hlow := not_and.mp hoffered hmem
    by_contra hfits
    rw [Bool.not_eq_false, h.fits_iff] at hfits
    rcases hfits with ⟨store, hstore, hroom⟩
    apply hlow
    refine le_trans ?_ (h.bucket_le pageId store hstore)
    rw [WithBot.coe_le_coe]
    exact FreeSpaceMap.bucketOf_mono (by omega) (by omega)

/-- The retry loop is a scan of the pages: pages that the map does not offer have no
room, and an offered page without room is passed over. -/
theorem insertLoop_eq_place (h : Holds capacity heap stores) (hsize : record.length + 4 ≤ 4092)
    (hexcluded : ∀ page ∈ excluded, heap.fits record page = false) :
    heap.insertLoop record (record.length + 4) excluded =
      heap.place record (heap.firstFit record) := by
  induction hn : 65536 - excluded.card using Nat.strong_induction_on generalizing excluded with
  | _ n ih =>
      have hfind := FreeSpaceMap.findPageExcluding_eq_firstPage h.wellFormed
        (show record.length + 4 < 4096 by omega) excluded
      have hpages := h.wellFormed.firstPage_eq (FreeSpaceMap.bucketOf (record.length + 4)) excluded
      cases hfirst : heap.fsm.firstPage (FreeSpaceMap.bucketOf (record.length + 4)) excluded with
      | none =>
          rw [hfirst] at hfind hpages
          have hnone : heap.firstFit record = none := by
            refine List.find?_eq_none.mpr fun page hpage => ?_
            have hoffered := List.find?_eq_none.mp hpages.symm page hpage
            rw [decide_eq_true_eq] at hoffered
            rw [h.fits_eq_false hexcluded hoffered]
            exact Bool.false_ne_true
          rw [insertLoop_of_none hfind, hnone]
          rfl
      | some pageId =>
          rw [hfirst] at hfind hpages
          rcases List.find?_eq_some_iff_append.mp hpages.symm with ⟨-, before, after, horder, hbefore⟩
          have hlt := h.lt_of_firstPage hfirst
          rcases h.exists_page hlt with ⟨found, store, hfound, hstore, hrepresents⟩
          rcases hrepresents.freeSpace_eq with ⟨free, hfree, hnat⟩
          have hused := hrepresents.used_le
          rw [insertLoop_of_some hfind hfound hfree]
          by_cases hfits : heap.fits record pageId = true
          · have hsome : heap.firstFit record = some pageId := by
              refine List.find?_eq_some_iff_append.mpr ⟨hfits, before, after, horder, ?_⟩
              intro page hpage
              have hoffered := hbefore page hpage
              rw [Bool.not_eq_true', decide_eq_false_iff_not] at hoffered
              rw [h.fits_eq_false hexcluded hoffered, Bool.not_false]
            rw [h.fits_iff, hstore] at hfits
            rcases hfits with ⟨_, heq, hroom⟩
            cases heq
            rw [if_pos (by omega), hsome]
            rfl
          · -- a false positive of the map
            have hmem := (FreeSpaceMap.firstPage_eq_some h.wellFormed hfirst).2.1
            have hcard := Finset.card_insert_of_notMem hmem
            have hle := card_pageIds_le (Insert.insert pageId excluded)
            have hroom : ¬ store.used + (record.length + 4) ≤ 4092 := fun hroom =>
              hfits (h.fits_iff.mpr ⟨store, hstore, hroom⟩)
            rw [if_neg (by omega)]
            refine ih _ (by omega) ?_ rfl
            intro page hpage
            rcases Finset.mem_insert.mp hpage with rfl | hpage
            · exact Bool.eq_false_iff.mpr hfits
            · exact hexcluded page hpage

/-- Whatever the map offers on the way, a record that is not too large goes where first fit
puts it. -/
theorem insert_eq_place (h : Holds capacity heap stores) (record : List UInt8) :
    heap.insert record =
      if record.length + slotSize > maxAvailableSlottedPageSpace then
        some (.error .insufficientPageSpace, heap)
      else heap.place record (heap.firstFit record) := by
  rw [insert]
  by_cases hsize : record.length + 4 ≤ 4092
  · have hplace := insertLoop_eq_place h hsize (show ∀ page ∈ ∅, heap.fits record page = false from
      fun _ hpage => absurd hpage (Finset.notMem_empty _))
    simp only [slotSize, maxAvailableSlottedPageSpace, pageSize, headerSize]
    rw [if_neg (by omega), if_neg (by omega), hplace]
  · simp only [slotSize, maxAvailableSlottedPageSpace, pageSize, headerSize]
    rw [if_pos (by omega), if_pos (by omega)]

end HeapFile

/-- In every heap file reachable by calls on it and on its pages, `insert` with its
search of the free space map, its false positives and its retries does what a scan of all
pages does: it puts the record into the first page with room, or else into a new one.  The
scan follows the leaves of the map; for a capacity that is a power of two that is the
order of the page ids. -/
theorem heapFile_insert_first_fit (capacity : Nat) (hpos : 0 < capacity) (hle : capacity ≤ 65535)
    (ops : List HeapOp) (record : List UInt8) :
    ∃ heap₀ outcomes heap, HeapFile.new capacity = .ok heap₀ ∧
      heap₀.run ops = some (outcomes, heap) ∧
      heap.insert record =
        (if record.length + slotSize > maxAvailableSlottedPageSpace then
          some (.error .insufficientPageSpace, heap)
        else heap.place record (heap.firstFit record)) ∧
      ∀ e, capacity = 2 ^ e → heap.fsm.table.pages.Pairwise (· < ·) := by
  rcases HeapFile.new_holds hpos hle with ⟨heap₀, hnew, hholds₀⟩
  rcases HeapFile.run_holds hholds₀ ops with ⟨outcomes, heap, stores, hrun, hholds⟩
  refine ⟨heap₀, outcomes, heap, hnew, hrun, HeapFile.insert_eq_place hholds record, fun e he => ?_⟩
  have hcapacity : heap.fsm.table.capacity = 2 ^ e := hholds.fsm_capacity_eq.trans he
  exact heap.fsm.table.pairwise_pages hcapacity

/-- A heap file of two pages; the map still offers the first one, which is too full. -/
theorem heapFile_insert_first_fit_retried :
    ∃ heap₀ outcomes heap, HeapFile.new 2 = .ok heap₀ ∧
      heap₀.run [.createPage, .createPage, .page 0 (.insert (List.replicate 4000 7))] =
        some (outcomes, heap) ∧
      heap.insert (List.replicate 200 9) =
        (if (List.replicate 200 (9 : UInt8)).length + slotSize > maxAvailableSlottedPageSpace then
          some (.error .insufficientPageSpace, heap)
        else heap.place (List.replicate 200 9) (heap.firstFit (List.replicate 200 9))) ∧
      ∀ e, 2 = 2 ^ e → heap.fsm.table.pages.Pairwise (· < ·) :=
  heapFile_insert_first_fit 2 (by decide) (by decide)
    [.createPage, .createPage, .page 0 (.insert (List.replicate 4000 7))] (List.replicate 200 9)

/-! ## How full the pages are -/

/-- The bytes that a call takes for a record it accepts. -/
def acceptedSize : HeapOp → HeapOutcome → Option Nat
  | .insert record, .inserted (.ok _) => some (record.length + slotSize)
  | .page _ (.insert record), .page (.ok (.inserted (.ok _))) => some (record.length + slotSize)
  | _, _ => none

/-- The bytes that the calls of a run take for the records they accept. -/
def acceptedSizes : List HeapOp → List HeapOutcome → List Nat
  | op :: ops, outcome :: outcomes => (acceptedSize op outcome).toList ++ acceptedSizes ops outcomes
  | _, _ => []

namespace HeapFile

variable {capacity : Nat} {heap heap' : HeapFile} {stores stores' : List RecordStore}
  {record : List UInt8}

/-- The bytes handed out in the pages. -/
def loads (stores : List RecordStore) : List Nat := stores.map RecordStore.used

/-- No page is empty, and any two of them hold more than one page can. -/
structure Crowded (stores : List RecordStore) : Prop where
  pos : ∀ store ∈ stores, 0 < store.used
  pairwise : stores.Pairwise fun store store' => 4092 < store.used + store'.used

/-- A page that fills up keeps the pages crowded. -/
theorem Crowded.set (h : Crowded stores) {i : Nat} {store store' : RecordStore}
    (hstore : stores[i]? = some store) (hused : store.used ≤ store'.used) :
    Crowded (stores.set i store') where
  pos := by
    intro other hother
    rcases List.mem_or_eq_of_mem_set hother with hmem | rfl
    · exact h.pos other hmem
    · exact (h.pos store (List.mem_of_getElem? hstore)).trans_le hused
  pairwise := by
    have hpair := h.pairwise
    rw [List.pairwise_iff_getElem] at hpair ⊢
    intro j k hj hk hlt
    rw [List.length_set] at hj hk
    have hpages := hpair j k hj hk hlt
    rcases List.getElem?_eq_some_iff.mp hstore with ⟨hi, hget⟩
    rw [List.getElem_set, List.getElem_set]
    split_ifs with hij hik hik
    · omega
    · subst hij
      rw [hget] at hpages
      omega
    · subst hik
      rw [hget] at hpages
      omega
    · exact hpages

/-- A page is created for a record that fits nowhere else. -/
theorem Crowded.append (h : Crowded stores)
    (hfull : ∀ store ∈ stores, 4092 < store.used + (record.length + 4)) :
    Crowded (stores ++ [RecordStore.empty.append record]) where
  pos := by
    intro other hother
    rw [List.mem_append, List.mem_singleton] at hother
    rcases hother with hmem | rfl
    · exact h.pos other hmem
    · rw [RecordStore.used_append]
      omega
  pairwise := by
    rw [List.pairwise_append]
    refine ⟨h.pairwise, List.pairwise_singleton _ _, fun store hstore other hother => ?_⟩
    rw [List.mem_singleton.mp hother, RecordStore.used_append]
    have hroom := hfull store hstore
    omega

/-- The loads grow by what is put into one page. -/
theorem sum_loads_set {i : Nat} {store store' : RecordStore} {size : Nat}
    (hstore : stores[i]? = some store) (hused : store'.used = store.used + size) :
    (loads (stores.set i store')).sum = (loads stores).sum + size := by
  induction stores generalizing i with
  | nil => cases hstore
  | cons first rest ih =>
      cases i with
      | zero =>
          rw [List.getElem?_cons_zero, Option.some_inj] at hstore
          subst hstore
          simp only [loads, List.set_cons_zero, List.map_cons, List.sum_cons, hused]
          omega
      | succ i =>
          rw [List.getElem?_cons_succ] at hstore
          have hrest := ih hstore
          simp only [loads, List.set_cons_succ, List.map_cons, List.sum_cons] at hrest ⊢
          omega

/-- What a page call does to the bytes handed out. -/
theorem used_apply (store : RecordStore) (pageId : PageId) (op : PageOp) :
    (store.apply op).2.used =
      store.used + ((acceptedSize (.page pageId op) (.page (.ok (store.apply op).1))).toList).sum := by
  cases op with
  | insert record =>
      by_cases hfits : store.used + (record.length + 4) ≤ 4092
      · simp only [RecordStore.apply, RecordStore.insert_of_fits hfits, RecordStore.used_append,
          acceptedSize, slotSize, Option.toList_some, List.sum_singleton]
      · simp only [RecordStore.apply, RecordStore.insert_of_not_fits hfits, acceptedSize,
          Option.toList_none, List.sum_nil, Nat.add_zero]
  | delete slot =>
      simp only [RecordStore.apply, RecordStore.used_delete, acceptedSize, Option.toList_none,
        List.sum_nil, Nat.add_zero]

/-- A call other than `create_page` keeps the pages crowded, and hands out what it
accepts. -/
theorem ApplyOutcome.crowded {op : HeapOp} {outcome : HeapOutcome}
    (hout : ApplyOutcome heap stores op outcome heap' stores') (hop : op ≠ .createPage)
    (h : Crowded stores) : Crowded stores' ∧
      (loads stores').sum = (loads stores).sum + ((acceptedSize op outcome).toList).sum := by
  cases hout with
  | createFull | created => exact absurd rfl hop
  | inserted hinsert =>
      cases hinsert with
      | tooLarge | full => exact ⟨h, by simp [acceptedSize]⟩
      | existing hsize hpage hstore hfits =>
          have hused := RecordStore.used_append
          refine ⟨h.set hstore (by rw [hused]; omega), ?_⟩
          rw [sum_loads_set hstore (hused _ _)]
          simp [acceptedSize]
      | created hsize hfull =>
          have hempty : RecordStore.empty.used = 0 := rfl
          refine ⟨h.append hfull, ?_⟩
          rw [loads, List.map_append, List.sum_append, List.map_singleton, List.sum_singleton,
            RecordStore.used_append, hempty]
          simp [acceptedSize, loads]
  | noPage => exact ⟨h, by simp [acceptedSize]⟩
  | @page pageId op newPage store hstore =>
      have hused := used_apply store pageId op
      exact ⟨h.set hstore (by omega), sum_loads_set hstore hused⟩

/-- So does every sequence of such calls. -/
theorem run_crowded (hholds : Holds capacity heap stores) (h : Crowded stores) {ops : List HeapOp}
    (hops : .createPage ∉ ops) :
    ∃ outcomes heap' stores', heap.run ops = some (outcomes, heap') ∧
      Holds capacity heap' stores' ∧ Crowded stores' ∧
      (loads stores').sum = (loads stores).sum + (acceptedSizes ops outcomes).sum := by
  induction ops generalizing heap stores with
  | nil => exact ⟨[], heap, stores, rfl, hholds, h, rfl⟩
  | cons op ops ih =>
      rw [List.mem_cons, not_or] at hops
      rcases apply_holds hholds op with ⟨outcome, heap₁, stores₁, happly, hholds₁, hout⟩
      rcases hout.crowded (Ne.symm hops.1) h with ⟨hcrowded, hsum⟩
      rcases ih hholds₁ hcrowded hops.2 with
        ⟨outcomes, heap₂, stores₂, hrun, hholds₂, hcrowded₂, hsum₂⟩
      refine ⟨outcome :: outcomes, heap₂, stores₂, by simp [run, happly, hrun], hholds₂,
        hcrowded₂, ?_⟩
      rw [hsum₂, hsum, acceptedSizes, List.sum_append, Nat.add_assoc]

/-- The pages of a heap file against the records it has accepted. -/
structure HalfFull (heap : HeapFile) (sizes : List Nat) : Prop where
  two_pages : ∀ (i j : Nat) (page page' : SlottedPage) (free free' : UInt16), i ≠ j →
    heap.pages[i]? = some page → heap.pages[j]? = some page' → page.freeSpace = some free →
    page'.freeSpace = some free' → free.toNat + free'.toNat < 4092
  below_twice : ∀ packing : List (List Nat), packing.flatten.Perm sizes →
    (∀ page ∈ packing, page.sum ≤ 4092) → heap.pages.length ≤ 2 * packing.length - 1

/-- Crowded pages leave less than one page free in any two of them, and are fewer than twice
those of any packing. -/
theorem Crowded.halfFull (h : Crowded stores) (hholds : Holds capacity heap stores)
    {sizes : List Nat} (hsum : (loads stores).sum = sizes.sum) : heap.HalfFull sizes where
  two_pages := by
    intro i j page page' free free' hne hpage hpage' hfree hfree'
    have hlength := hholds.length_eq
    have hi := (List.getElem?_eq_some_iff.mp hpage).1
    have hj := (List.getElem?_eq_some_iff.mp hpage').1
    have hstore := List.getElem?_eq_getElem (show i < stores.length by omega)
    have hstore' := List.getElem?_eq_getElem (show j < stores.length by omega)
    have hpair : 4092 < stores[i].used + stores[j].used := by
      have hpairwise := List.pairwise_iff_getElem.mp h.pairwise
      rcases Nat.lt_or_gt_of_ne hne with hlt | hlt
      · exact hpairwise i j _ _ hlt
      · rw [Nat.add_comm]
        exact hpairwise j i _ _ hlt
    rcases (hholds.represents i _ _ hpage hstore).freeSpace_eq with ⟨found, hfound, hnat⟩
    rcases (hholds.represents j _ _ hpage' hstore').freeSpace_eq with ⟨found', hfound', hnat'⟩
    rw [hfree, Option.some_inj] at hfound
    rw [hfree', Option.some_inj] at hfound'
    subst hfound hfound'
    have hused := (hholds.represents i _ _ hpage hstore).used_le
    have hused' := (hholds.represents j _ _ hpage' hstore').used_le
    omega
  below_twice := by
    intro packing hperm hfits
    have hpair : (loads stores).Pairwise fun load load' => 4092 < load + load' := by
      rw [loads, List.pairwise_map]
      exact h.pairwise
    have hpos : ∀ load ∈ loads stores, 0 < load := by
      intro load hload
      rcases List.mem_map.mp hload with ⟨store, hstore, rfl⟩
      exact h.pos store hstore
    have hlength := length_le_of_packing hpair hpos hsum hperm hfits
    rwa [loads, List.length_map, ← hholds.length_eq] at hlength

end HeapFile

/-- In every run of `insert` and of calls on single pages, any two pages have less than one
page free together, and the heap file has fewer than twice as many pages as any packing of
the accepted records needs. -/
theorem heapFile_half_full (capacity : Nat) (hpos : 0 < capacity) (hle : capacity ≤ 65535)
    (ops : List HeapOp) (hops : .createPage ∉ ops) :
    ∃ heap₀ outcomes heap, HeapFile.new capacity = .ok heap₀ ∧
      heap₀.run ops = some (outcomes, heap) ∧ heap.HalfFull (acceptedSizes ops outcomes) := by
  rcases HeapFile.new_holds hpos hle with ⟨heap₀, hnew, hholds₀⟩
  have hempty : HeapFile.Crowded [] := ⟨nofun, List.Pairwise.nil⟩
  rcases HeapFile.run_crowded hholds₀ hempty hops with
    ⟨outcomes, heap, stores, hrun, hholds, hcrowded, hsum⟩
  exact ⟨heap₀, outcomes, heap, hnew, hrun, hcrowded.halfFull hholds (by simpa [HeapFile.loads] using hsum)⟩

/-- Three large records, a small one and a deletion, which frees no bytes. -/
theorem heapFile_half_full_threePages :
    ∃ heap₀ outcomes heap, HeapFile.new 4 = .ok heap₀ ∧
      heap₀.run [.insert (List.replicate 3000 7), .insert (List.replicate 3000 8),
        .page 0 (.delete 0), .insert (List.replicate 2000 9), .insert (List.replicate 500 1)] =
          some (outcomes, heap) ∧
      heap.HalfFull (acceptedSizes [.insert (List.replicate 3000 7),
        .insert (List.replicate 3000 8), .page 0 (.delete 0), .insert (List.replicate 2000 9),
        .insert (List.replicate 500 1)] outcomes) :=
  heapFile_half_full 4 (by decide) (by decide) _ (by
    simp only [List.mem_cons, List.not_mem_nil, reduceCtorEq, or_self, not_false_eq_true])

end Storage
end TaskPool
