import TaskPool.Storage.Heap.Insert
import TaskPool.Storage.Fsm.Reports

/-!
# The free space map in step with the pages

As long as nothing is inserted behind the back of the heap file, the leaf of a page
carries exactly the bucket of its free space.  A created page is entered and an
accepted insert is reported in the same call; a delete keeps the bytes of the record,
so that it does not change the free space and need not be reported.

Main results:

- Theorem `HeapFile.insert_keeps`: what `createPage` and `insertPage` keep, `insert`
  keeps.
- Theorem `HeapFile.InStep.apply`: one call keeps map and pages in step.
- Theorem `heapFile_synchronized`: they are in step after every sequence of calls.
-/

namespace TaskPool
namespace Storage

open Library

/-- A call that is told to the free space map, or that leaves the free space alone:
any but an insert made directly on a page. -/
def HeapOp.Noticed : HeapOp → Prop
  | .createPage => True
  | .insert _ => True
  | .page _ (.insert _) => False
  | .page _ (.delete _) => True

namespace HeapFile

variable {capacity : Nat} {heap heap' : HeapFile} {stores stores' : List RecordStore}
  {record : List UInt8} {reqSpace : Nat} {excluded : Finset PageId} {pageId : PageId}
  {result : Except HeapFileError Unit}

/-! ## What an insert consists of -/

/-- The retry loop changes the heap file by creating a page and inserting into one. -/
theorem insertLoop_keeps {P : HeapFile → Prop}
    (hcreate : ∀ heap result heap', P heap → heap.createPage = some (result, heap') → P heap')
    (hinsert : ∀ heap pageId result heap', P heap →
      heap.insertPage pageId record = some (result, heap') → P heap')
    (h : P heap) (hrun : heap.insertLoop record reqSpace excluded = some (result, heap')) :
    P heap' := by
  -- the cases are those of the definition: a search that fails, one without a page, and
  -- one with a page, which is missing, unreadable, roomy or too full
  fun_induction insertLoop heap record reqSpace excluded with
  | case1 _ _ => cases hrun
  | case2 _ _ _ =>
      cases hrun
      exact h
  | case3 _ _ =>
      rcases Option.bind_eq_some_iff.mp hrun with ⟨⟨created, heap₁⟩, hcreated, hrest⟩
      have hkept := hcreate heap created heap₁ h hcreated
      cases created with
      | error e =>
          cases hrest
          exact hkept
      | ok pageId => exact hinsert heap₁ pageId result heap' hkept hrest
  | case4 _ _ _ _ _ =>
      cases hrun
      exact h
  | case5 _ _ _ _ _ _ => cases hrun
  | case6 _ pageId _ _ _ _ _ _ => exact hinsert heap pageId result heap' h hrun
  | case7 _ _ _ _ _ _ _ _ ih => exact ih hrun

/-- So does an insert. -/
theorem insert_keeps {P : HeapFile → Prop}
    (hcreate : ∀ heap result heap', P heap → heap.createPage = some (result, heap') → P heap')
    (hinsert : ∀ heap pageId result heap', P heap →
      heap.insertPage pageId record = some (result, heap') → P heap')
    (h : P heap) (hrun : heap.insert record = some (result, heap')) : P heap' := by
  rw [insert] at hrun
  split_ifs at hrun
  · cases hrun
    exact h
  · exact insertLoop_keeps hcreate hinsert h hrun

/-! ## Leaves that carry the free space -/

/-- The leaf of every page carries the bucket of the free space in the store of the page. -/
def LeavesExact (heap : HeapFile) (stores : List RecordStore) : Prop :=
  ∀ (page : PageId) store, stores[page.toNat]? = some store →
    heap.fsm.leafBucket page = FreeSpaceMap.bucketOf (4092 - store.used)

/-- Changing one store and reporting its page. -/
theorem LeavesExact.report (h : heap.LeavesExact stores) (store : RecordStore)
    (hreported : FreeSpaceMap.Reported heap.fsm pageId
      (FreeSpaceMap.bucketOf (4092 - store.used)) heap'.fsm)
    (hself : stores'[pageId.toNat]? = some store)
    (hother : ∀ i, i ≠ pageId.toNat → stores'[i]? = stores[i]?) :
    heap'.LeavesExact stores' := by
  intro page found hfound
  by_cases hpage : page = pageId
  · subst hpage
    rw [hself, Option.some_inj] at hfound
    rw [hreported.leafBucket_self, hfound]
  · rw [hreported.leafBucket_of_ne page hpage]
    rw [hother page.toNat fun heq => hpage (UInt16.toNat_inj.mp heq)] at hfound
    exact h page found hfound

/-- Changing a store without changing the space it uses. -/
theorem LeavesExact.set (h : heap.LeavesExact stores) {store store' : RecordStore}
    (hstore : stores[pageId.toNat]? = some store) (hused : store'.used = store.used)
    (hfsm : heap'.fsm = heap.fsm) : heap'.LeavesExact (stores.set pageId.toNat store') := by
  intro page found hfound
  rw [hfsm]
  by_cases hpage : page = pageId
  · subst hpage
    have hlt := (List.getElem?_eq_some_iff.mp hstore).1
    rw [List.getElem?_set_self hlt, Option.some_inj] at hfound
    rw [h page store hstore, ← hfound, hused]
  · rw [List.getElem?_set_ne fun heq => hpage (UInt16.toNat_inj.mp heq.symm)] at hfound
    exact h page found hfound

/-- The invariant: one store per page, and every leaf is exact. -/
def InStep (capacity : Nat) (heap : HeapFile) : Prop :=
  ∃ stores, Holds capacity heap stores ∧ heap.LeavesExact stores

namespace InStep

/-- A new heap file is in step with its map. -/
theorem new (hpos : 0 < capacity) (hle : capacity ≤ 65535) :
    ∃ heap, HeapFile.new capacity = .ok heap ∧ InStep capacity heap := by
  rcases new_holds hpos hle with ⟨heap, hnew, hholds⟩
  refine ⟨heap, hnew, [], hholds, ?_⟩
  intro page store hstore
  cases hstore

/-- Creating a page, or failing to, keeps heap file and map in step. -/
theorem createPage {created : Except HeapFileError PageId} (h : InStep capacity heap)
    (hrun : heap.createPage = some (created, heap')) : InStep capacity heap' := by
  rcases h with ⟨stores, hholds, hexact⟩
  have hlength := hholds.length_eq
  have hcapacity := hholds.capacity_eq
  by_cases hlt : stores.length < capacity
  · rcases createPage_holds hholds hlt with ⟨page, heap₁, hcreate, hpage, -, hreported, hholds₁⟩
    rw [hcreate, Option.some_inj, Prod.mk.injEq] at hrun
    rcases hrun with ⟨-, rfl⟩
    refine ⟨_, hholds₁, hexact.report RecordStore.empty hreported ?_ ?_⟩
    · rw [hpage, List.getElem?_concat_length]
    · intro i hi
      rw [hpage] at hi
      rcases Nat.lt_or_gt_of_ne hi with hbelow | habove
      · rw [List.getElem?_append_left hbelow]
      · rw [List.getElem?_eq_none (by simp; omega), List.getElem?_eq_none (by omega)]
  · rw [createPage_of_full (by omega), Option.some_inj, Prod.mk.injEq] at hrun
    rcases hrun with ⟨-, rfl⟩
    exact ⟨stores, hholds, hexact⟩

/-- A page changed behind the back of the map, with the same space in use. -/
theorem setPage {page' : SlottedPage} {store store' : RecordStore}
    (hholds : Holds capacity heap stores) (hexact : heap.LeavesExact stores)
    (hstore : stores[pageId.toNat]? = some store)
    (hrepresents : RecordStore.Represents page' store') (hused : store'.used = store.used) :
    InStep capacity (heap.setPage pageId page') := by
  have hlt := (List.getElem?_eq_some_iff.mp hstore).1
  refine ⟨_, hholds.replace hlt hrepresents rfl hholds.wellFormed ?_ fun _ _ => rfl,
    hexact.set hstore hused rfl⟩
  rw [hused]
  exact hholds.bucket_le pageId store hstore

/-- An attempt to put a record into a page keeps heap file and map in step. -/
theorem insertPage (h : InStep capacity heap)
    (hrun : heap.insertPage pageId record = some (result, heap')) : InStep capacity heap' := by
  rcases h with ⟨stores, hholds, hexact⟩
  have hlength := hholds.length_eq
  by_cases hlt : pageId.toNat < stores.length
  · rcases hholds.exists_page hlt with ⟨page, store, hpage, hstore, hrepresents⟩
    by_cases hfits : store.used + (record.length + 4) ≤ 4092
    · rcases insertPage_holds hholds hpage hstore hfits with
        ⟨page', heap₁, hinsert, -, -, hreported, hholds₁⟩
      rw [hinsert, Option.some_inj, Prod.mk.injEq] at hrun
      rcases hrun with ⟨-, rfl⟩
      refine ⟨_, hholds₁, hexact.report _ hreported (List.getElem?_set_self hlt) ?_⟩
      intro i hi
      rw [List.getElem?_set_ne (Ne.symm hi)]
    · -- the page refuses the record, and `?` returns before the report
      rcases RecordStore.insert_represents hrepresents record with ⟨page', hinsert, hpage'⟩
      rw [RecordStore.insert_of_not_fits hfits] at hinsert hpage'
      rw [HeapFile.insertPage, getPage_eq_ok hpage] at hrun
      simp only [hinsert, Option.bind_eq_bind, Option.bind_some] at hrun
      cases hrun
      exact setPage hholds hexact hstore hpage' rfl
  · have hnone : heap.pages[pageId.toNat]? = none := List.getElem?_eq_none (by omega)
    rw [HeapFile.insertPage, getPage, hnone] at hrun
    cases hrun
    exact ⟨stores, hholds, hexact⟩

/-- An insert keeps heap file and map in step, however many pages it tries. -/
theorem insert (h : InStep capacity heap) (hrun : heap.insert record = some (result, heap')) :
    InStep capacity heap' :=
  insert_keeps (fun _ _ _ => createPage) (fun _ _ _ _ => insertPage) h hrun

/-- One call keeps map and pages in step. -/
theorem apply {op : HeapOp} {outcome : HeapOutcome} (h : InStep capacity heap)
    (hop : op.Noticed) (hrun : heap.apply op = some (outcome, heap')) : InStep capacity heap' := by
  cases op with
  | createPage =>
      rcases Option.bind_eq_some_iff.mp hrun with ⟨⟨created, heap₁⟩, hcreate, hrest⟩
      cases hrest
      exact h.createPage hcreate
  | insert record =>
      rcases Option.bind_eq_some_iff.mp hrun with ⟨⟨result, heap₁⟩, hinsert, hrest⟩
      cases hrest
      exact h.insert hinsert
  | page pageId op =>
      cases op with
      | insert record => exact hop.elim
      | delete slot =>
          rcases h with ⟨stores, hholds, hexact⟩
          have hlength := hholds.length_eq
          by_cases hlt : pageId.toNat < stores.length
          · rcases hholds.exists_page hlt with ⟨page, store, hpage, hstore, hrepresents⟩
            rcases RecordStore.apply_represents hrepresents (.delete slot) with
              ⟨page', happly, hrepresents'⟩
            simp only [HeapFile.apply, getPage_eq_ok hpage, happly, Option.bind_eq_bind,
              Option.bind_some] at hrun
            cases hrun
            exact setPage hholds hexact hstore hrepresents' (store.used_delete slot)
          · have hnone : heap.pages[pageId.toNat]? = none := List.getElem?_eq_none (by omega)
            simp only [HeapFile.apply, getPage, hnone] at hrun
            cases hrun
            exact ⟨stores, hholds, hexact⟩

/-- So does every sequence of calls. -/
theorem run {ops : List HeapOp} {outcomes : List HeapOutcome} (h : InStep capacity heap)
    (hops : ∀ op ∈ ops, op.Noticed) (hrun : heap.run ops = some (outcomes, heap')) :
    InStep capacity heap' := by
  induction ops generalizing heap outcomes with
  | nil =>
      cases hrun
      exact h
  | cons op ops ih =>
      rw [List.forall_mem_cons] at hops
      rcases Option.bind_eq_some_iff.mp hrun with ⟨⟨outcome, heap₁⟩, happly, hrest⟩
      rcases Option.bind_eq_some_iff.mp hrest with ⟨⟨rest, heap₂⟩, hrun₂, hend⟩
      cases hend
      exact ih (h.apply hops.1 happly) hops.2 hrun₂

end InStep

/-! ## Map and pages -/

/-- The free space map agrees with the pages: the leaf of every page carries the
bucket of its free space, no other leaf is in use, and the pages fit the capacity. -/
structure Synchronized (heap : HeapFile) : Prop where
  fsm_capacity_eq : heap.fsm.capacity = heap.capacity
  leaf_eq : ∀ pageId : PageId, pageId.toNat < heap.pages.length → ∃ page freeSpace bucket,
    heap.getPage pageId = .ok page ∧ page.freeSpace = some freeSpace ∧
      FreeSpaceMap.getBucketId freeSpace.toNat = .ok bucket ∧
      heap.fsm.getLeafBucket pageId = some (.ok (some bucket))
  unregistered : ∀ i, heap.pages.length ≤ i → i < heap.capacity →
    heap.fsm.nodes[heap.capacity - 1 + i]? = some ⟨⊥, none⟩
  length_le : heap.pages.length ≤ heap.capacity

/-- A heap file in step has the exact bucket in every leaf, and nothing in the others. -/
theorem InStep.synchronized (h : InStep capacity heap) : heap.Synchronized := by
  rcases h with ⟨stores, hholds, hexact⟩
  have hlength := hholds.length_eq
  have hcapacity := hholds.capacity_eq
  have hfsm := hholds.fsm_capacity_eq
  have hle := hholds.length_le
  have hbound := hholds.capacity_le
  refine
    { fsm_capacity_eq := by omega
      leaf_eq := ?_
      unregistered := ?_
      length_le := by omega }
  · intro pageId hpageId
    rcases hholds.exists_page (show pageId.toNat < stores.length by omega) with
      ⟨page, store, hpage, hstore, hrepresents⟩
    rcases hrepresents.freeSpace_eq with ⟨free, hfree, hnat⟩
    have hleaf := hexact pageId store hstore
    refine ⟨page, free, _, getPage_eq_ok hpage, hfree,
      FreeSpaceMap.getBucketId_eq_ok (by omega), ?_⟩
    rw [FreeSpaceMap.getLeafBucket, if_neg (by omega), FreeSpaceMap.nodes_eq_some (by omega),
      ← FreeSpaceMap.leafBucket, hleaf, hnat]
    rfl
  · intro i hi hlt
    have hpage : (UInt16.ofNat i).toNat = i := toNat_ofNat_u16 (by omega)
    have hbottom := hholds.unregistered (UInt16.ofNat i) (by omega)
    rw [FreeSpaceMap.leafBucket, hpage] at hbottom
    have hnone := (hholds.wellFormed.leaf_bucket i).mpr hbottom
    rw [hcapacity, ← hfsm, FreeSpaceMap.nodes_eq_some (by omega), hbottom, hnone]

end HeapFile

/-- After every sequence of calls in which nothing is inserted behind the back of the
heap file, the free space map agrees with the pages. -/
theorem heapFile_synchronized (capacity : Nat) (hpos : 1 ≤ capacity) (hle : capacity ≤ 65535)
    (ops : List HeapOp) (hops : ∀ op ∈ ops, op.Noticed) :
    ∃ heap₀ outcomes heap, HeapFile.new capacity = .ok heap₀ ∧
      heap₀.run ops = some (outcomes, heap) ∧ heap.capacity = capacity ∧ heap.Synchronized := by
  rcases HeapFile.InStep.new hpos hle with ⟨heap₀, hnew, hstep₀⟩
  rcases hstep₀ with ⟨stores₀, hholds₀, hexact₀⟩
  rcases HeapFile.run_holds hholds₀ ops with ⟨outcomes, heap, stores, hrun, hholds⟩
  have hstep := HeapFile.InStep.run ⟨stores₀, hholds₀, hexact₀⟩ hops hrun
  exact ⟨heap₀, outcomes, heap, hnew, hrun, hholds.capacity_eq, hstep.synchronized⟩

/-- Two pages, the second created by an insert; then a delete, a record that is too
large, a page beyond the capacity, and a record for which no page has room. -/
def twoPageCalls : List HeapOp :=
  [.createPage, .insert (List.replicate 4000 7), .insert (List.replicate 600 9),
    .page 0 (.delete 0), .insert (List.replicate 4089 1), .createPage,
    .insert (List.replicate 4000 3)]

/-- The heap file and its map are in step after these calls. -/
theorem heapFile_synchronized_twoPages :
    (∀ op ∈ twoPageCalls, op.Noticed) ∧
      ∃ heap₀ outcomes heap, HeapFile.new 2 = .ok heap₀ ∧
        heap₀.run twoPageCalls = some (outcomes, heap) ∧ heap.capacity = 2 ∧
        heap.Synchronized := by
  have hops : ∀ op ∈ twoPageCalls, op.Noticed := by
    simp only [twoPageCalls, List.forall_mem_cons]
    exact ⟨trivial, trivial, trivial, trivial, trivial, trivial, trivial, by simp⟩
  exact ⟨hops, heapFile_synchronized 2 (by decide) (by decide) _ hops⟩

end Storage
end TaskPool
