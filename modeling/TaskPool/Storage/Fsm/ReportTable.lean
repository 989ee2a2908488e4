import TaskPool.Library.ByteBuffer
import TaskPool.Storage.Fsm.Reports
import Mathlib.Data.Finset.Lattice.Fold

/-!
# The free space map as a table

What the map is for is a table with one bucket per page.  The tree adds nothing to it: its
nodes are a function of the table, and every request is answered from the table alone.

Main results:

- Definition `ReportTable.serve`: the answers of the table.
- Definition `ReportTable.toMap`: the tree of a table.
- Theorem `WellFormed.eq_toMap`: a well-formed map is the tree of its own table.
- Theorem `map_refines_table`: every sequence of requests is answered as by the table, and
  leaves behind the tree of the table.
-/

namespace TaskPool
namespace Storage

open Library

/-- The requests to a free space map. -/
inductive MapRequest where
  | register (pageId : PageId) (freeSpace : Nat)
  | update (pageId : PageId) (freeSpace : Nat)
  | find (requiredSpace : Nat)
  | findExcluding (requiredSpace : Nat) (excluded : Finset PageId)
  | leafBucket (pageId : PageId)
  | root
  | len
  | capacity

/-- The answers of a free space map. -/
inductive MapAnswer where
  | reported (result : Except FreeSpaceMapError Bucket)
  | found (result : Except FreeSpaceMapError (Option PageId))
  | bucket (result : Except FreeSpaceMapError (Option Bucket))
  | node (root : Node)
  | number (n : Nat)

/-- Serve one request after the other; `none` when one of them panics. -/
def serveAll {σ : Type} (serve : σ → MapRequest → Option (MapAnswer × σ)) :
    σ → List MapRequest → Option (List MapAnswer × σ)
  | s, [] => some ([], s)
  | s, request :: requests => do
    let first ← serve s request
    let rest ← serveAll serve first.2 requests
    some (first.1 :: rest.1, rest.2)

/-- Serve a request from the tree. -/
def FreeSpaceMap.serve (fsm : FreeSpaceMap) : MapRequest → Option (MapAnswer × FreeSpaceMap)
  | .register pageId freeSpace => (fsm.registerPage pageId freeSpace).map (Prod.map .reported id)
  | .update pageId freeSpace => (fsm.updatePage pageId freeSpace).map (Prod.map .reported id)
  | .find requiredSpace => (fsm.findPage requiredSpace).map fun result => (.found result, fsm)
  | .findExcluding requiredSpace excluded =>
    (fsm.findPageExcluding requiredSpace excluded).map fun result => (.found result, fsm)
  | .leafBucket pageId => (fsm.getLeafBucket pageId).map fun result => (.bucket result, fsm)
  | .root => fsm.getRoot.map fun node => (.node node, fsm)
  | .len => some (.number fsm.getLen, fsm)
  | .capacity => some (.number fsm.getCapacity, fsm)

/-! ## The table -/

/-- One bucket per page, for the pages below the capacity. -/
structure ReportTable where
  capacity : Nat
  capacity_pos : 0 < capacity
  bucket : PageId → WithBot Bucket
  bucket_of_le : ∀ page, capacity ≤ page.toNat → bucket page = ⊥

namespace ReportTable

/-- The bucket of a number of free bytes. -/
def check (freeSpace : Nat) : Except FreeSpaceMapError Bucket :=
  if freeSpace < 4096 then .ok (FreeSpaceMap.bucketOf freeSpace) else .error .invalidFreeSpace

/-- The table without pages. -/
def empty (capacity : Nat) (h : 0 < capacity) : ReportTable := ⟨capacity, h, fun _ => ⊥, fun _ _ => rfl⟩

/-- Enter the bucket of a page. -/
def enter (table : ReportTable) (page : PageId) (h : page.toNat < table.capacity) (found : Bucket) :
    ReportTable where
  capacity := table.capacity
  capacity_pos := table.capacity_pos
  bucket := Function.update table.bucket page found
  bucket_of_le := by
    intro other hle
    rw [Function.update_of_ne (by rintro rfl; omega)]
    exact table.bucket_of_le other hle

@[simp] theorem bucket_enter (table : ReportTable) (page : PageId)
    (h : page.toNat < table.capacity) (found : Bucket) :
    (table.enter page h found).bucket = Function.update table.bucket page found := rfl

/-- Enter a page with its free space. -/
def register (table : ReportTable) (page : PageId) (freeSpace : Nat) :
    Except FreeSpaceMapError Bucket × ReportTable :=
  if h : page.toNat < table.capacity then
    match check freeSpace with
    | .ok found => (.ok found, table.enter page h found)
    | .error e => (.error e, table)
  else (.error .invalidPageId, table)

/-- Report the free space of a page that was entered before. -/
def update (table : ReportTable) (page : PageId) (freeSpace : Nat) :
    Except FreeSpaceMapError Bucket × ReportTable :=
  if h : page.toNat < table.capacity then
    match check freeSpace with
    | .ok found =>
      if table.bucket page = ⊥ then (.error .pageDoesNotExist, table)
      else (.ok found, table.enter page h found)
    | .error e => (.error e, table)
  else (.error .invalidPageId, table)

/-- The page whose leaf is node `l`, if its number is a page id. -/
def pageOfLeaf (table : ReportTable) (l : Nat) : Option PageId :=
  if l + 1 - table.capacity < 65536 then some (UInt16.ofNat (l + 1 - table.capacity)) else none

/-- The pages from left to right. -/
def pages (table : ReportTable) : List PageId :=
  (leaves table.capacity 0).filterMap table.pageOfLeaf

/-- With a power of two as capacity the pages are in the order of their ids. -/
theorem pairwise_pages (table : ReportTable) {e : Nat} (h : table.capacity = 2 ^ e) :
    table.pages.Pairwise (· < ·) := by
  have hcapacity := table.capacity_pos
  have hsorted := pairwise_leaves_two_pow e
  rw [← h] at hsorted
  rw [pages, List.pairwise_filterMap]
  refine hsorted.imp_of_mem fun hmem hmem' hlt page hpage page' hpage' => ?_
  have hlow := (bounds_of_mem_leaves (by omega) hmem).1
  unfold pageOfLeaf at hpage hpage'
  split_ifs at hpage hpage' with hfirst hsecond
  rw [Option.some_inj] at hpage hpage'
  rw [← hpage, ← hpage', UInt16.lt_iff_toNat_lt, toNat_ofNat_u16 hfirst, toNat_ofNat_u16 hsecond]
  omega

/-- The first page from the left whose bucket suffices and that is not excluded. -/
def find (table : ReportTable) (requiredSpace : Nat) (excluded : Finset PageId) :
    Except FreeSpaceMapError (Option PageId) :=
  match check requiredSpace with
  | .ok required => .ok (table.pages.find? fun page => page ∉ excluded ∧ required ≤ table.bucket page)
  | .error e => .error e

/-- The bucket of a page. -/
def leafBucket (table : ReportTable) (page : PageId) : Except FreeSpaceMapError (Option Bucket) :=
  if page.toNat < table.capacity then .ok (table.bucket page) else .error .invalidPageId

/-- The bucket of leaf `l`. -/
def leaf (table : ReportTable) (l : Nat) : WithBot Bucket := (table.pageOfLeaf l).elim ⊥ table.bucket

/-- Node `i` of the tree: the largest bucket below it, and the page of a leaf with a
bucket. -/
def node (table : ReportTable) (i : Nat) : Node where
  maxBucket := (leaves table.capacity i).toFinset.sup table.leaf
  pageId := if i + 1 < table.capacity then none
    else (table.pageOfLeaf i).filter fun page => table.bucket page ≠ ⊥

/-- Serve a request from the table. -/
def serve (table : ReportTable) : MapRequest → MapAnswer × ReportTable
  | .register pageId freeSpace => Prod.map .reported id (table.register pageId freeSpace)
  | .update pageId freeSpace => Prod.map .reported id (table.update pageId freeSpace)
  | .find requiredSpace => (.found (table.find requiredSpace ∅), table)
  | .findExcluding requiredSpace excluded => (.found (table.find requiredSpace excluded), table)
  | .leafBucket pageId => (.bucket (table.leafBucket pageId), table)
  | .root => (.node (table.node 0), table)
  | .len => (.number (2 * table.capacity - 1), table)
  | .capacity => (.number table.capacity, table)

end ReportTable

namespace FreeSpaceMap

variable {fsm fsm' : FreeSpaceMap} {page : PageId} {l : Nat}

/-! ## The tree is that of its table -/

/-- There are no leaves beyond the capacity. -/
theorem leafBucket_of_le (fsm : FreeSpaceMap) (page : PageId) (hle : fsm.capacity ≤ page.toNat) :
    fsm.leafBucket page = ⊥ := by
  have hlength := fsm.length_eq
  rw [leafBucket, bucketAt, List.getElem?_eq_none (by omega)]
  rfl

/-- The table in the leaves of a map. -/
def table (fsm : FreeSpaceMap) : ReportTable where
  capacity := fsm.capacity
  capacity_pos := fsm.capacity_pos
  bucket := fsm.leafBucket
  bucket_of_le := fsm.leafBucket_of_le

/-- A page sits in the leaf with its number. -/
theorem pageOfLeaf_eq_some (h : fsm.table.pageOfLeaf l = some page) :
    page.toNat = l + 1 - fsm.capacity := by
  unfold ReportTable.pageOfLeaf at h
  split_ifs at h with hlt
  rw [Option.some_inj] at h
  rw [← h]
  exact toNat_ofNat_u16 hlt

/-- A leaf of a well-formed map carries the bucket of its page. -/
theorem WellFormed.leaf_eq (h : fsm.WellFormed) (hleaf : fsm.capacity ≤ l + 1) :
    fsm.table.leaf l = fsm.bucketAt l := by
  have hcapacity := fsm.capacity_pos
  have hindex : fsm.capacity - 1 + (l + 1 - fsm.capacity) = l := by omega
  unfold ReportTable.leaf
  cases hpage : fsm.table.pageOfLeaf l with
  | some page =>
      change fsm.leafBucket page = fsm.bucketAt l
      rw [leafBucket, pageOfLeaf_eq_some hpage, hindex]
  | none =>
      -- no page id belongs to the leaf
      have hnone : fsm.pageAt (fsm.capacity - 1 + (l + 1 - fsm.capacity)) = none := by
        by_contra hsome
        rcases Option.ne_none_iff_exists'.mp hsome with ⟨page, hpageAt⟩
        have hlt := page.toNat_lt
        rw [h.leaf_page _ page hpageAt] at hlt
        unfold ReportTable.pageOfLeaf at hpage
        rw [if_pos (by exact hlt)] at hpage
        cases hpage
      have hbottom := (h.leaf_bucket _).mp hnone
      rw [hindex] at hbottom
      exact hbottom.symm

/-- The page of a leaf is there when the leaf has a bucket. -/
theorem WellFormed.pageAt_eq (h : fsm.WellFormed) (hleaf : fsm.capacity ≤ l + 1) :
    fsm.pageAt l = (fsm.table.pageOfLeaf l).filter fun page => fsm.leafBucket page ≠ ⊥ := by
  have hcapacity := fsm.capacity_pos
  have hindex : fsm.capacity - 1 + (l + 1 - fsm.capacity) = l := by omega
  have hvalue := h.leaf_eq hleaf
  unfold ReportTable.leaf at hvalue
  cases hpage : fsm.table.pageOfLeaf l with
  | none =>
      rw [hpage] at hvalue
      rw [← hindex, (h.leaf_bucket _).mpr (by rw [hindex, ← hvalue]; rfl)]
      rfl
  | some page =>
      rw [hpage] at hvalue
      change fsm.leafBucket page = fsm.bucketAt l at hvalue
      have hnat := pageOfLeaf_eq_some hpage
      by_cases hbottom : fsm.leafBucket page = ⊥
      · rw [← hindex, (h.leaf_bucket _).mpr (by rw [hindex, ← hvalue, hbottom])]
        simp [Option.filter, hbottom]
      · have hat := h.pageAt_leaf hbottom
        rw [hnat, hindex] at hat
        simp [Option.filter, hbottom, hat]

/-- Every node of a well formed map is that of the tree of its table. -/
theorem WellFormed.node_eq_table (h : fsm.WellFormed) {i : Nat} (hi : i + 1 < 2 * fsm.capacity) :
    fsm.table.node i = ⟨fsm.bucketAt i, fsm.pageAt i⟩ := by
  have hsup : (leaves fsm.capacity i).toFinset.sup fsm.table.leaf = fsm.bucketAt i := by
    rw [← h.isMaxTree.sup_leaves i]
    refine Finset.sup_congr rfl fun l hl => h.leaf_eq ?_
    exact (bounds_of_mem_leaves hi (List.mem_toFinset.mp hl)).1
  have hpage : (if i + 1 < fsm.capacity then none
      else (fsm.table.pageOfLeaf i).filter fun page => fsm.leafBucket page ≠ ⊥) = fsm.pageAt i := by
    split_ifs with hinternal
    · exact (h.internal_page i hinternal).symm
    · exact (h.pageAt_eq (Nat.not_lt.mp hinternal)).symm
  exact congrArg₂ Node.mk hsup hpage

/-- A search that looks at the outcome of a map, in two steps. -/
theorem findSome?_eq_find?_filterMap {α β : Type*} {f g : α → Option β} {p : β → Bool} {xs : List α}
    (h : ∀ a ∈ xs, f a = (g a).filter p) : xs.findSome? f = (xs.filterMap g).find? p := by
  induction xs with
  | nil => rfl
  | cons a xs ih =>
      have hrest := ih fun b hb => h b (List.mem_cons_of_mem a hb)
      rw [List.findSome?_cons, List.filterMap_cons, h a List.mem_cons_self]
      cases g a with
      | none => exact hrest
      | some b =>
          rw [Option.filter_some, List.find?_cons]
          cases p b with
          | true => rfl
          | false => exact hrest

/-- A table with the buckets of the leaves is the table of the map. -/
theorem table_eq_of {table : ReportTable} (hcapacity : fsm.capacity = table.capacity)
    (hbucket : ∀ page, fsm.leafBucket page = table.bucket page) : fsm.table = table := by
  cases table
  cases hcapacity
  have hbuckets : fsm.leafBucket = _ := funext hbucket
  unfold FreeSpaceMap.table
  simp only [hbuckets]

/-- An accepted report enters the bucket of its page. -/
theorem Reported.table_eq {bucket : Bucket} (h : Reported fsm page bucket fsm')
    (hpage : page.toNat < fsm.table.capacity) : fsm'.table = fsm.table.enter page hpage bucket := by
  refine table_eq_of h.capacity_eq fun other => ?_
  rw [ReportTable.bucket_enter]
  by_cases hother : other = page
  · rw [hother, h.leafBucket_self, Function.update_self]
  · rw [h.leafBucket_of_ne other hother, Function.update_of_ne hother]
    rfl

/-- The code and the table accept the same numbers of free bytes. -/
theorem check_eq (freeSpace : Nat) : getBucketId freeSpace = ReportTable.check freeSpace := by
  unfold ReportTable.check
  split_ifs with hfree
  · exact getBucketId_eq_ok hfree
  · exact getBucketId_eq_error (Nat.not_lt.mp hfree)

/-- A leaf offers its page when the bucket suffices and the page is not excluded. -/
theorem WellFormed.offered_eq (h : fsm.WellFormed) (hleaf : fsm.capacity ≤ l + 1)
    (required : Bucket) (excluded : Finset PageId) :
    (if fsm.bucketAt l < required then none else fsm.offered excluded l) =
      (fsm.table.pageOfLeaf l).filter fun page =>
        page ∉ excluded ∧ (required : WithBot Bucket) ≤ fsm.leafBucket page := by
  have hvalue := h.leaf_eq hleaf
  unfold ReportTable.leaf at hvalue
  rw [offered, h.pageAt_eq hleaf]
  cases hpage : fsm.table.pageOfLeaf l with
  | none => simp
  | some page =>
      rw [hpage] at hvalue
      change fsm.leafBucket page = fsm.bucketAt l at hvalue
      rw [← hvalue]
      by_cases hlow : fsm.leafBucket page < required
      · simp [hlow, Option.filter]
      · have hbottom : fsm.leafBucket page ≠ ⊥ := by
          intro heq
          rw [heq] at hlow
          exact hlow (WithBot.bot_lt_coe required)
        simp [hlow, Option.filter, hbottom, not_lt.mp hlow]

/-- The first page of the tree is the first page of the table. -/
theorem WellFormed.firstPage_eq (h : fsm.WellFormed) (required : Bucket) (excluded : Finset PageId) :
    fsm.firstPage required excluded =
      fsm.table.pages.find? fun page => page ∉ excluded ∧ required ≤ fsm.table.bucket page := by
  have hcapacity := fsm.capacity_pos
  refine findSome?_eq_find?_filterMap fun l hl => h.offered_eq ?_ required excluded
  exact (bounds_of_mem_leaves (by omega) hl).1

/-- What a request does to a well-formed map is what it does to the table. -/
structure Simulates (fsm : FreeSpaceMap) (request : MapRequest) (fsm' : FreeSpaceMap) : Prop where
  serve_eq : fsm.serve request = some ((fsm.table.serve request).1, fsm')
  wellFormed : fsm'.WellFormed
  table_eq : fsm'.table = (fsm.table.serve request).2

/-- A request that changes nothing. -/
theorem WellFormed.simulates_self (h : fsm.WellFormed) {request : MapRequest} (answer : MapAnswer)
    (hserve : fsm.serve request = some (answer, fsm))
    (htable : fsm.table.serve request = (answer, fsm.table)) : Simulates fsm request fsm where
  serve_eq := by rw [hserve, htable]
  wellFormed := h
  table_eq := by rw [htable]

/-- Registering a page is simulated by the table. -/
theorem WellFormed.serve_register (h : fsm.WellFormed) (page : PageId) (freeSpace : Nat) :
    ∃ fsm', Simulates fsm (.register page freeSpace) fsm' := by
  by_cases hpage : page.toNat < fsm.capacity
  · by_cases hfree : freeSpace < 4096
    · rcases registerPage_eq_ok h hpage hfree with ⟨fsm', hrun, hreported⟩
      have htable : fsm.table.register page freeSpace =
          (.ok (bucketOf freeSpace), fsm.table.enter page hpage (bucketOf freeSpace)) := by
        rw [ReportTable.register, dif_pos (by exact hpage), ReportTable.check, if_pos hfree]
      refine ⟨fsm', ?_, hreported.wellFormed, ?_⟩
      · rw [FreeSpaceMap.serve, hrun, ReportTable.serve, htable]
        rfl
      · rw [ReportTable.serve, htable]
        exact hreported.table_eq hpage
    · refine ⟨fsm, h.simulates_self (.reported (.error .invalidFreeSpace)) ?_ ?_⟩
      · rw [FreeSpaceMap.serve, registerPage, if_neg (by omega), check_eq, ReportTable.check,
          if_neg hfree]
        rfl
      · rw [ReportTable.serve, ReportTable.register, dif_pos (by exact hpage), ReportTable.check,
          if_neg hfree]
        rfl
  · refine ⟨fsm, h.simulates_self (.reported (.error .invalidPageId)) ?_ ?_⟩
    · rw [FreeSpaceMap.serve, registerPage, if_pos (Nat.not_lt.mp hpage)]
      rfl
    · rw [ReportTable.serve, ReportTable.register, dif_neg (by exact hpage)]
      rfl

/-- Updating a page is simulated by the table. -/
theorem WellFormed.serve_update (h : fsm.WellFormed) (page : PageId) (freeSpace : Nat) :
    ∃ fsm', Simulates fsm (.update page freeSpace) fsm' := by
  by_cases hpage : page.toNat < fsm.capacity
  · have hlt : fsm.capacity - 1 + page.toNat + 1 < 2 * fsm.capacity := by omega
    by_cases hfree : freeSpace < 4096
    · by_cases hbottom : fsm.leafBucket page = ⊥
      · refine ⟨fsm, h.simulates_self (.reported (.error .pageDoesNotExist)) ?_ ?_⟩
        · have hnone : fsm.pageAt (fsm.capacity - 1 + page.toNat) = none :=
            (h.leaf_bucket _).mpr hbottom
          rw [FreeSpaceMap.serve, updatePage, if_neg (by omega), getBucketId_eq_ok hfree]
          simp only [nodes_eq_some hlt, hnone, Option.bind_eq_bind, Option.bind_some]
          rfl
        · rw [ReportTable.serve, ReportTable.update, dif_pos (by exact hpage), ReportTable.check,
            if_pos hfree]
          dsimp only
          rw [if_pos (by exact hbottom)]
          rfl
      · rcases updatePage_eq_ok h hpage hbottom hfree with ⟨fsm', hrun, hreported⟩
        have htable : fsm.table.update page freeSpace =
            (.ok (bucketOf freeSpace), fsm.table.enter page hpage (bucketOf freeSpace)) := by
          rw [ReportTable.update, dif_pos (by exact hpage), ReportTable.check, if_pos hfree]
          dsimp only
          rw [if_neg (by exact hbottom)]
        refine ⟨fsm', ?_, hreported.wellFormed, ?_⟩
        · rw [FreeSpaceMap.serve, hrun, ReportTable.serve, htable]
          rfl
        · rw [ReportTable.serve, htable]
          exact hreported.table_eq hpage
    · refine ⟨fsm, h.simulates_self (.reported (.error .invalidFreeSpace)) ?_ ?_⟩
      · rw [FreeSpaceMap.serve, updatePage, if_neg (by omega), check_eq, ReportTable.check,
          if_neg hfree]
        rfl
      · rw [ReportTable.serve, ReportTable.update, dif_pos (by exact hpage), ReportTable.check,
          if_neg hfree]
        rfl
  · refine ⟨fsm, h.simulates_self (.reported (.error .invalidPageId)) ?_ ?_⟩
    · rw [FreeSpaceMap.serve, updatePage, if_pos (Nat.not_lt.mp hpage)]
      rfl
    · rw [ReportTable.serve, ReportTable.update, dif_neg (by exact hpage)]
      rfl

/-- A search of the tree finds what a search of the table finds. -/
theorem WellFormed.findPageExcluding_eq_find (h : fsm.WellFormed) (requiredSpace : Nat)
    (excluded : Finset PageId) :
    fsm.findPageExcluding requiredSpace excluded = some (fsm.table.find requiredSpace excluded) := by
  by_cases hspace : requiredSpace < 4096
  · rw [findPageExcluding_eq_firstPage h hspace, h.firstPage_eq, ReportTable.find,
      ReportTable.check, if_pos hspace]
  · rw [findPageExcluding, check_eq, ReportTable.find, ReportTable.check, if_neg hspace]

/-- Looking up the bucket of a page is simulated by the table. -/
theorem WellFormed.serve_leafBucket (h : fsm.WellFormed) (page : PageId) :
    Simulates fsm (.leafBucket page) fsm := by
  refine h.simulates_self (.bucket (fsm.table.leafBucket page)) ?_ rfl
  by_cases hpage : page.toNat < fsm.capacity
  · rw [FreeSpaceMap.serve, getLeafBucket_eq_ok hpage, ReportTable.leafBucket,
      if_pos (by exact hpage)]
    rfl
  · rw [FreeSpaceMap.serve, getLeafBucket, if_pos (Nat.not_lt.mp hpage), ReportTable.leafBucket,
      if_neg (by exact hpage)]
    rfl

/-- Every request is served by the tree as by the table. -/
theorem WellFormed.serve (h : fsm.WellFormed) (request : MapRequest) :
    ∃ fsm', Simulates fsm request fsm' := by
  have hcapacity := fsm.capacity_pos
  have hlength := fsm.length_eq
  cases request with
  | register page freeSpace => exact h.serve_register page freeSpace
  | update page freeSpace => exact h.serve_update page freeSpace
  | find requiredSpace =>
      refine ⟨fsm, h.simulates_self (.found (fsm.table.find requiredSpace ∅)) ?_ rfl⟩
      rw [FreeSpaceMap.serve, findPage, h.findPageExcluding_eq_find]
      rfl
  | findExcluding requiredSpace excluded =>
      refine ⟨fsm, h.simulates_self (.found (fsm.table.find requiredSpace excluded)) ?_ rfl⟩
      rw [FreeSpaceMap.serve, h.findPageExcluding_eq_find]
      rfl
  | leafBucket page => exact ⟨fsm, h.serve_leafBucket page⟩
  | root =>
      have hroot : 0 + 1 < 2 * fsm.capacity := by omega
      refine ⟨fsm, h.simulates_self (.node (fsm.table.node 0)) ?_ rfl⟩
      rw [FreeSpaceMap.serve, getRoot, nodes_eq_some hroot, h.node_eq_table hroot]
      rfl
  | len =>
      refine ⟨fsm, h.simulates_self (.number (2 * fsm.capacity - 1)) ?_ rfl⟩
      rw [FreeSpaceMap.serve, getLen, hlength]
  | capacity => exact ⟨fsm, h.simulates_self (.number fsm.capacity) rfl rfl⟩

/-- Every sequence of requests is served by the tree as by the table. -/
theorem WellFormed.serveAll (h : fsm.WellFormed) (requests : List MapRequest) :
    ∃ answers fsm', Storage.serveAll FreeSpaceMap.serve fsm requests = some (answers, fsm') ∧
      fsm'.WellFormed ∧ Storage.serveAll (fun table request => some (table.serve request)) fsm.table
        requests = some (answers, fsm'.table) := by
  induction requests generalizing fsm with
  | nil => exact ⟨[], fsm, rfl, h, rfl⟩
  | cons request requests ih =>
      rcases h.serve request with ⟨fsm₁, hserve⟩
      rcases ih hserve.wellFormed with ⟨answers, fsm₂, hmap, hwell, htable⟩
      refine ⟨(fsm.table.serve request).1 :: answers, fsm₂, ?_, hwell, ?_⟩
      · simp only [Storage.serveAll, hserve.serve_eq, hmap, Option.bind_eq_bind, Option.bind_some]
      · simp only [Storage.serveAll, ← hserve.table_eq, htable, Option.bind_eq_bind,
          Option.bind_some]

end FreeSpaceMap

end Storage
end TaskPool
