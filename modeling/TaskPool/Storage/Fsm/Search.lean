import TaskPool.Library.MaxTree
import TaskPool.Storage.Fsm.Tree

/-!
# The free space map as a maximum tree

The nodes of the map are read as an implicit maximum tree over the buckets of the
pages.  Reporting a page changes the bucket of that page alone; the search returns
the first page from the left whose bucket suffices and that is not excluded.

Main results:

- Structure `FreeSpaceMap.WellFormed`: the invariant of the map.
- Theorems `FreeSpaceMap.registerPage_eq_ok` and `FreeSpaceMap.updatePage_eq_ok`:
  a report is accepted and kept.
- Theorem `FreeSpaceMap.findPageExcluding_eq_firstPage`: the search finds the first
  suitable page.
- Theorems `FreeSpaceMap.firstPage_eq_some` and `FreeSpaceMap.firstPage_eq_none`:
  that page is suitable, and none is missed.
-/

namespace TaskPool
namespace Storage

open Library

namespace FreeSpaceMap

/-- The bucket of node `i`. -/
def bucketAt (fsm : FreeSpaceMap) (i : Nat) : WithBot Bucket :=
  (fsm.nodes[i]?).elim ⊥ Node.maxBucket

/-- The page stored in node `i`. -/
def pageAt (fsm : FreeSpaceMap) (i : Nat) : Option PageId :=
  (fsm.nodes[i]?).bind Node.pageId

/-- The bucket last reported for a page. -/
def leafBucket (fsm : FreeSpaceMap) (page : PageId) : WithBot Bucket :=
  fsm.bucketAt (fsm.capacity - 1 + page.toNat)

/-- The invariant of the map: a maximum tree whose leaves carry the page of their
position, exactly when they carry a bucket. -/
structure WellFormed (fsm : FreeSpaceMap) : Prop where
  isMaxTree : IsMaxTree fsm.capacity fsm.bucketAt
  internal_page : ∀ i, i + 1 < fsm.capacity → fsm.pageAt i = none
  leaf_page : ∀ i page, fsm.pageAt (fsm.capacity - 1 + i) = some page → page.toNat = i
  leaf_bucket : ∀ i, fsm.pageAt (fsm.capacity - 1 + i) = none ↔
    fsm.bucketAt (fsm.capacity - 1 + i) = ⊥

/-! ## Buckets -/

/-- A bucket is the number of whole units of 512 free bytes. -/
theorem bucketOf_val {n : Nat} (h : n < 4096) : (bucketOf n).val = n / 512 := by
  simp only [bucketOf, Fin.val_ofNat]
  omega

/-- Every number of free bytes below the page size has a bucket. -/
theorem getBucketId_eq_ok {n : Nat} (h : n < 4096) : getBucketId n = .ok (bucketOf n) := by
  have hval := bucketOf_val h
  have hbucket : ∀ b : Bucket, b.val = n / 512 → Except.ok (ε := FreeSpaceMapError) b =
      .ok (bucketOf n) := by
    intro b hb
    rw [Fin.ext (hb.trans hval.symm)]
  unfold getBucketId
  split_ifs <;> exact hbucket _ (by simp; omega)

/-- All other numbers are rejected. -/
theorem getBucketId_eq_error {n : Nat} (h : 4096 ≤ n) :
    getBucketId n = .error .invalidFreeSpace := by
  unfold getBucketId
  split_ifs <;> first
    | rfl
    | omega

/-- More free bytes are never in a lower bucket. -/
theorem bucketOf_mono {m n : Nat} (hmn : m ≤ n) (hn : n < 4096) :
    bucketOf m ≤ bucketOf n := by
  rw [Fin.le_def, bucketOf_val (hmn.trans_lt hn), bucketOf_val hn]
  exact Nat.div_le_div_right hmn

/-! ## Nodes -/

@[simp] theorem capacity_setNode (fsm : FreeSpaceMap) (i : Nat) (node : Node) :
    (fsm.setNode i node).capacity = fsm.capacity := rfl

/-- There is a node at every index of the tree. -/
theorem exists_node {fsm : FreeSpaceMap} {i : Nat} (h : i + 1 < 2 * fsm.capacity) :
    ∃ node, fsm.nodes[i]? = some node := by
  have hlength := fsm.length_eq
  exact ⟨_, List.getElem?_eq_getElem (by omega)⟩

/-- The bucket at an index is that of its node. -/
theorem bucketAt_of_node {fsm : FreeSpaceMap} {i : Nat} {node : Node}
    (h : fsm.nodes[i]? = some node) : fsm.bucketAt i = node.maxBucket := by
  rw [bucketAt, h, Option.elim_some]

/-- The page at an index is that of its node. -/
theorem pageAt_of_node {fsm : FreeSpaceMap} {i : Nat} {node : Node}
    (h : fsm.nodes[i]? = some node) : fsm.pageAt i = node.pageId := by
  rw [pageAt, h, Option.bind_some]

/-- Setting a node changes the bucket at its index only. -/
theorem bucketAt_setNode {fsm : FreeSpaceMap} {i : Nat} (h : i + 1 < 2 * fsm.capacity)
    (node : Node) :
    (fsm.setNode i node).bucketAt = Function.update fsm.bucketAt i node.maxBucket := by
  have hlength := fsm.length_eq
  funext j
  by_cases hj : j = i
  · subst hj
    rw [Function.update_self]
    exact bucketAt_of_node (List.getElem?_set_self (by omega))
  · rw [Function.update_of_ne hj]
    simp only [bucketAt, setNode, List.getElem?_set_ne (Ne.symm hj)]

/-- Setting a node changes the page at its index only. -/
theorem pageAt_setNode {fsm : FreeSpaceMap} {i : Nat} (h : i + 1 < 2 * fsm.capacity)
    (node : Node) :
    (fsm.setNode i node).pageAt = Function.update fsm.pageAt i node.pageId := by
  have hlength := fsm.length_eq
  funext j
  by_cases hj : j = i
  · subst hj
    rw [Function.update_self]
    exact pageAt_of_node (List.getElem?_set_self (by omega))
  · rw [Function.update_of_ne hj]
    simp only [pageAt, setNode, List.getElem?_set_ne (Ne.symm hj)]

/-! ## The empty map -/

/-- A map of positive capacity is created well formed and without buckets. -/
theorem new_eq_ok {capacity : Nat} (h : 0 < capacity) :
    ∃ fsm, new capacity = .ok fsm ∧ fsm.capacity = capacity ∧ fsm.WellFormed ∧
      ∀ page, fsm.leafBucket page = ⊥ := by
  refine ⟨_, dif_neg (by omega), rfl, ?_, ?_⟩
  · have hbucket : ∀ i, bucketAt ⟨List.replicate (2 * capacity - 1) ⟨⊥, none⟩, capacity, h,
        List.length_replicate⟩ i = ⊥ := by
      intro i
      by_cases hi : i < 2 * capacity - 1 <;> simp [bucketAt, hi]
    have hpage : ∀ i, pageAt ⟨List.replicate (2 * capacity - 1) ⟨⊥, none⟩, capacity, h,
        List.length_replicate⟩ i = none := by
      intro i
      by_cases hi : i < 2 * capacity - 1 <;> simp [pageAt, hi]
    refine
      { isMaxTree := fun i _ => ?_
        internal_page := fun i _ => hpage i
        leaf_page := fun i page hsome => ?_
        leaf_bucket := fun i => ?_ }
    · rw [hbucket, hbucket, hbucket, max_self]
    · rw [hpage] at hsome
      cases hsome
    · rw [hpage, hbucket]
      simp
  · intro page
    by_cases hi : capacity - 1 + page.toNat < 2 * capacity - 1 <;>
      simp [leafBucket, bucketAt, hi]

/-! ## Recomputing the tree -/

/-- The tree property is back, and only the buckets of internal nodes have changed. -/
structure Recomputed (fsm fsm' : FreeSpaceMap) : Prop where
  capacity_eq : fsm'.capacity = fsm.capacity
  isMaxTree : IsMaxTree fsm'.capacity fsm'.bucketAt
  bucketAt_leaf : ∀ i, fsm.capacity ≤ i + 1 → fsm'.bucketAt i = fsm.bucketAt i
  pageAt_eq : fsm'.pageAt = fsm.pageAt

/-- When the maxima are right except at one node, recomputing from there upwards succeeds and
puts them right. -/
theorem recomputeAncestors_eq_some {fsm : FreeSpaceMap} {k : Nat} (hk : k + 1 < fsm.capacity)
    (h : IsMaxTreeExcept fsm.capacity fsm.bucketAt k) :
    ∃ fsm', fsm.recomputeAncestors k = some fsm' ∧ Recomputed fsm fsm' := by
  induction k using Nat.strong_induction_on generalizing fsm with
  | _ k ih =>
      rcases exists_node (show 2 * k + 1 + 1 < 2 * fsm.capacity by omega) with ⟨left, hleft⟩
      rcases exists_node (show 2 * k + 2 + 1 < 2 * fsm.capacity by omega) with ⟨right, hright⟩
      have hkNode : k + 1 < 2 * fsm.capacity := by omega
      rcases exists_node hkNode with ⟨node, hnode⟩
      let raised : Node := { node with
        maxBucket := if left.maxBucket > right.maxBucket then left.maxBucket else right.maxBucket }
      have hmax : raised.maxBucket = max (fsm.bucketAt (2 * k + 1)) (fsm.bucketAt (2 * k + 2)) := by
        rw [bucketAt_of_node hleft, bucketAt_of_node hright, max_comm, max_def_lt]
      have hbucket := bucketAt_setNode hkNode raised
      have hpage : (fsm.setNode k raised).pageAt = fsm.pageAt := by
        rw [pageAt_setNode hkNode, Function.update_eq_self_iff, pageAt_of_node hnode]
      have hleaf : ∀ i, fsm.capacity ≤ i + 1 →
          (fsm.setNode k raised).bucketAt i = fsm.bucketAt i := by
        intro i hi
        rw [hbucket, Function.update_of_ne (by omega)]
      have hunfold : fsm.recomputeAncestors k =
          if k ≠ 0 then (fsm.setNode k raised).recomputeAncestors ((k - 1) / 2)
          else some (fsm.setNode k raised) := by
        rw [recomputeAncestors, if_neg (by omega), hleft, hright, hnode]
        rfl
      by_cases hroot : k = 0
      · refine ⟨fsm.setNode k raised, by rw [hunfold, if_neg (by simpa using hroot)], ?_⟩
        refine
          { capacity_eq := rfl
            isMaxTree := ?_
            bucketAt_leaf := hleaf
            pageAt_eq := hpage }
        rw [hbucket, hmax]
        subst hroot
        exact h.recompute_root
      · have hexcept : IsMaxTreeExcept (fsm.setNode k raised).capacity
            (fsm.setNode k raised).bucketAt ((k - 1) / 2) := by
          rw [hbucket, hmax]
          exact h.recompute hroot
        rcases ih ((k - 1) / 2) (by omega) (by simp only [capacity_setNode]; omega) hexcept with
          ⟨fsm', hrun, hrecomputed⟩
        refine ⟨fsm', by rw [hunfold, if_pos hroot, hrun], ?_⟩
        exact
          { capacity_eq := hrecomputed.capacity_eq
            isMaxTree := hrecomputed.isMaxTree
            bucketAt_leaf := fun i hi => (hrecomputed.bucketAt_leaf i hi).trans (hleaf i hi)
            pageAt_eq := hrecomputed.pageAt_eq.trans hpage }

/-- Writing a leaf and recomputing what lies above it. -/
theorem recomputeAbove_eq_some {fsm : FreeSpaceMap} (h : IsMaxTree fsm.capacity fsm.bucketAt)
    {leaf : Nat} (hleaf : fsm.capacity ≤ leaf + 1) (hlt : leaf + 1 < 2 * fsm.capacity)
    (node : Node) :
    ∃ fsm', (fsm.setNode leaf node).recomputeAbove leaf = some fsm' ∧
      Recomputed (fsm.setNode leaf node) fsm' := by
  by_cases hroot : leaf = 0
  · refine ⟨fsm.setNode leaf node, by rw [recomputeAbove, if_neg (by simpa using hroot)], ?_⟩
    exact
      { capacity_eq := rfl
        isMaxTree := fun i hi => by
          simp only [capacity_setNode] at hi
          omega
        bucketAt_leaf := fun _ _ => rfl
        pageAt_eq := rfl }
  · rw [recomputeAbove, if_pos hroot]
    apply recomputeAncestors_eq_some
    · simp only [capacity_setNode]
      omega
    · rw [bucketAt_setNode hlt]
      exact h.update_leaf _ hroot hleaf

/-! ## Reports -/

/-- What an accepted report of a bucket for a page leaves behind. -/
structure Reported (fsm : FreeSpaceMap) (page : PageId) (bucket : Bucket) (fsm' : FreeSpaceMap) :
    Prop where
  capacity_eq : fsm'.capacity = fsm.capacity
  wellFormed : fsm'.WellFormed
  leafBucket_self : fsm'.leafBucket page = bucket
  leafBucket_of_ne : ∀ other, other ≠ page → fsm'.leafBucket other = fsm.leafBucket other

/-- Writing bucket and page into the leaf of the page is such a report. -/
theorem Recomputed.reported {fsm fsm' : FreeSpaceMap} (h : fsm.WellFormed) {page : PageId}
    (hpage : page.toNat < fsm.capacity) {bucket : Bucket}
    (hwritten : Recomputed
      (fsm.setNode (fsm.capacity - 1 + page.toNat) ⟨bucket, some page⟩) fsm') :
    Reported fsm page bucket fsm' := by
  have hcapacity : fsm'.capacity = fsm.capacity := hwritten.capacity_eq
  have hlt : fsm.capacity - 1 + page.toNat + 1 < 2 * fsm.capacity := by omega
  have hbucket : ∀ i, fsm'.bucketAt (fsm.capacity - 1 + i) =
      if i = page.toNat then (bucket : WithBot Bucket)
      else fsm.bucketAt (fsm.capacity - 1 + i) := by
    intro i
    rw [hwritten.bucketAt_leaf _ (by simp only [capacity_setNode]; omega), bucketAt_setNode hlt,
      Function.update_apply]
    simp
  have hpages : ∀ i, fsm'.pageAt i =
      if i = fsm.capacity - 1 + page.toNat then some page else fsm.pageAt i := by
    intro i
    rw [hwritten.pageAt_eq, pageAt_setNode hlt, Function.update_apply]
  refine
    { capacity_eq := hcapacity
      wellFormed :=
        { isMaxTree := hwritten.isMaxTree
          internal_page := ?_
          leaf_page := ?_
          leaf_bucket := ?_ }
      leafBucket_self := ?_
      leafBucket_of_ne := ?_ }
  · intro i hi
    rw [hpages, if_neg (by omega)]
    exact h.internal_page i (by omega)
  · intro i other hother
    rw [hcapacity, hpages] at hother
    by_cases hi : i = page.toNat
    · rw [if_pos (by omega), Option.some_inj] at hother
      rw [← hother, hi]
    · rw [if_neg (by omega)] at hother
      exact h.leaf_page i other hother
  · intro i
    rw [hcapacity, hpages, hbucket]
    by_cases hi : i = page.toNat
    · simp [hi]
    · rw [if_neg (by omega), if_neg hi]
      exact h.leaf_bucket i
  · rw [leafBucket, hcapacity, hbucket, if_pos rfl]
  · intro other hne
    rw [leafBucket, hcapacity, hbucket, if_neg fun heq => hne (UInt16.toNat_inj.mp heq), leafBucket]

/-- Registering a page inside the capacity sets its leaf. -/
theorem registerPage_eq_ok {fsm : FreeSpaceMap} (h : fsm.WellFormed) {page : PageId}
    (hpage : page.toNat < fsm.capacity) {freeSpace : Nat} (hfree : freeSpace < 4096) :
    ∃ fsm', fsm.registerPage page freeSpace = some (.ok (bucketOf freeSpace), fsm') ∧
      Reported fsm page (bucketOf freeSpace) fsm' := by
  have hlt : fsm.capacity - 1 + page.toNat + 1 < 2 * fsm.capacity := by omega
  rcases exists_node hlt with ⟨leaf, hleaf⟩
  rcases recomputeAbove_eq_some h.isMaxTree (by omega) hlt ⟨bucketOf freeSpace, some page⟩ with
    ⟨fsm', hrun, hrecomputed⟩
  refine ⟨fsm', ?_, hrecomputed.reported h hpage⟩
  rw [registerPage, if_neg (by omega), getBucketId_eq_ok hfree]
  simp only [hleaf, hrun]
  rfl

/-- Updating a registered page sets its leaf. -/
theorem updatePage_eq_ok {fsm : FreeSpaceMap} (h : fsm.WellFormed) {page : PageId}
    (hpage : page.toNat < fsm.capacity) (hregistered : fsm.leafBucket page ≠ ⊥)
    {freeSpace : Nat} (hfree : freeSpace < 4096) :
    ∃ fsm', fsm.updatePage page freeSpace = some (.ok (bucketOf freeSpace), fsm') ∧
      Reported fsm page (bucketOf freeSpace) fsm' := by
  have hlt : fsm.capacity - 1 + page.toNat + 1 < 2 * fsm.capacity := by omega
  rcases exists_node hlt with ⟨leaf, hleaf⟩
  have hid : leaf.pageId = some page := by
    rw [← pageAt_of_node hleaf]
    cases hat : fsm.pageAt (fsm.capacity - 1 + page.toNat) with
    | none => exact absurd ((h.leaf_bucket _).mp hat) hregistered
    | some other => rw [UInt16.toNat_inj.mp (h.leaf_page _ _ hat)]
  rcases recomputeAbove_eq_some h.isMaxTree (by omega) hlt ⟨bucketOf freeSpace, some page⟩ with
    ⟨fsm', hrun, hrecomputed⟩
  refine ⟨fsm', ?_, hrecomputed.reported h hpage⟩
  rw [updatePage, if_neg (by omega), getBucketId_eq_ok hfree]
  simp only [hleaf, hid, Option.bind_eq_bind, Option.bind_some, ne_eq, not_true_eq_false,
    if_false, hrun]
  rfl

/-! ## Search -/

/-- The page a leaf offers to a search. -/
def offered (fsm : FreeSpaceMap) (excluded : Finset PageId) (l : Nat) : Option PageId :=
  (fsm.pageAt l).filter (· ∉ excluded)

/-- The first page from the left with a sufficient bucket that is not excluded. -/
def firstPage (fsm : FreeSpaceMap) (bucket : Bucket) (excluded : Finset PageId) :
    Option PageId :=
  (leaves fsm.capacity 0).findSome? fun l =>
    if fsm.bucketAt l < bucket then none else fsm.offered excluded l

/-- The code's recursion is the search that skips subtrees whose maximum is too low. -/
theorem findPageRecursive_eq_prunedSearch (fsm : FreeSpaceMap) (bucket : Bucket)
    (excluded : Finset PageId) {i : Nat} (hi : i + 1 < 2 * fsm.capacity) :
    fsm.findPageRecursive bucket excluded i =
      some (.ok (prunedSearch fsm.capacity fsm.bucketAt bucket (fsm.offered excluded) i)) := by
  have hlength := fsm.length_eq
  induction i using prunedSearch.induct fsm.capacity fsm.bucketAt
    (bucket : WithBot Bucket) with
  | case1 i hlow =>
      rcases exists_node hi with ⟨node, hnode⟩
      rw [prunedSearch, if_pos hlow, findPageRecursive, hnode]
      rw [bucketAt_of_node hnode] at hlow
      simp [hlow]
  | case2 i hlow hlt ihleft ihright =>
      rcases exists_node hi with ⟨node, hnode⟩
      rw [prunedSearch, if_neg hlow, if_pos hlt, findPageRecursive, hnode]
      rw [bucketAt_of_node hnode] at hlow
      simp only [Option.bind_eq_bind, Option.bind_some, if_neg hlow,
        if_neg (show ¬ i ≥ fsm.capacity - 1 by omega),
        if_pos (show 2 * i + 1 < fsm.nodes.length by omega),
        if_pos (show 2 * i + 2 < fsm.nodes.length by omega),
        ihleft (by omega), ihright (by omega)]
      cases prunedSearch fsm.capacity fsm.bucketAt bucket (fsm.offered excluded) (2 * i + 1) <;> rfl
  | case3 i hlow hlt =>
      rcases exists_node hi with ⟨node, hnode⟩
      rw [prunedSearch, if_neg hlow, if_neg hlt, findPageRecursive, hnode, offered,
        pageAt_of_node hnode]
      rw [bucketAt_of_node hnode] at hlow
      simp only [Option.bind_eq_bind, Option.bind_some, if_neg hlow,
        if_pos (show i ≥ fsm.capacity - 1 by omega)]
      cases node.pageId with
      | none => rfl
      | some page => by_cases hpage : page ∈ excluded <;> simp [hpage, Option.filter]

/-- A map is never without nodes. -/
theorem nodes_isEmpty (fsm : FreeSpaceMap) : fsm.nodes.isEmpty = false := by
  have hlength := fsm.length_eq
  have hcapacity := fsm.capacity_pos
  rw [List.isEmpty_eq_false_iff, ← List.length_pos_iff_ne_nil]
  omega

/-- The search from the root is the pruned search for the bucket of the space. -/
theorem findPageExcluding_eq_prunedSearch (fsm : FreeSpaceMap) {requiredSpace : Nat}
    (hspace : requiredSpace < 4096) (excluded : Finset PageId) :
    fsm.findPageExcluding requiredSpace excluded =
      some (.ok (prunedSearch fsm.capacity fsm.bucketAt (bucketOf requiredSpace)
        (fsm.offered excluded) 0)) := by
  have hcapacity := fsm.capacity_pos
  rw [findPageExcluding, getBucketId_eq_ok hspace]
  simp only [fsm.nodes_isEmpty]
  exact fsm.findPageRecursive_eq_prunedSearch _ _ (by omega)

/-- Whatever the map holds, the search never returns an excluded page. -/
theorem not_mem_of_findPageExcluding {fsm : FreeSpaceMap} {requiredSpace : Nat}
    {excluded : Finset PageId} {page : PageId}
    (h : fsm.findPageExcluding requiredSpace excluded = some (.ok (some page))) :
    page ∉ excluded := by
  by_cases hspace : requiredSpace < 4096
  · rw [fsm.findPageExcluding_eq_prunedSearch hspace] at h
    simp only [Option.some_inj, Except.ok.injEq] at h
    rcases exists_of_prunedSearch_eq_some h with ⟨l, hl⟩
    rw [offered, Option.filter_eq_some_iff] at hl
    simpa using hl.2
  · rw [findPageExcluding, getBucketId_eq_error (by omega)] at h
    simp at h

/-- In a well formed map pruning loses nothing: the search finds the first page. -/
theorem findPageExcluding_eq_firstPage {fsm : FreeSpaceMap} (h : fsm.WellFormed)
    {requiredSpace : Nat} (hspace : requiredSpace < 4096) (excluded : Finset PageId) :
    fsm.findPageExcluding requiredSpace excluded =
      some (.ok (fsm.firstPage (bucketOf requiredSpace) excluded)) := by
  rw [fsm.findPageExcluding_eq_prunedSearch hspace, firstPage,
    ← h.isMaxTree.prunedSearch_eq_findSome]

/-- The page found is registered, not excluded, and its bucket suffices. -/
theorem firstPage_eq_some {fsm : FreeSpaceMap} (h : fsm.WellFormed) {bucket : Bucket}
    {excluded : Finset PageId} {page : PageId}
    (hfound : fsm.firstPage bucket excluded = some page) :
    page.toNat < fsm.capacity ∧ page ∉ excluded ∧ (bucket : WithBot Bucket) ≤ fsm.leafBucket page := by
  have hcapacity := fsm.capacity_pos
  rcases List.exists_of_findSome?_eq_some hfound with ⟨l, hl, hoffer⟩
  rcases bounds_of_mem_leaves (by omega) hl with ⟨hlow, hhigh⟩
  have hindex : fsm.capacity - 1 + (l + 1 - fsm.capacity) = l := by omega
  by_cases hbucket : fsm.bucketAt l < bucket
  · simp [hbucket] at hoffer
  · rw [if_neg hbucket, offered, Option.filter_eq_some_iff] at hoffer
    have hnat : page.toNat = l + 1 - fsm.capacity :=
      h.leaf_page _ page (by rw [hindex]; exact hoffer.1)
    refine ⟨by omega, by simpa using hoffer.2, ?_⟩
    rw [leafBucket, hnat, hindex]
    exact not_lt.mp hbucket

/-- When the search finds nothing, no page outside the excluded ones suffices. -/
theorem firstPage_eq_none {fsm : FreeSpaceMap} (h : fsm.WellFormed) {bucket : Bucket}
    {excluded : Finset PageId} (hnone : fsm.firstPage bucket excluded = none) {page : PageId}
    (hpage : page.toNat < fsm.capacity) (hexcluded : page ∉ excluded) :
    fsm.leafBucket page < bucket := by
  have hleaf := List.findSome?_eq_none_iff.mp hnone (fsm.capacity - 1 + page.toNat)
    (mem_leaves_root (by omega) (by omega))
  by_contra hsuffices
  simp only [leafBucket] at hsuffices
  rw [if_neg hsuffices, offered, Option.filter_eq_none_iff] at hleaf
  cases hat : fsm.pageAt (fsm.capacity - 1 + page.toNat) with
  | none =>
      apply hsuffices
      rw [(h.leaf_bucket _).mp hat]
      exact WithBot.bot_lt_coe bucket
  | some other =>
      have hother : other = page := UInt16.toNat_inj.mp (h.leaf_page _ _ hat)
      exact hleaf other hat (by simpa [hother] using hexcluded)

end FreeSpaceMap

end Storage
end TaskPool
