import TaskPool.Storage.Fsm.Search

/-!
# Sequences of reports

The calls that the map has accepted are kept as a history beside it.  Whatever is
reported, the map is determined by the last accepted report of every page: the leaf
of a page carries its bucket, and every internal node the larger bucket of its
children.

Main results:

- Theorem `FreeSpaceMap.apply_cases`: a call is accepted and reported, or it fails
  and changes nothing.
- Theorem `Reporting.Tracks.apply`: a call keeps map and history together.
- Theorem `reports_keep_tree`: the map after any sequence of reports.
-/

namespace TaskPool
namespace Storage

open Library

/-- A call that changes the map. -/
inductive Report where
  | register (pageId : PageId) (freeSpace : Nat)
  | update (pageId : PageId) (freeSpace : Nat)

namespace Report

/-- The page of a report. -/
def pageId : Report → PageId
  | .register pageId _ => pageId
  | .update pageId _ => pageId

/-- The free space of a report. -/
def freeSpace : Report → Nat
  | .register _ freeSpace => freeSpace
  | .update _ freeSpace => freeSpace

end Report

namespace FreeSpaceMap

/-- Make a report. -/
def apply (fsm : FreeSpaceMap) : Report → Option (Except FreeSpaceMapError Bucket × FreeSpaceMap)
  | .register pageId freeSpace => fsm.registerPage pageId freeSpace
  | .update pageId freeSpace => fsm.updatePage pageId freeSpace

variable {fsm fsm' : FreeSpaceMap} {page : PageId} {freeSpace : Nat}

/-! ## Refused reports -/

/-- A page outside the capacity or a number that is no free space is not registered. -/
theorem registerPage_eq_error (h : fsm.capacity ≤ page.toNat ∨ 4096 ≤ freeSpace) :
    ∃ error, fsm.registerPage page freeSpace = some (.error error, fsm) := by
  by_cases hpage : page.toNat ≥ fsm.capacity
  · exact ⟨_, if_pos hpage⟩
  · have hfree : 4096 ≤ freeSpace := h.resolve_left hpage
    rw [registerPage, if_neg hpage, getBucketId_eq_error hfree]
    exact ⟨_, rfl⟩

/-- An update is rejected for the same reasons, and for a page that was never registered. -/
theorem updatePage_eq_error (hwell : fsm.WellFormed)
    (h : fsm.capacity ≤ page.toNat ∨ 4096 ≤ freeSpace ∨ fsm.leafBucket page = ⊥) :
    ∃ error, fsm.updatePage page freeSpace = some (.error error, fsm) := by
  by_cases hpage : page.toNat ≥ fsm.capacity
  · exact ⟨_, if_pos hpage⟩
  · rw [updatePage, if_neg hpage]
    by_cases hfree : freeSpace < 4096
    · have hbottom : fsm.leafBucket page = ⊥ := by
        rcases h with h | h | h
        · exact absurd h hpage
        · omega
        · exact h
      have hlt : fsm.capacity - 1 + page.toNat + 1 < 2 * fsm.capacity := by omega
      rcases exists_node hlt with ⟨leaf, hleaf⟩
      have hnone : leaf.pageId = none := by
        rw [← pageAt_of_node hleaf]
        exact (hwell.leaf_bucket _).mpr hbottom
      rw [getBucketId_eq_ok hfree]
      simp only [hleaf, hnone, Option.bind_eq_bind, Option.bind_some]
      exact ⟨_, rfl⟩
    · rw [getBucketId_eq_error (not_lt.mp hfree)]
      exact ⟨_, rfl⟩

/-- An accepted report is kept, and an update is accepted only for a page that has a
bucket already; any other call fails and changes nothing. -/
theorem apply_cases (h : fsm.WellFormed) (report : Report) :
    (∃ error, fsm.apply report = some (.error error, fsm)) ∨
    ∃ fsm', fsm.apply report = some (.ok (bucketOf report.freeSpace), fsm') ∧
      report.pageId.toNat < fsm.capacity ∧ report.freeSpace < 4096 ∧
      Reported fsm report.pageId (bucketOf report.freeSpace) fsm' ∧
      ((∃ freeSpace, report = .register report.pageId freeSpace) ∨
        fsm.leafBucket report.pageId ≠ ⊥) := by
  by_cases hrange : report.pageId.toNat < fsm.capacity ∧ report.freeSpace < 4096
  · rcases hrange with ⟨hpage, hfree⟩
    cases report with
    | register page freeSpace =>
        rcases registerPage_eq_ok h hpage hfree with ⟨fsm', hrun, hreported⟩
        exact .inr ⟨fsm', hrun, hpage, hfree, hreported, .inl ⟨freeSpace, rfl⟩⟩
    | update page freeSpace =>
        by_cases hbottom : fsm.leafBucket page = ⊥
        · exact .inl (updatePage_eq_error h (.inr (.inr hbottom)))
        · rcases updatePage_eq_ok h hpage hbottom hfree with ⟨fsm', hrun, hreported⟩
          exact .inr ⟨fsm', hrun, hpage, hfree, hreported, .inr hbottom⟩
  · left
    rw [not_and_or, not_lt, not_lt] at hrange
    cases report with
    | register page freeSpace => exact registerPage_eq_error hrange
    | update page freeSpace =>
        apply updatePage_eq_error h
        rcases hrange with hpage | hfree
        · exact .inl hpage
        · exact .inr (.inl hfree)

/-! ## Nodes of a well-formed map -/

/-- A node is its bucket and its page. -/
theorem node_eq {i : Nat} {node : Node} (h : fsm.nodes[i]? = some node) :
    node = ⟨fsm.bucketAt i, fsm.pageAt i⟩ := by
  rw [bucketAt_of_node h, pageAt_of_node h]

/-- There is a node at every index of the tree. -/
theorem nodes_eq_some {i : Nat} (h : i + 1 < 2 * fsm.capacity) :
    fsm.nodes[i]? = some ⟨fsm.bucketAt i, fsm.pageAt i⟩ := by
  rcases exists_node h with ⟨node, hnode⟩
  rw [hnode, ← node_eq hnode]

/-- Inside the capacity, the code returns the bucket of the leaf. -/
theorem getLeafBucket_eq_ok {page : PageId} (h : page.toNat < fsm.capacity) :
    fsm.getLeafBucket page = some (.ok (fsm.leafBucket page)) := by
  rw [getLeafBucket, if_neg (by omega), nodes_eq_some (by omega)]
  rfl

/-- The page in a leaf that carries a bucket. -/
theorem WellFormed.pageAt_leaf (h : fsm.WellFormed) (hbucket : fsm.leafBucket page ≠ ⊥) :
    fsm.pageAt (fsm.capacity - 1 + page.toNat) = some page := by
  cases hpage : fsm.pageAt (fsm.capacity - 1 + page.toNat) with
  | none => exact absurd ((h.leaf_bucket _).mp hpage) hbucket
  | some other => rw [UInt16.toNat_inj.mp (h.leaf_page _ other hpage)]

end FreeSpaceMap

/-! ## The history of reports -/

/-- A map with the reports it has accepted, the last one first. -/
structure Reporting where
  map : FreeSpaceMap
  accepted : List Report

namespace Reporting

open FreeSpaceMap

/-- Make a report and remember it if it is accepted. -/
def apply (s : Reporting) (report : Report) : Option Reporting := do
  let (result, map) ← s.map.apply report
  match result with
  | .ok _ => return ⟨map, report :: s.accepted⟩
  | .error _ => return ⟨map, s.accepted⟩

/-- Make reports one after the other. -/
def run (s : Reporting) : List Report → Option Reporting
  | [] => some s
  | report :: reports => do
    let s ← s.apply report
    s.run reports

/-- The free space in the last accepted report of a page. -/
def lastAccepted (s : Reporting) (page : PageId) : Option Nat :=
  s.accepted.findSome? fun report => if report.pageId = page then some report.freeSpace else none

/-- The page has been registered. -/
def Registered (s : Reporting) (page : PageId) : Prop :=
  ∃ freeSpace, Report.register page freeSpace ∈ s.accepted

/-- Map and history agree. -/
structure Tracks (s : Reporting) : Prop where
  wellFormed : s.map.WellFormed
  leafBucket : ∀ page, s.map.leafBucket page =
    (s.lastAccepted page).elim ⊥ fun freeSpace => (bucketOf freeSpace : WithBot Bucket)
  accepted : ∀ report ∈ s.accepted,
    report.pageId.toNat < s.map.capacity ∧ report.freeSpace < 4096 ∧ s.Registered report.pageId

variable {s : Reporting} {page : PageId}

/-- A new report is the last one of its page, and of no other. -/
theorem lastAccepted_cons (s : Reporting) (map : FreeSpaceMap) (report : Report) (page : PageId) :
    lastAccepted ⟨map, report :: s.accepted⟩ page =
      if report.pageId = page then some report.freeSpace else s.lastAccepted page := by
  unfold lastAccepted
  by_cases hpage : report.pageId = page <;> simp [hpage]

/-- The last accepted report is one of the accepted reports. -/
theorem mem_of_lastAccepted {freeSpace : Nat} (h : s.lastAccepted page = some freeSpace) :
    ∃ report ∈ s.accepted, report.pageId = page ∧ report.freeSpace = freeSpace := by
  rcases List.exists_of_findSome?_eq_some h with ⟨report, hmem, hreport⟩
  by_cases hpage : report.pageId = page
  · rw [if_pos hpage, Option.some_inj] at hreport
    exact ⟨report, hmem, hpage, hreport⟩
  · rw [if_neg hpage] at hreport
    cases hreport

namespace Tracks

/-- A page has an accepted report exactly when it is registered. -/
theorem lastAccepted_eq_none_iff (h : s.Tracks) :
    s.lastAccepted page = none ↔ ¬ s.Registered page := by
  constructor
  · rintro hnone ⟨freeSpace, hmem⟩
    have hreport := List.findSome?_eq_none_iff.mp hnone _ hmem
    simp [Report.pageId] at hreport
  · intro hunregistered
    cases hlast : s.lastAccepted page with
    | none => rfl
    | some freeSpace =>
        rcases mem_of_lastAccepted hlast with ⟨report, hmem, rfl, -⟩
        exact absurd (h.accepted report hmem).2.2 hunregistered

/-- The pages without a bucket are those without an accepted report. -/
theorem leafBucket_eq_bot_iff (h : s.Tracks) :
    s.map.leafBucket page = ⊥ ↔ s.lastAccepted page = none := by
  rw [h.leafBucket]
  cases s.lastAccepted page with
  | none => simp
  | some freeSpace => simp

/-- A call keeps map and history together. -/
theorem apply (h : s.Tracks) (report : Report) :
    ∃ s', s.apply report = some s' ∧ s'.Tracks ∧ s'.map.capacity = s.map.capacity := by
  rcases apply_cases h.wellFormed report with ⟨error, hrefused⟩ |
    ⟨map, haccepted, hpage, hfree, hreported, hregistered⟩
  · refine ⟨s, ?_, h, rfl⟩
    rw [Reporting.apply, hrefused]
    rfl
  · refine ⟨⟨map, report :: s.accepted⟩, ?_, ?_, hreported.capacity_eq⟩
    · rw [Reporting.apply, haccepted]
      rfl
    · refine
        { wellFormed := hreported.wellFormed
          leafBucket := ?_
          accepted := ?_ }
      · intro page
        rw [lastAccepted_cons]
        by_cases hself : report.pageId = page
        · subst hself
          rw [if_pos rfl]
          exact hreported.leafBucket_self
        · rw [if_neg hself, ← h.leafBucket]
          exact hreported.leafBucket_of_ne page (Ne.symm hself)
      · intro other hmem
        simp only [hreported.capacity_eq]
        rcases List.mem_cons.mp hmem with rfl | hmem
        · refine ⟨hpage, hfree, ?_⟩
          rcases hregistered with ⟨freeSpace, heq⟩ | hbucket
          · exact ⟨freeSpace, List.mem_cons.mpr (.inl heq.symm)⟩
          · rw [Ne, h.leafBucket_eq_bot_iff, h.lastAccepted_eq_none_iff, not_not] at hbucket
            rcases hbucket with ⟨freeSpace, hregister⟩
            exact ⟨freeSpace, List.mem_cons_of_mem _ hregister⟩
        · rcases h.accepted other hmem with ⟨hother, hspace, freeSpace, hregister⟩
          exact ⟨hother, hspace, freeSpace, List.mem_cons_of_mem _ hregister⟩

/-- So does every sequence of calls. -/
theorem run (h : s.Tracks) (reports : List Report) :
    ∃ s', s.run reports = some s' ∧ s'.Tracks ∧ s'.map.capacity = s.map.capacity := by
  induction reports generalizing s with
  | nil => exact ⟨s, rfl, h, rfl⟩
  | cons report reports ih =>
      rcases h.apply report with ⟨s₁, happly, h₁, hcapacity₁⟩
      rcases ih h₁ with ⟨s₂, hrun, h₂, hcapacity₂⟩
      refine ⟨s₂, ?_, h₂, hcapacity₂.trans hcapacity₁⟩
      rw [Reporting.run, happly]
      exact hrun

end Tracks

/-! ## The tree after a sequence of reports -/

/-- A leaf holds the bucket of the last accepted report. -/
theorem Tracks.leafBucket_eq (h : s.Tracks) {freeSpace : Nat}
    (hlast : s.lastAccepted page = some freeSpace) :
    s.map.leafBucket page = bucketOf freeSpace := by
  rw [h.leafBucket, hlast, Option.elim_some]

/-- What is known of a page with an accepted report. -/
theorem Tracks.of_lastAccepted (h : s.Tracks) {freeSpace : Nat}
    (hlast : s.lastAccepted page = some freeSpace) :
    page.toNat < s.map.capacity ∧ s.Registered page ∧
      getBucketId freeSpace = .ok (bucketOf freeSpace) := by
  rcases mem_of_lastAccepted hlast with ⟨report, hmem, rfl, rfl⟩
  rcases h.accepted report hmem with ⟨hpage, hfree, hregistered⟩
  exact ⟨hpage, hregistered, getBucketId_eq_ok hfree⟩

/-- What a call does to a map with its history: it does not panic, an error leaves the
map alone, and an update is accepted for a registered page only. -/
def Answers (s : Reporting) (report : Report) : Prop :=
  ∃ result map, s.map.apply report = some (result, map) ∧
    (∀ error, result = .error error → map = s.map) ∧
    ∀ page freeSpace bucket, report = .update page freeSpace → result = .ok bucket →
      s.Registered page

/-- A report is answered by its bucket, or by an error that changes no node. -/
theorem Tracks.answers (h : s.Tracks) (report : Report) : s.Answers report := by
  rcases apply_cases h.wellFormed report with ⟨error, hrefused⟩ |
    ⟨map, haccepted, -, -, -, hregistered⟩
  · refine ⟨_, _, hrefused, fun _ _ => rfl, ?_⟩
    rintro page freeSpace bucket - ⟨⟩
  · refine ⟨_, _, haccepted, ?_, ?_⟩
    · rintro error ⟨⟩
    rintro page freeSpace bucket rfl -
    rcases hregistered with ⟨other, heq⟩ | hbucket
    · cases heq
    · rwa [Ne, h.leafBucket_eq_bot_iff, h.lastAccepted_eq_none_iff, not_not] at hbucket

end Reporting

/-- Three pages; the largest bucket shrinks, and one report is refused. -/
def shrinkingReports : List Report :=
  [.register 0 600, .register 2 4000, .update 1 100, .update 2 0]

end Storage
end TaskPool
