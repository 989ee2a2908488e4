import TaskPool.Storage.Fsm.Reports

/-!
# What the search of the free space map returns

After any sequence of reports a page qualifies for a search when it is registered, not
excluded and its bucket is at least that of the required space.  The search returns the
qualifying page whose leaf is furthest to the left, and nothing when there is none.  The
order of the leaves is the order of the page identifiers only when the capacity is a
power of two.

Main results:

- Definition `Reporting.Qualifies`: the pages a search may return.
- Theorem `FreeSpaceMap.firstPage_leftmost`: no page further to the left suffices.
- Theorem `search_sound_complete_leftmost`: the search after any sequence of reports.
-/

namespace TaskPool
namespace Storage

open Library

namespace FreeSpaceMap

variable {fsm : FreeSpaceMap} {bucket : Bucket} {excluded : Finset PageId} {page : PageId}

/-- A page that is not excluded and whose bucket suffices. -/
def Suffices (fsm : FreeSpaceMap) (bucket : Bucket) (excluded : Finset PageId) (page : PageId) :
    Prop :=
  page.toNat < fsm.capacity ∧ page ∉ excluded ∧ (bucket : WithBot Bucket) ≤ fsm.leafBucket page

/-- The leaf of such a page offers it to the search. -/
theorem Suffices.offered (h : fsm.WellFormed) (hpage : fsm.Suffices bucket excluded page) :
    fsm.offered excluded (fsm.capacity - 1 + page.toNat) = some page := by
  obtain ⟨-, hexcluded, hbucket⟩ := hpage
  have hne : fsm.leafBucket page ≠ ⊥ := by
    intro hbottom
    rw [hbottom, le_bot_iff] at hbucket
    exact WithBot.coe_ne_bot hbucket
  rw [FreeSpaceMap.offered, h.pageAt_leaf hne, Option.filter_eq_some_iff]
  exact ⟨rfl, by simpa using hexcluded⟩

/-- No leaf to the left of the page found belongs to a page that suffices. -/
theorem firstPage_leftmost (h : fsm.WellFormed)
    (hfound : fsm.firstPage bucket excluded = some page) :
    ∃ before after, leaves fsm.capacity 0 = before ++ (fsm.capacity - 1 + page.toNat) :: after ∧
      ∀ other, fsm.Suffices bucket excluded other →
        fsm.capacity - 1 + other.toNat ∉ before := by
  have hcapacity := fsm.capacity_pos
  obtain ⟨before, l, after, hleaves, hoffer, hbefore⟩ := List.findSome?_eq_some_iff.mp hfound
  have hmem : l ∈ leaves fsm.capacity 0 := by
    rw [hleaves]
    exact List.mem_append_right _ List.mem_cons_self
  obtain ⟨hlow, -⟩ := bounds_of_mem_leaves (by omega) hmem
  have hindex : fsm.capacity - 1 + (l + 1 - fsm.capacity) = l := by omega
  have hplace : fsm.capacity - 1 + page.toNat = l := by
    split at hoffer
    · cases hoffer
    · rw [FreeSpaceMap.offered, Option.filter_eq_some_iff] at hoffer
      have hnat := h.leaf_page (l + 1 - fsm.capacity) page (by rw [hindex]; exact hoffer.1)
      omega
  refine ⟨before, after, hplace ▸ hleaves, fun other hother hin => ?_⟩
  have hnone := hbefore _ hin
  have hbucket : ¬ fsm.bucketAt (fsm.capacity - 1 + other.toNat) < bucket :=
    not_lt.mpr hother.2.2
  rw [if_neg hbucket, hother.offered h] at hnone
  cases hnone

/-- With leaves in the order of their pages, the page found has the smallest identifier. -/
theorem firstPage_le (h : fsm.WellFormed) (hsorted : (leaves fsm.capacity 0).Pairwise (· < ·))
    (hfound : fsm.firstPage bucket excluded = some page) {other : PageId}
    (hother : fsm.Suffices bucket excluded other) : page ≤ other := by
  obtain ⟨before, after, hleaves, hleftmost⟩ := firstPage_leftmost h hfound
  have hcapacity := fsm.capacity_pos
  have hlt := hother.1
  have hmem : fsm.capacity - 1 + other.toNat ∈ leaves fsm.capacity 0 :=
    mem_leaves_root (by omega) (by omega)
  rw [hleaves, List.mem_append, List.mem_cons] at hmem
  rw [UInt16.le_iff_toNat_le]
  rcases hmem with hbefore | heq | hafter
  · exact absurd hbefore (hleftmost other hother)
  · omega
  · rw [hleaves, List.pairwise_append, List.pairwise_cons] at hsorted
    have hless := hsorted.2.1.1 _ hafter
    omega

end FreeSpaceMap

namespace Reporting

open FreeSpaceMap

variable {s : Reporting} {requiredSpace : Nat} {excluded : Finset PageId} {page : PageId}

/-- A registered page that is not excluded and whose bucket is at least that of the
required space. -/
def Qualifies (s : Reporting) (requiredSpace : Nat) (excluded : Finset PageId)
    (page : PageId) : Prop :=
  s.Registered page ∧ page ∉ excluded ∧
    ∃ bucket : Bucket, s.map.leafBucket page = bucket ∧ requiredSpace / 512 ≤ bucket.val

/-- What a search returns. -/
structure Finds (s : Reporting) (requiredSpace : Nat) (excluded : Finset PageId)
    (found : Option PageId) : Prop where
  search_eq : s.map.findPageExcluding requiredSpace excluded = some (.ok found)
  sound : ∀ page, found = some page → s.Qualifies requiredSpace excluded page
  complete : found = none ↔ ∀ page, ¬ s.Qualifies requiredSpace excluded page
  not_missed : ∀ page freeSpace, s.lastAccepted page = some freeSpace → page ∉ excluded →
    requiredSpace ≤ freeSpace → found ≠ none
  leftmost : ∀ page, found = some page → ∃ before after,
    leaves s.map.capacity 0 = before ++ (s.map.capacity - 1 + page.toNat) :: after ∧
      ∀ other, s.Qualifies requiredSpace excluded other →
        s.map.capacity - 1 + other.toNat ∉ before
  smallest : (∃ e, s.map.capacity = 2 ^ e) → ∀ page, found = some page →
    ∀ other, s.Qualifies requiredSpace excluded other → page ≤ other

namespace Tracks

/-- The pages that qualify are those that suffice. -/
theorem qualifies_iff (h : s.Tracks) (hspace : requiredSpace < 4096) :
    s.Qualifies requiredSpace excluded page ↔
      s.map.Suffices (bucketOf requiredSpace) excluded page := by
  have hval := bucketOf_val hspace
  constructor
  · rintro ⟨-, hexcluded, bucket, hbucket, hle⟩
    have hlast : s.lastAccepted page ≠ none := by
      rw [Ne, ← h.leafBucket_eq_bot_iff, hbucket]
      exact WithBot.coe_ne_bot
    obtain ⟨freeSpace, hfree⟩ := Option.ne_none_iff_exists'.mp hlast
    refine ⟨(h.of_lastAccepted hfree).1, hexcluded, ?_⟩
    rw [hbucket, WithBot.coe_le_coe, Fin.le_def, hval]
    exact hle
  · rintro ⟨hpage, hexcluded, hle⟩
    cases hlast : s.lastAccepted page with
    | none =>
        rw [h.leafBucket_eq_bot_iff.mpr hlast, le_bot_iff] at hle
        exact absurd hle WithBot.coe_ne_bot
    | some freeSpace =>
        have hbucket := h.leafBucket_eq hlast
        rw [hbucket, WithBot.coe_le_coe, Fin.le_def, hval] at hle
        exact ⟨(h.of_lastAccepted hlast).2.1, hexcluded, _, hbucket, hle⟩

/-- A page whose last reported free space is enough qualifies. -/
theorem qualifies_of_lastAccepted (h : s.Tracks) {freeSpace : Nat}
    (hlast : s.lastAccepted page = some freeSpace) (hexcluded : page ∉ excluded)
    (hle : requiredSpace ≤ freeSpace) : s.Qualifies requiredSpace excluded page := by
  obtain ⟨report, hmem, -, hspace⟩ := mem_of_lastAccepted hlast
  have hfree : freeSpace < 4096 := hspace ▸ (h.accepted report hmem).2.1
  refine ⟨(h.of_lastAccepted hlast).2.1, hexcluded, _, h.leafBucket_eq hlast, ?_⟩
  rw [bucketOf_val hfree]
  exact Nat.div_le_div_right hle

/-- The first page from the left with a sufficient bucket is what a search may return. -/
theorem finds (h : s.Tracks) (hspace : requiredSpace < 4096) (excluded : Finset PageId) :
    s.Finds requiredSpace excluded (s.map.firstPage (bucketOf requiredSpace) excluded) := by
  have hnone : s.map.firstPage (bucketOf requiredSpace) excluded = none →
      ∀ page, ¬ s.Qualifies requiredSpace excluded page := by
    intro hfound page hqualifies
    obtain ⟨hpage, hexcluded, hle⟩ := (h.qualifies_iff hspace).mp hqualifies
    exact not_lt.mpr hle (firstPage_eq_none h.wellFormed hfound hpage hexcluded)
  have hsome : ∀ page, s.map.firstPage (bucketOf requiredSpace) excluded = some page →
      s.Qualifies requiredSpace excluded page := fun page hfound =>
    (h.qualifies_iff hspace).mpr (firstPage_eq_some h.wellFormed hfound)
  refine
    { search_eq := findPageExcluding_eq_firstPage h.wellFormed hspace excluded
      sound := hsome
      complete := ⟨hnone, fun hall => ?_⟩
      not_missed := ?_
      leftmost := ?_
      smallest := ?_ }
  · cases hfound : s.map.firstPage (bucketOf requiredSpace) excluded with
    | none => rfl
    | some page => exact absurd (hsome page hfound) (hall page)
  · intro page freeSpace hlast hexcluded hle hfound
    exact hnone hfound page (h.qualifies_of_lastAccepted hlast hexcluded hle)
  · intro page hfound
    obtain ⟨before, after, hleaves, hleftmost⟩ := firstPage_leftmost h.wellFormed hfound
    exact ⟨before, after, hleaves, fun other hother =>
      hleftmost other ((h.qualifies_iff hspace).mp hother)⟩
  · rintro ⟨e, hcapacity⟩ page hfound other hother
    have hsorted : (leaves s.map.capacity 0).Pairwise (· < ·) := by
      rw [hcapacity]
      exact pairwise_leaves_two_pow e
    exact firstPage_le h.wellFormed hsorted hfound ((h.qualifies_iff hspace).mp hother)

end Tracks

end Reporting

/-- After any sequence of reports, a search returns the qualifying page furthest to the
left, and nothing exactly when no page qualifies; for a capacity that is a power of two
that is the smallest qualifying page. -/
theorem search_sound_complete_leftmost {capacity : Nat} (h : 1 ≤ capacity)
    (reports : List Report) :
    ∃ fsm s, FreeSpaceMap.new capacity = .ok fsm ∧ Reporting.run ⟨fsm, []⟩ reports = some s ∧
      s.map.capacity = capacity ∧ ∀ requiredSpace < 4096, ∀ excluded : Finset PageId,
        ∃ found, s.Finds requiredSpace excluded found := by
  obtain ⟨fsm, hnew, hcapacity, hwell, hbottom⟩ := FreeSpaceMap.new_eq_ok h
  have htracks : Reporting.Tracks ⟨fsm, []⟩ :=
    { wellFormed := hwell
      leafBucket := hbottom
      accepted := fun report hmem => absurd hmem List.not_mem_nil }
  obtain ⟨s, hrun, hs, hkept⟩ := htracks.run reports
  exact ⟨fsm, s, hnew, hrun, hkept.trans hcapacity, fun requiredSpace hspace excluded =>
    ⟨_, hs.finds hspace excluded⟩⟩

/-- Searches after reports that shrink a bucket, with any exclusions. -/
theorem search_sound_complete_leftmost_shrinking :
    ∃ fsm s, FreeSpaceMap.new 3 = .ok fsm ∧
      Reporting.run ⟨fsm, []⟩ shrinkingReports = some s ∧ s.map.capacity = 3 ∧
      ∀ requiredSpace < 4096, ∀ excluded : Finset PageId,
        ∃ found, s.Finds requiredSpace excluded found :=
  search_sound_complete_leftmost (by decide) shrinkingReports

/-- The leaves of a map of three pages belong to the pages 1, 2 and 0, in this order. -/
example : (leaves 3 0).map (· - 2) = [1, 2, 0] := by
  simp [leaves]

end Storage
end TaskPool
