import TaskPool.Storage.Heap.PageIds

/-!
# Space that a page gives back

Inserts made directly on a page and deletes never raise its free space, so the leaf of the
page keeps promising enough.  Compaction, which a client calls on the page behind the back of
the free space map, makes the free space as large as the records of the page, and the map is
not told: a page whose leaf lies below is not found any more.

Main results:

- Definition `HeapFile.use`: the calls on the heap file and on its pages, compaction included.
- Theorem `HeapFile.Covered.findable`: leaves that promise enough are enough for an insert.
- Theorem `HeapFile.Covered.covers_iff_of_use`: which uses keep the leaves promising enough.
- Theorem `reclaimed_space_found_iff`: in which runs reclaimed space is found again.
-/

namespace TaskPool
namespace Storage

open Library

/-! ## Pages -/

namespace SlottedPage

/-- The bytes of all records of a page. -/
def recordBytes (page : SlottedPage) : Nat :=
  ((List.range page.getSlotCount.toNat).map page.slotLength).sum

variable {page next : SlottedPage} {record : List UInt8}

/-- Appending a record makes no room. -/
theorem room_of_appended (happended : Appended page record next) :
    next.room ≤ page.room := by
  have hcount := happended.getSlotCount_eq
  have hfree := happended.freeEnd_eq
  simp only [room, directoryEnd]
  omega

/-- A call on a page never raises its free space. -/
theorem Inside.room_apply_le (h : page.Inside) {op : PageOp} {outcome : PageOutcome}
    (happly : page.apply op = some (outcome, next)) : next.room ≤ page.room := by
  cases op with
  | insert record =>
      by_cases hfits : record.length + 4 ≤ page.freeEnd.toNat - page.directoryEnd
      · obtain ⟨next', hinsert, happended⟩ := insert_of_fits h.bounded record hfits
        rw [SlottedPage.apply, hinsert] at happly
        cases happly
        exact room_of_appended happended
      · rw [SlottedPage.apply, insert_of_not_fits h.bounded record (by omega)] at happly
        cases happly
        exact le_rfl
  | delete slot =>
      by_cases hslot : slot.toNat < page.getSlotCount.toNat
      · obtain ⟨next', hdelete, hwritten⟩ := delete_of_lt h.bounded slot hslot
        rw [SlottedPage.apply, hdelete] at happly
        cases happly
        rw [room, room, directoryEnd, directoryEnd, hwritten.getSlotCount_eq, hwritten.freeEnd_eq]
      · rw [SlottedPage.apply, delete_of_le (Nat.le_of_not_lt hslot)] at happly
        cases happly
        exact le_rfl

/-- A compaction keeps everything inside the page. -/
theorem Inside.of_compact (h : page.Inside) (hcompact : page.compact = some next) : next.Inside :=
  have hperform : page.perform .compact = some next := hcompact
  h.of_perform hperform

/-- Compaction leaves as much free space as there are record bytes. -/
theorem Inside.room_compact (h : page.Inside) (hcompact : page.compact = some next) :
    next.room = page.recordBytes := by
  have hmove : page.Movable := ⟨h.target_le_of_compact hcompact, h.extent_le⟩
  rw [compact_eq_some hmove, Option.some_inj] at hcompact
  subst hcompact
  rw [room, freeEnd_compacted hmove, directoryEnd_compacted hmove, compactTarget,
    Nat.add_sub_cancel_left, recordBytes]

end SlottedPage

/-! ## Uses of a heap file -/

/-- A call on the heap file or, through `get_page_mut`, on one of its pages. -/
inductive HeapUse where
  | call (op : HeapOp)
  | compact (pageId : PageId)

namespace HeapFile

/-- The heap file after a use. -/
def use (heap : HeapFile) : HeapUse → Option HeapFile
  | .call op => do
    let (_, heap) ← heap.apply op
    return heap
  | .compact pageId =>
    match heap.getPage pageId with
    | .error _ => some heap
    | .ok page => do
      let page ← page.compact
      return heap.setPage pageId page

/-- The leaf of a page has at least the bucket of this much free space. -/
def LeafSuffices (heap : HeapFile) (pageId : PageId) (freeSpace : Nat) : Prop :=
  ∃ bucket leaf, FreeSpaceMap.getBucketId freeSpace = .ok bucket ∧
    heap.fsm.getLeafBucket pageId = some (.ok (some leaf)) ∧ bucket ≤ leaf

/-- The leaf of every page suffices for its free space; and no insert creates a page or
reports a full heap file while an existing page has room for the record. -/
structure Findable (heap : HeapFile) : Prop where
  leafSuffices : ∀ pageId page, heap.getPage pageId = .ok page →
    ∃ freeSpace, page.freeSpace = some freeSpace ∧ heap.LeafSuffices pageId freeSpace.toNat
  insert_finds : ∀ record result heap', heap.insert record = some (result, heap') →
    (∃ page ∈ heap.pages, page.HasRoom record) →
      heap'.pages.length = heap.pages.length ∧ result ≠ .error .heapFileFull

/-- A page that is compacted has a leaf that suffices for the bytes of its records. -/
def CompactsCovered (heap : HeapFile) (use : HeapUse) : Prop :=
  ∀ pageId, use = .compact pageId → ∀ page, heap.getPage pageId = .ok page →
    heap.LeafSuffices pageId page.recordBytes

/-- The leaf of every page has at least the bucket of the room of the page. -/
def Covers (heap : HeapFile) : Prop :=
  ∀ (pageId : PageId) page, heap.pages[pageId.toNat]? = some page →
    (FreeSpaceMap.bucketOf page.room : WithBot Bucket) ≤ heap.fsm.leafBucket pageId

variable {capacity : Nat} {heap heap' : HeapFile} {pageId : PageId} {page : SlottedPage}
  {record : List UInt8} {result : Except HeapFileError Unit} {reqSpace : Nat}
  {excluded : Finset PageId} {u : HeapUse}

/-- A page is found under its index, and only there. -/
theorem getPage_eq_ok_iff :
    heap.getPage pageId = .ok page ↔ heap.pages[pageId.toNat]? = some page := by
  rw [getPage]
  cases heap.pages[pageId.toNat]? <;> simp

/-- A leaf suffices when its bucket is not lower than that of the free space. -/
theorem Sound.leafSuffices_iff (h : heap.Sound) (hpage : pageId.toNat < heap.pages.length)
    {freeSpace : Nat} (hfree : freeSpace < 4096) : heap.LeafSuffices pageId freeSpace ↔
      (FreeSpaceMap.bucketOf freeSpace : WithBot Bucket) ≤ heap.fsm.leafBucket pageId := by
  have hfsm := h.fsm_capacity_eq
  have hle := h.length_le
  rw [LeafSuffices, FreeSpaceMap.getBucketId_eq_ok hfree,
    FreeSpaceMap.getLeafBucket_eq_ok (by omega), WithBot.coe_le_iff]
  constructor
  · rintro ⟨bucket, leaf, hbucket, hleaf, hsuffices⟩
    rw [Except.ok.injEq] at hbucket
    exact ⟨leaf, Except.ok.inj (Option.some_inj.mp hleaf), hbucket ▸ hsuffices⟩
  · rintro ⟨leaf, hleaf, hsuffices⟩
    exact ⟨_, leaf, rfl, by rw [hleaf]; rfl, hsuffices⟩

/-! ## Leaves that promise enough -/

/-- Changing one page and its leaf. -/
theorem Covers.change (h : heap.Covers) (pageId : PageId)
    (hself : ∀ page, heap'.pages[pageId.toNat]? = some page →
      (FreeSpaceMap.bucketOf page.room : WithBot Bucket) ≤ heap'.fsm.leafBucket pageId)
    (hpages : ∀ i, i ≠ pageId.toNat → heap'.pages[i]? = heap.pages[i]?)
    (hleaves : ∀ other, other ≠ pageId →
      heap'.fsm.leafBucket other = heap.fsm.leafBucket other) : heap'.Covers := by
  intro other page hpage
  by_cases hother : other = pageId
  · subst hother
    exact hself page hpage
  · rw [hleaves other hother]
    exact h other page (hpages _ (fun heq => hother (UInt16.toNat_inj.mp heq)) ▸ hpage)

/-- The invariant: a sound heap file, all of whose pages have identifiers, with leaves that
promise enough. -/
structure Covered (heap : HeapFile) : Prop where
  sound : heap.Sound
  capacity_le : heap.capacity ≤ 65535
  covers : heap.Covers

namespace Covered

/-- Creating a page, or failing to, leaves every page a leaf that promises enough. -/
theorem createPage {created : Except HeapFileError PageId} (h : heap.Covered)
    (hrun : heap.createPage = some (created, heap')) : heap'.Covered := by
  rcases h.sound.createPage_inv hrun with ⟨-, rfl⟩ | ⟨hlt, -, hpages, hsame, hreported, hsound⟩
  · exact h
  · have hcapacity := h.capacity_le
    have hid : (UInt16.ofNat heap.pages.length).toNat = heap.pages.length :=
      toNat_ofNat_u16 (by omega)
    refine ⟨hsound, hsame.trans_le hcapacity, h.covers.change _ (fun page hpage => ?_) (fun i hi => ?_)
      hreported.leafBucket_of_ne⟩
    · rw [hpages, hid, List.getElem?_concat_length, Option.some_inj] at hpage
      rw [hreported.leafBucket_self, ← hpage, SlottedPage.room_new]
    · rw [hpages, getElem?_concat_of_ne (hid ▸ hi)]

/-- An attempt to put a record into a page leaves it a leaf that promises enough. -/
theorem insertPage (h : heap.Covered)
    (hrun : heap.insertPage pageId record = some (result, heap')) : heap'.Covered := by
  rcases h.sound.insertPage_inv hrun with
    rfl | ⟨page, next, hpage, hpages, hcapacity, hreported, hsound⟩
  · exact h
  · have hlt := (List.getElem?_eq_some_iff.mp hpage).1
    refine ⟨hsound, hcapacity.trans_le h.capacity_le, h.covers.change _ (fun found hfound => ?_)
      (fun i hi => ?_) hreported.leafBucket_of_ne⟩
    · rw [hpages, List.getElem?_set_self hlt, Option.some_inj] at hfound
      rw [hreported.leafBucket_self, hfound]
    · rw [hpages, List.getElem?_set_ne (Ne.symm hi)]

/-- Changing a page behind the back of the map. -/
theorem covers_setPage_iff (h : heap.Covered) (hpage : pageId.toNat < heap.pages.length)
    (next : SlottedPage) : (heap.setPage pageId next).Covers ↔
      (FreeSpaceMap.bucketOf next.room : WithBot Bucket) ≤ heap.fsm.leafBucket pageId := by
  have hself : (heap.setPage pageId next).pages[pageId.toNat]? = some next :=
    List.getElem?_set_self hpage
  refine ⟨fun hcovers => hcovers pageId next hself, fun hsuffices => ?_⟩
  refine h.covers.change pageId (fun found hfound => ?_) (fun i hi => ?_) fun other _ => rfl
  · rw [hself, Option.some_inj] at hfound
    exact hfound ▸ hsuffices
  · exact List.getElem?_set_ne (Ne.symm hi)

/-- A call keeps the invariant. -/
theorem apply {op : HeapOp} {outcome : HeapOutcome} (h : heap.Covered)
    (hrun : heap.apply op = some (outcome, heap')) : heap'.Covered := by
  have hextends := h.sound.apply hrun
  refine ⟨hextends.sound, hextends.capacity_eq.trans_le h.capacity_le, ?_⟩
  cases op with
  | createPage =>
      obtain ⟨⟨created, heap₁⟩, hcreate, hrest⟩ := Option.bind_eq_some_iff.mp hrun
      cases hrest
      exact (h.createPage hcreate).covers
  | insert record =>
      obtain ⟨⟨result, heap₁⟩, hinsert, hrest⟩ := Option.bind_eq_some_iff.mp hrun
      cases hrest
      exact (insert_keeps (fun _ _ _ => createPage) (fun _ _ _ _ => insertPage) h hinsert).covers
  | page pageId op =>
      rcases apply_page_inv hrun with rfl | ⟨page, result, next, hpage, happly, rfl⟩
      · exact h.covers
      · have hinside := h.sound.inside_of_getElem? hpage
        have hroom := hinside.bounded.room_le
        rw [h.covers_setPage_iff (List.getElem?_eq_some_iff.mp hpage).1]
        refine (WithBot.coe_le_coe.mpr ?_).trans (h.covers pageId page hpage)
        exact FreeSpaceMap.bucketOf_mono (hinside.room_apply_le happly) (by omega)

/-! ## Inserts -/

/-- A page that the map names exists and is not excluded. -/
theorem exists_of_find (h : heap.Covered) (hspace : reqSpace < 4096)
    (hfind : heap.fsm.findPageExcluding reqSpace excluded = some (.ok (some pageId))) :
    ∃ page, heap.pages[pageId.toNat]? = some page := by
  rw [FreeSpaceMap.findPageExcluding_eq_firstPage h.sound.wellFormed hspace, Option.some_inj,
    Except.ok.injEq] at hfind
  obtain ⟨-, -, hsuffices⟩ := FreeSpaceMap.firstPage_eq_some h.sound.wellFormed hfind
  have hlt := (h.sound.registered pageId).mp (ne_bot_of_le_ne_bot WithBot.coe_ne_bot hsuffices)
  exact ⟨_, List.getElem?_eq_getElem hlt⟩

/-- When the map names no page, every page that is not excluded is too full. -/
theorem full_of_find (h : heap.Covered) (hspace : reqSpace < 4096)
    (hfind : heap.fsm.findPageExcluding reqSpace excluded = some (.ok none))
    (hpage : heap.pages[pageId.toNat]? = some page) (hnot : pageId ∉ excluded) :
    page.room < reqSpace := by
  have hlength := h.sound.length_le
  have hfsm := h.sound.fsm_capacity_eq
  have hlt := (List.getElem?_eq_some_iff.mp hpage).1
  have hle := (h.sound.inside_of_getElem? hpage).bounded.room_le
  rw [FreeSpaceMap.findPageExcluding_eq_firstPage h.sound.wellFormed hspace, Option.some_inj,
    Except.ok.injEq] at hfind
  have hbelow := (h.covers pageId page hpage).trans_lt
    (FreeSpaceMap.firstPage_eq_none h.sound.wellFormed hfind (by omega) hnot)
  rw [WithBot.coe_lt_coe] at hbelow
  by_contra hfits
  exact absurd hbelow (not_lt.mpr (FreeSpaceMap.bucketOf_mono (by omega) (by omega)))

/-- The retry loop finds a page with room, as long as only full ones are excluded. -/
theorem insertLoop_finds (h : heap.Covered) (hreq : reqSpace = record.length + 4)
    (hexcluded : ∀ pageId ∈ excluded, ∀ page, heap.pages[pageId.toNat]? = some page →
      page.room < reqSpace)
    (hroom : ∃ page ∈ heap.pages, reqSpace ≤ page.room)
    (hrun : heap.insertLoop record reqSpace excluded = some (result, heap')) :
    result = .ok () ∧ heap'.pages.length = heap.pages.length := by
  have hspace : reqSpace < 4096 := by
    obtain ⟨page, hpage, hfits⟩ := hroom
    have hle := (h.sound.inside page hpage).bounded.room_le
    omega
  have hfree : ∀ pageId page (free : UInt16), heap.getPage pageId = .ok page →
      page.freeSpace = some free →
      heap.pages[pageId.toNat]? = some page ∧ free.toNat = page.room := by
    intro pageId page free hpage hfree
    rw [getPage_eq_ok_iff] at hpage
    obtain ⟨free', hfree', hnat⟩ :=
      (h.sound.inside_of_getElem? hpage).bounded.freeSpace_eq_room
    rw [hfree, Option.some_inj] at hfree'
    exact ⟨hpage, hfree' ▸ hnat⟩
  fun_induction insertLoop heap record reqSpace excluded with
  | case1 _ _ => cases hrun
  | case2 excluded e hfind =>
      rw [FreeSpaceMap.findPageExcluding_eq_firstPage h.sound.wellFormed hspace] at hfind
      cases hfind
  | case3 excluded hfind =>
      obtain ⟨page, hmem, hfits⟩ := hroom
      obtain ⟨i, hpage⟩ := List.getElem?_of_mem hmem
      have hlt := (List.getElem?_eq_some_iff.mp hpage).1
      have hcapacity := h.sound.length_le.trans h.capacity_le
      have hid : (UInt16.ofNat i).toNat = i := toNat_ofNat_u16 (by omega)
      rw [← hid] at hpage
      by_cases hin : UInt16.ofNat i ∈ excluded
      · have hfull := hexcluded _ hin page hpage
        omega
      · have hfull := h.full_of_find hspace hfind hpage hin
        omega
  | case4 excluded pageId hfind e hpage =>
      obtain ⟨page, hfound⟩ := h.exists_of_find hspace hfind
      rw [getPage_eq_ok hfound] at hpage
      cases hpage
  | case5 _ _ _ _ _ _ => cases hrun
  | case6 excluded pageId hfind page hget free hspaceOf hfits =>
      obtain ⟨hpage, hnat⟩ := hfree pageId page free hget hspaceOf
      rcases h.sound.insertPage_cases hpage record with
        ⟨-, next, heap₁, hinsert, -, hpages, -⟩ | ⟨hfull, -⟩
      · rw [hinsert, Option.some_inj, Prod.mk.injEq] at hrun
        obtain ⟨rfl, rfl⟩ := hrun
        exact ⟨rfl, by rw [hpages, List.length_set]⟩
      · omega
  | case7 excluded pageId hfind page hget free hspaceOf hfull ih =>
      obtain ⟨hpage, hnat⟩ := hfree pageId page free hget hspaceOf
      refine ih (fun other hother found hfound => ?_) hrun
      rcases Finset.mem_insert.mp hother with rfl | hother
      · rw [hpage, Option.some_inj] at hfound
        subst hfound
        omega
      · exact hexcluded other hother found hfound

/-- Leaves that promise enough are enough for an insert to find the room there is. -/
theorem findable (h : heap.Covered) : heap.Findable where
  leafSuffices := by
    intro pageId page hpage
    rw [getPage_eq_ok_iff] at hpage
    have hbounded := (h.sound.inside_of_getElem? hpage).bounded
    have hle := hbounded.room_le
    obtain ⟨free, hfree, hnat⟩ := hbounded.freeSpace_eq_room
    refine ⟨free, hfree, ?_⟩
    rw [hnat, h.sound.leafSuffices_iff (List.getElem?_eq_some_iff.mp hpage).1 (by omega)]
    exact h.covers pageId page hpage
  insert_finds := by
    rintro record result heap' hrun ⟨page, hmem, hroom⟩
    have hbounded := (h.sound.inside page hmem).bounded
    have hle := hbounded.room_le
    rw [hbounded.hasRoom_iff] at hroom
    rw [HeapFile.insert, if_neg (by
      simp only [slotSize, maxAvailableSlottedPageSpace, pageSize, headerSize]; omega)] at hrun
    obtain ⟨rfl, hlength⟩ := h.insertLoop_finds rfl (by simp) ⟨page, hmem, hroom⟩ hrun
    exact ⟨hlength, by rintro ⟨⟩⟩

end Covered

/-! ## Runs -/

/-- What a compaction of a page has done. -/
theorem use_compact_inv (hrun : heap.use (.compact pageId) = some heap') :
    heap.pages[pageId.toNat]? = none ∧ heap' = heap ∨
      ∃ page next, heap.pages[pageId.toNat]? = some page ∧ page.compact = some next ∧
        heap' = heap.setPage pageId next := by
  cases hpage : heap.pages[pageId.toNat]? with
  | none =>
      simp only [HeapFile.use, getPage, hpage] at hrun
      cases hrun
      exact .inl ⟨rfl, rfl⟩
  | some page =>
      simp only [HeapFile.use, getPage_eq_ok hpage] at hrun
      obtain ⟨next, hcompact, hrest⟩ := Option.bind_eq_some_iff.mp hrun
      cases hrest
      exact .inr ⟨page, next, rfl, hcompact, rfl⟩

/-- A use leaves a later heap file of the same run. -/
theorem Sound.use (h : heap.Sound) (hrun : heap.use u = some heap') : heap.Extends heap' := by
  cases u with
  | call op =>
      obtain ⟨⟨outcome, heap₁⟩, happly, hrest⟩ := Option.bind_eq_some_iff.mp hrun
      cases hrest
      exact h.apply happly
  | compact pageId =>
      rcases use_compact_inv hrun with ⟨-, rfl⟩ | ⟨page, next, hpage, hcompact, rfl⟩
      · exact Extends.refl h
      · exact (Extends.refl h).setPage ((h.inside_of_getElem? hpage).of_compact hcompact)

/-- After a use the leaves promise enough, unless it has compacted a page with more record
bytes than its leaf promises. -/
theorem Covered.covers_iff_of_use (h : heap.Covered) (hrun : heap.use u = some heap') :
    heap'.Covers ↔ heap.CompactsCovered u := by
  cases u with
  | call op =>
      obtain ⟨⟨outcome, heap₁⟩, happly, hrest⟩ := Option.bind_eq_some_iff.mp hrun
      cases hrest
      exact iff_of_true (h.apply happly).covers (by rintro pageId ⟨⟩)
  | compact pageId =>
      rcases use_compact_inv hrun with ⟨hpage, rfl⟩ | ⟨page, next, hpage, hcompact, rfl⟩
      · refine iff_of_true h.covers ?_
        rintro other ⟨⟩ page hfound
        rw [getPage_eq_ok_iff, hpage] at hfound
        cases hfound
      · have hinside := h.sound.inside_of_getElem? hpage
        have hlt := (List.getElem?_eq_some_iff.mp hpage).1
        have hroom := hinside.room_compact hcompact
        have hle := (hinside.of_compact hcompact).bounded.room_le
        rw [h.covers_setPage_iff hlt, hroom, ← h.sound.leafSuffices_iff hlt (by omega)]
        constructor
        · rintro hsuffices other ⟨⟩ found hfound
          rw [getPage_eq_ok_iff, hpage, Option.some_inj] at hfound
          exact hfound ▸ hsuffices
        · intro hcovered
          exact hcovered pageId rfl page (getPage_eq_ok hpage)

/-- With an identifier for every page, the space is findable when the leaves promise enough. -/
theorem Sound.findable_iff (h : heap.Sound) (hle : heap.capacity ≤ 65535) :
    heap.Findable ↔ heap.Covers := by
  refine ⟨fun hfindable pageId page hpage => ?_, fun hcovers => Covered.findable ⟨h, hle, hcovers⟩⟩
  have hbounded := (h.inside_of_getElem? hpage).bounded
  have hroom := hbounded.room_le
  obtain ⟨free, hfree, hnat⟩ := hbounded.freeSpace_eq_room
  obtain ⟨free', hfree', hsuffices⟩ := hfindable.leafSuffices pageId page (getPage_eq_ok hpage)
  rw [hfree, Option.some_inj] at hfree'
  subst hfree'
  rw [hnat, h.leafSuffices_iff (List.getElem?_eq_some_iff.mp hpage).1 (by omega)] at hsuffices
  exact hsuffices

end HeapFile

/-- In a run of a heap file of capacity at most 65535, in which pages are also compacted,
reclaimed space is found again in every state exactly when every page that is compacted has a
leaf that suffices for the bytes of its records. -/
theorem reclaimed_space_found_iff {capacity : Nat} {heap : HeapFile} (hle : capacity ≤ 65535)
    (hnew : HeapFile.new capacity = .ok heap) {path : List (HeapUse × HeapFile)}
    (hpath : IsPath (fun heap use heap' => heap.use use = some heap') heap path) :
    EveryState HeapFile.Findable heap path ↔
      EveryStep (fun heap use _ => heap.CompactsCovered use) heap path := by
  obtain ⟨hsound, hempty, hcapacity⟩ := HeapFile.new_sound hnew
  have hstates : EveryState (fun heap => heap.Sound ∧ heap.capacity ≤ 65535) heap path :=
    hpath.invariant ⟨hsound, by omega⟩ fun heap use heap' h hrun =>
      ⟨(h.1.use hrun).sound, (h.1.use hrun).capacity_eq.trans_le h.2⟩
  have hcovers : heap.Covers := fun pageId page hpage => by simp [hempty] at hpage
  have hstart : heap.Covered := ⟨hsound, by omega, hcovers⟩
  have hsteps : EveryStep (fun _ _ heap' => heap'.Covers) heap path ↔
      EveryStep (fun heap use _ => heap.CompactsCovered use) heap path := by
    refine hpath.everyStep_iff hstart (fun heap use heap' h hrun hcompacts => ?_)
      fun heap use heap' h hrun hnext => (h.covers_iff_of_use hrun).mp hnext
    have hnext := (h.covers_iff_of_use hrun).mpr hcompacts
    have hextends := h.sound.use hrun
    exact ⟨⟨hextends.sound, hextends.capacity_eq.trans_le h.capacity_le, hnext⟩, hnext⟩
  rw [← hsteps]
  constructor
  · intro hfindable
    exact ((hstates.and hfindable).imp fun _ h => (h.1.1.findable_iff h.1.2).mp h.2).everyStep.imp
      fun _ _ _ h => h.2
  · intro hnext
    exact (hstates.and (hnext.everyState hcovers)).imp
      fun _ h => (h.1.1.findable_iff h.1.2).mpr h.2

/-- A new heap file for one page. -/
def onePage : HeapFile where
  pages := []
  fsm := { nodes := [⟨⊥, none⟩], capacity := 1, capacity_pos := Nat.one_pos, length_eq := rfl }
  capacity := 1

/-- A record that fills most of the page, and a compaction of the page. -/
@[irreducible] def compactingUses : List HeapUse :=
  [.call (.insert (List.replicate 4000 7)), .compact 0]

/-- The run of these uses. -/
def compactingPath : List (HeapUse × HeapFile) :=
  follow HeapFile.use onePage compactingUses

/-- The run of one insert and one compaction on a heap file of one page. -/
theorem reclaimed_space_found_iff_onePage : HeapFile.new 1 = .ok onePage ∧
    IsPath (fun heap use heap' => heap.use use = some heap') onePage compactingPath ∧
    (EveryState HeapFile.Findable onePage compactingPath ↔
      EveryStep (fun heap use _ => heap.CompactsCovered use) onePage compactingPath) := by
  have hnew : HeapFile.new 1 = .ok onePage := rfl
  have hpath := isPath_follow HeapFile.use onePage compactingUses
  exact ⟨hnew, hpath, reclaimed_space_found_iff (by omega) hnew hpath⟩

/-- Both uses succeed; the page then reports 4000 free bytes, and there is no place for a
record of 1000. -/
theorem compacted_page_not_found : compactingPath.length = 2 ∧
    (lastState onePage compactingPath).pages.map SlottedPage.freeSpace = [some 4000] ∧
    ((lastState onePage compactingPath).insert (List.replicate 1000 1)).map Prod.fst =
      some (.error .heapFileFull) ∧
    ¬ EveryState HeapFile.Findable onePage compactingPath := by
  have hlength : compactingPath.length = 2 := by decide +kernel
  have hfree : (lastState onePage compactingPath).pages.map SlottedPage.freeSpace =
      [some 4000] := by
    decide +kernel
  have hinsert : ((lastState onePage compactingPath).insert (List.replicate 1000 1)).map Prod.fst =
      some (.error .heapFileFull) := by
    decide +kernel
  refine ⟨hlength, hfree, hinsert, fun hfindable => ?_⟩
  obtain ⟨⟨result, heap'⟩, hrun, hresult⟩ := Option.map_eq_some_iff.mp hinsert
  obtain ⟨page, hpage, hspace⟩ := List.map_eq_singleton_iff.mp hfree
  have hroom : page.HasRoom (List.replicate 1000 1) :=
    ⟨4000, hspace, by rw [List.length_replicate]; decide⟩
  have hmem : page ∈ (lastState onePage compactingPath).pages := by simp [hpage]
  exact (hfindable.last.insert_finds _ _ _ hrun ⟨page, hmem, hroom⟩).2 hresult

end Storage
end TaskPool
