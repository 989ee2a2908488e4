import TaskPool.Storage.Heap.Visits

/-!
# Records a scan shows

A deleted slot has length zero, and a scan leaves out what is empty.  So a record of zero
bytes, which an insert accepts and stores like any other, cannot be told from a deleted one.

Main results:

- Structure `HeapFile.Gained`: one new slot, and no change in the others.
- Theorem `HeapFile.Inserted.gained`: this is what an accepted insert does.
- Theorem `insert_visible_iff`: a scan shows an accepted record exactly when it is not empty.
-/

namespace TaskPool
namespace Storage

open Library

namespace HeapFile

variable {capacity : Nat} {heap heap' : HeapFile} {stores : List RecordStore}
  {record : List UInt8} {address : Nat × Nat} {visited visited' : List (Nat × Nat)}

/-- A full scan returns these items and then nothing. -/
def Yields (heap : HeapFile) (items : List (List UInt8)) : Prop :=
  ∃ last, Exhausts HeapFileScan.next heap.scan items last

/-- The items of a full scan afterwards are those before and one more record. -/
def Shows (heap : HeapFile) (record : List UInt8) (heap' : HeapFile) : Prop :=
  ∃ items items', heap.Yields items ∧ heap'.Yields items' ∧ items'.Perm (record :: items)

/-- The items of a scan that visits these slots. -/
def itemsAt (heap : HeapFile) (visited : List (Nat × Nat)) : List (List UInt8) :=
  (visited.map heap.contentsAt).filter fun data => !data.isEmpty

/-- A full scan returns one list of items. -/
theorem Yields.unique {items items' : List (List UInt8)} (h : heap.Yields items)
    (h' : heap.Yields items') : items = items' := by
  obtain ⟨last, hscan⟩ := h
  obtain ⟨last', hscan'⟩ := h'
  exact (hscan.unique hscan').1

/-- Up to 65535 pages a full scan returns the contents of all slots but the empty ones. -/
theorem Sound.yields (h : heap.Sound) (hle : heap.pages.length ≤ 65535) :
    ∃ visited, heap.SlotsFrom 0 0 visited ∧ heap.Yields (heap.itemsAt visited) := by
  obtain ⟨visited, cursor, hvisited, hscan⟩ := h.exhausts hle 0 0 []
  exact ⟨visited, hvisited, cursor, hscan.erase (f := LoggedScan.inner) LoggedScan.erase_next⟩

/-! ## The new slot -/

/-- The slot with this address is new and holds the record; all others are as before. -/
structure Gained (heap : HeapFile) (address : Nat × Nat) (record : List UInt8)
    (heap' : HeapFile) : Prop where
  slot_eq : heap.slotCountAt address.1 = address.2
  slotCountAt_self : heap'.slotCountAt address.1 = address.2 + 1
  slotCountAt_of_ne : ∀ i, i ≠ address.1 → heap'.slotCountAt i = heap.slotCountAt i
  contentsAt_self : heap'.contentsAt address = record
  contentsAt_old : ∀ other : Nat × Nat, other.2 < heap.slotCountAt other.1 →
    heap'.contentsAt other = heap.contentsAt other

/-- Adding a slot to one page, which may be a new one. -/
theorem gained_of_slotAdded {i : Nat} {page page' : SlottedPage}
    (hcount : heap.slotCountAt i = page.getSlotCount.toNat)
    (hcontents : ∀ slot, slot < page.getSlotCount.toNat → heap.pages[i]? = some page)
    (hadded : page.SlotAdded record page') (hself : heap'.pages[i]? = some page')
    (hother : ∀ j, j ≠ i → heap'.pages[j]? = heap.pages[j]?) :
    heap.Gained (i, page.getSlotCount.toNat) record heap' where
  slot_eq := hcount
  slotCountAt_self := by rw [slotCountAt_of_getElem? hself, hadded.slotCount_eq]
  slotCountAt_of_ne := by
    intro j hj
    rw [slotCountAt, hother j hj, slotCountAt]
  contentsAt_self := by
    rw [contentsAt, hself, Option.bind_some, UInt16.ofNat_toNat, hadded.get_new, Option.getD_some]
  contentsAt_old := by
    rintro ⟨j, slot⟩ hslot
    by_cases hj : j = i
    · subst hj
      simp only [hcount] at hslot
      have hlt := page.getSlotCount.toNat_lt
      rw [contentsAt, hself, contentsAt, hcontents slot hslot, Option.bind_some, Option.bind_some,
        hadded.get_old _ (by rw [toNat_ofNat_u16] <;> omega)]
    · rw [contentsAt, hother j hj, contentsAt]

/-- An accepted insert adds one slot. -/
theorem Inserted.gained (h : heap.Inserted record heap') :
    ∃ address, heap.Gained address record heap' := by
  rcases h with ⟨i, page, page', hpage, -, hadded, hpages⟩ | ⟨-, page', hadded, hpages⟩
  · have hlt := (List.getElem?_eq_some_iff.mp hpage).1
    refine ⟨_, gained_of_slotAdded (slotCountAt_of_getElem? hpage) (fun _ _ => hpage) hadded ?_ ?_⟩
    · rw [hpages, List.getElem?_set_self hlt]
    · intro j hj
      rw [hpages, List.getElem?_set_ne (Ne.symm hj)]
  · refine ⟨_, gained_of_slotAdded (i := heap.pages.length) ?_ ?_ hadded ?_ ?_⟩
    · rw [slotCountAt_of_le le_rfl]
      rfl
    · intro slot hslot
      exact absurd hslot (Nat.not_lt_zero slot)
    · rw [hpages, List.getElem?_concat_length]
    · intro j hj
      rw [hpages, getElem?_concat_of_ne hj]

/-- A scan then visits the new slot besides the old ones. -/
theorem Gained.visited_perm (h : heap.Gained address record heap')
    (hvisited : heap.SlotsFrom 0 0 visited) (hvisited' : heap'.SlotsFrom 0 0 visited') :
    visited'.Perm (address :: visited) := by
  have hnew : address ∉ visited := by
    intro hmem
    have hlt := ((hvisited.mem_iff address).mp hmem).1
    rw [h.slot_eq] at hlt
    exact lt_irrefl _ hlt
  rw [List.perm_ext_iff_of_nodup hvisited'.nodup (List.nodup_cons.mpr ⟨hnew, hvisited.nodup⟩)]
  rintro ⟨i, slot⟩
  rw [hvisited'.mem_iff, List.mem_cons, hvisited.mem_iff, Prod.ext_iff]
  have hslot := h.slot_eq
  by_cases hi : i = address.1
  · subst hi
    simp only [h.slotCountAt_self, hslot, true_and]
    omega
  · simp only [h.slotCountAt_of_ne i hi, hi, false_and, false_or]

/-- The new slot adds its record to the items of a full scan, unless it is empty. -/
theorem Gained.itemsAt_perm (h : heap.Gained address record heap')
    (hvisited : heap.SlotsFrom 0 0 visited) (hvisited' : heap'.SlotsFrom 0 0 visited') :
    (heap'.itemsAt visited').Perm
      (if record.isEmpty then heap.itemsAt visited else record :: heap.itemsAt visited) := by
  have hsame : visited.map heap'.contentsAt = visited.map heap.contentsAt :=
    List.map_congr_left fun other hother =>
      h.contentsAt_old other ((hvisited.mem_iff other).mp hother).1
  have hperm := ((h.visited_perm hvisited hvisited').map heap'.contentsAt).filter
    fun data => !data.isEmpty
  rw [List.map_cons, h.contentsAt_self, hsame, List.filter_cons] at hperm
  cases hempty : record.isEmpty <;> simpa [itemsAt, hempty] using hperm

/-- A scan shows the record of the new slot exactly when it is not empty. -/
theorem Gained.shows_iff (h : heap.Gained address record heap') (hsound : heap.Sound)
    (hsound' : heap'.Sound) (hle : heap.pages.length ≤ 65535)
    (hle' : heap'.pages.length ≤ 65535) : heap.Shows record heap' ↔ record ≠ [] := by
  obtain ⟨visited, hvisited, hyields⟩ := hsound.yields hle
  obtain ⟨visited', hvisited', hyields'⟩ := hsound'.yields hle'
  have hperm := h.itemsAt_perm hvisited hvisited'
  constructor
  · rintro ⟨items, items', hitems, hitems', hmore⟩ rfl
    rw [hitems.unique hyields, hitems'.unique hyields'] at hmore
    have hlength := hmore.length_eq
    rw [hperm.length_eq, if_pos (by rfl), List.length_cons] at hlength
    omega
  · intro hrecord
    rw [if_neg (by simpa using hrecord)] at hperm
    exact ⟨_, _, hyields, hyields', hperm⟩

/-! ## Runs -/

/-- Up to a capacity of 65535 the calls keep one record store per page. -/
theorem holds_of_calls {path : List (HeapOp × HeapFile)} (h : Holds capacity heap stores)
    (hpath : IsPath Calls heap path) :
    EveryState (fun heap => ∃ stores, Holds capacity heap stores) heap path := by
  refine hpath.invariant ⟨stores, h⟩ ?_
  rintro heap op heap' ⟨stores, hholds⟩ ⟨outcome, hrun⟩
  obtain ⟨outcome', heap₁, stores₁, happly, hholds₁, -⟩ := apply_holds hholds op
  rw [hrun, Option.some_inj, Prod.mk.injEq] at happly
  exact ⟨stores₁, happly.2 ▸ hholds₁⟩

/-- An accepted insert adds one slot and shows its record exactly when that is not empty. -/
theorem Holds.shows_iff (h : Holds capacity heap stores) (hsound : heap.Sound)
    (hinsert : heap.insert record = some (.ok (), heap')) :
    heap.Shows record heap' ↔ record ≠ [] := by
  obtain ⟨result, heap₁, stores₁, hrun, hholds₁, hout⟩ := insert_holds h record
  rw [hinsert, Option.some_inj, Prod.mk.injEq] at hrun
  obtain ⟨rfl, rfl⟩ := hrun
  obtain ⟨address, hgained⟩ := ((hout.contract h).inserted rfl).gained
  have happly : heap.apply (.insert record) = some (.inserted (.ok ()), heap') := by
    rw [HeapFile.apply, hinsert]
    rfl
  have hextends := hsound.apply happly
  have hcapacity := h.capacity_le
  have hlength := h.length_eq.trans_le h.length_le
  have hlength₁ := hholds₁.length_eq.trans_le hholds₁.length_le
  exact hgained.shows_iff hsound hextends.sound (by omega) (by omega)

/-- With a page to spare every record of at most 4088 bytes is accepted. -/
theorem Holds.insert_ok (h : Holds capacity heap stores) (record : List UInt8)
    (hlt : heap.pages.length < heap.capacity) (hsize : record.length + 4 ≤ 4092) :
    ∃ heap', heap.insert record = some (.ok (), heap') := by
  obtain ⟨result, heap', stores', hrun, -, hout⟩ := insert_holds h record
  have hcontract := hout.contract h
  cases result with
  | ok value => exact ⟨heap', hrun⟩
  | error e =>
      rcases (hcontract.error_cases e rfl).1 with rfl | rfl
      · have hlarge := hcontract.insufficientPageSpace_iff.mp rfl
        rw [slotSize] at hlarge
        omega
      · have hfull := (hcontract.heapFileFull_iff (by rw [slotSize]; omega)).mp rfl
        omega

end HeapFile

/-- After every run of a heap file of capacity at most 65535: a scan shows a record that an
insert has accepted, besides what it showed before, exactly when the record is not empty. -/
theorem insert_visible_iff {capacity : Nat} {heap heap' : HeapFile} (hle : capacity ≤ 65535)
    (hnew : HeapFile.new capacity = .ok heap) {path : List (HeapOp × HeapFile)}
    (hpath : IsPath HeapFile.Calls heap path) {record : List UInt8}
    (hinsert : (lastState heap path).insert record = some (.ok (), heap')) :
    (lastState heap path).Shows record heap' ↔ record ≠ [] := by
  have hpos : 0 < capacity := by
    by_contra hzero
    rw [HeapFile.new, FreeSpaceMap.new, dif_pos (by omega)] at hnew
    cases hnew
  obtain ⟨heap₀, hnew₀, hholds₀⟩ := HeapFile.new_holds hpos hle
  rw [hnew, Except.ok.injEq] at hnew₀
  subst hnew₀
  obtain ⟨stores, hholds⟩ := (HeapFile.holds_of_calls hholds₀ hpath).last
  have hsound := (HeapFile.sound_of_calls (HeapFile.new_sound hnew).1 hpath).last
  exact hholds.shows_iff hsound hinsert

/-- A record of one byte, inserted behind a page that was created before. -/
theorem insert_visible_iff_created : ∃ heap path heap', HeapFile.new 2 = .ok heap ∧
    IsPath HeapFile.Calls heap path ∧ path.map Prod.fst = [HeapOp.createPage] ∧
    (lastState heap path).insert [7] = some (.ok (), heap') ∧
    ((lastState heap path).Shows [7] heap' ↔ [7] ≠ ([] : List UInt8)) := by
  obtain ⟨heap, hnew, hholds⟩ := HeapFile.new_holds (show 0 < 2 by omega) (by omega)
  obtain ⟨hsound, hempty, hcapacity⟩ := HeapFile.new_sound hnew
  obtain ⟨path, hpath, hops, -, hlast⟩ :=
    hsound.exists_creations (n := 1) (by simp [hempty, hcapacity])
  obtain ⟨stores, hholds'⟩ := (HeapFile.holds_of_calls hholds hpath).last
  obtain ⟨heap', hinsert⟩ := hholds'.insert_ok [7]
    (by simp [hlast, hempty, hholds'.capacity_eq]) (by simp)
  exact ⟨heap, path, heap', hnew, hpath, hops, hinsert,
    insert_visible_iff (by omega) hnew hpath hinsert⟩

/-- The empty record is accepted by a new heap file, and no scan shows it. -/
theorem empty_record_invisible : ∃ heap heap', HeapFile.new 1 = .ok heap ∧
    heap.insert [] = some (.ok (), heap') ∧ ¬ heap.Shows [] heap' := by
  obtain ⟨heap, hnew, hholds⟩ := HeapFile.new_holds (show 0 < 1 by omega) (by omega)
  obtain ⟨hsound, hempty, hcapacity⟩ := HeapFile.new_sound hnew
  obtain ⟨heap', hinsert⟩ := hholds.insert_ok [] (by simp [hempty, hcapacity]) (by simp)
  exact ⟨heap, heap', hnew, hinsert, fun hshows =>
    (hholds.shows_iff hsound hinsert).mp hshows rfl⟩

end Storage
end TaskPool
