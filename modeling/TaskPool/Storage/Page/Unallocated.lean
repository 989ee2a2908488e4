import TaskPool.Storage.Page.RecordStore
import Mathlib.Data.List.GetD

/-!
# Reading a slot that was never allocated

`get` decodes the four bytes where the directory entry of a slot would be without asking
whether the slot exists.  Behind the directory these bytes are zeros of the free region or
bytes of accepted records, deleted ones included: inserts and deletes leave there, from the
end of the page downwards, the records in the order in which they were accepted.

Main results:

- Definition `RecordStore.imageAt`: the bytes behind the directory of a store's page.
- Theorem `RecordStore.Shows.apply`: inserts and deletes keep the image.
- Theorem `get_unallocated_iff`: which unallocated slots read as empty.
- Theorem `unallocated_slot_not_empty`: a panic and a slot that reads the page header.
-/

namespace TaskPool
namespace Storage

open Library

namespace SlottedPage

/-! ## Bytes that an insert leaves alone -/

/-- An insert writes only the header, the record and the new directory entry. -/
theorem insert_frame {page next : SlottedPage} {record : List UInt8} {slot : SlotId}
    (h : page.insert record = some (.ok slot, next)) {a : Nat}
    (hlow : 8 + 4 * page.getSlotCount.toNat ≤ a)
    (hhigh : a < page.freeEnd.toNat - record.length) :
    next.data.byteAt a = page.data.byteAt a := by
  obtain ⟨free, -, h⟩ := Option.bind_eq_some_iff.mp h
  dsimp only at h
  split_ifs at h with hfull hshort
  · simp at h
  obtain ⟨data, hcopy, h⟩ := Option.bind_eq_some_iff.mp h
  obtain ⟨count, -, h⟩ := Option.bind_eq_some_iff.mp h
  obtain ⟨written, hwrite, h⟩ := Option.bind_eq_some_iff.mp h
  simp only [Option.pure_def, Option.some_inj, Prod.mk.injEq] at h
  have hend := Buffer.le_of_copyFromSlice_eq_some hcopy
  have hcopied : ∀ b, b < page.freeEnd.toNat - record.length → data.byteAt b = page.data.byteAt b :=
    fun b hb => Buffer.byteAt_of_copyFromSlice hcopy (.inl hb)
  have hslots : ((⟨data⟩ : SlottedPage).setFreeEnd
      (UInt16.ofNat (page.freeEnd.toNat - record.length))).getSlotCount = page.getSlotCount := by
    rw [getSlotCount_setFreeEnd]
    exact Buffer.u16At_congr fun b _ hb => hcopied b (by omega)
  rw [hslots] at hwrite
  simp only [pageSize] at hend
  obtain ⟨written', hwrite', hwritten⟩ := writeSlot_eq_some
    (((⟨data⟩ : SlottedPage).setFreeEnd
      (UInt16.ofNat (page.freeEnd.toNat - record.length))).setSlotCount count)
    page.getSlotCount (UInt16.ofNat (page.freeEnd.toNat - record.length))
    (UInt16.ofNat record.length) (by omega)
  rw [hwrite', Option.some_inj] at hwrite
  rw [← h.2, ← hwrite, hwritten.outside a (by omega), byteAt_setSlotCount _ _ (by omega),
    byteAt_setFreeEnd _ _ (by omega), hcopied a hhigh]

/-! ## Slots that read as empty -/

/-- Reading a slot that ends behind the page panics. -/
theorem readSlot_eq_none (page : SlottedPage) {slot : SlotId} (h : 4096 < 8 + 4 * slot.toNat) :
    page.readSlot slot = none := by
  simp only [readSlot, headerSize, slotSize, Nat.mul_comm slot.toNat 4, Option.bind_eq_bind,
    Option.bind_eq_none_iff]
  intro offset _ length hlength
  rw [Buffer.getU16, if_neg (by simp only [pageSize]; omega)] at hlength
  cases hlength

/-- A slot reads as empty when its directory entry lies inside the page and holds an offset
inside the page and the length zero. -/
theorem get_eq_nil_iff (page : SlottedPage) (slot : SlotId) :
    page.get slot = some [] ↔ 8 + 4 * slot.toNat ≤ 4096 ∧ page.slotLength slot.toNat = 0 ∧
      page.slotOffset slot.toNat ≤ 4096 := by
  by_cases hinside : 8 + 4 * slot.toNat ≤ 4096
  · rw [SlottedPage.get, readSlot_eq_some page hinside]
    simp only [Option.bind_eq_bind, Option.bind_some, hinside, true_and]
    have hoffset : (page.data.u16At (4 + 4 * slot.toNat)).toNat = page.slotOffset slot.toNat := rfl
    have hlength : (page.data.u16At (4 + 4 * slot.toNat + 2)).toNat =
        page.slotLength slot.toNat := rfl
    by_cases hfits : page.slotOffset slot.toNat + page.slotLength slot.toNat ≤ 4096
    · rw [checkedAdd_eq_some (by omega), Option.bind_some, hoffset, hlength,
        toNat_ofNat_u16 (by omega), Buffer.slice_eq_window _ (by omega) hfits,
        Nat.add_sub_cancel_left, Option.some_inj, ← List.length_eq_zero_iff, Buffer.length_window]
      omega
    · constructor
      · intro hget
        obtain ⟨tupleEnd, hend, hslice⟩ := Option.bind_eq_some_iff.mp hget
        rw [checkedAdd] at hend
        split_ifs at hend with hsum
        rw [Option.some_inj] at hend
        rw [Buffer.slice] at hslice
        split_ifs at hslice with hrange
        rw [← hend, UInt16.toNat_add, Nat.mod_eq_of_lt hsum] at hrange
        simp only [pageSize] at hrange
        omega
      · omega
  · rw [SlottedPage.get, readSlot_eq_none page (by omega)]
    simp [hinside]

end SlottedPage

namespace RecordStore

/-! ## The bytes behind the directory -/

/-- The accepted records, deleted or not, in the order of their addresses. -/
def area (store : RecordStore) : List UInt8 :=
  (store.entries.map Entry.record).reverse.flatten

/-- The byte at an address behind the directory: the records end at the end of the page, and
before them are zeros. -/
def imageAt (store : RecordStore) (a : Nat) : UInt8 :=
  if a < 4096 - store.area.length then 0
  else store.area.getD (a - (4096 - store.area.length)) 0

/-- The four bytes of the image at the place of a slot's directory entry lie inside the page,
and as an entry they are an empty record inside the page. -/
structure ReadsEmpty (store : RecordStore) (slot : SlotId) : Prop where
  inside : 8 + 4 * slot.toNat ≤ 4096
  length_low : store.imageAt (6 + 4 * slot.toNat) = 0
  length_high : store.imageAt (7 + 4 * slot.toNat) = 0
  offset_le : (store.imageAt (4 + 4 * slot.toNat)).toNat +
    256 * (store.imageAt (5 + 4 * slot.toNat)).toNat ≤ 4096

/-- The area has the bytes of all accepted records. -/
theorem length_area (store : RecordStore) :
    store.area.length = store.prefixLength store.entries.length := by
  simp [area, prefixLength, List.length_flatten, Function.comp_def]

/-- A new record is in front of the others. -/
theorem area_append (store : RecordStore) (record : List UInt8) :
    RecordStore.area ⟨store.entries ++ [⟨record, true⟩]⟩ = record ++ store.area := by
  simp [area]

/-- Deleting an entry leaves its bytes in the area. -/
theorem area_modify (store : RecordStore) (slot : Nat) :
    RecordStore.area ⟨store.entries.modify slot fun entry => { entry with live := false }⟩ =
      store.area := by
  rw [area, map_record_modify, area]

/-- The image with one more record. -/
theorem imageAt_append (store : RecordStore) {record : List UInt8}
    (h : store.area.length + record.length ≤ 4096) (a : Nat) :
    RecordStore.imageAt ⟨store.entries ++ [⟨record, true⟩]⟩ a =
      if a < 4096 - store.area.length - record.length then 0
      else if a < 4096 - store.area.length then
        record.getD (a - (4096 - store.area.length - record.length)) 0
      else store.imageAt a := by
  simp only [imageAt, area_append, List.length_append]
  have hstart : 4096 - (record.length + store.area.length) =
      4096 - store.area.length - record.length := by omega
  rw [hstart]
  split_ifs with hzero hrecord
  · rfl
  · exact List.getD_append _ _ _ _ (by omega)
  · rw [List.getD_append_right _ _ _ _ (by omega)]
    congr 1
    omega

/-- The page of a store shows its image behind the directory. -/
structure Shows (page : SlottedPage) (store : RecordStore) : Prop extends
    Represents page store where
  byteAt_eq : ∀ a, page.directoryEnd ≤ a → page.data.byteAt a = store.imageAt a

/-- A new page shows the empty store. -/
theorem new_shows : Shows SlottedPage.new empty where
  toRepresents := new_represents
  byteAt_eq := by
    intro a ha
    have harea : empty.area = [] := rfl
    have hcount : UInt16.toNat 0 = 0 := rfl
    rw [SlottedPage.directoryEnd, SlottedPage.getSlotCount_new, hcount] at ha
    rw [imageAt, harea, List.getD_nil, ite_self, ← Buffer.byteAt_zero a]
    exact Buffer.byteAt_putU16_of_not_mem _ _ (by decide) (by omega)

namespace Shows

variable {page : SlottedPage} {store : RecordStore}

/-- The area lies between the free end and the end of the page. -/
theorem freeEnd_eq_area (h : Shows page store) :
    page.freeEnd.toNat + store.area.length = 4096 := by
  rw [length_area]
  exact h.freeEnd_eq

/-- An accepted record appears in front of the older ones. -/
theorem insert (h : Shows page store) (record : List UInt8) :
    ∃ next, page.insert record = some ((store.insert record).1, next) ∧
      Shows next (store.insert record).2 := by
  have hroom := h.free_add_used
  by_cases hfits : store.used + (record.length + 4) ≤ 4092
  · obtain ⟨next, hinsert, happended⟩ :=
      SlottedPage.insert_of_fits h.bounded record (by omega)
    have hslot : page.getSlotCount = UInt16.ofNat store.entries.length := by
      rw [← h.slotCount_eq, UInt16.ofNat_toNat]
    have hcount := happended.getSlotCount_eq
    have harea := h.freeEnd_eq_area
    have hdirectory : page.directoryEnd = 4 + 4 * page.getSlotCount.toNat := rfl
    have hdirectoryNext : next.directoryEnd = 4 + 4 * next.getSlotCount.toNat := rfl
    have hstart : 4096 - store.area.length = page.freeEnd.toNat := by omega
    simp only [RecordStore.insert, if_pos hfits]
    refine ⟨next, by rw [hinsert, hslot], append_represents h.toRepresents happended hfits, ?_⟩
    intro a ha
    rw [imageAt_append store (by omega), hstart]
    split_ifs with hfree hrecord
    · rw [SlottedPage.insert_frame hinsert (by omega) hfree, h.byteAt_eq a (by omega), imageAt,
        if_pos (by omega)]
    · -- the record itself
      have hwindow := happended.record_eq
      rw [SlottedPage.record, happended.offset_eq, happended.length_eq] at hwindow
      have hlt : a - (page.freeEnd.toNat - record.length) < record.length := by omega
      rw [List.getD_eq_getElem?_getD, List.getElem?_eq_getElem hlt, Option.getD_some,
        List.getElem_of_eq hwindow.symm, Buffer.getElem_window, Nat.add_sub_cancel' (by omega)]
    · rw [happended.bytes_eq a (by omega), h.byteAt_eq a (by omega)]
  · simp only [RecordStore.insert, if_neg hfits]
    exact ⟨page, SlottedPage.insert_of_not_fits h.bounded record (by omega), h⟩

/-- A delete changes no byte behind the directory. -/
theorem delete (h : Shows page store) (slot : SlotId) :
    ∃ next, page.delete slot = some ((store.delete slot).1, next) ∧
      Shows next (store.delete slot).2 := by
  obtain ⟨next, hdelete, hnext⟩ := delete_represents h.toRepresents slot
  refine ⟨next, hdelete, hnext, ?_⟩
  have hcount := h.slotCount_eq
  by_cases hslot : slot.toNat < store.entries.length
  · obtain ⟨written, hwrite, hwritten⟩ := SlottedPage.delete_of_lt h.bounded slot (by omega)
    rw [hdelete, Option.some_inj, Prod.mk.injEq] at hwrite
    obtain ⟨-, rfl⟩ := hwrite
    have hdirectory : page.directoryEnd = 4 + 4 * page.getSlotCount.toNat := rfl
    intro a ha
    rw [SlottedPage.directoryEnd, hwritten.getSlotCount_eq, ← hdirectory] at ha
    simp only [RecordStore.delete, if_pos hslot]
    rw [imageAt, area_modify, ← imageAt, ← h.byteAt_eq a ha, hwritten.outside a (by omega)]
  · have hsame := SlottedPage.delete_of_le (show page.getSlotCount.toNat ≤ slot.toNat by omega)
    rw [hdelete, Option.some_inj, Prod.mk.injEq] at hsame
    obtain ⟨-, rfl⟩ := hsame
    simp only [RecordStore.delete, if_neg hslot]
    exact h.byteAt_eq

/-- Inserts and deletes keep the image. -/
theorem apply (h : Shows page store) (op : PageOp) :
    ∃ next, page.apply op = some ((store.apply op).1, next) ∧
      Shows next (store.apply op).2 := by
  cases op with
  | insert record =>
      obtain ⟨next, hinsert, hnext⟩ := h.insert record
      exact ⟨next, by simp [SlottedPage.apply, RecordStore.apply, hinsert], hnext⟩
  | delete slot =>
      obtain ⟨next, hdelete, hnext⟩ := h.delete slot
      exact ⟨next, by simp [SlottedPage.apply, RecordStore.apply, hdelete], hnext⟩

/-- After every run of inserts and deletes the page shows the store of the run. -/
theorem run (h : Shows page store) (ops : List PageOp) :
    ∃ last, page.run ops = some ((store.run ops).1, last) ∧ Shows last (store.run ops).2 := by
  induction ops generalizing page store with
  | nil => exact ⟨page, rfl, h⟩
  | cons op ops ih =>
      obtain ⟨next, happly, hnext⟩ := h.apply op
      obtain ⟨last, hrun, hlast⟩ := ih hnext
      exact ⟨last, by simp [SlottedPage.run, RecordStore.run, happly, hrun], hlast⟩

/-! ## Unallocated slots -/

/-- Behind the directory a slot reads as empty exactly when the image says so. -/
theorem get_eq_nil_iff (h : Shows page store) {slot : SlotId} (hslot : page.getSlotCount ≤ slot) :
    page.get slot = some [] ↔ store.ReadsEmpty slot := by
  rw [UInt16.le_iff_toNat_le] at hslot
  have hdirectory : page.directoryEnd = 4 + 4 * page.getSlotCount.toNat := rfl
  have himage := fun k => h.byteAt_eq (k + 4 * slot.toNat)
  have hoffset : page.slotOffset slot.toNat = (store.imageAt (4 + 4 * slot.toNat)).toNat +
      256 * (store.imageAt (5 + 4 * slot.toNat)).toNat := by
    rw [← himage 4 (by omega), ← himage 5 (by omega), SlottedPage.slotOffset, Buffer.u16At,
      toNat_fromLeBytes, Nat.add_right_comm]
  have hlength : page.slotLength slot.toNat = (store.imageAt (6 + 4 * slot.toNat)).toNat +
      256 * (store.imageAt (7 + 4 * slot.toNat)).toNat := by
    have hlow : 4 + 4 * slot.toNat + 2 = 6 + 4 * slot.toNat := by omega
    have hhigh : 6 + 4 * slot.toNat + 1 = 7 + 4 * slot.toNat := by omega
    rw [← himage 6 (by omega), ← himage 7 (by omega), SlottedPage.slotLength, hlow, Buffer.u16At,
      toNat_fromLeBytes, hhigh]
  rw [SlottedPage.get_eq_nil_iff, hoffset, hlength]
  constructor
  · rintro ⟨hinside, hzero, hend⟩
    exact
      { inside := hinside
        length_low := UInt8.toNat_inj.mp (Nat.eq_zero_of_add_eq_zero_right hzero)
        length_high := UInt8.toNat_inj.mp (by rw [UInt8.toNat_zero]; omega)
        offset_le := hend }
  · rintro ⟨hinside, hlow, hhigh, hend⟩
    exact ⟨hinside, by rw [hlow, hhigh]; rfl, hend⟩

/-- So does a slot whose directory entry would lie in the free region. -/
theorem readsEmpty_of_free (h : Shows page store) {slot : SlotId}
    (hfree : 8 + 4 * slot.toNat ≤ page.freeEnd.toNat) : store.ReadsEmpty slot := by
  have harea := h.freeEnd_eq_area
  have hzero : ∀ k < 8, store.imageAt (k + 4 * slot.toNat) = 0 := fun k hk => by
    rw [imageAt, if_pos (by omega)]
  exact
    { inside := by omega
      length_low := hzero 6 (by omega)
      length_high := hzero 7 (by omega)
      offset_le := by
        rw [hzero 4 (by omega), hzero 5 (by omega)]
        exact Nat.zero_le _ }

end Shows

end RecordStore

/-- After any sequence of inserts and deletes, a slot at or above the slot count reads as
empty exactly when its directory entry would lie inside the page and the zeros and record
bytes in its place read as an empty record inside the page; so it is always when the entry
would lie below the free end. -/
theorem get_unallocated_iff (ops : List PageOp) :
    ∃ page, SlottedPage.new.run ops = some ((RecordStore.empty.run ops).1, page) ∧
      ∀ slot, page.getSlotCount ≤ slot →
        (page.get slot = some [] ↔ (RecordStore.empty.run ops).2.ReadsEmpty slot) ∧
        (8 + 4 * slot.toNat ≤ page.freeEnd.toNat → page.get slot = some []) := by
  obtain ⟨page, hrun, hshows⟩ := RecordStore.new_shows.run ops
  refine ⟨page, hrun, fun slot hslot => ?_⟩
  have hiff := hshows.get_eq_nil_iff hslot
  exact ⟨hiff, fun hfree => hiff.mpr (hshows.readsEmpty_of_free hfree)⟩

/-- On a new page the entry of slot 1023 would lie behind the page, and reading the slot
panics; after a record `[0, 0, 4, 0]` slot 1022 reads as the page header. -/
theorem unallocated_slot_not_empty :
    (¬ ∀ ops outcomes page slot, SlottedPage.new.run ops = some (outcomes, page) →
      page.getSlotCount ≤ slot → page.get slot = some []) ∧
    SlottedPage.new.get 1023 = none ∧
    ∃ outcomes page, SlottedPage.new.run [.insert [0, 0, 4, 0]] = some (outcomes, page) ∧
      page.getSlotCount = 1 ∧ page.get 1022 = some [1, 0, 252, 15] := by
  have hnew : SlottedPage.new.get 1023 = none := by decide +kernel
  have hrun : (SlottedPage.new.run [.insert [0, 0, 4, 0]]).map (fun run =>
      (run.2.getSlotCount, run.2.get 1022)) = some (1, some [1, 0, 252, 15]) := by
    decide +kernel
  refine ⟨fun hall => ?_, hnew, ?_⟩
  · have hread := hall [] [] SlottedPage.new 1023 rfl (by decide +kernel)
    rw [hnew] at hread
    cases hread
  · obtain ⟨⟨outcomes, page⟩, hpage, hread⟩ := Option.map_eq_some_iff.mp hrun
    rw [Prod.mk.injEq] at hread
    exact ⟨outcomes, page, hpage, hread⟩

end Storage
end TaskPool
