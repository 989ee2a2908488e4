import TaskPool.Storage.Page.SlottedPage

/-!
# The layout of a slotted page

The header, the slot directory and the record area of a page as numbers and byte
windows, and one specification lemma for each operation in these terms.  The
later modules reason about slots, lengths and free ends only through this file.
The directory entry of slot `i` occupies the four bytes from address `4 + 4 * i`.

Main results:

- Structure `SlottedPage.Bounded`: the directory ends at or below the free end,
  and the free end is inside the page.
- Theorem `SlottedPage.insert_of_fits`: an insert that fits appends one slot and
  touches nothing at or above the old free end.
- Theorem `SlottedPage.get_eq_window`: the bytes of a slot are the window its
  directory entry names.
-/

namespace TaskPool
namespace Storage

open Library

namespace SlottedPage

/-- The offset stored for slot `i`. -/
def slotOffset (page : SlottedPage) (i : Nat) : Nat :=
  (page.data.u16At (4 + 4 * i)).toNat

/-- The length stored for slot `i`. -/
def slotLength (page : SlottedPage) (i : Nat) : Nat :=
  (page.data.u16At (4 + 4 * i + 2)).toNat

/-- The first address behind the slot directory. -/
def directoryEnd (page : SlottedPage) : Nat :=
  4 + 4 * page.getSlotCount.toNat

/-- The addresses of the record of slot `i`. -/
def extent (page : SlottedPage) (i : Nat) : Set Nat :=
  {a | page.slotOffset i ≤ a ∧ a < page.slotOffset i + page.slotLength i}

/-- The bytes of the record of slot `i`. -/
def record (page : SlottedPage) (i : Nat) : List UInt8 :=
  page.data.window (page.slotOffset i) (page.slotLength i)

/-- The directory and the record area do not overlap and lie inside the page. -/
structure Bounded (page : SlottedPage) : Prop where
  directory_le : page.directoryEnd ≤ page.freeEnd.toNat
  freeEnd_le : page.freeEnd.toNat ≤ 4096

/-- A directory that ends inside the page has at most 1023 slots. -/
theorem Bounded.slotCount_le {page : SlottedPage} (h : page.Bounded) :
    page.getSlotCount.toNat ≤ 1023 := by
  have hle := h.directory_le.trans h.freeEnd_le
  simp only [directoryEnd] at hle
  omega

/-! ## The empty page -/

@[simp] theorem getSlotCount_new : new.getSlotCount = 0 := by
  decide +kernel

@[simp] theorem freeEnd_new : new.freeEnd = 4096 := by
  decide +kernel

/-! ## Header writes -/

@[simp] theorem getSlotCount_setSlotCount (page : SlottedPage) (count : UInt16) :
    (page.setSlotCount count).getSlotCount = count := by
  simp [setSlotCount, getSlotCount]

@[simp] theorem freeEnd_setSlotCount (page : SlottedPage) (count : UInt16) :
    (page.setSlotCount count).freeEnd = page.freeEnd := by
  simp only [setSlotCount, freeEnd]
  exact Buffer.u16At_putU16_of_disjoint _ _ _ (by omega)

@[simp] theorem getSlotCount_setFreeEnd (page : SlottedPage) (freeEnd : UInt16) :
    (page.setFreeEnd freeEnd).getSlotCount = page.getSlotCount := by
  simp only [setFreeEnd, getSlotCount]
  exact Buffer.u16At_putU16_of_disjoint _ _ _ (by omega)

@[simp] theorem freeEnd_setFreeEnd (page : SlottedPage) (freeEnd : UInt16) :
    (page.setFreeEnd freeEnd).freeEnd = freeEnd := by
  simp [setFreeEnd, SlottedPage.freeEnd]

/-- Writing the slot count changes no byte behind the header. -/
theorem byteAt_setSlotCount (page : SlottedPage) (count : UInt16) {a : Nat} (ha : 4 ≤ a) :
    (page.setSlotCount count).data.byteAt a = page.data.byteAt a :=
  Buffer.byteAt_putU16_of_not_mem _ _ (by decide) (by omega)

/-- Writing the free end changes no byte behind the header. -/
theorem byteAt_setFreeEnd (page : SlottedPage) (freeEnd : UInt16) {a : Nat} (ha : 4 ≤ a) :
    (page.setFreeEnd freeEnd).data.byteAt a = page.data.byteAt a :=
  Buffer.byteAt_putU16_of_not_mem _ _ (by decide) (by omega)

/-! ## Pages that agree on a slot -/

/-- The directory entry of a slot depends only on its four bytes. -/
theorem slot_congr {page page' : SlottedPage} {i : Nat}
    (h : ∀ a, 4 + 4 * i ≤ a → a < 4 + 4 * i + 4 →
      page'.data.byteAt a = page.data.byteAt a) :
    page'.slotOffset i = page.slotOffset i ∧ page'.slotLength i = page.slotLength i := by
  constructor
  · exact congrArg UInt16.toNat (Buffer.u16At_congr fun a ha ha' => h a ha (by omega))
  · exact congrArg UInt16.toNat (Buffer.u16At_congr fun a ha ha' => h a (by omega) (by omega))

/-- Equal directory entries over equal bytes give equal records. -/
theorem record_congr {page page' : SlottedPage} {i : Nat}
    (hoffset : page'.slotOffset i = page.slotOffset i)
    (hlength : page'.slotLength i = page.slotLength i)
    (hbytes : ∀ a ∈ page.extent i, page'.data.byteAt a = page.data.byteAt a) :
    page'.record i = page.record i := by
  rw [record, record, hoffset, hlength]
  exact Buffer.window_congr fun a ha ha' => hbytes a ⟨ha, ha'⟩

/-! ## Slot writes -/

/-- Reading a slot inside the page returns its two words. -/
theorem readSlot_eq_some (page : SlottedPage) {slot : SlotId}
    (h : 8 + 4 * slot.toNat ≤ 4096) :
    page.readSlot slot =
      some (page.data.u16At (4 + 4 * slot.toNat),
        page.data.u16At (4 + 4 * slot.toNat + 2)) := by
  simp only [readSlot, headerSize, slotSize, Nat.mul_comm slot.toNat 4]
  rw [Buffer.getU16_eq_some _ (by simp only [pageSize]; omega), Option.bind_eq_bind,
    Option.bind_some, Buffer.getU16_eq_some _ (by simp only [pageSize]; omega)]
  rfl

/-- What writing the directory entry of slot `i` leaves behind. -/
structure SlotWritten (page : SlottedPage) (i offset length : Nat) (page' : SlottedPage) :
    Prop where
  offset_eq : page'.slotOffset i = offset
  length_eq : page'.slotLength i = length
  outside : ∀ a, a < 4 + 4 * i ∨ 4 + 4 * i + 4 ≤ a →
    page'.data.byteAt a = page.data.byteAt a

/-- Writing a slot inside the page changes this slot only. -/
theorem writeSlot_eq_some (page : SlottedPage) (slot : SlotId) (offset length : UInt16)
    (h : 8 + 4 * slot.toNat ≤ 4096) :
    ∃ page', page.writeSlot slot offset length = some page' ∧
      SlotWritten page slot.toNat offset.toNat length.toNat page' := by
  have hoffset : 4 + 4 * slot.toNat + 2 ≤ pageSize := by
    simp only [pageSize]
    omega
  have hlength : 4 + 4 * slot.toNat + 2 + 2 ≤ pageSize := by
    simp only [pageSize]
    omega
  refine ⟨⟨(page.data.putU16 (4 + 4 * slot.toNat) offset hoffset).putU16
    (4 + 4 * slot.toNat + 2) length hlength⟩, ?_, ?_, ?_, ?_⟩
  · simp only [writeSlot, headerSize, slotSize, Nat.mul_comm slot.toNat 4]
    rw [Buffer.setU16_eq_some _ _ hoffset, Option.bind_eq_bind, Option.bind_some,
      Buffer.setU16_eq_some _ _ hlength]
    rfl
  · rw [slotOffset, Buffer.u16At_putU16_of_disjoint _ _ _ (by omega), Buffer.u16At_putU16]
  · rw [slotLength, Buffer.u16At_putU16]
  · intro a ha
    rw [Buffer.byteAt_putU16_of_not_mem _ _ _ (by omega),
      Buffer.byteAt_putU16_of_not_mem _ _ _ (by omega)]

/-- A slot write keeps the slot count. -/
theorem SlotWritten.getSlotCount_eq {page page' : SlottedPage} {i offset length : Nat}
    (h : SlotWritten page i offset length page') :
    page'.getSlotCount = page.getSlotCount :=
  Buffer.u16At_congr fun a _ ha => h.outside a (by omega)

/-- A slot write keeps the free end. -/
theorem SlotWritten.freeEnd_eq {page page' : SlottedPage} {i offset length : Nat}
    (h : SlotWritten page i offset length page') :
    page'.freeEnd = page.freeEnd :=
  Buffer.u16At_congr fun a _ ha => h.outside a (by omega)

/-- A slot write keeps every other slot. -/
theorem SlotWritten.slot_eq {page page' : SlottedPage} {i offset length j : Nat}
    (h : SlotWritten page i offset length page') (hj : j ≠ i) :
    page'.slotOffset j = page.slotOffset j ∧ page'.slotLength j = page.slotLength j :=
  slot_congr fun a ha ha' => h.outside a (by omega)

/-! ## Reading a slot and the free space -/

/-- Reading a record inside the page returns its bytes. -/
theorem get_eq_window (page : SlottedPage) {slot : SlotId}
    (h : 8 + 4 * slot.toNat ≤ 4096)
    (hinside : page.slotOffset slot.toNat + page.slotLength slot.toNat ≤ 4096) :
    page.get slot = some (page.record slot.toNat) := by
  simp only [slotOffset, slotLength] at hinside
  rw [get, readSlot_eq_some page h]
  simp only [Option.bind_eq_bind, Option.bind_some]
  rw [checkedAdd_eq_some (by omega), Option.bind_some, toNat_ofNat_u16 (by omega),
    Buffer.slice_eq_window _ (by omega) hinside, Nat.add_sub_cancel_left]
  rfl

/-- The free space is what lies between the directory and the free end. -/
theorem freeSpace_eq_some {page : SlottedPage} (h : page.Bounded) :
    page.freeSpace = some (UInt16.ofNat (page.freeEnd.toNat - page.directoryEnd)) := by
  have hcount := h.slotCount_le
  have hdirectory := h.directory_le
  simp only [directoryEnd] at hdirectory ⊢
  have hfour : (UInt16.ofNat 4).toNat = 4 := rfl
  have hmul : (UInt16.ofNat (page.getSlotCount.toNat * 4)).toNat = page.getSlotCount.toNat * 4 :=
    toNat_ofNat_u16 (by omega)
  have hused : (UInt16.ofNat (page.getSlotCount.toNat * 4 + 4)).toNat =
      4 + 4 * page.getSlotCount.toNat := by
    rw [toNat_ofNat_u16 (by omega)]
    omega
  simp only [freeSpace, headerSize, slotSize, Option.bind_eq_bind]
  rw [checkedMul_eq_some (by rw [hfour]; omega), Option.bind_some, hfour, checkedAdd_eq_some (by omega),
    Option.bind_some, hmul, hfour, checkedSub_eq_some (by omega), hused]

/-- The number of bytes `freeSpace` reports. -/
theorem freeSpace_toNat {page : SlottedPage} (h : page.Bounded) {free : UInt16}
    (hfree : page.freeSpace = some free) :
    free.toNat = page.freeEnd.toNat - page.directoryEnd := by
  have hle := h.freeEnd_le
  rw [freeSpace_eq_some h, Option.some_inj] at hfree
  rw [← hfree, toNat_ofNat_u16 (by omega)]

/-! ## Insert and delete -/

/-- What an accepted insert leaves behind. -/
structure Appended (page : SlottedPage) (rec : List UInt8) (page' : SlottedPage) : Prop where
  getSlotCount_eq : page'.getSlotCount.toNat = page.getSlotCount.toNat + 1
  freeEnd_eq : page'.freeEnd.toNat = page.freeEnd.toNat - rec.length
  offset_eq : page'.slotOffset page.getSlotCount.toNat = page.freeEnd.toNat - rec.length
  length_eq : page'.slotLength page.getSlotCount.toNat = rec.length
  record_eq : page'.record page.getSlotCount.toNat = rec
  slot_eq : ∀ i < page.getSlotCount.toNat,
    page'.slotOffset i = page.slotOffset i ∧ page'.slotLength i = page.slotLength i
  bytes_eq : ∀ a, page.freeEnd.toNat ≤ a → page'.data.byteAt a = page.data.byteAt a

/-- A record that fits with its slot is put in front of the others. -/
theorem insert_of_fits {page : SlottedPage} (h : page.Bounded) (rec : List UInt8)
    (hfits : rec.length + 4 ≤ page.freeEnd.toNat - page.directoryEnd) :
    ∃ page', page.insert rec = some (.ok page.getSlotCount, page') ∧ Appended page rec page' := by
  have hcount := h.slotCount_le
  have hdir := h.directory_le
  have hend := h.freeEnd_le
  have hdirectory : page.directoryEnd = 4 + 4 * page.getSlotCount.toNat := rfl
  let offset := page.freeEnd.toNat - rec.length
  obtain ⟨data, hcopy, hrecord, hwritten⟩ := Buffer.copyFromSlice_eq_some page.data rec
    hend (show offset + rec.length = page.freeEnd.toNat by omega)
  let written : SlottedPage := ⟨data⟩
  have hslots : (written.setFreeEnd (UInt16.ofNat offset)).getSlotCount = page.getSlotCount := by
    rw [getSlotCount_setFreeEnd]
    exact Buffer.u16At_congr fun a _ ha => hwritten a (by omega)
  let headed := (written.setFreeEnd (UInt16.ofNat offset)).setSlotCount
    (UInt16.ofNat (page.getSlotCount.toNat + 1))
  have hheaded : ∀ a, 4 ≤ a → headed.data.byteAt a = written.data.byteAt a := fun a ha => by
    rw [byteAt_setSlotCount _ _ ha, byteAt_setFreeEnd _ _ ha]
  obtain ⟨page', hwrite, hslot⟩ := writeSlot_eq_some headed page.getSlotCount
    (UInt16.ofNat offset) (UInt16.ofNat rec.length) (by omega)
  rw [toNat_ofNat_u16 (by omega), toNat_ofNat_u16 (by omega)] at hslot
  have hone : (1 : UInt16).toNat = 1 := rfl
  have hcountNat : (UInt16.ofNat (page.getSlotCount.toNat + 1)).toNat =
      page.getSlotCount.toNat + 1 := toNat_ofNat_u16 (by omega)
  refine ⟨page', ?_, ?_⟩
  · have hfreeNat : (UInt16.ofNat (page.freeEnd.toNat - page.directoryEnd)).toNat =
        page.freeEnd.toNat - page.directoryEnd := toNat_ofNat_u16 (by omega)
    simp only [insert, freeSpace_eq_some h, Option.bind_eq_bind, Option.bind_some, hfreeNat,
      if_neg (show ¬ page.freeEnd.toNat - page.directoryEnd < rec.length + 4 by omega),
      if_neg (show ¬ page.freeEnd.toNat < rec.length by omega),
      show page.data.copyFromSlice (page.freeEnd.toNat - rec.length) page.freeEnd.toNat rec =
        some data from hcopy]
    rw [show (⟨data⟩ : SlottedPage) = written from rfl, hslots,
      checkedAdd_eq_some (by rw [hone]; omega), Option.bind_some, hone, hwrite]
    rfl
  · have hoffset : page'.slotOffset page.getSlotCount.toNat = offset := hslot.offset_eq
    have hbytes : ∀ a, offset ≤ a → page'.data.byteAt a = written.data.byteAt a := fun a ha => by
      rw [hslot.outside a (by omega), hheaded a (by omega)]
    refine
      { getSlotCount_eq := by
          rw [hslot.getSlotCount_eq, getSlotCount_setSlotCount, hcountNat]
        freeEnd_eq := by
          rw [hslot.freeEnd_eq, freeEnd_setSlotCount, freeEnd_setFreeEnd,
            toNat_ofNat_u16 (by omega)]
        offset_eq := hoffset
        length_eq := hslot.length_eq
        record_eq := ?_
        slot_eq := ?_
        bytes_eq := ?_ }
    · rw [record, hoffset, hslot.length_eq,
        Buffer.window_congr (b := written.data) fun a ha _ => hbytes a ha]
      exact hrecord
    · intro i hi
      apply slot_congr
      intro a ha ha'
      rw [hslot.outside a (by omega), hheaded a (by omega), hwritten a (by omega)]
    · intro a ha
      rw [hbytes a (by omega), hwritten a (Or.inr ha)]

/-- A record that does not fit with its slot is rejected, and the page stays as it is. -/
theorem insert_of_not_fits {page : SlottedPage} (h : page.Bounded) (rec : List UInt8)
    (hfull : page.freeEnd.toNat - page.directoryEnd < rec.length + 4) :
    page.insert rec = some (.error ⟨.other, "Out of memory..."⟩, page) := by
  have hend := h.freeEnd_le
  have hfreeNat : (UInt16.ofNat (page.freeEnd.toNat - page.directoryEnd)).toNat =
      page.freeEnd.toNat - page.directoryEnd := toNat_ofNat_u16 (by omega)
  simp only [insert, freeSpace_eq_some h, Option.bind_eq_bind, Option.bind_some, hfreeNat,
    if_pos hfull]
  rfl

/-- Deleting a slot of the directory sets it to zero. -/
theorem delete_of_lt {page : SlottedPage} (h : page.Bounded) (slot : SlotId)
    (hslot : slot.toNat < page.getSlotCount.toNat) :
    ∃ page', page.delete slot = some (.ok (), page') ∧ SlotWritten page slot.toNat 0 0 page' := by
  have hcount := h.slotCount_le
  obtain ⟨page', hwrite, hpage'⟩ := writeSlot_eq_some page slot 0 0 (by omega)
  refine ⟨page', ?_, hpage'⟩
  have hlt : ¬ page.getSlotCount ≤ slot := by
    rw [UInt16.le_iff_toNat_le]
    omega
  simp only [delete, if_neg hlt, hwrite]
  rfl

/-- Deleting any other slot is rejected, and the page stays as it is. -/
theorem delete_of_le {page : SlottedPage} {slot : SlotId}
    (hslot : page.getSlotCount.toNat ≤ slot.toNat) :
    page.delete slot = some (.error ⟨.invalidInput, "Slot doesn't exist..."⟩, page) := by
  simp only [delete, if_pos (UInt16.le_iff_toNat_le.mpr hslot)]
  rfl

end SlottedPage

end Storage
end TaskPool
