import TaskPool.Library.ByteBuffer
import TaskPool.Storage.Basic

/-!
# Slotted pages

A page of 4096 bytes starts with a four-byte header (slot count and the end of
the free region, both little-endian words), followed by a directory of four-byte
slots (offset and length of a record) that grows upwards.  Records are stored
from the end of the page downwards.

Every operation returns `none` when the source panics: a slice out of range or a
16-bit operation out of range.  An operation that can also fail with an error
returns the page it leaves behind together with the result.

Main results:

- Definitions `SlottedPage.insert`, `SlottedPage.get`, `SlottedPage.delete` and
  `SlottedPage.compact`: the operations of the page.
- Definition `SlottedPage.run`: a sequence of inserts and deletes.
-/

namespace TaskPool
namespace Storage

open Library

/-- `SlotId = u16`. -/
abbrev SlotId := UInt16

/-- `HEADER_SIZE`. -/
abbrev headerSize : Nat := 4

/-- `SLOT_SIZE`. -/
abbrev slotSize : Nat := 4

/-- `MAX_AVAILABLE_SLOTTED_PAGE_SPACE`. -/
abbrev maxAvailableSlottedPageSpace : Nat := pageSize - headerSize

/-- A slotted page is its 4096 bytes. -/
structure SlottedPage where
  data : Buffer pageSize
deriving DecidableEq

namespace SlottedPage

/-- An empty page: all zero except the free end, which is the page size. -/
def new : SlottedPage where
  data := (Buffer.zero pageSize).putU16 2 (UInt16.ofNat pageSize) (by decide)

/-- The number of slots, in the first header word. -/
def getSlotCount (page : SlottedPage) : UInt16 :=
  page.data.u16At 0

/-- The end of the free region, in the second header word. -/
def freeEnd (page : SlottedPage) : UInt16 :=
  page.data.u16At 2

/-- Overwrite the slot count. -/
def setSlotCount (page : SlottedPage) (count : UInt16) : SlottedPage where
  data := page.data.putU16 0 count (by decide)

/-- Overwrite the free end. -/
def setFreeEnd (page : SlottedPage) (freeEnd : UInt16) : SlottedPage where
  data := page.data.putU16 2 freeEnd (by decide)

/-- Bytes left between the slot directory and the free end. -/
def freeSpace (page : SlottedPage) : Option UInt16 := do
  let directory ← checkedMul page.getSlotCount (UInt16.ofNat slotSize)
  let used ← checkedAdd directory (UInt16.ofNat headerSize)
  checkedSub page.freeEnd used

/-- Offset and length stored in a slot. -/
def readSlot (page : SlottedPage) (slot : SlotId) : Option (UInt16 × UInt16) := do
  let slotOffset := headerSize + slot.toNat * slotSize
  let tupleOffset ← page.data.getU16 slotOffset
  let tupleLength ← page.data.getU16 (slotOffset + 2)
  pure (tupleOffset, tupleLength)

/-- Store an offset and a length in a slot. -/
def writeSlot (page : SlottedPage) (slot : SlotId) (offset length : UInt16) :
    Option SlottedPage := do
  let slotOffset := headerSize + slot.toNat * slotSize
  let data ← page.data.setU16 slotOffset offset
  let data ← data.setU16 (slotOffset + 2) length
  pure ⟨data⟩

/-- Append a record below the free end and a slot for it to the directory. -/
def insert (page : SlottedPage) (record : List UInt8) :
    Option (Except IoError SlotId × SlottedPage) := do
  let requiredSize := record.length + slotSize
  let freeSize ← page.freeSpace
  if freeSize.toNat < requiredSize then
    return (.error ⟨.other, "Out of memory..."⟩, page)
  let freeEnd := page.freeEnd.toNat
  -- `free_end - record.len()` is a `usize` subtraction
  if freeEnd < record.length then none else
  let tupleOffset := freeEnd - record.length
  let data ← page.data.copyFromSlice tupleOffset freeEnd record
  let page := (⟨data⟩ : SlottedPage).setFreeEnd (UInt16.ofNat tupleOffset)
  let slotCount := page.getSlotCount
  let slotCount' ← checkedAdd slotCount 1
  let page := page.setSlotCount slotCount'
  let page ← page.writeSlot slotCount (UInt16.ofNat tupleOffset) (UInt16.ofNat record.length)
  return (.ok slotCount, page)

/-- The bytes of a slot. -/
def get (page : SlottedPage) (slot : SlotId) : Option (List UInt8) := do
  let (tupleOffset, tupleLength) ← page.readSlot slot
  let tupleEnd ← checkedAdd tupleOffset tupleLength
  page.data.slice tupleOffset.toNat tupleEnd.toNat

/-- Zero the directory entry of a slot. -/
def delete (page : SlottedPage) (slot : SlotId) :
    Option (Except IoError Unit × SlottedPage) := do
  let slotCount := page.getSlotCount
  if slotCount ≤ slot then
    return (.error ⟨.invalidInput, "Slot doesn't exist..."⟩, page)
  let page ← page.writeSlot slot 0 0
  return (.ok (), page)

/-- One iteration of the loop of `compact`: move slot `i` to `destination`. -/
def compactStep (state : SlottedPage × Nat) (i : Nat) : Option (SlottedPage × Nat) := do
  let (page, destination) := state
  let (offset, length) ← page.readSlot (UInt16.ofNat i)
  if length = 0 then
    return (page, destination)
  let source ← page.data.slice offset.toNat (offset.toNat + length.toNat)
  let data ← page.data.copyFromSlice destination (destination + length.toNat) source
  let page ← (⟨data⟩ : SlottedPage).writeSlot (UInt16.ofNat i) (UInt16.ofNat destination) length
  return (page, destination + length.toNat)

/-- Pack the records in slot order behind the directory. -/
def compact (page : SlottedPage) : Option SlottedPage := do
  let slotCount := page.getSlotCount.toNat
  let destination := headerSize + slotSize * slotCount
  let (page, destination) ← (List.range slotCount).foldlM compactStep (page, destination)
  return page.setFreeEnd (UInt16.ofNat destination)

end SlottedPage

/-! ## Sequences of inserts and deletes -/

/-- A call that changes a page. -/
inductive PageOp where
  | insert (record : List UInt8)
  | delete (slot : SlotId)

/-- What such a call returns. -/
inductive PageOutcome where
  | inserted (result : Except IoError SlotId)
  | deleted (result : Except IoError Unit)

/-- Execute one call. -/
def SlottedPage.apply (page : SlottedPage) : PageOp → Option (PageOutcome × SlottedPage)
  | .insert record => do
    let (result, page) ← page.insert record
    return (.inserted result, page)
  | .delete slot => do
    let (result, page) ← page.delete slot
    return (.deleted result, page)

/-- Execute calls in order, collecting what they return. -/
def SlottedPage.run (page : SlottedPage) :
    List PageOp → Option (List PageOutcome × SlottedPage)
  | [] => some ([], page)
  | op :: ops => do
    let (outcome, page) ← page.apply op
    let (outcomes, page) ← page.run ops
    return (outcome :: outcomes, page)

end Storage
end TaskPool
