import TaskPool.Library.BlockFile
import TaskPool.Storage.Basic

/-!
# The disk manager

Page `p` of the file occupies the 4096 bytes from address `4096 * p`.  What the
operating system does in a call is an argument: a page read succeeds with reads of
any sizes or fails, and a page write succeeds or fails and leaves any bytes in that
page.

Main results:

- Definitions `DiskManager.readPage` and `DiskManager.writePage`.
- Theorem `DiskManager.readPage_ok`: a read returns the page, padded with zeros.
- Theorem `DiskManager.page_writePage_of_ne`: no write, failed or not, changes
  another page.
-/

namespace TaskPool
namespace Storage

open Library

/-- How a page read goes: the number of bytes each read returns, or an error. -/
inductive ReadOutcome where
  | ok (sizes : Nat → Nat)
  | fail (error : IoError)

/-- How a page write goes; a failed one leaves some bytes behind. -/
inductive WriteOutcome where
  | ok
  | fail (error : IoError) (left : List UInt8)

/-- The file of the buffer pool. -/
structure DiskManager where
  file : List UInt8

namespace DiskManager

/-- The address of a page. -/
def offset (pageId : PageId) : Nat := pageId.toNat * pageSize

/-- The bytes of a page; zeros behind the end of the file. -/
def page (disk : DiskManager) (pageId : PageId) : Buffer pageSize :=
  block pageSize disk.file pageId.toNat

/-- Fill a zeroed buffer with the bytes of a page. -/
def readPage (disk : DiskManager) (pageId : PageId) : ReadOutcome → Except IoError (Buffer pageSize)
  | .ok sizes => .ok (readLoop disk.file (offset pageId) sizes (Buffer.zero pageSize) 0)
  | .fail error => .error error

/-- Write a page; on an error at most the bytes of the page have changed. -/
def writePage (disk : DiskManager) (pageId : PageId) (buf : Buffer pageSize) :
    WriteOutcome → Except IoError Unit × DiskManager
  | .ok => (.ok (), ⟨writeAt disk.file (offset pageId) buf.bytes⟩)
  | .fail error left => (.error error, ⟨writeAt disk.file (offset pageId) (left.take pageSize)⟩)

/-- A read that succeeds returns the page, however the file splits it. -/
theorem readPage_ok (disk : DiskManager) (pageId : PageId) (sizes : Nat → Nat) :
    disk.readPage pageId (.ok sizes) = .ok (disk.page pageId) := by
  rw [readPage, offset, readLoop_eq_block, page]

/-- A successful write is read back. -/
theorem page_writePage_ok (disk : DiskManager) (pageId : PageId) (buf : Buffer pageSize) :
    (disk.writePage pageId buf .ok).2.page pageId = buf :=
  block_writeAt_self disk.file pageId.toNat buf

/-- A write changes no other page. -/
theorem page_writePage_of_ne (disk : DiskManager) {pageId other : PageId} (h : other ≠ pageId)
    (buf : Buffer pageSize) (outcome : WriteOutcome) :
    (disk.writePage pageId buf outcome).2.page other = disk.page other := by
  have hne : other.toNat ≠ pageId.toNat := fun heq => h (UInt16.toNat_inj.mp heq)
  cases outcome with
  | ok => exact block_writeAt_of_ne disk.file hne buf.length_eq.le
  | fail error left =>
      exact block_writeAt_of_ne disk.file hne (List.length_take_le pageSize left)

end DiskManager

end Storage
end TaskPool
