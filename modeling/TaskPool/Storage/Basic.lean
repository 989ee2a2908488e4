import Mathlib.Data.Nat.Notation

/-!
# Storage constants and I/O errors

The page size shared by the slotted page, the free space map and the buffer
pool, the 16-bit page identifier, and the part of `std::io::Error` the storage
layer builds: an error kind and a message.
-/

namespace TaskPool
namespace Storage

/-- `PAGE_SIZE`. -/
abbrev pageSize : Nat := 4096

/-- `PageId = u16`. -/
abbrev PageId := UInt16

/-- The successor of an identifier below the largest one does not wrap around. -/
theorem PageId.toNat_succ {pageId : PageId} (h : pageId < 65535) :
    (pageId + 1).toNat = pageId.toNat + 1 := by
  rw [UInt16.toNat_add]
  exact Nat.mod_eq_of_lt (Nat.succ_lt_succ (UInt16.lt_iff_toNat_lt.mp h))

/-- Below the last page id, the successor does not wrap around. -/
theorem PageId.lt_succ {pageId : PageId} (h : pageId < 65535) : pageId < pageId + 1 := by
  rw [UInt16.lt_iff_toNat_lt, toNat_succ h]
  exact Nat.lt_succ_self _

/-- The kinds of `std::io::Error` built by the storage layer. -/
inductive ErrorKind where
  | invalidData
  | invalidInput
  | notFound
  | other
deriving DecidableEq, Repr

/-- An I/O error: its kind and its message. -/
structure IoError where
  kind : ErrorKind
  message : String
deriving DecidableEq, Repr

end Storage
end TaskPool
