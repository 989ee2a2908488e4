import TaskPool.Storage.BufferPool.Disk
import Mathlib.Logic.Function.Basic

/-!
# The disk manager as a store of pages

The abstract store is a function from identifiers to pages: a write changes its value at
one page, a read returns the value.  The disk manager implements it on a file of any
length, with reads of any sizes: the pages of the file are the value of the store.

Main results:

- Definitions `PageStore.call` and `PageStore.run`: the abstract store.
- Theorem `DiskManager.call_refines`: a call of the disk manager is a call of the store.
- Theorem `disk_is_page_store`: any sequence of calls on any initial file.
-/

namespace TaskPool
namespace Storage

open Library

/-- A call with a buffer of the right size: a read, with the sizes that the operating system
gives its reads, or a write. -/
inductive DiskCall where
  | readPage (pageId : PageId) (sizes : Nat → Nat)
  | writePage (pageId : PageId) (buf : Buffer pageSize)

namespace DiskManager

/-- Serve a call without an I/O error; a read fills the buffer that it returns. -/
def call (disk : DiskManager) :
    DiskCall → Except IoError (Option (Buffer pageSize)) × DiskManager
  | .readPage pageId sizes => ((disk.readPage pageId (.ok sizes)).map some, disk)
  | .writePage pageId buf =>
    ((disk.writePage pageId buf .ok).1.map fun _ => none, (disk.writePage pageId buf .ok).2)

/-- Serve calls one after the other. -/
def run (disk : DiskManager) :
    List DiskCall → List (Except IoError (Option (Buffer pageSize))) × DiskManager
  | [] => ([], disk)
  | call :: calls =>
    let (result, disk) := disk.call call
    let (results, disk) := disk.run calls
    (result :: results, disk)

end DiskManager

/-! ## The abstract store -/

/-- Every identifier has a page. -/
abbrev PageStore := PageId → Buffer pageSize

namespace PageStore

/-- Answer a call. -/
def call (store : PageStore) : DiskCall → Option (Buffer pageSize) × PageStore
  | .readPage pageId _ => (some (store pageId), store)
  | .writePage pageId buf => (none, Function.update store pageId buf)

/-- Answer calls one after the other. -/
def run (store : PageStore) : List DiskCall → List (Option (Buffer pageSize)) × PageStore
  | [] => ([], store)
  | call :: calls =>
    let (answer, store) := store.call call
    let (answers, store) := store.run calls
    (answer :: answers, store)

end PageStore

/-- The bytes that the last write to a page has brought. -/
def lastWritten (page : PageId) : List DiskCall → Option (Buffer pageSize)
  | [] => none
  | .readPage _ _ :: calls => lastWritten page calls
  | .writePage pageId buf :: calls =>
    (lastWritten page calls).or (if pageId = page then some buf else none)

/-- What the store holds for a page depends on the last write to it alone. -/
theorem PageStore.run_apply (store : PageStore) (calls : List DiskCall) (page : PageId) :
    (store.run calls).2 page = (lastWritten page calls).getD (store page) := by
  induction calls generalizing store with
  | nil => rfl
  | cons call calls ih =>
      cases call with
      | readPage pageId sizes => exact ih store
      | writePage pageId buf =>
          refine (ih _).trans ?_
          simp only [lastWritten]
          by_cases hpage : pageId = page
          · subst hpage
            rw [if_pos rfl, Function.update_self]
            cases lastWritten pageId calls <;> rfl
          · rw [if_neg hpage, Function.update_of_ne (Ne.symm hpage), Option.or_none]

/-- The last write of two sequences is that of the later one, if it writes the page at all. -/
theorem lastWritten_append (page : PageId) (calls later : List DiskCall) :
    lastWritten page (calls ++ later) = (lastWritten page later).or (lastWritten page calls) := by
  induction calls with
  | nil => exact Option.or_none.symm
  | cons call calls ih =>
      cases call with
      | readPage pageId sizes => exact ih
      | writePage pageId buf =>
          simp only [List.cons_append, lastWritten, ih, Option.or_assoc]

/-- A write to one page is not the last write to any other. -/
theorem lastWritten_writePage_of_ne {page other : PageId} (h : other ≠ page)
    (buf : Buffer pageSize) (later : List DiskCall) :
    lastWritten other (.writePage page buf :: later) = lastWritten other later := by
  rw [lastWritten, if_neg (Ne.symm h), Option.or_none]

/-! ## Refinement -/

namespace DiskManager

/-- The pages of the file after a write are those of the store. -/
theorem page_writePage (disk : DiskManager) (pageId : PageId) (buf : Buffer pageSize) :
    (disk.writePage pageId buf .ok).2.page = Function.update disk.page pageId buf := by
  funext other
  by_cases hother : other = pageId
  · rw [hother, Function.update_self, page_writePage_ok]
  · rw [Function.update_of_ne hother, disk.page_writePage_of_ne hother]

/-- A call is answered, without an error, as the store of the pages answers it. -/
theorem call_refines (disk : DiskManager) (call : DiskCall) :
    (disk.call call).1 = .ok (PageStore.call disk.page call).1 ∧
      (disk.call call).2.page = (PageStore.call disk.page call).2 := by
  cases call with
  | readPage pageId sizes =>
      refine ⟨?_, rfl⟩
      simp only [DiskManager.call, disk.readPage_ok]
      rfl
  | writePage pageId buf =>
      refine ⟨?_, ?_⟩
      · simp only [DiskManager.call, DiskManager.writePage]
        rfl
      · simp only [DiskManager.call, PageStore.call, page_writePage]

/-- Sequences of disk calls answer and act like those of the page store. -/
theorem run_refines (disk : DiskManager) (calls : List DiskCall) :
    (disk.run calls).1 = (PageStore.run disk.page calls).1.map .ok ∧
      (disk.run calls).2.page = (PageStore.run disk.page calls).2 := by
  induction calls generalizing disk with
  | nil => exact ⟨rfl, rfl⟩
  | cons call calls ih =>
      obtain ⟨hanswer, hpages⟩ := disk.call_refines call
      obtain ⟨hanswers, hfinal⟩ := ih (disk.call call).2
      rw [hpages] at hanswers hfinal
      refine ⟨?_, ?_⟩
      · simp only [DiskManager.run, PageStore.run, List.map_cons, hanswer, hanswers]
      · simp only [DiskManager.run, PageStore.run, hfinal]

end DiskManager

/-- On every initial file, after every sequence of calls and however their reads were split:
the calls are answered as the store of the pages of the file answers them; a read of a page
returns what was written to it last, or else its original bytes, zeros behind the end of the
file; and a write to a page, wherever it stands among the calls, makes no difference to a
later read of any other page. -/
theorem disk_is_page_store (file : List UInt8) (calls : List DiskCall) :
    ((DiskManager.mk file).run calls).1 =
        (PageStore.run (DiskManager.mk file).page calls).1.map .ok ∧
      (∀ page sizes, ((DiskManager.mk file).run calls).2.readPage page (.ok sizes) =
        .ok ((lastWritten page calls).getD ((DiskManager.mk file).page page))) ∧
      ∀ page other buf later sizes, other ≠ page →
        ((DiskManager.mk file).run (calls ++ .writePage page buf :: later)).2.readPage other
            (.ok sizes) =
          ((DiskManager.mk file).run (calls ++ later)).2.readPage other (.ok sizes) := by
  have hread : ∀ served page sizes,
      ((DiskManager.mk file).run served).2.readPage page (.ok sizes) =
        .ok ((lastWritten page served).getD ((DiskManager.mk file).page page)) := by
    intro served page sizes
    rw [DiskManager.readPage_ok, ((DiskManager.mk file).run_refines served).2,
      PageStore.run_apply]
  refine ⟨((DiskManager.mk file).run_refines calls).1, hread calls, ?_⟩
  intro page other buf later sizes hne
  rw [hread, hread, lastWritten_append, lastWritten_append, lastWritten_writePage_of_ne hne]

end Storage
end TaskPool
