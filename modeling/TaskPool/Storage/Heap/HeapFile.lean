import TaskPool.Storage.Page.SlottedPage
import TaskPool.Storage.Fsm.Search
import Mathlib.Data.Finset.Card

/-!
# The heap file

A heap file stores records in slotted pages and asks a free space map which page
to try.  The map may name a page without room, so an insert retries with a growing
set of excluded pages and creates a page when the map names none.  `none` is a
panic; every method returns the heap file it leaves behind with its result.

Main results:

- Definition `HeapFile.insert`: insertion with its retry loop.
- Definition `HeapFile.run`: a sequence of calls, among them inserts and deletes
  made directly on a page, which the free space map does not see.
- Definition `HeapFileScan.next`: the cursor over all slots of all pages.
-/

namespace TaskPool
namespace Storage

open Library

/-- There are 65536 page identifiers. -/
theorem card_pageIds_le (pages : Finset PageId) : pages.card ≤ 65536 := by
  have hinjective : Set.InjOn UInt16.toNat pages := fun a _ b _ hab => UInt16.toNat_inj.mp hab
  have hmaps : ∀ a ∈ pages, a.toNat ∈ Finset.range 65536 := fun a _ =>
    Finset.mem_range.mpr a.toNat_lt
  simpa using Finset.card_le_card_of_injOn UInt16.toNat hmaps hinjective

/-- The errors of the heap file. -/
inductive HeapFileError where
  | invalidPageId
  | freeSpaceMapError (error : FreeSpaceMapError)
  | heapFileFull
  | slottedPageError (error : IoError)
  | noPageFoundForInsertion
  | insufficientPageSpace
deriving DecidableEq, Repr

/-- The pages, the free space map over them, and the largest number of pages. -/
structure HeapFile where
  pages : List SlottedPage
  fsm : FreeSpaceMap
  capacity : Nat

namespace HeapFile

/-- A heap file without pages. -/
def new (capacity : Nat) : Except HeapFileError HeapFile :=
  match FreeSpaceMap.new capacity with
  | .error e => .error (.freeSpaceMapError e)
  | .ok fsm => .ok ⟨[], fsm, capacity⟩

/-- The page with an identifier. -/
def getPage (heap : HeapFile) (pageId : PageId) : Except HeapFileError SlottedPage :=
  match heap.pages[pageId.toNat]? with
  | none => .error .invalidPageId
  | some page => .ok page

/-- The heap file after a change made through `get_page_mut`. -/
def setPage (heap : HeapFile) (pageId : PageId) (page : SlottedPage) : HeapFile :=
  { heap with pages := heap.pages.set pageId.toNat page }

/-- Append an empty page and enter it into the free space map. -/
def createPage (heap : HeapFile) : Option (Except HeapFileError PageId × HeapFile) :=
  if heap.pages.length ≥ heap.capacity then some (.error .heapFileFull, heap)
  else do
    -- `as PageId` keeps the low 16 bits
    let pageId := UInt16.ofNat heap.pages.length
    let slottedPage := SlottedPage.new
    let freeSpace ← slottedPage.freeSpace
    let (result, fsm) ← heap.fsm.registerPage pageId freeSpace.toNat
    match result with
    | .error e => return (.error (.freeSpaceMapError e), { heap with fsm := fsm })
    | .ok _ =>
      return (.ok pageId, { heap with fsm := fsm, pages := heap.pages ++ [slottedPage] })

/-- Insert a record into a page and report its free space. -/
def insertPage (heap : HeapFile) (pageId : PageId) (record : List UInt8) :
    Option (Except HeapFileError Unit × HeapFile) :=
  match heap.getPage pageId with
  | .error e => some (.error e, heap)
  | .ok page => do
    let (result, page) ← page.insert record
    let heap := heap.setPage pageId page
    match result with
    | .error e => return (.error (.slottedPageError e), heap)
    | .ok _ =>
      let freeSpace ← page.freeSpace
      let (result, fsm) ← heap.fsm.updatePage pageId freeSpace.toNat
      match result with
      | .error e => return (.error (.freeSpaceMapError e), { heap with fsm := fsm })
      | .ok _ => return (.ok (), { heap with fsm := fsm })

/-- The loop of `insert`; every retry excludes one more page. -/
def insertLoop (heap : HeapFile) (record : List UInt8) (reqSpace : Nat)
    (excluded : Finset PageId) : Option (Except HeapFileError Unit × HeapFile) :=
  match hfind : heap.fsm.findPageExcluding reqSpace excluded with
  | none => none
  | some (.error e) => some (.error (.freeSpaceMapError e), heap)
  | some (.ok none) => do
    let (result, heap) ← heap.createPage
    match result with
    | .error e => return (.error e, heap)
    | .ok pageId => heap.insertPage pageId record
  | some (.ok (some pageId)) =>
    match heap.getPage pageId with
    | .error e => some (.error e, heap)
    | .ok page =>
      match page.freeSpace with
      | none => none
      | some freeSpace =>
        if freeSpace.toNat ≥ reqSpace then heap.insertPage pageId record
        else heap.insertLoop record reqSpace (Insert.insert pageId excluded)
termination_by 65536 - excluded.card
decreasing_by
  have hcard := Finset.card_insert_of_notMem (FreeSpaceMap.not_mem_of_findPageExcluding hfind)
  have hle := card_pageIds_le (Insert.insert pageId excluded)
  omega

/-- Insert a record into some page with room, or into a new page. -/
def insert (heap : HeapFile) (record : List UInt8) :
    Option (Except HeapFileError Unit × HeapFile) :=
  let reqSpace := record.length + slotSize
  if reqSpace > maxAvailableSlottedPageSpace then some (.error .insufficientPageSpace, heap)
  else heap.insertLoop record reqSpace ∅

end HeapFile

/-! ## Sequences of calls -/

/-- A call on the heap file or, through `get_page_mut`, on one of its pages. -/
inductive HeapOp where
  | createPage
  | insert (record : List UInt8)
  | page (pageId : PageId) (op : PageOp)

/-- What such a call returns. -/
inductive HeapOutcome where
  | created (result : Except HeapFileError PageId)
  | inserted (result : Except HeapFileError Unit)
  | page (result : Except HeapFileError PageOutcome)

/-- Execute one call. -/
def HeapFile.apply (heap : HeapFile) : HeapOp → Option (HeapOutcome × HeapFile)
  | .createPage => do
    let (result, heap) ← heap.createPage
    return (.created result, heap)
  | .insert record => do
    let (result, heap) ← heap.insert record
    return (.inserted result, heap)
  | .page pageId op =>
    match heap.getPage pageId with
    | .error e => some (.page (.error e), heap)
    | .ok page => do
      let (outcome, page) ← page.apply op
      return (.page (.ok outcome), heap.setPage pageId page)

/-- Execute calls in order, collecting what they return. -/
def HeapFile.run (heap : HeapFile) : List HeapOp → Option (List HeapOutcome × HeapFile)
  | [] => some ([], heap)
  | op :: ops => do
    let (outcome, heap) ← heap.apply op
    let (outcomes, heap) ← heap.run ops
    return (outcome :: outcomes, heap)

/-! ## Scans -/

/-- A cursor over the slots of a heap file. -/
structure HeapFileScan where
  heapFile : HeapFile
  pageId : PageId
  slotId : SlotId

namespace HeapFileScan

/-- The cursor in front of the first slot. -/
def new (heapFile : HeapFile) : HeapFileScan := ⟨heapFile, 0, 0⟩

/-- The next non-empty record; it fails where the 16-bit cursor overflows. -/
def next (scan : HeapFileScan) : Option (Option (List UInt8) × HeapFileScan) :=
  if scan.pageId.toNat ≥ scan.heapFile.pages.length then some (none, scan)
  else match scan.heapFile.getPage scan.pageId with
    | .error _ => some (none, scan)
    | .ok page =>
      if page.getSlotCount ≤ scan.slotId then
        match hnext : checkedAdd scan.pageId 1 with
        | none => none
        | some pageId => next { scan with pageId := pageId, slotId := 0 }
      else
        match hnext : checkedAdd scan.slotId 1 with
        | none => none
        | some slotId =>
          match page.get scan.slotId with
          | none => none
          | some data =>
            if data.isEmpty then next { scan with slotId := slotId }
            else some (some data, { scan with slotId := slotId })
termination_by (65536 - scan.pageId.toNat, 65536 - scan.slotId.toNat)
decreasing_by
  · have hpage := toNat_of_checkedAdd_one hnext
    have hlt := pageId.toNat_lt
    exact Prod.Lex.left _ _ (by omega)
  · have hslot := toNat_of_checkedAdd_one hnext
    have hlt := slotId.toNat_lt
    exact Prod.Lex.right _ (by omega)

end HeapFileScan

/-- `scan`. -/
def HeapFile.scan (heap : HeapFile) : HeapFileScan :=
  HeapFileScan.new heap

/-- A scan that copies every record it returns. -/
structure OwnedAdapter where
  inner : HeapFileScan

/-- The next record of the inner scan, copied. -/
def OwnedAdapter.next (owned : OwnedAdapter) : Option (Option (List UInt8) × OwnedAdapter) := do
  let (item, inner) ← owned.inner.next
  -- `to_vec` copies the bytes of the record
  return (item, ⟨inner⟩)

/-- `scan_owned`. -/
def HeapFile.scanOwned (heap : HeapFile) : OwnedAdapter :=
  ⟨heap.scan⟩

/-- The results of the first `k` calls of a method that advances its iterator. -/
def collectCalls {σ β : Type} (next : σ → Option (β × σ)) : Nat → σ → Option (List β)
  | 0, _ => some []
  | k + 1, iterator => do
    let (item, iterator) ← next iterator
    let items ← collectCalls next k iterator
    return item :: items

end Storage
end TaskPool
