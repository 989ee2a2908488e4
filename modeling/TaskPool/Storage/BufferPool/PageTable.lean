import TaskPool.Storage.Basic
import Mathlib.Logic.Function.Basic

/-!
# The page table

The page table maps resident pages to frames.  It is written by two primitives:
`insert` overwrites whatever was there, while `replace` moves a frame from one page
to another and checks both pages first.

Main results:

- Definitions `PageTable.insert` and `PageTable.replace`.
- Theorem `PageTable.replace_eq_ok_iff`: when `replace` succeeds, and with what.
-/

namespace TaskPool
namespace Storage

/-- The errors of the page table that do not come from a poisoned lock. -/
inductive PageTableError where
  | poisonedMapping
  | oldPageMissing
  | pageAlreadyExist
deriving DecidableEq, Repr

/-- The frame of every page in the table. -/
abbrev PageTable (n : Nat) := PageId → Option (Fin n)

namespace PageTable

variable {n : Nat}

/-- An empty table. -/
def new : PageTable n := fun _ => none

/-- Map a page to a frame, whatever it was mapped to. -/
def insert (table : PageTable n) (pageId : PageId) (frameId : Fin n) : PageTable n :=
  Function.update table pageId (some frameId)

/-- Remove a page. -/
def removePage (table : PageTable n) (pageId : PageId) : PageTable n :=
  Function.update table pageId none

/-- Move a frame from an old page to a new one. -/
def replace (table : PageTable n) (oldPageId newPageId : PageId) (frameId : Fin n) :
    Except PageTableError (PageTable n) :=
  match table oldPageId with
  | some oldMap =>
    if oldMap = frameId then
      if (table newPageId).isNone then
        .ok ((table.removePage oldPageId).insert newPageId frameId)
      else .error .pageAlreadyExist
    else .error .poisonedMapping
  | none => .error .oldPageMissing

variable {table : PageTable n} {pageId page : PageId} {frameId : Fin n}

/-- Inserting an entry that is there changes nothing. -/
theorem insert_eq_self (h : table pageId = some frameId) : table.insert pageId frameId = table := by
  rw [insert, ← h, Function.update_eq_self]

/-- A page in the table after an `insert`. -/
theorem eq_or_of_insert (h : table.insert pageId frameId page ≠ none) :
    page = pageId ∨ table page ≠ none := by
  by_cases hpage : page = pageId
  · exact .inl hpage
  · rw [insert, Function.update_of_ne hpage] at h
    exact .inr h

/-- A page in the table after a removal. -/
theorem of_removePage (h : table.removePage pageId page ≠ none) : table page ≠ none := by
  by_cases hpage : page = pageId
  · rw [removePage, hpage, Function.update_self] at h
    exact absurd rfl h
  · rwa [removePage, Function.update_of_ne hpage] at h

/-- What a removal leaves was there before. -/
theorem removePage_eq_some (h : table.removePage pageId page = some frameId) :
    page ≠ pageId ∧ table page = some frameId := by
  by_cases hpage : page = pageId
  · rw [removePage, hpage, Function.update_self] at h
    cases h
  · rw [removePage, Function.update_of_ne hpage] at h
    exact ⟨hpage, h⟩

/-- A replacement succeeds exactly when the old page is in the frame and the new one in none.
-/
theorem replace_eq_ok_iff {table table' : PageTable n} {oldPageId newPageId : PageId}
    {frameId : Fin n} :
    table.replace oldPageId newPageId frameId = .ok table' ↔
      table oldPageId = some frameId ∧ table newPageId = none ∧
        table' = (table.removePage oldPageId).insert newPageId frameId := by
  unfold replace
  cases hold : table oldPageId with
  | none => simp
  | some oldMap =>
      by_cases hmap : oldMap = frameId
      · by_cases hnew : table newPageId = none
        · simp [hmap, hnew, eq_comm]
        · simp [hmap, hnew]
      · simp [hmap]

/-- When it succeeds, the frame has the new page in place of the old one. -/
theorem replace_eq_ok {table : PageTable n} {oldPageId newPageId : PageId} {frameId : Fin n}
    (hold : table oldPageId = some frameId) (hnew : table newPageId = none) :
    table.replace oldPageId newPageId frameId =
      .ok ((table.removePage oldPageId).insert newPageId frameId) :=
  replace_eq_ok_iff.mpr ⟨hold, hnew, rfl⟩

end PageTable

end Storage
end TaskPool
