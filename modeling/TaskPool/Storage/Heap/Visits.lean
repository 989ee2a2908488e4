import TaskPool.Storage.Heap.PageIds
import TaskPool.Storage.Heap.Scan
import TaskPool.Library.Iterator

/-!
# Slots a scan visits

The cursor of a scan is a 16-bit page identifier; it has to step behind the last page before
the scan can end.  A logged scan keeps the addresses of the slots it has looked at, also of
those whose empty contents it does not return.

Main results:

- Definition `LoggedScan.next`: the cursor, with the log of the visited slots.
- Theorem `LoggedScan.erase_next`: without the log it is `HeapFileScan.next`.
- Theorem `HeapFile.Sound.exhausts`: up to 65535 pages a scan visits every slot once.
- Theorem `scan_completes_iff`: and only up to 65535 pages.
-/

namespace TaskPool
namespace Storage

open Library

/-- One round of the loop, on an existing page. -/
theorem HeapFileScan.next_eq_round {scan : HeapFileScan} {page : SlottedPage}
    (hlt : ¬ scan.pageId.toNat ≥ scan.heapFile.pages.length)
    (hpage : scan.heapFile.getPage scan.pageId = .ok page) :
    scan.next =
      if page.getSlotCount ≤ scan.slotId then
        (checkedAdd scan.pageId 1).bind fun pageId =>
          next { scan with pageId := pageId, slotId := 0 }
      else
        (checkedAdd scan.slotId 1).bind fun slotId =>
          (page.get scan.slotId).bind fun data =>
            if data.isEmpty then next { scan with slotId := slotId }
            else some (some data, { scan with slotId := slotId }) := by
  rw [next, if_neg hlt]
  simp only [hpage]
  split
  · split <;> rename_i hnext <;> rw [hnext] <;> rfl
  · split <;> rename_i hnext <;> rw [hnext]
    · rfl
    · rw [Option.bind_some]
      cases page.get scan.slotId <;> rfl

/-- A scan and the addresses of the slots it has looked at. -/
structure LoggedScan where
  inner : HeapFileScan
  visited : List (Nat × Nat)

namespace LoggedScan

/-- Log the slot under the cursor and move behind it. -/
def log (scan : LoggedScan) (slotId : SlotId) : LoggedScan where
  inner := { scan.inner with slotId := slotId }
  visited := scan.visited ++ [(scan.inner.pageId.toNat, scan.inner.slotId.toNat)]

/-- `HeapFileScan.next`; a slot is logged where it is read. -/
def next (scan : LoggedScan) : Option (Option (List UInt8) × LoggedScan) :=
  if scan.inner.pageId.toNat ≥ scan.inner.heapFile.pages.length then some (none, scan)
  else match scan.inner.heapFile.getPage scan.inner.pageId with
    | .error _ => some (none, scan)
    | .ok page =>
      if page.getSlotCount ≤ scan.inner.slotId then
        match hnext : checkedAdd scan.inner.pageId 1 with
        | none => none
        | some pageId => next { scan with inner := { scan.inner with pageId := pageId, slotId := 0 } }
      else
        match hnext : checkedAdd scan.inner.slotId 1 with
        | none => none
        | some slotId =>
          match page.get scan.inner.slotId with
          | none => none
          | some data =>
            if data.isEmpty then next (scan.log slotId) else some (some data, scan.log slotId)
termination_by (65536 - scan.inner.pageId.toNat, 65536 - scan.inner.slotId.toNat)
decreasing_by
  · have hpage := toNat_of_checkedAdd_one hnext
    have hlt := pageId.toNat_lt
    exact Prod.Lex.left _ _ (by omega)
  · have hslot := toNat_of_checkedAdd_one hnext
    have hlt := slotId.toNat_lt
    have hlogged : (scan.log slotId).inner.slotId = slotId := rfl
    exact Prod.Lex.right _ (by rw [hlogged]; omega)

/-- One round of the loop, on an existing page. -/
theorem next_eq_round (scan : LoggedScan) {page : SlottedPage}
    (hlt : ¬ scan.inner.pageId.toNat ≥ scan.inner.heapFile.pages.length)
    (hpage : scan.inner.heapFile.getPage scan.inner.pageId = .ok page) :
    scan.next =
      if page.getSlotCount ≤ scan.inner.slotId then
        (checkedAdd scan.inner.pageId 1).bind fun pageId =>
          next { scan with inner := { scan.inner with pageId := pageId, slotId := 0 } }
      else
        (checkedAdd scan.inner.slotId 1).bind fun slotId =>
          (page.get scan.inner.slotId).bind fun data =>
            if data.isEmpty then next (scan.log slotId)
            else some (some data, scan.log slotId) := by
  rw [next, if_neg hlt]
  simp only [hpage]
  split
  · split <;> rename_i hnext <;> rw [hnext] <;> rfl
  · split <;> rename_i hnext <;> rw [hnext]
    · rfl
    · rw [Option.bind_some]
      cases page.get scan.inner.slotId <;> rfl

/-- Without the log it is `HeapFileScan.next`. -/
theorem erase_next (scan : LoggedScan) :
    scan.inner.next = scan.next.map (Prod.map id inner) := by
  fun_induction next scan with
  | case1 scan hend => rw [HeapFileScan.next, if_pos hend]; rfl
  | case2 scan hlt e hpage =>
      rw [HeapFileScan.next, if_neg hlt]
      simp only [hpage]
      rfl
  | case3 scan hlt page hpage hslot hnext =>
      rw [HeapFileScan.next_eq_round hlt hpage, if_pos hslot, hnext]
      rfl
  | case4 scan hlt page hpage hslot pageId hnext ih =>
      rw [HeapFileScan.next_eq_round hlt hpage, if_pos hslot, hnext]
      exact ih
  | case5 scan hlt page hpage hslot hnext =>
      rw [HeapFileScan.next_eq_round hlt hpage, if_neg hslot, hnext]
      rfl
  | case6 scan hlt page hpage hslot slotId hnext hdata =>
      rw [HeapFileScan.next_eq_round hlt hpage, if_neg hslot, hnext, hdata]
      rfl
  | case7 scan hlt page hpage hslot slotId hnext data hdata hempty ih =>
      rw [HeapFileScan.next_eq_round hlt hpage, if_neg hslot, hnext, hdata]
      simp only [Option.bind_some, if_pos hempty]
      exact ih
  | case8 scan hlt page hpage hslot slotId hnext data hdata hempty =>
      rw [HeapFileScan.next_eq_round hlt hpage, if_neg hslot, hnext, hdata]
      simp only [Option.bind_some, if_neg hempty]
      rfl

end LoggedScan

/-! ## Small heap files -/

namespace HeapFile

variable {heap : HeapFile} {page slot : Nat} {visited : List (Nat × Nat)}

/-- What the slot with an address returns. -/
def contentsAt (heap : HeapFile) (address : Nat × Nat) : List UInt8 :=
  ((heap.pages[address.1]?).bind fun page => page.get (UInt16.ofNat address.2)).getD []

/-- The addresses are those of the slots at or behind a cursor, each once. -/
structure SlotsFrom (heap : HeapFile) (page slot : Nat) (visited : List (Nat × Nat)) : Prop where
  nodup : visited.Nodup
  mem_iff : ∀ address, address ∈ visited ↔ address.2 < heap.slotCountAt address.1 ∧
    (page < address.1 ∨ page = address.1 ∧ slot ≤ address.2)

/-- The slots of a page are those of its directory. -/
theorem slotCountAt_of_getElem? {found : SlottedPage} (h : heap.pages[page]? = some found) :
    heap.slotCountAt page = found.getSlotCount.toNat := by
  rw [slotCountAt, h, Option.elim_some]

/-- Behind the last page there are no slots. -/
theorem slotCountAt_of_le (h : heap.pages.length ≤ page) : heap.slotCountAt page = 0 := by
  rw [slotCountAt, List.getElem?_eq_none h, Option.elim_none]

/-- Behind the last page there is no slot. -/
theorem slotsFrom_end (h : heap.pages.length ≤ page) : heap.SlotsFrom page slot [] where
  nodup := List.nodup_nil
  mem_iff := by
    intro address
    simp only [List.not_mem_nil, false_iff, not_and]
    intro hslot hbehind
    rw [slotCountAt_of_le (by omega)] at hslot
    omega

/-- Behind the last slot of a page come those of the next page. -/
theorem SlotsFrom.pageEnd (h : heap.SlotsFrom (page + 1) 0 visited)
    (hslot : heap.slotCountAt page ≤ slot) : heap.SlotsFrom page slot visited where
  nodup := h.nodup
  mem_iff := by
    intro address
    rw [h.mem_iff]
    refine and_congr_right fun hlt => ⟨fun hbehind => by omega, ?_⟩
    rintro (hbehind | ⟨rfl, hle⟩) <;> omega

/-- In front of a slot there is this slot and what is behind it. -/
theorem SlotsFrom.cons (h : heap.SlotsFrom page (slot + 1) visited)
    (hslot : slot < heap.slotCountAt page) : heap.SlotsFrom page slot ((page, slot) :: visited) where
  nodup := by
    refine List.nodup_cons.mpr ⟨fun hmem => ?_, h.nodup⟩
    have hbehind := ((h.mem_iff _).mp hmem).2
    simp only at hbehind
    omega
  mem_iff := by
    rintro ⟨otherPage, otherSlot⟩
    rw [List.mem_cons, h.mem_iff, Prod.mk.injEq]
    constructor
    · rintro (⟨rfl, rfl⟩ | ⟨hlt, hbehind⟩)
      · exact ⟨hslot, .inr ⟨rfl, le_rfl⟩⟩
      · exact ⟨hlt, by omega⟩
    · rintro ⟨hlt, hbehind⟩
      by_cases hself : otherPage = page ∧ otherSlot = slot
      · exact .inl hself
      · exact .inr ⟨hlt, by omega⟩

/-- Up to 65535 pages a scan looks at every slot at or behind the cursor, returns what is
not empty and ends. -/
theorem Sound.exhausts (h : heap.Sound) (hle : heap.pages.length ≤ 65535) (pageId : PageId)
    (slotId : SlotId) (log : List (Nat × Nat)) :
    ∃ visited cursor, heap.SlotsFrom pageId.toNat slotId.toNat visited ∧
      Exhausts LoggedScan.next ⟨⟨heap, pageId, slotId⟩, log⟩
        ((visited.map heap.contentsAt).filter fun data => !data.isEmpty)
        ⟨cursor, log ++ visited⟩ := by
  induction hn : heap.pages.length - pageId.toNat generalizing pageId slotId log with
  | zero =>
      refine ⟨[], ⟨heap, pageId, slotId⟩, slotsFrom_end (by omega), .done ?_⟩
      rw [LoggedScan.next, if_pos (by simp only; omega), List.append_nil]
  | succ n ihPage =>
      have hlt : pageId.toNat < heap.pages.length := by omega
      have hfound := List.getElem?_eq_getElem hlt
      have hinside := h.inside_of_getElem? hfound
      have hcount := hinside.bounded.slotCount_le
      have hslots := slotCountAt_of_getElem? hfound
      generalize heap.pages[pageId.toNat] = found at hfound hinside hcount hslots
      have hround := fun slotId log => LoggedScan.next_eq_round ⟨⟨heap, pageId, slotId⟩, log⟩
        (by simpa using hlt) (getPage_eq_ok hfound)
      induction hm : found.getSlotCount.toNat - slotId.toNat generalizing slotId log with
      | zero =>
          have hend : found.getSlotCount ≤ slotId := by
            rw [UInt16.le_iff_toNat_le]
            omega
          obtain ⟨visited, cursor, hvisited, hrest⟩ :=
            ihPage (UInt16.ofNat (pageId.toNat + 1)) 0 log (by rw [toNat_ofNat_u16] <;> omega)
          rw [toNat_ofNat_u16 (by omega)] at hvisited
          have hadd : checkedAdd pageId 1 = some (UInt16.ofNat (pageId.toNat + 1)) :=
            checkedAdd_eq_some (show pageId.toNat + 1 < 65536 by omega)
          refine ⟨visited, cursor, hvisited.pageEnd (by omega), hrest.of_next_eq ?_⟩
          rw [hround, if_pos hend, hadd, Option.bind_some]
      | succ m ihSlot =>
          have hbehind : ¬ found.getSlotCount ≤ slotId := by
            rw [UInt16.le_iff_toNat_le]
            omega
          obtain ⟨-, hget⟩ := hinside.passesChecks.get_eq slotId (by omega)
          have hcontents : heap.contentsAt (pageId.toNat, slotId.toNat) =
              found.record slotId.toNat := by
            rw [contentsAt, hfound, Option.bind_some, UInt16.ofNat_toNat, hget, Option.getD_some]
          have hadd : checkedAdd slotId 1 = some (UInt16.ofNat (slotId.toNat + 1)) :=
            checkedAdd_eq_some (show slotId.toNat + 1 < 65536 by omega)
          have hnext := hround slotId log
          rw [if_neg hbehind, hadd, Option.bind_some, hget, Option.bind_some] at hnext
          obtain ⟨visited, cursor, hvisited, hrest⟩ := ihSlot (UInt16.ofNat (slotId.toNat + 1))
            (log ++ [(pageId.toNat, slotId.toNat)]) (by rw [toNat_ofNat_u16] <;> omega)
          rw [toNat_ofNat_u16 (by omega)] at hvisited
          rw [List.append_assoc, List.singleton_append] at hrest
          refine ⟨_, cursor, hvisited.cons (by omega), ?_⟩
          rw [List.map_cons, List.filter_cons, hcontents]
          cases hempty : (found.record slotId.toNat).isEmpty with
          | true => exact hrest.of_next_eq (by rw [hnext, if_pos hempty]; rfl)
          | false => exact .item (by rw [hnext, if_neg (by simp [hempty])]; rfl) hrest

/-- Repeated calls on a fresh scan do not fail, look at every slot of every page once and
return `none` after finitely many of them. -/
def ScansCompletely (heap : HeapFile) : Prop :=
  ∃ items last, Exhausts LoggedScan.next ⟨heap.scan, []⟩ items last ∧ last.visited.Nodup ∧
    ∀ address, address ∈ last.visited ↔ address.2 < heap.slotCountAt address.1

end HeapFile

/-! ## Large heap files -/

namespace HeapFileScan

/-- A call keeps the heap file, and returns `none` only behind the last page. -/
theorem of_next {scan scan' : HeapFileScan} {item : Option (List UInt8)}
    (h : scan.next = some (item, scan')) : scan'.heapFile = scan.heapFile ∧
      (item = none → scan.heapFile.pages.length ≤ scan'.pageId.toNat) := by
  fun_induction next scan with
  | case1 scan hend =>
      cases h
      exact ⟨rfl, fun _ => hend⟩
  | case2 scan hlt e hpage =>
      rw [HeapFile.getPage, List.getElem?_eq_getElem (Nat.lt_of_not_le hlt)] at hpage
      cases hpage
  | case3 scan hlt page hpage hslot hnext => cases h
  | case4 scan hlt page hpage hslot pageId hnext ih => exact ih h
  | case5 scan hlt page hpage hslot hnext => cases h
  | case6 scan hlt page hpage hslot slotId hnext hdata => cases h
  | case7 scan hlt page hpage hslot slotId hnext data hdata hempty ih => exact ih h
  | case8 scan hlt page hpage hslot slotId hnext data hdata hempty =>
      cases h
      exact ⟨rfl, by rintro ⟨⟩⟩

/-- A scan that ends has a cursor behind the last page. -/
theorem length_le_of_exhausts {scan last : HeapFileScan} {items : List (List UInt8)}
    (h : Exhausts next scan items last) : scan.heapFile.pages.length ≤ 65535 := by
  induction h with
  | @done scan last hnext =>
      have hend := (of_next hnext).2 rfl
      have hlt := last.pageId.toNat_lt
      omega
  | item hnext _ ih =>
      rw [← (of_next hnext).1]
      exact ih

/-- With 65536 pages and no slots behind the cursor, the cursor overflows. -/
theorem next_eq_none {heap : HeapFile} (hlength : heap.pages.length = 65536) {pageId : PageId}
    (hempty : ∀ page ∈ heap.pages, page.getSlotCount = 0) : next ⟨heap, pageId, 0⟩ = none := by
  have hlt := pageId.toNat_lt
  have hfound := List.getElem?_eq_getElem (show pageId.toNat < heap.pages.length by omega)
  have hcount := hempty _ (List.mem_of_getElem? hfound)
  rw [next_eq_round (by simp only; omega) (HeapFile.getPage_eq_ok hfound), hcount,
    if_pos (UInt16.le_refl 0)]
  cases hadd : checkedAdd pageId 1 with
  | none => rfl
  | some nextId =>
      have hnext := toNat_of_checkedAdd_one hadd
      exact next_eq_none hlength hempty
termination_by 65536 - pageId.toNat

end HeapFileScan

/-- A scan of a heap file with any number of pages visits every slot once and ends exactly
when there are at most 65535 pages. -/
theorem HeapFile.Sound.scansCompletely_iff {heap : HeapFile} (h : heap.Sound) :
    heap.ScansCompletely ↔ heap.pages.length ≤ 65535 := by
  constructor
  · rintro ⟨items, last, hscan, -⟩
    exact HeapFileScan.length_le_of_exhausts (hscan.erase LoggedScan.erase_next)
  · intro hle
    obtain ⟨visited, cursor, hvisited, hscan⟩ := h.exhausts hle 0 0 []
    refine ⟨_, _, hscan, hvisited.nodup, fun address => ?_⟩
    rw [List.nil_append, hvisited.mem_iff]
    refine and_iff_left_of_imp fun _ => ?_
    rw [UInt16.toNat_zero]
    omega

/-- In every state of a run of a heap file of any capacity, a full scan visits every slot once
and ends exactly when there are at most 65535 pages. -/
theorem scan_completes_iff {capacity : Nat} {heap : HeapFile}
    (hnew : HeapFile.new capacity = .ok heap) {path : List (HeapOp × HeapFile)}
    (hpath : IsPath HeapFile.Calls heap path) :
    EveryState (fun heap => heap.ScansCompletely ↔ heap.pages.length ≤ 65535) heap path :=
  (HeapFile.sound_of_calls (HeapFile.new_sound hnew).1 hpath).imp fun _ h => h.scansCompletely_iff

/-- A heap file with as many pages as there are identifiers. -/
theorem scan_completes_iff_filled : ∃ heap path, HeapFile.new 65536 = .ok heap ∧
    IsPath HeapFile.Calls heap path ∧
    path.map Prod.fst = List.replicate 65536 HeapOp.createPage ∧
    EveryState (fun heap => heap.ScansCompletely ↔ heap.pages.length ≤ 65535) heap path := by
  obtain ⟨fsm, hfsm, -⟩ := FreeSpaceMap.new_eq_ok (show 0 < 65536 by omega)
  have hnew : HeapFile.new 65536 = .ok ⟨[], fsm, 65536⟩ := by rw [HeapFile.new, hfsm]
  obtain ⟨path, hpath, hops, -⟩ :=
    (HeapFile.new_sound hnew).1.exists_creations (n := 65536) (by simp)
  exact ⟨_, path, hnew, hpath, hops, scan_completes_iff hnew hpath⟩

/-- The first call on that heap file overflows the cursor. -/
theorem scan_cursor_overflows : ∃ heap path, HeapFile.new 65536 = .ok heap ∧
    IsPath HeapFile.Calls heap path ∧
    path.map Prod.fst = List.replicate 65536 HeapOp.createPage ∧
    (lastState heap path).scan.next = none ∧ ¬ (lastState heap path).ScansCompletely := by
  obtain ⟨fsm, hfsm, -⟩ := FreeSpaceMap.new_eq_ok (show 0 < 65536 by omega)
  have hnew : HeapFile.new 65536 = .ok ⟨[], fsm, 65536⟩ := by rw [HeapFile.new, hfsm]
  obtain ⟨path, hpath, hops, -, hlast⟩ :=
    (HeapFile.new_sound hnew).1.exists_creations (n := 65536) (by simp)
  rw [List.nil_append] at hlast
  have hlength : (lastState ⟨[], fsm, 65536⟩ path).pages.length = 65536 := by
    rw [hlast, List.length_replicate]
  refine ⟨_, path, hnew, hpath, hops, HeapFileScan.next_eq_none hlength fun page hpage => ?_, ?_⟩
  · rw [hlast] at hpage
    rw [List.eq_of_mem_replicate hpage]
    rfl
  · rw [(HeapFile.sound_of_calls (HeapFile.new_sound hnew).1 hpath).last.scansCompletely_iff]
    omega

end Storage
end TaskPool
