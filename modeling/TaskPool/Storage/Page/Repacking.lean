import TaskPool.Storage.Page.FuzzTarget

/-!
# Compacting a packed page

However many bytes a compaction overwrites before it has read them, it leaves the records
packed in slot order behind the directory and the free end behind the last of them.  On
such a page every iteration of the loop copies a record onto itself and writes the
directory entry that is there already.

Main results:

- Structure `SlottedPage.Packed`: what a compaction leaves behind.
- Theorem `SlottedPage.Packed.compact_self`: a packed page is a fixed point of compaction.
- Theorem `compact_idempotent`: compacting twice is compacting once.
-/

namespace TaskPool
namespace Storage

open Library

namespace SlottedPage

/-- The records lie in slot order behind the directory, the free end behind them. -/
structure Packed (page : SlottedPage) : Prop where
  slotOffset_eq : ∀ i < page.getSlotCount.toNat, page.slotLength i ≠ 0 →
    page.slotOffset i = page.compactTarget i
  freeEnd_eq : page.freeEnd.toNat = page.compactTarget page.getSlotCount.toNat

/-! ## Compaction packs -/

/-- A compacted page has the targets of the page before. -/
theorem compactTarget_compacted {page : SlottedPage} (h : page.Movable) {i : Nat}
    (hi : i ≤ page.getSlotCount.toNat) :
    page.compacted.compactTarget i = page.compactTarget i := by
  have hlengths : (List.range i).map page.compacted.slotLength =
      (List.range i).map page.slotLength := by
    apply List.map_congr_left
    intro j hj
    exact slotLength_compacted h ((List.mem_range.mp hj).trans_le hi)
  rw [compactTarget, compactTarget, hlengths, directoryEnd, directoryEnd,
    getSlotCount_compacted h]

/-- A compacted page is packed. -/
theorem packed_compacted {page : SlottedPage} (h : page.Movable) : page.compacted.Packed where
  slotOffset_eq := by
    intro i hi hne
    rw [getSlotCount_compacted h] at hi
    rw [slotLength_compacted h hi] at hne
    rw [slotOffset_compacted h hi, if_neg hne, compactTarget_compacted h hi.le]
  freeEnd_eq := by
    rw [freeEnd_compacted h, getSlotCount_compacted h, compactTarget_compacted h le_rfl]

/-! ## A packed page is a fixed point -/

/-- Writing the directory entry that is there already changes nothing. -/
theorem writeSlot_self (page : SlottedPage) {slot : SlotId} (h : 8 + 4 * slot.toNat ≤ 4096) :
    page.writeSlot slot (page.data.u16At (4 + 4 * slot.toNat))
      (page.data.u16At (4 + 4 * slot.toNat + 2)) = some page := by
  have hoffset : 4 + 4 * slot.toNat + 2 ≤ pageSize := by
    simp only [pageSize]
    omega
  have hlength : 4 + 4 * slot.toNat + 2 + 2 ≤ pageSize := by
    simp only [pageSize]
    omega
  simp only [writeSlot, headerSize, slotSize, Nat.mul_comm slot.toNat 4]
  rw [Buffer.setU16_eq_some _ _ hoffset, Option.bind_eq_bind, Option.bind_some,
    Buffer.putU16_u16At, Buffer.setU16_eq_some _ _ hlength, Option.bind_some,
    Buffer.putU16_u16At]
  rfl

/-- The iteration for a record that is where it belongs changes nothing. -/
theorem compactStep_self {page : SlottedPage} {i : Nat} (hi : 8 + 4 * i ≤ 4096)
    (hend : page.slotOffset i + page.slotLength i ≤ 4096) {destination : Nat}
    (hplace : page.slotLength i ≠ 0 → page.slotOffset i = destination) :
    compactStep (page, destination) i = some (page, destination + page.slotLength i) := by
  have hslot : (UInt16.ofNat i).toNat = i := toNat_ofNat_u16 (by omega)
  have hread := readSlot_eq_some page (show 8 + 4 * (UInt16.ofNat i).toNat ≤ 4096 by omega)
  rw [hslot] at hread
  by_cases hzero : page.slotLength i = 0
  · have hlength : page.data.u16At (4 + 4 * i + 2) = 0 := UInt16.toNat_inj.mp hzero
    simp only [compactStep, hread, Option.bind_eq_bind, Option.bind_some, hlength, if_pos, hzero]
    rfl
  · have hne : page.data.u16At (4 + 4 * i + 2) ≠ 0 := fun h => hzero (congrArg UInt16.toNat h)
    have hoffset : (page.data.u16At (4 + 4 * i)).toNat = page.slotOffset i := rfl
    have hlength : (page.data.u16At (4 + 4 * i + 2)).toNat = page.slotLength i := rfl
    have hword : UInt16.ofNat (page.slotOffset i) = page.data.u16At (4 + 4 * i) :=
      UInt16.ofNat_toNat
    have hslice : page.data.slice (page.slotOffset i) (page.slotOffset i + page.slotLength i) =
        some (page.data.window (page.slotOffset i) (page.slotLength i)) := by
      rw [Buffer.slice_eq_window _ (by omega) hend, Nat.add_sub_cancel_left]
    have hwrite := page.writeSlot_self (show 8 + 4 * (UInt16.ofNat i).toNat ≤ 4096 by omega)
    rw [hslot] at hwrite
    simp only [compactStep, hread, Option.bind_eq_bind, Option.bind_some, if_neg hne, hoffset,
      hlength, ← hplace hzero, hslice, Buffer.copyFromSlice_window _ hend, hword, hwrite]
    rfl

/-- On a packed page every iteration writes a record where it already is. -/
theorem Packed.foldlM_compactStep_self {page : SlottedPage} (h : page.Packed)
    (hinside : page.Inside) {i : Nat} (hi : i ≤ page.getSlotCount.toNat) :
    (List.range i).foldlM compactStep (page, page.directoryEnd) =
      some (page, page.compactTarget i) := by
  have hcount := hinside.bounded.slotCount_le
  induction i with
  | zero => rfl
  | succ i ih =>
      have hstep := compactStep_self (show 8 + 4 * i ≤ 4096 by omega) (hinside.extent_le i hi)
        (h.slotOffset_eq i hi)
      rw [List.range_succ, List.foldlM_append, ih (by omega), compactTarget_succ]
      simp [hstep]

/-- Compacting a packed page changes none of its bytes. -/
theorem Packed.compact_self {page : SlottedPage} (h : page.Packed) (hinside : page.Inside) :
    page.compact = some page := by
  have hloop := h.foldlM_compactStep_self hinside le_rfl
  simp only [directoryEnd] at hloop
  have hheader : page.setFreeEnd (UInt16.ofNat (page.compactTarget page.getSlotCount.toNat)) =
      page := by
    rw [← h.freeEnd_eq, UInt16.ofNat_toNat, setFreeEnd, SlottedPage.freeEnd,
      Buffer.putU16_u16At]
  simp only [compact, headerSize, slotSize, hloop, Option.bind_eq_bind, Option.bind_some, hheader]
  rfl

end SlottedPage

/-- Compacting a page a second time changes none of its bytes, for every page that is
reached by operations that do not panic. -/
theorem compact_idempotent {ops : List FuzzOp} {page once : SlottedPage}
    (hrun : ops.foldlM SlottedPage.perform SlottedPage.new = some page)
    (hcompact : page.compact = some once) : once.compact = some once := by
  have hinside := SlottedPage.new_inside.of_foldlM hrun
  have hmovable : page.Movable := ⟨hinside.target_le_of_compact hcompact, hinside.extent_le⟩
  have honce : page.compacted = once := by
    rw [SlottedPage.compact_eq_some hmovable, Option.some_inj] at hcompact
    exact hcompact
  have hperform : page.perform .compact = some once := hcompact
  exact (honce ▸ SlottedPage.packed_compacted hmovable).compact_self (hinside.of_perform hperform)

/-- Two long records with an empty one between them: the first compaction copies the first
record over the beginning of the last one before that is read. -/
theorem compact_idempotent_overlapping :
    ∃ page once, [.insert (List.replicate 1500 1), .insert [],
        .insert (List.replicate 1400 2)].foldlM SlottedPage.perform SlottedPage.new = some page ∧
      page.compact = some once ∧ once.get 2 ≠ page.get 2 ∧ once.compact = some once := by
  have hrun : (do
      let page ← [.insert (List.replicate 1500 1), .insert [],
        .insert (List.replicate 1400 2)].foldlM SlottedPage.perform SlottedPage.new
      let once ← page.compact
      pure (decide (once.get 2 ≠ page.get 2))) = some true := by
    decide +kernel
  simp only [Option.bind_eq_bind, Option.bind_eq_some_iff, Option.pure_def, Option.some_inj,
    decide_eq_true_eq] at hrun
  obtain ⟨page, hpage, once, honce, hlost⟩ := hrun
  exact ⟨page, once, hpage, honce, hlost, compact_idempotent hpage honce⟩

end Storage
end TaskPool
