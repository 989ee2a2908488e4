import TaskPool.Storage.Page.Compaction

/-!
# Runs with compaction

The fuzz target inserts, deletes and compacts in any order and checks the page after
every operation.  Inserts take the space below the free end, and compaction puts the
free end behind the records it packs; so a run of both can accept more bytes than a page
holds, and the next compaction panics.

Main results:

- Structure `SlottedPage.Inside`: the directory, the free end and every record end inside
  the page.
- Theorem `SlottedPage.Inside.perform`: an operation keeps this, unless it is a compaction
  of records that do not fit behind the directory.
- Theorem `compactions_in_bounds_iff`: a run panics nowhere and passes all checks exactly
  when the records of every page it compacts fit behind the directory.
-/

namespace TaskPool
namespace Storage

open Library

/-- An operation of the fuzz target. -/
inductive FuzzOp where
  | insert (record : List UInt8)
  | delete (slot : SlotId)
  | compact
deriving DecidableEq

namespace SlottedPage

/-- Execute an operation and drop its result. -/
def perform (page : SlottedPage) : FuzzOp → Option SlottedPage
  | .insert record => do
    let (_, page) ← page.insert record
    return page
  | .delete slot => do
    let (_, page) ← page.delete slot
    return page
  | .compact => page.compact

/-- `check_invariants`: the free space can be computed, the directory ends at or below the
free end, which is inside the page, and every slot can be read. -/
structure PassesChecks (page : SlottedPage) : Prop where
  directory_le : 4 + 4 * page.getSlotCount.toNat ≤ page.freeEnd.toNat
  freeEnd_le : page.freeEnd.toNat ≤ 4096
  freeSpace_eq : page.freeSpace =
    some (UInt16.ofNat (page.freeEnd.toNat - (4 + 4 * page.getSlotCount.toNat)))
  get_eq : ∀ slot : SlotId, slot.toNat < page.getSlotCount.toNat →
    page.slotOffset slot.toNat + page.slotLength slot.toNat ≤ 4096 ∧
      page.get slot = some (page.record slot.toNat)

/-- No operation of the list panics, and the checks pass after each of them. -/
def RunsInBounds : SlottedPage → List FuzzOp → Prop
  | _, [] => True
  | page, op :: ops =>
    ∃ next, page.perform op = some next ∧ next.PassesChecks ∧ RunsInBounds next ops

/-- Every compaction of the list meets a page whose records fit behind its directory. -/
def CompactionsFit : SlottedPage → List FuzzOp → Prop
  | _, [] => True
  | page, op :: ops =>
    (op = .compact → 4 + 4 * page.getSlotCount.toNat +
        ((List.range page.getSlotCount.toNat).map page.slotLength).sum ≤ 4096) ∧
      ∀ next, page.perform op = some next → CompactionsFit next ops

/-! ## The invariant -/

/-- The directory, the free end and every record end inside the page. -/
structure Inside (page : SlottedPage) : Prop where
  bounded : page.Bounded
  extent_le : ∀ i < page.getSlotCount.toNat, page.slotOffset i + page.slotLength i ≤ 4096

/-- Everything on a new page is inside of it. -/
theorem new_inside : new.Inside where
  bounded :=
    { directory_le := by simp [directoryEnd]
      freeEnd_le := by simp }
  extent_le := by simp

/-- A page whose parts are inside of it passes the checks. -/
theorem Inside.passesChecks {page : SlottedPage} (h : page.Inside) : page.PassesChecks where
  directory_le := h.bounded.directory_le
  freeEnd_le := h.bounded.freeEnd_le
  freeSpace_eq := freeSpace_eq_some h.bounded
  get_eq := by
    intro slot hslot
    have hcount := h.bounded.slotCount_le
    have hend := h.extent_le slot.toNat hslot
    exact ⟨hend, page.get_eq_window (by omega) hend⟩

/-- An accepted record and its slot end inside the page. -/
theorem Inside.appended {page next : SlottedPage} (h : page.Inside) {record : List UInt8}
    (hfits : record.length + 4 ≤ page.freeEnd.toNat - page.directoryEnd)
    (hnext : Appended page record next) : next.Inside := by
  have hcount := hnext.getSlotCount_eq
  have hend := h.bounded.freeEnd_le
  have hfree := hnext.freeEnd_eq
  have hdirectory : page.directoryEnd = 4 + 4 * page.getSlotCount.toNat := rfl
  have hdirectoryNext : next.directoryEnd = 4 + 4 * next.getSlotCount.toNat := rfl
  refine ⟨⟨by omega, by omega⟩, fun i hi => ?_⟩
  by_cases hlast : i = page.getSlotCount.toNat
  · subst hlast
    rw [hnext.offset_eq, hnext.length_eq]
    omega
  · obtain ⟨hoffset, hlength⟩ := hnext.slot_eq i (by omega)
    rw [hoffset, hlength]
    exact h.extent_le i (by omega)

/-- An insert, accepted or not, keeps everything inside the page. -/
theorem Inside.insert {page : SlottedPage} (h : page.Inside) (record : List UInt8) :
    ∃ result next, page.insert record = some (result, next) ∧ next.Inside := by
  by_cases hfits : record.length + 4 ≤ page.freeEnd.toNat - page.directoryEnd
  · obtain ⟨next, hinsert, hnext⟩ := insert_of_fits h.bounded record hfits
    exact ⟨_, next, hinsert, h.appended hfits hnext⟩
  · exact ⟨_, page, insert_of_not_fits h.bounded record (by omega), h⟩

/-- A cleared slot ends inside the page. -/
theorem Inside.delete {page : SlottedPage} (h : page.Inside) (slot : SlotId) :
    ∃ result next, page.delete slot = some (result, next) ∧ next.Inside := by
  by_cases hslot : slot.toNat < page.getSlotCount.toNat
  · obtain ⟨next, hdelete, hnext⟩ := delete_of_lt h.bounded slot hslot
    have hcount := hnext.getSlotCount_eq
    have hfree := hnext.freeEnd_eq
    refine ⟨_, next, hdelete, ⟨?_, ?_⟩, fun i hi => ?_⟩
    · rw [directoryEnd, hcount, hfree]
      exact h.bounded.directory_le
    · rw [hfree]
      exact h.bounded.freeEnd_le
    · by_cases hself : i = slot.toNat
      · subst hself
        rw [hnext.offset_eq, hnext.length_eq]
        omega
      · obtain ⟨hoffset, hlength⟩ := hnext.slot_eq hself
        rw [hoffset, hlength]
        exact h.extent_le i (hcount ▸ hi)
  · exact ⟨_, page, delete_of_le (Nat.le_of_not_lt hslot), h⟩

/-- So does every call. -/
theorem Inside.apply {page next : SlottedPage} (h : page.Inside) {op : PageOp}
    {outcome : PageOutcome} (happly : page.apply op = some (outcome, next)) : next.Inside := by
  cases op with
  | insert record =>
      obtain ⟨result, next', hinsert, hnext⟩ := h.insert record
      rw [SlottedPage.apply, hinsert] at happly
      cases happly
      exact hnext
  | delete slot =>
      obtain ⟨result, next', hdelete, hnext⟩ := h.delete slot
      rw [SlottedPage.apply, hdelete] at happly
      cases happly
      exact hnext

/-- Records that fit behind the directory are packed inside the page. -/
theorem Inside.compact {page : SlottedPage} (h : page.Inside)
    (hfit : page.compactTarget page.getSlotCount.toNat ≤ 4096) :
    ∃ next, page.compact = some next ∧ next.Inside := by
  have hmove : page.Movable := ⟨hfit, h.extent_le⟩
  refine ⟨page.compacted, compact_eq_some hmove, bounded_compacted hmove, fun i hi => ?_⟩
  rw [getSlotCount_compacted hmove] at hi
  have htarget := (page.compactTarget_mono (show i + 1 ≤ _ from hi)).trans hfit
  have hend := h.extent_le i hi
  rw [compactTarget_succ] at htarget
  rw [slotOffset_compacted hmove hi, slotLength_compacted hmove hi]
  split <;> omega

/-! ## Compactions that panic -/

/-- An iteration that succeeds has found room for its record. -/
theorem room_of_compactStep {page : SlottedPage} {i destination : Nat}
    {result : SlottedPage × Nat} (hi : 8 + 4 * i ≤ 4096) (hdestination : destination ≤ 4096)
    (h : compactStep (page, destination) i = some result) :
    destination + page.slotLength i ≤ 4096 := by
  have hslot : (UInt16.ofNat i).toNat = i := toNat_ofNat_u16 (by omega)
  have hlength : (page.data.u16At (4 + 4 * i + 2)).toNat = page.slotLength i := rfl
  by_cases hzero : page.slotLength i = 0
  · rwa [hzero, Nat.add_zero]
  · have hne : page.data.u16At (4 + 4 * i + 2) ≠ 0 := fun heq =>
      hzero (congrArg UInt16.toNat heq)
    simp only [compactStep, readSlot_eq_some page (show 8 + 4 * (UInt16.ofNat i).toNat ≤ 4096 by
      omega), hslot, Option.bind_eq_bind, Option.bind_some, if_neg hne, hlength] at h
    obtain ⟨source, -, h⟩ := Option.bind_eq_some_iff.mp h
    obtain ⟨data, hcopy, -⟩ := Option.bind_eq_some_iff.mp h
    exact Buffer.le_of_copyFromSlice_eq_some hcopy

/-- As far as the loop gets, it has packed the records one behind the other. -/
theorem Inside.target_le_of_foldlM {page : SlottedPage} (h : page.Inside) {i : Nat}
    (hi : i ≤ page.getSlotCount.toNat) {result : SlottedPage × Nat}
    (hloop : (List.range i).foldlM compactStep (page, page.directoryEnd) = some result) :
    page.compactTarget i ≤ 4096 ∧ result.2 = page.compactTarget i ∧
      CompactState page i result.1 := by
  have hcount := h.bounded.slotCount_le
  induction i generalizing result with
  | zero =>
      simp only [List.range_zero, List.foldlM_nil, Option.pure_def, Option.some_inj] at hloop
      have hle := h.bounded.directory_le.trans h.bounded.freeEnd_le
      subst hloop
      exact ⟨hle, rfl, rfl, fun _ _ => rfl, fun _ _ _ => rfl, fun _ _ => rfl⟩
  | succ i ih =>
      rw [List.range_succ, List.foldlM_append] at hloop
      obtain ⟨⟨current, destination⟩, hprefix, hstep⟩ := Option.bind_eq_some_iff.mp hloop
      obtain ⟨htarget, rfl, hstate⟩ := ih (by omega) hprefix
      have hstep : compactStep (current, page.compactTarget i) i = some result := by
        simpa using hstep
      have hroom := room_of_compactStep (by omega) htarget hstep
      rw [hstate.slotLength_eq i hi, ← compactTarget_succ] at hroom
      obtain ⟨next, hnext, -, hstateNext⟩ :=
        hstate.step_of_room hcount hroom (h.extent_le i hi) hi
      rw [hnext, Option.some_inj] at hstep
      subst hstep
      exact ⟨hroom, rfl, hstateNext⟩

/-- Compaction succeeds only when the records fit behind the directory. -/
theorem Inside.target_le_of_compact {page next : SlottedPage} (h : page.Inside)
    (hcompact : page.compact = some next) :
    page.compactTarget page.getSlotCount.toNat ≤ 4096 := by
  obtain ⟨result, hloop, -⟩ := Option.bind_eq_some_iff.mp hcompact
  exact (h.target_le_of_foldlM le_rfl hloop).1

/-! ## Runs -/

/-- An operation keeps the page inside its bounds, unless it is a compaction of records
that do not fit behind the directory. -/
theorem Inside.perform {page : SlottedPage} (h : page.Inside) (op : FuzzOp)
    (hfit : op = .compact → page.compactTarget page.getSlotCount.toNat ≤ 4096) :
    ∃ next, page.perform op = some next ∧ next.Inside := by
  cases op with
  | insert record =>
      obtain ⟨result, next, hinsert, hnext⟩ := h.insert record
      exact ⟨next, by rw [SlottedPage.perform, hinsert]; rfl, hnext⟩
  | delete slot =>
      obtain ⟨result, next, hdelete, hnext⟩ := h.delete slot
      exact ⟨next, by rw [SlottedPage.perform, hdelete]; rfl, hnext⟩
  | compact => exact h.compact (hfit rfl)

/-- An operation that does not panic keeps the page inside its bounds. -/
theorem Inside.of_perform {page next : SlottedPage} (h : page.Inside) {op : FuzzOp}
    (hperform : page.perform op = some next) : next.Inside := by
  have hfit : op = .compact → page.compactTarget page.getSlotCount.toNat ≤ 4096 := by
    rintro rfl
    exact h.target_le_of_compact hperform
  obtain ⟨next', hperform', hnext⟩ := h.perform op hfit
  rw [hperform', Option.some_inj] at hperform
  exact hperform ▸ hnext

/-- So does a run of operations none of which panics. -/
theorem Inside.of_foldlM {page last : SlottedPage} (h : page.Inside) {ops : List FuzzOp}
    (hrun : ops.foldlM SlottedPage.perform page = some last) : last.Inside := by
  induction ops generalizing page with
  | nil =>
      rw [List.foldlM_nil, Option.pure_def, Option.some_inj] at hrun
      exact hrun ▸ h
  | cons op ops ih =>
      rw [List.foldlM_cons] at hrun
      obtain ⟨next, hperform, hrest⟩ := Option.bind_eq_some_iff.mp hrun
      exact ih (h.of_perform hperform) hrest

/-- A run stays in bounds exactly when its compactions have room. -/
theorem Inside.runsInBounds_iff {page : SlottedPage} (h : page.Inside) (ops : List FuzzOp) :
    page.RunsInBounds ops ↔ page.CompactionsFit ops := by
  induction ops generalizing page with
  | nil => exact Iff.rfl
  | cons op ops ih =>
      rw [RunsInBounds, CompactionsFit]
      constructor
      · rintro ⟨next, hperform, -, hrun⟩
        have hfit : op = .compact → page.compactTarget page.getSlotCount.toNat ≤ 4096 := by
          rintro rfl
          exact h.target_le_of_compact hperform
        obtain ⟨next', hperform', hnext⟩ := h.perform op hfit
        rw [hperform', Option.some_inj] at hperform
        subst hperform
        refine ⟨hfit, fun other hother => ?_⟩
        rw [hperform', Option.some_inj] at hother
        exact hother ▸ (ih hnext).mp hrun
      · rintro ⟨hfit, hrest⟩
        obtain ⟨next, hperform, hnext⟩ := h.perform op hfit
        exact ⟨next, hperform, hnext.passesChecks, (ih hnext).mpr (hrest next hperform)⟩

end SlottedPage

/-- A run from the empty page panics nowhere and passes the checks after every operation
exactly when every compaction meets records that fit behind the directory. -/
theorem compactions_in_bounds_iff (ops : List FuzzOp) :
    SlottedPage.new.RunsInBounds ops ↔ SlottedPage.new.CompactionsFit ops :=
  SlottedPage.new_inside.runsInBounds_iff ops

/-- Two records of 1500 bytes, a compaction, a record of 2000 bytes and another
compaction: the first compaction puts the free end behind the packed records, the insert
is accepted below it, and the second compaction runs out of the page. -/
theorem second_compaction_panics :
    ¬ SlottedPage.new.RunsInBounds
      [.insert (List.replicate 1500 1), .insert (List.replicate 1500 2), .compact,
        .insert (List.replicate 2000 3), .compact] := by
  have hrun : (do
      let page ← SlottedPage.new.perform (.insert (List.replicate 1500 1))
      let page ← page.perform (.insert (List.replicate 1500 2))
      let page ← page.perform .compact
      let page ← page.perform (.insert (List.replicate 2000 3))
      page.perform .compact) = none := by
    decide +kernel
  rintro ⟨page₁, h₁, -, page₂, h₂, -, page₃, h₃, -, page₄, h₄, -, page₅, h₅, -, -⟩
  simp only [h₁, h₂, h₃, h₄, h₅, Option.bind_eq_bind, Option.bind_some] at hrun
  cases hrun

end Storage
end TaskPool
