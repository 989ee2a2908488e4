import TaskPool.Storage.Page.RecordStore

/-!
# Compaction of a slotted page

`compact` copies the records in slot order to the addresses behind the directory
and moves the free end behind the last of them.  The records of a page lie in the
opposite order, so a copy can land on bytes of a record that has not been moved
yet.  This module follows the loop one iteration at a time: iteration `i` writes
one target range, below it lie the records already moved, and above it the page is
still the original one.

Main results:

- Theorem `SlottedPage.compact_eq_some`: compaction of a page that an insert and
  delete sequence reaches never panics.
- Theorem `SlottedPage.record_compact`: slot `i` ends up with the bytes found at
  its old place when its turn comes.
- Theorem `compact_keeps_records_iff`: compaction keeps every record exactly when
  each record agrees with the packed records below it on the bytes they overlap.
- Theorem `compact_frees_space_iff`: compaction leaves the free region free
  exactly when the directory fills the page.
-/

namespace TaskPool
namespace Storage

open Library

namespace SlottedPage

/-- The address to which the loop of `compact` moves the record of slot `i`. -/
def compactTarget (page : SlottedPage) (i : Nat) : Nat :=
  page.directoryEnd + ((List.range i).map page.slotLength).sum

/-- The records of the first `i` slots, one behind the other. -/
def packed (page : SlottedPage) (i : Nat) : List UInt8 :=
  (List.range i).flatMap page.record

/-- The page after the first `i` iterations of the loop of `compact`. -/
def compactPrefix (page : SlottedPage) : Nat → SlottedPage
  | 0 => page
  | i + 1 =>
      match compactStep (page.compactPrefix i, page.compactTarget i) i with
      | some (next, _) => next
      | none => page.compactPrefix i

/-- The records fit behind the directory, and each ends inside the page: the loop of
`compact` runs through. -/
structure Movable (page : SlottedPage) : Prop where
  target_le : page.compactTarget page.getSlotCount.toNat ≤ 4096
  extent_le : ∀ i < page.getSlotCount.toNat, page.slotOffset i + page.slotLength i ≤ 4096

/-- The records fit behind the directory, and each lies inside the page. -/
structure Packable (page : SlottedPage) : Prop where
  target_le : page.compactTarget page.getSlotCount.toNat ≤ 4096
  inside : ∀ i < page.getSlotCount.toNat, page.slotOffset i + page.slotLength i ≤ 4096 ∧
    (page.slotLength i ≠ 0 → page.directoryEnd ≤ page.slotOffset i)

/-- The next target is behind the record of the slot. -/
theorem compactTarget_succ (page : SlottedPage) (i : Nat) :
    page.compactTarget (i + 1) = page.compactTarget i + page.slotLength i := by
  simp [compactTarget, List.range_succ, Nat.add_assoc]

/-- Targets grow with the slots. -/
theorem compactTarget_mono (page : SlottedPage) {i j : Nat} (h : i ≤ j) :
    page.compactTarget i ≤ page.compactTarget j := by
  induction j, h using Nat.le_induction with
  | base => exact le_rfl
  | succ j _ ih =>
      rw [compactTarget_succ]
      omega

/-- All targets are behind the directory. -/
theorem directoryEnd_le_compactTarget (page : SlottedPage) (i : Nat) :
    page.directoryEnd ≤ page.compactTarget i :=
  Nat.le_add_right _ _

@[simp] theorem length_record (page : SlottedPage) (i : Nat) :
    (page.record i).length = page.slotLength i := by
  simp [record]

/-- One more slot adds its record. -/
theorem packed_succ (page : SlottedPage) (i : Nat) :
    page.packed (i + 1) = page.packed i ++ page.record i := by
  simp [packed, List.range_succ]

/-- The records of the first slots end where the next target is. -/
theorem length_packed (page : SlottedPage) (i : Nat) :
    page.directoryEnd + (page.packed i).length = page.compactTarget i := by
  simp [packed, compactTarget, List.length_flatMap]

/-- Records that fit and lie inside the page can be moved. -/
theorem Packable.movable {page : SlottedPage} (h : page.Packable) : page.Movable where
  target_le := h.target_le
  extent_le := fun i hi => (h.inside i hi).1

/-- A page whose records can be moved has at most 1023 slots. -/
theorem Movable.slotCount_le {page : SlottedPage} (h : page.Movable) :
    page.getSlotCount.toNat ≤ 1023 := by
  have htarget := h.target_le
  have hdirectory := page.directoryEnd_le_compactTarget page.getSlotCount.toNat
  simp only [directoryEnd] at hdirectory
  omega

/-! ## One iteration -/

/-- What one iteration of the loop of `compact` leaves behind. -/
structure Moved (page : SlottedPage) (i destination : Nat) (next : SlottedPage) : Prop where
  getSlotCount_eq : next.getSlotCount = page.getSlotCount
  slotLength_eq : ∀ j, j < page.getSlotCount.toNat → next.slotLength j = page.slotLength j
  slotOffset_self : next.slotOffset i =
    if page.slotLength i = 0 then page.slotOffset i else destination
  slotOffset_ne : ∀ j, j < page.getSlotCount.toNat → j ≠ i →
    next.slotOffset j = page.slotOffset j
  window_eq : next.data.window destination (page.slotLength i) = page.record i
  frame : ∀ a, page.directoryEnd ≤ a →
    a < destination ∨ destination + page.slotLength i ≤ a →
    next.data.byteAt a = page.data.byteAt a

/-- A slot of length zero is skipped. -/
theorem compactStep_of_length_zero {page : SlottedPage} {i destination : Nat}
    (hslot : i < page.getSlotCount.toNat) (hcount : page.getSlotCount.toNat ≤ 1023)
    (hzero : page.slotLength i = 0) :
    compactStep (page, destination) i = some (page, destination) := by
  have hi : (UInt16.ofNat i).toNat = i := toNat_ofNat_u16 (by omega)
  have hlength : page.data.u16At (4 + 4 * i + 2) = 0 := UInt16.toNat_inj.mp hzero
  simp only [compactStep, readSlot_eq_some page (show 8 + 4 * (UInt16.ofNat i).toNat ≤ 4096 by
    omega), hi, Option.bind_eq_bind, Option.bind_some, hlength, if_pos]
  rfl

/-- An iteration whose record lies inside the page and has room at its target moves it there.
-/
theorem compactStep_eq_some {page : SlottedPage} {i destination : Nat}
    (hslot : i < page.getSlotCount.toNat) (hcount : page.getSlotCount.toNat ≤ 1023)
    (hdirectory : page.directoryEnd ≤ destination)
    (hroom : destination + page.slotLength i ≤ 4096)
    (hend : page.slotOffset i + page.slotLength i ≤ 4096) :
    ∃ next, compactStep (page, destination) i =
        some (next, destination + page.slotLength i) ∧ Moved page i destination next := by
  by_cases hzero : page.slotLength i = 0
  · refine ⟨page, ?_, rfl, fun _ _ => rfl, by rw [if_pos hzero], fun _ _ _ => rfl, ?_,
      fun _ _ _ => rfl⟩
    · rw [compactStep_of_length_zero hslot hcount hzero, hzero, Nat.add_zero]
    · simp [record, hzero, Buffer.window]
  · have hi : (UInt16.ofNat i).toNat = i := toNat_ofNat_u16 (by omega)
    have hdirectoryEnd : page.directoryEnd = 4 + 4 * page.getSlotCount.toNat := rfl
    have hne : page.data.u16At (4 + 4 * i + 2) ≠ 0 := fun h => hzero (congrArg UInt16.toNat h)
    have hlength : (page.data.u16At (4 + 4 * i + 2)).toNat = page.slotLength i := rfl
    have hoffset : (page.data.u16At (4 + 4 * i)).toNat = page.slotOffset i := rfl
    obtain ⟨data, hcopy, hwindow, hframe⟩ := Buffer.copyFromSlice_eq_some page.data
      (page.record i) hroom (by rw [length_record])
    rw [length_record] at hwindow
    let copied : SlottedPage := ⟨data⟩
    have hframe : ∀ a, a < destination ∨ destination + page.slotLength i ≤ a →
        copied.data.byteAt a = page.data.byteAt a := hframe
    have hsource : page.data.slice (page.slotOffset i) (page.slotOffset i + page.slotLength i) =
        some (page.record i) := by
      rw [Buffer.slice_eq_window _ (by omega) hend, Nat.add_sub_cancel_left]
      rfl
    obtain ⟨next, hwrite, hslotWritten⟩ := writeSlot_eq_some copied (UInt16.ofNat i)
      (UInt16.ofNat destination) (page.data.u16At (4 + 4 * i + 2)) (by omega)
    rw [hi, toNat_ofNat_u16 (by omega), hlength] at hslotWritten
    have hslots : ∀ j, j < page.getSlotCount.toNat → copied.slotOffset j = page.slotOffset j ∧
        copied.slotLength j = page.slotLength j := fun j hj =>
      slot_congr fun a _ ha => hframe a (by omega)
    have hslotFrame : ∀ a, page.directoryEnd ≤ a → next.data.byteAt a = copied.data.byteAt a :=
      fun a ha => hslotWritten.outside a (by omega)
    refine ⟨next, ?_, ?_⟩
    · simp only [compactStep, readSlot_eq_some page (show 8 + 4 * (UInt16.ofNat i).toNat ≤ 4096 by
        omega), hi, Option.bind_eq_bind, Option.bind_some, if_neg hne, hoffset, hlength, hsource,
        hcopy]
      rw [show (⟨data⟩ : SlottedPage) = copied from rfl, hwrite]
      rfl
    · refine
        { getSlotCount_eq := ?_
          slotLength_eq := ?_
          slotOffset_self := by rw [hslotWritten.offset_eq, if_neg hzero]
          slotOffset_ne := ?_
          window_eq := ?_
          frame := ?_ }
      · rw [hslotWritten.getSlotCount_eq]
        exact Buffer.u16At_congr fun a _ ha => hframe a (by omega)
      · intro j hj
        by_cases hji : j = i
        · rw [hji, hslotWritten.length_eq]
        · rw [(hslotWritten.slot_eq hji).2, (hslots j hj).2]
      · intro j hj hji
        rw [(hslotWritten.slot_eq hji).1, (hslots j hj).1]
      · rw [Buffer.window_congr fun a ha _ => hslotFrame a (by omega)]
        exact hwindow
      · intro a ha hframe_a
        rw [hslotFrame a ha, hframe a hframe_a]

/-! ## The loop -/

/-- After `i` iterations the directory keeps its lengths, the later slots keep
their offsets, and every byte from the next target on is the original one. -/
structure CompactState (page : SlottedPage) (i : Nat) (current : SlottedPage) : Prop where
  getSlotCount_eq : current.getSlotCount = page.getSlotCount
  slotLength_eq : ∀ j, j < page.getSlotCount.toNat → current.slotLength j = page.slotLength j
  slotOffset_eq : ∀ j, j < page.getSlotCount.toNat → i ≤ j →
    current.slotOffset j = page.slotOffset j
  bytes_eq : ∀ a, page.compactTarget i ≤ a → current.data.byteAt a = page.data.byteAt a

/-- The iteration that starts in a state of the loop succeeds when its record has room. -/
theorem CompactState.step_of_room {page current : SlottedPage} {i : Nat}
    (hcount : page.getSlotCount.toNat ≤ 1023) (hroom : page.compactTarget (i + 1) ≤ 4096)
    (hend : page.slotOffset i + page.slotLength i ≤ 4096) (hstate : CompactState page i current)
    (hi : i < page.getSlotCount.toNat) :
    ∃ next, compactStep (current, page.compactTarget i) i =
        some (next, page.compactTarget (i + 1)) ∧
      Moved current i (page.compactTarget i) next ∧ CompactState page (i + 1) next := by
  have hlength := hstate.slotLength_eq i hi
  have hoffset := hstate.slotOffset_eq i hi le_rfl
  have hcountEq := congrArg UInt16.toNat hstate.getSlotCount_eq
  have hdirectory : current.directoryEnd = page.directoryEnd := by
    simp only [directoryEnd, hcountEq]
  have hlow := page.directoryEnd_le_compactTarget i
  rw [compactTarget_succ] at hroom ⊢
  have hbelow : current.directoryEnd ≤ page.compactTarget i := by omega
  rcases compactStep_eq_some (i := i) (by omega) (by omega) hbelow (by omega) (by omega) with
    ⟨next, hstep, hmoved⟩
  rw [hlength] at hstep
  refine ⟨next, hstep, hmoved, ?_⟩
  constructor
  · rw [hmoved.getSlotCount_eq, hstate.getSlotCount_eq]
  · intro j hj
    rw [hmoved.slotLength_eq j (by omega), hstate.slotLength_eq j hj]
  · intro j hj hij
    rw [hmoved.slotOffset_ne j (by omega) (by omega), hstate.slotOffset_eq j hj (by omega)]
  · intro a ha
    rw [compactTarget_succ] at ha
    rw [hmoved.frame a (by omega) (by omega), hstate.bytes_eq a (by omega)]

/-- One iteration leads from one state of the loop to the next. -/
theorem CompactState.step {page current : SlottedPage} {i : Nat} (h : page.Movable)
    (hstate : CompactState page i current) (hi : i < page.getSlotCount.toNat) :
    ∃ next, compactStep (current, page.compactTarget i) i =
        some (next, page.compactTarget (i + 1)) ∧
      Moved current i (page.compactTarget i) next ∧ CompactState page (i + 1) next :=
  hstate.step_of_room h.slotCount_le ((page.compactTarget_mono hi).trans h.target_le)
    (h.extent_le i hi) hi

/-- The page after the first iterations is in the state of the loop. -/
theorem compactPrefix_state {page : SlottedPage} (h : page.Movable) {i : Nat}
    (hi : i ≤ page.getSlotCount.toNat) : CompactState page i (page.compactPrefix i) := by
  induction i with
  | zero => exact ⟨rfl, fun _ _ => rfl, fun _ _ _ => rfl, fun _ _ => rfl⟩
  | succ i ih =>
      rcases (ih (by omega)).step h hi with ⟨next, hstep, -, hnext⟩
      simpa only [compactPrefix, hstep] using hnext

/-- The next iteration moves the record of its slot. -/
theorem compactPrefix_step {page : SlottedPage} (h : page.Movable) {i : Nat}
    (hi : i < page.getSlotCount.toNat) :
    compactStep (page.compactPrefix i, page.compactTarget i) i =
        some (page.compactPrefix (i + 1), page.compactTarget (i + 1)) ∧
      Moved (page.compactPrefix i) i (page.compactTarget i) (page.compactPrefix (i + 1)) := by
  rcases (compactPrefix_state h hi.le).step h hi with ⟨next, hstep, hmoved, -⟩
  have hnext : page.compactPrefix (i + 1) = next := by simp only [compactPrefix, hstep]
  rw [hnext]
  exact ⟨hstep, hmoved⟩

/-- The loop of `compact` runs through all its iterations. -/
theorem foldlM_compactStep {page : SlottedPage} (h : page.Movable) {i : Nat}
    (hi : i ≤ page.getSlotCount.toNat) :
    (List.range i).foldlM compactStep (page, page.directoryEnd) =
      some (page.compactPrefix i, page.compactTarget i) := by
  induction i with
  | zero => rfl
  | succ i ih =>
      rw [List.range_succ, List.foldlM_append, ih (by omega)]
      simp [(compactPrefix_step h hi).1]

/-- The page that `compact` leaves behind. -/
def compacted (page : SlottedPage) : SlottedPage :=
  (page.compactPrefix page.getSlotCount.toNat).setFreeEnd
    (UInt16.ofNat (page.compactTarget page.getSlotCount.toNat))

/-- When the records can be moved, a compaction returns the compacted page. -/
theorem compact_eq_some {page : SlottedPage} (h : page.Movable) :
    page.compact = some page.compacted := by
  have hloop := foldlM_compactStep h le_rfl
  simp only [directoryEnd] at hloop
  simp only [compact, headerSize, slotSize, hloop]
  rfl

/-! ## The packed page -/

/-- Bytes below a target are never written again. -/
theorem byteAt_compactPrefix {page : SlottedPage} (h : page.Movable) {i j a : Nat} (hij : i ≤ j)
    (hj : j ≤ page.getSlotCount.toNat) (hlow : page.directoryEnd ≤ a)
    (ha : a < page.compactTarget i) :
    (page.compactPrefix j).data.byteAt a = (page.compactPrefix i).data.byteAt a := by
  induction j, hij using Nat.le_induction with
  | base => rfl
  | succ j hij ih =>
      have hmono := page.compactTarget_mono hij
      have hstate := compactPrefix_state h (show j ≤ page.getSlotCount.toNat by omega)
      have hdirectory : (page.compactPrefix j).directoryEnd = page.directoryEnd := by
        simp only [directoryEnd, hstate.getSlotCount_eq]
      rw [(compactPrefix_step h hj).2.frame a (by omega) (by omega), ih (by omega)]

/-- The loop leaves a moved record at its target and an empty one where it was. -/
theorem slotOffset_compactPrefix {page : SlottedPage} (h : page.Movable) {i j : Nat}
    (hij : i + 1 ≤ j) (hj : j ≤ page.getSlotCount.toNat) :
    (page.compactPrefix j).slotOffset i =
      if page.slotLength i = 0 then page.slotOffset i else page.compactTarget i := by
  induction j, hij using Nat.le_induction with
  | base =>
      have hstate := compactPrefix_state h (show i ≤ page.getSlotCount.toNat by omega)
      rw [(compactPrefix_step h hj).2.slotOffset_self, hstate.slotLength_eq i hj,
        hstate.slotOffset_eq i hj le_rfl]
  | succ j hij ih =>
      have hstate := compactPrefix_state h (show j ≤ page.getSlotCount.toNat by omega)
      rw [(compactPrefix_step h hj).2.slotOffset_ne i
        (by rw [hstate.getSlotCount_eq]; omega) (by omega), ih (by omega)]

/-- Behind the header, the compacted page is the page after the last iteration. -/
theorem byteAt_compacted (page : SlottedPage) {a : Nat} (ha : 4 ≤ a) :
    page.compacted.data.byteAt a =
      (page.compactPrefix page.getSlotCount.toNat).data.byteAt a :=
  byteAt_setFreeEnd _ _ ha

/-- Setting the free end leaves the directory as the loop has left it. -/
theorem slot_compacted (page : SlottedPage) (i : Nat) :
    page.compacted.slotOffset i = (page.compactPrefix page.getSlotCount.toNat).slotOffset i ∧
      page.compacted.slotLength i =
        (page.compactPrefix page.getSlotCount.toNat).slotLength i :=
  slot_congr fun _ ha _ => page.byteAt_compacted (by omega)

/-- A compaction keeps the number of slots. -/
theorem getSlotCount_compacted {page : SlottedPage} (h : page.Movable) :
    page.compacted.getSlotCount = page.getSlotCount := by
  rw [compacted, getSlotCount_setFreeEnd, (compactPrefix_state h le_rfl).getSlotCount_eq]

/-- A compaction writes the end of the packed records as the free end. -/
theorem freeEnd_compacted {page : SlottedPage} (h : page.Movable) :
    page.compacted.freeEnd.toNat = page.compactTarget page.getSlotCount.toNat := by
  have htarget := h.target_le
  rw [compacted, freeEnd_setFreeEnd, toNat_ofNat_u16 (by omega)]

/-- A compaction keeps the lengths of all slots. -/
theorem slotLength_compacted {page : SlottedPage} (h : page.Movable) {i : Nat}
    (hi : i < page.getSlotCount.toNat) : page.compacted.slotLength i = page.slotLength i := by
  rw [(page.slot_compacted i).2, (compactPrefix_state h le_rfl).slotLength_eq i hi]

/-- A compaction sends every slot with a record to its target. -/
theorem slotOffset_compacted {page : SlottedPage} (h : page.Movable) {i : Nat}
    (hi : i < page.getSlotCount.toNat) : page.compacted.slotOffset i =
      if page.slotLength i = 0 then page.slotOffset i else page.compactTarget i := by
  rw [(page.slot_compacted i).1, slotOffset_compactPrefix h hi le_rfl]

/-- The bytes in the target range of slot `i` are those the slot held when its
turn came. -/
theorem window_compactPrefix {page : SlottedPage} (h : page.Movable) {i j : Nat}
    (hij : i + 1 ≤ j) (hj : j ≤ page.getSlotCount.toNat) :
    (page.compactPrefix j).data.window (page.compactTarget i) (page.slotLength i) =
      (page.compactPrefix i).record i := by
  have hstate := compactPrefix_state h (show i ≤ page.getSlotCount.toNat by omega)
  have hmoved := (compactPrefix_step h (show i < page.getSlotCount.toNat by omega)).2.window_eq
  have hlow := page.directoryEnd_le_compactTarget i
  rw [hstate.slotLength_eq i (by omega)] at hmoved
  rw [← hmoved]
  apply Buffer.window_congr
  intro a ha ha'
  exact byteAt_compactPrefix h hij hj (by omega) (by rw [compactTarget_succ]; omega)

/-- Slot `i` ends up with the bytes found at its old place when its turn comes. -/
theorem record_compacted {page : SlottedPage} (h : page.Movable) {i : Nat}
    (hi : i < page.getSlotCount.toNat) :
    page.compacted.record i = (page.compactPrefix i).record i := by
  have hlow := page.directoryEnd_le_compactTarget i
  have hdirectory : page.directoryEnd = 4 + 4 * page.getSlotCount.toNat := rfl
  have hstate := compactPrefix_state h hi.le
  rw [record, slotLength_compacted h hi, slotOffset_compacted h hi]
  by_cases hzero : page.slotLength i = 0
  · simp [hzero, record, hstate.slotLength_eq i hi, Buffer.window]
  · rw [if_neg hzero, ← window_compactPrefix h hi le_rfl]
    exact Buffer.window_congr fun a ha _ => page.byteAt_compacted (by omega)

/-- A reachable slot of the compacted page can be read. -/
theorem get_compacted {page : SlottedPage} (h : page.Movable) {slot : SlotId}
    (hslot : slot.toNat < page.getSlotCount.toNat) :
    page.compacted.get slot = some ((page.compactPrefix slot.toNat).record slot.toNat) := by
  have hcount := h.slotCount_le
  have hinside := h.extent_le _ hslot
  have htarget := (page.compactTarget_mono
    (show slot.toNat + 1 ≤ page.getSlotCount.toNat from hslot)).trans h.target_le
  rw [compactTarget_succ] at htarget
  rw [← record_compacted h hslot]
  apply get_eq_window _ (by omega)
  rw [slotOffset_compacted h hslot, slotLength_compacted h hslot]
  split <;> omega

/-! ## When the records survive -/

/-- Each record agrees with the packed records of the slots before it on the
bytes that lie below its own target. -/
def OverlapsAgree (page : SlottedPage) : Prop :=
  ∀ i < page.getSlotCount.toNat, ∀ a ∈ page.extent i, a < page.compactTarget i →
    (page.packed i)[a - page.directoryEnd]? = some (page.data.byteAt a)

/-- While the records moved so far kept their bytes, the range below the next
target holds the packed records. -/
theorem byteAt_compactPrefix_packed {page : SlottedPage} (h : page.Movable) {i : Nat}
    (hi : i ≤ page.getSlotCount.toNat)
    (hkept : ∀ j < i, (page.compactPrefix j).record j = page.record j) {a : Nat}
    (hlow : page.directoryEnd ≤ a) (ha : a < page.compactTarget i) :
    (page.packed i)[a - page.directoryEnd]? = some ((page.compactPrefix i).data.byteAt a) := by
  induction i with
  | zero => simp [compactTarget] at ha; omega
  | succ i ih =>
      have hlength := page.length_packed i
      rw [packed_succ]
      by_cases hbelow : a < page.compactTarget i
      · rw [List.getElem?_append_left (by omega),
          ih (by omega) (fun j hj => hkept j (by omega)) hbelow,
          byteAt_compactPrefix h (Nat.le_succ i) hi hlow hbelow]
      · have hwindow := window_compactPrefix h (le_refl (i + 1)) hi
        rw [hkept i (by omega)] at hwindow
        rw [compactTarget_succ] at ha
        rw [List.getElem?_append_right (by omega), ← hwindow]
        simp only [Buffer.window, List.getElem?_map]
        rw [List.getElem?_range (by omega), Option.map_some]
        congr 2
        omega

/-- A record keeps its bytes when its turn comes exactly when it agrees with the
packed records below its target. -/
theorem record_compactPrefix_iff {page : SlottedPage} (h : page.Packable) {i : Nat}
    (hi : i < page.getSlotCount.toNat)
    (hkept : ∀ j < i, (page.compactPrefix j).record j = page.record j) :
    (page.compactPrefix i).record i = page.record i ↔
      ∀ a ∈ page.extent i, a < page.compactTarget i →
        (page.packed i)[a - page.directoryEnd]? = some (page.data.byteAt a) := by
  have hstate := compactPrefix_state h.movable hi.le
  have hoffset := hstate.slotOffset_eq i hi le_rfl
  have hlength := hstate.slotLength_eq i hi
  constructor
  · intro hrecord a ha hbelow
    have hlow : page.directoryEnd ≤ a := by
      have hinside := (h.inside i hi).2 (by have := ha.1; have := ha.2; omega)
      exact hinside.trans ha.1
    rw [byteAt_compactPrefix_packed h.movable hi.le hkept hlow hbelow]
    rw [record, record, hoffset, hlength] at hrecord
    have hbyte := Buffer.byteAt_eq_of_window_eq hrecord
      (k := a - page.slotOffset i) (by have := ha.1; have := ha.2; omega)
    rwa [Nat.add_sub_cancel' ha.1, ← Option.some_inj] at hbyte
  · intro hagree
    apply record_congr hoffset hlength
    intro a ha
    by_cases hbelow : a < page.compactTarget i
    · have hlow : page.directoryEnd ≤ a := by
        have hinside := (h.inside i hi).2 (by have := ha.1; have := ha.2; omega)
        exact hinside.trans ha.1
      have hpacked := byteAt_compactPrefix_packed h.movable hi.le hkept hlow hbelow
      rw [hagree a ha hbelow, Option.some_inj] at hpacked
      exact hpacked.symm
    · exact hstate.bytes_eq a (by omega)

/-- All records keep their bytes exactly when the overlaps agree. -/
theorem records_kept_iff {page : SlottedPage} (h : page.Packable) :
    (∀ i < page.getSlotCount.toNat, (page.compactPrefix i).record i = page.record i) ↔
      page.OverlapsAgree := by
  constructor
  · intro hkept i hi
    exact (record_compactPrefix_iff h hi fun j hj => hkept j (by omega)).mp (hkept i hi)
  · intro hagree i
    induction i using Nat.strong_induction_on with
    | _ i ih =>
        intro hi
        exact (record_compactPrefix_iff h hi fun j hj => ih j hj (by omega)).mpr (hagree i hi)

end SlottedPage

/-! ## Pages reached by inserts and deletes -/

/-- A slot is at most as long as the record accepted for it. -/
theorem RecordStore.Represents.slotLength_le {page : SlottedPage} {store : RecordStore}
    (h : RecordStore.Represents page store) {i : Nat} (hi : i < store.entries.length) :
    page.slotLength i + store.prefixLength i ≤ store.prefixLength (i + 1) := by
  have hentry := List.getElem?_eq_getElem hi
  have hprefix := store.prefixLength_succ hentry
  cases hlive : (store.entries[i]).live with
  | true =>
      have hslot := h.live_slot i _ hentry hlive
      omega
  | false =>
      have hslot := h.dead_slot i _ hentry hlive
      omega

/-- The pages that represent a store can be packed. -/
theorem RecordStore.Represents.packable {page : SlottedPage} {store : RecordStore}
    (h : RecordStore.Represents page store) : page.Packable := by
  have hcount := h.slotCount_eq
  have hroom := h.used_le
  rw [RecordStore.used_eq] at hroom
  have htarget : ∀ i ≤ store.entries.length,
      page.compactTarget i ≤ page.directoryEnd + store.prefixLength i := by
    intro i hi
    induction i with
    | zero => simp [SlottedPage.compactTarget]
    | succ i ih =>
        have hlength := h.slotLength_le hi
        have htarget := ih (by omega)
        rw [SlottedPage.compactTarget_succ]
        omega
  constructor
  · have hle := htarget page.getSlotCount.toNat hcount.le
    rw [h.directoryEnd_eq] at hle
    rw [hcount] at hle ⊢
    omega
  · intro i hi
    have hentry := List.getElem?_eq_getElem (show i < store.entries.length by omega)
    have hprefix := store.prefixLength_succ hentry
    have hmono := store.prefixLength_mono (show i + 1 ≤ store.entries.length by omega)
    cases hlive : (store.entries[i]).live with
    | true =>
        have hslot := h.live_slot i _ hentry hlive
        rw [h.directoryEnd_eq]
        omega
    | false =>
        have hslot := h.dead_slot i _ hentry hlive
        omega

/-- Compacting a page reached by inserts and deletes returns for every slot the
bytes it returned before exactly when, for every slot, the bytes of its record
that lie below its new place already equal the packed records of the slots
before it. -/
theorem compact_keeps_records_iff (ops : List PageOp) :
    ∃ outcomes page page', SlottedPage.new.run ops = some (outcomes, page) ∧
      page.compact = some page' ∧
      ((page'.getSlotCount = page.getSlotCount ∧
          ∀ slot : SlotId, slot.toNat < page.getSlotCount.toNat →
            page'.get slot = page.get slot) ↔
        page.OverlapsAgree) := by
  rcases RecordStore.run_represents RecordStore.new_represents ops with ⟨page, hrun, hpage⟩
  have hpack := hpage.packable
  have hmove := hpack.movable
  have hcount := hmove.slotCount_le
  refine ⟨_, page, page.compacted, hrun, SlottedPage.compact_eq_some hmove, ?_⟩
  rw [← SlottedPage.records_kept_iff hpack]
  have hget : ∀ slot : SlotId, slot.toNat < page.getSlotCount.toNat →
      page.get slot = some (page.record slot.toNat) := fun slot hslot =>
    page.get_eq_window (by omega) (hpack.inside _ hslot).1
  constructor
  · rintro ⟨-, hkept⟩ i hi
    have hslot : (UInt16.ofNat i).toNat = i := toNat_ofNat_u16 (by omega)
    have hsame := hkept (UInt16.ofNat i) (by omega)
    rwa [SlottedPage.get_compacted hmove (by omega), hget _ (by omega), hslot,
      Option.some_inj] at hsame
  · intro hkept
    refine ⟨SlottedPage.getSlotCount_compacted hmove, fun slot hslot => ?_⟩
    rw [SlottedPage.get_compacted hmove hslot, hget slot hslot, hkept _ hslot]

/-- Two records of 3000 and 1000 bytes: moving the first one down overwrites the
second, whose slot then reads bytes of the first. -/
theorem compact_overwrites_record :
    ∃ outcomes page page', SlottedPage.new.run
        [.insert (List.replicate 3000 1), .insert (List.replicate 1000 2)] =
          some (outcomes, page) ∧
      page.compact = some page' ∧ (1 : SlotId).toNat < page.getSlotCount.toNat ∧
      page'.get 1 ≠ page.get 1 := by
  have hrun : (do
      let run ← SlottedPage.new.run
        [.insert (List.replicate 3000 1), .insert (List.replicate 1000 2)]
      let page' ← run.2.compact
      pure (decide ((1 : SlotId).toNat < run.2.getSlotCount.toNat ∧
        page'.get 1 ≠ run.2.get 1))) = some true := by
    decide +kernel
  simp only [Option.bind_eq_bind, Option.bind_eq_some_iff, Option.pure_def, Option.some_inj,
    decide_eq_true_eq] at hrun
  rcases hrun with ⟨⟨outcomes, page⟩, hpage, page', hcompact, hlost⟩
  exact ⟨outcomes, page, page', hpage, hcompact, hlost⟩

/-! ## What compaction does to the free region -/

namespace SlottedPage

/-- A compaction keeps the directory where it is. -/
theorem directoryEnd_compacted {page : SlottedPage} (h : page.Movable) :
    page.compacted.directoryEnd = page.directoryEnd := by
  simp only [directoryEnd, getSlotCount_compacted h]

/-- The free end of a compacted page is behind the records it packed. -/
theorem freeEnd_compacted_eq_sum {page : SlottedPage} (h : page.Movable) :
    page.compacted.freeEnd.toNat = page.directoryEnd +
      ((List.range page.compacted.getSlotCount.toNat).map page.compacted.slotLength).sum := by
  have hlengths : (List.range page.getSlotCount.toNat).map page.compacted.slotLength =
      (List.range page.getSlotCount.toNat).map page.slotLength := by
    apply List.map_congr_left
    intro i hi
    exact slotLength_compacted h (List.mem_range.mp hi)
  rw [freeEnd_compacted h, getSlotCount_compacted h, compactTarget, hlengths]

/-- The directory of a compacted page ends below its free end. -/
theorem bounded_compacted {page : SlottedPage} (h : page.Movable) : page.compacted.Bounded where
  directory_le := by
    rw [directoryEnd_compacted h, freeEnd_compacted h]
    exact page.directoryEnd_le_compactTarget _
  freeEnd_le := by
    rw [freeEnd_compacted h]
    exact h.target_le

/-- The region up to the free end of a compacted page is where its records are:
it meets the extent of every slot that is not empty. -/
theorem not_disjoint_extent_compacted {page : SlottedPage} (h : page.Movable) {i : Nat}
    (hi : i < page.getSlotCount.toNat) (hlength : page.slotLength i ≠ 0) :
    ¬ Disjoint {a | page.compacted.directoryEnd ≤ a ∧ a < page.compacted.freeEnd.toNat}
      (page.compacted.extent i) := by
  have hlow := page.directoryEnd_le_compactTarget i
  have hmono := page.compactTarget_mono (show i + 1 ≤ page.getSlotCount.toNat from hi)
  rw [compactTarget_succ] at hmono
  rw [Set.not_disjoint_iff]
  refine ⟨page.compactTarget i, ⟨?_, ?_⟩, ?_, ?_⟩
  · rwa [directoryEnd_compacted h]
  · rw [freeEnd_compacted h]
    omega
  · rw [slotOffset_compacted h hi, if_neg hlength]
  · rw [slotOffset_compacted h hi, if_neg hlength, slotLength_compacted h hi]
    omega

/-- A full directory leaves no room for records. -/
theorem slotLength_eq_zero {page : SlottedPage} (h : page.Movable)
    (hfull : page.getSlotCount.toNat = 1023) {i : Nat} (hi : i < page.getSlotCount.toNat) :
    page.slotLength i = 0 := by
  have htarget := (page.compactTarget_mono (show i + 1 ≤ page.getSlotCount.toNat from hi)).trans
    h.target_le
  have hlow := page.directoryEnd_le_compactTarget i
  rw [compactTarget_succ] at htarget
  simp only [directoryEnd, hfull] at hlow
  omega

end SlottedPage

/-- After compaction of a page reached by inserts and deletes, the region up to
the free end is disjoint from every live record, the free space is what the live
records leave, and the next insert changes no live record, exactly when the
directory has all the 1023 slots that fit on a page. -/
theorem compact_frees_space_iff (ops : List PageOp) :
    ∃ outcomes page page', SlottedPage.new.run ops = some (outcomes, page) ∧
      page.compact = some page' ∧
      (((∀ i < page'.getSlotCount.toNat, page'.slotLength i ≠ 0 →
            Disjoint {a | page'.directoryEnd ≤ a ∧ a < page'.freeEnd.toNat} (page'.extent i)) ∧
          (∃ free, page'.freeSpace = some free ∧
            free.toNat + 4 * page'.getSlotCount.toNat +
              ((List.range page'.getSlotCount.toNat).map page'.slotLength).sum = 4092) ∧
          (∀ record slot next, page'.insert record = some (.ok slot, next) →
            ∀ other : SlotId, other.toNat < page'.getSlotCount.toNat →
              page'.slotLength other.toNat ≠ 0 → next.get other = page'.get other)) ↔
        page.getSlotCount.toNat = 1023) := by
  rcases RecordStore.run_represents RecordStore.new_represents ops with ⟨page, hrun, hpage⟩
  have hpack := hpage.packable.movable
  have hbounded := SlottedPage.bounded_compacted hpack
  have hdirectory := SlottedPage.directoryEnd_compacted hpack
  have hsum := SlottedPage.freeEnd_compacted_eq_sum hpack
  have hcount := congrArg UInt16.toNat (SlottedPage.getSlotCount_compacted hpack)
  refine ⟨_, page, page.compacted, hrun, SlottedPage.compact_eq_some hpack, ?_⟩
  constructor
  · rintro ⟨hdisjoint, ⟨free, hfree, hspace⟩, -⟩
    have hlength : ∀ i < page.getSlotCount.toNat, page.slotLength i = 0 := by
      intro i hi
      by_contra hne
      exact SlottedPage.not_disjoint_extent_compacted hpack hi hne
        (hdisjoint i (by omega) (by rwa [SlottedPage.slotLength_compacted hpack hi]))
    have hzero : ((List.range page.compacted.getSlotCount.toNat).map
        page.compacted.slotLength).sum = 0 := by
      apply List.sum_eq_zero
      intro length hmem
      rcases List.mem_map.mp hmem with ⟨i, hi, rfl⟩
      have hi := List.mem_range.mp hi
      rw [SlottedPage.slotLength_compacted hpack (by omega), hlength i (by omega)]
    have hnat := SlottedPage.freeSpace_toNat hbounded hfree
    omega
  · intro hfull
    have hlength : ∀ i < page.compacted.getSlotCount.toNat, page.compacted.slotLength i = 0 := by
      intro i hi
      rw [SlottedPage.slotLength_compacted hpack (by omega)]
      exact SlottedPage.slotLength_eq_zero hpack hfull (by omega)
    have hdirectoryEnd : page.directoryEnd = 4 + 4 * page.getSlotCount.toNat := rfl
    have hle := hbounded.freeEnd_le
    refine ⟨fun i hi hne => absurd (hlength i hi) hne, ?_, ?_⟩
    · have hfree := SlottedPage.freeSpace_eq_some hbounded
      have hnat := SlottedPage.freeSpace_toNat hbounded hfree
      exact ⟨_, hfree, by omega⟩
    · intro record slot next hinsert
      rw [SlottedPage.insert_of_not_fits hbounded record (by omega)] at hinsert
      cases hinsert

/-- One record of 100 bytes: after compaction the free region is the record's own
place, only 100 of 3988 bytes are free, and inserting a record of 96 bytes
destroys the first one. -/
theorem compact_loses_free_space :
    ∃ outcomes page page', SlottedPage.new.run [.insert (List.replicate 100 1)] =
        some (outcomes, page) ∧
      page.compact = some page' ∧ page'.getSlotCount = 1 ∧ page'.slotLength 0 = 100 ∧
      ¬ Disjoint {a | page'.directoryEnd ≤ a ∧ a < page'.freeEnd.toNat} (page'.extent 0) ∧
      page'.freeSpace = some 100 ∧
      ∃ next, page'.insert (List.replicate 96 2) = some (.ok 1, next) ∧
        next.get 0 ≠ page'.get 0 := by
  have hrun : (do
      let run ← SlottedPage.new.run [.insert (List.replicate 100 1)]
      let page' ← run.2.compact
      let inserted ← page'.insert (List.replicate 96 2)
      pure (decide (page'.getSlotCount = 1 ∧ page'.slotLength 0 = 100 ∧
        page'.directoryEnd = page'.slotOffset 0 ∧ page'.slotOffset 0 < page'.freeEnd.toNat ∧
        page'.freeSpace = some 100 ∧ inserted.1.toOption = some 1 ∧
        inserted.2.get 0 ≠ page'.get 0))) = some true := by
    decide +kernel
  simp only [Option.bind_eq_bind, Option.bind_eq_some_iff, Option.pure_def, Option.some_inj,
    decide_eq_true_eq] at hrun
  rcases hrun with ⟨⟨outcomes, page⟩, hpage, page', hcompact, ⟨result, next⟩, hinsert,
    hcount, hlength, hdirectory, hend, hspace, hresult, hlost⟩
  have hmeet : ¬ Disjoint {a | page'.directoryEnd ≤ a ∧ a < page'.freeEnd.toNat}
      (page'.extent 0) := by
    rw [Set.not_disjoint_iff]
    exact ⟨page'.slotOffset 0, ⟨hdirectory.le, hend⟩, le_rfl, by omega⟩
  refine ⟨outcomes, page, page', hpage, hcompact, hcount, hlength, hmeet, hspace, next, ?_, hlost⟩
  cases result with
  | error error => simp [Except.toOption] at hresult
  | ok slot =>
      have hslot : slot = 1 := by simpa [Except.toOption] using hresult
      rw [hinsert, hslot]

end Storage
end TaskPool
