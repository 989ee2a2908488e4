import Mathlib.Algebra.Order.BigOperators.Group.List
import TaskPool.Storage.Page.FuzzTarget

/-!
# The input of the fuzz target

The fuzz target reads its operations from a string of bytes: one byte for the kind of the
operation, one for the length of a record or for a slot, and the bytes of the record.
It checks the page after every operation.

Main results:

- Definition `SlottedPage.executed`: the operations that an input makes the target perform.
- Theorem `fuzzTarget_coverage`: which operations some input performs, and when an input
  makes the target panic.
- Theorem `fuzzTarget_shortest_panic`: the shortest input that makes it panic has 2459
  bytes.
-/

namespace TaskPool
namespace Storage

open Library

/-- `MAX_RECORD_SIZE`. -/
abbrev maxRecordSize : Nat := 128

/-- What an iteration of the loop reads at the cursor: it leaves the loop, performs
nothing, or performs an operation; and where the next iteration starts. -/
inductive FuzzStep where
  | leave
  | skip (cursor : Nat)
  | perform (op : FuzzOp) (cursor : Nat)

/-- Read an operation at the cursor, for a page with `slotCount` slots. -/
def readOp (data : List UInt8) (slotCount : UInt16) (cursor : Nat)
    (h : cursor < data.length) : FuzzStep :=
  let op := data[cursor] % 3
  if op = 0 then
    if hcursor : cursor + 1 < data.length then
      let length := data[cursor + 1].toNat % maxRecordSize + 1
      let stop := min (cursor + 2 + length) data.length
      if stop ≤ cursor + 2 then
        .leave
      else
        .perform (.insert ((data.drop (cursor + 2)).take (stop - (cursor + 2)))) stop
    else
      .leave
  else if op = 1 then
    if slotCount = 0 then
      .skip (cursor + 2)
    else
      have hindex := Nat.mod_lt (cursor + 1) (Nat.zero_lt_of_lt h)
      .perform (.delete (data[(cursor + 1) % data.length].toUInt16 % slotCount)) (cursor + 2)
  else
    .perform .compact (cursor + 1)

/-- `check_invariants`: `none` where an assertion fails or a slot cannot be read. -/
def SlottedPage.checkInvariants (page : SlottedPage) : Option Unit := do
  let slotCount := page.getSlotCount.toNat
  let freeEnd := page.freeEnd.toNat
  let freeSpace ← page.freeSpace
  let slotDirectoryEnd := headerSize + slotCount * slotSize
  guard (slotDirectoryEnd ≤ pageSize)
  guard (freeEnd ≤ pageSize)
  guard (slotDirectoryEnd ≤ freeEnd)
  guard (freeSpace.toNat = freeEnd - slotDirectoryEnd)
  (List.range slotCount).forM fun slot => do
    let _ ← page.get (UInt16.ofNat slot)

/-! ## Reading -/

/-- The operations an iteration may perform on a page: records of 1 to 128 bytes, and
slots that exist and fit a byte. -/
def SlottedPage.Allows (page : SlottedPage) : FuzzOp → Prop
  | .insert record => 0 < record.length ∧ record.length ≤ maxRecordSize
  | .delete slot => slot.toNat < page.getSlotCount.toNat ∧ slot.toNat < 256
  | .compact => True

/-- The bytes an operation takes in an input. -/
def FuzzOp.cost : FuzzOp → Nat
  | .insert record => 2 + record.length
  | .delete _ => 2
  | .compact => 1

/-- An iteration that performs nothing skips two bytes. -/
theorem readOp_skip {data : List UInt8} {slotCount : UInt16} {cursor next : Nat}
    {h : cursor < data.length} (hread : readOp data slotCount cursor h = .skip next) :
    next = cursor + 2 := by
  simp only [readOp] at hread
  split_ifs at hread
  cases hread
  rfl

/-- An iteration reads an operation the page allows, and goes on behind its bytes. -/
theorem readOp_perform {data : List UInt8} {page : SlottedPage} {cursor next : Nat}
    {h : cursor < data.length} {op : FuzzOp}
    (hread : readOp data page.getSlotCount cursor h = .perform op next) :
    page.Allows op ∧ next = cursor + op.cost := by
  simp only [readOp] at hread
  split_ifs at hread with hinsert hlength hempty hdelete hcount
  · cases hread
    have hmod := Nat.mod_lt data[cursor + 1].toNat (show 0 < maxRecordSize by decide)
    simp only [SlottedPage.Allows, FuzzOp.cost, List.length_take, List.length_drop]
    omega
  · cases hread
    have hindex := Nat.mod_lt (cursor + 1) (Nat.zero_lt_of_lt h)
    have hbyte := data[(cursor + 1) % data.length].toNat_lt
    have hpos : 0 < page.getSlotCount.toNat :=
      Nat.pos_of_ne_zero fun hzero => hcount (UInt16.toNat.inj hzero)
    refine ⟨⟨?_, ?_⟩, rfl⟩
    · rw [UInt16.toNat_mod]
      exact Nat.mod_lt _ hpos
    · rw [UInt16.toNat_mod, UInt8.toNat_toUInt16]
      exact (Nat.mod_le _ _).trans_lt hbyte
  · cases hread
    exact ⟨trivial, rfl⟩

/-- Every operation uses up bytes of the input. -/
theorem FuzzOp.cost_pos (op : FuzzOp) : 0 < op.cost := by
  cases op <;> simp only [FuzzOp.cost] <;> omega

/-! ## The loop -/

namespace SlottedPage

/-- The loop, from the cursor on. -/
def fuzzLoop (data : List UInt8) (cursor : Nat) (page : SlottedPage) : Option SlottedPage :=
  if h : cursor < data.length then
    match _hread : readOp data page.getSlotCount cursor h with
    | .leave => some page
    | .skip next => do
      page.checkInvariants
      fuzzLoop data next page
    | .perform op next => do
      let page ← page.perform op
      page.checkInvariants
      fuzzLoop data next page
  else
    some page
termination_by data.length - cursor
decreasing_by
  · have hnext := readOp_skip _hread
    omega
  · have hnext := (readOp_perform _hread).2
    have hcost := op.cost_pos
    omega

/-- The operations the loop performs from the cursor on; the last one may panic. -/
def executed (data : List UInt8) (cursor : Nat) (page : SlottedPage) : List FuzzOp :=
  if h : cursor < data.length then
    match _hread : readOp data page.getSlotCount cursor h with
    | .leave => []
    | .skip next => executed data next page
    | .perform op next =>
      match page.perform op with
      | none => [op]
      | some page => op :: executed data next page
  else
    []
termination_by data.length - cursor
decreasing_by
  · have hnext := readOp_skip _hread
    omega
  · have hnext := (readOp_perform _hread).2
    have hcost := op.cost_pos
    omega

end SlottedPage

/-- The fuzz target: it starts from an empty page; `none` where it panics. -/
def fuzzTarget (data : List UInt8) : Option SlottedPage :=
  if data = [] then some SlottedPage.new else SlottedPage.fuzzLoop data 0 SlottedPage.new

namespace SlottedPage

/-! ## One iteration -/

section

variable {data : List UInt8} {cursor next : Nat} {page : SlottedPage} {op : FuzzOp}
  {h : cursor < data.length}

/-- Behind the input the loop ends. -/
theorem fuzzLoop_end (h : ¬ cursor < data.length) : fuzzLoop data cursor page = some page := by
  rw [fuzzLoop, dif_neg h]

/-- The loop ends where it cannot read an operation. -/
theorem fuzzLoop_leave (hread : readOp data page.getSlotCount cursor h = .leave) :
    fuzzLoop data cursor page = some page := by
  rw [fuzzLoop, dif_pos h]
  split <;> simp_all

/-- An iteration that performs nothing is followed by the check of the invariants. -/
theorem fuzzLoop_skip (hread : readOp data page.getSlotCount cursor h = .skip next) :
    fuzzLoop data cursor page = (do
      page.checkInvariants
      fuzzLoop data next page) := by
  rw [fuzzLoop, dif_pos h]
  split <;> simp_all

/-- An operation that is performed is followed by the check of the invariants as well. -/
theorem fuzzLoop_perform (hread : readOp data page.getSlotCount cursor h = .perform op next) :
    fuzzLoop data cursor page = (do
      let page ← page.perform op
      page.checkInvariants
      fuzzLoop data next page) := by
  rw [fuzzLoop, dif_pos h]
  split <;> simp_all

/-- A performed operation is the next one of the list, and the last one if it panics. -/
theorem executed_perform (hread : readOp data page.getSlotCount cursor h = .perform op next) :
    executed data cursor page =
      match page.perform op with
      | none => [op]
      | some page => op :: executed data next page := by
  rw [executed, dif_pos h]
  split <;> simp_all

end

/-! ## The checks -/

/-- A loop of calls succeeds exactly when each of them does. -/
theorem forM_eq_some_iff {α : Type} {f : α → Option Unit} {l : List α} :
    forM l f = some () ↔ ∀ a ∈ l, f a = some () := by
  induction l with
  | nil => simp
  | cons a l ih =>
      rw [List.forM_cons, List.forall_mem_cons, ← ih]
      exact Option.bind_eq_some_iff.trans ⟨fun ⟨_, ha, hl⟩ => ⟨ha, hl⟩, fun h => ⟨(), h⟩⟩

/-- A slot that can be read ends inside the page. -/
theorem extent_le_of_get {page : SlottedPage} {slot : SlotId} {record : List UInt8}
    (hslot : 8 + 4 * slot.toNat ≤ 4096) (hget : page.get slot = some record) :
    page.slotOffset slot.toNat + page.slotLength slot.toNat ≤ 4096 := by
  rw [SlottedPage.get, readSlot_eq_some page hslot] at hget
  simp only [Option.bind_eq_bind, Option.bind_some] at hget
  obtain ⟨tupleEnd, hend, hslice⟩ := Option.bind_eq_some_iff.mp hget
  rw [checkedAdd] at hend
  split_ifs at hend with hsum
  rw [Option.some_inj] at hend
  rw [Buffer.slice] at hslice
  split_ifs at hslice with hrange
  have hle := hrange.2
  rwa [← hend, UInt16.toNat_add, Nat.mod_eq_of_lt hsum] at hle

/-- The checks of the target are those of `PassesChecks`. -/
theorem checkInvariants_eq_some_iff (page : SlottedPage) :
    page.checkInvariants = some () ↔ page.PassesChecks := by
  constructor
  · intro hchecks
    obtain ⟨freeSpace, hfree, hchecks⟩ := Option.bind_eq_some_iff.mp hchecks
    obtain ⟨_, hdirectory, hchecks⟩ := Option.bind_eq_some_iff.mp hchecks
    obtain ⟨_, hend, hchecks⟩ := Option.bind_eq_some_iff.mp hchecks
    obtain ⟨_, hbelow, hchecks⟩ := Option.bind_eq_some_iff.mp hchecks
    obtain ⟨_, -, hslots⟩ := Option.bind_eq_some_iff.mp hchecks
    rw [Option.guard_eq_some'] at hdirectory hend hbelow
    simp only [headerSize, slotSize, pageSize] at hdirectory hend hbelow
    have hbounded : page.Bounded := ⟨by rw [directoryEnd]; omega, hend⟩
    refine ⟨by omega, hend, freeSpace_eq_some hbounded, fun slot hslot => ?_⟩
    have hread := forM_eq_some_iff.mp hslots slot.toNat (List.mem_range.mpr hslot)
    obtain ⟨record, hget, -⟩ := Option.bind_eq_some_iff.mp hread
    rw [UInt16.ofNat_toNat] at hget
    have hinside := extent_le_of_get (by omega) hget
    exact ⟨hinside, page.get_eq_window (by omega) hinside⟩
  · intro h
    have hdirectory := h.directory_le
    have hend := h.freeEnd_le
    refine Option.bind_eq_some_iff.mpr ⟨_, h.freeSpace_eq, ?_⟩
    refine Option.bind_eq_some_iff.mpr ⟨(), (Option.guard_eq_some' _).mpr ?_, ?_⟩
    · simp only [headerSize, slotSize, pageSize]
      omega
    refine Option.bind_eq_some_iff.mpr ⟨(), (Option.guard_eq_some' _).mpr hend, ?_⟩
    refine Option.bind_eq_some_iff.mpr ⟨(), (Option.guard_eq_some' _).mpr ?_, ?_⟩
    · simp only [headerSize, slotSize]
      omega
    refine Option.bind_eq_some_iff.mpr ⟨(), (Option.guard_eq_some' _).mpr ?_, ?_⟩
    · rw [toNat_ofNat_u16 (by omega)]
      simp only [headerSize, slotSize]
      omega
    refine forM_eq_some_iff.mpr fun slot hslot => ?_
    have hcount := List.mem_range.mp hslot
    have hlt : (UInt16.ofNat slot).toNat = slot := toNat_ofNat_u16 (by omega)
    rw [(h.get_eq (UInt16.ofNat slot) (by rwa [hlt])).2]
    rfl

/-! ## What the loop performs -/

/-- The target performs the operations it reads and passes the checks after each. -/
theorem fuzzLoop_isSome_iff {data : List UInt8} {cursor : Nat} {page : SlottedPage}
    (hpage : page.Inside) :
    (fuzzLoop data cursor page).isSome ↔ page.RunsInBounds (executed data cursor page) := by
  fun_induction executed data cursor page with
  | case1 cursor page h hread =>
      rw [fuzzLoop_leave hread]
      simp [RunsInBounds]
  | case2 cursor page h next hread ih =>
      rw [fuzzLoop_skip hread, (checkInvariants_eq_some_iff page).mpr hpage.passesChecks]
      exact ih hpage
  | case3 cursor page h op next hread hperform =>
      rw [fuzzLoop_perform hread, hperform]
      simp [RunsInBounds, hperform]
  | case4 cursor page h op next hread after hperform ih =>
      have hafter := hpage.of_perform hperform
      rw [fuzzLoop_perform hread, hperform]
      have hchecks := (checkInvariants_eq_some_iff after).mpr hafter.passesChecks
      simp only [Option.bind_eq_bind, Option.bind_some, hchecks, RunsInBounds, hperform,
        Option.some_inj, exists_eq_left', hafter.passesChecks, true_and]
      exact ih hafter
  | case5 cursor page h =>
      rw [fuzzLoop_end h]
      simp [RunsInBounds]

/-- The runs of operations that the pages allow.  Only the last operation may panic. -/
def Fuzzable : SlottedPage → List FuzzOp → Prop
  | _, [] => True
  | page, op :: ops =>
    page.Allows op ∧ (page.perform op = none → ops = []) ∧
      ∀ next, page.perform op = some next → Fuzzable next ops

/-- An operation that the page allows may stand before a run on the page behind it. -/
theorem Fuzzable.cons {page next : SlottedPage} {op : FuzzOp} {ops : List FuzzOp}
    (hallows : page.Allows op) (hperform : page.perform op = some next)
    (hops : next.Fuzzable ops) : page.Fuzzable (op :: ops) := by
  refine ⟨hallows, fun hnone => ?_, fun other hother => ?_⟩
  · rw [hperform] at hnone
    cases hnone
  · rw [hperform, Option.some_inj] at hother
    exact hother ▸ hops

/-- What the loop performs is allowed by the pages. -/
theorem executed_fuzzable (data : List UInt8) (cursor : Nat) (page : SlottedPage) :
    page.Fuzzable (executed data cursor page) := by
  fun_induction executed data cursor page with
  | case1 => trivial
  | case2 _ _ _ _ _ ih => exact ih
  | case3 cursor page h op next hread hperform =>
      refine ⟨(readOp_perform hread).1, fun _ => rfl, fun after hafter => ?_⟩
      rw [hperform] at hafter
      cases hafter
  | case4 cursor page h op next hread after hperform ih =>
      exact .cons (readOp_perform hread).1 hperform ih
  | case5 => trivial

end SlottedPage

/-! ## Inputs for given operations -/

/-- Bytes that make an iteration perform the operation. -/
def FuzzOp.encode : FuzzOp → List UInt8
  | .insert record => 0 :: UInt8.ofNat (record.length - 1) :: record
  | .delete slot => [1, slot.toUInt8]
  | .compact => [2]

/-- The encoding of an operation has as many bytes as the operation costs. -/
theorem FuzzOp.length_encode (op : FuzzOp) : op.encode.length = op.cost := by
  cases op with
  | insert record =>
      simp only [encode, cost, List.length_cons]
      omega
  | delete slot => rfl
  | compact => rfl

/-- The byte at the cursor and the bytes behind it. -/
theorem getElem_of_drop {data rest : List UInt8} {cursor : Nat} {byte : UInt8}
    (hdata : data.drop cursor = byte :: rest) :
    ∃ h : cursor < data.length, data[cursor] = byte ∧ data.drop (cursor + 1) = rest := by
  have h : cursor < data.length := by
    have hlength := congrArg List.length hdata
    rw [List.length_drop, List.length_cons] at hlength
    omega
  rw [List.drop_eq_getElem_cons h, List.cons.injEq] at hdata
  exact ⟨h, hdata⟩

/-- An iteration performs the operation whose bytes it finds. -/
theorem readOp_encode {data rest : List UInt8} {page : SlottedPage} {cursor : Nat}
    {op : FuzzOp} (hallows : page.Allows op)
    (hdata : data.drop cursor = op.encode ++ rest) :
    ∃ h : cursor < data.length,
      readOp data page.getSlotCount cursor h = .perform op (cursor + op.cost) := by
  cases op with
  | insert record =>
      obtain ⟨h, hkind, hdata⟩ := getElem_of_drop hdata
      obtain ⟨hsecond, hlength, hdata⟩ := getElem_of_drop hdata
      have hdata : data.drop (cursor + 2) = record ++ rest := hdata
      have hpos : 0 < record.length ∧ record.length ≤ 128 := hallows
      have hend := congrArg List.length hdata
      rw [List.length_drop, List.length_append] at hend
      have hvalue : (UInt8.ofNat (record.length - 1)).toNat % 128 + 1 = record.length := by
        rw [UInt8.toNat_ofNat', Nat.mod_eq_of_lt (show record.length - 1 < 2 ^ 8 by omega),
          Nat.mod_eq_of_lt (show record.length - 1 < 128 by omega)]
        omega
      have hstop : min (cursor + 2 + record.length) data.length = cursor + 2 + record.length := by
        omega
      have hrecord : (record ++ rest).take (cursor + 2 + record.length - (cursor + 2)) = record := by
        rw [Nat.add_sub_cancel_left, List.take_left]
      refine ⟨h, ?_⟩
      simp only [readOp, hkind, hlength, maxRecordSize, hvalue, hstop, hdata, hrecord,
        dif_pos hsecond, if_neg (show ¬ cursor + 2 + record.length ≤ cursor + 2 by omega)]
      rw [FuzzOp.cost, Nat.add_assoc]
      rfl
  | delete slot =>
      obtain ⟨h, hkind, hdata⟩ := getElem_of_drop hdata
      obtain ⟨hsecond, hbyte, -⟩ := getElem_of_drop hdata
      have hslot : slot.toNat < page.getSlotCount.toNat ∧ slot.toNat < 256 := hallows
      have hcount : page.getSlotCount ≠ 0 := by
        intro hzero
        rw [hzero] at hslot
        exact Nat.not_lt_zero _ hslot.1
      have hvalue : slot.toUInt8.toUInt16 % page.getSlotCount = slot := by
        apply UInt16.toNat.inj
        rw [UInt16.toNat_mod, UInt8.toNat_toUInt16, UInt16.toNat_toUInt8,
          Nat.mod_eq_of_lt (show slot.toNat < 2 ^ 8 from hslot.2), Nat.mod_eq_of_lt hslot.1]
      refine ⟨h, ?_⟩
      simp only [readOp, hkind, Nat.mod_eq_of_lt hsecond, hbyte, hvalue, if_neg hcount]
      rfl
  | compact =>
      obtain ⟨h, hkind, -⟩ := getElem_of_drop hdata
      refine ⟨h, ?_⟩
      simp only [readOp, hkind]
      rfl

/-- The loop performs the operations whose bytes it finds. -/
theorem SlottedPage.executed_encode {data : List UInt8} {cursor : Nat} {page : SlottedPage}
    {ops : List FuzzOp} (hops : page.Fuzzable ops)
    (hdata : data.drop cursor = ops.flatMap FuzzOp.encode) :
    executed data cursor page = ops := by
  induction ops generalizing cursor page with
  | nil =>
      have hend : ¬ cursor < data.length := by
        have hlength := congrArg List.length hdata
        rw [List.length_drop, List.flatMap_nil, List.length_nil] at hlength
        omega
      rw [executed, dif_neg hend]
  | cons op ops ih =>
      obtain ⟨hallows, hlast, hrest⟩ := hops
      rw [List.flatMap_cons] at hdata
      obtain ⟨h, hread⟩ := readOp_encode hallows hdata
      rw [executed_perform hread]
      cases hperform : page.perform op with
      | none => rw [hlast hperform]
      | some next =>
          have hdrop : data.drop (cursor + op.cost) = ops.flatMap FuzzOp.encode := by
            rw [← List.drop_drop, hdata, List.drop_left' op.length_encode]
          exact congrArg (op :: ·) (ih (hrest next hperform) hdrop)

/-! ## What the bytes of an input pay for -/

namespace SlottedPage

/-- The bytes of the records of a page. -/
def stored (page : SlottedPage) : Nat :=
  ((List.range page.getSlotCount.toNat).map page.slotLength).sum

/-- An insert adds the bytes of its record. -/
theorem Appended.stored_eq {page next : SlottedPage} {record : List UInt8}
    (h : Appended page record next) : next.stored = page.stored + record.length := by
  have hlengths : (List.range page.getSlotCount.toNat).map next.slotLength =
      (List.range page.getSlotCount.toNat).map page.slotLength :=
    List.map_congr_left fun i hi => (h.slot_eq i (List.mem_range.mp hi)).2
  rw [stored, h.getSlotCount_eq, List.range_succ, List.map_append, List.sum_append, hlengths,
    List.map_singleton, List.sum_singleton, h.length_eq, stored]

/-- A delete adds no bytes. -/
theorem SlotWritten.stored_le {page next : SlottedPage} {i offset : Nat}
    (h : SlotWritten page i offset 0 next) : next.stored ≤ page.stored := by
  rw [stored, stored, h.getSlotCount_eq]
  refine List.sum_le_sum fun j _ => ?_
  by_cases hself : j = i
  · subst hself
    rw [h.length_eq]
    exact Nat.zero_le _
  · exact (h.slot_eq hself).2.le

/-- A compaction keeps the number of stored bytes. -/
theorem stored_compacted {page : SlottedPage} (h : page.Movable) :
    page.compacted.stored = page.stored := by
  rw [stored, stored, getSlotCount_compacted h]
  exact congrArg List.sum (List.map_congr_left fun i hi =>
    slotLength_compacted h (List.mem_range.mp hi))

/-- The bytes read so far pay two bytes for every slot and one for every byte of a record;
and until they pay for a compaction, the records end behind the free end. -/
structure Paid (cursor : Nat) (page : SlottedPage) : Prop where
  inside : page.Inside
  paid : ∃ total, page.stored ≤ total ∧ page.getSlotCount.toNat ≤ total ∧
    2 * page.getSlotCount.toNat + total ≤ cursor ∧
    (page.stored + page.freeEnd.toNat ≤ 4096 ∨
      2 * page.getSlotCount.toNat + total + 1 ≤ cursor)

/-- An empty page costs nothing. -/
theorem new_paid : Paid 0 new where
  inside := new_inside
  paid := ⟨0, by simp [stored]⟩

/-- More input pays for the same page. -/
theorem Paid.mono {cursor next : Nat} {page : SlottedPage} (h : Paid cursor page)
    (hle : cursor ≤ next) : Paid next page where
  inside := h.inside
  paid := by
    obtain ⟨total, hstored, hcount, htotal, hcompacted⟩ := h.paid
    exact ⟨total, hstored, hcount, by omega, by omega⟩

/-- An operation the page allows is paid by its bytes. -/
theorem Paid.perform {cursor : Nat} {page next : SlottedPage} {op : FuzzOp}
    (h : Paid cursor page) (hallows : page.Allows op) (hperform : page.perform op = some next) :
    Paid (cursor + op.cost) next := by
  refine ⟨h.inside.of_perform hperform, ?_⟩
  obtain ⟨total, hstored, hcount, htotal, hcompacted⟩ := h.paid
  cases op with
  | insert record =>
      have hpos : 0 < record.length ∧ record.length ≤ 128 := hallows
      by_cases hfits : record.length + 4 ≤ page.freeEnd.toNat - page.directoryEnd
      · obtain ⟨page', hinsert, happended⟩ := insert_of_fits h.inside.bounded record hfits
        rw [SlottedPage.perform, hinsert] at hperform
        cases hperform
        rw [happended.stored_eq, happended.getSlotCount_eq, happended.freeEnd_eq, FuzzOp.cost]
        exact ⟨total + record.length, by omega, by omega, by omega, by omega⟩
      · rw [SlottedPage.perform, insert_of_not_fits h.inside.bounded record (by omega)] at hperform
        cases hperform
        exact ⟨total, hstored, hcount, by omega, by omega⟩
  | delete slot =>
      have hslot : slot.toNat < page.getSlotCount.toNat ∧ slot.toNat < 256 := hallows
      obtain ⟨page', hdelete, hwritten⟩ := delete_of_lt h.inside.bounded slot hslot.1
      rw [SlottedPage.perform, hdelete] at hperform
      cases hperform
      have hle := hwritten.stored_le
      rw [hwritten.getSlotCount_eq, hwritten.freeEnd_eq]
      exact ⟨total, by omega, hcount, by omega, by omega⟩
  | compact =>
      have hmove : page.Movable :=
        ⟨h.inside.target_le_of_compact hperform, h.inside.extent_le⟩
      rw [SlottedPage.perform, compact_eq_some hmove, Option.some_inj] at hperform
      subst hperform
      rw [stored_compacted hmove, getSlotCount_compacted hmove, FuzzOp.cost]
      exact ⟨total, hstored, hcount, by omega, Or.inr (by omega)⟩

/-- Records that do not fit behind the directory are paid by 2458 bytes. -/
theorem Paid.target_le {cursor : Nat} {page : SlottedPage} (h : Paid cursor page)
    (hcursor : cursor < 2458) : page.compactTarget page.getSlotCount.toNat ≤ 4096 := by
  obtain ⟨total, hstored, hcount, htotal, hcompacted⟩ := h.paid
  have hdirectory := h.inside.bounded.directory_le
  have htarget : page.compactTarget page.getSlotCount.toNat = page.directoryEnd + page.stored :=
    rfl
  have hend : page.directoryEnd = 4 + 4 * page.getSlotCount.toNat := rfl
  omega

/-- An input that ends early enough compacts only records that fit. -/
theorem Paid.compactionsFit {data : List UInt8} {cursor : Nat} {page : SlottedPage}
    (h : Paid cursor page) (hdata : data.length < 2459) :
    page.CompactionsFit (executed data cursor page) := by
  fun_induction executed data cursor page with
  | case1 => trivial
  | case2 cursor page hcursor next hread ih =>
      exact ih (h.mono (by rw [readOp_skip hread]; omega))
  | case3 cursor page hcursor op next hread hperform =>
      refine ⟨fun _ => h.target_le (by omega), fun after hafter => ?_⟩
      rw [hperform] at hafter
      cases hafter
  | case4 cursor page hcursor op next hread after hperform ih =>
      obtain ⟨hallows, rfl⟩ := readOp_perform hread
      refine ⟨fun _ => h.target_le (by omega), fun other hother => ?_⟩
      rw [hperform, Option.some_inj] at hother
      exact hother ▸ ih (h.perform hallows hperform)
  | case5 => trivial

end SlottedPage

/-! ## Results -/

/-- The target runs its loop on an empty page, whose checks pass. -/
theorem fuzzTarget_eq_fuzzLoop (data : List UInt8) :
    fuzzTarget data = SlottedPage.fuzzLoop data 0 SlottedPage.new := by
  rw [fuzzTarget]
  split_ifs with hempty
  · subst hempty
    rw [SlottedPage.fuzzLoop_end (Nat.not_lt_zero 0)]
  · rfl

/-- The target panics exactly when a compaction it performs meets records that do not fit
behind the directory. -/
theorem fuzzTarget_eq_none_iff (data : List UInt8) :
    fuzzTarget data = none ↔
      ¬ SlottedPage.new.CompactionsFit (SlottedPage.executed data 0 SlottedPage.new) := by
  rw [fuzzTarget_eq_fuzzLoop, ← SlottedPage.new_inside.runsInBounds_iff,
    ← SlottedPage.fuzzLoop_isSome_iff SlottedPage.new_inside, Option.not_isSome_iff_eq_none]

/-- Bytes that make the target perform given operations. -/
theorem executed_encode_new {ops : List FuzzOp} (hops : SlottedPage.new.Fuzzable ops) :
    SlottedPage.executed (ops.flatMap FuzzOp.encode) 0 SlottedPage.new = ops :=
  SlottedPage.executed_encode hops List.drop_zero

/-- The operations that some input makes the target perform are the runs of records of 1
to 128 bytes, of slots that exist and fit a byte, and of compactions, that go on only
after an operation that does not panic.  The target panics exactly when a compaction among
them meets records that do not fit behind the directory.  Its own checks never fail: they
pass on the empty page and on the page behind any of the operations. -/
theorem fuzzTarget_coverage :
    (∀ ops : List FuzzOp, SlottedPage.new.Fuzzable ops ↔
      ∃ data, SlottedPage.executed data 0 SlottedPage.new = ops) ∧
    (∀ data : List UInt8, fuzzTarget data = none ↔
      ¬ SlottedPage.new.CompactionsFit (SlottedPage.executed data 0 SlottedPage.new)) ∧
    ∀ (data : List UInt8) (before : List FuzzOp) (page : SlottedPage),
      before <+: SlottedPage.executed data 0 SlottedPage.new →
      before.foldlM SlottedPage.perform SlottedPage.new = some page →
      page.checkInvariants = some () := by
  refine ⟨fun ops => ⟨fun hops => ⟨_, executed_encode_new hops⟩, ?_⟩, fuzzTarget_eq_none_iff, ?_⟩
  · rintro ⟨data, rfl⟩
    exact SlottedPage.executed_fuzzable data 0 SlottedPage.new
  · intro data before page _ hrun
    have hinside := SlottedPage.new_inside.of_foldlM hrun
    exact (SlottedPage.checkInvariants_eq_some_iff page).mpr hinside.passesChecks

/-! ## A shortest input that panics -/

namespace SlottedPage

/-- A page after `k` records of one byte. -/
structure Filled (k : Nat) (page : SlottedPage) : Prop where
  inside : page.Inside
  getSlotCount_eq : page.getSlotCount.toNat = k
  freeEnd_eq : page.freeEnd.toNat = 4096 - k
  stored_eq : page.stored = k

/-- A new page has no records. -/
theorem new_filled : Filled 0 new where
  inside := new_inside
  getSlotCount_eq := by simp
  freeEnd_eq := by simp
  stored_eq := by simp [stored]

/-- A record of one byte may be inserted. -/
theorem allows_byte (page : SlottedPage) (byte : UInt8) : page.Allows (.insert [byte]) :=
  ⟨Nat.one_pos, show 1 ≤ 128 by decide⟩

/-- An accepted record of one byte. -/
theorem Inside.perform_insert {page : SlottedPage} (h : page.Inside) (byte : UInt8)
    (hfits : 5 ≤ page.freeEnd.toNat - page.directoryEnd) :
    ∃ next, page.perform (.insert [byte]) = some next ∧ Appended page [byte] next ∧
      next.Inside := by
  obtain ⟨next, hinsert, happended⟩ := insert_of_fits h.bounded [byte] hfits
  have hperform : page.perform (.insert [byte]) = some next := by
    rw [SlottedPage.perform, hinsert]
    rfl
  exact ⟨next, hperform, happended, h.of_perform hperform⟩

/-- Up to 818 records of one byte fit. -/
theorem Filled.perform_insert {k : Nat} {page : SlottedPage} (h : Filled k page) (hk : k < 818)
    (byte : UInt8) :
    ∃ next, page.perform (.insert [byte]) = some next ∧ Filled (k + 1) next := by
  have hcount := h.getSlotCount_eq
  have hend := h.freeEnd_eq
  obtain ⟨next, hperform, happended, hnext⟩ := h.inside.perform_insert byte (by
    rw [directoryEnd]
    omega)
  refine ⟨next, hperform, hnext, ?_, ?_, ?_⟩
  · rw [happended.getSlotCount_eq, hcount]
  · rw [happended.freeEnd_eq, hend, List.length_singleton]
    omega
  · rw [happended.stored_eq, h.stored_eq, List.length_singleton]

/-- A compaction of the page with 818 records makes room for one more; then the records no
longer fit behind the directory. -/
theorem Filled.compact_insert_compact {page : SlottedPage} (h : Filled 818 page) (byte : UInt8) :
    page.Fuzzable [.compact, .insert [byte], .compact] ∧
      ¬ page.CompactionsFit [.compact, .insert [byte], .compact] := by
  have hcount := h.getSlotCount_eq
  have htarget : page.compactTarget page.getSlotCount.toNat = 4094 := by
    rw [show page.compactTarget page.getSlotCount.toNat = page.directoryEnd + page.stored from rfl,
      h.stored_eq, directoryEnd, hcount]
  have hmove : page.Movable := ⟨by omega, h.inside.extent_le⟩
  have hcompact : page.perform .compact = some page.compacted := compact_eq_some hmove
  have hinside : page.compacted.Inside := h.inside.of_perform hcompact
  obtain ⟨next, hinsert, happended, hnext⟩ := hinside.perform_insert byte (by
    rw [freeEnd_compacted hmove, directoryEnd_compacted hmove, directoryEnd]
    omega)
  have hover : ¬ next.compactTarget next.getSlotCount.toNat ≤ 4096 := by
    rw [show next.compactTarget next.getSlotCount.toNat = next.directoryEnd + next.stored from rfl,
      happended.stored_eq, stored_compacted hmove, h.stored_eq, directoryEnd,
      happended.getSlotCount_eq, getSlotCount_compacted hmove, hcount, List.length_singleton]
    omega
  constructor
  · exact .cons trivial hcompact (.cons (page.compacted.allows_byte byte) hinsert
      ⟨trivial, fun _ => rfl, fun _ _ => trivial⟩)
  · rintro ⟨-, hfit⟩
    exact hover (((hfit _ hcompact).2 _ hinsert).1 rfl)

/-- Records of one byte up to the 818th, and what follows. -/
theorem Filled.fuzzable_not_fit {m k : Nat} {page : SlottedPage} (h : Filled k page)
    (hk : k + m = 818) (byte : UInt8) :
    page.Fuzzable (List.replicate m (.insert [byte]) ++ [.compact, .insert [byte], .compact]) ∧
      ¬ page.CompactionsFit
        (List.replicate m (.insert [byte]) ++ [.compact, .insert [byte], .compact]) := by
  induction m generalizing k page with
  | zero =>
      obtain rfl : k = 818 := hk
      exact h.compact_insert_compact byte
  | succ m ih =>
      obtain ⟨next, hinsert, hnext⟩ := h.perform_insert (by omega) byte
      obtain ⟨hfuzzable, hfit⟩ := ih hnext (by omega)
      rw [List.replicate_succ, List.cons_append]
      exact ⟨.cons (page.allows_byte byte) hinsert hfuzzable,
        fun hall => hfit (hall.2 _ hinsert)⟩

end SlottedPage

/-- No input of fewer than 2459 bytes makes the target panic, and one of 2459 bytes does. -/
theorem fuzzTarget_shortest_panic :
    (∀ data : List UInt8, data.length < 2459 → fuzzTarget data ≠ none) ∧
      ∃ data : List UInt8, data.length = 2459 ∧ fuzzTarget data = none := by
  constructor
  · intro data hdata hpanic
    exact (fuzzTarget_eq_none_iff data).mp hpanic (SlottedPage.new_paid.compactionsFit hdata)
  · obtain ⟨hfuzzable, hfit⟩ :=
      SlottedPage.new_filled.fuzzable_not_fit (Nat.zero_add 818) 0
    refine ⟨_, ?_, (fuzzTarget_eq_none_iff _).mpr (by rwa [executed_encode_new hfuzzable])⟩
    rw [List.flatMap_append, List.length_append, List.length_flatMap, List.map_replicate,
      List.sum_replicate]
    rfl

end Storage
end TaskPool
