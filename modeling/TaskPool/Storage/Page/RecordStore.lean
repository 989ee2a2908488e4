import TaskPool.Storage.Page.Layout
import Mathlib.Data.Set.BooleanAlgebra
import Mathlib.Order.CompletePartialOrder
import Mathlib.Algebra.BigOperators.Group.List.Basic

/-!
# Slotted pages refine a list of optional records

The abstract store is the list of all accepted records, each with a flag that a
delete clears.  It accepts a record when the bytes it has handed out, four per
record for the slot included, leave room for it, and it never reuses the space of
a deleted record.  The representation relation fixes the place of every record:
record `i` ends where record `i - 1` starts, the first one at the end of the page.

Main results:

- Structure `RecordStore.Represents`: the page layout of a store.
- Theorem `RecordStore.apply_represents`: one call returns the same on the page
  and on the store, and the results stay related.
- Theorem `run_refines_recordStore`: so does every sequence of calls from the
  empty page, whose free space, slots and extents are those of the store.
-/

namespace TaskPool
namespace Storage

/-- A record that was accepted, and whether its slot is still live. -/
structure Entry where
  record : List UInt8
  live : Bool

/-- What the slot of an entry holds: its record, or nothing once deleted. -/
def Entry.contents (entry : Entry) : Option (List UInt8) :=
  if entry.live then some entry.record else none

/-- The accepted records in the order of their slots. -/
structure RecordStore where
  entries : List Entry

namespace RecordStore

/-- The store of a new page. -/
def empty : RecordStore where
  entries := []

/-- The list of optional records. -/
def contents (store : RecordStore) : List (Option (List UInt8)) :=
  store.entries.map Entry.contents

/-- Bytes handed out: every accepted record with its slot. -/
def used (store : RecordStore) : Nat :=
  (store.entries.map fun entry => entry.record.length + 4).sum

/-- Accept a record when it fits. -/
def insert (store : RecordStore) (record : List UInt8) :
    Except IoError SlotId × RecordStore :=
  if store.used + (record.length + 4) ≤ 4092 then
    (.ok (UInt16.ofNat store.entries.length), ⟨store.entries ++ [⟨record, true⟩]⟩)
  else (.error ⟨.other, "Out of memory..."⟩, store)

/-- Forget the record of a slot that exists. -/
def delete (store : RecordStore) (slot : SlotId) : Except IoError Unit × RecordStore :=
  if slot.toNat < store.entries.length then
    (.ok (), ⟨store.entries.modify slot.toNat fun entry => { entry with live := false }⟩)
  else (.error ⟨.invalidInput, "Slot doesn't exist..."⟩, store)

/-- The bytes of a slot; a deleted slot is empty. -/
def get (store : RecordStore) (i : Nat) : List UInt8 :=
  ((store.contents[i]?).join).getD []

/-- Execute one call. -/
def apply (store : RecordStore) : PageOp → PageOutcome × RecordStore
  | .insert record => (.inserted (store.insert record).1, (store.insert record).2)
  | .delete slot => (.deleted (store.delete slot).1, (store.delete slot).2)

/-- Execute calls in order, collecting what they return. -/
def run (store : RecordStore) : List PageOp → List PageOutcome × RecordStore
  | [] => ([], store)
  | op :: ops =>
      (((store.apply op).1 :: ((store.apply op).2.run ops).1), ((store.apply op).2.run ops).2)

/-- Total length of the first `i` accepted records. -/
def prefixLength (store : RecordStore) (i : Nat) : Nat :=
  ((store.entries.take i).map fun entry => entry.record.length).sum

/-! ## Prefix lengths -/

/-- One more entry adds the length of its record. -/
theorem prefixLength_succ (store : RecordStore) {i : Nat} {entry : Entry}
    (h : store.entries[i]? = some entry) :
    store.prefixLength (i + 1) = store.prefixLength i + entry.record.length := by
  simp [prefixLength, List.take_add_one, h]

/-- Longer prefixes are not shorter in bytes. -/
theorem prefixLength_mono (store : RecordStore) {i j : Nat} (h : i ≤ j) :
    store.prefixLength i ≤ store.prefixLength j := by
  obtain ⟨k, rfl⟩ := Nat.exists_eq_add_of_le h
  simp [prefixLength, List.take_add]

/-- All slots and all records together are the bytes handed out. -/
theorem used_eq (store : RecordStore) :
    store.used = 4 * store.entries.length + store.prefixLength store.entries.length := by
  simp only [used, prefixLength, List.take_length]
  induction store.entries with
  | nil => rfl
  | cons entry entries ih =>
      simp only [List.map_cons, List.sum_cons, List.length_cons, ih]
      omega

/-- An entry at the end does not change the prefixes before it. -/
theorem prefixLength_append (store : RecordStore) (entry : Entry) {i : Nat}
    (h : i ≤ store.entries.length) :
    RecordStore.prefixLength ⟨store.entries ++ [entry]⟩ i = store.prefixLength i := by
  simp [prefixLength, List.take_append_of_le_length h]

/-- Clearing the flag of an entry changes no record. -/
theorem map_record_modify (entries : List Entry) (slot : Nat) :
    (entries.modify slot fun entry => { entry with live := false }).map Entry.record =
      entries.map Entry.record := by
  apply List.ext_getElem?
  intro j
  simp only [List.getElem?_map, List.getElem?_modify]
  cases entries[j]? with
  | none => rfl
  | some entry => by_cases hj : slot = j <;> simp [hj]

/-- Deleting an entry keeps its bytes, so no prefix changes. -/
theorem prefixLength_modify (store : RecordStore) (slot i : Nat) :
    RecordStore.prefixLength ⟨store.entries.modify slot fun entry => { entry with live := false }⟩
      i = store.prefixLength i := by
  have hlengths : ∀ entries : List Entry, (entries.map fun entry => entry.record.length) =
      (entries.map Entry.record).map List.length := by simp
  simp only [prefixLength, List.map_take, hlengths, map_record_modify]

/-! ## The representation relation -/

/-- The page holds the records of the store, packed downwards from its end. -/
structure Represents (page : SlottedPage) (store : RecordStore) : Prop where
  slotCount_eq : page.getSlotCount.toNat = store.entries.length
  freeEnd_eq : page.freeEnd.toNat + store.prefixLength store.entries.length = 4096
  used_le : store.used ≤ 4092
  live_slot : ∀ i entry, store.entries[i]? = some entry → entry.live = true →
    page.slotOffset i + store.prefixLength (i + 1) = 4096 ∧
      page.slotLength i = entry.record.length ∧ page.record i = entry.record
  dead_slot : ∀ i entry, store.entries[i]? = some entry → entry.live = false →
    page.slotOffset i = 0 ∧ page.slotLength i = 0

namespace Represents

variable {page page' : SlottedPage} {store : RecordStore}

/-- The directory has a slot for every entry. -/
theorem directoryEnd_eq (h : Represents page store) :
    page.directoryEnd = 4 + 4 * store.entries.length := by
  rw [SlottedPage.directoryEnd, h.slotCount_eq]

/-- The directory of a page that represents a store ends below its free end. -/
theorem bounded (h : Represents page store) : page.Bounded := by
  have hused := h.used_le
  have hfree := h.freeEnd_eq
  rw [used_eq] at hused
  constructor
  · rw [h.directoryEnd_eq]
    omega
  · omega

/-- The free space of the page is what the store has not handed out. -/
theorem free_add_used (h : Represents page store) :
    page.freeEnd.toNat - page.directoryEnd + store.used = 4092 := by
  have hle := h.bounded.directory_le
  have hfree := h.freeEnd_eq
  rw [h.directoryEnd_eq] at hle ⊢
  rw [used_eq]
  omega

/-- A slot whose extent is not empty belongs to a live record. -/
theorem entry_of_extent (h : Represents page store) {i a : Nat}
    (hi : i < store.entries.length) (ha : a ∈ page.extent i) :
    ∃ entry, store.entries[i]? = some entry ∧ entry.live = true ∧
      store.prefixLength i + a < 4096 ∧ 4096 ≤ store.prefixLength (i + 1) + a := by
  obtain ⟨hlow, hhigh⟩ := ha
  have hentry := List.getElem?_eq_getElem hi
  cases hlive : (store.entries[i]).live with
  | false =>
      have hdead := h.dead_slot i _ hentry hlive
      omega
  | true =>
      obtain ⟨hoffset, hlength, -⟩ := h.live_slot i _ hentry hlive
      have hprefix := store.prefixLength_succ hentry
      exact ⟨_, hentry, hlive, by omega, by omega⟩

/-- Every extent lies inside the page and at or above the free end. -/
theorem extent_inside (h : Represents page store) {i a : Nat}
    (hi : i < store.entries.length) (ha : a ∈ page.extent i) :
    page.freeEnd.toNat ≤ a ∧ a < 4096 := by
  obtain ⟨entry, -, -, hlow, hhigh⟩ := h.entry_of_extent hi ha
  have hfree := h.freeEnd_eq
  have hmono := store.prefixLength_mono (show i + 1 ≤ store.entries.length from hi)
  omega

/-- Extents of different slots are disjoint. -/
theorem extent_disjoint (h : Represents page store) {i j : Nat}
    (hi : i < store.entries.length) (hj : j < store.entries.length) (hij : i ≠ j) :
    Disjoint (page.extent i) (page.extent j) := by
  rw [Set.disjoint_left]
  intro a hai haj
  obtain ⟨-, -, -, hlow, hhigh⟩ := h.entry_of_extent hi hai
  obtain ⟨-, -, -, hlow', hhigh'⟩ := h.entry_of_extent hj haj
  rcases Nat.lt_or_gt_of_ne hij with hlt | hgt
  · have hmono := store.prefixLength_mono (show i + 1 ≤ j from hlt)
    omega
  · have hmono := store.prefixLength_mono (show j + 1 ≤ i from hgt)
    omega

/-- Reading a slot returns what the store holds for it. -/
theorem get_eq (h : Represents page store) {slot : SlotId}
    (hslot : slot.toNat < store.entries.length) :
    page.get slot = some (store.get slot.toNat) := by
  have hcount := h.bounded.slotCount_le
  have hlt := h.slotCount_eq
  have hentry := List.getElem?_eq_getElem hslot
  have hget : store.get slot.toNat = (store.entries[slot.toNat]).contents.getD [] := by
    simp [get, contents, hentry]
  cases hlive : (store.entries[slot.toNat]).live with
  | true =>
      obtain ⟨hoffset, hlength, hrecord⟩ := h.live_slot _ _ hentry hlive
      have hprefix := store.prefixLength_succ hentry
      rw [SlottedPage.get_eq_window page (by omega) (by omega), hrecord, hget]
      simp [Entry.contents, hlive]
  | false =>
      obtain ⟨hoffset, hlength⟩ := h.dead_slot _ _ hentry hlive
      rw [SlottedPage.get_eq_window page (by omega) (by omega), hget]
      simp [SlottedPage.record, hlength, Entry.contents, hlive, Library.Buffer.window]

end Represents

/-- The new page represents the empty store. -/
theorem new_represents : Represents SlottedPage.new empty where
  slotCount_eq := by simp [empty]
  freeEnd_eq := by simp [empty, prefixLength]
  used_le := by simp [empty, used]
  live_slot := by simp [empty]
  dead_slot := by simp [empty]

/-! ## Inserts and deletes preserve it -/

/-- A page to which a record is appended represents the store with that entry. -/
theorem append_represents {page page' : SlottedPage} {store : RecordStore}
    {record : List UInt8} (h : Represents page store)
    (happended : SlottedPage.Appended page record page')
    (hfits : store.used + (record.length + 4) ≤ 4092) :
    Represents page' ⟨store.entries ++ [⟨record, true⟩]⟩ := by
  have hcount := h.slotCount_eq
  have hfree := h.freeEnd_eq
  have hroom := h.free_add_used
  have hdir := h.bounded.directory_le
  have hlast : RecordStore.prefixLength ⟨store.entries ++ [⟨record, true⟩]⟩
      (store.entries.length + 1) = store.prefixLength store.entries.length + record.length := by
    have hentry : (store.entries ++ [⟨record, true⟩])[store.entries.length]? =
        some ⟨record, true⟩ := by simp
    rw [prefixLength_succ _ hentry, prefixLength_append _ _ le_rfl]
  have hold : ∀ i, i < store.entries.length →
      page'.slotOffset i = page.slotOffset i ∧ page'.slotLength i = page.slotLength i :=
    fun i hi => happended.slot_eq i (by omega)
  refine
    { slotCount_eq := by simp [happended.getSlotCount_eq, hcount]
      freeEnd_eq := ?_
      used_le := by simpa [used] using hfits
      live_slot := ?_
      dead_slot := ?_ }
  · simp only [List.length_append, List.length_singleton, happended.freeEnd_eq, hlast]
    omega
  · intro i entry hentry hlive
    by_cases hi : i < store.entries.length
    · rw [List.getElem?_append_left hi] at hentry
      obtain ⟨hoffset, hlength, hrecord⟩ := h.live_slot i entry hentry hlive
      obtain ⟨hoffset', hlength'⟩ := hold i hi
      rw [prefixLength_append _ _ (by omega : i + 1 ≤ store.entries.length), hoffset', hlength']
      refine ⟨hoffset, hlength, ?_⟩
      rw [SlottedPage.record_congr hoffset' hlength'
        (fun a ha => happended.bytes_eq a (h.extent_inside hi ha).1), hrecord]
    · have hlt := (List.getElem?_eq_some_iff.mp hentry).1
      simp only [List.length_append, List.length_singleton] at hlt
      have hlast_index : i = store.entries.length := by omega
      subst i
      have hnew : entry = ⟨record, true⟩ := by simpa using hentry.symm
      subst entry
      rw [hlast, ← hcount, happended.offset_eq, happended.length_eq, happended.record_eq, hcount]
      exact ⟨by omega, rfl, rfl⟩
  · intro i entry hentry hlive
    by_cases hi : i < store.entries.length
    · rw [List.getElem?_append_left hi] at hentry
      rw [(hold i hi).1, (hold i hi).2]
      exact h.dead_slot i entry hentry hlive
    · rw [List.getElem?_append_right (by omega)] at hentry
      have hnew := List.mem_of_getElem? hentry
      simp only [List.mem_singleton] at hnew
      simp [hnew] at hlive

/-- An insert on the page is the insert on the store. -/
theorem insert_represents {page : SlottedPage} {store : RecordStore}
    (h : Represents page store) (record : List UInt8) :
    ∃ page', page.insert record = some ((store.insert record).1, page') ∧
      Represents page' (store.insert record).2 := by
  have hroom := h.free_add_used
  by_cases hfits : store.used + (record.length + 4) ≤ 4092
  · obtain ⟨page', hinsert, happended⟩ :=
      SlottedPage.insert_of_fits h.bounded record (by omega)
    have hslot : page.getSlotCount = UInt16.ofNat store.entries.length := by
      rw [← h.slotCount_eq, UInt16.ofNat_toNat]
    simp only [insert, if_pos hfits]
    exact ⟨page', by rw [hinsert, hslot], append_represents h happended hfits⟩
  · simp only [insert, if_neg hfits]
    exact ⟨page, SlottedPage.insert_of_not_fits h.bounded record (by omega), h⟩

/-- A delete on the page is the delete on the store. -/
theorem delete_represents {page : SlottedPage} {store : RecordStore}
    (h : Represents page store) (slot : SlotId) :
    ∃ page', page.delete slot = some ((store.delete slot).1, page') ∧
      Represents page' (store.delete slot).2 := by
  have hcount := h.slotCount_eq
  by_cases hslot : slot.toNat < store.entries.length
  · obtain ⟨page', hdelete, hwritten⟩ := SlottedPage.delete_of_lt h.bounded slot
      (by omega)
    simp only [delete, if_pos hslot]
    refine ⟨page', hdelete, ?_⟩
    have hentries : ∀ i entry,
        (store.entries.modify slot.toNat fun entry => { entry with live := false })[i]? =
          some entry → ∃ old, store.entries[i]? = some old ∧ entry.record = old.record ∧
            entry.live = (if slot.toNat = i then false else old.live) := by
      intro i entry hentry
      rw [List.getElem?_modify] at hentry
      cases hold : store.entries[i]? with
      | none => simp [hold] at hentry
      | some old =>
          simp only [hold, Option.map_eq_map, Option.map_some, Option.some_inj] at hentry
          subst entry
          by_cases hi : slot.toNat = i <;> simp [hi]
    refine
      { slotCount_eq := by simp [hwritten.getSlotCount_eq, hcount]
        freeEnd_eq := ?_
        used_le := ?_
        live_slot := ?_
        dead_slot := ?_ }
    · simpa [prefixLength_modify, hwritten.freeEnd_eq] using h.freeEnd_eq
    · have hused := h.used_le
      rw [used_eq] at hused ⊢
      simpa [prefixLength_modify] using hused
    · intro i entry hentry hlive
      obtain ⟨old, hold, hrecord, hflag⟩ := hentries i entry hentry
      by_cases hi : slot.toNat = i
      · simp [hflag, hi] at hlive
      · rw [hflag, if_neg hi] at hlive
        obtain ⟨hoffset, hlength, hbytes⟩ := h.live_slot i old hold hlive
        obtain ⟨hoffset', hlength'⟩ := hwritten.slot_eq (j := i) (by omega)
        have hdir := h.bounded.directory_le
        rw [h.directoryEnd_eq] at hdir
        rw [prefixLength_modify, hoffset', hlength', hrecord]
        refine ⟨hoffset, hlength, ?_⟩
        rw [SlottedPage.record_congr hoffset' hlength' ?_, hbytes]
        intro a ha
        have hinside := h.extent_inside (List.getElem?_eq_some_iff.mp hold).1 ha
        exact hwritten.outside a (by omega)
    · intro i entry hentry hlive
      obtain ⟨old, hold, hrecord, hflag⟩ := hentries i entry hentry
      by_cases hi : slot.toNat = i
      · subst hi
        exact ⟨hwritten.offset_eq, hwritten.length_eq⟩
      · rw [hflag, if_neg hi] at hlive
        obtain ⟨hoffset', hlength'⟩ := hwritten.slot_eq (j := i) (by omega)
        rw [hoffset', hlength']
        exact h.dead_slot i old hold hlive
  · simp only [delete, if_neg hslot]
    exact ⟨page, SlottedPage.delete_of_le (by omega), h⟩

/-- One call returns the same on the page and on the store it represents. -/
theorem apply_represents {page : SlottedPage} {store : RecordStore}
    (h : Represents page store) (op : PageOp) :
    ∃ page', page.apply op = some ((store.apply op).1, page') ∧
      Represents page' (store.apply op).2 := by
  cases op with
  | insert record =>
      obtain ⟨page', hinsert, hpage'⟩ := insert_represents h record
      exact ⟨page', by simp [SlottedPage.apply, apply, hinsert], hpage'⟩
  | delete slot =>
      obtain ⟨page', hdelete, hpage'⟩ := delete_represents h slot
      exact ⟨page', by simp [SlottedPage.apply, apply, hdelete], hpage'⟩

/-- A sequence of calls returns the same on the page and on the store. -/
theorem run_represents {page : SlottedPage} {store : RecordStore}
    (h : Represents page store) (ops : List PageOp) :
    ∃ page', page.run ops = some ((store.run ops).1, page') ∧
      Represents page' (store.run ops).2 := by
  induction ops generalizing page store with
  | nil => exact ⟨page, rfl, h⟩
  | cons op ops ih =>
      obtain ⟨page₁, happly, hpage₁⟩ := apply_represents h op
      obtain ⟨page₂, hrun, hpage₂⟩ := ih hpage₁
      exact ⟨page₂, by simp [SlottedPage.run, run, happly, hrun], hpage₂⟩

end RecordStore

/-! ## What a client observes -/

/-- The page answers every question like the store: its slots, its free space,
the outcome of the next insert and delete, and the place of its records. -/
structure Refines (page : SlottedPage) (store : RecordStore) : Prop where
  slotCount_eq : page.getSlotCount.toNat = store.contents.length
  get_eq : ∀ slot : SlotId, slot.toNat < page.getSlotCount.toNat →
    page.get slot = some (store.get slot.toNat)
  freeSpace_eq : ∃ free, page.freeSpace = some free ∧ free.toNat = 4092 - store.used ∧
    store.used ≤ 4092 ∧ ∀ record : List UInt8, ∃ result page',
      page.insert record = some (result, page') ∧
      ((∃ slot, result = .ok slot) ↔ record.length + slotSize ≤ free.toNat) ∧
      (∀ slot, result = .ok slot → slot = page.getSlotCount) ∧
      (∀ error, result = .error error → page' = page)
  delete_eq : ∀ slot : SlotId, ∃ result page', page.delete slot = some (result, page') ∧
    (∀ error, result = .error error → page' = page)
  extent_inside : ∀ i < page.getSlotCount.toNat, ∀ a ∈ page.extent i,
    page.directoryEnd ≤ a ∧ a < pageSize
  extent_disjoint : ∀ i < page.getSlotCount.toNat, ∀ j < page.getSlotCount.toNat, i ≠ j →
    Disjoint (page.extent i) (page.extent j)

/-- A page that represents a store shows its records and its free space. -/
theorem RecordStore.Represents.refines {page : SlottedPage} {store : RecordStore}
    (h : RecordStore.Represents page store) : Refines page store := by
  have hcount := h.slotCount_eq
  have hroom := h.free_add_used
  refine
    { slotCount_eq := by simp [hcount, RecordStore.contents]
      get_eq := fun slot hslot => h.get_eq (by omega)
      freeSpace_eq := ?_
      delete_eq := ?_
      extent_inside := ?_
      extent_disjoint := fun i hi j hj hij => h.extent_disjoint (by omega) (by omega) hij }
  · have hfree := SlottedPage.freeSpace_eq_some h.bounded
    have hnat := SlottedPage.freeSpace_toNat h.bounded hfree
    refine ⟨_, hfree, by omega, h.used_le, ?_⟩
    intro record
    by_cases hfits : record.length + 4 ≤ page.freeEnd.toNat - page.directoryEnd
    · obtain ⟨page', hinsert, -⟩ := SlottedPage.insert_of_fits h.bounded record hfits
      exact ⟨_, page', hinsert, by simpa [hnat] using hfits, by simp, by simp⟩
    · have hinsert := SlottedPage.insert_of_not_fits h.bounded record (by omega)
      exact ⟨_, page, hinsert, by simpa [hnat] using hfits, by simp, by simp⟩
  · intro slot
    by_cases hslot : slot.toNat < page.getSlotCount.toNat
    · obtain ⟨page', hdelete, -⟩ := SlottedPage.delete_of_lt h.bounded slot hslot
      exact ⟨_, page', hdelete, by simp⟩
    · exact ⟨_, page, SlottedPage.delete_of_le (by omega), by simp⟩
  · intro i hi a ha
    have hinside := h.extent_inside (by omega) ha
    exact ⟨h.bounded.directory_le.trans hinside.1, hinside.2⟩

/-- Every sequence of inserts and deletes on a new page runs without a panic,
returns what the record store returns, and ends in a page that refines it. -/
theorem run_refines_recordStore (ops : List PageOp) :
    ∃ page, SlottedPage.new.run ops = some ((RecordStore.empty.run ops).1, page) ∧
      Refines page (RecordStore.empty.run ops).2 := by
  obtain ⟨page, hrun, hpage⟩ := RecordStore.run_represents RecordStore.new_represents ops
  exact ⟨page, hrun, hpage.refines⟩

end Storage
end TaskPool
