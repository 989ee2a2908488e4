import TaskPool.Library.ByteBuffer
import TaskPool.Storage.Basic

/-!
# Frames

A frame holds the bytes of one page together with its metadata and its state.  An
operation that fails leaves the frame as it was, except `modifyData`, which copies
the bytes before it looks at the metadata.

Main results:

- Structure `Frame` and its operations.
- Definitions `Frame.heldPage` and `Frame.pins`: what the metadata says, as an option
  and a number.
-/

namespace TaskPool
namespace Storage

open Library

/-- The metadata of the page in a frame. -/
structure PageMeta where
  pageId : PageId
  pinCount : UInt8
  dirty : Bool
  reference : Bool
deriving DecidableEq

/-- The state of a frame. -/
inductive FrameState where
  | free
  | reserved
  | resident
deriving DecidableEq

/-- A frame of the buffer pool. -/
structure Frame where
  data : Buffer pageSize
  metadata : Option PageMeta
  state : FrameState
deriving DecidableEq

namespace Frame

/-- The error of every operation that needs metadata. -/
def pageNotFound : IoError := ⟨.notFound, "Page not found..."⟩

/-- The error for data that is not one page long. -/
def invalidLength : IoError := ⟨.invalidData, "Invalid data length..."⟩

/-- An empty frame. -/
def new : Frame := ⟨Buffer.zero pageSize, none, .free⟩

/-- Set the state to `Free`. -/
def setFree (frame : Frame) : Frame := { frame with state := .free }

/-- Set the state to `Resident`. -/
def setResident (frame : Frame) : Frame := { frame with state := .resident }

/-- Take over the bytes of a page. -/
def loadPage (frame : Frame) (pageId : PageId) (data : List UInt8) : Except IoError Frame :=
  if h : data.length = pageSize then
    .ok ({ frame with data := ⟨data, h⟩, metadata := some ⟨pageId, 0, false, false⟩ } :
      Frame).setResident
  else .error invalidLength

/-- A call works on the frame. -/
def isReserved (frame : Frame) : Bool := frame.state = .reserved

/-- Enter the state `Reserved`. -/
def reserve (frame : Frame) : Except IoError Frame :=
  if frame.state ≠ .reserved then .ok { frame with state := .reserved }
  else .error ⟨.other, "Frame is already reserved..."⟩

/-- Change the metadata, which has to be there. -/
def updateMeta (frame : Frame) (change : PageMeta → PageMeta) : Except IoError Frame :=
  match frame.metadata with
  | some found => .ok { frame with metadata := some (change found) }
  | none => .error pageNotFound

/-- `u8::saturating_add(1)`. -/
def saturatingSucc (count : UInt8) : UInt8 :=
  if count = 255 then 255 else count + 1

/-- Add a pin. -/
def pin (frame : Frame) : Except IoError Frame :=
  frame.updateMeta fun found => { found with pinCount := saturatingSucc found.pinCount }

/-- Remove a pin. -/
def unpin (frame : Frame) : Except IoError Frame :=
  match frame.metadata with
  | some found =>
    if found.pinCount > 0 then
      .ok { frame with metadata := some { found with pinCount := found.pinCount - 1 } }
    else .error ⟨.other, "Cannot unpin further..."⟩
  | none => .error pageNotFound

/-- Set the dirty flag of the page. -/
def markDirty (frame : Frame) : Except IoError Frame :=
  frame.updateMeta fun found => { found with dirty := true }

/-- Clear the dirty flag of the page. -/
def clearDirty (frame : Frame) : Except IoError Frame :=
  frame.updateMeta fun found => { found with dirty := false }

/-- Set the reference bit of the page. -/
def markReferenced (frame : Frame) : Except IoError Frame :=
  frame.updateMeta fun found => { found with reference := true }

/-- Take the reference bit of the page. -/
def markUnreferenced (frame : Frame) : Except IoError Frame :=
  frame.updateMeta fun found => { found with reference := false }

/-- Replace the bytes of the frame and mark it dirty. -/
def modifyData (frame : Frame) (data : List UInt8) : Except IoError Unit × Frame :=
  if h : data.length = pageSize then
    let frame := { frame with data := ⟨data, h⟩ }
    match frame.markDirty with
    | .ok frame => (.ok (), frame)
    | .error e => (.error e, frame)
  else (.error invalidLength, frame)

/-- The page in the frame. -/
def getPageId (frame : Frame) : Except IoError PageId :=
  match frame.metadata with
  | some found => .ok found.pageId
  | none => .error pageNotFound

/-- The frame holds a page that is marked dirty. -/
def isDirty (frame : Frame) : Bool := frame.metadata.any PageMeta.dirty

/-- The frame holds a page whose reference bit is set. -/
def isReferenced (frame : Frame) : Bool := frame.metadata.any PageMeta.reference

/-- The frame holds a page with pins. -/
def isPinned (frame : Frame) : Bool := frame.metadata.any fun found => found.pinCount > 0

/-- Empty the frame. -/
def reset (_frame : Frame) : Frame := ⟨Buffer.zero pageSize, none, .free⟩

/-! ## What the metadata says -/

/-- The page in the frame, if there is one. -/
def heldPage (frame : Frame) : Option PageId := frame.metadata.map PageMeta.pageId

/-- The number of pins. -/
def pins (frame : Frame) : Nat := frame.metadata.elim 0 fun found => found.pinCount.toNat

/-- The frame with its reference bit cleared. -/
def unreferenced (frame : Frame) : Frame :=
  { frame with metadata := frame.metadata.map fun found => { found with reference := false } }

/-- The frames differ at most in their reference bits. -/
def SameButReference (frame frame' : Frame) : Prop := frame.unreferenced = frame'.unreferenced

/-- Loading a whole page succeeds, whatever was in the frame. -/
theorem loadPage_bytes (frame : Frame) (pageId : PageId) (data : Buffer pageSize) :
    frame.loadPage pageId data.bytes = .ok ⟨data, some ⟨pageId, 0, false, false⟩, .resident⟩ := by
  rw [loadPage, dif_pos data.length_eq]
  rfl

/-- A frame that is not reserved can be reserved. -/
theorem reserve_eq_ok {frame : Frame} (h : frame.isReserved = false) :
    frame.reserve = .ok { frame with state := .reserved } := by
  rw [reserve, if_pos]
  simpa [isReserved] using h

/-- The metadata of a frame that holds a page can be changed. -/
theorem updateMeta_eq_ok {frame : Frame} {found : PageMeta} (h : frame.metadata = some found)
    (change : PageMeta → PageMeta) :
    frame.updateMeta change = .ok { frame with metadata := some (change found) } := by
  rw [updateMeta, h]

/-- A frame that holds a page returns its id. -/
theorem getPageId_eq_ok {frame : Frame} {page : PageId} (h : frame.heldPage = some page) :
    frame.getPageId = .ok page := by
  rcases Option.map_eq_some_iff.mp h with ⟨found, hfound, rfl⟩
  rw [getPageId, hfound]

/-- A frame that holds a page has metadata with its id. -/
theorem exists_metadata {frame : Frame} {page : PageId} (h : frame.heldPage = some page) :
    ∃ found, frame.metadata = some found ∧ found.pageId = page :=
  Option.map_eq_some_iff.mp h

/-- A frame is unpinned when it has no pins. -/
theorem isPinned_eq_false_iff {frame : Frame} : frame.isPinned = false ↔ frame.pins = 0 := by
  unfold isPinned pins
  cases frame.metadata with
  | none => simp
  | some found =>
      simp only [Option.any_some, decide_eq_false_iff_not, gt_iff_lt, Option.elim_some,
        UInt8.lt_iff_toNat_lt]
      exact Nat.not_lt.trans Nat.le_zero

/-- A frame is pinned when it has pins. -/
theorem isPinned_iff {frame : Frame} : frame.isPinned = true ↔ 0 < frame.pins := by
  rw [← Bool.not_eq_false, isPinned_eq_false_iff, Nat.pos_iff_ne_zero]

/-! ## Frames after a sequence of operations -/

/-- The frame with its metadata changed, when there is any. -/
def mapMeta (frame : Frame) (change : PageMeta → PageMeta) : Frame :=
  { frame with metadata := frame.metadata.map change }

/-- The frame with one more pin and its reference bit set. -/
def touched (frame : Frame) : Frame :=
  frame.mapMeta fun found =>
    { found with pinCount := saturatingSucc found.pinCount, reference := true }

/-- The frame with one pin less. -/
def unpinned (frame : Frame) : Frame :=
  frame.mapMeta fun found => { found with pinCount := found.pinCount - 1 }

/-- The frame after the dirty bit is set or cleared. -/
def withDirty (frame : Frame) (dirty : Bool) : Frame :=
  frame.mapMeta fun found => { found with dirty := dirty }

/-- A frame into which a page was loaded from the disk and pinned. -/
def loaded (pageId : PageId) (data : Buffer pageSize) : Frame :=
  ⟨data, some ⟨pageId, 1, false, true⟩, .resident⟩

/-- A frame into which a new page was put and pinned. -/
def fresh (pageId : PageId) : Frame :=
  ⟨Buffer.zero pageSize, some ⟨pageId, 1, true, true⟩, .resident⟩

/-- A loaded frame has the bytes of the page. -/
theorem data_loaded (pageId : PageId) (data : Buffer pageSize) :
    (loaded pageId data).data = data := rfl

/-- A loaded frame is clean. -/
theorem isDirty_loaded (pageId : PageId) (data : Buffer pageSize) :
    (loaded pageId data).isDirty = false := rfl

/-- The frame of a new page is zeroed. -/
theorem data_fresh (pageId : PageId) : (fresh pageId).data = Buffer.zero pageSize := rfl

/-- The frame of a new page is dirty. -/
theorem isDirty_fresh (pageId : PageId) : (fresh pageId).isDirty = true := rfl

/-- With metadata, the change goes through. -/
theorem updateMeta_of_ne_none {frame : Frame} (h : frame.metadata ≠ none)
    (change : PageMeta → PageMeta) : frame.updateMeta change = .ok (frame.mapMeta change) := by
  cases hmeta : frame.metadata with
  | none => exact absurd hmeta h
  | some found => simp [updateMeta, mapMeta, hmeta]

@[simp] theorem data_mapMeta (frame : Frame) (change : PageMeta → PageMeta) :
    (frame.mapMeta change).data = frame.data := rfl

/-- Changed metadata are still there. -/
theorem mapMeta_ne_none {frame : Frame} (h : frame.metadata ≠ none)
    (change : PageMeta → PageMeta) : (frame.mapMeta change).metadata ≠ none := by
  simpa [mapMeta] using h

/-- A frame that holds a page has metadata. -/
theorem metadata_ne_none {frame : Frame} {page : PageId} (h : frame.heldPage = some page) :
    frame.metadata ≠ none := by
  intro hnone
  simp [heldPage, hnone] at h

@[simp] theorem heldPage_touched (frame : Frame) : frame.touched.heldPage = frame.heldPage := by
  simp [heldPage, touched, mapMeta, Function.comp_def]

@[simp] theorem heldPage_unpinned (frame : Frame) : frame.unpinned.heldPage = frame.heldPage := by
  simp [heldPage, unpinned, mapMeta, Function.comp_def]

@[simp] theorem heldPage_withDirty (frame : Frame) (dirty : Bool) :
    (frame.withDirty dirty).heldPage = frame.heldPage := by
  simp [heldPage, withDirty, mapMeta, Function.comp_def]

@[simp] theorem isDirty_touched (frame : Frame) : frame.touched.isDirty = frame.isDirty := by
  simp [isDirty, touched, mapMeta, Option.any_map]

@[simp] theorem isDirty_unpinned (frame : Frame) : frame.unpinned.isDirty = frame.isDirty := by
  simp [isDirty, unpinned, mapMeta, Option.any_map]

@[simp] theorem pins_withDirty (frame : Frame) (dirty : Bool) :
    (frame.withDirty dirty).pins = frame.pins := by
  unfold pins withDirty mapMeta
  cases frame.metadata <;> rfl

/-- Replacing the bytes of a frame; without metadata there is no dirty bit to set. -/
theorem modifyData_eq {frame : Frame} {data : List UInt8} (hlength : data.length = pageSize) :
    (frame.modifyData data).2 = { frame with data := ⟨data, hlength⟩ }.withDirty true := by
  rcases frame with ⟨bytes, metadata, state⟩
  rw [modifyData, dif_pos hlength]
  cases metadata <;> rfl

/-- Data of another length than a page are refused, and the frame stays as it is. -/
theorem modifyData_of_length_ne {frame : Frame} {data : List UInt8}
    (hlength : data.length ≠ pageSize) : (frame.modifyData data).2 = frame := by
  rw [modifyData, dif_neg hlength]

/-- A write changes the bytes and the dirty bit only. -/
theorem modifyData_cases (frame : Frame) (data : List UInt8) :
    (frame.modifyData data).2 = frame ∨
      ∃ bytes, (frame.modifyData data).2 = { frame with data := bytes }.withDirty true := by
  by_cases hlength : data.length = pageSize
  · exact .inr ⟨_, modifyData_eq hlength⟩
  · exact .inl (modifyData_of_length_ne hlength)

@[simp] theorem state_modifyData (frame : Frame) (data : List UInt8) :
    (frame.modifyData data).2.state = frame.state := by
  rcases modifyData_cases frame data with heq | ⟨bytes, heq⟩ <;> rw [heq]
  rfl

@[simp] theorem heldPage_modifyData (frame : Frame) (data : List UInt8) :
    (frame.modifyData data).2.heldPage = frame.heldPage := by
  rcases modifyData_cases frame data with heq | ⟨bytes, heq⟩ <;> rw [heq]
  exact heldPage_withDirty _ true

@[simp] theorem pins_modifyData (frame : Frame) (data : List UInt8) :
    (frame.modifyData data).2.pins = frame.pins := by
  rcases modifyData_cases frame data with heq | ⟨bytes, heq⟩ <;> rw [heq]
  exact pins_withDirty _ true

/-- With metadata, a frame can be marked dirty. -/
theorem isDirty_withDirty_true {frame : Frame} (h : frame.metadata ≠ none) :
    (frame.withDirty true).isDirty = true := by
  unfold isDirty withDirty mapMeta
  cases hmeta : frame.metadata with
  | none => exact absurd hmeta h
  | some found => rfl

/-- A frame that is marked clean is clean. -/
theorem isDirty_withDirty_false (frame : Frame) : (frame.withDirty false).isDirty = false := by
  unfold isDirty withDirty mapMeta
  cases frame.metadata <;> rfl

/-- A pin is counted up to 255. -/
theorem pins_touched {frame : Frame} (h : frame.metadata ≠ none) :
    frame.touched.pins = min 255 (frame.pins + 1) := by
  unfold pins touched mapMeta
  cases hmeta : frame.metadata with
  | none => exact absurd hmeta h
  | some found =>
      have hlt := found.pinCount.toNat_lt
      simp only [Option.map_some, Option.elim_some, saturatingSucc]
      split_ifs with hmax
      · rw [hmax]
        rfl
      · have hne : found.pinCount.toNat ≠ 255 := fun heq => hmax (UInt8.toNat_inj.mp heq)
        rw [UInt8.toNat_add]
        change (found.pinCount.toNat + 1) % 256 = _
        omega

/-- An unpin takes one pin away. -/
theorem pins_unpinned {frame : Frame} (h : 0 < frame.pins) :
    frame.unpinned.pins = frame.pins - 1 := by
  unfold pins unpinned mapMeta at *
  cases hmeta : frame.metadata with
  | none => simp [hmeta] at h
  | some found =>
      simp only [hmeta, Option.elim_some] at h
      simp only [Option.map_some, Option.elim_some]
      rw [UInt8.toNat_sub_of_le]
      · rfl
      · exact UInt8.le_iff_toNat_le.mpr h

/-- Pinning and marking as referenced. -/
theorem pin_eq_ok {frame : Frame} (h : frame.metadata ≠ none) :
    ∃ pinned, frame.pin = .ok pinned ∧ pinned.markReferenced = .ok frame.touched := by
  refine ⟨_, updateMeta_of_ne_none h _, ?_⟩
  rw [markReferenced, updateMeta_of_ne_none (mapMeta_ne_none h _)]
  simp [mapMeta, touched, Function.comp_def]

/-- A pinned frame can be unpinned. -/
theorem unpin_eq_ok {frame : Frame} (h : 0 < frame.pins) : frame.unpin = .ok frame.unpinned := by
  unfold pins at h
  unfold unpin unpinned mapMeta
  cases hmeta : frame.metadata with
  | none => simp [hmeta] at h
  | some found =>
      simp only [hmeta, Option.elim_some] at h
      have hpos : found.pinCount > 0 := UInt8.lt_iff_toNat_lt.mpr h
      simp [hpos]

/-- A frame without pins cannot be unpinned. -/
theorem unpin_eq_error {frame : Frame} (h : frame.pins = 0) : ∃ e, frame.unpin = .error e := by
  unfold pins at h
  unfold unpin
  cases hmeta : frame.metadata with
  | none => exact ⟨_, rfl⟩
  | some found =>
      simp only [hmeta, Option.elim_some] at h
      have hzero : ¬ found.pinCount > 0 := by
        simp only [gt_iff_lt, UInt8.lt_iff_toNat_lt, h]
        decide
      exact ⟨_, if_neg hzero⟩

/-- An operation on the metadata of a frame leaves it some, and its state. -/
def ChangesMeta (change : Frame → Except IoError Frame) : Prop :=
  ∀ frame frame', change frame = .ok frame' →
    frame'.state = frame.state ∧ frame'.metadata ≠ none

/-- Changes of the metadata leave a frame its state. -/
theorem changesMeta_updateMeta (change : PageMeta → PageMeta) :
    ChangesMeta fun frame => frame.updateMeta change := by
  intro frame frame' h
  simp only [updateMeta] at h
  split at h
  · cases h
    exact ⟨rfl, nofun⟩
  · cases h

/-- An unpin leaves a frame its state. -/
theorem changesMeta_unpin : ChangesMeta unpin := by
  intro frame frame' h
  unfold unpin at h
  split at h
  · split_ifs at h
    cases h
    exact ⟨rfl, nofun⟩
  · cases h

/-! ## Frames that differ in reference bits only -/

namespace SameButReference

variable {frame frame' frame'' : Frame}

/-- Every frame is the same as itself. -/
theorem refl (frame : Frame) : SameButReference frame frame := rfl

/-- Being the same but for the reference bit is transitive. -/
theorem trans (h : SameButReference frame frame') (h' : SameButReference frame' frame'') :
    SameButReference frame frame'' := Eq.trans h h'

/-- The data do not depend on the reference bit. -/
theorem data_eq (h : SameButReference frame frame') : frame'.data = frame.data :=
  (congrArg Frame.data h).symm

/-- The state does not depend on the reference bit. -/
theorem state_eq (h : SameButReference frame frame') : frame'.state = frame.state :=
  (congrArg Frame.state h).symm

/-- What is seen of the metadata without the reference bit does not depend on it. -/
theorem metadata_map_eq {β : Type} (h : SameButReference frame frame') (view : PageMeta → β)
    (hview : ∀ found, view { found with reference := false } = view found) :
    frame'.metadata.map view = frame.metadata.map view := by
  have hmeta := congrArg (fun frame : Frame => frame.metadata.map view) h
  simp only [unreferenced, Option.map_map, Function.comp_def, hview] at hmeta
  exact hmeta.symm

/-- The page of a frame does not depend on the reference bit. -/
theorem heldPage_eq (h : SameButReference frame frame') : frame'.heldPage = frame.heldPage :=
  h.metadata_map_eq PageMeta.pageId fun _ => rfl

/-- Whether a frame has metadata does not depend on the reference bit. -/
theorem metadata_eq_none_iff (h : SameButReference frame frame') :
    frame'.metadata = none ↔ frame.metadata = none := by
  have hnone : ∀ frame : Frame, frame.metadata = none ↔ frame.heldPage = none :=
    fun _ => Option.map_eq_none_iff.symm
  rw [hnone, hnone, h.heldPage_eq]

/-- The pins do not depend on the reference bit. -/
theorem pins_eq (h : SameButReference frame frame') : frame'.pins = frame.pins := by
  have hmap := h.metadata_map_eq (fun found => found.pinCount.toNat) fun _ => rfl
  have helim : ∀ frame : Frame, frame.pins =
      (frame.metadata.map fun found => found.pinCount.toNat).getD 0 := by
    intro frame
    unfold pins
    cases frame.metadata <;> rfl
  rw [helim, helim, hmap]

/-- The dirty flag does not depend on the reference bit. -/
theorem isDirty_eq (h : SameButReference frame frame') : frame'.isDirty = frame.isDirty := by
  have hmap := h.metadata_map_eq PageMeta.dirty fun _ => rfl
  have hany : ∀ frame : Frame, frame.isDirty = (frame.metadata.map PageMeta.dirty).getD false := by
    intro frame
    unfold isDirty
    cases frame.metadata <;> rfl
  rw [hany, hany, hmap]

/-- Whether a frame is reserved does not depend on the reference bit. -/
theorem isReserved_eq (h : SameButReference frame frame') :
    frame'.isReserved = frame.isReserved := by
  rw [isReserved, isReserved, h.state_eq]

/-- Whether a frame is pinned does not depend on the reference bit. -/
theorem isPinned_eq (h : SameButReference frame frame') : frame'.isPinned = frame.isPinned := by
  rw [Bool.eq_iff_iff, isPinned_iff, isPinned_iff, h.pins_eq]

end SameButReference

/-- Taking the reference bit changes nothing else. -/
theorem markUnreferenced_eq_ok {frame : Frame} (h : frame.isReferenced = true) :
    ∃ frame', frame.markUnreferenced = .ok frame' ∧ SameButReference frame frame' ∧
      frame'.isReferenced = false := by
  unfold isReferenced at h
  cases hmeta : frame.metadata with
  | none => simp [hmeta] at h
  | some found =>
      refine ⟨_, updateMeta_eq_ok hmeta _, ?_, ?_⟩
      · simp [SameButReference, unreferenced, hmeta]
      · simp [isReferenced]

end Frame

end Storage
end TaskPool
