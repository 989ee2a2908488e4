import TaskPool.Storage.BufferPool.ClockReplacer
import Mathlib.Data.List.TakeWhile

/-!
# Which frame the CLOCK replacer picks

The frames in circular order from the hand decide everything: the victim is the first
evictable one, where a frame is evictable when it is neither pinned nor reserved and its
reference bit is clear; without any, the first revolution takes the bits of all eligible
frames, and the second one stops at the first of them.

Main results:

- Theorem `ClockReplacer.sweep_eq`: what a part of a revolution finds and leaves behind.
- Theorem `ClockReplacer.revolve_eq_pick`: the search, in closed form.
- Theorem `clock_picks_victim`: after at most two revolutions the search ends with that
  victim, has cleared the bits of the eligible frames it passed over and nothing else, and
  leaves the hand behind the victim.
-/

namespace TaskPool
namespace Storage

open Library

namespace Frame

/-- Neither pinned nor reserved. -/
def isEligible (frame : Frame) : Bool := !frame.isPinned && !frame.isReserved

/-- Eligible, with a clear reference bit. -/
def isEvictable (frame : Frame) : Bool := frame.isEligible && !frame.isReferenced

/-- Taking the reference bit changes nothing else. -/
theorem sameButReference_unreferenced (frame : Frame) :
    SameButReference frame frame.unreferenced := by
  cases hmeta : frame.metadata <;> simp [SameButReference, unreferenced, hmeta]

@[simp] theorem isEligible_unreferenced (frame : Frame) :
    frame.unreferenced.isEligible = frame.isEligible := by
  rw [isEligible, isEligible, (sameButReference_unreferenced frame).isPinned_eq,
    (sameButReference_unreferenced frame).isReserved_eq]

@[simp] theorem isReferenced_unreferenced (frame : Frame) :
    frame.unreferenced.isReferenced = false := by
  cases hmeta : frame.metadata <;> simp [isReferenced, unreferenced, hmeta]

@[simp] theorem isEvictable_unreferenced (frame : Frame) :
    frame.unreferenced.isEvictable = frame.isEligible := by
  simp [isEvictable]

/-- The bit of a referenced frame can be taken. -/
theorem markUnreferenced_eq {frame : Frame} (h : frame.isReferenced = true) :
    frame.markUnreferenced = .ok frame.unreferenced := by
  apply updateMeta_of_ne_none
  intro hnone
  simp [isReferenced, hnone] at h

/-- An evictable frame is eligible. -/
theorem isEvictable_imp {frame : Frame} (h : frame.isEvictable = true) :
    frame.isEligible = true := by
  simp_all [isEvictable]

/-- A frame is not eligible when it is pinned or reserved. -/
theorem isEligible_eq_false_iff {frame : Frame} :
    frame.isEligible = false ↔ frame.isPinned = true ∨ frame.isReserved = true := by
  cases hpinned : frame.isPinned <;> simp [isEligible, hpinned]

end Frame

namespace ClockReplacer

variable {n : Nat}

/-- Take the reference bits of the eligible frames of a list. -/
def takeBits (passed : List (Fin n)) (frames : Fin n → Frame) (frameId : Fin n) : Frame :=
  if frameId ∈ passed ∧ (frames frameId).isEligible then (frames frameId).unreferenced
  else frames frameId

/-- The frames passed over on the way along a list: those before the first evictable one. -/
def passedOver (order : List (Fin n)) (frames : Fin n → Frame) : List (Fin n) :=
  order.takeWhile fun frameId => !(frames frameId).isEvictable

/-- The hand behind a victim. -/
def handBehind (hn : 0 < n) (victim : Fin n) : ClockReplacer n where
  clockHand := (victim + 1) % n
  clockHand_lt := fun _ => Nat.mod_lt _ hn

/-- The hand some steps further. -/
def advancedBy (clock : ClockReplacer n) (hn : 0 < n) (steps : Nat) : ClockReplacer n where
  clockHand := (clock.clockHand + steps) % n
  clockHand_lt := fun _ => Nat.mod_lt _ hn

/-- A clock is its hand. -/
theorem eq_of_clockHand_eq {clock clock' : ClockReplacer n}
    (h : clock.clockHand = clock'.clockHand) : clock = clock' := by
  cases clock
  cases clock'
  cases h
  rfl

@[simp] theorem clockHand_advancedBy (clock : ClockReplacer n) (hn : 0 < n) (steps : Nat) :
    (clock.advancedBy hn steps).clockHand = (clock.clockHand + steps) % n := rfl

@[simp] theorem clockHand_advanceHand (clock : ClockReplacer n) :
    clock.advanceHand.clockHand = (clock.clockHand + 1) % n := rfl

/-- A whole revolution brings the hand back. -/
theorem advancedBy_self (clock : ClockReplacer n) (hn : 0 < n) :
    clock.advancedBy hn n = clock :=
  eq_of_clockHand_eq (by simp [Nat.mod_eq_of_lt (clock.clockHand_lt hn)])

/-- Passing over no frame takes no bit. -/
theorem takeBits_nil (frames : Fin n → Frame) : takeBits [] frames = frames := by
  funext frameId
  simp [takeBits]

/-- Taking bits makes no frame eligible or not. -/
theorem isEligible_takeBits (passed : List (Fin n)) (frames : Fin n → Frame) (frameId : Fin n) :
    (takeBits passed frames frameId).isEligible = (frames frameId).isEligible := by
  unfold takeBits
  split <;> simp

/-- The bits of frames that are not eligible stay. -/
theorem takeBits_eq_self {passed : List (Fin n)} {frames : Fin n → Frame}
    (h : ∀ frameId ∈ passed, (frames frameId).isEligible = false) :
    takeBits passed frames = frames := by
  funext frameId
  rw [takeBits, if_neg]
  rintro ⟨hmem, heligible⟩
  rw [h frameId hmem] at heligible
  cases heligible

/-- A frame that is not eligible needs no place in the list. -/
theorem takeBits_cons_of_not_eligible {first : Fin n} {frames : Fin n → Frame}
    (h : (frames first).isEligible = false) (passed : List (Fin n)) :
    takeBits (first :: passed) frames = takeBits passed frames := by
  funext frameId
  by_cases hid : frameId = first
  · subst hid
    simp [takeBits, h]
  · simp [takeBits, hid]

/-- The bits may be taken one after the other. -/
theorem takeBits_cons_of_eligible {first : Fin n} {frames : Fin n → Frame}
    (h : (frames first).isEligible = true) {passed : List (Fin n)} (hfirst : first ∉ passed) :
    takeBits (first :: passed) frames =
      takeBits passed (Function.update frames first (frames first).unreferenced) := by
  funext frameId
  by_cases hid : frameId = first
  · subst hid
    simp [takeBits, h, hfirst]
  · simp [takeBits, hid]

/-- Frames that agree on a list are searched alike. -/
theorem find?_congr_frames (p : Frame → Bool) {order : List (Fin n)} {frames frames' : Fin n → Frame}
    (h : ∀ frameId ∈ order, frames' frameId = frames frameId) :
    order.find? (fun frameId => p (frames' frameId)) =
      order.find? fun frameId => p (frames frameId) := by
  induction order with
  | nil => rfl
  | cons first order ih =>
      rw [List.find?_cons, List.find?_cons, h first List.mem_cons_self,
        ih fun frameId hmem => h frameId (List.mem_cons_of_mem first hmem)]

/-- The frames that are passed over depend on the frames in the order only. -/
theorem passedOver_congr {order : List (Fin n)} {frames frames' : Fin n → Frame}
    (h : ∀ frameId ∈ order, frames' frameId = frames frameId) :
    passedOver order frames' = passedOver order frames := by
  induction order with
  | nil => rfl
  | cons first order ih =>
      have hrest := ih fun frameId hmem => h frameId (List.mem_cons_of_mem first hmem)
      simp only [passedOver] at hrest ⊢
      rw [List.takeWhile_cons, List.takeWhile_cons, h first List.mem_cons_self, hrest]

/-! ## One revolution -/

/-- What a part of a revolution finds and leaves behind. -/
def swept (hn : 0 < n) (clock : ClockReplacer n) (steps : Nat) (frames : Fin n → Frame)
    (foundUnpinned : Bool) : Sweep n :=
  let order := circularFrom hn clock.clockHand steps
  let victim := order.find? fun frameId => (frames frameId).isEvictable
  { victim := victim
    foundUnpinned := foundUnpinned || order.any fun frameId => (frames frameId).isEligible
    clock := victim.elim (clock.advancedBy hn steps) (handBehind hn)
    frames := takeBits (passedOver order frames) frames }

/-- Advancing the hand is the first of the steps. -/
theorem advancedBy_advanceHand (clock : ClockReplacer n) (hn : 0 < n) (steps : Nat) :
    clock.advanceHand.advancedBy hn steps = clock.advancedBy hn (steps + 1) :=
  eq_of_clockHand_eq (by simp [Nat.add_assoc, Nat.add_comm 1 steps])

/-- The frame under the hand is not eligible: the sweep goes on behind it. -/
theorem swept_succ_of_not_eligible (hn : 0 < n) {clock : ClockReplacer n} {steps : Nat}
    {frames : Fin n → Frame} {foundUnpinned : Bool}
    (h : (frames (clock.current hn)).isEligible = false) :
    swept hn clock (steps + 1) frames foundUnpinned =
      swept hn clock.advanceHand steps frames foundUnpinned := by
  have hevictable : (frames (clock.current hn)).isEvictable = false := by
    simp [Frame.isEvictable, h]
  rw [current_eq] at h hevictable
  simp only [swept, circularFrom, circularFrom_advanceHand, advancedBy_advanceHand,
    List.find?_cons, hevictable, List.any_cons, h, Bool.false_or, passedOver,
    List.takeWhile_cons, Bool.not_false, if_true, takeBits_cons_of_not_eligible h]

/-- The frame under the hand is eligible and referenced: the sweep takes its bit. -/
theorem swept_succ_of_referenced (hn : 0 < n) {clock : ClockReplacer n} {steps : Nat}
    (hsteps : steps + 1 ≤ n) {frames : Fin n → Frame} {foundUnpinned : Bool}
    (h : (frames (clock.current hn)).isEligible = true)
    (hreferenced : (frames (clock.current hn)).isReferenced = true) :
    swept hn clock (steps + 1) frames foundUnpinned =
      swept hn clock.advanceHand steps (Function.update frames (clock.current hn)
        (frames (clock.current hn)).unreferenced) true := by
  have hevictable : (frames (clock.current hn)).isEvictable = false := by
    simp [Frame.isEvictable, hreferenced]
  have hnodup := nodup_circularFrom hn clock.clockHand hsteps
  rw [circularFrom, List.nodup_cons] at hnodup
  rw [current_eq] at h hevictable ⊢
  -- the frames still to come are not the one under the hand
  have hrest : ∀ frameId ∈ circularFrom hn (clock.clockHand + 1) steps,
      Function.update frames (indexAt hn clock.clockHand)
        (frames (indexAt hn clock.clockHand)).unreferenced frameId = frames frameId := by
    intro frameId hmem
    apply Function.update_of_ne
    rintro rfl
    exact hnodup.1 hmem
  have hvictim := find?_congr_frames (·.isEvictable) hrest
  have hpassed := passedOver_congr hrest
  have hfirst : indexAt hn clock.clockHand ∉
      passedOver (circularFrom hn (clock.clockHand + 1) steps) frames := fun hmem =>
    hnodup.1 (List.takeWhile_subset _ hmem)
  simp only [swept, circularFrom, circularFrom_advanceHand, advancedBy_advanceHand, hvictim,
    hpassed, List.find?_cons, hevictable, List.any_cons, h, Bool.true_or, Bool.or_true]
  rw [← takeBits_cons_of_eligible h hfirst]
  simp only [passedOver, List.takeWhile_cons, hevictable, Bool.not_false, if_true]

/-- The frame under the hand is evictable: the sweep ends. -/
theorem swept_succ_of_evictable (hn : 0 < n) {clock : ClockReplacer n} {steps : Nat}
    {frames : Fin n → Frame} {foundUnpinned : Bool}
    (h : (frames (clock.current hn)).isEvictable = true) :
    swept hn clock (steps + 1) frames foundUnpinned =
      ⟨some (clock.current hn), true, clock.advanceHand, frames⟩ := by
  have heligible := Frame.isEvictable_imp h
  have hhand : handBehind hn (clock.current hn) = clock.advanceHand := rfl
  rw [← hhand]
  rw [current_eq] at h heligible ⊢
  simp only [swept, circularFrom, passedOver, List.find?_cons, h, List.any_cons, heligible,
    Bool.true_or, Bool.or_true, Option.elim_some, List.takeWhile_cons, Bool.not_true,
    Bool.false_eq_true, if_false, takeBits_nil]

/-- A part of a revolution, in closed form. -/
theorem sweep_eq (hn : 0 < n) {steps : Nat} (hsteps : steps ≤ n) (clock : ClockReplacer n)
    (frames : Fin n → Frame) (foundUnpinned : Bool) :
    sweep hn steps clock frames foundUnpinned =
      .ok (swept hn clock steps frames foundUnpinned) := by
  induction steps generalizing clock frames foundUnpinned with
  | zero =>
      have hclock : clock.advancedBy hn 0 = clock :=
        eq_of_clockHand_eq (by simp [Nat.mod_eq_of_lt (clock.clockHand_lt hn)])
      simp [sweep, swept, circularFrom, passedOver, takeBits_nil, hclock]
  | succ steps ih =>
      have hle := Nat.le_of_succ_le hsteps
      unfold sweep
      by_cases hpinned : (frames (clock.current hn)).isPinned = true
      · simp only [hpinned, if_true]
        rw [ih hle, swept_succ_of_not_eligible hn (by simp [Frame.isEligible, hpinned])]
      by_cases hreserved : (frames (clock.current hn)).isReserved = true
      · simp only [hpinned, hreserved, if_true]
        rw [ih hle, swept_succ_of_not_eligible hn (by simp [Frame.isEligible, hreserved])]
        rfl
      have heligible : (frames (clock.current hn)).isEligible = true := by
        simp [Frame.isEligible, hpinned, hreserved]
      by_cases hreferenced : (frames (clock.current hn)).isReferenced = true
      · simp only [hpinned, hreserved, hreferenced, if_true, Frame.markUnreferenced_eq hreferenced]
        rw [swept_succ_of_referenced hn hsteps heligible hreferenced, ← ih hle]
        rfl
      · rw [swept_succ_of_evictable hn (by simp [Frame.isEvictable, heligible, hreferenced])]
        simp [hpinned, hreserved, hreferenced]

/-! ## At most two revolutions -/

/-- The search, given up when the revolutions it may make are used up. -/
def revolveWithin (hn : 0 < n) : (revolutions : Nat) → ClockReplacer n → (Fin n → Frame) →
    Option (Except BufferPoolError (Option (Fin n) × ClockReplacer n × (Fin n → Frame)))
  | 0, _, _ => none
  | revolutions + 1, clock, frames =>
    match sweep hn n clock frames false with
    | .error e => some (.error e)
    | .ok result =>
      match result.victim with
      | some victim => some (.ok (some victim, result.clock, result.frames))
      | none =>
        if result.foundUnpinned then revolveWithin hn revolutions result.clock result.frames
        else some (.ok (none, result.clock, result.frames))

/-- A search that ends within some revolutions is the search. -/
theorem revolve_eq_of_revolveWithin (hn : 0 < n) {revolutions : Nat} {clock : ClockReplacer n}
    {frames : Fin n → Frame}
    {found : Except BufferPoolError (Option (Fin n) × ClockReplacer n × (Fin n → Frame))}
    (h : revolveWithin hn revolutions clock frames = some found) :
    revolve hn clock frames = found := by
  induction revolutions generalizing clock frames with
  | zero => cases h
  | succ revolutions ih =>
      have hsweep := sweep_eq hn le_rfl clock frames false
      rw [revolveWithin, hsweep] at h
      rw [revolve_eq hn hsweep]
      cases hvictim : (swept hn clock n frames false).victim with
      | some victim =>
          simp only [hvictim] at h
          exact Option.some_inj.mp h
      | none =>
          simp only [hvictim] at h
          split_ifs at h with hfound
          · simp only [hfound, if_true]
            exact ih h
          · simp only [hfound]
            exact Option.some_inj.mp h

/-- The frames in the order in which a revolution from the hand meets them. -/
def order (clock : ClockReplacer n) (hn : 0 < n) : List (Fin n) :=
  circularFrom hn clock.clockHand n

/-- The first evictable frame, or else the first eligible one. -/
def pick (clock : ClockReplacer n) (hn : 0 < n) (frames : Fin n → Frame) : Option (Fin n) :=
  ((clock.order hn).find? fun frameId => (frames frameId).isEvictable).or
    ((clock.order hn).find? fun frameId => (frames frameId).isEligible)

/-- A revolution visits every frame. -/
theorem mem_order (clock : ClockReplacer n) (hn : 0 < n) (frameId : Fin n) :
    frameId ∈ clock.order hn :=
  mem_circularFrom hn (clock.clockHand_lt hn) frameId

/-- Without an evictable frame a revolution passes over all frames. -/
theorem passedOver_eq_self {clock : ClockReplacer n} {hn : 0 < n} {frames : Fin n → Frame}
    (h : ∀ frameId, (frames frameId).isEvictable = false) :
    passedOver (clock.order hn) frames = clock.order hn := by
  rw [passedOver, List.takeWhile_eq_self_iff]
  simp [h]

/-- After a revolution that took all bits, the next one stops at the first eligible frame
and finds no bit to take before it. -/
theorem swept_second (hn : 0 < n) (clock : ClockReplacer n) (frames : Fin n → Frame)
    {victim : Fin n}
    (hvictim : (clock.order hn).find? (fun frameId => (frames frameId).isEligible) =
      some victim) :
    swept hn clock n (takeBits (clock.order hn) frames) false =
      ⟨some victim, true, handBehind hn victim, takeBits (clock.order hn) frames⟩ := by
  have hcleared : ∀ frameId, (takeBits (clock.order hn) frames frameId).isEvictable =
      (frames frameId).isEligible := by
    intro frameId
    by_cases heligible : (frames frameId).isEligible = true
    · rw [takeBits, if_pos ⟨clock.mem_order hn frameId, heligible⟩,
        Frame.isEvictable_unreferenced]
    · rw [takeBits, if_neg fun h => heligible h.2]
      simp [Frame.isEvictable, heligible]
  have hpassed : ∀ frameId ∈ passedOver (clock.order hn) (takeBits (clock.order hn) frames),
      (takeBits (clock.order hn) frames frameId).isEligible = false := by
    intro frameId hmem
    have hpasses := List.mem_takeWhile_imp hmem
    rw [hcleared] at hpasses
    rw [isEligible_takeBits]
    simpa using hpasses
  have hfind : (circularFrom hn clock.clockHand n).find? (fun frameId =>
      (takeBits (clock.order hn) frames frameId).isEvictable) = some victim := by
    simp only [hcleared]
    exact hvictim
  have hany : (circularFrom hn clock.clockHand n).any (fun frameId =>
      (takeBits (clock.order hn) frames frameId).isEligible) = true := by
    have heligible := List.find?_some hvictim
    refine List.any_eq_true.mpr ⟨victim, List.mem_of_find?_eq_some hvictim, ?_⟩
    rwa [isEligible_takeBits]
  simp only [swept, hfind, hany, Option.elim_some, Bool.false_or]
  rw [show circularFrom hn clock.clockHand n = clock.order hn from rfl, takeBits_eq_self hpassed]

/-- The search ends in the first or the second revolution. -/
theorem revolveWithin_two (hn : 0 < n) (clock : ClockReplacer n) (frames : Fin n → Frame) :
    revolveWithin hn 2 clock frames =
      some (.ok (clock.pick hn frames, (clock.pick hn frames).elim clock (handBehind hn),
        takeBits (passedOver (clock.order hn) frames) frames)) := by
  have hfirst := sweep_eq hn le_rfl clock frames false
  have hsecond := sweep_eq hn le_rfl clock (takeBits (clock.order hn) frames) false
  rw [revolveWithin, hfirst]
  cases hevictable : (clock.order hn).find? fun frameId => (frames frameId).isEvictable with
  | some victim =>
      have hvictim : (swept hn clock n frames false).victim = some victim := hevictable
      have hpick : clock.pick hn frames = some victim := by rw [pick, hevictable]; rfl
      simp only [hvictim, hpick]
      simp only [swept, order] at hevictable ⊢
      rw [hevictable]
      rfl
  | none =>
      have hvictim : (swept hn clock n frames false).victim = none := hevictable
      have hnone : ∀ frameId, (frames frameId).isEvictable = false := fun frameId => by
        simpa using List.find?_eq_none.mp hevictable frameId (clock.mem_order hn frameId)
      have hclock : (swept hn clock n frames false).clock = clock := by
        simp only [swept, order] at hevictable ⊢
        rw [hevictable]
        exact clock.advancedBy_self hn
      have hframes : (swept hn clock n frames false).frames =
          takeBits (clock.order hn) frames := by
        rw [← passedOver_eq_self hnone]
        rfl
      have hfound : (swept hn clock n frames false).foundUnpinned =
          (clock.order hn).any fun frameId => (frames frameId).isEligible := Bool.false_or _
      rw [passedOver_eq_self hnone]
      simp only [hvictim, hfound, hclock, hframes]
      cases heligible : (clock.order hn).find? fun frameId => (frames frameId).isEligible with
      | some victim =>
          have hvictim := List.find?_some heligible
          have hany : (clock.order hn).any (fun frameId => (frames frameId).isEligible) = true :=
            List.any_eq_true.mpr ⟨victim, List.mem_of_find?_eq_some heligible, hvictim⟩
          have hpick : clock.pick hn frames = some victim := by
            rw [pick, hevictable, heligible]
            rfl
          rw [hany, if_pos rfl, revolveWithin, hsecond, swept_second hn clock frames heligible,
            hpick]
          rfl
      | none =>
          have hany : (clock.order hn).any (fun frameId => (frames frameId).isEligible) =
              false := by
            simpa using heligible
          have hpick : clock.pick hn frames = none := by
            rw [pick, hevictable, heligible]
            rfl
          rw [hany, hpick]
          rfl

/-- What the search finds and leaves behind. -/
structure VictimPicked (hn : 0 < n) (clock : ClockReplacer n) (frames : Fin n → Frame)
    (victim : Option (Fin n)) (clock' : ClockReplacer n) (frames' : Fin n → Frame) : Prop where
  none_iff : victim = none ↔
    ∀ frameId, (frames frameId).isPinned = true ∨ (frames frameId).isReserved = true
  frames_of_none : victim = none → frames' = frames
  first_evictable : (∃ frameId, (frames frameId).isEvictable = true) →
    victim = (clock.order hn).find? fun frameId => (frames frameId).isEvictable
  first_eligible : (∀ frameId, (frames frameId).isEvictable = false) →
    victim = (clock.order hn).find? fun frameId => (frames frameId).isEligible
  frames_eq : frames' = takeBits (passedOver (clock.order hn) frames) frames
  hand_eq : ∀ found, victim = some found → clock'.clockHand = (found + 1) % n
  hand_lt : clock'.clockHand < n

/-- Nothing is picked when all frames are pinned or reserved. -/
theorem pick_eq_none_iff {hn : 0 < n} {clock : ClockReplacer n} {frames : Fin n → Frame} :
    clock.pick hn frames = none ↔
      ∀ frameId, (frames frameId).isPinned = true ∨ (frames frameId).isReserved = true := by
  simp only [pick, Option.or_eq_none_iff, List.find?_eq_none, Bool.not_eq_true,
    ← Frame.isEligible_eq_false_iff]
  constructor
  · intro h frameId
    exact h.2 frameId (clock.mem_order hn frameId)
  · intro h
    exact ⟨fun frameId _ => by simp [Frame.isEvictable, h frameId], fun frameId _ => h frameId⟩

/-- What is picked is the victim, and the hand and the bits are where the search leaves them.
-/
theorem victimPicked_pick (hn : 0 < n) (clock : ClockReplacer n) (frames : Fin n → Frame) :
    VictimPicked hn clock frames (clock.pick hn frames)
      ((clock.pick hn frames).elim clock (handBehind hn))
      (takeBits (passedOver (clock.order hn) frames) frames) where
  none_iff := pick_eq_none_iff
  frames_of_none := by
    intro hnone
    apply takeBits_eq_self
    intro frameId _
    exact Frame.isEligible_eq_false_iff.mpr (pick_eq_none_iff.mp hnone frameId)
  first_evictable := by
    rintro ⟨frameId, hevictable⟩
    have hsome : ((clock.order hn).find? fun frameId => (frames frameId).isEvictable).isSome :=
      List.find?_isSome.mpr ⟨frameId, clock.mem_order hn frameId, hevictable⟩
    obtain ⟨victim, hvictim⟩ := Option.isSome_iff_exists.mp hsome
    rw [pick, hvictim]
    rfl
  first_eligible := by
    intro hnone
    have hfind : (clock.order hn).find? (fun frameId => (frames frameId).isEvictable) = none := by
      simp [hnone]
    rw [pick, hfind]
    rfl
  frames_eq := rfl
  hand_eq := by
    intro found hfound
    rw [hfound]
    rfl
  hand_lt := ClockReplacer.clockHand_lt _ hn

end ClockReplacer

/-- The search ends after at most two revolutions.  It fails exactly when every frame is
pinned or reserved; otherwise the victim is the first evictable frame from the hand, or
the first eligible one when all of these are referenced.  Only the bits of eligible
frames passed over are cleared, and the hand ends behind the victim. -/
theorem clock_picks_victim {n : Nat} (hn : 0 < n) (clock : ClockReplacer n)
    (frames : Fin n → Frame) :
    ∃ victim clock' frames', clock.findVictim frames = .ok (victim, clock', frames') ∧
      ClockReplacer.revolveWithin hn 2 clock frames = some (.ok (victim, clock', frames')) ∧
      ClockReplacer.VictimPicked hn clock frames victim clock' frames' := by
  have hwithin := ClockReplacer.revolveWithin_two hn clock frames
  refine ⟨_, _, _, ?_, hwithin, ClockReplacer.victimPicked_pick hn clock frames⟩
  rw [ClockReplacer.findVictim, dif_pos hn]
  exact ClockReplacer.revolve_eq_of_revolveWithin hn hwithin

/-- A pinned frame under the hand and a referenced one behind it: the first revolution
takes the bit of the second frame, and the second revolution evicts it. -/
theorem clock_picks_victim_secondRevolution :
    ∃ clock' frames', ClockReplacer.findVictim (ClockReplacer.new : ClockReplacer 2)
        (fun frameId => if frameId = 0 then Frame.fresh 7 else (Frame.fresh 8).unpinned) =
          .ok (some 1, clock', frames') ∧
      clock'.clockHand = 0 ∧ (frames' 1).isReferenced = false := by
  obtain ⟨victim, clock', frames', hfound, -, hpicked⟩ := clock_picks_victim
    (show 0 < 2 by decide) ClockReplacer.new
    fun frameId => if frameId = 0 then Frame.fresh 7 else (Frame.fresh 8).unpinned
  have hvictim : victim = some 1 := by
    rw [hpicked.first_eligible (by decide)]
    decide
  refine ⟨clock', frames', hvictim ▸ hfound, hpicked.hand_eq 1 hvictim, ?_⟩
  rw [hpicked.frames_eq]
  decide

end Storage
end TaskPool
