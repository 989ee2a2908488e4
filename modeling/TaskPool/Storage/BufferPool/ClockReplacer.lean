import TaskPool.Library.CircularOrder
import TaskPool.Storage.BufferPool.PageTable
import TaskPool.Storage.BufferPool.Frame
import Mathlib.Data.Fintype.Basic
import Mathlib.Data.Finset.Card

/-!
# The CLOCK replacer

The hand sweeps over the frames, skips pinned and reserved ones, takes the reference
bit from every other frame it passes, and stops at the first one without.  A sweep
that has taken a bit is followed by another one, so the number of reference bits
bounds the sweeps.

Main results:

- Definition `ClockReplacer.findVictim`: the search for a victim.
- Theorem `ClockReplacer.findVictim_spec`: the victim is neither pinned nor reserved,
  and only reference bits change.
- Theorem `ClockReplacer.findVictim_eq_none`: the search fails only when every frame is
  pinned or reserved.
-/

namespace TaskPool
namespace Storage

open Library

/-- The errors of the buffer pool that do not come from a poisoned lock. -/
inductive BufferPoolError where
  | noFreeFrame
  | noEvictableFrame
  | diskError (error : IoError)
  | frameError (error : IoError)
  | pageNotFound (pageId : PageId)
  | pagePinned (pageId : PageId)
  | noPageIdAvailable
  | pageTableError (error : PageTableError)
  | frameReserved
  | frameNotReserved
deriving DecidableEq

/-- The clock hand of a pool of `n` frames. -/
structure ClockReplacer (n : Nat) where
  clockHand : Nat
  clockHand_lt : 0 < n → clockHand < n

variable {n : Nat}

/-- What one revolution finds and leaves behind. -/
structure Sweep (n : Nat) where
  victim : Option (Fin n)
  foundUnpinned : Bool
  clock : ClockReplacer n
  frames : Fin n → Frame

/-- The frames whose reference bit is set. -/
def referencedFrames (frames : Fin n → Frame) : Finset (Fin n) :=
  Finset.univ.filter fun frameId => (frames frameId).isReferenced

namespace ClockReplacer

/-- A hand at the first frame. -/
def new : ClockReplacer n := ⟨0, id⟩

/-- Move the hand to the next frame. -/
def advanceHand (clock : ClockReplacer n) : ClockReplacer n where
  clockHand := (clock.clockHand + 1) % n
  clockHand_lt := Nat.mod_lt _

/-- The frame under the hand. -/
def current (clock : ClockReplacer n) (hn : 0 < n) : Fin n :=
  ⟨clock.clockHand, clock.clockHand_lt hn⟩

/-- The rest of a revolution, `remaining` frames long. -/
def sweep (hn : 0 < n) : (remaining : Nat) → ClockReplacer n → (Fin n → Frame) → Bool →
    Except BufferPoolError (Sweep n)
  | 0, clock, frames, foundUnpinned => .ok ⟨none, foundUnpinned, clock, frames⟩
  | remaining + 1, clock, frames, foundUnpinned =>
    let id := clock.current hn
    let frame := frames id
    if frame.isPinned then sweep hn remaining clock.advanceHand frames foundUnpinned
    else if frame.isReserved then sweep hn remaining clock.advanceHand frames foundUnpinned
    else if frame.isReferenced then
      match frame.markUnreferenced with
      | .error e => .error (.frameError e)
      | .ok frame =>
        sweep hn remaining clock.advanceHand (Function.update frames id frame) true
    else .ok ⟨some id, true, clock.advanceHand, frames⟩

/-- What a revolution preserves: only reference bits change, and they are only taken;
a revolution that finds an unpinned frame but no victim has taken one. -/
structure SweepSpec (frames : Fin n → Frame) (foundUnpinned : Bool) (result : Sweep n) : Prop where
  sameButReference : ∀ frameId, Frame.SameButReference (frames frameId) (result.frames frameId)
  victim_spec : ∀ victim, result.victim = some victim →
    (frames victim).isPinned = false ∧ (frames victim).isReserved = false
  referenced_subset : referencedFrames result.frames ⊆ referencedFrames frames
  referenced_ssubset : foundUnpinned = false → result.foundUnpinned = true →
    result.victim = none → referencedFrames result.frames ⊂ referencedFrames frames

/-- A revolution returns, whatever the frames are. -/
theorem sweep_spec (hn : 0 < n) (remaining : Nat) (clock : ClockReplacer n)
    (frames : Fin n → Frame) (foundUnpinned : Bool) :
    ∃ result, sweep hn remaining clock frames foundUnpinned = .ok result ∧
      SweepSpec frames foundUnpinned result := by
  induction remaining generalizing clock frames foundUnpinned with
  | zero =>
      refine ⟨_, rfl, ?_⟩
      exact
        { sameButReference := fun _ => Frame.SameButReference.refl _
          victim_spec := nofun
          referenced_subset := Finset.Subset.refl _
          referenced_ssubset := fun hfalse htrue => absurd htrue (by simp [hfalse]) }
  | succ remaining ih =>
      unfold sweep
      by_cases hpinned : (frames (clock.current hn)).isPinned = true
      · simp only [hpinned, if_true]
        exact ih clock.advanceHand frames foundUnpinned
      by_cases hreserved : (frames (clock.current hn)).isReserved = true
      · simp only [hpinned, hreserved, if_true]
        exact ih clock.advanceHand frames foundUnpinned
      by_cases hreferenced : (frames (clock.current hn)).isReferenced = true
      · rcases Frame.markUnreferenced_eq_ok hreferenced with ⟨frame', hmark, hsame, hcleared⟩
        simp only [hpinned, hreserved, hreferenced, if_true, hmark]
        rcases ih clock.advanceHand (Function.update frames (clock.current hn) frame') true with
          ⟨result, hsweep, hspec⟩
        refine ⟨result, hsweep, ?_⟩
        have hframes : ∀ frameId, Frame.SameButReference (frames frameId)
            (Function.update frames (clock.current hn) frame' frameId) := by
          intro frameId
          by_cases hid : frameId = clock.current hn
          · subst hid
            rwa [Function.update_self]
          · rw [Function.update_of_ne hid]
            exact Frame.SameButReference.refl _
        have hssubset : referencedFrames (Function.update frames (clock.current hn) frame') ⊂
            referencedFrames frames := by
          refine Finset.ssubset_iff_of_subset ?_ |>.mpr ⟨clock.current hn, ?_, ?_⟩
          · intro frameId hmem
            by_cases hid : frameId = clock.current hn
            · subst hid
              simp [referencedFrames, hreferenced]
            · simpa [referencedFrames, Function.update_of_ne hid] using hmem
          · simp [referencedFrames, hreferenced]
          · simp [referencedFrames, hcleared]
        exact
          { sameButReference := fun frameId =>
              (hframes frameId).trans (hspec.sameButReference frameId)
            victim_spec := by
              intro victim hvictim
              have hfound := hspec.victim_spec victim hvictim
              rw [Frame.isPinned_eq_false_iff, (hframes victim).pins_eq,
                (hframes victim).isReserved_eq] at hfound
              rwa [Frame.isPinned_eq_false_iff]
            referenced_subset := hspec.referenced_subset.trans hssubset.subset
            referenced_ssubset := fun _ _ _ =>
              Finset.ssubset_of_subset_of_ssubset hspec.referenced_subset hssubset }
      · simp only [hpinned, hreserved, hreferenced]
        refine ⟨_, rfl, ?_⟩
        exact
          { sameButReference := fun _ => Frame.SameButReference.refl _
            victim_spec := by
              rintro victim ⟨⟩
              exact ⟨by simpa using hpinned, by simpa using hreserved⟩
            referenced_subset := Finset.Subset.refl _
            referenced_ssubset := nofun }

/-- One revolution after the other, until one finds a victim or no unpinned frame. -/
def revolve (hn : 0 < n) (clock : ClockReplacer n) (frames : Fin n → Frame) :
    Except BufferPoolError (Option (Fin n) × ClockReplacer n × (Fin n → Frame)) :=
  match hsweep : sweep hn n clock frames false with
  | .error e => .error e
  | .ok result =>
    match hvictim : result.victim with
    | some victim => .ok (some victim, result.clock, result.frames)
    | none =>
      if hfound : result.foundUnpinned then revolve hn result.clock result.frames
      else .ok (none, result.clock, result.frames)
termination_by (referencedFrames frames).card
decreasing_by
  rcases sweep_spec hn n clock frames false with ⟨result', hsweep', hspec⟩
  rw [hsweep, Except.ok.injEq] at hsweep'
  subst hsweep'
  exact Finset.card_lt_card (hspec.referenced_ssubset rfl hfound hvictim)

/-- Find a frame to evict. -/
def findVictim (clock : ClockReplacer n) (frames : Fin n → Frame) :
    Except BufferPoolError (Option (Fin n) × ClockReplacer n × (Fin n → Frame)) :=
  if hn : 0 < n then revolve hn clock frames else .ok (none, clock, frames)

/-- The search returns; its victim is neither pinned nor reserved, and the frames
keep everything but their reference bits. -/
structure VictimSpec (frames : Fin n → Frame) (victim : Option (Fin n))
    (frames' : Fin n → Frame) : Prop where
  sameButReference : ∀ frameId, Frame.SameButReference (frames frameId) (frames' frameId)
  victim_spec : ∀ found, victim = some found →
    (frames found).isPinned = false ∧ (frames found).isReserved = false

/-- One revolution decides how the search goes on. -/
theorem revolve_eq (hn : 0 < n) {clock : ClockReplacer n} {frames : Fin n → Frame}
    {result : Sweep n} (hsweep : sweep hn n clock frames false = .ok result) :
    revolve hn clock frames =
      match result.victim with
      | some victim => .ok (some victim, result.clock, result.frames)
      | none =>
        if result.foundUnpinned then revolve hn result.clock result.frames
        else .ok (none, result.clock, result.frames) := by
  rw [revolve]
  split <;> rename_i hfound <;> rw [hsweep] at hfound <;> cases hfound
  split <;> rename_i hvictim <;> simp only [hvictim, dite_eq_ite]

/-- The revolutions end with a victim, or with the knowledge that there is none. -/
theorem revolve_spec (hn : 0 < n) (clock : ClockReplacer n) (frames : Fin n → Frame) :
    ∃ victim clock' frames', revolve hn clock frames = .ok (victim, clock', frames') ∧
      VictimSpec frames victim frames' := by
  induction hcard : (referencedFrames frames).card using Nat.strong_induction_on
    generalizing clock frames with
  | _ count ih =>
      rcases sweep_spec hn n clock frames false with ⟨result, hsweep, hspec⟩
      rw [revolve_eq hn hsweep]
      cases hvictim : result.victim with
      | some victim =>
          exact ⟨_, _, _, rfl, hspec.sameButReference,
            fun found hfound => hspec.victim_spec found (by rw [hvictim, hfound])⟩
      | none =>
          by_cases hfound : result.foundUnpinned = true
          · have hlt := Finset.card_lt_card (hspec.referenced_ssubset rfl hfound hvictim)
            rcases ih _ (by omega) result.clock result.frames rfl with
              ⟨victim, clock', frames', hrevolve, hvictimSpec⟩
            refine ⟨victim, clock', frames', by simp only [hfound, if_true, hrevolve], ?_⟩
            refine
              { sameButReference := fun frameId =>
                  (hspec.sameButReference frameId).trans (hvictimSpec.sameButReference frameId)
                victim_spec := ?_ }
            intro found hsome
            have hsame := hspec.sameButReference found
            have hspec' := hvictimSpec.victim_spec found hsome
            rw [Frame.isPinned_eq_false_iff, hsame.pins_eq, hsame.isReserved_eq] at hspec'
            rwa [Frame.isPinned_eq_false_iff]
          · simp only [hfound]
            exact ⟨_, _, _, rfl, hspec.sameButReference, nofun⟩

/-- The search for a victim returns, without frames too. -/
theorem findVictim_spec (clock : ClockReplacer n) (frames : Fin n → Frame) :
    ∃ victim clock' frames', findVictim clock frames = .ok (victim, clock', frames') ∧
      VictimSpec frames victim frames' := by
  unfold findVictim
  split_ifs with hn
  · exact revolve_spec hn clock frames
  · exact ⟨none, clock, frames, rfl, fun _ => Frame.SameButReference.refl _, nofun⟩

/-! ## Searches that fail -/

/-- An unpinned frame that was found stays found. -/
theorem sweep_foundUnpinned (hn : 0 < n) (remaining : Nat) {clock : ClockReplacer n}
    {frames : Fin n → Frame} {result : Sweep n}
    (h : sweep hn remaining clock frames true = .ok result) : result.foundUnpinned = true := by
  induction remaining generalizing clock frames with
  | zero =>
      cases h
      rfl
  | succ remaining ih =>
      unfold sweep at h
      dsimp only at h
      split_ifs at h
      · exact ih h
      · exact ih h
      · split at h
        · cases h
        · exact ih h
      · cases h
        rfl

/-- The hand points at the index of its position. -/
theorem current_eq (clock : ClockReplacer n) (hn : 0 < n) :
    clock.current hn = indexAt hn clock.clockHand :=
  Fin.ext (Nat.mod_eq_of_lt (clock.clockHand_lt hn)).symm

/-- Advancing the hand shifts the sweep by one frame. -/
theorem circularFrom_advanceHand (clock : ClockReplacer n) (hn : 0 < n) (steps : Nat) :
    circularFrom hn clock.advanceHand.clockHand steps =
      circularFrom hn (clock.clockHand + 1) steps :=
  circularFrom_mod hn (clock.clockHand + 1) steps

/-- A revolution that finds no unpinned frame passes pinned and reserved frames only. -/
theorem sweep_passed (hn : 0 < n) (remaining : Nat) {clock : ClockReplacer n}
    {frames : Fin n → Frame} {result : Sweep n}
    (h : sweep hn remaining clock frames false = .ok result)
    (hfound : result.foundUnpinned = false) :
    ∀ frameId ∈ circularFrom hn clock.clockHand remaining,
      (frames frameId).isPinned = true ∨ (frames frameId).isReserved = true := by
  induction remaining generalizing clock with
  | zero =>
      intro frameId hmem
      cases hmem
  | succ remaining ih =>
      rw [circularFrom, ← current_eq, ← circularFrom_advanceHand, List.forall_mem_cons]
      unfold sweep at h
      dsimp only at h
      split_ifs at h with hpinned hreserved hreferenced
      · exact ⟨.inl hpinned, ih h⟩
      · exact ⟨.inr hreserved, ih h⟩
      · split at h
        · cases h
        · rw [sweep_foundUnpinned hn remaining h] at hfound
          cases hfound
      · cases h
        cases hfound

/-- A search without a victim has met pinned and reserved frames only. -/
theorem revolve_eq_none (hn : 0 < n) {clock clock' : ClockReplacer n}
    {frames frames' : Fin n → Frame} (h : revolve hn clock frames = .ok (none, clock', frames'))
    (frameId : Fin n) : (frames frameId).isPinned = true ∨ (frames frameId).isReserved = true := by
  induction hcard : (referencedFrames frames).card using Nat.strong_induction_on
    generalizing clock frames with
  | _ count ih =>
      rcases sweep_spec hn n clock frames false with ⟨result, hsweep, hspec⟩
      rw [revolve_eq hn hsweep] at h
      cases hvictim : result.victim with
      | some victim => simp [hvictim] at h
      | none =>
          by_cases hfound : result.foundUnpinned = true
          · have hlt := Finset.card_lt_card (hspec.referenced_ssubset rfl hfound hvictim)
            simp only [hvictim, hfound, if_true] at h
            have hsame := hspec.sameButReference frameId
            have hpassed := ih _ (by omega) h rfl
            rwa [hsame.isPinned_eq, hsame.isReserved_eq] at hpassed
          · have hmem := mem_circularFrom hn (clock.clockHand_lt hn) frameId
            exact sweep_passed hn n hsweep (Bool.eq_false_iff.mpr hfound) frameId hmem

/-- The search fails only when every frame is pinned or reserved. -/
theorem findVictim_eq_none {clock clock' : ClockReplacer n} {frames frames' : Fin n → Frame}
    (h : findVictim clock frames = .ok (none, clock', frames')) (frameId : Fin n) :
    (frames frameId).isPinned = true ∨ (frames frameId).isReserved = true := by
  have hn : 0 < n := Fin.pos frameId
  rw [findVictim, dif_pos hn] at h
  exact revolve_eq_none hn h frameId

/-! ## Reserved frames -/

/-- The hand passes reserved frames without touching them. -/
theorem sweep_reserved (hn : 0 < n) (remaining : Nat) {clock : ClockReplacer n}
    {frames : Fin n → Frame} {foundUnpinned : Bool} {result : Sweep n}
    (h : sweep hn remaining clock frames foundUnpinned = .ok result) {frameId : Fin n}
    (hreserved : (frames frameId).isReserved = true) : result.frames frameId = frames frameId := by
  induction remaining generalizing clock frames foundUnpinned with
  | zero =>
      cases h
      rfl
  | succ remaining ih =>
      unfold sweep at h
      dsimp only at h
      split_ifs at h with hpinned hskipped hreferenced
      · exact ih h hreserved
      · exact ih h hreserved
      · split at h
        · cases h
        · have hne : frameId ≠ clock.current hn := by
            rintro rfl
            exact hskipped hreserved
          have hsame := ih h (by rwa [Function.update_of_ne hne])
          rwa [Function.update_of_ne hne] at hsame
      · cases h
        rfl

/-- The revolutions leave reserved frames as they are. -/
theorem revolve_reserved (hn : 0 < n) {clock clock' : ClockReplacer n}
    {frames frames' : Fin n → Frame} {victim : Option (Fin n)}
    (h : revolve hn clock frames = .ok (victim, clock', frames')) {frameId : Fin n}
    (hreserved : (frames frameId).isReserved = true) : frames' frameId = frames frameId := by
  induction hcard : (referencedFrames frames).card using Nat.strong_induction_on
    generalizing clock frames with
  | _ count ih =>
      rcases sweep_spec hn n clock frames false with ⟨result, hsweep, hspec⟩
      have hsame := sweep_reserved hn n hsweep hreserved
      rw [revolve_eq hn hsweep] at h
      cases hvictim : result.victim with
      | some found =>
          simp only [hvictim, Except.ok.injEq, Prod.mk.injEq] at h
          rw [← h.2.2, hsame]
      | none =>
          by_cases hfound : result.foundUnpinned = true
          · have hlt := Finset.card_lt_card (hspec.referenced_ssubset rfl hfound hvictim)
            simp only [hvictim, hfound, if_true] at h
            rw [ih _ (by omega) h (by rwa [hsame]) rfl, hsame]
          · simp only [hvictim, hfound, Bool.false_eq_true, if_false, Except.ok.injEq,
              Prod.mk.injEq] at h
            rw [← h.2.2, hsame]

/-- The search for a victim leaves reserved frames as they are. -/
theorem findVictim_reserved {clock clock' : ClockReplacer n} {frames frames' : Fin n → Frame}
    {victim : Option (Fin n)} (h : findVictim clock frames = .ok (victim, clock', frames'))
    {frameId : Fin n} (hreserved : (frames frameId).isReserved = true) :
    frames' frameId = frames frameId := by
  rw [findVictim, dif_pos (Fin.pos frameId)] at h
  exact revolve_reserved _ h hreserved

end ClockReplacer

end Storage
end TaskPool
