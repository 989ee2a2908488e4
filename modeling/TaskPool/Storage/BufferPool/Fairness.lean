import TaskPool.Library.Potential
import TaskPool.Storage.BufferPool.Interleaving
import TaskPool.Storage.BufferPool.SecondChance

/-!
# Frames that nobody uses

A call sets the reference bit of a frame only together with a pin, so the bit of a frame
that stays unpinned and unreserved can only be taken, and the hand comes closer with every
search that stops before the frame.

Main results:

- Definition `BufferPoolManager.searches`: the sections that search for a victim.
- Theorem `BufferPoolManager.advance_clock`: what every section does to the hand, and to a
  frame that it leaves unpinned and unreserved.
- Theorem `victim_within_two_rounds`: in every run, a frame that stays unpinned and
  unreserved survives fewer than `2 n` searches.
-/

namespace TaskPool
namespace Storage

open BufferPoolManager Library

variable {n : Nat}

/-! ## One search -/

/-- How far CLOCK is from taking a frame: the steps of the hand, and one more revolution as
long as the reference bit is set. -/
def ClockReplacer.distance (clock : ClockReplacer n) (frames : Fin n → Frame) (frameId : Fin n) :
    Nat :=
  (if (frames frameId).isReferenced then n else 0) + stepsTo clock.clockHand frameId

/-- CLOCK is never further away than two revolutions. -/
theorem ClockReplacer.distance_lt (clock : ClockReplacer n) (frames : Fin n → Frame)
    (frameId : Fin n) : clock.distance frames frameId < 2 * n := by
  have hlt := stepsTo_lt clock.clockHand frameId
  unfold distance
  split_ifs <;> omega

/-- Without a reference bit it is never further away than one. -/
theorem ClockReplacer.distance_lt_of_unreferenced (clock : ClockReplacer n)
    {frames : Fin n → Frame} {frameId : Fin n} (h : (frames frameId).isReferenced = false) :
    clock.distance frames frameId < n := by
  rw [distance, h, if_neg Bool.false_ne_true, Nat.zero_add]
  exact stepsTo_lt clock.clockHand frameId

namespace ClockReplacer

variable {clock clock' : ClockReplacer n} {frames frames' : Fin n → Frame} {frameId : Fin n}
  {victim : Option (Fin n)} {hn : 0 < n}

/-- The hand never comes to an unpinned and unreserved frame without taking its bit. -/
theorem VictimPicked.before (h : VictimPicked hn clock frames victim clock' frames')
    (heligible : (frames frameId).isEligible = true)
    (hreferenced : (frames' frameId).isReferenced = (frames frameId).isReferenced)
    (hne : victim ≠ some frameId) :
    ∃ found, victim = some found ∧
      stepsTo clock.clockHand found < stepsTo clock.clockHand frameId := by
  have hlt := stepsTo_lt clock.clockHand frameId
  -- some evictable frame lies between the hand and the frame, or is the frame
  obtain ⟨k, hk, hevictable⟩ : ∃ k ≤ stepsTo clock.clockHand frameId,
      (frames (indexAt hn (clock.clockHand + k))).isEvictable = true := by
    by_cases hbit : (frames frameId).isReferenced = true
    · by_contra! hnone
      have hmem : frameId ∈ passedOver (clock.order hn) frames := by
        have hpassed := mem_takeWhile_circularFrom hn (q := fun frameId =>
          !(frames frameId).isEvictable) hlt fun j hj => by simpa using hnone j hj
        rwa [indexAt_stepsTo] at hpassed
      rw [h.frames_eq, takeBits, if_pos ⟨hmem, heligible⟩, Frame.isReferenced_unreferenced,
        hbit] at hreferenced
      cases hreferenced
    · refine ⟨_, le_rfl, ?_⟩
      rw [indexAt_stepsTo, Frame.isEvictable, heligible, Bool.eq_false_iff.mpr hbit]
      rfl
  have hvictim := h.first_evictable ⟨_, hevictable⟩
  cases hfound : victim with
  | none =>
      rw [hfound] at hvictim
      exact absurd hevictable
        (List.find?_eq_none.mp hvictim.symm (indexAt hn _) (clock.mem_order hn _))
  | some found =>
      rw [hfound] at hvictim
      rcases exists_of_find?_circularFrom hn hvictim.symm with ⟨j, hj, hindex, hbefore⟩
      refine ⟨found, rfl, ?_⟩
      have hle : j ≤ k := by
        by_contra! hlt
        rw [hbefore k hlt] at hevictable
        cases hevictable
      rw [stepsTo_unique hn hj hindex]
      refine lt_of_le_of_ne (hle.trans hk) fun heq => hne ?_
      rw [hfound, ← hindex, heq, indexAt_stepsTo]

/-- A search that does not take an unpinned and unreserved frame comes closer to it. -/
theorem distance_findVictim (h : clock.findVictim frames = .ok (victim, clock', frames'))
    (heligible : (frames frameId).isEligible = true) (hne : victim ≠ some frameId) :
    clock'.distance frames' frameId < clock.distance frames frameId := by
  have hn : 0 < n := Fin.pos frameId
  rcases clock_picks_victim hn clock frames with ⟨victim, clock', frames', hfind, -, hpicked⟩
  rw [hfind, Except.ok.injEq, Prod.mk.injEq, Prod.mk.injEq] at h
  rcases h with ⟨rfl, rfl, rfl⟩
  by_cases hsame : (frames' frameId).isReferenced = (frames frameId).isReferenced
  · rcases hpicked.before heligible hsame hne with ⟨found, hfound, hbefore⟩
    have hcloser := stepsTo_behind hbefore
    rw [distance, distance, hsame, hpicked.hand_eq found hfound]
    omega
  · -- the search has taken the bit of the frame
    have htaken : frames' frameId = (frames frameId).unreferenced := by
      rw [hpicked.frames_eq, takeBits] at hsame ⊢
      split_ifs at hsame ⊢ with hpassed
      · rfl
      · exact absurd rfl hsame
    have hcleared : (frames' frameId).isReferenced = false := by
      rw [htaken, Frame.isReferenced_unreferenced]
    have hbit : (frames frameId).isReferenced = true := by
      rw [hcleared] at hsame
      simpa using hsame
    have hless := clock'.distance_lt_of_unreferenced hcleared
    have hfar : n ≤ clock.distance frames frameId := by
      rw [distance, hbit, if_pos rfl]
      exact Nat.le_add_right n _
    exact hless.trans_le hfar

end ClockReplacer

/-! ## One section -/

/-- The frame is not used: it is pinned or reserved, or its bit was set before. -/
def Frame.Unused (frame frame' : Frame) : Prop :=
  frame'.isEligible = true → frame'.isReferenced = true → frame.isReferenced = true

namespace Frame.Unused

variable {frame frame' : Frame} {change : PageMeta → PageMeta}

/-- A frame that stays as it is was not used. -/
theorem refl (frame : Frame) : Unused frame frame := fun _ => id

/-- A pinned frame counts as unused. -/
theorem of_pinned (h : frame'.isPinned = true) : Unused frame frame' := by
  intro heligible _
  rw [Frame.isEligible, h] at heligible
  cases heligible

/-- A frame whose metadata stay was not used. -/
theorem of_metadata (h : frame'.metadata = frame.metadata) : Unused frame frame' := by
  intro _ hreferenced
  rwa [isReferenced, h] at hreferenced

/-- A change of the metadata that does not set the bit. -/
theorem of_updateMeta (h : frame.updateMeta change = .ok frame')
    (hchange : ∀ found, (change found).reference = found.reference) : Unused frame frame' := by
  intro _ hreferenced
  unfold updateMeta at h
  cases hmeta : frame.metadata with
  | none =>
      rw [hmeta] at h
      cases h
  | some found =>
      rw [hmeta] at h
      cases h
      rw [isReferenced, hmeta, Option.any_some]
      rwa [isReferenced, Option.any_some, hchange] at hreferenced

/-- An unpin does not set the reference bit. -/
theorem of_unpin (h : frame.unpin = .ok frame') : Unused frame frame' := by
  intro _ hreferenced
  unfold unpin at h
  cases hmeta : frame.metadata with
  | none =>
      rw [hmeta] at h
      cases h
  | some found =>
      rw [hmeta] at h
      dsimp only at h
      split_ifs at h
      cases h
      rwa [isReferenced, hmeta]

end Frame.Unused

namespace Frame

variable {frame frame' : Frame}

/-- Reserving a frame leaves its metadata. -/
theorem metadata_reserve (h : frame.reserve = .ok frame') : frame'.metadata = frame.metadata := by
  unfold reserve at h
  split_ifs at h
  cases h
  rfl

/-- A frame is pinned after a pin, which stops at 255. -/
theorem isPinned_of_pin (h : frame.pin = .ok frame') : frame'.isPinned = true := by
  unfold pin updateMeta at h
  cases hmeta : frame.metadata with
  | none =>
      rw [hmeta] at h
      cases h
  | some found =>
      have hpins : frame.touched.pins = min 255 (frame.pins + 1) :=
        pins_touched (by rw [hmeta]; exact Option.some_ne_none found)
      rw [hmeta] at h
      cases h
      rw [isPinned_iff]
      unfold touched mapMeta at hpins
      rw [hmeta] at hpins
      exact Nat.lt_of_lt_of_eq (by omega) hpins.symm

/-- Setting the reference bit pins nothing. -/
theorem isPinned_markReferenced (h : frame.markReferenced = .ok frame') :
    frame'.isPinned = frame.isPinned := by
  unfold markReferenced updateMeta at h
  cases hmeta : frame.metadata with
  | none =>
      rw [hmeta] at h
      cases h
  | some found =>
      rw [hmeta] at h
      cases h
      rw [isPinned, isPinned, hmeta]
      rfl

end Frame

namespace BufferPoolManager

variable {pool pool' : BufferPoolManager n} {pc : Pc n} {next : Next n} {pageId : PageId}
  {frameId : Fin n} {callId : CallId} {io : Io}

/-- The section searches for a victim. -/
def searches (pool : BufferPoolManager n) : Pc n → Bool
  | .fetchStart pageId _ =>
    (pool.pageTable pageId).isNone && (pool.inFlightLoads pageId).isNone && pool.freeFrames.isEmpty
  | .newStart => decide (pool.nextPageId < 65535) && pool.freeFrames.isEmpty
  | _ => false

/-- How far CLOCK is from taking a frame of the pool. -/
def distance (pool : BufferPoolManager n) (frameId : Fin n) : Nat :=
  pool.clockReplacer.distance pool.frames frameId

/-- The hand stays, and no frame is used. -/
structure Rests (pool pool' : BufferPoolManager n) : Prop where
  clock : pool'.clockReplacer = pool.clockReplacer
  unused : ∀ frameId, Frame.Unused (pool.frames frameId) (pool'.frames frameId)

namespace Rests

/-- A section that changes no frame rests. -/
theorem of_frames_eq (hclock : pool'.clockReplacer = pool.clockReplacer)
    (hframes : pool'.frames = pool.frames) : Rests pool pool' :=
  ⟨hclock, fun frameId => by rw [hframes]; exact .refl _⟩

/-- A section that changes one frame without using it rests. -/
theorem of_update (hclock : pool'.clockReplacer = pool.clockReplacer) {frame : Frame}
    (hframes : pool'.frames = Function.update pool.frames frameId frame)
    (hunused : Frame.Unused (pool.frames frameId) frame) : Rests pool pool' where
  clock := hclock
  unused := by
    intro other
    rw [hframes]
    by_cases hother : other = frameId
    · rw [hother, Function.update_self]
      exact hunused
    · rw [Function.update_of_ne hother]
      exact .refl _

/-- The hand is as far from an unpinned and unreserved frame as before. -/
theorem distance_le (h : Rests pool pool') (heligible : (pool'.frames frameId).isEligible = true) :
    pool'.distance frameId ≤ pool.distance frameId := by
  unfold distance ClockReplacer.distance
  rw [h.clock]
  by_cases hreferenced : (pool'.frames frameId).isReferenced = true
  · rw [hreferenced, h.unused frameId heligible hreferenced]
  · rw [if_neg hreferenced]
    omega

end Rests

namespace Rests

/-- A hit pins the frame that it uses. -/
theorem fetchHit (missRecorded : Bool) :
    Rests pool (pool.fetchHit pageId missRecorded frameId).pool := by
  unfold BufferPoolManager.fetchHit
  split_ifs
  · exact of_frames_eq rfl rfl
  · cases hpin : (pool.frames frameId).pin with
    | error e =>
        dsimp only [recordHit]
        rw [hpin]
        exact of_frames_eq rfl rfl
    | ok frame =>
        have hpinned := Frame.isPinned_of_pin hpin
        dsimp only [recordHit]
        rw [hpin]
        dsimp only
        cases hmark : frame.markReferenced with
        | error e => exact of_update rfl rfl (.of_pinned hpinned)
        | ok marked =>
            exact of_update rfl rfl (.of_pinned (by rw [Frame.isPinned_markReferenced hmark, hpinned]))

/-- A change of a resident frame that does not use it rests. -/
theorem changeResident {change : Frame → Except IoError Frame}
    (hchange : ∀ frame frame', change frame = .ok frame' → Frame.Unused frame frame') :
    Rests pool (pool.changeResident pageId change).pool := by
  unfold BufferPoolManager.changeResident
  cases pool.pageTable pageId with
  | none => exact of_frames_eq rfl rfl
  | some frameId =>
      dsimp only
      split_ifs
      · exact of_frames_eq rfl rfl
      · cases hframe : change (pool.frames frameId) with
        | error e => exact of_frames_eq rfl rfl
        | ok frame => exact of_update rfl rfl (hchange _ frame hframe)

/-- The start of a flush reserves its frame only. -/
theorem flushPage : Rests pool (pool.flushPage pageId).pool := by
  unfold BufferPoolManager.flushPage
  cases pool.pageTable pageId with
  | none => exact of_frames_eq rfl rfl
  | some frameId =>
      dsimp only
      split_ifs
      · exact of_frames_eq rfl rfl
      · cases hreserve : (pool.frames frameId).reserve with
        | error e => exact of_frames_eq rfl rfl
        | ok frame =>
            have hmeta := Frame.metadata_reserve hreserve
            dsimp only
            split_ifs <;> exact of_update rfl rfl (.of_metadata hmeta)

/-- Returning from a flush uses no frame. -/
theorem flushReturn (h : Rests pool pool') {caller : FlushCaller}
    {result : Except BufferPoolError Unit} :
    Rests pool (pool'.flushReturn pageId frameId caller result).pool := by
  cases caller <;> cases result <;> exact h

/-- Looking at a reserved frame does not use it. -/
theorem flushCheck {caller : FlushCaller} :
    Rests pool (pool.flushCheck pageId frameId caller).pool := by
  unfold BufferPoolManager.flushCheck
  dsimp only
  split_ifs
  · exact (of_frames_eq rfl rfl).flushReturn
  · cases (pool.frames frameId).getPageId with
    | error e => exact (of_frames_eq rfl rfl).flushReturn
    | ok dirtyPageId => exact of_frames_eq rfl rfl
  · exact (of_frames_eq rfl rfl).flushReturn

/-- The end of a flush uses no frame. -/
theorem flushFinish {written : Except IoError Unit} {caller : FlushCaller} :
    Rests pool (pool.flushFinish pageId frameId written caller).pool := by
  have hresident : Rests pool (pool.setFrame frameId (pool.frames frameId).setResident) :=
    of_update rfl rfl (.of_metadata rfl)
  unfold BufferPoolManager.flushFinish
  cases written with
  | error e => exact hresident.flushReturn
  | ok _ =>
      dsimp only
      cases hclear : (pool.frames frameId).clearDirty with
      | error e => exact hresident.flushReturn
      | ok frame =>
          have hcleared : Rests pool (pool.setFrame frameId frame) :=
            of_update rfl rfl (.of_updateMeta hclear fun _ => rfl)
          exact hcleared.flushReturn

/-- Giving a frame back does not use it. -/
theorem releaseFrame (result : CallResult n) :
    Rests pool (pool.releaseFrame frameId result).pool :=
  of_update rfl rfl (.of_metadata rfl)

/-- A frame that loses its page is not used. -/
theorem dropPage : Rests pool (pool.dropPage pageId frameId).pool :=
  of_update rfl rfl fun _ hreferenced => absurd hreferenced Bool.false_ne_true

/-- The start of a deletion uses no frame. -/
theorem deletePage : Rests pool (pool.deletePage pageId).pool := by
  unfold BufferPoolManager.deletePage
  cases pool.pageTable pageId with
  | none => exact of_frames_eq rfl rfl
  | some frameId =>
      dsimp only
      split_ifs
      · cases hreserve : (pool.frames frameId).reserve with
        | error e => exact of_frames_eq rfl rfl
        | ok frame =>
            dsimp only
            split_ifs
            · exact of_update rfl rfl (.of_metadata (Frame.metadata_reserve hreserve))
            · refine of_update rfl (Function.update_idem ..) ?_
              exact fun _ hreferenced => absurd hreferenced Bool.false_ne_true
      · exact of_frames_eq rfl rfl

/-- The commit of an eviction pins the frame of the new page. -/
theorem evictCommit {victim : Fin n} {oldPageId : PageId} {buffer : Buffer pageSize} :
    Rests pool (pool.evictCommit pageId victim oldPageId buffer).pool := by
  rw [evictCommit_eq]
  split <;> exact of_update rfl rfl (.of_pinned rfl)

/-- The commit of `new_page` pins the frame of the new page. -/
theorem newCommit {victim : Fin n} {oldPageId : PageId} :
    Rests pool (pool.newCommit pageId victim oldPageId).pool := by
  rw [newCommit_eq]
  split <;> exact of_update rfl rfl (.of_pinned rfl)

end Rests

/-- The section has searched for a victim and reserved it. -/
def Searched (pool pool' : BufferPoolManager n) : Prop :=
  ∃ victim frames, pool.clockReplacer.findVictim pool.frames =
      .ok (victim, pool'.clockReplacer, frames) ∧
    ∀ frameId, (pool'.frames frameId).isEligible = true →
      victim ≠ some frameId ∧ pool'.frames frameId = frames frameId

/-- The search comes closer to every frame that it leaves alone. -/
theorem Searched.distance_lt (h : Searched pool pool')
    (heligible : (pool.frames frameId).isEligible = true)
    (heligible' : (pool'.frames frameId).isEligible = true) :
    pool'.distance frameId < pool.distance frameId := by
  rcases h with ⟨victim, frames, hfind, hframes⟩
  rcases hframes frameId heligible' with ⟨hne, hframe⟩
  have hcloser := ClockReplacer.distance_findVictim hfind heligible hne
  rwa [ClockReplacer.distance, ← hframe] at hcloser

/-- A victim is reserved whatever is done with it next. -/
theorem reserveVictim_pool {victim : Fin n} (h : (pool.frames victim).isReserved = false)
    (whenDirty : PageId → Buffer pageSize → Pc n) (whenClean : PageId → Pc n) :
    (pool.reserveVictim victim whenDirty whenClean).pool =
      pool.setFrame victim { pool.frames victim with state := .reserved } := by
  unfold reserveVictim
  rw [Frame.reserve_eq_ok h]
  dsimp only
  split
  · rfl
  · split_ifs <;> rfl

/-- What a section does after a search. -/
theorem searched_of_found {victim : Option (Fin n)} {clock : ClockReplacer n}
    {frames : Fin n → Frame}
    (hfind : pool.clockReplacer.findVictim pool.frames = .ok (victim, clock, frames))
    (hclock : pool'.clockReplacer = clock)
    (hframes : pool'.frames = victim.elim frames fun found =>
      Function.update frames found { frames found with state := .reserved }) :
    Searched pool pool' := by
  refine ⟨victim, frames, by rw [hfind, hclock], fun frameId heligible => ?_⟩
  rw [hframes] at heligible ⊢
  cases victim with
  | none => exact ⟨by rintro ⟨⟩, rfl⟩
  | some found =>
      rw [Option.elim_some] at heligible ⊢
      have hne : frameId ≠ found := by
        rintro rfl
        rw [Function.update_self] at heligible
        simp [Frame.isEligible, Frame.isReserved] at heligible
      exact ⟨fun heq => hne (Option.some_inj.mp heq).symm, Function.update_of_ne hne ..⟩

/-- The victim of a search is not reserved. -/
theorem exists_findVictim (pool : BufferPoolManager n) :
    ∃ victim clock frames,
      pool.clockReplacer.findVictim pool.frames = .ok (victim, clock, frames) ∧
        ∀ found, victim = some found → (frames found).isReserved = false := by
  rcases pool.clockReplacer.findVictim_spec pool.frames with ⟨victim, clock, frames, hfind, hspec⟩
  refine ⟨victim, clock, frames, hfind, fun found hfound => ?_⟩
  rw [(hspec.sameButReference found).isReserved_eq]
  exact (hspec.victim_spec found hfound).2

/-- A fetch without a free frame searches for a victim. -/
theorem searched_fetchEvict (hclock : pool'.clockReplacer = pool.clockReplacer)
    (hframes : pool'.frames = pool.frames) :
    Searched pool (pool'.fetchEvict pageId).pool := by
  rcases pool.exists_findVictim with ⟨victim, clock, frames, hfind, hreserved⟩
  unfold fetchEvict
  rw [hclock, hframes, hfind]
  dsimp only
  cases victim with
  | none =>
      dsimp only
      split_ifs <;> exact searched_of_found hfind rfl rfl
  | some found =>
      dsimp only
      rw [reserveVictim_pool (by exact hreserved found rfl)]
      exact searched_of_found hfind rfl rfl

/-- The section moves the hand by a search, or not at all. -/
inductive ClockEffect (pool : BufferPoolManager n) (pc : Pc n) (pool' : BufferPoolManager n) : Prop
  | rests (hsearches : pool.searches pc = false) (hrests : Rests pool pool')
  | searches (hsearches : pool.searches pc = true) (hsearched : Searched pool pool')

/-- The decision of a fetch moves the hand when it searches for a victim, and only then. -/
theorem clock_fetchDecide (missRecorded : Bool) :
    ClockEffect pool (.fetchStart pageId missRecorded)
      (pool.fetchDecide callId pageId missRecorded).pool := by
  unfold fetchDecide
  cases htable : pool.pageTable pageId with
  | some frameId => exact .rests (by simp [BufferPoolManager.searches, htable]) (.fetchHit missRecorded)
  | none =>
      rcases recordMissOnce_eq pool missRecorded with ⟨metrics, hmetrics⟩
      dsimp only
      rw [hmetrics]
      unfold fetchMiss
      dsimp only [insertLoad]
      cases hload : pool.inFlightLoads pageId with
      | some waiter =>
          exact .rests (by simp [BufferPoolManager.searches, hload]) (.of_frames_eq rfl rfl)
      | none =>
          dsimp only
          cases hfree : pool.freeFrames with
          | nil =>
              exact .searches (by simp [BufferPoolManager.searches, htable, hload, hfree])
                (searched_fetchEvict rfl rfl)
          | cons freeFrame rest =>
              have hsearches : pool.searches (.fetchStart pageId missRecorded) = false := by
                simp [BufferPoolManager.searches, hfree]
              dsimp only
              cases hreserve : (pool.frames freeFrame).reserve with
              | error e => exact .rests hsearches (.of_frames_eq rfl rfl)
              | ok frame =>
                  exact .rests hsearches
                    (.of_update rfl rfl (.of_metadata (Frame.metadata_reserve hreserve)))

/-- The decision of `new_page` moves the hand when it searches for a victim, and only then. -/
theorem clock_newPage : ClockEffect pool .newStart pool.newPage.pool := by
  unfold newPage
  dsimp only
  by_cases hlt : pool.nextPageId < 65535
  · rw [if_neg (UInt16.not_le.mpr hlt)]
    cases hfree : pool.freeFrames with
    | cons frameId rest =>
        dsimp only
        rw [loadNew_eq_ok]
        exact .rests (by simp [BufferPoolManager.searches, hfree])
          (.of_update rfl rfl (.of_pinned rfl))
    | nil =>
        rcases pool.exists_findVictim with ⟨victim, clock, frames, hfind, hreserved⟩
        refine .searches (by simp [BufferPoolManager.searches, hfree, hlt]) ?_
        dsimp only
        rw [hfind]
        cases victim with
        | none => exact searched_of_found hfind rfl rfl
        | some found =>
            dsimp only
            rw [reserveVictim_pool (by exact hreserved found rfl)]
            exact searched_of_found hfind rfl rfl
  · rw [if_pos (UInt16.not_lt.mp hlt)]
    exact .rests (by simp [BufferPoolManager.searches, hlt]) (.of_frames_eq rfl rfl)

/-- Every section searches, or leaves the hand and sets no bit without a pin. -/
theorem advance_clock (h : pool.advance callId pc io = some next) :
    ClockEffect pool pc next.pool := by
  cases pc with
  | fetchStart pageId missRecorded =>
      cases io <;> cases h
      exact clock_fetchDecide missRecorded
  | fetchCheckLoad =>
      cases io <;> simp only [advance, reduceCtorEq] at h
      split_ifs at h <;> cases h <;> exact .rests rfl (.of_frames_eq rfl rfl)
  | fetchWaitState | fetchWaitLoad | fetchNotify | fetchPublish =>
      cases io <;> cases h
      exact .rests rfl (.of_frames_eq rfl rfl)
  | fetchRead | evictRead | evictWrite | flushWrite | newWrite =>
      rcases io with _ | outcome | outcome | _ <;> cases h
      exact .rests rfl (.of_frames_eq rfl rfl)
  | fetchLoad pageId frameId buffer =>
      cases io <;> cases h
      rw [fetchLoad_eq]
      exact .rests rfl (.of_update rfl rfl (.of_pinned rfl))
  | fetchReadFailed | evictFailed =>
      cases io <;> cases h
      exact .rests rfl (.of_update rfl rfl (.of_metadata rfl))
  | evictCommit =>
      cases io <;> simp only [advance, Option.some_inj, reduceCtorEq] at h
      rw [← h]
      exact .rests rfl .evictCommit
  | unpinStart =>
      cases io <;> cases h
      exact .rests rfl (.changeResident fun _ _ => .of_unpin)
  | markDirtyStart =>
      cases io <;> cases h
      exact .rests rfl (.changeResident fun _ _ hmark => .of_updateMeta hmark fun _ => rfl)
  | flushStart =>
      cases io <;> cases h
      exact .rests rfl .flushPage
  | deleteStart =>
      cases io <;> cases h
      exact .rests rfl .deletePage
  | flushCheck =>
      cases io <;> cases h
      exact .rests rfl .flushCheck
  | flushFinish =>
      cases io <;> cases h
      exact .rests rfl .flushFinish
  | flushRelease | deleteRollback | newRollback =>
      cases io <;> cases h
      exact .rests rfl (.releaseFrame _)
  | deleteFinish =>
      cases io <;> cases h
      exact .rests rfl .dropPage
  | newStart =>
      cases io <;> cases h
      exact clock_newPage
  | newCommit =>
      cases io <;> simp only [advance, Option.some_inj, reduceCtorEq] at h
      rw [← h]
      exact .rests rfl .newCommit
  | returned => cases io <;> cases h

end BufferPoolManager

/-! ## Runs -/

namespace System

variable {s s' : System n} {e : Event} {frameId : Fin n}

/-- The frame is neither pinned nor reserved. -/
def Spare (frameId : Fin n) (s : System n) : Prop := (s.pool.frames frameId).isEligible = true

instance (frameId : Fin n) (s : System n) : Decidable (s.Spare frameId) :=
  inferInstanceAs (Decidable ((s.pool.frames frameId).isEligible = true))

/-- The event is a section that searches for a victim. -/
def searchesVictim (s : System n) : Event → Bool
  | .start _ _ _ => false
  | .proceed callId _ => (s.pcs callId).any s.pool.searches

/-- A step that searches brings CLOCK closer to a frame that stays spare, and other steps do
not lead away from it. -/
theorem distance_step (hspare : s.Spare frameId) (hspare' : s'.Spare frameId)
    (hstep : s.Step e s') :
    if s.searchesVictim e then s'.pool.distance frameId < s.pool.distance frameId
    else s'.pool.distance frameId ≤ s.pool.distance frameId := by
  rcases step_cases hstep with ⟨client, call, releases, rfl, rfl⟩ |
    ⟨callId, io, activity, next, rfl, hactivity, hnext, rfl⟩
  · rcases record_eq s.pool call with ⟨metrics, hmetrics⟩
    rw [searchesVictim, if_neg Bool.false_ne_true, launch, hmetrics]
    exact le_rfl
  · have hsearches : s.searchesVictim (.proceed callId io) = s.pool.searches activity.pc := by
      rw [searchesVictim, pcs_eq_some hactivity, Option.any_some]
    rw [hsearches]
    cases advance_clock hnext with
    | rests hnone hrests =>
        rw [hnone, if_neg Bool.false_ne_true]
        exact hrests.distance_le hspare'
    | searches hsome hsearched =>
        rw [hsome, if_pos rfl]
        exact hsearched.distance_lt hspare hspare'

end System

/-- In every run of every system, a frame that is neither pinned nor reserved in any state
survives fewer than `2 n` searches for a victim: CLOCK gives a second chance, and no third
one. -/
theorem victim_within_two_rounds (frameId : Fin n) {s : System n} {path : List (Event × System n)}
    (hpath : IsPath System.Step s path)
    (hspare : EveryState (System.Spare frameId) s path) :
    countSteps System.searchesVictim s path < 2 * n := by
  have hcount := hpath.countSteps_add_le System.searchesVictim (fun s => s.pool.distance frameId)
    hspare
    (fun s e s' h h' hstep hsearches => by
      have hdistance := System.distance_step h h' hstep
      rwa [hsearches, if_pos rfl] at hdistance)
    fun s e s' h h' hstep hrests => by
      have hdistance := System.distance_step h h' hstep
      rwa [hrests, if_neg Bool.false_ne_true] at hdistance
  have hlt := s.pool.clockReplacer.distance_lt s.pool.frames frameId
  exact (Nat.le_of_add_right_le hcount).trans_lt hlt

/-- A pool of two frames after two calls of `new_page`, each followed by `unpin_page`. -/
def afterTwoNewPages : System 2 :=
  lastState (System.new 2 []) (follow System.step (System.new 2 [])
    [.start 0 .newPage none, .proceed 0 .none, .start 0 (.unpinPage 0) (some 0), .proceed 1 .none,
      .start 0 .newPage none, .proceed 2 .none, .start 0 (.unpinPage 1) (some 2), .proceed 3 .none])

/-- A fetch of a third page takes the bits of both frames and evicts the first page. -/
def fetchThirdPage : List Event :=
  [.start 0 (.fetchPage 7) none, .proceed 4 .none, .proceed 4 (.write .ok),
    .proceed 4 (.read (.ok fun _ => 4096)), .proceed 4 .none, .proceed 4 .none]

/-- The other frame survives this search. -/
theorem victim_within_two_rounds_fetchThirdPage :
    countSteps System.searchesVictim afterTwoNewPages
        (follow System.step afterTwoNewPages fetchThirdPage) = 1 ∧
      countSteps System.searchesVictim afterTwoNewPages
        (follow System.step afterTwoNewPages fetchThirdPage) < 2 * 2 :=
  ⟨by decide +kernel, victim_within_two_rounds 1 (isPath_follow System.step _ _)
    (EveryStep.everyState (H := System.Spare 1) (by decide +kernel) (by decide +kernel))⟩

end Storage
end TaskPool
