import TaskPool.Storage.BufferPool.Wakeup

/-!
# No frame is lost

Concurrent calls of all kinds take frames and give them back while the disk may fail at any
time.  A `delete_page` whose write fails restores its frame twice, first in
`flush_reserved_frame` and then once more under `state_lock`; a section of another call in
between may take the frame.  Apart from this, every frame is at every moment on the free
list, in the hand of one call, or in use.

Main results:

- Definition `System.restoresApart`: no section falls between the two.
- Theorem `no_frame_lost`: then every frame is accounted for in every state, and the frames
  are partitioned whenever all calls have returned.
-/

namespace TaskPool
namespace Storage

open BufferPoolManager Library

variable {n : Nat}

/-- The call has restored its frame and is about to restore it once more. -/
def Pc.restoresAgain : Pc n → Bool
  | .deleteRollback _ _ _ => true
  | _ => false

namespace System

variable {s s' : System n} {e : Event}

/-- No other call is about to restore its frame once more. -/
def restoresApart (s : System n) : Event → Bool
  | .start _ _ _ => true
  | .proceed callId _ => (List.range s.nextCall).all fun other =>
      other = callId || !(s.pcs other).any Pc.restoresAgain

/-- The free list and the frames that calls have in hand account for the frames of the
pool; when all calls have returned, only the free list and the frames in use are left. -/
structure Accounted (s : System n) : Prop where
  parted : Parted s.pool s.hands
  partitioned : (∀ callId pc, s.pcs callId = some pc → pc.isReturned = true) →
    s.pool.Partitioned

/-- When the frames are parted, all of them are accounted for. -/
theorem accounted_of_parted (h : Parted s.pool s.hands) : s.Accounted where
  parted := h
  partitioned := by
    intro hreturned
    have hempty : s.hands = fun _ => none := by
      ext1 callId
      cases hpc : s.pcs callId with
      | none => rw [hands, hpc, Option.bind_none]
      | some pc =>
          have hend := hreturned callId pc hpc
          rw [hands, hpc, Option.bind_some]
          cases pc <;> first
            | rfl
            | cases hend
    rw [hempty] at h
    exact partitioned_iff.mpr h

/-- A step keeps the frames apart, if no other call restores its frame again. -/
theorem parted_step (hnumbered : s.Numbered) (h : Parted s.pool s.hands) (hstep : s.Step e s')
    (hapart : s.restoresApart e = true) : Parted s'.pool s'.hands := by
  rcases step_cases hstep with ⟨client, call, releases, rfl, rfl⟩ |
    ⟨callId, io, activity, next, rfl, hactivity, hnext, rfl⟩
  · rcases record_eq s.pool call with ⟨metrics, hmetrics⟩
    rw [hands_launch hnumbered, launch, hmetrics]
    exact h.keep (fun _ => Frame.SameButReference.refl _) rfl rfl
  · rw [hands_resume]
    refine h.advance (hands_eq hactivity) ?_ hnext
    intro other frameId hne hrestored
    rcases Option.bind_eq_some_iff.mp hrestored with ⟨pc, hpc, hgrip⟩
    have hother := List.all_eq_true.mp hapart other (List.mem_range.mpr (hnumbered other pc hpc))
    rw [hpc, Option.any_some, decide_eq_false hne, Bool.false_or] at hother
    cases pc with
    | deleteRollback => cases hother
    | _ => cases hgrip

end System

/-- In every interleaving of any calls, whatever the disk does, in which no section of
another call falls between the two in which a `delete_page` restores its frame: every frame
is on the free list, in the hand of one call or in use, and none is left behind when all
calls have returned. -/
theorem no_frame_lost (n : Nat) (file : List UInt8) {path : List (Event × System n)}
    (hpath : IsPath System.Step (System.new n file) path)
    (hapart : EveryStep (fun s e _ => s.restoresApart e = true) (System.new n file) path) :
    EveryState System.Accounted (System.new n file) path := by
  have hparted : EveryState (fun s : System n => s.Numbered ∧ Parted s.pool s.hands)
      (System.new n file) path := by
    refine hpath.everyState hapart
      ⟨System.new_numbered n file, partitioned_iff.mp (new_partitioned n file)⟩ ?_
    intro s e s' h hstep hapart
    exact ⟨h.1.step hstep, System.parted_step h.1 h.2 hstep hapart⟩
  exact hparted.imp fun _ h => System.accounted_of_parted h.2

/-- One client creates a page and gives it back; another one deletes it and meets a disk
failure, while the first one creates a second page. -/
def deleteFailsMeanwhile : List Event :=
  [.start 0 .newPage none, .proceed 0 .none, .start 0 (.unpinPage 0) (some 0), .proceed 1 .none,
    .start 1 (.deletePage 0) none, .proceed 2 .none, .start 0 .newPage none, .proceed 2 .none,
    .proceed 2 (.write (.fail ⟨.other, "disk full"⟩ [])), .proceed 3 .none,
    .proceed 2 .none, .proceed 2 .none]

/-- No frame is lost while the deletion fails. -/
theorem no_frame_lost_deleteFailsMeanwhile :
    (follow System.step (System.new 1 []) deleteFailsMeanwhile).length = 12 ∧
      EveryState System.Accounted (System.new 1 [])
        (follow System.step (System.new 1 []) deleteFailsMeanwhile) := by
  have hcheck : (follow System.step (System.new 1 []) deleteFailsMeanwhile).length = 12 ∧
      EveryStep (fun s e _ => s.restoresApart e = true) (System.new 1 [])
        (follow System.step (System.new 1 []) deleteFailsMeanwhile) := by
    decide +kernel
  exact ⟨hcheck.1, no_frame_lost 1 [] (isPath_follow System.step _ deleteFailsMeanwhile) hcheck.2⟩

end Storage
end TaskPool
