import Mathlib.Algebra.BigOperators.Intervals
import Mathlib.Algebra.Order.BigOperators.Group.Finset
import TaskPool.Library.Potential
import TaskPool.Storage.BufferPool.Sections
import TaskPool.Storage.BufferPool.SharedView

/-!
# What a hit costs

A fetch that finds its page leaves the disk alone.  A fetch that does not find it records a
miss once, however often it goes around its loop, and this miss pays for at most one write
of a victim and one read of the page.  The other calls never read; `flush_page`,
`delete_page` and `new_page` write at most once.

Main results:

- Definitions `Pc.readsLeft` and `Pc.writesLeft`: the disk accesses that are paid and still
  to come.
- Theorem `Pays.advance`: every section of every call spends at most what is paid.
- Theorem `System.countSteps_eq_sum`: the steps of a run are those of its calls.
- Theorem `disk_accesses_paid`: reads and writes against misses, of every call and of a run.
-/

namespace TaskPool
namespace Storage

open BufferPoolManager Library

variable {n : Nat}

/-- The section reads a page from the disk. -/
def Pc.reads : Pc n → Bool
  | .fetchRead _ _ => true
  | .evictRead _ _ _ => true
  | _ => false

/-- The reads of the disk that a call has paid for and not made. -/
def Pc.readsLeft : Pc n → Nat
  | .fetchStart _ missRecorded => missRecorded.toNat
  | .fetchWaitState _ missRecorded _ => missRecorded.toNat
  | .fetchCheckLoad _ _ | .fetchWaitLoad _ _ _ => 1
  | .fetchRead _ _ | .evictWrite _ _ _ _ | .evictRead _ _ _ => 1
  | _ => 0

/-- The writes to the disk that a call has paid for and not made. -/
def Pc.writesLeft : Pc n → Nat
  | .fetchStart _ missRecorded => missRecorded.toNat
  | .fetchWaitState _ missRecorded _ => missRecorded.toNat
  | .fetchCheckLoad _ _ | .fetchWaitLoad _ _ _ | .evictWrite _ _ _ _ => 1
  | .flushStart _ | .deleteStart _ | .flushCheck _ _ _ | .flushWrite _ _ _ _ _ => 1
  | .newStart | .newWrite _ _ _ _ => 1
  | _ => 0

/-- The misses that a call may still record. -/
def Pc.missesLeft : Pc n → Nat
  | .fetchStart _ missRecorded => (!missRecorded).toNat
  | .fetchWaitState _ missRecorded _ => (!missRecorded).toNat
  | _ => 0

/-- A section records a miss or does not, and spends at most what is paid. -/
structure Pays (pool : BufferPoolManager n) (pc : Pc n) (next : Next n) (missed : Bool) : Prop where
  misses_eq : next.pool.metrics.cacheMisses =
    pool.metrics.cacheMisses + UInt64.ofNat missed.toNat
  reads_le : pc.reads.toNat + next.pc.readsLeft ≤ pc.readsLeft + missed.toNat
  writes_le : pc.writes.isSome.toNat + next.pc.writesLeft ≤ pc.writesLeft + missed.toNat
  once : missed.toNat + next.pc.missesLeft ≤ pc.missesLeft

/-! ## The sections -/

/-- After `flush_reserved_frame` a call leaves the disk alone. -/
theorem Pc.left_of_afterFlush {pc : Pc n} (h : pc.afterFlush = true) :
    pc.readsLeft = 0 ∧ pc.writesLeft = 0 ∧ pc.missesLeft = 0 := by
  cases pc <;> first
    | exact ⟨rfl, rfl, rfl⟩
    | cases h

/-- After its load a fetch leaves the disk alone. -/
theorem Pc.left_of_over {pc : Pc n} (h : pc.over = true) :
    pc.readsLeft = 0 ∧ pc.writesLeft = 0 ∧ pc.missesLeft = 0 := by
  cases pc <;> first
    | exact ⟨rfl, rfl, rfl⟩
    | cases h

/-- A fetch that has made an entry writes once and reads once at most, and has recorded its
miss. -/
theorem Pc.Begun.left_le {pc : Pc n} {pageId : PageId} (h : pc.Begun pageId) :
    pc.readsLeft ≤ 1 ∧ pc.writesLeft ≤ 1 ∧ pc.missesLeft = 0 := by
  cases pc with
  | fetchRead | evictRead => exact ⟨Nat.le_refl 1, Nat.zero_le 1, rfl⟩
  | evictWrite => exact ⟨Nat.le_refl 1, Nat.le_refl 1, rfl⟩
  | returned => exact ⟨Nat.zero_le 1, Nat.zero_le 1, rfl⟩
  | fetchWaitState page missRecorded notified =>
      obtain ⟨-, rfl, -⟩ := h
      exact ⟨Nat.le_refl 1, Nat.le_refl 1, rfl⟩
  | _ => cases h

/-- A load that ends has left the disk alone. -/
theorem Pc.accesses_of_ends {pc : Pc n} {pageId : PageId} (h : pc.ends = some pageId) :
    pc.reads = false ∧ pc.writes = none := by
  cases pc <;> first
    | exact ⟨rfl, rfl⟩
    | cases h

/-- Sections that follow each other spend what is left. -/
theorem Pc.Follows.left_le {pc pc' : Pc n} (h : pc.Follows pc') :
    pc.reads.toNat + pc'.readsLeft ≤ pc.readsLeft ∧
      pc.writes.isSome.toNat + pc'.writesLeft ≤ pc.writesLeft ∧ pc'.missesLeft = 0 := by
  cases h with
  | flushCheckReturns hpc' | flushFinish hpc' =>
      rcases Pc.left_of_afterFlush hpc' with ⟨hreads, hwrites, hmisses⟩
      rw [hreads, hwrites]
      exact ⟨Nat.zero_le _, Nat.zero_le _, hmisses⟩
  | fetchStart => exact ⟨Nat.zero_le _, Nat.zero_le _, rfl⟩
  | _ => exact ⟨Nat.le_of_ble_eq_true rfl, Nat.le_of_ble_eq_true rfl, rfl⟩

namespace Pays

variable {callId : CallId} {pool : BufferPoolManager n} {pc : Pc n} {io : Io} {next : Next n}
  {pageId : PageId}

/-- A section that records no miss. -/
theorem spends (hmisses : next.pool.metrics.cacheMisses = pool.metrics.cacheMisses)
    (hreads : pc.reads.toNat + next.pc.readsLeft ≤ pc.readsLeft)
    (hwrites : pc.writes.isSome.toNat + next.pc.writesLeft ≤ pc.writesLeft)
    (honce : next.pc.missesLeft ≤ pc.missesLeft) : Pays pool pc next false where
  misses_eq := hmisses.trans (UInt64.add_zero _).symm
  reads_le := hreads
  writes_le := hwrites
  once := (Nat.zero_add _).trans_le honce

/-- A fetch that does not find its page records a miss, unless it has done so. -/
theorem earns {missRecorded : Bool} (hmissed : Missed pool missRecorded next)
    (hleft : next.pc.readsLeft ≤ 1 ∧ next.pc.writesLeft ≤ 1 ∧ next.pc.missesLeft = 0) :
    Pays pool (.fetchStart pageId missRecorded) next !missRecorded where
  misses_eq := by
    rw [hmissed]
    cases missRecorded with
    | true => exact (UInt64.add_zero _).symm
    | false => rfl
  reads_le := by cases missRecorded <;> exact (Nat.zero_add _).trans_le hleft.1
  writes_le := by cases missRecorded <;> exact (Nat.zero_add _).trans_le hleft.2.1
  once := (congrArg (_ + ·) hleft.2.2).le

/-- Every section of a call pays for its disk accesses. -/
theorem of_section (hsection : Section callId pool pc next) :
    ∃ missed, Pays pool pc next missed := by
  cases hsection with
  | straight hpc hquiet =>
      obtain ⟨hreads, hwrites, hmisses⟩ := hpc.left_le
      exact ⟨false, spends hquiet.misses_eq hreads hwrites (hmisses.trans_le (Nat.zero_le _))⟩
  | waits hpc hquiet =>
      refine ⟨false, spends hquiet.misses_eq ?_ ?_ ?_⟩ <;> rw [hpc]
      · exact (Nat.zero_add _).le
      · exact (Nat.zero_add _).le
      · exact Nat.le_refl _
  | joins _ hpc _ hmissed =>
      exact ⟨_, earns hmissed (hpc ▸ ⟨Nat.le_refl 1, Nat.le_refl 1, rfl⟩)⟩
  | begins _ hpc _ hmissed => exact ⟨_, earns hmissed hpc.left_le⟩
  | fails _ hpc _ hmissed =>
      exact ⟨_, earns hmissed (hpc ▸ ⟨Nat.zero_le 1, Nat.zero_le 1, rfl⟩)⟩
  | ends hends hpc _ hmisses =>
      rcases Pc.left_of_over hpc with ⟨hreads, hwrites, hmissesLeft⟩
      refine ⟨false, spends hmisses ?_ ?_ (hmissesLeft.trans_le (Nat.zero_le _))⟩
      · rw [(Pc.accesses_of_ends hends).1, hreads]
        exact Nat.zero_le _
      · rw [(Pc.accesses_of_ends hends).2, hwrites]
        exact Nat.zero_le _
  | wakes =>
      exact ⟨false, spends rfl (Nat.zero_add _).le (Nat.zero_add _).le (Nat.le_refl _)⟩
  | wakesToCheck | sleeps | retries | notifies =>
      exact ⟨false, spends rfl (Nat.le_of_ble_eq_true rfl) (Nat.le_of_ble_eq_true rfl)
        (Nat.le_of_ble_eq_true rfl)⟩

/-- Every section spends at most what is paid. -/
theorem advance (hnext : pool.advance callId pc io = some next) :
    ∃ missed, Pays pool pc next missed :=
  of_section (.advance hnext)

end Pays

/-! ## Every interleaving -/

/-- A signal pays for no read. -/
@[simp] theorem Pc.readsLeft_receive (signal : Signal) (pc : Pc n) :
    (pc.receive signal).readsLeft = pc.readsLeft := by
  cases pc <;> rfl

/-- A signal pays for no write. -/
@[simp] theorem Pc.writesLeft_receive (signal : Signal) (pc : Pc n) :
    (pc.receive signal).writesLeft = pc.writesLeft := by
  cases pc <;> rfl

/-- A signal records no miss. -/
@[simp] theorem Pc.missesLeft_receive (signal : Signal) (pc : Pc n) :
    (pc.receive signal).missesLeft = pc.missesLeft := by
  cases pc <;> rfl

namespace System

variable {s s' : System n} {e : Event} {callId : CallId} {activity : Activity n} {next : Next n}

/-- The step reads a page from the disk. -/
def readsDisk (s : System n) : Event → Bool
  | .start _ _ _ => false
  | .proceed callId _ => (s.pcs callId).any Pc.reads

/-- The step writes a page to the disk. -/
def writesDisk (s : System n) : Event → Bool
  | .start _ _ _ => false
  | .proceed callId _ => (s.pcs callId).any fun pc => pc.writes.isSome

/-- The step starts a `flush_page`, a `delete_page` or a `new_page`. -/
def startsWriter (_ : System n) : Event → Bool
  | .start _ (.flushPage _) _ | .start _ (.deletePage _) _ | .start _ .newPage _ => true
  | _ => false

/-- The step records a miss: it changes the counter. -/
def recordsMiss (s : System n) (e : Event) : Bool :=
  (s.step e).any fun s' => s'.pool.metrics.cacheMisses != s.pool.metrics.cacheMisses

/-- The call that a step starts, or runs a section of. -/
def actor (s : System n) : Event → CallId
  | .start _ _ _ => s.nextCall
  | .proceed callId _ => callId

/-- The step is one of the call, and of the kind. -/
def ofCall (callId : CallId) (kind : System n → Event → Bool) (s : System n) (e : Event) : Bool :=
  s.actor e == callId && kind s e

/-- The number of misses. -/
def misses (s : System n) : Nat := s.pool.metrics.cacheMisses.toNat

/-- What a call has left, before and after it has started. -/
def leftOf (callId : CallId) (unstarted : Nat) (left : Pc n → Nat) (s : System n) : Nat :=
  (s.pcs callId).elim unstarted left

/-- What a step spends of what one call has, and what it earns for it. -/
structure Balances (callId : CallId) (s : System n) (e : Event) (s' : System n) : Prop where
  reads_le : (ofCall callId readsDisk s e).toNat + s'.leftOf callId 0 Pc.readsLeft ≤
    s.leftOf callId 0 Pc.readsLeft + (ofCall callId recordsMiss s e).toNat
  writes_le : (ofCall callId writesDisk s e).toNat + s'.leftOf callId 0 Pc.writesLeft ≤
    s.leftOf callId 0 Pc.writesLeft +
      (ofCall callId (fun s e => s.recordsMiss e || s.startsWriter e) s e).toNat
  misses_le : (ofCall callId recordsMiss s e).toNat + s'.leftOf callId 1 Pc.missesLeft ≤
    s.leftOf callId 1 Pc.missesLeft

/-- A step of another call leaves a call what it has. -/
theorem Balances.of_ne (hne : s.actor e ≠ callId)
    (hleft : ∀ unstarted left, left = Pc.readsLeft ∨ left = Pc.writesLeft ∨ left = Pc.missesLeft →
      s'.leftOf callId unstarted left = s.leftOf callId unstarted left) :
    Balances callId s e s' := by
  have hother : ∀ kind, ofCall callId kind s e = false := by
    intro kind
    rw [ofCall, beq_false_of_ne hne, Bool.false_and]
  refine ⟨?_, ?_, ?_⟩
  · rw [hother, hother, hleft 0 _ (.inl rfl)]
    exact (Nat.zero_add _).le
  · rw [hother, hother, hleft 0 _ (.inr (.inl rfl))]
    exact (Nat.zero_add _).le
  · rw [hother, hleft 1 _ (.inr (.inr rfl))]
    exact (Nat.zero_add _).le

/-- The kind of a step of the call itself. -/
theorem ofCall_self {kind : System n → Event → Bool} (h : s.actor e = callId) :
    ofCall callId kind s e = kind s e := by
  rw [ofCall, h, beq_self_eq_true, Bool.true_and]

/-- Starting a call records no miss. -/
theorem recordsMiss_start (s : System n) (client : Nat) (call : Call) (releases : Option CallId) :
    s.recordsMiss (.start client call releases) = false := by
  cases call <;> exact bne_self_eq_false _

/-- A section records a miss when it says so. -/
theorem recordsMiss_proceed {io : Io} {missed : Bool} (hactivity : s.calls callId = some activity)
    (hnext : s.pool.advance callId activity.pc io = some next)
    (hpays : Pays s.pool activity.pc next missed) : s.recordsMiss (.proceed callId io) = missed := by
  have hstep : s.step (.proceed callId io) = some (s.resume callId activity next) := by
    rw [step, hactivity, Option.bind_eq_bind, Option.bind_some, hnext, Option.bind_eq_bind,
      Option.bind_some]
  rw [recordsMiss, hstep, Option.any_some, show (s.resume callId activity next).pool = next.pool
    from rfl, hpays.misses_eq]
  cases missed with
  | true => simp
  | false => exact (congrArg (· != _) (UInt64.add_zero _)).trans (bne_self_eq_false _)

/-- Starting a call pays for its write. -/
theorem balances_launch (hnumbered : s.Numbered) (client : Nat) (call : Call)
    (releases : Option CallId) (callId : CallId) :
    Balances callId s (.start client call releases) (s.launch client call releases) := by
  by_cases hself : s.actor (.start client call releases) = callId
  · have hbefore : s.pcs callId = none := hself ▸ hnumbered.pcs_nextCall
    have hafter : (s.launch client call releases).pcs callId = some call.entry := by
      rw [pcs_launch, ← hself]
      exact Function.update_self ..
    refine ⟨?_, ?_, ?_⟩
    · rw [ofCall_self hself, ofCall_self hself, recordsMiss_start, leftOf, leftOf, hbefore, hafter]
      cases call <;> exact Nat.le_refl 0
    · rw [ofCall_self hself, ofCall_self hself, recordsMiss_start, leftOf, leftOf, hbefore, hafter]
      cases call <;> exact Nat.le_of_ble_eq_true rfl
    · rw [ofCall_self hself, recordsMiss_start, leftOf, leftOf, hbefore, hafter]
      cases call <;> exact Nat.le_of_ble_eq_true rfl
  · have hne : callId ≠ s.nextCall := fun heq => hself heq.symm
    refine .of_ne hself fun unstarted left _ => ?_
    rw [leftOf, pcs_launch, Function.update_of_ne hne]
    rfl

/-- A section spends what is left of its call, or records a miss. -/
theorem balances_resume {io : Io} {caller : CallId} (hactivity : s.calls caller = some activity)
    (hnext : s.pool.advance caller activity.pc io = some next) (callId : CallId) :
    Balances callId s (.proceed caller io) (s.resume caller activity next) := by
  by_cases heq : caller = callId
  · subst heq
    have hself : s.actor (.proceed caller io) = caller := rfl
    obtain ⟨missed, hpays⟩ := Pays.advance hnext
    have hmisses := recordsMiss_proceed hactivity hnext hpays
    have hbefore := pcs_eq_some hactivity
    have hafter := pcs_resume_self s caller activity next
    refine ⟨?_, ?_, ?_⟩
    · rw [ofCall_self hself, ofCall_self hself, hmisses, leftOf, leftOf, hbefore, hafter,
        readsDisk, hbefore]
      simpa using hpays.reads_le
    · have hstarts : s.startsWriter (.proceed caller io) = false := rfl
      rw [ofCall_self hself, ofCall_self hself, hmisses, hstarts, Bool.or_false, leftOf, leftOf,
        hbefore, hafter, writesDisk, hbefore]
      simpa using hpays.writes_le
    · rw [ofCall_self hself, hmisses, leftOf, leftOf, hbefore, hafter]
      simpa using hpays.once
  · refine .of_ne heq fun unstarted left hleft => ?_
    have hreceive : ∀ pc, left (Pc.receive next.signal pc) = left pc := by
      rcases hleft with rfl | rfl | rfl <;> simp
    rw [leftOf, leftOf, pcs_resume, Function.update_of_ne (Ne.symm heq)]
    cases s.pcs callId with
    | none => rfl
    | some pc => exact hreceive pc

/-- Every step is paid for, call by call. -/
theorem balances_step (hnumbered : s.Numbered) (hstep : s.Step e s') (callId : CallId) :
    Balances callId s e s' := by
  rcases step_cases hstep with ⟨client, call, releases, rfl, rfl⟩ |
    ⟨caller, io, activity, next, rfl, hactivity, hnext, rfl⟩
  · exact balances_launch hnumbered client call releases callId
  · exact balances_resume hactivity hnext callId

/-! ### From calls to runs -/

/-- A step counts one miss exactly when it records one. -/
theorem misses_step (hstep : s.Step e s') (hfits : s.misses + 1 < 2 ^ 64) :
    s'.misses = s.misses + (s.recordsMiss e).toNat := by
  rcases step_cases hstep with ⟨client, call, releases, rfl, rfl⟩ |
    ⟨callId, io, activity, next, rfl, hactivity, hnext, rfl⟩
  · rw [recordsMiss_start]
    cases call <;> rfl
  · obtain ⟨missed, hpays⟩ := Pays.advance hnext
    have hle : missed.toNat ≤ 1 := missed.toNat_le
    have hearned : (UInt64.ofNat missed.toNat).toNat = missed.toNat := by cases missed <;> rfl
    rw [misses] at hfits
    rw [recordsMiss_proceed hactivity hnext hpays, misses, misses,
      show (s.resume callId activity next).pool = next.pool from rfl, hpays.misses_eq,
      UInt64.toNat_add, hearned, Nat.mod_eq_of_lt (by omega)]

/-- The counter of a run counts the steps that record a miss. -/
theorem misses_path {path : List (Event × System n)} (hpath : IsPath System.Step s path)
    (hfits : s.misses + path.length < 2 ^ 64) :
    (lastState s path).misses = s.misses + countSteps recordsMiss s path := by
  induction path generalizing s with
  | nil => rfl
  | cons move path ih =>
      rcases move with ⟨e, s'⟩
      rw [List.length_cons] at hfits
      have hstep := misses_step hpath.1 (by omega)
      have hle : (s.recordsMiss e).toNat ≤ 1 := Bool.toNat_le _
      rw [lastState, ih hpath.2 (by omega), countSteps_cons, hstep, Nat.add_assoc]

/-- No step lowers the number of calls, and it is above the call of the step. -/
theorem actor_lt (hnumbered : s.Numbered) (hstep : s.Step e s') :
    s.actor e < s'.nextCall ∧ s.nextCall ≤ s'.nextCall := by
  rcases step_cases hstep with ⟨client, call, releases, rfl, rfl⟩ |
    ⟨callId, io, activity, next, rfl, hactivity, -, rfl⟩
  · exact ⟨Nat.lt_succ_self _, Nat.le_succ _⟩
  · exact ⟨hnumbered callId activity.pc (pcs_eq_some hactivity), Nat.le_refl _⟩

/-- The number of calls at the end of a run is the largest one. -/
theorem nextCall_le_lastState {path : List (Event × System n)} (hnumbered : s.Numbered)
    (hpath : IsPath System.Step s path) : s.nextCall ≤ (lastState s path).nextCall := by
  induction path generalizing s with
  | nil => exact Nat.le_refl _
  | cons move path ih =>
      exact (actor_lt hnumbered hpath.1).2.trans (ih (hnumbered.step hpath.1) hpath.2)

/-- The steps of a run are those of its calls. -/
theorem countSteps_eq_sum (kind : System n → Event → Bool) {path : List (Event × System n)}
    (hnumbered : s.Numbered) (hpath : IsPath System.Step s path) {calls : Nat}
    (hcalls : (lastState s path).nextCall ≤ calls) :
    countSteps kind s path = ∑ callId ∈ Finset.range calls, countSteps (ofCall callId kind) s path := by
  induction path generalizing s with
  | nil => exact Finset.sum_const_zero.symm
  | cons move path ih =>
      rcases move with ⟨e, s'⟩
      have hnumbered' := hnumbered.step hpath.1
      have hlt := (actor_lt hnumbered hpath.1).1
      have hle := nextCall_le_lastState hnumbered' hpath.2
      have hfirst : ∑ callId ∈ Finset.range calls, (ofCall callId kind s e).toNat =
          (kind s e).toNat := by
        rw [Finset.sum_eq_single (s.actor e), ofCall_self rfl]
        · intro callId _ hne
          rw [ofCall, beq_false_of_ne hne.symm, Bool.false_and]
          rfl
        · intro habsent
          refine absurd (Finset.mem_range.mpr ?_) habsent
          exact hlt.trans_le (hle.trans hcalls)
      simp only [countSteps_cons]
      rw [Finset.sum_add_distrib, hfirst, ih hnumbered' hpath.2 hcalls]

/-- What one call spends and earns in a run in which it starts. -/
theorem balances_path (callId : CallId) {path : List (Event × System n)} (hnumbered : s.Numbered)
    (hunstarted : s.pcs callId = none) (hpath : IsPath System.Step s path) :
    countSteps (ofCall callId recordsMiss) s path ≤ 1 ∧
      countSteps (ofCall callId readsDisk) s path ≤
        countSteps (ofCall callId recordsMiss) s path ∧
      countSteps (ofCall callId writesDisk) s path ≤
        countSteps (ofCall callId fun s e => s.recordsMiss e || s.startsWriter e) s path := by
  have hstates : EveryState Numbered s path :=
    hpath.invariant hnumbered fun _ _ _ => Numbered.step
  have hmisses := hpath.countSteps_add_le_add (ofCall callId recordsMiss) (fun _ _ => false)
    (leftOf callId 1 Pc.missesLeft) hstates fun _ _ _ h hstep =>
      (balances_step h hstep callId).misses_le
  have hreads := hpath.countSteps_add_le_add (ofCall callId readsDisk) (ofCall callId recordsMiss)
    (leftOf callId 0 Pc.readsLeft) hstates fun _ _ _ h hstep =>
      (balances_step h hstep callId).reads_le
  have hwrites := hpath.countSteps_add_le_add (ofCall callId writesDisk)
    (ofCall callId fun s e => s.recordsMiss e || s.startsWriter e)
    (leftOf callId 0 Pc.writesLeft) hstates fun _ _ _ h hstep =>
      (balances_step h hstep callId).writes_le
  have hnothing : ∀ unstarted left, s.leftOf callId unstarted left = unstarted := by
    intro unstarted left
    rw [leftOf, hunstarted, Option.elim_none]
  rw [hnothing] at hmisses hreads hwrites
  rw [countSteps_false] at hmisses
  omega

end System

/-- In every interleaving of any calls on a new pool, whatever the disk does: every call
records one miss at most; it reads the disk only as often as it has recorded a miss, and
writes it only as often as it has recorded a miss or was started as a `flush_page`, a
`delete_page` or a `new_page`.  In fewer than `2 ^ 64` steps the disk is read at most as
often as misses are counted, and written at most as often as misses are counted and such
calls were started. -/
theorem disk_accesses_paid (n : Nat) (file : List UInt8) {path : List (Event × System n)}
    (hpath : IsPath System.Step (System.new n file) path) :
    (∀ callId, countSteps (System.ofCall callId System.recordsMiss) (System.new n file) path ≤ 1 ∧
      countSteps (System.ofCall callId System.readsDisk) (System.new n file) path ≤
        countSteps (System.ofCall callId System.recordsMiss) (System.new n file) path ∧
      countSteps (System.ofCall callId System.writesDisk) (System.new n file) path ≤
        countSteps (System.ofCall callId fun s e => s.recordsMiss e || s.startsWriter e)
          (System.new n file) path) ∧
    (path.length < 2 ^ 64 →
      countSteps System.readsDisk (System.new n file) path ≤
        (lastState (System.new n file) path).pool.metrics.cacheMisses.toNat ∧
      countSteps System.writesDisk (System.new n file) path ≤
        (lastState (System.new n file) path).pool.metrics.cacheMisses.toNat +
          countSteps System.startsWriter (System.new n file) path) := by
  have hnumbered := System.new_numbered n file
  have hcalls := fun callId => System.balances_path callId hnumbered rfl hpath
  refine ⟨hcalls, fun hlength => ?_⟩
  have hmisses : (lastState (System.new n file) path).pool.metrics.cacheMisses.toNat =
      countSteps System.recordsMiss (System.new n file) path :=
    (System.misses_path hpath ((Nat.zero_add _).trans_lt hlength)).trans (Nat.zero_add _)
  rw [hmisses]
  constructor
  · rw [System.countSteps_eq_sum _ hnumbered hpath le_rfl,
      System.countSteps_eq_sum _ hnumbered hpath le_rfl]
    exact Finset.sum_le_sum fun callId _ => (hcalls callId).2.1
  · refine le_trans ?_ (countSteps_or_le ..)
    rw [System.countSteps_eq_sum _ hnumbered hpath le_rfl,
      System.countSteps_eq_sum _ hnumbered hpath le_rfl]
    exact Finset.sum_le_sum fun callId _ => (hcalls callId).2.2

/-- A new page makes room for another one, which is then fetched again. -/
def fetchAfterNew : List Event :=
  [.start 0 .newPage none, .proceed 0 .none, .start 0 (.unpinPage 0) none, .proceed 1 .none,
    .start 0 (.fetchPage 1) none, .proceed 2 .none, .proceed 2 (.write .ok),
    .proceed 2 (.read (.ok fun _ => 4096)), .proceed 2 .none, .proceed 2 .none,
    .start 1 (.fetchPage 1) none, .proceed 3 .none]

/-- The run of these events. -/
def fetchAfterNewPath : List (Event × System 1) :=
  follow System.step (System.new 1 []) fetchAfterNew

/-- The fetch of the second page misses and pays for the write and the read; the hit behind it
reads nothing. -/
theorem disk_accesses_paid_fetchAfterNew :
    countSteps System.readsDisk (System.new 1 []) fetchAfterNewPath = 1 ∧
      countSteps System.writesDisk (System.new 1 []) fetchAfterNewPath = 1 ∧
      countSteps System.readsDisk (System.new 1 []) fetchAfterNewPath ≤
        (lastState (System.new 1 []) fetchAfterNewPath).pool.metrics.cacheMisses.toNat ∧
      countSteps (System.ofCall 3 System.readsDisk) (System.new 1 []) fetchAfterNewPath ≤ 0 := by
  have hcheck : countSteps System.readsDisk (System.new 1 []) fetchAfterNewPath = 1 ∧
      countSteps System.writesDisk (System.new 1 []) fetchAfterNewPath = 1 ∧
      fetchAfterNewPath.length = 12 ∧
      countSteps (System.ofCall 3 System.recordsMiss) (System.new 1 []) fetchAfterNewPath = 0 := by
    decide +kernel
  have hpath : IsPath System.Step (System.new 1 []) fetchAfterNewPath :=
    isPath_follow System.step _ fetchAfterNew
  have hpaid := disk_accesses_paid 1 [] hpath
  have htotals := hpaid.2 (by rw [hcheck.2.2.1]; decide)
  exact ⟨hcheck.1, hcheck.2.1, htotals.1, (hpaid.1 3).2.1.trans_eq hcheck.2.2.2⟩

end Storage
end TaskPool
