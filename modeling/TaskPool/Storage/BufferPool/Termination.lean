import Mathlib.Algebra.BigOperators.Intervals
import Mathlib.Algebra.Group.Action.Defs
import Mathlib.Algebra.Order.BigOperators.Group.Finset
import Mathlib.Tactic.Ring
import TaskPool.Library.Potential
import TaskPool.Storage.BufferPool.Progress

/-!
# Calls come to rest

A fetch may go around its loop again whenever somebody notifies it, and so do all fetches
that wait with it.  But a fetch notifies at most twice, when its load ends and behind it, and
the other calls never do.  When no more calls start, the sections of those that have started
are therefore bounded by the square of their number, whatever the disk does and however
the sections follow one another.

Main results:

- Definition `System.workLeft`: how much the calls can still do.
- Theorem `System.workLeft_lt`: every section lowers it.
- Theorem `calls_come_to_rest`: the calls stop after so many sections, and where nobody is
  left behind asleep they have all returned then.
-/

namespace TaskPool
namespace Storage

open BufferPoolManager Library

variable {n : Nat}

/-! ## The rank of a call -/

/-- How far a call is from its end, or from where it waits for a signal. -/
def Pc.rank (loads : PageId → Option CallId) : Pc n → Nat
  | .fetchWaitLoad _ _ notified => if notified then 10 else 0
  | .fetchWaitState _ _ notified => if notified then 9 else 0
  -- the fetch waits when the page is still being loaded, and looks it up again otherwise
  | .fetchCheckLoad pageId _ => if (loads pageId).isSome then 1 else 9
  | .fetchStart _ _ => 8
  | .evictWrite _ _ _ _ => 5
  | .fetchRead _ _ | .evictRead _ _ _ => 4
  | .fetchLoad _ _ _ => 3
  | .fetchPublish _ _ | .fetchReadFailed _ _ _ => 2
  | .evictCommit _ _ _ _ | .evictFailed _ _ _ _ => 2
  | .fetchNotify _ _ => 1
  | .unpinStart _ | .markDirtyStart _ => 1
  | .flushStart _ | .deleteStart _ => 5
  | .flushCheck _ _ _ => 4
  | .flushWrite _ _ _ _ _ => 3
  | .flushFinish _ _ _ _ => 2
  | .flushRelease _ _ | .deleteRollback _ _ _ | .deleteFinish _ _ => 1
  | .newStart => 3
  | .newWrite _ _ _ _ => 2
  | .newRollback _ _ _ _ | .newCommit _ _ _ => 1
  | .returned _ => 0

/-- How often a call may still notify others. -/
def Pc.signalsLeft : Pc n → Nat
  | .fetchStart _ _ | .fetchWaitState _ _ _ | .fetchCheckLoad _ _ | .fetchWaitLoad _ _ _ => 2
  | .fetchRead _ _ | .fetchLoad _ _ _ | .fetchPublish _ _ | .fetchReadFailed _ _ _ => 2
  | .evictWrite _ _ _ _ | .evictRead _ _ _ | .evictCommit _ _ _ _ | .evictFailed _ _ _ _ => 2
  | .fetchNotify _ _ => 1
  | _ => 0

namespace Pc

variable {loads loads' : PageId → Option CallId} {pc pc' : Pc n} {pageId : PageId}

/-- A rank is at most ten. -/
theorem rank_le (loads : PageId → Option CallId) (pc : Pc n) : pc.rank loads ≤ 10 := by
  cases pc with
  | fetchWaitState | fetchWaitLoad | fetchCheckLoad =>
      rw [rank]
      split_ifs <;> omega
  | _ => exact Nat.le_of_ble_eq_true rfl

/-- A call notifies others at most twice. -/
theorem signalsLeft_le (pc : Pc n) : pc.signalsLeft ≤ 2 := by
  cases pc <;> exact Nat.le_of_ble_eq_true rfl

/-- Without a signal, and when no load ends, no other call gets further from its end. -/
theorem rank_receive_none_le (hkept : ∀ pageId, (loads pageId).isSome → (loads' pageId).isSome)
    (pc : Pc n) : (pc.receive .none).rank loads' ≤ pc.rank loads := by
  cases pc with
  | fetchWaitState | fetchWaitLoad => simp [receive, rank]
  | fetchCheckLoad pageId waiter =>
      simp only [receive, rank]
      cases hload : (loads pageId).isSome with
      | true => rw [if_pos (hkept pageId hload), if_pos rfl]
      | false =>
          rw [if_neg Bool.false_ne_true]
          split_ifs <;> omega
  | _ => exact Nat.le_refl _

@[simp] theorem signalsLeft_receive (signal : Signal) (pc : Pc n) :
    (pc.receive signal).signalsLeft = pc.signalsLeft := by
  cases pc <;> rfl

/-- A call whose result is there ignores signals. -/
theorem receive_of_over (signal : Signal) (h : pc.over = true) : pc.receive signal = pc := by
  cases pc <;> first
    | rfl
    | cases h

/-- A call whose result is there has one section and one signal left at most. -/
theorem rank_of_over (loads : PageId → Option CallId) (h : pc.over = true) :
    pc.rank loads ≤ 1 ∧ pc.signalsLeft ≤ 1 := by
  cases pc <;> first
    | exact ⟨Nat.le_of_ble_eq_true rfl, Nat.le_of_ble_eq_true rfl⟩
    | cases h

/-- A call that is about to end its load has at least two sections and just two signals left. -/
theorem rank_of_ends (loads : PageId → Option CallId) (h : pc.ends = some pageId) :
    2 ≤ pc.rank loads ∧ pc.signalsLeft = 2 := by
  cases pc <;> first
    | exact ⟨Nat.le_of_ble_eq_true rfl, rfl⟩
    | cases h

/-- Behind a flush one section and no signal are left at most. -/
theorem rank_of_afterFlush (loads : PageId → Option CallId) (h : pc.afterFlush = true) :
    pc.rank loads ≤ 1 ∧ pc.signalsLeft = 0 := by
  cases pc <;> first
    | exact ⟨Nat.le_of_ble_eq_true rfl, rfl⟩
    | cases h

/-- A load that has begun has five sections left at most. -/
theorem Begun.rank_le (h : pc.Begun pageId) (loads : PageId → Option CallId) :
    pc.rank loads ≤ 5 := by
  cases pc with
  | fetchRead | evictWrite | evictRead | returned => exact Nat.le_of_ble_eq_true rfl
  | fetchWaitState => simp [rank, h.2.2]
  | _ => cases h

/-- Every section that follows another is nearer to the end. -/
theorem Follows.rank_lt (h : pc.Follows pc') (loads loads' : PageId → Option CallId) :
    pc'.rank loads' < pc.rank loads := by
  cases h with
  | flushCheckReturns hpc' | flushFinish hpc' =>
      exact (rank_of_afterFlush loads' hpc').1.trans_lt (Nat.le_of_ble_eq_true rfl)
  | _ => exact Nat.le_of_ble_eq_true rfl

/-- No section adds a signal. -/
theorem Follows.signalsLeft_le (h : pc.Follows pc') : pc'.signalsLeft ≤ pc.signalsLeft := by
  cases h with
  | flushCheckReturns hpc' | flushFinish hpc' =>
      exact (rank_of_afterFlush (fun _ => none) hpc').2.trans_le (Nat.zero_le _)
  | _ => exact Nat.le_of_ble_eq_true rfl

end Pc

/-- A section lowers the rank of its call.  It raises the rank of others only when it ends a
load or notifies, and then it has one signal less to give. -/
structure Nears (pool : BufferPoolManager n) (pc : Pc n) (next : Next n) : Prop where
  rank_lt : next.pc.rank next.pool.inFlightLoads < pc.rank pool.inFlightLoads
  signals : next.pc.over = true ∧ next.pc.signalsLeft < pc.signalsLeft ∨
    next.signal = .none ∧ next.pc.signalsLeft ≤ pc.signalsLeft ∧
      ∀ pageId, (pool.inFlightLoads pageId).isSome → (next.pool.inFlightLoads pageId).isSome

namespace Nears

variable {callId : CallId} {pool : BufferPoolManager n} {pc : Pc n} {io : Io} {next : Next n}

/-- A section that notifies nobody and removes no entry. -/
theorem silent (hrank : next.pc.rank next.pool.inFlightLoads < pc.rank pool.inFlightLoads)
    (hsignal : next.signal = .none) (hleft : next.pc.signalsLeft ≤ pc.signalsLeft)
    (hloads : next.pool.inFlightLoads = pool.inFlightLoads) : Nears pool pc next :=
  ⟨hrank, .inr ⟨hsignal, hleft, fun pageId hload => by rwa [hloads]⟩⟩

/-- Every section does so, of a call that waits for nothing or was notified. -/
theorem of_section (hsection : Section callId pool pc next) (hnotified : pc.notified = true) :
    Nears pool pc next := by
  cases hsection with
  | straight hpc hquiet =>
      exact silent (hpc.rank_lt _ _) hquiet.signal_eq hpc.signalsLeft_le hquiet.loads_eq
  | waits hpc hquiet =>
      refine silent ?_ hquiet.signal_eq (next.pc.signalsLeft_le) hquiet.loads_eq
      rw [hpc]
      exact Nat.le_of_ble_eq_true rfl
  | joins hload hpc hloads _ hsignal =>
      refine silent ?_ hsignal (next.pc.signalsLeft_le) hloads
      rw [hpc, hloads, Pc.rank, hload]
      exact Nat.le_of_ble_eq_true rfl
  | @begins page _ _ hload hpc hloads _ hsignal =>
      refine ⟨(hpc.rank_le _).trans_lt (Nat.le_of_ble_eq_true rfl),
        .inr ⟨hsignal, next.pc.signalsLeft_le, fun pageId hentry => ?_⟩⟩
      rw [hloads]
      by_cases hpage : pageId = page
      · rw [hpage, Function.update_self, Option.isSome_some]
      · rwa [Function.update_of_ne hpage]
  | fails _ hpc =>
      refine ⟨?_, .inl ?_⟩
      · rw [hpc]
        exact Nat.le_of_ble_eq_true rfl
      · rw [hpc]
        exact ⟨rfl, Nat.le_of_ble_eq_true rfl⟩
  | wakes =>
      refine silent ?_ rfl (Nat.le_refl 2) rfl
      rw [Pc.notified] at hnotified
      simp [Pc.rank, hnotified]
  | wakesToCheck =>
      refine silent ?_ rfl (Nat.le_refl 2) rfl
      rw [Pc.notified] at hnotified
      simp only [Pc.rank, hnotified, if_true]
      split_ifs <;> omega
  | sleeps hload =>
      refine silent ?_ rfl (Nat.le_refl 2) rfl
      simp [Pc.rank, hload]
  | retries hload =>
      refine silent ?_ rfl (Nat.le_refl 2) rfl
      simp [Pc.rank, hload]
  | ends hends hpc =>
      have hover := Pc.rank_of_over next.pool.inFlightLoads hpc
      have hload := Pc.rank_of_ends pool.inFlightLoads hends
      exact ⟨by omega, .inl ⟨hpc, by omega⟩⟩
  | notifies => exact ⟨Nat.zero_lt_one, .inl ⟨rfl, Nat.zero_lt_one⟩⟩

end Nears

/-! ## Every interleaving -/

namespace System

variable {s s' : System n} {e : Event} {callId : CallId} {activity : Activity n} {next : Next n}

/-- What all calls together have left. -/
def credit (left : Pc n → Nat) (s : System n) : Nat :=
  ∑ callId ∈ Finset.range s.nextCall, (s.pcs callId).elim 0 left

/-- What one call has left, and what all others have left. -/
theorem credit_eq_add {left : Pc n → Nat} {i : CallId} {pc : Pc n} (hpc : s.pcs i = some pc)
    (hlt : i < s.nextCall) : s.credit left = left pc +
      ∑ other ∈ (Finset.range s.nextCall).erase i, (s.pcs other).elim 0 left := by
  rw [credit, ← Finset.add_sum_erase _ _ (Finset.mem_range.mpr hlt), hpc, Option.elim_some]

/-- What no signal changes is, for all calls together, changed by the section of one call. -/
theorem credit_resume {left : Pc n → Nat} (hnumbered : s.Numbered) {i : Nat}
    (hactivity : s.calls i = some activity) (next : Next n)
    (hreceive : ∀ signal pc, left (Pc.receive signal pc) = left pc) :
    (s.resume i activity next).credit left + left activity.pc = s.credit left + left next.pc := by
  have hpc := pcs_eq_some hactivity
  have hlt := hnumbered i activity.pc hpc
  have hothers : ∀ other ∈ (Finset.range s.nextCall).erase i,
      ((s.resume i activity next).pcs other).elim 0 left = (s.pcs other).elim 0 left := by
    intro other hother
    rw [pcs_resume, Function.update_of_ne (Finset.mem_erase.mp hother).1]
    cases s.pcs other with
    | none => rfl
    | some pc => exact hreceive _ _
  rw [credit_eq_add (pcs_resume_self s i activity next) hlt, credit_eq_add hpc hlt, hreceive,
    show (s.resume i activity next).nextCall = s.nextCall from rfl, Finset.sum_congr rfl hothers]
  omega

/-- When each call has little left, all together have not much. -/
theorem credit_le (s : System n) {left : Pc n → Nat} {bound : Nat} (h : ∀ pc, left pc ≤ bound) :
    s.credit left ≤ s.nextCall * bound := by
  have hcall : ∀ callId ∈ Finset.range s.nextCall, (s.pcs callId).elim 0 left ≤ bound := by
    intro callId _
    cases s.pcs callId with
    | none => exact Nat.zero_le bound
    | some pc => exact h pc
  simpa [credit] using Finset.sum_le_card_nsmul _ _ bound hcall

/-- What others have left grows by at most `extra` each. -/
theorem credit_resume_le (hnumbered : s.Numbered) (hactivity : s.calls callId = some activity)
    (next : Next n) (left left' : Pc n → Nat) (extra : Nat)
    (hothers : ∀ pc, left' (Pc.receive next.signal pc) ≤ left pc + extra) :
    (s.resume callId activity next).credit left' + left activity.pc ≤
      s.credit left + left' (next.pc.receive next.signal) + s.nextCall * extra := by
  have hpc := pcs_eq_some hactivity
  have hlt := hnumbered callId activity.pc hpc
  have hsum : ∑ other ∈ (Finset.range s.nextCall).erase callId,
        ((s.resume callId activity next).pcs other).elim 0 left' ≤
      ∑ other ∈ (Finset.range s.nextCall).erase callId, ((s.pcs other).elim 0 left + extra) := by
    refine Finset.sum_le_sum fun other hother => ?_
    rw [pcs_resume, Function.update_of_ne (Finset.mem_erase.mp hother).1]
    cases s.pcs other with
    | none => exact Nat.zero_le _
    | some pc => exact hothers pc
  have hcard : ((Finset.range s.nextCall).erase callId).card * extra ≤ s.nextCall * extra := by
    refine Nat.mul_le_mul_right extra ((Finset.card_erase_le).trans_eq ?_)
    rw [Finset.card_range]
  rw [Finset.sum_add_distrib, Finset.sum_const, smul_eq_mul] at hsum
  rw [credit_eq_add (pcs_resume_self s callId activity next) hlt, credit_eq_add hpc hlt,
    show (s.resume callId activity next).nextCall = s.nextCall from rfl]
  omega

/-- How much the calls can still do: their ranks, and what their signals may add to them. -/
def workLeft (s : System n) : Nat :=
  s.credit (Pc.rank s.pool.inFlightLoads) + s.nextCall * 10 * s.credit Pc.signalsLeft

/-- No call starts, and nobody wakes up unasked. -/
def continues (s : System n) : Event → Bool
  | .start _ _ _ => false
  | .proceed callId io => s.wakesNotified (.proceed callId io)

/-- The work of a call and of its signals is bounded by the number of calls. -/
theorem workLeft_le (s : System n) : s.workLeft ≤ 10 * s.nextCall + 20 * s.nextCall ^ 2 := by
  have hrank := s.credit_le (Pc.rank_le s.pool.inFlightLoads)
  have hsignals := Nat.mul_le_mul_left (s.nextCall * 10) (s.credit_le Pc.signalsLeft_le)
  have hsquare : s.nextCall * 10 * (s.nextCall * 2) = 20 * s.nextCall ^ 2 := by ring
  rw [workLeft]
  omega

/-- Every section lowers it. -/
theorem workLeft_lt (hnumbered : s.Numbered) (hstep : s.Step e s')
    (hcontinues : s.continues e = true) :
    s'.workLeft < s.workLeft := by
  rcases step_cases hstep with ⟨client, call, releases, rfl, rfl⟩ |
    ⟨callId, io, activity, next, rfl, hactivity, hnext, rfl⟩
  · cases hcontinues
  · have hhas : activity.pc.hasSection = true := by
      refine hasSection_of_advance hnext ?_
      rintro rfl
      rwa [continues, wakesNotified, pcs_eq_some hactivity, Option.any_some] at hcontinues
    have hnears := Nears.of_section (.advance hnext) (Bool.and_eq_true_iff.mp hhas).2
    have hrank := hnears.rank_lt
    have hsignals := credit_resume hnumbered hactivity next Pc.signalsLeft_receive
    rw [workLeft, workLeft, show (s.resume callId activity next).nextCall = s.nextCall from rfl,
      show (s.resume callId activity next).pool = next.pool from rfl]
    rcases hnears.signals with ⟨hover, hless⟩ | ⟨hnone, hle, hkept⟩
    · -- each other call may get at most 10 further from its end, which the signal has paid for
      have hcredit := credit_resume_le hnumbered hactivity next (Pc.rank s.pool.inFlightLoads)
        (Pc.rank next.pool.inFlightLoads) 10 fun _ =>
          (Pc.rank_le next.pool.inFlightLoads _).trans (Nat.le_add_left 10 _)
      rw [Pc.receive_of_over next.signal hover] at hcredit
      have hfewer : (s.resume callId activity next).credit Pc.signalsLeft + 1 ≤
          s.credit Pc.signalsLeft := by omega
      have hpaid := Nat.mul_le_mul_left (s.nextCall * 10) hfewer
      rw [Nat.mul_add_one] at hpaid
      omega
    · have hcredit := credit_resume_le hnumbered hactivity next (Pc.rank s.pool.inFlightLoads)
        (Pc.rank next.pool.inFlightLoads) 0 fun pc => hnone ▸ Pc.rank_receive_none_le hkept pc
      have hself : (next.pc.receive .none).rank next.pool.inFlightLoads ≤
          next.pc.rank next.pool.inFlightLoads := Pc.rank_receive_none_le (fun _ h => h) next.pc
      rw [hnone] at hcredit
      have hnoMore : (s.resume callId activity next).credit Pc.signalsLeft ≤
          s.credit Pc.signalsLeft := by omega
      have hpaid := Nat.mul_le_mul_left (s.nextCall * 10) hnoMore
      omega

/-- Every section that needs no unasked wake-up takes some of the work that is left. -/
theorem length_le_workLeft {path : List (Event × System n)} (hnumbered : s.Numbered)
    (hpath : IsPath System.Step s path)
    (hcontinues : EveryStep (fun s e _ => s.continues e = true) s path) :
    path.length ≤ s.workLeft := by
  have hlowers : EveryStep (fun s _ s' => workLeft s' < workLeft s) s path :=
    hpath.everyStep hcontinues hnumbered fun s e s' hnumbered hstep hcontinues =>
      ⟨hnumbered.step hstep, workLeft_lt hnumbered hstep hcontinues⟩
  exact (Nat.le_add_right _ _).trans hlowers.length_add_le

/-! ### Where it ends -/

/-- All calls have returned. -/
def Returned (s : System n) : Prop := ∀ callId pc, s.pcs callId = some pc → pc.isReturned = true

/-- No call can run a section, unless a new one starts or somebody wakes up unasked. -/
def Halted (s : System n) : Prop := ∀ e s', s.continues e = true → ¬ s.Step e s'

/-- Calls that have returned run no sections. -/
theorem Returned.halted (h : s.Returned) : s.Halted := by
  intro e s' hcontinues hstep
  rcases step_cases hstep with ⟨client, call, releases, rfl, rfl⟩ |
    ⟨callId, io, activity, next, rfl, hactivity, hnext, rfl⟩
  · cases hcontinues
  · have hreturned := h callId activity.pc (pcs_eq_some hactivity)
    cases hpc : activity.pc with
    | returned result =>
        rw [hpc] at hnext
        cases io <;> cases hnext
    | _ =>
        rw [hpc] at hreturned
        cases hreturned

/-- A system that can go on halts only when all calls have returned. -/
theorem CanGoOn.halted_iff (h : s.CanGoOn) : s.Halted ↔ s.Returned := by
  refine ⟨fun hhalted => ?_, Returned.halted⟩
  rcases h with hreturned | ⟨callId, io, s', -, hwakes, hstep⟩
  · exact hreturned
  · exact absurd hstep (hhalted _ s' hwakes)

/-- The step neither fails nor leaves somebody behind asleep. -/
def Unhindered (s : System n) (e : Event) : Prop :=
  e.Plain ∧ s.findsNoFrame e = false ∧ s.leavesAsleep e = false ∧ s.sleepsTooLate e = false

end System

/-- In every interleaving of any calls on a new pool, whatever the disk does: when `N` calls
have started, and no more start and nobody wakes up unasked, at most `10 N + 20 N ^ 2`
sections follow.  Where every step of the run meets the conditions under which the pool is
never stuck, the sections stop exactly when all calls have returned. -/
theorem calls_come_to_rest (n : Nat) (file : List UInt8) {before after : List (Event × System n)}
    (hpath : IsPath System.Step (System.new n file) (before ++ after))
    (hcontinues : EveryStep (fun s e _ => s.continues e = true)
      (lastState (System.new n file) before) after) :
    after.length ≤ 10 * (lastState (System.new n file) before).nextCall +
        20 * (lastState (System.new n file) before).nextCall ^ 2 ∧
      (EveryStep (fun s e _ => s.Unhindered e) (System.new n file) (before ++ after) →
        ((lastState (System.new n file) (before ++ after)).Halted ↔
          (lastState (System.new n file) (before ++ after)).Returned)) := by
  rcases isPath_append.mp hpath with ⟨hbefore, hafter⟩
  have hnumbered : EveryState System.Numbered (System.new n file) before :=
    hbefore.invariant (System.new_numbered n file) fun _ _ _ => System.Numbered.step
  refine ⟨?_, fun hunhindered => ?_⟩
  · exact (System.length_le_workLeft hnumbered.last hafter hcontinues).trans
      (System.workLeft_le _)
  · have hmoving : EveryState System.Moving (System.new n file) (before ++ after) :=
      hpath.everyState hunhindered (System.new_moving n file) fun s e s' h hstep hgood =>
        h.step hstep hgood.1 hgood.2.1 hgood.2.2.1 hgood.2.2.2
    exact hmoving.last.canGoOn.halted_iff

/-- Two clients fetch the same page; the second one sleeps until the first one notifies it. -/
def fetchAndFollow : List Event :=
  [.start 0 (.fetchPage 0) none, .start 1 (.fetchPage 0) none, .proceed 0 .none, .proceed 1 .none,
    .proceed 0 (.read (.ok fun _ => 4096)), .proceed 1 .none, .proceed 0 .none, .proceed 0 .none,
    .proceed 0 .none, .proceed 1 .wake, .proceed 1 .none, .proceed 1 .none]

/-- The run of these events on a new pool of one frame. -/
def fetchAndFollowPath : List (Event × System 1) :=
  follow System.step (System.new 1 []) fetchAndFollow

/-- Behind the start of the two fetches come ten sections. -/
theorem calls_come_to_rest_fetchAndFollow :
    (fetchAndFollowPath.drop 2).length = 10 ∧ (fetchAndFollowPath.drop 2).length ≤ 100 ∧
      ((lastState (System.new 1 []) fetchAndFollowPath).Halted ↔
        (lastState (System.new 1 []) fetchAndFollowPath).Returned) := by
  have hpath : IsPath System.Step (System.new 1 []) fetchAndFollowPath :=
    isPath_follow System.step _ fetchAndFollow
  have hsplit := fetchAndFollowPath.take_append_drop 2
  have hcontinues : EveryStep (fun s e _ => System.continues s e = true)
      (lastState (System.new 1 []) (fetchAndFollowPath.take 2)) (fetchAndFollowPath.drop 2) := by
    decide +kernel
  have hplain : EveryStep (fun _ e _ => e.Plain) (System.new 1 []) fetchAndFollowPath :=
    everyStep_follow (by simp [fetchAndFollow, Event.Plain, Io.Succeeds]) _
  have hothers : EveryStep (fun s e _ => System.findsNoFrame s e = false ∧
      System.leavesAsleep s e = false ∧ System.sleepsTooLate s e = false)
      (System.new 1 []) fetchAndFollowPath := by decide +kernel
  have hcalls : (lastState (System.new 1 []) (fetchAndFollowPath.take 2)).nextCall = 2 := by
    decide +kernel
  have hrest := calls_come_to_rest 1 [] (hsplit.symm ▸ hpath) hcontinues
  rw [hcalls, hsplit] at hrest
  exact ⟨by decide +kernel, hrest.1, hrest.2 (hplain.and hothers)⟩

end Storage
end TaskPool
