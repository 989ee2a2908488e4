import TaskPool.Storage.BufferPool.Pinning

/-!
# Using a pin

A client that has pinned a page may mark it dirty and give the pin back.  Both are
single sections, and they find the page in its frame.  They fail nevertheless when the
frame is reserved: `flush_page` reserves pinned frames, and keeps them reserved while it
writes.

Main results:

- Theorem `Working.usesPage_iff`: the section of such a call succeeds exactly when
  the frame of its page is not reserved.
- Theorem `uses_succeed_iff`: so do all of them along a run.
- Theorem `use_fails_during_flush`: a run in which a client cannot give its pin back.
-/

namespace TaskPool
namespace Storage

open BufferPoolManager Library

variable {n : Nat}

/-- The page that an `unpin_page` or a `mark_dirty_page` is about to change. -/
def Pc.used : Pc n → Option PageId
  | .unpinStart pageId => some pageId
  | .markDirtyStart pageId => some pageId
  | _ => none

/-- The page that the calls of clients who hold a pin are for. -/
def Call.used : Call → Option PageId
  | .unpinPage pageId => some pageId
  | .markDirtyPage pageId => some pageId
  | _ => none

/-- A call uses the page it was called for. -/
theorem Pc.BelongsTo.used_eq {call : Call} {pc : Pc n} (h : pc.BelongsTo call) {pageId : PageId}
    (hused : pc.used = some pageId) : call.used = some pageId := by
  cases pc <;> cases hused <;> cases h <;> rfl

/-- Calls that use a pin are a single section. -/
theorem Pc.BelongsTo.used_or_returned {call : Call} {pc : Pc n} (h : pc.BelongsTo call)
    {pageId : PageId} (hused : call.used = some pageId) :
    pc.used = some pageId ∨ ∃ result, pc = .returned result := by
  cases pc with
  | returned result => exact .inr ⟨result, rfl⟩
  | unpinStart page | markDirtyStart page =>
      rw [show call = _ from h] at hused
      exact .inl hused
  | flushCheck page frameId caller | flushWrite page frameId dirty data caller
  | flushFinish page frameId written caller =>
      rw [show call = caller.call page from h] at hused
      cases caller <;> cases hused
  | fetchNotify waiter result =>
      rcases h with ⟨page, rfl⟩
      cases hused
  | flushStart | deleteStart | flushRelease | deleteRollback | deleteFinish | newStart | newWrite
  | newRollback | newCommit =>
      rw [show call = _ from h] at hused
      cases hused
  | _ =>
      rw [h _ rfl] at hused
      cases hused

namespace BufferPoolManager

/-- A change of a resident page fails exactly when its frame is reserved. -/
theorem changeResident_failed_iff {pool : BufferPoolManager n} {pageId : PageId} {frameId : Fin n}
    {change : Frame → Except IoError Frame} (htable : pool.pageTable pageId = some frameId)
    (hchange : ∃ frame, change (pool.frames frameId) = .ok frame) :
    (∃ error, (pool.changeResident pageId change).pc = .returned (.failed error)) ↔
      (pool.frames frameId).isReserved = true := by
  rcases hchange with ⟨frame, hframe⟩
  unfold changeResident
  simp only [htable, hframe]
  by_cases hreserved : (pool.frames frameId).isReserved = true
  · simp [hreserved, fail, finish]
  · simp [hreserved, finish]

end BufferPoolManager

namespace System

variable {s s' : System n} {callId : CallId} {activity : Activity n} {next : Next n}
  {pageId : PageId} {frameId : Fin n}

/-- The client has a pin on the page, from a call of its own that has returned. -/
def HasPinned (s : System n) (client : Nat) (pageId : PageId) : Prop :=
  ∃ callId activity frameId, s.calls callId = some activity ∧ activity.client = client ∧
    (∃ result, activity.pc = .returned result) ∧ s.Holds callId pageId frameId

/-- A client marks a page dirty only while it has a pin on it. -/
def Marks (s : System n) : Event → Prop
  | .start client (.markDirtyPage pageId) _ => s.HasPinned client pageId
  | .start _ _ _ => True
  | .proceed callId _ => ∀ activity pageId, s.calls callId = some activity →
      activity.pc = .markDirtyStart pageId → s.HasPinned activity.client pageId

/-- The section of a call that uses a pin finds the frame of its page reserved. -/
def findsReserved (s : System n) : Event → Bool
  | .start _ _ _ => false
  | .proceed callId _ => ((s.pcs callId).bind Pc.used).any fun pageId =>
      (s.pool.pageTable pageId).any fun frameId => (s.pool.frames frameId).isReserved

/-- The call that runs a section is no `unpin_page` or `mark_dirty_page` that returns an
error. -/
def UsesSucceed (_ : System n) (e : Event) (s' : System n) : Prop :=
  ∀ callId activity pageId error, e.caller = some callId → s'.calls callId = some activity →
    (activity.call = .unpinPage pageId ∨ activity.call = .markDirtyPage pageId) →
    activity.pc ≠ .returned (.failed error)

/-- The invariant: pins are covered, and what is being unpinned was returned. -/
structure Working (s : System n) : Prop where
  covered : s.Covered
  belongs : s.Belongs
  releases : ∀ callId activity pageId released, s.calls callId = some activity →
    activity.pc = .unpinStart pageId → activity.releases = some released →
    ∃ other result, s.calls released = some other ∧ other.pc = .returned result

/-- A ready system meets the invariant. -/
theorem Ready.working (h : s.Ready) : s.Working where
  covered := h.covered
  belongs := h.toIdle.belongs
  releases := by
    intro callId activity pageId released hactivity hunpin
    rcases (h.returned callId activity hactivity).2 with ⟨result, hresult⟩
    rw [hresult] at hunpin
    cases hunpin

/-- A page with a pin from a returned call is mapped to a frame with pins. -/
theorem Covered.mapped (h : s.Covered) (hactivity : s.calls callId = some activity)
    (hreturned : ∃ result, activity.pc = .returned result)
    (hholds : s.Holds callId pageId frameId) :
    s.pool.pageTable pageId = some frameId ∧ 0 < (s.pool.frames frameId).pins ∧
      (s.pool.frames frameId).metadata ≠ none := by
  rcases h with ⟨hordered, slot, hconsistent, hpinned⟩
  have hlocated : (slot frameId).located = some pageId := by
    rcases hholds with ⟨⟨activity', hactivity', hpin⟩, hreleased⟩
    rcases hpinned.located callId activity' pageId frameId hactivity' hpin hreleased with
      hlocated | hpublish
    · exact hlocated
    · rcases hreturned with ⟨result, hresult⟩
      rw [hactivity, Option.some_inj] at hactivity'
      rw [← hactivity', hresult] at hpublish
      cases hpublish
  exact ⟨hconsistent.table_of_located hlocated, hpinned.pins_pos hordered hholds,
    Frame.metadata_ne_none (hconsistent.heldPage_of_located hlocated)⟩

/-- The page a pin holder is about to change is mapped to a frame that can be changed. -/
theorem Working.mapped (h : s.Working) (hactivity : s.calls callId = some activity)
    (hused : activity.pc.used = some pageId) {io : Io} (hmarks : s.Marks (.proceed callId io)) :
    ∃ frameId, s.pool.pageTable pageId = some frameId ∧
      0 < (s.pool.frames frameId).pins ∧ (s.pool.frames frameId).metadata ≠ none := by
  cases hpc : activity.pc with
  | unpinStart page =>
      rw [hpc] at hused
      cases hused
      rcases h.covered with ⟨-, slot, -, hpinned⟩
      rcases hpinned.unpinning callId activity pageId hactivity hpc with
        ⟨released, frameId, hreleases, hholds⟩
      rcases h.releases callId activity pageId released hactivity hpc hreleases with
        ⟨other, result, hother, hresult⟩
      exact ⟨frameId, h.covered.mapped hother ⟨result, hresult⟩ hholds⟩
  | markDirtyStart page =>
      rw [hpc] at hused
      cases hused
      rcases hmarks activity pageId hactivity hpc with
        ⟨fetch, other, frameId, hother, -, hreturned, hholds⟩
      exact ⟨frameId, h.covered.mapped hother hreturned hholds⟩
  | _ =>
      rw [hpc] at hused
      cases hused

/-- The section of a call that uses a pin fails exactly when it finds its frame reserved. -/
theorem Working.usesPage_iff (h : s.Working) (hactivity : s.calls callId = some activity)
    (hused : activity.pc.used = some pageId) {io : Io} (hmarks : s.Marks (.proceed callId io))
    (hnext : s.pool.advance callId activity.pc io = some next) :
    (∃ error, next.pc = .returned (.failed error)) ↔
      s.findsReserved (.proceed callId io) = true := by
  rcases h.mapped hactivity hused hmarks with ⟨frameId, htable, hpins, hmeta⟩
  have hfinds : s.findsReserved (.proceed callId io) = (s.pool.frames frameId).isReserved := by
    simp [findsReserved, pcs_eq_some hactivity, hused, htable]
  rw [hfinds]
  cases hpc : activity.pc with
  | unpinStart page =>
      rw [hpc] at hused hnext
      cases hused
      cases io <;> cases hnext
      exact changeResident_failed_iff htable ⟨_, Frame.unpin_eq_ok hpins⟩
  | markDirtyStart page =>
      rw [hpc] at hused hnext
      cases hused
      cases io <;> cases hnext
      exact changeResident_failed_iff htable ⟨_, Frame.updateMeta_of_ne_none hmeta _⟩
  | _ =>
      rw [hpc] at hused
      cases hused

/-- A call that starts or runs a section keeps the invariant. -/
theorem Working.step {e : Event} (h : s.Working) (hstep : s.Step e s') (hplain : e.Plain)
    (hunpins : s.Unpins e) (hbound : s'.PinsBounded) : s'.Working := by
  have hcovered := h.covered.step hstep hplain hunpins hbound
  rcases step_cases hstep with ⟨client, call, releases, rfl, rfl⟩ |
    ⟨callId, io, activity, next, rfl, hactivity, hnext, rfl⟩
  · refine ⟨hcovered, h.belongs.launch client call releases, ?_⟩
    have hnumbered := h.covered.1.numbered
    intro caller activity page released hactivity hunpin hreleases
    rcases calls_launch_cases hactivity with ⟨-, rfl⟩ | ⟨-, hactivity⟩
    · cases call <;> cases hunpin
      rcases hunpins with ⟨id, other, frame, hid, hother, -, ⟨result, hresult⟩, -, -⟩
      rw [show releases = some released from hreleases, Option.some_inj] at hid
      exact ⟨other, result, hid ▸ hnumbered.calls_launch hother client _ releases, hresult⟩
    · rcases h.releases caller activity page released hactivity hunpin hreleases with
        ⟨other, result, hother, hresult⟩
      exact ⟨other, result, hnumbered.calls_launch hother client call releases, hresult⟩
  · rcases h.covered.1.effect hactivity hnext with ⟨slot, slot', hconsistent, heffect⟩
    refine ⟨hcovered, h.belongs.resume hactivity heffect, ?_⟩
    intro caller other page released hother hunpin hreleases
    rcases calls_resume_cases hother with ⟨-, rfl⟩ | ⟨-, before, hbefore, rfl⟩
    · exact absurd (receive_eq_unpinStart.mp hunpin) (heffect.next_ne_unpinStart page)
    · rcases h.releases caller before page released hbefore (receive_eq_unpinStart.mp hunpin)
        hreleases with ⟨fetch, result, hfetch, hresult⟩
      have hne : released ≠ callId := by
        rintro rfl
        rw [hactivity, Option.some_inj] at hfetch
        rw [hfetch, hresult] at hnext
        cases io <;> cases hnext
      refine ⟨{ fetch with pc := fetch.pc.receive next.signal }, result, ?_,
        Pc.receive_eq_returned.mpr hresult⟩
      rw [calls_resume_of_ne s hne, hfetch, Option.map_some]

/-- A step in which pin holders succeed is one in which they find no reserved frame. -/
theorem Working.usesSucceed_iff {e : Event} (h : s.Working) (hstep : s.Step e s')
    (hmarks : s.Marks e) : s.UsesSucceed e s' ↔ s.findsReserved e = false := by
  rcases step_cases hstep with ⟨client, call, releases, rfl, rfl⟩ |
    ⟨callId, io, activity, next, rfl, hactivity, hnext, rfl⟩
  · refine iff_of_true ?_ rfl
    intro callId activity pageId error hevent
    cases hevent
  · have hself := calls_resume_self s callId activity next
    constructor
    · intro hsucceed
      refine Bool.eq_false_iff.mpr fun hfinds => ?_
      cases hused : activity.pc.used with
      | none => simp [findsReserved, pcs_eq_some hactivity, hused] at hfinds
      | some pageId =>
          rcases (h.usesPage_iff hactivity hused hmarks hnext).mpr hfinds with ⟨error, herror⟩
          have hcall := (h.belongs callId activity hactivity).used_eq hused
          refine hsucceed callId _ pageId error rfl hself ?_ (Pc.receive_eq_returned.mpr herror)
          cases hcase : activity.call <;> rw [hcase] at hcall <;> cases hcall
          · exact .inl rfl
          · exact .inr rfl
    · rintro hfinds _ _ pageId error ⟨⟩ hactivity' hcall hfailed
      rw [hself, Option.some_inj] at hactivity'
      subst hactivity'
      have hused : activity.call.used = some pageId := by
        rcases hcall with hcall | hcall <;> rw [show activity.call = _ from hcall] <;> rfl
      rcases (h.belongs callId activity hactivity).used_or_returned hused with hpc | ⟨result, hpc⟩
      · have hfinds' := (h.usesPage_iff hactivity hpc hmarks hnext).mp
          ⟨error, Pc.receive_eq_returned.mp hfailed⟩
        rw [hfinds] at hfinds'
        cases hfinds'
      · rw [hpc] at hnext
        cases io <;> cases hnext

end System

/-- From a ready system, along every run without `new_page` and disk failures, in which
clients use only what they have pinned and no page ever has more than 255 pins: pin
holders never see an error exactly when they never find their frame reserved. -/
theorem uses_succeed_iff {s : System n} (hready : s.Ready) {path : List (Event × System n)}
    (hpath : IsPath System.Step s path) (hplain : EveryStep (fun _ e _ => e.Plain) s path)
    (hunpins : EveryStep (fun s e _ => s.Unpins e) s path)
    (hmarks : EveryStep (fun s e _ => s.Marks e) s path)
    (hbound : EveryState System.PinsBounded s path) :
    EveryStep System.UsesSucceed s path ↔
      EveryStep (fun s e _ => s.findsReserved e = false) s path := by
  have hsteps : IsPath (fun s e s' => s.Step e s' ∧ (e.Plain ∧ s.Unpins e) ∧ s.Marks e ∧
      s.PinsBounded ∧ s'.PinsBounded) s path :=
    hpath.imp ((hplain.and hunpins).and (hmarks.and hbound.everyStep)) fun _ _ _ => And.intro
  apply hsteps.everyStep_iff hready.working
  · rintro s e s' h ⟨hstep, ⟨hplain, hunpins⟩, hmarks, -, hbound⟩ hfinds
    exact ⟨h.step hstep hplain hunpins hbound, (h.usesSucceed_iff hstep hmarks).mpr hfinds⟩
  · rintro s e s' h ⟨hstep, -, hmarks, -⟩ hsucceed
    exact (h.usesSucceed_iff hstep hmarks).mp hsucceed

/-! ## Checking what clients do -/

namespace System

variable {s : System n} {client : Nat} {pageId : PageId} {fetch : CallId}

/-- A call of the client has returned with a pin on the page, and no `unpin_page` is
meant to give it back. -/
def pinsFor (s : System n) (client : Nat) (pageId : PageId) (fetch : CallId) : Bool :=
  (s.calls fetch).any (fun activity => decide (activity.client = client) && activity.pc.isReturned &&
    (activity.call.pinned activity.pc).any fun pin => pin.1 = pageId) &&
  (List.range s.nextCall).all fun caller =>
    (s.calls caller).all fun other => other.releases ≠ some fetch

/-- Clients use only what such a call has pinned. -/
def usesPins (s : System n) : Event → Bool
  | .start client (.unpinPage pageId) releases => releases.any (s.pinsFor client pageId)
  | .start client (.markDirtyPage pageId) releases =>
    releases.isNone && (List.range s.nextCall).any (s.pinsFor client pageId)
  | .start _ _ releases => releases.isNone
  | .proceed callId _ => (s.calls callId).all fun activity =>
    match activity.pc with
    | .markDirtyStart pageId => (List.range s.nextCall).any (s.pinsFor activity.client pageId)
    | _ => true

/-- The test finds a returned fetch of the client whose pin nobody gives back. -/
theorem pinsFor_spec (h : s.Ordered) (hpins : s.pinsFor client pageId fetch = true) :
    (∃ activity frameId, s.calls fetch = some activity ∧ activity.client = client ∧
      (∃ result, activity.pc = .returned result) ∧ s.Holds fetch pageId frameId) ∧
    ∀ caller other, s.calls caller = some other → other.releases ≠ some fetch := by
  rw [pinsFor, Bool.and_eq_true, Option.any_eq_true, List.all_eq_true] at hpins
  rcases hpins with ⟨⟨activity, hactivity, hpin⟩, hall⟩
  simp only [Bool.and_eq_true, decide_eq_true_eq, Option.any_eq_true] at hpin
  rcases hpin with ⟨⟨hclient, hreturned⟩, ⟨page, frameId⟩, hpinned, rfl⟩
  have hunclaimed : ∀ caller other, s.calls caller = some other → other.releases ≠ some fetch := by
    intro caller other hother
    have hcaller := hall caller (List.mem_range.mpr (h.lt_nextCall caller other hother))
    simpa [hother] using hcaller
  refine ⟨⟨activity, frameId, hactivity, hclient, ?_, ⟨activity, hactivity, hpinned⟩, ?_⟩,
    hunclaimed⟩
  · cases hpc : activity.pc with
    | returned result => exact ⟨result, rfl⟩
    | _ =>
        rw [hpc] at hreturned
        cases hreturned
  · rintro ⟨caller, other, hother, hreleases, -⟩
    exact hunclaimed caller other hother hreleases

/-- A client that passes the test has pinned the page. -/
theorem hasPinned_of_any (h : s.Ordered)
    (hany : (List.range s.nextCall).any (s.pinsFor client pageId) = true) :
    s.HasPinned client pageId := by
  rcases List.any_eq_true.mp hany with ⟨fetch, -, hpins⟩
  rcases (pinsFor_spec h hpins).1 with ⟨activity, frameId, hactivity, hclient, hreturned, hholds⟩
  exact ⟨fetch, activity, frameId, hactivity, hclient, hreturned, hholds⟩

/-- A client that passes the check unpins and marks what it has pinned. -/
theorem unpins_and_marks (h : s.Ordered) {e : Event} (hcheck : s.usesPins e = true) :
    s.Unpins e ∧ s.Marks e := by
  cases e with
  | proceed callId io =>
      refine ⟨trivial, fun activity pageId hactivity hpc => ?_⟩
      rw [usesPins, hactivity, Option.all_some] at hcheck
      simp only [hpc] at hcheck
      exact hasPinned_of_any h hcheck
  | start client call releases =>
      cases call with
      | unpinPage pageId =>
          refine ⟨?_, trivial⟩
          rcases (Option.any_eq_true _ _).mp hcheck with ⟨fetch, hreleases, hpins⟩
          rcases pinsFor_spec h hpins with
            ⟨⟨activity, frameId, hactivity, hclient, hreturned, hholds⟩, hunclaimed⟩
          exact ⟨fetch, activity, frameId, hreleases, hactivity, hclient, hreturned, hholds,
            fun caller other hother hclaim => absurd hclaim (hunclaimed caller other hother)⟩
      | markDirtyPage pageId =>
          rw [usesPins, Bool.and_eq_true] at hcheck
          exact ⟨Option.isNone_iff_eq_none.mp hcheck.1, hasPinned_of_any h hcheck.2⟩
      | _ => exact ⟨Option.isNone_iff_eq_none.mp hcheck, trivial⟩

/-- What the two theorems below need of a run that passes the check. -/
theorem disciplined_of_check {path : List (Event × System n)} {start : System n}
    (hready : start.Ready) (hpath : IsPath System.Step start path)
    (hplain : EveryStep (fun _ e _ => e.Plain) start path)
    (hcheck : EveryStep (fun s e s' => s.usesPins e = true ∧ s'.nextCall ≤ 255) start path)
    (hstart : start.nextCall ≤ 255) :
    EveryStep (fun s e _ => s.Unpins e) start path ∧ EveryStep (fun s e _ => s.Marks e) start path ∧
      EveryState PinsBounded start path := by
  have hordered : EveryState System.Ordered start path :=
    hpath.everyState hplain hready.toIdle.ordered fun _ _ _ => System.Ordered.step
  have hboth := (hordered.everyStep.and hcheck).imp
    fun s e s' h => unpins_and_marks (e := e) h.1.1 h.2.1
  refine ⟨hboth.imp fun _ _ _ => And.left, hboth.imp fun _ _ _ => And.right, ?_⟩
  have hfew : EveryState (fun s : System n => s.nextCall ≤ 255) start path :=
    (hcheck.imp fun _ _ _ => And.right).everyState hstart
  exact hfew.imp fun s hle pageId => (s.card_holders_le pageId).trans hle

end System

/-- A client fetches a page, marks it dirty and unpins it. -/
def fetchMarkUnpin : List Event :=
  [.start 0 (.fetchPage 0) none, .proceed 0 .none, .proceed 0 (.read (.ok fun _ => 4096)),
    .proceed 0 .none, .proceed 0 .none, .proceed 0 .none, .start 0 (.markDirtyPage 0) none,
    .proceed 1 .none, .start 0 (.unpinPage 0) (some 0), .proceed 2 .none]

/-- Marking and unpinning a fetched page succeed. -/
theorem uses_succeed_fetchMarkUnpin :
    (follow System.step (System.new 1 []) fetchMarkUnpin).length = 10 ∧
      EveryStep System.UsesSucceed (System.new 1 [])
        (follow System.step (System.new 1 []) fetchMarkUnpin) := by
  have hpath := isPath_follow System.step (System.new 1 []) fetchMarkUnpin
  have hplain : EveryStep (fun _ e _ => e.Plain) (System.new 1 [])
      (follow System.step (System.new 1 []) fetchMarkUnpin) :=
    everyStep_follow (by simp [fetchMarkUnpin, Event.Plain, Io.Succeeds]) _
  have huses := System.disciplined_of_check (System.new_ready 1 []) hpath hplain
    (by decide +kernel) (Nat.zero_le _)
  refine ⟨by decide +kernel, ?_⟩
  rw [uses_succeed_iff (System.new_ready 1 []) hpath hplain huses.1 huses.2.1 huses.2.2]
  decide +kernel

/-- Before the client unpins the page, another one flushes it. -/
def flushBeforeUnpin : List Event :=
  [.start 0 (.fetchPage 0) none, .proceed 0 .none, .proceed 0 (.read (.ok fun _ => 4096)),
    .proceed 0 .none, .proceed 0 .none, .proceed 0 .none, .start 0 (.markDirtyPage 0) none,
    .proceed 1 .none, .start 1 (.flushPage 0) none, .proceed 2 .none,
    .start 0 (.unpinPage 0) (some 0), .proceed 3 .none]

/-- While the flush has the frame reserved, the client cannot give its pin back. -/
theorem use_fails_during_flush :
    ∃ path, IsPath System.Step (System.new 1 []) path ∧
      EveryStep (fun _ e _ => e.Plain) (System.new 1 []) path ∧
      EveryStep (fun s e _ => s.Unpins e) (System.new 1 []) path ∧
      EveryStep (fun s e _ => s.Marks e) (System.new 1 []) path ∧
      EveryState System.PinsBounded (System.new 1 []) path ∧
      ¬ EveryStep System.UsesSucceed (System.new 1 []) path := by
  have hpath := isPath_follow System.step (System.new 1 []) flushBeforeUnpin
  have hplain : EveryStep (fun _ e _ => e.Plain) (System.new 1 [])
      (follow System.step (System.new 1 []) flushBeforeUnpin) :=
    everyStep_follow (by simp [flushBeforeUnpin, Event.Plain, Io.Succeeds]) _
  have huses := System.disciplined_of_check (System.new_ready 1 []) hpath hplain
    (by decide +kernel) (Nat.zero_le _)
  refine ⟨_, hpath, hplain, huses.1, huses.2.1, huses.2.2, fun hsucceed => ?_⟩
  have hunpin : EveryStep (fun _ e s' => e.caller = some 3 →
      (s'.calls 3).any (fun activity => decide (activity.call = .unpinPage 0) &&
        decide (activity.pc = .returned (.failed .frameReserved))) = false) (System.new 1 [])
      (follow System.step (System.new 1 []) flushBeforeUnpin) := by
    apply hsucceed.imp
    intro s e s' hsucceed hcaller
    rw [Option.any_eq_false]
    intro activity hactivity
    rw [← Bool.not_eq_true, Bool.and_eq_true, decide_eq_true_eq, decide_eq_true_eq]
    rintro ⟨hcall, hfailed⟩
    exact hsucceed 3 activity 0 .frameReserved hcaller hactivity (.inl hcall) hfailed
  exact absurd hunpin (by decide +kernel)

end Storage
end TaskPool
