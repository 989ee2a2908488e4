import TaskPool.Storage.BufferPool.PinEffect

/-!
# Pinned pages stay where they are

A pin belongs to the call that took it until an `unpin_page` of the same client gives
it back.  The pin count of a frame is at least the number of these calls, as long as
it does not saturate, and a frame with a positive pin count is neither evicted nor
deleted.

Main results:

- Structure `System.Pinned`: pin counts cover the pins that calls hold.
- Theorem `System.Pinned.resume`: a section keeps them covered.
- Theorem `pinned_page_stays`: a fetched page stays in its frame until it is unpinned.
-/

namespace TaskPool
namespace Storage

open BufferPoolManager Library

variable {n : Nat}

/-! ## The pins of a system -/

namespace System

variable {s : System n} {slot slot' : Fin n → Slot} {callId caller : CallId}
  {activity : Activity n} {next : Next n} {pageId : PageId} {frameId : Fin n}

/-- The pin of the call has been given back. -/
def Released (s : System n) (callId : CallId) : Prop :=
  ∃ caller activity, s.calls caller = some activity ∧ activity.releases = some callId ∧
    activity.pc = .returned .done

/-- The call has pinned the page in the frame, and the pin has not been given back. -/
def Holds (s : System n) (callId : CallId) (pageId : PageId) (frameId : Fin n) : Prop :=
  (∃ activity, s.calls callId = some activity ∧
    activity.call.pinned activity.pc = some (pageId, frameId)) ∧ ¬ s.Released callId

open Classical in
/-- The outstanding pins of a page. -/
noncomputable def holders (s : System n) (pageId : PageId) : Finset CallId :=
  (Finset.range s.nextCall).filter fun callId => ∃ frameId, s.Holds callId pageId frameId

/-- A client unpins only pins it has obtained: an `unpin_page` is for a call of the
same client that has returned with a pin, which no other `unpin_page` has given back
or is about to. -/
def Unpins (s : System n) : Event → Prop
  | .start client (.unpinPage pageId) releases =>
    ∃ callId activity frameId, releases = some callId ∧ s.calls callId = some activity ∧
      activity.client = client ∧ (∃ result, activity.pc = .returned result) ∧
      s.Holds callId pageId frameId ∧
      ∀ caller other, s.calls caller = some other → other.releases = some callId →
        ∃ error, other.pc = .returned (.failed error)
  | .start _ _ releases => releases = none
  | .proceed _ _ => True

/-- The invariant: an unpinning call has a pin to give back, a pinned page is in the
table unless it is about to be published, and pin counts cover the outstanding pins. -/
structure Pinned (s : System n) (slot : Fin n → Slot) : Prop where
  fetching : ∀ callId activity pageId, s.calls callId = some activity →
    activity.pc.fetching = some pageId → activity.call = .fetchPage pageId
  releasing : ∀ callId activity released, s.calls callId = some activity →
    activity.releases = some released →
    (∃ pageId, activity.pc = .unpinStart pageId) ∨ ∃ result, activity.pc = .returned result
  unpinning : ∀ callId activity pageId, s.calls callId = some activity →
    activity.pc = .unpinStart pageId →
    ∃ released frameId, activity.releases = some released ∧ s.Holds released pageId frameId
  exclusive : ∀ callId caller activity other pageId released,
    s.calls callId = some activity → s.calls caller = some other →
    activity.pc = .unpinStart pageId → activity.releases = some released →
    other.releases = some released →
    (∃ error, other.pc = .returned (.failed error)) ∨ caller = callId
  located : ∀ callId activity pageId frameId, s.calls callId = some activity →
    activity.call.pinned activity.pc = some (pageId, frameId) → ¬ s.Released callId →
    (slot frameId).located = some pageId ∨ activity.pc = .fetchPublish pageId frameId
  count : ∀ callId pageId frameId, s.Holds callId pageId frameId →
    (s.holders pageId).card ≤ (s.pool.frames frameId).pins

/-- The holders of a page are the calls with a pin on it. -/
theorem mem_holders (h : s.Ordered) :
    callId ∈ s.holders pageId ↔ ∃ frameId, s.Holds callId pageId frameId := by
  classical
  unfold holders
  rw [Finset.mem_filter, Finset.mem_range]
  constructor
  · exact And.right
  · rintro ⟨frameId, hholds⟩
    rcases hholds.1 with ⟨activity, hactivity, -⟩
    exact ⟨h.lt_nextCall callId activity hactivity, frameId, hholds⟩

/-- There are no more holders than calls. -/
theorem card_holders_le (s : System n) (pageId : PageId) :
    (s.holders pageId).card ≤ s.nextCall := by
  classical
  unfold holders
  exact (Finset.card_filter_le _ _).trans (Finset.card_range s.nextCall).le

/-! ### Pinned frames -/

namespace Pinned

/-- A pinned frame holds its page. -/
theorem cases (h : s.Pinned slot) (hconsistent : Consistent s.pool s.pcs slot)
    (hholds : s.Holds callId pageId frameId) :
    (slot frameId).located = some pageId ∨ slot frameId = .loaded callId pageId := by
  rcases hholds with ⟨⟨activity, hactivity, hpinned⟩, hreleased⟩
  rcases h.located callId activity pageId frameId hactivity hpinned hreleased with hlocated | hpc
  · exact .inl hlocated
  · exact .inr (hconsistent.owned callId _ frameId _ (pcs_eq_some hactivity) (by rw [hpc]; rfl))

/-- A page with an outstanding pin is in the frame of the pin. -/
theorem held (h : s.Pinned slot) (hconsistent : Consistent s.pool s.pcs slot)
    (hholds : s.Holds callId pageId frameId) : (slot frameId).held = some pageId := by
  rcases h.cases hconsistent hholds with hlocated | hslot
  · rw [← (hconsistent.frame frameId).held_eq]
    exact hconsistent.heldPage_of_located hlocated
  · rw [hslot]
    rfl

/-- A pinned frame has a pin. -/
theorem pins_pos (h : s.Pinned slot) (hordered : s.Ordered)
    (hholds : s.Holds callId pageId frameId) : 0 < (s.pool.frames frameId).pins :=
  (Finset.card_pos.mpr ⟨callId, (mem_holders hordered).mpr ⟨frameId, hholds⟩⟩).trans_le
    (h.count callId pageId frameId hholds)

/-- All pins of a page in the table are pins of its frame. -/
theorem eq_of_resident (h : s.Pinned slot) (hconsistent : Consistent s.pool s.pcs slot)
    {other : Fin n} (hholds : s.Holds callId pageId other)
    (hslot : slot frameId = .resident pageId) : other = frameId := by
  have htable := hconsistent.table_of_slot hslot
  rcases h.cases hconsistent hholds with hlocated | hloaded
  · rw [hconsistent.table_of_located hlocated, Option.some_inj] at htable
    exact htable
  · rw [(hconsistent.layout.incoming other callId pageId (by rw [hloaded]; rfl)).2] at htable
    cases htable

/-- A page that is about to be put into a frame has no pins. -/
theorem not_holds_incoming (h : s.Pinned slot) (hconsistent : Consistent s.pool s.pcs slot)
    (hincoming : (slot frameId).incoming = some (caller, pageId))
    (hunpinned : (slot frameId).held = none ∨ (s.pool.frames frameId).pins = 0) (other : Fin n) :
    ¬ s.Holds callId pageId other := by
  intro hholds
  rcases h.cases hconsistent hholds with hlocated | hloaded
  · have htable := hconsistent.table_of_located hlocated
    rw [(hconsistent.layout.incoming frameId caller pageId hincoming).2] at htable
    cases htable
  · have hother : other = frameId :=
      hconsistent.incoming_unique hincoming (by rw [hloaded]; rfl)
    rw [hother] at hloaded
    rcases hunpinned with hnone | hzero
    · rw [hloaded] at hnone
      cases hnone
    · exact absurd hzero (hconsistent.pins_ok_of_slot hloaded).ne'

end Pinned

/-! ### A section of one call -/

/-- Signals pin nothing. -/
theorem pinned_receive (call : Call) (signal : Signal) (pc : Pc n) :
    call.pinned (pc.receive signal) = call.pinned pc := by
  cases pc <;> cases call <;> rfl

/-- Signals start no unpin. -/
theorem receive_eq_unpinStart {signal : Signal} {pc : Pc n} :
    pc.receive signal = .unpinStart pageId ↔ pc = .unpinStart pageId := by
  cases pc <;> simp [Pc.receive]

/-- Signals publish nothing. -/
theorem receive_eq_fetchPublish {signal : Signal} {pc : Pc n} :
    pc.receive signal = .fetchPublish pageId frameId ↔ pc = .fetchPublish pageId frameId := by
  cases pc <;> simp [Pc.receive]

/-- Signals leave a fetch with its page. -/
theorem fetching_receive (signal : Signal) (pc : Pc n) :
    (pc.receive signal).fetching = pc.fetching := by
  cases pc <;> rfl

/-- A pin is given back when the unpin for it succeeds. -/
theorem released_resume (hactivity : s.calls callId = some activity)
    (hreturned : ∀ result, activity.pc ≠ .returned result) {released : CallId} :
    (s.resume callId activity next).Released released ↔
      s.Released released ∨ activity.releases = some released ∧ next.pc = .returned .done := by
  constructor
  · rintro ⟨caller, other, hother, hreleases, hpc⟩
    rcases calls_resume_cases hother with ⟨-, rfl⟩ | ⟨-, before, hbefore, rfl⟩
    · exact .inr ⟨hreleases, Pc.receive_eq_returned.mp hpc⟩
    · exact .inl ⟨caller, before, hbefore, hreleases, Pc.receive_eq_returned.mp hpc⟩
  · rintro (⟨caller, other, hother, hreleases, hpc⟩ | ⟨hreleases, hpc⟩)
    · have hne : caller ≠ callId := by
        rintro rfl
        rw [hactivity, Option.some_inj] at hother
        exact hreturned _ (hother ▸ hpc)
      refine ⟨caller, { other with pc := other.pc.receive next.signal }, ?_, hreleases,
        Pc.receive_eq_returned.mpr hpc⟩
      rw [calls_resume_of_ne s hne, hother, Option.map_some]
    · exact ⟨callId, _, calls_resume_self s callId activity next, hreleases,
        Pc.receive_eq_returned.mpr hpc⟩

/-- Every pin after a section was there before it, or is the one the section took. -/
theorem holds_resume_cases (hactivity : s.calls callId = some activity)
    (hreturned : ∀ result, activity.pc ≠ .returned result)
    (heffect : PinEffect callId s.pool slot activity.pc next slot')
    (hfetching : ∀ page, activity.pc.fetching = some page → activity.call = .fetchPage page)
    (hholds : (s.resume callId activity next).Holds caller pageId frameId) :
    s.Holds caller pageId frameId ∨ caller = callId ∧ activity.call.pinned activity.pc = none ∧
      activity.call.pinned next.pc = some (pageId, frameId) := by
  rcases hholds with ⟨⟨other, hother, hpinned⟩, hreleased⟩
  rw [released_resume hactivity hreturned, not_or] at hreleased
  rcases calls_resume_cases hother with ⟨rfl, rfl⟩ | ⟨-, before, hbefore, rfl⟩
  · rw [pinned_receive] at hpinned
    rcases heffect.pinned_or hfetching with hnone | heq
    · exact .inr ⟨rfl, hnone, hpinned⟩
    · exact .inl ⟨⟨activity, hactivity, heq ▸ hpinned⟩, hreleased.1⟩
  · rw [pinned_receive] at hpinned
    exact .inl ⟨⟨before, hbefore, hpinned⟩, hreleased.1⟩

/-- A pin that is not given back in a section stays. -/
theorem holds_resume (hactivity : s.calls callId = some activity)
    (hreturned : ∀ result, activity.pc ≠ .returned result)
    (heffect : PinEffect callId s.pool slot activity.pc next slot')
    (hfetching : ∀ page, activity.pc.fetching = some page → activity.call = .fetchPage page)
    (hholds : s.Holds caller pageId frameId)
    (hkept : ¬ (activity.releases = some caller ∧ next.pc = .returned .done)) :
    (s.resume callId activity next).Holds caller pageId frameId := by
  rcases hholds with ⟨⟨other, hother, hpinned⟩, hreleased⟩
  refine ⟨?_, ?_⟩
  · by_cases hcaller : caller = callId
    · subst hcaller
      rw [hactivity, Option.some_inj] at hother
      subst hother
      refine ⟨_, calls_resume_self s caller activity next, ?_⟩
      rw [pinned_receive]
      rcases heffect.pinned_or hfetching with hnone | heq
      · rw [hnone] at hpinned
        cases hpinned
      · exact heq.trans hpinned
    · refine ⟨{ other with pc := other.pc.receive next.signal }, ?_, ?_⟩
      · rw [calls_resume_of_ne s hcaller, hother, Option.map_some]
      · exact (pinned_receive ..).trans hpinned
  · rw [released_resume hactivity hreturned]
    exact not_or.mpr ⟨hreleased, hkept⟩

/-- A section that pins nothing of a page adds no pin of it. -/
theorem card_holders_resume (hordered : s.Ordered)
    (hordered' : (s.resume callId activity next).Ordered)
    (hactivity : s.calls callId = some activity)
    (hreturned : ∀ result, activity.pc ≠ .returned result)
    (heffect : PinEffect callId s.pool slot activity.pc next slot')
    (hfetching : ∀ page, activity.pc.fetching = some page → activity.call = .fetchPage page)
    (hnone : ∀ frameId, activity.call.pinned activity.pc = none →
      activity.call.pinned next.pc ≠ some (pageId, frameId)) :
    ((s.resume callId activity next).holders pageId).card ≤ (s.holders pageId).card := by
  apply Finset.card_le_card
  intro caller hcaller
  rcases (mem_holders hordered').mp hcaller with ⟨frameId, hholds⟩
  rcases holds_resume_cases hactivity hreturned heffect hfetching hholds with hold | ⟨-, hpc, hnext⟩
  · exact (mem_holders hordered).mpr ⟨frameId, hold⟩
  · exact absurd hnext (hnone frameId hpc)

/-- A section adds at most one pin of a page. -/
theorem card_holders_resume_succ (hordered : s.Ordered)
    (hordered' : (s.resume callId activity next).Ordered)
    (hactivity : s.calls callId = some activity)
    (hreturned : ∀ result, activity.pc ≠ .returned result)
    (heffect : PinEffect callId s.pool slot activity.pc next slot')
    (hfetching : ∀ page, activity.pc.fetching = some page → activity.call = .fetchPage page) :
    ((s.resume callId activity next).holders pageId).card ≤ (s.holders pageId).card + 1 := by
  refine (Finset.card_le_card ?_).trans (Finset.card_insert_le callId (s.holders pageId))
  intro caller hcaller
  rcases (mem_holders hordered').mp hcaller with ⟨frameId, hholds⟩
  rw [Finset.mem_insert, mem_holders hordered]
  rcases holds_resume_cases hactivity hreturned heffect hfetching hholds with hold | ⟨rfl, -⟩
  · exact .inr ⟨frameId, hold⟩
  · exact .inl rfl

/-- The pin that an `unpin_page` gives back is no longer outstanding. -/
theorem card_holders_resume_unpin (hordered : s.Ordered)
    (hordered' : (s.resume callId activity next).Ordered)
    (hactivity : s.calls callId = some activity)
    (hreturned : ∀ result, activity.pc ≠ .returned result)
    (heffect : PinEffect callId s.pool slot activity.pc next slot')
    (hfetching : ∀ page, activity.pc.fetching = some page → activity.call = .fetchPage page)
    (hnext : next.pc = .returned .done) {released : CallId} {other : Fin n}
    (hreleases : activity.releases = some released) (hreleased : s.Holds released pageId other) :
    ((s.resume callId activity next).holders pageId).card ≤ (s.holders pageId).card - 1 := by
  have hsubset : (s.resume callId activity next).holders pageId ⊆
      (s.holders pageId).erase released := by
    intro caller hcaller
    rcases (mem_holders hordered').mp hcaller with ⟨frameId, hholds⟩
    rw [Finset.mem_erase, mem_holders hordered]
    constructor
    · rintro rfl
      exact hholds.2 ((released_resume hactivity hreturned).mpr (.inr ⟨hreleases, hnext⟩))
    · rcases holds_resume_cases hactivity hreturned heffect hfetching hholds with hold | ⟨-, -, hnew⟩
      · exact ⟨frameId, hold⟩
      · rw [hnext, Call.pinned_eq_none rfl] at hnew
        cases hnew
  have hcard := Finset.card_le_card hsubset
  rwa [Finset.card_erase_of_mem ((mem_holders hordered).mpr ⟨other, hreleased⟩)] at hcard

/-! ### The invariant along a run -/

namespace Pinned

/-- A pinned page is not in the frame of another page. -/
theorem ne_of_resident (h : s.Pinned slot) (hconsistent : Consistent s.pool s.pcs slot)
    (hholds : s.Holds caller pageId frameId) {page : PageId} {frame : Fin n}
    (hslot : slot frame = .resident page) (hpage : pageId ≠ page) : frameId ≠ frame := by
  rintro rfl
  have hheld := h.held hconsistent hholds
  rw [hslot] at hheld
  exact hpage (Option.some_inj.mp hheld).symm

/-- A pinned page is not in a frame without pins. -/
theorem ne_of_unpinned (h : s.Pinned slot) (hconsistent : Consistent s.pool s.pcs slot)
    (hordered : s.Ordered) (hholds : s.Holds caller pageId frameId) {frame : Fin n}
    (hunpinned : (slot frame).held = none ∨ (s.pool.frames frame).pins = 0) : frameId ≠ frame := by
  rintro rfl
  rcases hunpinned with hnone | hzero
  · rw [h.held hconsistent hholds] at hnone
    cases hnone
  · exact absurd hzero (h.pins_pos hordered hholds).ne'

/-- A page stays located while it is pinned, and a new pin is on a located page. -/
theorem located_resume (h : s.Pinned slot) (hconsistent : Consistent s.pool s.pcs slot)
    (hordered : s.Ordered) (hactivity : s.calls callId = some activity)
    (hreturned : ∀ result, activity.pc ≠ .returned result)
    (heffect : PinEffect callId s.pool slot activity.pc next slot') {other : Activity n}
    (hother : (s.resume callId activity next).calls caller = some other)
    (hpinned : other.call.pinned other.pc = some (pageId, frameId))
    (hreleased : ¬ (s.resume callId activity next).Released caller) :
    (slot' frameId).located = some pageId ∨ other.pc = .fetchPublish pageId frameId := by
  have hfetching := h.fetching callId activity
  have hcases := holds_resume_cases hactivity hreturned heffect (hfetching · hactivity)
    ⟨⟨other, hother, hpinned⟩, hreleased⟩
  -- a pin that was there before the section, when the page stays in the table
  have hstays : s.Holds caller pageId frameId →
      ((slot frameId).located = some pageId → (slot' frameId).located = some pageId) →
      (activity.pc ≠ .fetchPublish pageId frameId) →
      (slot' frameId).located = some pageId ∨ other.pc = .fetchPublish pageId frameId := by
    intro hholds hslot hpc
    rcases hholds with ⟨⟨before, hbefore, hpinned'⟩, hreleased'⟩
    rcases h.located caller before pageId frameId hbefore hpinned' hreleased' with
      hlocated | hpublish
    · exact .inl (hslot hlocated)
    · right
      rcases calls_resume_cases hother with ⟨rfl, rfl⟩ | ⟨-, before', hbefore', rfl⟩
      · rw [hactivity, Option.some_inj] at hbefore
        exact absurd (hbefore ▸ hpublish) hpc
      · rw [hbefore, Option.some_inj] at hbefore'
        exact receive_eq_fetchPublish.mpr (hbefore' ▸ hpublish)
  generalize hpc : activity.pc = pc at heffect hcases hstays
  cases heffect with
  | @hit page missRecorded frame _ hslot hnext hpins hothers =>
      rcases hcases with hholds | ⟨-, -, hnew⟩
      · exact hstays hholds id nofun
      · rw [hfetching page hactivity (by rw [hpc]; rfl), hnext] at hnew
        cases hnew
        rw [hslot]
        exact .inl rfl
  | @install _ page frame _ slotAfter hpage hnone hincoming hunpinned hheld hnext hpins hothers =>
      rcases hcases with hholds | ⟨rfl, -, hnew⟩
      · have hne := h.ne_of_unpinned hconsistent hordered hholds hunpinned
        refine hstays hholds (fun hlocated => by rwa [Function.update_of_ne hne]) ?_
        rintro rfl
        have hpin := hnone (.fetchPage pageId)
        cases hpin
      · have hcall := hfetching page hactivity (by rw [hpc]; exact hpage)
        rcases hnext with hpublish | ⟨hlocated, waiter, hnotify⟩
        · rw [hcall, hpublish] at hnew
          cases hnew
          right
          rcases calls_resume_cases hother with ⟨-, rfl⟩ | ⟨hne, -⟩
          · exact receive_eq_fetchPublish.mpr hpublish
          · exact absurd rfl hne
        · rw [hcall, hnotify] at hnew
          cases hnew
          rw [Function.update_self]
          exact .inl hlocated
  | @publish page frame _ waiter hslot hnext hpins =>
      have hcall := hfetching page hactivity (by rw [hpc]; rfl)
      rcases hcases with hholds | ⟨-, hnone, -⟩
      · by_cases hframe : frameId = frame
        · have hheld := h.held hconsistent hholds
          rw [hframe, hslot] at hheld
          rw [hframe, Function.update_self]
          exact .inl hheld
        · refine hstays hholds (fun hlocated => by rwa [Function.update_of_ne hframe]) ?_
          rintro ⟨⟩
          exact hframe rfl
      · rw [hcall] at hnone
        cases hnone
  | unpin hslot hpositive hnext hpins hothers =>
      rcases hcases with hholds | ⟨-, -, hnew⟩
      · exact hstays hholds id nofun
      · rw [hnext, Call.pinned_eq_none rfl] at hnew
        cases hnew
  | rest hsame hpublish hunpin hkeeps =>
      rcases hcases with hholds | ⟨-, hnone, hnew⟩
      · exact hstays hholds (hkeeps frameId pageId (h.pins_pos hordered hholds)
          (h.held hconsistent hholds)).2.1 (hpublish pageId frameId)
      · rw [hsame, hnone] at hnew
        cases hnew

/-- The pins of a resident page are counted in its frame. -/
theorem card_holders_le_pins (h : s.Pinned slot) (hconsistent : Consistent s.pool s.pcs slot)
    (hordered : s.Ordered) (hslot : slot frameId = .resident pageId) :
    (s.holders pageId).card ≤ (s.pool.frames frameId).pins := by
  rcases (s.holders pageId).eq_empty_or_nonempty with hempty | ⟨id, hid⟩
  · rw [hempty]
    exact Nat.zero_le _
  · rcases (mem_holders hordered).mp hid with ⟨other, hold⟩
    have hother := h.eq_of_resident hconsistent hold hslot
    exact hother ▸ h.count id pageId other hold

/-- A page that is still being loaded has no pins. -/
theorem holders_eq_empty (h : s.Pinned slot) (hconsistent : Consistent s.pool s.pcs slot)
    (hordered : s.Ordered) (hincoming : (slot frameId).incoming = some (callId, pageId))
    (hunpinned : (slot frameId).held = none ∨ (s.pool.frames frameId).pins = 0) :
    s.holders pageId = ∅ := by
  rw [Finset.eq_empty_iff_forall_notMem]
  intro id hid
  rcases (mem_holders hordered).mp hid with ⟨other, hold⟩
  exact h.not_holds_incoming hconsistent hincoming hunpinned other hold

/-- Pin counts cover the pins after a section, when they do not saturate. -/
theorem count_resume (h : s.Pinned slot) (hconsistent : Consistent s.pool s.pcs slot)
    (hordered : s.Ordered) (hordered' : (s.resume callId activity next).Ordered)
    (hactivity : s.calls callId = some activity)
    (hreturned : ∀ result, activity.pc ≠ .returned result)
    (heffect : PinEffect callId s.pool slot activity.pc next slot')
    (hbound : ((s.resume callId activity next).holders pageId).card ≤ 255)
    (hholds : (s.resume callId activity next).Holds caller pageId frameId) :
    ((s.resume callId activity next).holders pageId).card ≤ (next.pool.frames frameId).pins := by
  have hfetching := fun page => h.fetching callId activity page hactivity
  have hcases := holds_resume_cases hactivity hreturned heffect hfetching hholds
  have hsucc : ((s.resume callId activity next).holders pageId).card ≤ _ :=
    card_holders_resume_succ hordered hordered' hactivity hreturned heffect hfetching
  have hunpin : next.pc = .returned .done → ∀ {released other},
      activity.releases = some released → s.Holds released pageId other →
      ((s.resume callId activity next).holders pageId).card ≤ (s.holders pageId).card - 1 :=
    card_holders_resume_unpin hordered hordered' hactivity hreturned heffect hfetching
  -- a page that gets no new pin, in a frame whose pins stay
  have hstays : (∀ frameId, activity.call.pinned activity.pc = none →
      activity.call.pinned next.pc ≠ some (pageId, frameId)) →
      (s.Holds caller pageId frameId →
        (next.pool.frames frameId).pins = (s.pool.frames frameId).pins) →
      ((s.resume callId activity next).holders pageId).card ≤
        (next.pool.frames frameId).pins := by
    intro hnone hpins
    rcases hcases with hold | ⟨-, hpinned, hnew⟩
    · rw [hpins hold]
      exact (card_holders_resume hordered hordered' hactivity hreturned heffect hfetching
        hnone).trans (h.count caller pageId frameId hold)
    · exact absurd hnew (hnone frameId hpinned)
  generalize hpc : activity.pc = pc at heffect hcases hstays hfetching
  cases heffect with
  | @hit page missRecorded frame _ hslot hnext hpins hothers =>
      have hpinned : activity.call.pinned next.pc = some (page, frame) := by
        rw [hfetching page rfl, hnext]
        rfl
      by_cases hpage : pageId = page
      · subst hpage
        have hframe : frameId = frame := by
          rcases hcases with hold | ⟨-, -, hnew⟩
          · exact h.eq_of_resident hconsistent hold hslot
          · rw [hpinned, Option.some_inj, Prod.mk.injEq] at hnew
            exact hnew.2.symm
        have hle := h.card_holders_le_pins hconsistent hordered hslot
        rw [hframe, hpins]
        exact le_min hbound (hsucc.trans (Nat.succ_le_succ hle))
      · exact hstays (fun other _ => Call.pinned_ne hpinned hpage other) fun hold =>
          hothers frameId (h.ne_of_resident hconsistent hold hslot hpage)
  | @install _ page frame _ slotAfter hfetch hnone hincoming hunpinned hheld hnext hpins hothers =>
      have hpinned : activity.call.pinned next.pc = some (page, frame) := by
        rcases hnext with hpublish | ⟨-, waiter, hnotify⟩
        · rw [hfetching page hfetch, hpublish]
          rfl
        · rw [hfetching page hfetch, hnotify]
          rfl
      by_cases hpage : pageId = page
      · subst hpage
        have hempty := h.holders_eq_empty hconsistent hordered hincoming hunpinned
        rw [hempty, Finset.card_empty, Nat.zero_add] at hsucc
        rcases hcases with hold | ⟨-, -, hnew⟩
        · exact absurd hold (h.not_holds_incoming hconsistent hincoming hunpinned frameId)
        · rw [hpinned, Option.some_inj, Prod.mk.injEq] at hnew
          rw [← hnew.2]
          exact hsucc.trans hpins
      · exact hstays (fun other _ => Call.pinned_ne hpinned hpage other) fun hold =>
          hothers frameId (h.ne_of_unpinned hconsistent hordered hold hunpinned)
  | @publish page frame _ waiter hslot hnext hpins =>
      have hpinned : activity.call.pinned (.fetchPublish page frame) ≠ none := by
        rw [hfetching page rfl]
        exact nofun
      exact hstays (fun _ hnone => absurd hnone hpinned) fun _ => hpins frameId
  | @unpin page frame _ hslot hpositive hnext hpins hothers =>
      have hnone : ∀ frameId, activity.call.pinned next.pc ≠ some (pageId, frameId) := by
        intro other hnew
        rw [hnext, Call.pinned_eq_none rfl] at hnew
        cases hnew
      by_cases hpage : pageId = page
      · subst hpage
        rcases hcases with hold | ⟨-, -, hnew⟩
        · have hframe := h.eq_of_resident hconsistent hold hslot
          rw [hframe] at hold ⊢
          rcases h.unpinning callId activity pageId hactivity hpc with
            ⟨released, other, hreleases, hreleased⟩
          rw [hpins]
          exact (hunpin hnext hreleases hreleased).trans
            (Nat.sub_le_sub_right (h.count caller pageId frame hold) 1)
        · exact absurd hnew (hnone frameId)
      · exact hstays (fun other _ => hnone other) fun hold =>
          hothers frameId (h.ne_of_resident hconsistent hold hslot hpage)
  | rest hsame hpublish hunpin hkeeps =>
      have hnone : ∀ frameId, activity.call.pinned pc = none →
          activity.call.pinned next.pc ≠ some (pageId, frameId) := by
        intro other hnone hnew
        rw [hsame, hnone] at hnew
        cases hnew
      exact hstays hnone fun hold => (hkeeps frameId pageId (h.pins_pos hordered hold)
        (h.held hconsistent hold)).2.2

/-- A section keeps the invariant. -/
theorem resume (h : s.Pinned slot) (hconsistent : Consistent s.pool s.pcs slot)
    (hordered : s.Ordered) (hordered' : (s.resume callId activity next).Ordered)
    (hactivity : s.calls callId = some activity) {io : Io}
    (heffect : Effect callId s.pool slot activity.pc io next slot')
    (hbound : ∀ pageId, ((s.resume callId activity next).holders pageId).card ≤ 255) :
    (s.resume callId activity next).Pinned slot' := by
  have hpc := pcs_eq_some hactivity
  have hreturned : ∀ result, activity.pc ≠ .returned result := by
    intro result hresult
    rw [hresult] at heffect
    cases heffect
  have hpin := heffect.pinEffect hconsistent hpc (hordered.plain callId _ hpc)
  have hfetching := fun page => h.fetching callId activity page hactivity
  -- a call that is about to unpin is not the one that has run the section
  have hstart : ∀ {caller other page}, (s.resume callId activity next).calls caller = some other →
      other.pc = .unpinStart page → caller ≠ callId ∧ ∃ before, s.calls caller = some before ∧
        before.pc = .unpinStart page ∧ before.releases = other.releases := by
    intro caller other page hother hunpin
    rcases calls_resume_cases hother with ⟨-, rfl⟩ | ⟨hne, before, hbefore, rfl⟩
    · exact absurd (receive_eq_unpinStart.mp hunpin) (heffect.next_ne_unpinStart page)
    · exact ⟨hne, before, hbefore, receive_eq_unpinStart.mp hunpin, rfl⟩
  -- nor is another one for the same pin
  have hexclusive : ∀ {caller before page released}, caller ≠ callId →
      s.calls caller = some before → before.pc = .unpinStart page →
      before.releases = some released → activity.releases ≠ some released := by
    intro caller before page released hne hbefore hunpin hreleases hactivity'
    rcases h.exclusive caller callId before activity page released hbefore hactivity hunpin hreleases
      hactivity' with ⟨error, hfailed⟩ | heq
    · exact hreturned _ hfailed
    · exact hne heq.symm
  refine
    { fetching := ?_
      releasing := ?_
      unpinning := ?_
      exclusive := ?_
      located := ?_
      count := ?_ }
  · intro caller other page hother hfetch
    rcases calls_resume_cases hother with ⟨-, rfl⟩ | ⟨-, before, hbefore, rfl⟩
    · rw [fetching_receive] at hfetch
      exact hfetching page (heffect.fetching_of_next hfetch)
    · rw [fetching_receive] at hfetch
      exact h.fetching caller before page hbefore hfetch
  · intro caller other released hother hreleases
    rcases calls_resume_cases hother with ⟨-, rfl⟩ | ⟨-, before, hbefore, rfl⟩
    · right
      rcases h.releasing callId activity released hactivity hreleases with
        ⟨page, hunpin⟩ | ⟨result, hresult⟩
      · rw [hunpin] at hpin
        rcases hpin.returned_of_unpinStart with ⟨result, hresult⟩
        exact ⟨result, Pc.receive_eq_returned.mpr hresult⟩
      · exact absurd hresult (hreturned result)
    · rcases h.releasing caller before released hbefore hreleases with
        ⟨page, hunpin⟩ | ⟨result, hresult⟩
      · exact .inl ⟨page, receive_eq_unpinStart.mpr hunpin⟩
      · exact .inr ⟨result, Pc.receive_eq_returned.mpr hresult⟩
  · intro caller other page hother hunpin
    rcases hstart hother hunpin with ⟨hne, before, hbefore, hunpin', heq⟩
    rcases h.unpinning caller before page hbefore hunpin' with ⟨released, frame, hreleases, hholds⟩
    refine ⟨released, frame, heq ▸ hreleases, ?_⟩
    exact holds_resume hactivity hreturned hpin hfetching hholds
      fun hactivity' => hexclusive hne hbefore hunpin' hreleases hactivity'.1
  · intro caller caller' other other' page released hother hother' hunpin hreleases hreleases'
    rcases hstart hother hunpin with ⟨hne, before, hbefore, hunpin', heq⟩
    rw [← heq] at hreleases
    rcases calls_resume_cases hother' with ⟨-, rfl⟩ | ⟨-, before', hbefore', rfl⟩
    · exact absurd hreleases' (hexclusive hne hbefore hunpin' hreleases)
    · rcases h.exclusive caller caller' before before' page released hbefore hbefore' hunpin'
        hreleases hreleases' with ⟨error, hfailed⟩ | heq
      · exact .inl ⟨error, Pc.receive_eq_returned.mpr hfailed⟩
      · exact .inr heq
  · intro caller other page frame hother hpinned hreleased
    exact h.located_resume hconsistent hordered hactivity hreturned hpin hother hpinned hreleased
  · intro caller page frame hholds
    exact h.count_resume hconsistent hordered hordered' hactivity hreturned hpin (hbound page) hholds

/-- A call that starts has no pin. -/
theorem pinned_entry (call : Call) : call.pinned (call.entry : Pc n) = none := by
  cases call <;> rfl

/-- No call starts at its end. -/
theorem entry_ne_returned (call : Call) (result : CallResult n) :
    (call.entry : Pc n) ≠ .returned result := by
  cases call <;> exact nofun

/-- A start gives no pin back. -/
theorem released_launch (hordered : s.Ordered) {client : Nat} {call : Call}
    {releases : Option CallId} {released : CallId} :
    (s.launch client call releases).Released released ↔ s.Released released := by
  constructor
  · rintro ⟨caller, other, hother, hreleases, hpc⟩
    rcases calls_launch_cases hother with ⟨-, rfl⟩ | ⟨-, hother⟩
    · exact absurd hpc (entry_ne_returned call .done)
    · exact ⟨caller, other, hother, hreleases, hpc⟩
  · rintro ⟨caller, other, hother, hreleases, hpc⟩
    exact ⟨caller, other, hordered.numbered.calls_launch hother client call _, hreleases, hpc⟩

/-- A start takes no pin. -/
theorem holds_launch (hordered : s.Ordered) {client : Nat} {call : Call}
    {releases : Option CallId} :
    (s.launch client call releases).Holds caller pageId frameId ↔
      s.Holds caller pageId frameId := by
  unfold Holds
  rw [released_launch hordered]
  constructor
  · rintro ⟨⟨other, hother, hpinned⟩, hreleased⟩
    rcases calls_launch_cases hother with ⟨-, rfl⟩ | ⟨-, hother⟩
    · rw [pinned_entry] at hpinned
      cases hpinned
    · exact ⟨⟨other, hother, hpinned⟩, hreleased⟩
  · rintro ⟨⟨other, hother, hpinned⟩, hreleased⟩
    exact ⟨⟨other, hordered.numbered.calls_launch hother client call _, hpinned⟩, hreleased⟩

/-- A call that starts keeps the invariant, when it unpins only what its client has pinned. -/
theorem launch (h : s.Pinned slot) (hordered : s.Ordered) {client : Nat} {call : Call}
    {releases : Option CallId} (hordered' : (s.launch client call releases).Ordered)
    (hunpins : s.Unpins (.start client call releases)) :
    (s.launch client call releases).Pinned slot := by
  have hreleases : ∀ released, releases = some released →
      (∃ page, call = .unpinPage page ∧ ∃ frame, s.Holds released page frame) ∧
      ∀ caller other, s.calls caller = some other → other.releases = some released →
        ∃ error, other.pc = .returned (.failed error) := by
    intro released hsome
    cases call <;> simp only [Unpins, hsome, reduceCtorEq] at hunpins
    rcases hunpins with ⟨callId, activity, frame, heq, -, -, -, hholds, hfailed⟩
    cases heq
    exact ⟨⟨_, rfl, frame, hholds⟩, hfailed⟩
  refine
    { fetching := ?_
      releasing := ?_
      unpinning := ?_
      exclusive := ?_
      located := ?_
      count := ?_ }
  · intro caller other page hother hfetch
    rcases calls_launch_cases hother with ⟨-, rfl⟩ | ⟨-, hother⟩
    · cases call <;> cases hfetch
      rfl
    · exact h.fetching caller other page hother hfetch
  · intro caller other released hother hsome
    rcases calls_launch_cases hother with ⟨-, rfl⟩ | ⟨-, hother⟩
    · rcases (hreleases released hsome).1 with ⟨page, rfl, -⟩
      exact .inl ⟨page, rfl⟩
    · exact h.releasing caller other released hother hsome
  · intro caller other page hother hunpin
    rcases calls_launch_cases hother with ⟨-, rfl⟩ | ⟨-, hother⟩
    · cases call <;> cases hunpin
      rcases hunpins with ⟨callId, activity, frame, hsome, -, -, -, hholds, -⟩
      exact ⟨callId, frame, hsome, (holds_launch hordered).mpr hholds⟩
    · rcases h.unpinning caller other page hother hunpin with ⟨released, frame, hsome, hholds⟩
      exact ⟨released, frame, hsome, (holds_launch hordered).mpr hholds⟩
  · intro caller caller' other other' page released hother hother' hunpin hsome hsome'
    rcases calls_launch_cases hother with ⟨rfl, rfl⟩ | ⟨-, hother⟩ <;>
      rcases calls_launch_cases hother' with ⟨rfl, rfl⟩ | ⟨-, hother'⟩
    · exact .inr rfl
    · exact .inl ((hreleases released hsome).2 caller' other' hother' hsome')
    · rcases (hreleases released hsome').2 caller other hother hsome with ⟨error, hfailed⟩
      rw [hfailed] at hunpin
      cases hunpin
    · exact h.exclusive caller caller' other other' page released hother hother' hunpin hsome hsome'
  · intro caller other page frame hother hpinned hreleased
    rw [released_launch hordered] at hreleased
    rcases calls_launch_cases hother with ⟨-, rfl⟩ | ⟨-, hother⟩
    · rw [pinned_entry] at hpinned
      cases hpinned
    · exact h.located caller other page frame hother hpinned hreleased
  · intro caller page frame hholds
    have hcount := h.count caller page frame ((holds_launch hordered).mp hholds)
    have hsubset : (s.launch client call releases).holders page ⊆ s.holders page := by
      intro id hid
      rcases (mem_holders hordered').mp hid with ⟨other, hother⟩
      exact (mem_holders hordered).mpr ⟨other, (holds_launch hordered).mp hother⟩
    rcases record_eq s.pool call with ⟨metrics, hmetrics⟩
    rw [System.launch, hmetrics]
    exact (Finset.card_le_card hsubset).trans hcount

end Pinned

/-- A system that is idle, with all outstanding pins counted in the frames. -/
structure Ready (s : System n) : Prop extends s.Idle where
  counted : ∀ callId pageId frameId, s.Holds callId pageId frameId →
    s.pool.pageTable pageId = some frameId ∧
      (s.holders pageId).card ≤ (s.pool.frames frameId).pins

/-- No page has more than 255 outstanding pins. -/
def PinsBounded (s : System n) : Prop := ∀ pageId, (s.holders pageId).card ≤ 255

/-- A page that a client has fetched and not yet unpinned is in its frame. -/
def FetchedPagesStay (s : System n) : Prop :=
  ∀ callId activity pageId frameId, s.calls callId = some activity →
    activity.call = .fetchPage pageId → activity.pc = .returned (.fetched frameId) →
    ¬ s.Released callId →
    s.pool.pageTable pageId = some frameId ∧ (s.pool.frames frameId).heldPage = some pageId

/-- A system without calls has no pins. -/
theorem new_ready (n : Nat) (file : List UInt8) : (System.new n file).Ready where
  toIdle := new_idle n file
  counted := by
    rintro callId pageId frameId ⟨⟨activity, hactivity, -⟩, -⟩
    cases hactivity

/-- The invariant of runs in which clients unpin what they have pinned. -/
def Covered (s : System n) : Prop :=
  s.Ordered ∧ ∃ slot, Consistent s.pool s.pcs slot ∧ s.Pinned slot

/-- In a ready system all pins are covered. -/
theorem Ready.covered (h : s.Ready) : s.Covered := by
  refine ⟨h.toIdle.ordered, s.pool.restSlot, h.sound.consistent fun _ _ => h.returned_pcs, ?_⟩
  refine
    { fetching := ?_
      releasing := ?_
      unpinning := ?_
      exclusive := ?_
      located := ?_
      count := fun callId pageId frameId hholds => (h.counted callId pageId frameId hholds).2 }
  · intro callId activity pageId hactivity hfetch
    rcases (h.returned callId activity hactivity).2 with ⟨result, hresult⟩
    rw [hresult] at hfetch
    cases hfetch
  · intro callId activity released hactivity _
    exact .inr (h.returned callId activity hactivity).2
  · intro callId activity pageId hactivity hunpin
    rcases (h.returned callId activity hactivity).2 with ⟨result, hresult⟩
    rw [hresult] at hunpin
    cases hunpin
  · intro callId caller activity other pageId released hactivity _ hunpin
    rcases (h.returned callId activity hactivity).2 with ⟨result, hresult⟩
    rw [hresult] at hunpin
    cases hunpin
  · intro callId activity pageId frameId hactivity hpinned hreleased
    left
    rw [located_restSlot, ← h.sound.table_iff]
    exact (h.counted callId pageId frameId ⟨⟨activity, hactivity, hpinned⟩, hreleased⟩).1

/-- Every step keeps the invariant. -/
theorem Covered.step {s' : System n} {e : Event} (h : s.Covered) (hstep : s.Step e s')
    (hplain : e.Plain) (hunpins : s.Unpins e) (hbound : s'.PinsBounded) : s'.Covered := by
  rcases h with ⟨hordered, slot, hconsistent, hpinned⟩
  have hordered' := hordered.step hstep hplain
  rcases step_cases hstep with ⟨client, call, releases, rfl, rfl⟩ |
    ⟨callId, io, activity, next, rfl, hactivity, hnext, rfl⟩
  · exact ⟨hordered', slot, hordered.numbered.consistent_launch hconsistent client call releases,
      hpinned.launch hordered hordered' hunpins⟩
  · rcases hconsistent.advance_effect (pcs_eq_some hactivity) hnext with ⟨slot', heffect⟩
    exact ⟨hordered', slot', hordered.resume hconsistent hactivity heffect,
      hpinned.resume hconsistent hordered hordered' hactivity heffect hbound⟩

/-- The invariant has the pinned pages in their frames. -/
theorem Covered.fetchedPagesStay (h : s.Covered) : s.FetchedPagesStay := by
  rcases h with ⟨-, slot, hconsistent, hpinned⟩
  intro callId activity pageId frameId hactivity hcall hpc hreleased
  have hlocated := hpinned.located callId activity pageId frameId hactivity
    (by rw [hcall, hpc]; rfl) hreleased
  rw [hpc] at hlocated
  rcases hlocated with hlocated | hpublish
  · exact ⟨hconsistent.table_of_located hlocated,
      hconsistent.heldPage_of_located hlocated⟩
  · cases hpublish

end System

/-- From a ready system, in every state of every run without `new_page` and disk
failures, in which clients unpin only what they have pinned and no page ever has more
than 255 pins. -/
theorem pinned_page_stays {s : System n} (hready : s.Ready) {path : List (Event × System n)}
    (hpath : IsPath System.Step s path) (hplain : EveryStep (fun _ e _ => e.Plain) s path)
    (hunpins : EveryStep (fun s e _ => s.Unpins e) s path)
    (hbound : EveryState System.PinsBounded s path) :
    EveryState System.FetchedPagesStay s path := by
  have hcovered : EveryState System.Covered s path := by
    refine hpath.everyState ((hplain.and hunpins).and hbound.everyStep) hready.covered ?_
    intro s e s' h hstep hall
    exact h.step hstep hall.1.1 hall.1.2 hall.2.2
  exact hcovered.imp fun s => System.Covered.fetchedPagesStay

/-- A pool with one frame, which holds page 0 with the pin of a call that has returned. -/
def System.fetchedOnce : System 1 where
  pool :=
    { BufferPoolManager.new 1 [] with
      frames := fun _ => .loaded 0 (Buffer.zero pageSize)
      pageTable := PageTable.new.insert 0 0
      freeFrames := [] }
  calls := Function.update (fun _ => none) 0
    (some ⟨0, .fetchPage 0, none, .returned (.fetched 0)⟩)
  nextCall := 1

/-- Another client fetches the page, then the first one unpins it. -/
def fetchThenUnpin : List Event :=
  [.start 1 (.fetchPage 0) none, .proceed 1 .none, .start 0 (.unpinPage 0) (some 0),
    .proceed 2 .none]

/-- The pin of the returned fetch is counted. -/
theorem System.fetchedOnce_ready : System.fetchedOnce.Ready where
  sound :=
    { table_iff := by
        intro pageId frameId
        rw [Subsingleton.elim frameId 0]
        by_cases hpage : pageId = 0
        · exact iff_of_true (by rw [hpage]; rfl) (by rw [hpage]; rfl)
        · exact iff_of_false
            (by simp [fetchedOnce, PageTable.insert, PageTable.new, Function.update_of_ne hpage])
            (by simp [fetchedOnce, Frame.loaded, Frame.heldPage, Ne.symm hpage])
      resident := fun _ _ _ => rfl
      free := nofun
      free_nodup := List.nodup_nil
      mem_free := fun _ => iff_of_false List.not_mem_nil nofun }
  returned := by
    intro callId activity hactivity
    rcases callId with _ | callId <;> cases hactivity
    exact ⟨Nat.one_pos, _, rfl⟩
  counted := by
    rintro callId pageId frameId ⟨⟨activity, hactivity, hpinned⟩, -⟩
    rcases callId with _ | callId <;> cases hactivity
    cases hpinned
    exact ⟨rfl, System.card_holders_le fetchedOnce 0⟩

/-- The page stays in its frame while one client unpins it and the other one does not. -/
theorem pinned_page_stays_fetchThenUnpin :
    (follow System.step System.fetchedOnce fetchThenUnpin).length = 4 ∧
      EveryState System.FetchedPagesStay System.fetchedOnce
        (follow System.step System.fetchedOnce fetchThenUnpin) := by
  refine ⟨rfl, ?_⟩
  apply pinned_page_stays System.fetchedOnce_ready (isPath_follow System.step _ fetchThenUnpin)
  · exact everyStep_follow (by simp [fetchThenUnpin, Event.Plain, Io.Succeeds]) _
  · refine ⟨rfl, trivial, ?_, trivial, trivial⟩
    -- the two calls so far are fetches
    have hnone : ∀ caller other, ((follow System.step System.fetchedOnce fetchThenUnpin).get
        ⟨1, by decide⟩).2.calls caller = some other → other.releases = none := by
      intro caller other hother
      rcases caller with _ | _ | caller <;> cases hother <;> rfl
    refine ⟨0, _, 0, rfl, rfl, rfl, ⟨_, rfl⟩, ⟨⟨_, rfl, rfl⟩, ?_⟩, ?_⟩
    · rintro ⟨caller, other, hother, hreleases, -⟩
      rw [hnone caller other hother] at hreleases
      cases hreleases
    · intro caller other hother hreleases
      rw [hnone caller other hother] at hreleases
      cases hreleases
  · have hbound : ∀ s : System 1, s.nextCall ≤ 255 → s.PinsBounded :=
      fun s hle pageId => (s.card_holders_le pageId).trans hle
    exact ⟨hbound _ (by decide), hbound _ (by decide), hbound _ (by decide), hbound _ (by decide),
      hbound _ (by decide)⟩

end Storage
end TaskPool
