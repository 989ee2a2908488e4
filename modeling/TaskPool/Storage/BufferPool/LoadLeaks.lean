import TaskPool.Storage.BufferPool.Loads
import TaskPool.Storage.BufferPool.Transparency

/-!
# Loads that are left behind

Without concurrency nobody is loading while a call starts, and a call that has returned
should not be loading any more.  Every end of a load removes its entry; a fetch that
gives up because all frames are pinned does not.

Main results:

- Theorem `Sheltered.step`: the entries of a lone call are those of the page it loads.
- Theorem `loads_removed_iff`: no entry is left by a call exactly in the sessions in
  which every fetch finds its page or a frame.
- Theorem `fetch_leaves_load`: a session with a fetch that leaves its entry.
-/

namespace TaskPool
namespace Storage

open BufferPoolManager Library

variable {n : Nat}

/-- The entry of the only call that may load a page. -/
def entryOf (callId : CallId) : Option PageId → PageId → Option CallId
  | none => fun _ => none
  | some pageId => Function.update (fun _ => none) pageId (some callId)

/-- A lone call that owns all entries and has found a frame, unless it is about to look
for one. -/
structure Sheltered (pool : BufferPoolManager n) (callId : CallId) (call : Call) (pc : Pc n)
    (slot : Fin n → Slot) : Prop extends Faithful pool callId call pc slot where
  loads_eq : pool.inFlightLoads = entryOf callId pc.loading
  start : pc.looping = true →
    ∃ pageId, pc = .fetchStart pageId false ∧ pool.findsNoFrame pageId = false

namespace Consistent

variable {pool : BufferPoolManager n} {callId : CallId} {pc : Pc n} {slot : Fin n → Slot}

/-- A frame that is reserved is taken by the lone call. -/
theorem not_reserved_of_alone (h : Consistent pool (alone callId pc) slot)
    (hnone : pc.owned callId = none) (frameId : Fin n) : (slot frameId).state ≠ .reserved := by
  intro hreserved
  have howner : ∃ owner, (slot frameId).owner = some owner := by
    cases hslot : slot frameId <;> rw [hslot] at hreserved <;> first
      | exact ⟨_, rfl⟩
      | cases hreserved
  rcases howner with ⟨owner, howner⟩
  rcases h.owner frameId owner howner with ⟨pc', hpc', howned⟩
  rcases alone_eq_some hpc' with ⟨rfl, rfl⟩
  rw [hnone] at howned
  cases howned

end Consistent

namespace Sheltered

variable {pool : BufferPoolManager n} {callId : CallId} {call : Call} {pc : Pc n}
  {slot slot' : Fin n → Slot} {io : Io} {next : Next n} {pageId : PageId}

/-- A call that has found a frame does not come back to its loop. -/
theorem looping_next (h : Sheltered pool callId call pc slot)
    (heffect : Effect callId pool slot pc io next slot')
    (hload : LoadEffect callId pool pc next) : next.pc.looping = false := by
  by_cases hlooping : pc.looping = true
  · rcases h.start hlooping with ⟨pageId, rfl, hfound⟩
    have hloads : pool.inFlightLoads = fun _ => none := h.loads_eq
    cases hload with
    | begins _ _ _ hnot => exact hnot
    | leaves hnone => simp [hnone] at hfound
    | ends _ _ hnot => exact hnot
    | keeps _ _ _ hsame =>
        cases heffect with
        | fetchWait _ hreserved =>
            exact absurd hreserved (h.consistent.not_reserved_of_alone rfl _)
        | fetchJoin _ hjoin =>
            rw [hloads] at hjoin
            cases hjoin
        | fetchSleep =>
            have hentry := congrFun hsame pageId
            simp [insertLoad, swept, hloads] at hentry
        | fetchVictim => split_ifs <;> rfl
        | _ => rfl
  · cases hload with
    | begins => exact absurd rfl hlooping
    | leaves => exact absurd rfl hlooping
    | ends _ _ hnot => exact hnot
    | keeps _ hback => exact Bool.eq_false_iff.mpr fun hnext => hlooping (hback hnext)

/-- The entries after a section are again those of the page the call loads. -/
theorem loads_next (h : Sheltered pool callId call pc slot)
    (hload : LoadEffect callId pool pc next) :
    next.pool.inFlightLoads = entryOf callId next.pc.loading := by
  have hloads := h.loads_eq
  cases hload with
  | begins htable hnone hnext _ hupdate =>
      rw [hupdate, hnext, hloads]
      rfl
  | leaves hnone =>
      rcases h.start rfl with ⟨page, hpc, hfound⟩
      cases hpc
      simp [hnone] at hfound
  | ends hpc hnext _ hupdate =>
      rw [hupdate, hnext, hloads, hpc]
      exact (Function.update_idem ..).trans (Function.update_eq_self ..)
  | keeps hnext _ _ hsame => rw [hsame, hnext, hloads]

/-- A section keeps the entries those of the lone call. -/
theorem step (h : Sheltered pool callId call pc slot)
    (hnext : pool.advance callId pc io = some next) :
    ∃ slot', Sheltered next.pool callId call next.pc slot' := by
  have hpc := alone_self callId pc
  rcases h.consistent.advance_effect hpc hnext with ⟨slot₁, heffect⟩
  have hload := heffect.loadEffect hnext
  rcases h.toFaithful.step hnext with ⟨slot', hfaithful, -⟩
  refine ⟨slot', hfaithful, h.loads_next hload, fun hlooping => ?_⟩
  rw [h.looping_next heffect hload] at hlooping
  cases hlooping

end Sheltered

/-! ## Requests -/

namespace BufferPoolManager

variable {pool pool' : BufferPoolManager n}

/-- No frame of a pool at rest is reserved. -/
theorem Sound.not_reserved (h : pool.Sound) (frameId : Fin n) :
    (pool.frames frameId).isReserved = false := by
  have hstate : (pool.frames frameId).state ≠ .reserved := by
    cases hheld : (pool.frames frameId).heldPage with
    | none =>
        rw [h.free frameId hheld]
        exact nofun
    | some pageId =>
        rw [h.resident frameId pageId hheld]
        exact nofun
  simpa [Frame.isReserved] using hstate

/-- The call is no fetch that finds no frame. -/
def FindsFrame (pool : BufferPoolManager n) : Call → Prop
  | .fetchPage pageId => pool.findsNoFrame pageId = false
  | _ => True

instance (pool : BufferPoolManager n) (call : Call) : Decidable (pool.FindsFrame call) := by
  unfold FindsFrame
  split <;> infer_instance

end BufferPoolManager

namespace Settled

variable {pool pool' : BufferPoolManager n} {request : Request} {result : CallResult n}

/-- A call that finds a frame leaves no entry. -/
theorem serve_loads (h : Settled pool) (hloads : ∀ pageId, pool.inFlightLoads pageId = none)
    (hallocated : ∀ pageId, request.call = .fetchPage pageId → pageId < pool.nextPageId)
    (hfound : pool.FindsFrame request.call)
    (hserve : pool.serve request = some (pool', result)) :
    ∀ pageId, pool'.inFlightLoads pageId = none := by
  have hrun : ∃ slot, Sheltered pool' request.callId request.call (.returned result) slot := by
    apply solo_induction (motive := fun pool pc => ∃ slot,
      Sheltered pool request.callId request.call pc slot) ?_ ?_ (serve_eq_some.mp hserve)
    · rintro pool pc io next ⟨slot, hslot⟩ hnext
      exact hslot.step hnext
    · refine ⟨pool.restSlot, h.faithful request.callId request.call hallocated, ?_, ?_⟩
      · rcases record_eq pool request.call with ⟨metrics, hmetrics⟩
        rw [hmetrics]
        cases request.call <;> exact funext hloads
      · intro hlooping
        cases hcall : request.call with
        | fetchPage pageId =>
            rw [hcall] at hfound
            exact ⟨pageId, rfl, hfound⟩
        | _ =>
            rw [hcall] at hlooping
            cases hlooping
  rcases hrun with ⟨slot, hslot⟩
  exact congrFun hslot.loads_eq

/-- A fetch that finds no frame gives up and leaves its entry. -/
theorem serve_leaves (h : Settled pool) {callId : CallId} {pageId : PageId} {ios : List Io}
    (hnone : pool.findsNoFrame pageId = true)
    (hserve : pool.serve ⟨.fetchPage pageId, callId, ios⟩ = some (pool', result)) :
    pool'.inFlightLoads pageId = some callId := by
  have hlone := h.sound.lone callId (.fetchPage pageId) trivial
  have hsolo := serve_eq_some.mp hserve
  rcases findsNoFrame_iff.mp hnone with ⟨htable, hload, hfree, hframes⟩
  cases ios with
  | nil => cases hsolo
  | cons io ios =>
      rcases solo_cons_eq_some.mp hsolo with ⟨next, hnext, hrest⟩
      rcases hlone.consistent.advance_effect (alone_self _ _) hnext with ⟨slot', heffect⟩
      have hleaves := heffect.loadEffect hnext
      cases heffect with
      | fetchWait hmapped => cases htable.symm.trans hmapped
      | fetchHit hslot =>
          cases htable.symm.trans (hlone.consistent.table_of_located (by rw [hslot, Slot.located]))
      | fetchJoin _ hjoin => cases hload.symm.trans hjoin
      | fetchTake _ _ hcons => cases hfree.symm.trans hcons
      | fetchVictim _ _ _ hslot hpins =>
          rcases hframes _ with hpinned | hreserved
          · exact absurd hpins (Frame.isPinned_iff.mp hpinned).ne'
          · rw [h.sound.not_reserved] at hreserved
            cases hreserved
      | fetchSleep =>
          cases hleaves with
          | leaves _ hcases =>
              rcases hcases with ⟨hreserved, -⟩ | ⟨-, hpc⟩
              · rcases hasReserved_iff.mp hreserved with ⟨frameId, hframe⟩
                cases (h.sound.not_reserved frameId).symm.trans hframe
              · cases hpc
          | begins _ _ hloading => cases hloading
          | ends hloading => cases hloading
          | keeps _ _ _ hsame =>
              have hentry := congrFun hsame pageId
              have hnew : (record pool (.fetchPage pageId)).inFlightLoads pageId = none := hload
              simp [insertLoad, swept, hnew] at hentry
      | fetchGiveUp =>
          rw [(solo_returned hrest).1]
          exact Function.update_self ..

end Settled

/-! ## Sessions -/

namespace Session

variable {s s' : Session n} {action : Action}

/-- Nobody is loading. -/
def NoLoads (s : Session n) : Prop := ∀ pageId, s.pool.inFlightLoads pageId = none

/-- A fetch finds its page resident, a free frame, or a frame that is not pinned. -/
def FindsFrame (s : Session n) (action : Action) (_ : Session n) : Prop :=
  match action with
  | .request request => s.pool.FindsFrame request.call
  | .write _ _ => True

instance (s : Session n) (action : Action) (s' : Session n) :
    Decidable (s.FindsFrame action s') := by
  unfold FindsFrame
  split <;> infer_instance

/-- An action of a client that fetches allocated pages only. -/
def Acts (s : Session n) (action : Action) (s' : Session n) : Prop :=
  s.act action = some s' ∧ s.FetchesAllocated action s'

/-- Without entries, an action leaves none exactly when a fetch finds a frame. -/
theorem Tracks.noLoads_iff (h : s.Tracks) (hloads : s.NoLoads) (hacts : s.Acts action s') :
    s'.NoLoads ↔ s.FindsFrame action s' := by
  rcases hacts with ⟨hact, hfetch⟩
  cases action with
  | write pageId data =>
      rcases Option.bind_eq_some_iff.mp hact with ⟨pool, hmodify, hs'⟩
      rcases Option.map_eq_some_iff.mp hmodify with ⟨frameId, -, rfl⟩
      cases hs'
      exact iff_of_true hloads trivial
  | request request =>
      rcases Option.bind_eq_some_iff.mp hact with ⟨⟨pool, result⟩, hserve, hs'⟩
      cases hs'
      rcases request with ⟨call, callId, ios⟩
      constructor
      · intro hnone
        cases call with
        | fetchPage pageId =>
            refine Bool.eq_false_iff.mpr fun hfound => ?_
            have hleft := h.settled.serve_leaves hfound hserve
            rw [hnone pageId] at hleft
            cases hleft
        | _ => trivial
      · intro hfound
        exact h.settled.serve_loads hloads (h.requested hfetch) hfound hserve

end Session

/-- In sessions whose fetches are after allocated pages, whatever the disk does, no call
leaves an entry behind exactly when every fetch finds its page or a frame. -/
theorem loads_removed_iff (n : Nat) (file : List UInt8) {path : List (Action × Session n)}
    (hpath : IsPath (fun s action s' => s.act action = some s') (Session.new n file) path)
    (hfetch : EveryStep Session.FetchesAllocated (Session.new n file) path) :
    EveryStep (fun _ _ s' => s'.NoLoads) (Session.new n file) path ↔
      EveryStep Session.FindsFrame (Session.new n file) path := by
  have hacts : IsPath Session.Acts (Session.new n file) path :=
    hpath.imp hfetch fun _ _ _ => And.intro
  refine @IsPath.everyStep_iff _ _ _ _ _ (fun s : Session n => s.Tracks ∧ s.NoLoads) _ _ hacts
    ⟨Session.new_tracks n file, fun _ => rfl⟩ ?_ ?_
  · rintro s action s' ⟨htracks, hloads⟩ hacts hfound
    have hnone := (htracks.noLoads_iff hloads hacts).mpr hfound
    exact ⟨⟨(htracks.act hacts.1 hacts.2).1, hnone⟩, hnone⟩
  · rintro s action s' ⟨htracks, hloads⟩ hacts hnone
    exact (htracks.noLoads_iff hloads hacts).mp hnone

/-- No call of the session leaves an entry. -/
theorem loads_removed_takeTurns :
    (follow Session.act (Session.new 1 []) takeTurns).length = 7 ∧
      EveryStep (fun _ _ s' => s'.NoLoads) (Session.new 1 [])
        (follow Session.act (Session.new 1 []) takeTurns) := by
  refine ⟨takeTurns_fetchesAllocated.1, ?_⟩
  rw [loads_removed_iff 1 [] (isPath_follow _ _ takeTurns) takeTurns_fetchesAllocated.2]
  decide +kernel

/-- Page 1 takes the only frame from page 0 and is pinned; then page 0 is fetched. -/
@[irreducible] def fetchWhilePinned : List Action :=
  [.request ⟨.newPage, 0, [.none]⟩, .request ⟨.unpinPage 0, 1, [.none]⟩,
    .request ⟨.newPage, 2, [.none, .write .ok, .none]⟩, .request ⟨.fetchPage 0, 3, [.none]⟩]

/-- The fetch fails and leaves its entry. -/
theorem fetch_leaves_load :
    ∃ path, IsPath (fun s action s' => s.act action = some s') (Session.new 1 []) path ∧
      EveryStep Session.FetchesAllocated (Session.new 1 []) path ∧
      ¬ EveryStep (fun _ _ s' => s'.NoLoads) (Session.new 1 []) path := by
  refine ⟨_, isPath_follow Session.act _ fetchWhilePinned, by decide +kernel, fun hnone => ?_⟩
  have hstates : EveryState Session.NoLoads (Session.new 1 [])
      (follow Session.act (Session.new 1 []) fetchWhilePinned) :=
    EveryStep.everyState hnone fun _ => rfl
  have hentry : (lastState (Session.new 1 []) (follow Session.act (Session.new 1 [])
      fetchWhilePinned)).pool.inFlightLoads 0 = some 3 := by decide +kernel
  cases (hstates.last 0).symm.trans hentry

end Storage
end TaskPool
