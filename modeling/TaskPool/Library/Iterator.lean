import Mathlib.Logic.Basic

/-!
# Iterators that can fail

A method that advances an iterator returns the next item, or `none` behind the last one,
with the iterator it leaves behind; where it fails it returns nothing at all.

Main results:

- Inductive relation `Exhausts`: the calls up to the first `none` succeed and return these
  items.
- Theorem `Exhausts.unique`: there is at most one such list of items.
- Theorem `Exhausts.erase`: what an instrumented iterator returns, the bare one returns.
-/

namespace TaskPool
namespace Library

variable {σ τ β : Type*} {next : σ → Option (Option β × σ)} {s s' last last' : σ}
  {items items' : List β}

/-- No call fails up to the first one that returns `none`; the earlier ones return the
items. -/
inductive Exhausts (next : σ → Option (Option β × σ)) : σ → List β → σ → Prop
  | done {s last : σ} (hnext : next s = some (none, last)) : Exhausts next s [] last
  | item {s s' last : σ} {b : β} {items : List β} (hnext : next s = some (some b, s'))
      (hrest : Exhausts next s' items last) : Exhausts next s (b :: items) last

namespace Exhausts

/-- Only the first call looks at the iterator. -/
theorem of_next_eq (h : Exhausts next s' items last) (heq : next s = next s') :
    Exhausts next s items last := by
  cases h with
  | done hnext => exact .done (heq.trans hnext)
  | item hnext hrest => exact .item (heq.trans hnext) hrest

/-- An iterator that runs out yields one list of items and ends in one state. -/
theorem unique (h : Exhausts next s items last) (h' : Exhausts next s items' last') :
    items = items' ∧ last = last' := by
  induction h generalizing items' with
  | done hnext =>
      cases h' with
      | done hnext' =>
          rw [hnext, Option.some_inj, Prod.mk.injEq] at hnext'
          exact ⟨rfl, hnext'.2⟩
      | item hnext' _ =>
          rw [hnext] at hnext'
          cases hnext'
  | item hnext _ ih =>
      cases h' with
      | done hnext' =>
          rw [hnext] at hnext'
          cases hnext'
      | item hnext' hrest' =>
          rw [hnext] at hnext'
          cases hnext'
          obtain ⟨hitems, hlast⟩ := ih hrest'
          exact ⟨by rw [hitems], hlast⟩

/-- Dropping what an instrumented iterator adds to the state. -/
theorem erase {next' : τ → Option (Option β × τ)} {f : σ → τ}
    (herase : ∀ s, next' (f s) = (next s).map (Prod.map id f)) (h : Exhausts next s items last) :
    Exhausts next' (f s) items (f last) := by
  induction h with
  | done hnext => exact .done (by rw [herase, hnext]; rfl)
  | item hnext _ ih => exact .item (by rw [herase, hnext]; rfl) ih

end Exhausts

end Library
end TaskPool
