import Mathlib.Logic.Function.Basic

/-!
# Write-back caches

A cache holds values of some keys in front of a store that has a value of every key.
A held value that is dirty may differ from the stored one.  A reader sees the held
value of a key, or the stored one when none is held.

Main results:

- Definition `Cache.view`: what a reader sees.
- Theorems `Cache.view_load`, `Cache.view_drop`, `Cache.view_writeStore` and
  `Cache.view_markClean`: loading, dropping a clean value, overwriting the stored value
  of a dirty one and marking a written value clean are invisible.
- Theorems `Silent.coherent` and `Silent.view_eq`: so are all sequences of these.
- Theorem `Cache.view_put`: a put is visible at its own key only.
-/

namespace TaskPool
namespace Library

/-- Held values, dirty marks and stored values. -/
@[ext] structure Cache (κ ν : Type*) where
  held : κ → Option ν
  dirty : κ → Bool
  store : κ → ν

namespace Cache

variable {κ ν : Type*}

/-- The value that a reader sees. -/
def view (cache : Cache κ ν) (key : κ) : ν := (cache.held key).getD (cache.store key)

/-- A held value that is not dirty is the stored one. -/
def Coherent (cache : Cache κ ν) : Prop :=
  ∀ key value, cache.held key = some value → cache.dirty key = false → value = cache.store key

variable [DecidableEq κ]

/-- Hold the stored value. -/
def load (cache : Cache κ ν) (key : κ) : Cache κ ν where
  held := Function.update cache.held key (some (cache.store key))
  dirty := Function.update cache.dirty key false
  store := cache.store

/-- Stop holding a value. -/
def drop (cache : Cache κ ν) (key : κ) : Cache κ ν where
  held := Function.update cache.held key none
  dirty := Function.update cache.dirty key false
  store := cache.store

/-- Overwrite the stored value. -/
def writeStore (cache : Cache κ ν) (key : κ) (value : ν) : Cache κ ν :=
  { cache with store := Function.update cache.store key value }

/-- Mark a key as different from the store. -/
def markDirty (cache : Cache κ ν) (key : κ) : Cache κ ν :=
  { cache with dirty := Function.update cache.dirty key true }

/-- Mark a key as equal to the store. -/
def markClean (cache : Cache κ ν) (key : κ) : Cache κ ν :=
  { cache with dirty := Function.update cache.dirty key false }

/-- Hold a new value. -/
def put (cache : Cache κ ν) (key : κ) (value : ν) : Cache κ ν where
  held := Function.update cache.held key (some value)
  dirty := Function.update cache.dirty key true
  store := cache.store

section Fields

variable (cache : Cache κ ν) (key : κ) (value : ν)

@[simp] theorem held_load :
    (cache.load key).held = Function.update cache.held key (some (cache.store key)) := rfl

@[simp] theorem dirty_load : (cache.load key).dirty = Function.update cache.dirty key false := rfl

@[simp] theorem store_load : (cache.load key).store = cache.store := rfl

@[simp] theorem held_drop : (cache.drop key).held = Function.update cache.held key none := rfl

@[simp] theorem dirty_drop : (cache.drop key).dirty = Function.update cache.dirty key false := rfl

@[simp] theorem store_drop : (cache.drop key).store = cache.store := rfl

@[simp] theorem dirty_writeStore : (cache.writeStore key value).dirty = cache.dirty := rfl

@[simp] theorem store_writeStore :
    (cache.writeStore key value).store = Function.update cache.store key value := rfl

@[simp] theorem dirty_markDirty :
    (cache.markDirty key).dirty = Function.update cache.dirty key true := rfl

@[simp] theorem dirty_markClean :
    (cache.markClean key).dirty = Function.update cache.dirty key false := rfl

@[simp] theorem held_put :
    (cache.put key value).held = Function.update cache.held key (some value) := rfl

@[simp] theorem dirty_put : (cache.put key value).dirty = Function.update cache.dirty key true := rfl

end Fields

variable {cache : Cache κ ν} {key : κ} {value : ν}

/-! ## Invisible operations -/

/-- Loading a key changes what is seen of no key. -/
theorem view_load (hheld : cache.held key = none) (other : κ) :
    (cache.load key).view other = cache.view other := by
  unfold view load
  by_cases hother : other = key
  · simp [hother, hheld]
  · simp [Function.update_of_ne hother]

/-- A loaded key is clean and equal to the store. -/
theorem Coherent.load (h : cache.Coherent) : (cache.load key).Coherent := by
  intro other value hheld hdirty
  by_cases hother : other = key
  · rw [held_load, hother, Function.update_self, Option.some_inj] at hheld
    rw [hother, ← hheld, store_load]
  · rw [held_load, Function.update_of_ne hother] at hheld
    rw [dirty_load, Function.update_of_ne hother] at hdirty
    exact h other value hheld hdirty

/-- Dropping a clean key changes what is seen of no key, because the store has its value. -/
theorem view_drop (h : cache.Coherent) (hdirty : cache.dirty key = false) (other : κ) :
    (cache.drop key).view other = cache.view other := by
  unfold view drop
  by_cases hother : other = key
  · subst hother
    cases hheld : cache.held other with
    | none => simp
    | some value => simp [h other value hheld hdirty]
  · simp [Function.update_of_ne hother]

/-- Dropping a key keeps the cache coherent. -/
theorem Coherent.drop (h : cache.Coherent) : (cache.drop key).Coherent := by
  intro other value hheld hdirty
  by_cases hother : other = key
  · rw [held_drop, hother, Function.update_self] at hheld
    cases hheld
  · rw [held_drop, Function.update_of_ne hother] at hheld
    rw [dirty_drop, Function.update_of_ne hother] at hdirty
    exact h other value hheld hdirty

/-- Writing to the store under a held key changes what is seen of no key. -/
theorem view_writeStore (hheld : cache.held key ≠ none) (other : κ) :
    (cache.writeStore key value).view other = cache.view other := by
  unfold view writeStore
  by_cases hother : other = key
  · subst hother
    rcases Option.ne_none_iff_exists'.mp hheld with ⟨held, hheld⟩
    simp [hheld]
  · simp [Function.update_of_ne hother]

/-- A write to the store under a dirty key keeps the cache coherent, whatever is written. -/
theorem Coherent.writeStore (h : cache.Coherent) (hdirty : cache.dirty key = true) :
    (cache.writeStore key value).Coherent := by
  intro other held hheld hclean
  by_cases hother : other = key
  · subst hother
    rw [dirty_writeStore, hdirty] at hclean
    cases hclean
  · rw [store_writeStore, Function.update_of_ne hother]
    exact h other held hheld hclean

/-- The dirty mark is not seen. -/
theorem view_markDirty (other : κ) : (cache.markDirty key).view other = cache.view other := rfl

/-- A dirty key need not agree with the store. -/
theorem Coherent.markDirty (h : cache.Coherent) : (cache.markDirty key).Coherent := by
  intro other value hheld hclean
  by_cases hother : other = key
  · rw [dirty_markDirty, hother, Function.update_self] at hclean
    cases hclean
  · rw [dirty_markDirty, Function.update_of_ne hother] at hclean
    exact h other value hheld hclean

/-- The clean mark is not seen either. -/
theorem view_markClean (other : κ) : (cache.markClean key).view other = cache.view other := rfl

/-- A key may be marked clean when the store has its value. -/
theorem Coherent.markClean (h : cache.Coherent)
    (hheld : ∀ value, cache.held key = some value → value = cache.store key) :
    (cache.markClean key).Coherent := by
  intro other value hvalue hclean
  by_cases hother : other = key
  · subst hother
    exact hheld value hvalue
  · rw [dirty_markClean, Function.update_of_ne hother] at hclean
    exact h other value hvalue hclean

/-- Marking a value clean before dropping it makes no difference. -/
theorem drop_markClean (cache : Cache κ ν) (key : κ) :
    (cache.markClean key).drop key = cache.drop key := by
  unfold drop markClean
  rw [Function.update_idem]

/-- Sequences of operations that no reader of a coherent cache notices. -/
inductive Silent (cache : Cache κ ν) : Cache κ ν → Prop
  | refl : Silent cache cache
  | load {cache' : Cache κ ν} {key : κ} (h : Silent cache cache')
      (hheld : cache'.held key = none) : Silent cache (cache'.load key)
  | drop {cache' : Cache κ ν} {key : κ} (h : Silent cache cache')
      (hclean : cache'.dirty key = false) : Silent cache (cache'.drop key)
  | writeStore {cache' : Cache κ ν} {key : κ} {value : ν} (h : Silent cache cache')
      (hheld : cache'.held key ≠ none) (hdirty : cache'.dirty key = true) :
      Silent cache (cache'.writeStore key value)
  | markDirty {cache' : Cache κ ν} {key : κ} (h : Silent cache cache') :
      Silent cache (cache'.markDirty key)
  | markClean {cache' : Cache κ ν} {key : κ} (h : Silent cache cache')
      (hheld : ∀ value, cache'.held key = some value → value = cache'.store key) :
      Silent cache (cache'.markClean key)

/-- A held value that has been stored may be dropped, dirty or not. -/
theorem Silent.dropStored {cache' : Cache κ ν} (h : cache.Silent cache')
    (hheld : ∀ value, cache'.held key = some value → value = cache'.store key) :
    cache.Silent (cache'.drop key) := by
  rw [← drop_markClean]
  apply (h.markClean hheld).drop
  rw [dirty_markClean, Function.update_self]

/-- Silent steps may be followed up to equality. -/
theorem Silent.of_eq {cache' cache'' : Cache κ ν} (h : cache.Silent cache')
    (heq : cache'' = cache') : cache.Silent cache'' := by
  rwa [heq]

/-- Silent steps compose. -/
theorem Silent.trans {cache' cache'' : Cache κ ν} (h : cache.Silent cache')
    (h' : cache'.Silent cache'') : cache.Silent cache'' := by
  induction h' with
  | refl => exact h
  | load _ hheld ih => exact ih.load hheld
  | drop _ hclean ih => exact ih.drop hclean
  | writeStore _ hheld hdirty ih => exact ih.writeStore hheld hdirty
  | markDirty _ ih => exact ih.markDirty
  | markClean _ hheld ih => exact ih.markClean hheld

/-- Silent steps keep the cache coherent. -/
theorem Silent.coherent {cache' : Cache κ ν} (h : cache.Silent cache') (hcache : cache.Coherent) :
    cache'.Coherent := by
  induction h with
  | refl => exact hcache
  | load _ hheld ih => exact ih.load
  | drop _ hclean ih => exact ih.drop
  | writeStore _ hheld hdirty ih => exact ih.writeStore hdirty
  | markDirty _ ih => exact ih.markDirty
  | markClean _ hheld ih => exact ih.markClean hheld

/-- Silent steps change what is seen of no key. -/
theorem Silent.view_eq {cache' : Cache κ ν} (h : cache.Silent cache') (hcache : cache.Coherent)
    (other : κ) : cache'.view other = cache.view other := by
  induction h with
  | refl => rfl
  | load _ hheld ih => rw [view_load hheld, ih]
  | drop hsilent hclean ih => rw [view_drop (hsilent.coherent hcache) hclean, ih]
  | writeStore _ hheld hdirty ih => rw [view_writeStore hheld, ih]
  | markDirty _ ih => rw [view_markDirty, ih]
  | markClean _ hheld ih => rw [view_markClean, ih]

/-! ## A new value -/

/-- A put changes what is seen of its own key, and of no other. -/
theorem view_put (other : κ) :
    (cache.put key value).view other = Function.update cache.view key value other := by
  unfold view put
  by_cases hother : other = key
  · simp [hother]
  · simp [Function.update_of_ne hother]

/-- A put keeps the cache coherent, because it marks its key dirty. -/
theorem Coherent.put (h : cache.Coherent) : (cache.put key value).Coherent := by
  intro other held hheld hclean
  by_cases hother : other = key
  · rw [dirty_put, hother, Function.update_self] at hclean
    cases hclean
  · rw [held_put, Function.update_of_ne hother] at hheld
    rw [dirty_put, Function.update_of_ne hother] at hclean
    exact h other held hheld hclean

end Cache

end Library
end TaskPool
