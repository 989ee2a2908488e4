import Mathlib.Data.Nat.ModEq
import Mathlib.Data.Fin.Basic
import Mathlib.Data.List.Nodup

/-!
# Indices in circular order

The indices below `n` from a hand on, one after the other and back to the first one
after the last.

Main results:

- Theorem `nodup_circularFrom`: up to `n` steps meet no index twice.
- Theorem `mem_circularFrom`: `n` steps meet every index.
- Theorem `stepsTo_behind`: a hand that stops behind an index on the way to another one has
  come closer to that one.
-/

namespace TaskPool
namespace Library

variable {n : Nat}

/-- The index under a hand that may have run past the last index. -/
def indexAt (hn : 0 < n) (hand : Nat) : Fin n := ⟨hand % n, Nat.mod_lt _ hn⟩

/-- The first `steps` indices from the hand on. -/
def circularFrom (hn : 0 < n) (hand : Nat) : (steps : Nat) → List (Fin n)
  | 0 => []
  | steps + 1 => indexAt hn hand :: circularFrom hn (hand + 1) steps

/-- Only the remainder of the hand matters. -/
theorem indexAt_mod (hn : 0 < n) (hand : Nat) : indexAt hn (hand % n) = indexAt hn hand :=
  Fin.ext (Nat.mod_mod _ _)

/-- Only the remainder of the hand matters for a whole sweep. -/
theorem circularFrom_mod (hn : 0 < n) (hand steps : Nat) :
    circularFrom hn (hand % n) steps = circularFrom hn hand steps := by
  induction steps generalizing hand with
  | zero => rfl
  | succ steps ih =>
      rw [circularFrom, circularFrom, indexAt_mod, ← ih (hand % n + 1), ← ih (hand + 1),
        Nat.mod_add_mod]

/-- A sweep visits the indices at its first positions, and no others. -/
theorem mem_circularFrom_iff (hn : 0 < n) {hand steps : Nat} {index : Fin n} :
    index ∈ circularFrom hn hand steps ↔ ∃ k < steps, indexAt hn (hand + k) = index := by
  induction steps generalizing hand with
  | zero => simp [circularFrom]
  | succ steps ih =>
      rw [circularFrom, List.mem_cons, ih, Nat.exists_lt_succ_left]
      simp only [Nat.add_zero, Nat.add_assoc, Nat.add_comm 1]
      exact or_congr_left eq_comm

/-- `n` steps meet every index. -/
theorem mem_circularFrom (hn : 0 < n) {hand : Nat} (hhand : hand < n) (index : Fin n) :
    index ∈ circularFrom hn hand n := by
  rw [mem_circularFrom_iff]
  refine ⟨(index + (n - hand)) % n, Nat.mod_lt _ hn, Fin.ext ?_⟩
  have hsum : hand + (index + (n - hand)) = index + n := by omega
  simp only [indexAt, Nat.add_mod_mod, hsum, Nat.add_mod_right, Nat.mod_eq_of_lt index.isLt]

/-- Up to `n` steps meet no index twice. -/
theorem nodup_circularFrom (hn : 0 < n) (hand : Nat) {steps : Nat} (hsteps : steps ≤ n) :
    (circularFrom hn hand steps).Nodup := by
  induction steps generalizing hand with
  | zero => exact List.nodup_nil
  | succ steps ih =>
      refine List.nodup_cons.mpr ⟨?_, ih (hand + 1) (Nat.le_of_succ_le hsteps)⟩
      rw [mem_circularFrom_iff]
      rintro ⟨k, hk, hindex⟩
      have hmod : hand + (1 + k) ≡ hand + 0 [MOD n] := by
        rw [← Nat.add_assoc]
        exact congrArg Fin.val hindex
      have hdvd := (Nat.modEq_zero_iff_dvd).mp (Nat.ModEq.add_left_cancel' hand hmod)
      have hle := Nat.le_of_dvd (by omega) hdvd
      omega

/-! ## The way to an index -/

/-- The number of steps from the hand to an index. -/
def stepsTo (hand : Nat) (index : Fin n) : Nat := (index + (n - hand % n)) % n

/-- Every index is less than one revolution away. -/
theorem stepsTo_lt (hand : Nat) (index : Fin n) : stepsTo hand index < n :=
  Nat.mod_lt _ (Fin.pos index)

/-- That many steps lead from the hand to the index. -/
theorem indexAt_stepsTo (hn : 0 < n) (hand : Nat) (index : Fin n) :
    indexAt hn (hand + stepsTo hand index) = index := by
  apply Fin.ext
  have hlt := Nat.mod_lt hand hn
  have hsum : hand % n + (index + (n - hand % n)) = index + n := by omega
  simp only [indexAt, stepsTo, Nat.add_mod_mod]
  rw [← Nat.mod_add_mod, hsum, Nat.add_mod_right, Nat.mod_eq_of_lt index.isLt]

/-- The first `n` steps lead to different indices. -/
theorem stepsTo_unique (hn : 0 < n) {hand steps : Nat} (hsteps : steps < n) {index : Fin n}
    (h : indexAt hn (hand + steps) = index) : stepsTo hand index = steps := by
  have hmod : hand + stepsTo hand index ≡ hand + steps [MOD n] :=
    congrArg Fin.val ((indexAt_stepsTo hn hand index).trans h.symm)
  have hsame := Nat.ModEq.add_left_cancel' hand hmod
  rwa [Nat.ModEq, Nat.mod_eq_of_lt (stepsTo_lt hand index), Nat.mod_eq_of_lt hsteps] at hsame

/-- The way to an index ends there. -/
theorem add_stepsTo_modEq (hand : Nat) (index : Fin n) : hand + stepsTo hand index ≡ index [MOD n] := by
  have hindex := congrArg Fin.val (indexAt_stepsTo (Fin.pos index) hand index)
  rwa [indexAt, ← Nat.mod_eq_of_lt index.isLt] at hindex

/-- The hand stops behind an index on the way to another one. -/
theorem stepsTo_behind {hand : Nat} {index other : Fin n}
    (h : stepsTo hand index < stepsTo hand other) :
    stepsTo ((index + 1) % n) other < stepsTo hand other := by
  have hn : 0 < n := Fin.pos index
  have hlt := stepsTo_lt hand other
  obtain ⟨rest, hrest⟩ : ∃ rest, stepsTo hand other = stepsTo hand index + (1 + rest) :=
    ⟨stepsTo hand other - stepsTo hand index - 1, by omega⟩
  -- the rest of the way
  have hmod : (index + 1) % n + rest ≡ other [MOD n] := calc
    (index + 1) % n + rest ≡ index + 1 + rest [MOD n] := (Nat.mod_modEq _ n).add_right rest
    _ = index + (1 + rest) := Nat.add_assoc _ _ _
    _ ≡ hand + stepsTo hand index + (1 + rest) [MOD n] :=
      (add_stepsTo_modEq hand index).symm.add_right _
    _ = hand + stepsTo hand other := by rw [hrest, Nat.add_assoc]
    _ ≡ other [MOD n] := add_stepsTo_modEq hand other
  have hindex : indexAt hn ((index + 1) % n + rest) = other :=
    Fin.ext (Eq.trans hmod (Nat.mod_eq_of_lt other.isLt))
  rw [stepsTo_unique hn (by omega) hindex]
  omega

/-- One step of the hand shifts all positions by one. -/
theorem indexAt_succ (hn : 0 < n) (hand k : Nat) :
    indexAt hn (hand + 1 + k) = indexAt hn (hand + (k + 1)) := by
  rw [Nat.add_assoc, Nat.add_comm 1]

/-- A search in circular order finds the first index that it looks for. -/
theorem exists_of_find?_circularFrom (hn : 0 < n) {p : Fin n → Bool} {hand steps : Nat}
    {index : Fin n} (h : (circularFrom hn hand steps).find? p = some index) :
    ∃ k < steps, indexAt hn (hand + k) = index ∧ ∀ j < k, p (indexAt hn (hand + j)) = false := by
  induction steps generalizing hand with
  | zero => cases h
  | succ steps ih =>
      rw [circularFrom, List.find?_cons] at h
      cases hfirst : p (indexAt hn hand) with
      | true =>
          rw [hfirst] at h
          exact ⟨0, Nat.succ_pos steps, Option.some_inj.mp h, fun j hj => absurd hj (Nat.not_lt_zero j)⟩
      | false =>
          rw [hfirst] at h
          rcases ih h with ⟨k, hk, hindex, hbefore⟩
          refine ⟨k + 1, Nat.succ_lt_succ hk, by rw [← indexAt_succ, hindex], fun j hj => ?_⟩
          cases j with
          | zero => exact hfirst
          | succ j => rw [← indexAt_succ, hbefore j (Nat.lt_of_succ_lt_succ hj)]

/-- The indices up to the first one that fails a test are met before it. -/
theorem mem_takeWhile_circularFrom (hn : 0 < n) {q : Fin n → Bool} {hand steps k : Nat}
    (hk : k < steps) (h : ∀ j ≤ k, q (indexAt hn (hand + j)) = true) :
    indexAt hn (hand + k) ∈ (circularFrom hn hand steps).takeWhile q := by
  induction steps generalizing hand k with
  | zero => cases hk
  | succ steps ih =>
      have hfirst : q (indexAt hn hand) = true := h 0 (Nat.zero_le k)
      rw [circularFrom, List.takeWhile_cons, if_pos hfirst]
      cases k with
      | zero => exact List.mem_cons_self
      | succ k =>
          rw [← indexAt_succ]
          refine List.mem_cons_of_mem _ (ih (Nat.lt_of_succ_lt_succ hk) fun j hj => ?_)
          rw [indexAt_succ]
          exact h (j + 1) (Nat.succ_le_succ hj)

end Library
end TaskPool
