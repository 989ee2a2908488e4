import Mathlib.Algebra.BigOperators.Group.List.Basic
import Mathlib.Algebra.Order.BigOperators.Group.List
import Mathlib.Algebra.Group.Action.Defs
import Mathlib.Tactic.Ring

/-!
# Bins any two of which overflow one

Bins any two of which hold more than one bin can are more than half full on average, so
there are fewer than twice as many of them as any packing of the same items needs.

Main results:

- Theorem `mul_length_le_two_mul_sum`: the average load.
- Theorem `length_le_of_packing`: the number of bins against any packing.
-/

namespace TaskPool
namespace Library

variable {d capacity : Nat} {loads sizes : List Nat} {packing : List (List Nat)}

/-- Loads any two of which sum up to `d` are at least `d / 2` on average. -/
theorem mul_length_le_two_mul_sum (hpair : loads.Pairwise fun a b => d ≤ a + b)
    (hlength : 2 ≤ loads.length) : d * loads.length ≤ 2 * loads.sum := by
  induction loads with
  | nil => exact absurd hlength (by simp)
  | cons first rest ih =>
      rw [List.pairwise_cons] at hpair
      rw [List.length_cons] at hlength
      rw [List.length_cons, List.sum_cons]
      by_cases hlarge : 2 ≤ rest.length ∧ d ≤ 2 * first
      · have hrest := ih hpair.2 hlarge.1
        rw [Nat.mul_add]
        omega
      · -- every other load makes up for the first one
        have hother : ∀ load ∈ rest, d - first ≤ load := fun load hload => by
          have hsum := hpair.1 load hload
          omega
        have hsum := List.card_nsmul_le_sum rest (d - first) hother
        rw [smul_eq_mul] at hsum
        obtain ⟨more, hmore⟩ : ∃ more, rest.length = 1 + more := ⟨rest.length - 1, by omega⟩
        rw [hmore] at hsum hlarge ⊢
        by_cases hsmall : first ≤ d
        · obtain ⟨gap, rfl⟩ : ∃ gap, d = first + gap := ⟨d - first, by omega⟩
          rw [Nat.add_sub_cancel_left] at hsum
          have hbalance : first * more ≤ gap * more := by
            rcases Nat.eq_zero_or_pos more with rfl | hpos
            · exact le_rfl
            · exact Nat.mul_le_mul_right more (by omega)
          calc (first + gap) * (1 + more + 1)
              = 2 * first + gap + (gap + first * more + gap * more) := by ring
            _ ≤ 2 * first + gap + (gap + gap * more + gap * more) := by omega
            _ = 2 * first + 2 * ((1 + more) * gap) := by ring
            _ ≤ 2 * (first + rest.sum) := by omega
        · have hnone : more = 0 := by omega
          subst hnone
          omega

/-- What a packing holds. -/
theorem sum_flatten_le (hfits : ∀ bin ∈ packing, bin.sum ≤ capacity) :
    packing.flatten.sum ≤ packing.length * capacity := by
  rw [List.sum_flatten]
  have hsum := List.sum_le_card_nsmul (packing.map List.sum) capacity fun load hload => by
    rcases List.mem_map.mp hload with ⟨bin, hbin, rfl⟩
    exact hfits bin hbin
  rwa [List.length_map, smul_eq_mul] at hsum

/-- Bins any two of which overflow one, against any packing of the same items. -/
theorem length_le_of_packing (hpair : loads.Pairwise fun a b => capacity < a + b)
    (hpos : ∀ load ∈ loads, 0 < load) (hsum : loads.sum = sizes.sum)
    (hperm : packing.flatten.Perm sizes) (hfits : ∀ bin ∈ packing, bin.sum ≤ capacity) :
    loads.length ≤ 2 * packing.length - 1 := by
  have hheld := sum_flatten_le hfits
  rw [hperm.sum_eq, ← hsum] at hheld
  match hloads : loads with
  | [] => exact Nat.zero_le _
  | [load] =>
      -- an item needs a bin
      have hload := hpos load List.mem_cons_self
      rw [List.sum_singleton] at hheld
      rcases Nat.eq_zero_or_pos packing.length with hnone | hsome
      · rw [hnone] at hheld
        omega
      · rw [List.length_singleton]
        omega
  | first :: second :: rest =>
      have hhalf := mul_length_le_two_mul_sum (hpair.imp Nat.succ_le_of_lt)
        (by simp)
      generalize hlength : (first :: second :: rest).length = length at hhalf ⊢
      by_contra hmore
      have hle : 2 * packing.length ≤ length := by omega
      have hpositive : 0 < length := by
        rw [← hlength]
        exact Nat.succ_pos _
      have hproduct := Nat.mul_le_mul_left capacity hle
      rw [Nat.succ_mul] at hhalf
      have hring : capacity * (2 * packing.length) = 2 * (packing.length * capacity) := by ring
      omega

end Library
end TaskPool
