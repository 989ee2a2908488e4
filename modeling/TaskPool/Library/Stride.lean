import Mathlib.Data.List.Nodup
import Mathlib.Data.Nat.ModEq
import Mathlib.Order.Interval.Finset.Nat

/-!
# Strides

Multiples of a number that has no divisor in common with `m` run through all residues of
`m` before one of them comes again.

Main results:

- Theorem `mul_mod_eq_iff`: when two multiples leave the same residue.
- Theorem `map_stride_perm`: `m` consecutive multiples leave every residue once.
-/

namespace TaskPool
namespace Library

variable {stride m : Nat}

/-- Two multiples of the stride leave the same residue exactly when the factors do. -/
theorem mul_mod_eq_iff (h : stride.Coprime m) {i j : Nat} :
    i * stride % m = j * stride % m ↔ i % m = j % m := by
  constructor
  · intro heq
    exact Nat.ModEq.cancel_right_of_coprime (h.symm) heq
  · intro heq
    exact Nat.ModEq.mul_right stride heq

/-- `m` consecutive multiples of the stride leave every residue once. -/
theorem map_stride_perm (h : stride.Coprime m) (hm : 0 < m) (start : Nat) :
    ((List.range' start m).map fun i => i * stride % m).Perm (List.range m) := by
  have hnodup : ((List.range' start m).map fun i => i * stride % m).Nodup := by
    refine List.Nodup.map_on ?_ List.nodup_range'
    intro i hi j hj heq
    rw [List.mem_range'_1] at hi hj
    exact Nat.mod_injOn_Ico start m (Finset.mem_coe.mpr (Finset.mem_Ico.mpr hi))
      (Finset.mem_coe.mpr (Finset.mem_Ico.mpr hj)) ((mul_mod_eq_iff h).mp heq)
  refine (hnodup.subperm fun residue hresidue => ?_).perm_of_length_le (by simp)
  obtain ⟨i, -, rfl⟩ := List.mem_map.mp hresidue
  exact List.mem_range.mpr (Nat.mod_lt _ hm)

end Library
end TaskPool
