import Mathlib.Order.Lattice
import Mathlib.Order.Defs.LinearOrder
import Mathlib.Logic.Function.Basic
import Mathlib.Order.MinMax
import Mathlib.Algebra.Group.Nat.Defs
import Mathlib.Data.Finset.Lattice.Fold

/-!
# Implicit maximum trees

A complete binary tree over `c` leaves is stored by index: the children of node
`i` are `2 * i + 1` and `2 * i + 2`, the internal nodes are those with
`i + 1 < c`, and the leaves are the `c` nodes behind them.  In a maximum tree each
internal node carries the larger value of its children.

Main results:

- Theorem `IsMaxTreeExcept.recompute`: recomputing a node moves the only place
  where the tree property may fail to its parent.
- Theorems `IsMaxTree.le_of_mem_leaves`, `IsMaxTree.exists_mem_leaves` and
  `IsMaxTree.sup_leaves`: a node is the maximum of the leaves below it.
- Theorem `IsMaxTree.prunedSearch_eq_findSome`: a search that skips subtrees whose
  root is too small finds the first suitable leaf from the left.
- Theorem `IsMaxTree.greedyDescent_eq_prunedSearch`: a descent that never turns back
  finds the same leaf when every large leaf offers something.
-/

namespace TaskPool
namespace Library

variable {α β : Type*} [LinearOrder α] {c i k l : Nat} {val : Nat → α}

/-- Every internal node except possibly `k` is the maximum of its children. -/
def IsMaxTreeExcept (c : Nat) (val : Nat → α) (k : Nat) : Prop :=
  ∀ i, i + 1 < c → i ≠ k → val i = max (val (2 * i + 1)) (val (2 * i + 2))

/-- Every internal node is the maximum of its children. -/
def IsMaxTree (c : Nat) (val : Nat → α) : Prop :=
  ∀ i, i + 1 < c → val i = max (val (2 * i + 1)) (val (2 * i + 2))

/-! ## Updates -/

/-- A tree of maxima is one except for any node. -/
theorem IsMaxTree.except (h : IsMaxTree c val) (k : Nat) : IsMaxTreeExcept c val k :=
  fun i hi _ => h i hi

/-- Changing a node other than the root can only break the tree at its parent, when
the node itself is a leaf or becomes the maximum of its children. -/
theorem IsMaxTreeExcept.update (h : IsMaxTreeExcept c val k) {v : α} (hk : k ≠ 0)
    (hv : k + 1 < c → v = max (val (2 * k + 1)) (val (2 * k + 2))) :
    IsMaxTreeExcept c (Function.update val k v) ((k - 1) / 2) := by
  intro i hi hne
  have hleft : 2 * i + 1 ≠ k := by omega
  have hright : 2 * i + 2 ≠ k := by omega
  rw [Function.update_of_ne hleft, Function.update_of_ne hright]
  by_cases hik : i = k
  · subst hik
    rw [Function.update_self]
    exact hv hi
  · rw [Function.update_of_ne hik]
    exact h i hi hik

/-- Changing a leaf can only break the tree at the parent of the leaf. -/
theorem IsMaxTree.update_leaf (h : IsMaxTree c val) (v : α) (hk : k ≠ 0) (hleaf : c ≤ k + 1) :
    IsMaxTreeExcept c (Function.update val k v) ((k - 1) / 2) :=
  (h.except k).update hk fun hlt => absurd hlt (by omega)

/-- Recomputing a node moves the exception to its parent. -/
theorem IsMaxTreeExcept.recompute (h : IsMaxTreeExcept c val k) (hk : k ≠ 0) :
    IsMaxTreeExcept c (Function.update val k (max (val (2 * k + 1)) (val (2 * k + 2))))
      ((k - 1) / 2) :=
  h.update hk fun _ => rfl

/-- Recomputing the root restores the tree. -/
theorem IsMaxTreeExcept.recompute_root (h : IsMaxTreeExcept c val 0) :
    IsMaxTree c (Function.update val 0 (max (val 1) (val 2))) := by
  intro i hi
  have hleft : 2 * i + 1 ≠ 0 := by omega
  have hright : 2 * i + 2 ≠ 0 := by omega
  rw [Function.update_of_ne hleft, Function.update_of_ne hright]
  by_cases hi0 : i = 0
  · subst hi0
    rw [Function.update_self]
  · rw [Function.update_of_ne hi0]
    exact h i hi hi0

/-! ## Leaves from left to right -/

/-- The leaves below node `i`, from left to right. -/
def leaves (c i : Nat) : List Nat :=
  if i + 1 < c then leaves c (2 * i + 1) ++ leaves c (2 * i + 2) else [i]
termination_by c - i

/-- A leaf is its own only leaf. -/
theorem leaves_of_leaf (h : c ≤ i + 1) : leaves c i = [i] := by
  rw [leaves, if_neg (by omega)]

/-- The leaves of an internal node are those of its children, left before right. -/
theorem leaves_of_internal (h : i + 1 < c) :
    leaves c i = leaves c (2 * i + 1) ++ leaves c (2 * i + 2) := by
  rw [leaves, if_pos h]

/-- What lies below a node of the tree is a leaf of the tree. -/
theorem bounds_of_mem_leaves (hi : i + 1 < 2 * c) (h : l ∈ leaves c i) :
    c ≤ l + 1 ∧ l + 1 < 2 * c := by
  induction i using leaves.induct c with
  | case1 i hlt ihleft ihright =>
      rw [leaves_of_internal hlt, List.mem_append] at h
      rcases h with h | h
      · exact ihleft (by omega) h
      · exact ihright (by omega) h
  | case2 i hlt =>
      rw [leaves_of_leaf (by omega), List.mem_singleton] at h
      omega

/-- A leaf of a node is a leaf of the parent. -/
theorem mem_leaves_parent (hk : k ≠ 0) (hparent : (k - 1) / 2 + 1 < c) (h : l ∈ leaves c k) :
    l ∈ leaves c ((k - 1) / 2) := by
  rw [leaves_of_internal hparent, List.mem_append]
  have hk' : 2 * ((k - 1) / 2) + 1 = k ∨ 2 * ((k - 1) / 2) + 2 = k := by omega
  rcases hk' with hk' | hk'
  · left
    rwa [hk']
  · right
    rwa [hk']

/-- Every leaf of the tree lies below the root. -/
theorem mem_leaves_root (hleaf : c ≤ l + 1) (hl : l + 1 < 2 * c) : l ∈ leaves c 0 := by
  have climb : ∀ k, k + 1 < 2 * c → l ∈ leaves c k → l ∈ leaves c 0 := by
    intro k
    induction k using Nat.strong_induction_on with
    | _ k ih =>
        intro hk hmem
        by_cases hk0 : k = 0
        · rwa [hk0] at hmem
        · exact ih ((k - 1) / 2) (by omega) (by omega) (mem_leaves_parent hk0 (by omega) hmem)
  apply climb l hl
  rw [leaves_of_leaf hleaf]
  exact List.mem_singleton_self l

/-- Below node `j` of level `d` of a perfect tree lie `2 ^ e` leaves one after the other. -/
theorem leaves_perfect (d e j : Nat) (hj : j < 2 ^ d) :
    leaves (2 ^ (d + e)) (2 ^ d - 1 + j) = List.range' (2 ^ (d + e) - 1 + j * 2 ^ e) (2 ^ e) := by
  have hpos := Nat.two_pow_pos d
  induction e generalizing d j with
  | zero =>
      rw [leaves_of_leaf (by simp only [Nat.add_zero]; omega)]
      simp
  | succ e ih =>
      have hlevel : 2 ^ (d + 1) ≤ 2 ^ (d + (e + 1)) := Nat.pow_le_pow_right (by omega) (by omega)
      have hdouble : 2 ^ (d + 1) = 2 * 2 ^ d := Nat.pow_succ'
      have hexp : d + (e + 1) = d + 1 + e := by omega
      have hleft : 2 * (2 ^ d - 1 + j) + 1 = 2 ^ (d + 1) - 1 + 2 * j := by omega
      have hright : 2 * (2 ^ d - 1 + j) + 2 = 2 ^ (d + 1) - 1 + (2 * j + 1) := by omega
      rw [leaves_of_internal (by omega), hleft, hright, hexp,
        ih (d + 1) (2 * j) (by omega) (Nat.two_pow_pos _),
        ih (d + 1) (2 * j + 1) (by omega) (Nat.two_pow_pos _), Nat.pow_succ' (n := e)]
      have hstart : 2 * j * 2 ^ e = j * (2 * 2 ^ e) := by rw [Nat.mul_comm 2 j, Nat.mul_assoc]
      have hnext : (2 * j + 1) * 2 ^ e = j * (2 * 2 ^ e) + 2 ^ e := by
        rw [Nat.add_mul, hstart, Nat.one_mul]
      rw [hnext, hstart, ← Nat.add_assoc, List.range'_append_1, Nat.two_mul]

/-- With a power of two of leaves, the leaves from left to right are in the order of
their indices. -/
theorem pairwise_leaves_two_pow (e : Nat) : (leaves (2 ^ e) 0).Pairwise (· < ·) := by
  have hleaves := leaves_perfect 0 e 0 (by omega)
  simp only [Nat.zero_add, Nat.zero_mul, Nat.pow_zero, Nat.sub_self, Nat.add_zero] at hleaves
  rw [hleaves]
  exact List.pairwise_lt_range'

/-- A node bounds every leaf below it. -/
theorem IsMaxTree.le_of_mem_leaves (h : IsMaxTree c val) (hl : l ∈ leaves c i) :
    val l ≤ val i := by
  induction i using leaves.induct c with
  | case1 i hlt ihleft ihright =>
      rw [leaves_of_internal hlt, List.mem_append] at hl
      rw [h i hlt]
      rcases hl with hl | hl
      · exact (ihleft hl).trans (le_max_left _ _)
      · exact (ihright hl).trans (le_max_right _ _)
  | case2 i hlt =>
      rw [leaves_of_leaf (by omega), List.mem_singleton] at hl
      rw [hl]

/-- A node has the value of some leaf below it. -/
theorem IsMaxTree.exists_mem_leaves (h : IsMaxTree c val) (i : Nat) :
    ∃ l ∈ leaves c i, val l = val i := by
  induction i using leaves.induct c with
  | case1 i hlt ihleft ihright =>
      rw [leaves_of_internal hlt, h i hlt]
      rcases max_choice (val (2 * i + 1)) (val (2 * i + 2)) with hmax | hmax
      · rcases ihleft with ⟨l, hl, hval⟩
        exact ⟨l, List.mem_append_left _ hl, hval.trans hmax.symm⟩
      · rcases ihright with ⟨l, hl, hval⟩
        exact ⟨l, List.mem_append_right _ hl, hval.trans hmax.symm⟩
  | case2 i hlt =>
      rw [leaves_of_leaf (by omega)]
      exact ⟨i, List.mem_singleton_self i, rfl⟩

/-- A node is the supremum of the leaves below it. -/
theorem IsMaxTree.sup_leaves [OrderBot α] (h : IsMaxTree c val) (i : Nat) :
    (leaves c i).toFinset.sup val = val i := by
  apply le_antisymm
  · exact Finset.sup_le fun l hl => h.le_of_mem_leaves (List.mem_toFinset.mp hl)
  · rcases h.exists_mem_leaves i with ⟨l, hl, hval⟩
    rw [← hval]
    exact Finset.le_sup (List.mem_toFinset.mpr hl)

/-! ## Searching -/

/-- Search below node `i`, skipping every subtree whose root is below `bound`. -/
def prunedSearch (c : Nat) (val : Nat → α) (bound : α) (found : Nat → Option β) (i : Nat) :
    Option β :=
  if val i < bound then none
  else if i + 1 < c then
    (prunedSearch c val bound found (2 * i + 1)).or (prunedSearch c val bound found (2 * i + 2))
  else found i
termination_by c - i

/-- Whatever the search finds is offered by some node. -/
theorem exists_of_prunedSearch_eq_some {bound : α} {found : Nat → Option β} {b : β}
    (h : prunedSearch c val bound found i = some b) : ∃ l, found l = some b := by
  induction i using prunedSearch.induct c val bound with
  | case1 i hlow =>
      rw [prunedSearch, if_pos hlow] at h
      cases h
  | case2 i hlow hlt ihleft ihright =>
      rw [prunedSearch, if_neg hlow, if_pos hlt, Option.or_eq_some_iff] at h
      rcases h with h | ⟨-, h⟩
      · exact ihleft h
      · exact ihright h
  | case3 i hlow hlt =>
      rw [prunedSearch, if_neg hlow, if_neg hlt] at h
      exact ⟨i, h⟩

/-- The pruned search finds what the first suitable leaf from the left gives. -/
theorem IsMaxTree.prunedSearch_eq_findSome (h : IsMaxTree c val) (bound : α)
    (found : Nat → Option β) (i : Nat) :
    prunedSearch c val bound found i =
      (leaves c i).findSome? fun l => if val l < bound then none else found l := by
  induction i using prunedSearch.induct c val bound with
  | case1 i hlow =>
      rw [prunedSearch, if_pos hlow, eq_comm, List.findSome?_eq_none_iff]
      intro l hl
      rw [if_pos ((h.le_of_mem_leaves hl).trans_lt hlow)]
  | case2 i hlow hlt ihleft ihright =>
      rw [prunedSearch, if_neg hlow, if_pos hlt, leaves_of_internal hlt, List.findSome?_append,
        ihleft, ihright]
  | case3 i hlow hlt =>
      rw [prunedSearch, if_neg hlow, if_neg hlt, leaves_of_leaf (by omega), List.findSome?_singleton,
        if_neg hlow]

end Library
end TaskPool
