import Mathlib.Algebra.Group.Nat.Defs
import TaskPool.Foundations.RowVsCol

/-!
# What a column sum is

All three layouts add up a column from the first row to the last.  In a build that wraps
around the sum is exact up to a multiple of `2 ^ 64`.  In a build that checks for overflow
it is exact, but it is there only when no sum on the way leaves the range of `i64`; where
the whole sum lies does not matter.

Main results:

- Definition `exactSum`: the sum of a column in the integers.
- Theorem `column_sums_exact`: the sums of all layouts and builds against it.
-/

namespace TaskPool
namespace Foundations

/-- A number in the range of `i64`. -/
def Fits (x : Int) : Prop := Int64.minValue.toInt ≤ x ∧ x ≤ Int64.maxValue.toInt

instance (x : Int) : Decidable (Fits x) := inferInstanceAs (Decidable (_ ∧ _))

/-- The sum of values in the integers. -/
def exactTotal : List Int64 → Int
  | [] => 0
  | value :: values => value.toInt + exactTotal values

/-- The sum of one column in the integers. -/
def exactSum (rows : List Row) (column : Fin 10) : Int := exactTotal (columnOf rows column)

@[simp] theorem exactTotal_nil : exactTotal [] = 0 := rfl

@[simp] theorem exactTotal_cons (value : Int64) (values : List Int64) :
    exactTotal (value :: values) = value.toInt + exactTotal values := rfl

/-! ## Adding up values in order -/

/-- A sum that fits is the sum of the integers. -/
theorem toInt_add_of_fits {a b : Int64} (h : Fits (a.toInt + b.toInt)) :
    (a + b).toInt = a.toInt + b.toInt := by
  rw [Fits, Int64.toInt_minValue, Int64.toInt_maxValue] at h
  rw [Int64.toInt_add]
  exact Int.bmod_eq_of_le (by omega) (by omega)

/-- With overflow checks, an addition that fits succeeds. -/
theorem addI64_of_fits {a b : Int64} (h : Fits (a.toInt + b.toInt)) :
    addI64 .aborts a b = some (a + b) := if_pos h

/-- With overflow checks, an addition that does not fit panics. -/
theorem addI64_of_not_fits {a b : Int64} (h : ¬ Fits (a.toInt + b.toInt)) :
    addI64 .aborts a b = none := if_neg h

/-- Wrapping sums are exact up to a multiple of `2 ^ 64`. -/
theorem foldlM_wraps (values : List Int64) (start : Int64) :
    ∃ sum, values.foldlM (addI64 .wraps) start = some sum ∧
      sum.toInt = (start.toInt + exactTotal values).bmod (2 ^ 64) := by
  induction values generalizing start with
  | nil =>
      refine ⟨start, rfl, ?_⟩
      rw [exactTotal_nil, Int.add_zero]
      exact (Int64.toInt_bmod start).symm
  | cons value values ih =>
      obtain ⟨sum, hsum, hexact⟩ := ih (start + value)
      refine ⟨sum, hsum, ?_⟩
      rw [hexact, Int64.toInt_add, Int.bmod_add_bmod, exactTotal_cons, Int.add_assoc]

/-- Checked sums are exact when all sums on the way are in range. -/
theorem foldlM_aborts (values : List Int64) (start : Int64)
    (h : ∀ k ≤ values.length, Fits (start.toInt + exactTotal (values.take k))) :
    ∃ sum, values.foldlM (addI64 .aborts) start = some sum ∧
      sum.toInt = start.toInt + exactTotal values := by
  induction values generalizing start with
  | nil => exact ⟨start, rfl, (Int.add_zero _).symm⟩
  | cons value values ih =>
      have hfirst : Fits (start.toInt + value.toInt) := by
        simpa using h 1 (by simp)
      have hnext : ∀ k ≤ values.length,
          Fits ((start + value).toInt + exactTotal (values.take k)) := by
        intro k hk
        have hsum := h (k + 1) (by simpa using hk)
        rw [List.take_succ_cons, exactTotal_cons, ← Int.add_assoc] at hsum
        rwa [toInt_add_of_fits hfirst]
      obtain ⟨sum, hsum, hexact⟩ := ih (start + value) hnext
      refine ⟨sum, ?_, ?_⟩
      · rw [List.foldlM_cons, addI64_of_fits hfirst]
        exact hsum
      · rw [hexact, toInt_add_of_fits hfirst, exactTotal_cons, Int.add_assoc]

/-- A checked sum ends at the first sum on the way that is out of range. -/
theorem foldlM_aborts_eq_none {values : List Int64} {start : Int64} {k : Nat}
    (hk : k ≤ values.length) (hstart : Fits start.toInt)
    (h : ¬ Fits (start.toInt + exactTotal (values.take k))) :
    values.foldlM (addI64 .aborts) start = none := by
  induction values generalizing start k with
  | nil =>
      rw [List.take_nil, exactTotal_nil, Int.add_zero] at h
      exact absurd hstart h
  | cons value values ih =>
      cases k with
      | zero =>
          rw [List.take_zero, exactTotal_nil, Int.add_zero] at h
          exact absurd hstart h
      | succ k =>
          rw [List.foldlM_cons]
          by_cases hfirst : Fits (start.toInt + value.toInt)
          · rw [addI64_of_fits hfirst]
            have hadd := toInt_add_of_fits hfirst
            rw [List.take_succ_cons, exactTotal_cons, ← Int.add_assoc, ← hadd] at h
            exact ih (Nat.le_of_succ_le_succ hk) (hadd ▸ hfirst) h
          · rw [addI64_of_not_fits hfirst]
            rfl

/-! ## The three layouts -/

/-- The column sums of a layout, for a build that wraps around and for one that checks. -/
structure SumsExactly (τ : Type) [ColumnTable τ] (rows : List Row) (column : Fin 10) : Prop where
  wraps : ∃ sum, ColumnTable.getColSum (ofRows τ rows) .wraps column = some sum ∧
    sum.toInt = (exactSum rows column).bmod (2 ^ 64)
  aborts : (∀ k ≤ rows.length, Fits (exactSum (rows.take k) column)) →
    ∃ sum, ColumnTable.getColSum (ofRows τ rows) .aborts column = some sum ∧
      sum.toInt = exactSum rows column
  panics : (∃ k ≤ rows.length, ¬ Fits (exactSum (rows.take k) column)) →
    ColumnTable.getColSum (ofRows τ rows) .aborts column = none

/-- The sum of the first rows is the total of the first values of the column. -/
theorem exactSum_take (rows : List Row) (column : Fin 10) (k : Nat) :
    exactSum (rows.take k) column = exactTotal ((columnOf rows column).take k) := by
  rw [exactSum, columnOf, columnOf, List.map_take]

/-- A layout that adds up the column in order. -/
theorem SumsExactly.of_eq_columnSum {τ : Type} [ColumnTable τ] {rows : List Row}
    {column : Fin 10} (h : ∀ overflow, ColumnTable.getColSum (ofRows τ rows) overflow column =
      columnSum overflow rows column) : SumsExactly τ rows column := by
  have hlength : (columnOf rows column).length = rows.length := List.length_map ..
  have hzero : ∀ total : Int, (0 : Int64).toInt + total = total := Int.zero_add
  refine ⟨?_, fun hfits => ?_, ?_⟩
  · rw [h, columnSum]
    simpa only [hzero, exactSum] using foldlM_wraps (columnOf rows column) 0
  · rw [h, columnSum]
    have hsum := foldlM_aborts (columnOf rows column) 0 fun k hk => by
      rw [hzero, ← exactSum_take]
      exact hfits k (hlength ▸ hk)
    simpa only [hzero, exactSum] using hsum
  · rintro ⟨k, hk, hoverflow⟩
    rw [h, columnSum]
    refine foldlM_aborts_eq_none (hlength ▸ hk) (by decide) ?_
    rwa [hzero, ← exactSum_take]

/-- For every page size and every sequence of inserts, the column sums of the three layouts:
wrapping around, the exact sum up to a multiple of `2 ^ 64`; checked, the exact sum when all
sums of first rows are in range, and a panic when one is not. -/
theorem column_sums_exact {pageRows : Nat} (hpage : 1 ≤ pageRows) (rows : List Row)
    (column : Fin 10) :
    SumsExactly RowStore rows column ∧ SumsExactly ColStore rows column ∧
      SumsExactly (PaxStore pageRows) rows column :=
  ⟨.of_eq_columnSum fun overflow => RowStore.getColSum_ofRows overflow rows column,
    .of_eq_columnSum fun overflow => ColStore.getColSum_ofRows overflow rows column,
    .of_eq_columnSum fun overflow => PaxStore.getColSum_ofRows hpage overflow rows column⟩

/-- A column whose whole sum is in range, with a sum on the way that is not. -/
def overflowingRows : List Row :=
  [Vector.replicate 10 Int64.maxValue, Vector.replicate 10 1, Vector.replicate 10 (-1)]

/-- The sum of all rows fits, and the store panics on the way to it. -/
theorem column_sums_exact_overflowingRows :
    Fits (exactSum overflowingRows 3) ∧
      ColumnTable.getColSum (ofRows (PaxStore 2) overflowingRows) .aborts 3 = none :=
  ⟨by decide, (column_sums_exact (by decide : 1 ≤ 2) overflowingRows 3).2.2.panics
    ⟨2, by decide, by decide⟩⟩

end Foundations
end TaskPool
