import TaskPool.Library.Paging
import Mathlib.Data.List.Induction

/-!
# Row, column and page layouts of a table

The three layouts of a table of ten `i64` columns: a vector of rows, ten vectors of
column values, and pages that hold up to `pageRows` rows each as ten short columns.
An operation returns `none` when the source panics: an index out of range, a division
by zero, or, with overflow checks on, a sum that leaves the range of `i64`.  Allocations are
taken to succeed, those of `Vec::with_capacity` for a new page as well.

Main results:

- Theorem `PaxStore.represents_ofRows`: the pages hold the inserted rows in order, all
  full but the last.
- Theorem `layouts_agree`: cells and column sums are the same in the three layouts.
- Theorem `getColSum_of_not_column`: an index that names no column is told apart only
  on empty tables.
-/

namespace TaskPool
namespace Foundations

open Library

/-- `[i64; 10]`. -/
abbrev Row := Vector Int64 10

/-- What `+` on `i64` does when the result is out of range. -/
inductive Overflow where
  | wraps
  | aborts
deriving DecidableEq, Repr

/-- `a + b` on `i64`. -/
def addI64 (overflow : Overflow) (a b : Int64) : Option Int64 :=
  match overflow with
  | .wraps => some (a + b)
  | .aborts =>
    if Int64.minValue.toInt ≤ a.toInt + b.toInt ∧ a.toInt + b.toInt ≤ Int64.maxValue.toInt then
      some (a + b)
    else none

/-- `ColumnTable`. -/
class ColumnTable (τ : Type) where
  new : τ
  insert : τ → Row → τ
  get : τ → (row column : Nat) → Option Int64
  getColSum : τ → Overflow → (column : Nat) → Option Int64

/-- The table after inserting rows in order. -/
def ofRows (τ : Type) [ColumnTable τ] (rows : List Row) : τ :=
  rows.foldl ColumnTable.insert ColumnTable.new

/-! ## The three layouts -/

/-- All rows, one behind the other. -/
structure RowStore where
  data : List Row

instance : ColumnTable RowStore where
  new := ⟨[]⟩
  insert store row := ⟨store.data ++ [row]⟩
  get store row column := do
    let values ← store.data[row]?
    values[column]?
  getColSum store overflow column :=
    store.data.foldlM (fun sum row => do addI64 overflow sum (← row[column]?)) 0

/-- Ten columns, each with the values of all rows. -/
structure ColStore where
  data : Vector (List Int64) 10

/-- Push one value to every column. -/
def pushValues (columns : Vector (List Int64) 10) (row : Row) : Vector (List Int64) 10 :=
  columns.zipWith (fun values value => values ++ [value]) row

instance : ColumnTable ColStore where
  new := ⟨Vector.replicate 10 []⟩
  insert store row := ⟨pushValues store.data row⟩
  get store row column := do
    let values ← store.data[column]?
    values[row]?
  getColSum store overflow column := do
    let values ← store.data[column]?
    values.foldlM (addI64 overflow) 0

/-- A page: ten columns of `rows` values. -/
structure PaxPage where
  columns : Vector (List Int64) 10
  rows : Nat

/-- An empty page. -/
def PaxPage.new : PaxPage where
  columns := Vector.replicate 10 []
  rows := 0

/-- Push one value to every column of the page and count the row. -/
def PaxPage.push (page : PaxPage) (row : Row) : PaxPage where
  columns := pushValues page.columns row
  rows := page.rows + 1

/-- Pages of up to `pageRows` rows. -/
structure PaxStore (pageRows : Nat) where
  pages : List PaxPage

instance (pageRows : Nat) : ColumnTable (PaxStore pageRows) where
  new := ⟨[]⟩
  insert store row :=
    -- `last().map_or(true, |page| page.rows == PAGE_ROWS)`
    let pages :=
      if store.pages.getLast?.all (fun page => page.rows == pageRows) then
        store.pages ++ [PaxPage.new]
      else store.pages
    ⟨pages.modifyLast (·.push row)⟩
  get store row column := if pageRows = 0 then none else do
    let page ← store.pages[row / pageRows]?
    let values ← page.columns[column]?
    values[row % pageRows]?
  getColSum store overflow column :=
    store.pages.foldlM (fun sum page => do
      (← page.columns[column]?).foldlM (addI64 overflow) sum) 0

/-! ## Columns of a list of rows -/

/-- The values of one column. -/
def columnOf (rows : List Row) (column : Fin 10) : List Int64 :=
  rows.map (·[column])

/-- All ten columns. -/
def columnsOf (rows : List Row) : Vector (List Int64) 10 :=
  Vector.ofFn (columnOf rows)

/-- There is a column for every index below ten. -/
theorem getElem?_columnsOf (rows : List Row) {column : Nat} (h : column < 10) :
    (columnsOf rows)[column]? = some (columnOf rows ⟨column, h⟩) := by
  simp [columnsOf, h]

/-- Without rows all columns are empty. -/
theorem columnsOf_nil : columnsOf [] = Vector.replicate 10 [] := by
  ext column hcolumn
  simp [columnsOf, columnOf]

/-- Pushing the values of a row on the columns gives the columns with that row. -/
theorem pushValues_columnsOf (rows : List Row) (row : Row) :
    pushValues (columnsOf rows) row = columnsOf (rows ++ [row]) := by
  ext column hcolumn
  simp [pushValues, columnsOf, columnOf]

/-! ## What the layouts hold -/

/-- The last row is the last one inserted. -/
theorem ofRows_append_singleton (τ : Type) [ColumnTable τ] (rows : List Row) (row : Row) :
    ofRows τ (rows ++ [row]) = ColumnTable.insert (ofRows τ rows) row := by
  simp [ofRows]

/-- A row store keeps the rows as they are. -/
theorem RowStore.ofRows_eq (rows : List Row) : ofRows RowStore rows = ⟨rows⟩ := by
  induction rows using List.reverseRecOn with
  | nil => rfl
  | append_singleton rows row ih =>
      rw [ofRows_append_singleton, ih]
      rfl

/-- A column store keeps the columns of the rows. -/
theorem ColStore.ofRows_eq (rows : List Row) : ofRows ColStore rows = ⟨columnsOf rows⟩ := by
  induction rows using List.reverseRecOn with
  | nil => rw [columnsOf_nil]; rfl
  | append_singleton rows row ih =>
      rw [ofRows_append_singleton, ih, ← pushValues_columnsOf]
      rfl

/-- The page that holds the given rows. -/
def PaxPage.ofRows (rows : List Row) : PaxPage where
  columns := columnsOf rows
  rows := rows.length

/-- A new page has no rows. -/
theorem PaxPage.ofRows_nil : PaxPage.ofRows [] = PaxPage.new := by
  rw [ofRows, columnsOf_nil]
  rfl

/-- A page with one row more is the page of one row more. -/
theorem PaxPage.push_ofRows (rows : List Row) (row : Row) :
    (PaxPage.ofRows rows).push row = PaxPage.ofRows (rows ++ [row]) := by
  simp [push, ofRows, pushValues_columnsOf]

/-- The pages of the store are the filled pages of a paged list of the rows. -/
def PaxStore.Represents {pageRows : Nat} (store : PaxStore pageRows) (rows : List Row) : Prop :=
  ∃ pages, store.pages = pages.map PaxPage.ofRows ∧ Filled pageRows pages ∧
    pages.flatten = rows

/-- An insert puts the row behind the others, on a new page when the last one is full. -/
theorem PaxStore.Represents.insert {pageRows : Nat} (hpage : 0 < pageRows)
    {store : PaxStore pageRows} {rows : List Row} (h : store.Represents rows) (row : Row) :
    (ColumnTable.insert store row).Represents (rows ++ [row]) := by
  obtain ⟨pages, hpages, hfilled, hrows⟩ := h
  refine ⟨pushPaged pageRows row pages, ?_, hfilled.push hpage row, ?_⟩
  · rw [← modifyLast_map_eq_pushPaged (fun page => page.rows == pageRows) (·.push row)
      (fun _ => rfl) fun page => PaxPage.push_ofRows page row]
    simp only [ColumnTable.insert, hpages, PaxPage.ofRows_nil]
  · rw [flatten_pushPaged, hrows]

/-- The pages hold the inserted rows in order, all full but the last. -/
theorem PaxStore.represents_ofRows {pageRows : Nat} (hpage : 0 < pageRows) (rows : List Row) :
    (Foundations.ofRows (PaxStore pageRows) rows).Represents rows := by
  induction rows using List.reverseRecOn with
  | nil => exact ⟨[], rfl, trivial, rfl⟩
  | append_singleton rows row ih =>
      rw [ofRows_append_singleton]
      exact ih.insert hpage row

/-! ## Cells -/

/-- A column has the values of the rows in their order. -/
theorem getElem?_columnOf (rows : List Row) (column : Fin 10) {row : Nat}
    (hrow : row < rows.length) : (columnOf rows column)[row]? = some rows[row][column] := by
  simp [columnOf, hrow]

/-- A row store returns the value of the row in the column. -/
theorem RowStore.get_ofRows (rows : List Row) {row : Nat} (hrow : row < rows.length)
    (column : Fin 10) :
    ColumnTable.get (ofRows RowStore rows) row column = some rows[row][column] := by
  simp [RowStore.ofRows_eq, ColumnTable.get, hrow]

/-- A column store returns the value of the row in the column. -/
theorem ColStore.get_ofRows (rows : List Row) {row : Nat} (hrow : row < rows.length)
    (column : Fin 10) :
    ColumnTable.get (ofRows ColStore rows) row column = some rows[row][column] := by
  simp only [ColStore.ofRows_eq, ColumnTable.get, getElem?_columnsOf rows column.isLt,
    Option.bind_eq_bind, Option.bind_some]
  exact getElem?_columnOf rows column hrow

/-- The page and the place on it are found by division and remainder. -/
theorem PaxStore.get_ofRows {pageRows : Nat} (hpage : 0 < pageRows) (rows : List Row)
    {row : Nat} (hrow : row < rows.length) (column : Fin 10) :
    ColumnTable.get (Foundations.ofRows (PaxStore pageRows) rows) row column =
      some rows[row][column] := by
  obtain ⟨pages, hpages, hfilled, hrows⟩ := represents_ofRows hpage rows
  have hcell := hfilled.getElem?_div_mod hpage row
  rw [hrows, List.getElem?_eq_getElem hrow] at hcell
  obtain ⟨page, hpageAt, hrowAt⟩ := Option.bind_eq_some_iff.mp hcell
  obtain ⟨hplace, hvalue⟩ := List.getElem?_eq_some_iff.mp hrowAt
  have hcolumn : (columnsOf page)[column.val]? = some (columnOf page column) :=
    getElem?_columnsOf page column.isLt
  simp only [ColumnTable.get, if_neg (Nat.pos_iff_ne_zero.mp hpage), hpages, List.getElem?_map, hpageAt,
    Option.map_some, PaxPage.ofRows, hcolumn, Option.bind_eq_bind, Option.bind_some]
  rw [getElem?_columnOf page column hplace, hvalue]

/-! ## Sums -/

/-- The sum of one column, taken from the first row to the last. -/
def columnSum (overflow : Overflow) (rows : List Row) (column : Fin 10) : Option Int64 :=
  (columnOf rows column).foldlM (addI64 overflow) 0

/-- A row store adds the values of the column up row by row. -/
theorem RowStore.getColSum_ofRows (overflow : Overflow) (rows : List Row) (column : Fin 10) :
    ColumnTable.getColSum (ofRows RowStore rows) overflow column =
      columnSum overflow rows column := by
  simp [RowStore.ofRows_eq, ColumnTable.getColSum, columnSum, columnOf, List.foldlM_map]

/-- A column store adds up the same values in the same order. -/
theorem ColStore.getColSum_ofRows (overflow : Overflow) (rows : List Row) (column : Fin 10) :
    ColumnTable.getColSum (ofRows ColStore rows) overflow column =
      columnSum overflow rows column := by
  simp only [ColStore.ofRows_eq, ColumnTable.getColSum, getElem?_columnsOf rows column.isLt,
    Option.bind_eq_bind, Option.bind_some]
  rfl

/-- Adding up page after page is adding up the whole column in order. -/
theorem foldlM_pages (overflow : Overflow) (pages : List (List Row)) (column : Fin 10)
    (sum : Int64) :
    (pages.map PaxPage.ofRows).foldlM (fun sum page => do
        (← page.columns[column.val]?).foldlM (addI64 overflow) sum) sum =
      (columnOf pages.flatten column).foldlM (addI64 overflow) sum := by
  induction pages generalizing sum with
  | nil => rfl
  | cons page pages ih =>
      have hcolumn : (columnsOf page)[column.val]? = some (columnOf page column) :=
        getElem?_columnsOf page column.isLt
      have hflatten : columnOf (page :: pages).flatten column =
          columnOf page column ++ columnOf pages.flatten column := by
        simp [columnOf]
      rw [hflatten, List.foldlM_append, List.map_cons, List.foldlM_cons]
      simp only [PaxPage.ofRows, hcolumn, Option.bind_eq_bind, Option.bind_some]
      congr 1
      funext sum
      exact ih sum

/-- A PAX store adds them up page by page, and so in the same order too. -/
theorem PaxStore.getColSum_ofRows {pageRows : Nat} (hpage : 0 < pageRows) (overflow : Overflow)
    (rows : List Row) (column : Fin 10) :
    ColumnTable.getColSum (Foundations.ofRows (PaxStore pageRows) rows) overflow column =
      columnSum overflow rows column := by
  obtain ⟨pages, hpages, -, hrows⟩ := represents_ofRows hpage rows
  have hsum := foldlM_pages overflow pages column 0
  rw [hrows] at hsum
  rw [columnSum, ← hsum]
  simp only [ColumnTable.getColSum, hpages]

/-- An index that names no column panics as soon as a row is read.  Without rows only
`ColStore` looks the column up. -/
theorem getColSum_of_not_column {pageRows : Nat} (hpage : 0 < pageRows) (overflow : Overflow)
    (rows : List Row) {column : Nat} (hcolumn : 10 ≤ column) :
    ColumnTable.getColSum (ofRows RowStore rows) overflow column =
        (if rows = [] then some 0 else none) ∧
      ColumnTable.getColSum (ofRows ColStore rows) overflow column = none ∧
      ColumnTable.getColSum (ofRows (PaxStore pageRows) rows) overflow column =
        (if rows = [] then some 0 else none) := by
  have hnone {α : Type} (values : Vector α 10) : values[column]? = none :=
    Vector.getElem?_eq_none hcolumn
  refine ⟨?_, ?_, ?_⟩
  · rw [RowStore.ofRows_eq]
    cases rows with
    | nil => rfl
    | cons row rows => simp [ColumnTable.getColSum, hnone]
  · simp [ColStore.ofRows_eq, ColumnTable.getColSum, hnone]
  · obtain ⟨pages, hpages, hfilled, hrows⟩ := PaxStore.represents_ofRows hpage rows
    simp only [ColumnTable.getColSum, hpages]
    cases pages with
    | nil =>
        have hrows : rows = [] := by simpa using hrows.symm
        simp [hrows]
    | cons page pages =>
        have hrows : rows ≠ [] := by
          rintro rfl
          have hempty := hfilled.length_pos hpage List.mem_cons_self
          simp_all
        simp [hrows, hnone]

/-- For every page size and every sequence of inserts, the three layouts return the
inserted cells and the same column sums, overflow included. -/
theorem layouts_agree {pageRows : Nat} (hpage : 1 ≤ pageRows) (rows : List Row) :
    (∀ row column, ∀ hrow : row < rows.length, ∀ hcolumn : column < 10,
      ColumnTable.get (ofRows RowStore rows) row column = some rows[row][column] ∧
      ColumnTable.get (ofRows ColStore rows) row column = some rows[row][column] ∧
      ColumnTable.get (ofRows (PaxStore pageRows) rows) row column =
        some rows[row][column]) ∧
    ∀ overflow column, column < 10 ∨ rows ≠ [] →
      ColumnTable.getColSum (ofRows ColStore rows) overflow column =
          ColumnTable.getColSum (ofRows RowStore rows) overflow column ∧
        ColumnTable.getColSum (ofRows (PaxStore pageRows) rows) overflow column =
          ColumnTable.getColSum (ofRows RowStore rows) overflow column := by
  constructor
  · intro row column hrow hcolumn
    exact ⟨RowStore.get_ofRows rows hrow ⟨column, hcolumn⟩,
      ColStore.get_ofRows rows hrow ⟨column, hcolumn⟩,
      PaxStore.get_ofRows hpage rows hrow ⟨column, hcolumn⟩⟩
  · intro overflow column hcolumn
    by_cases hlt : column < 10
    · have hrow := RowStore.getColSum_ofRows overflow rows ⟨column, hlt⟩
      have hcol := ColStore.getColSum_ofRows overflow rows ⟨column, hlt⟩
      have hpax := PaxStore.getColSum_ofRows hpage overflow rows ⟨column, hlt⟩
      exact ⟨hcol.trans hrow.symm, hpax.trans hrow.symm⟩
    · have hne := hcolumn.resolve_left hlt
      obtain ⟨hrow, hcol, hpax⟩ :=
        getColSum_of_not_column hpage overflow rows (Nat.le_of_not_lt hlt)
      rw [if_neg hne] at hrow hpax
      exact ⟨hcol.trans hrow.symm, hpax.trans hrow.symm⟩

/-- Three rows of `i64::MAX` on pages of two rows: the third row is found on the second
page, and with overflow checks no layout returns a sum. -/
theorem layouts_agree_overflow :
    ColumnTable.get (ofRows (PaxStore 2) (List.replicate 3 (Vector.replicate 10 Int64.maxValue)))
        2 9 = some Int64.maxValue ∧
      ColumnTable.getColSum (ofRows (PaxStore 2)
        (List.replicate 3 (Vector.replicate 10 Int64.maxValue))) .aborts 9 = none := by
  have hagree := layouts_agree (show 1 ≤ 2 by decide)
    (List.replicate 3 (Vector.replicate 10 Int64.maxValue))
  refine ⟨(hagree.1 2 9 (by decide) (by decide)).2.2, ?_⟩
  rw [(hagree.2 .aborts 9 (Or.inl (by decide))).2]
  decide +kernel

end Foundations
end TaskPool
