import Mathlib.Data.List.ModifyLast
import Mathlib.Data.Nat.Notation

/-!
# Lists kept in pages of a fixed size

A list that grows at its end is cut into pages: every page but the last holds
exactly `size` elements, and the last one at least one and at most `size`.  The
element of index `i` is then element `i % size` of page `i / size`.

Main results:

- Theorem `Filled.push`: appending to the last page, or to a new one when the last
  one is full, keeps the pages filled.
- Theorem `flatten_pushPaged`: the paged list grows by the new element.
- Theorem `Filled.getElem?_div_mod`: division and remainder address the elements.
-/

namespace TaskPool
namespace Library

variable {α β : Type*}

/-- Every page but the last is full, and the last one is neither empty nor too long. -/
def Filled (size : Nat) : List (List α) → Prop
  | [] => True
  | [last] => 0 < last.length ∧ last.length ≤ size
  | page :: next :: pages => page.length = size ∧ Filled size (next :: pages)

/-- Append to the last page, or to a new page when there is none or the last is full. -/
def pushPaged (size : Nat) (a : α) : List (List α) → List (List α)
  | [] => [[a]]
  | [last] => if last.length = size then [last, [a]] else [last ++ [a]]
  | page :: next :: pages => page :: pushPaged size a (next :: pages)

/-- There is a last page behind every push. -/
theorem pushPaged_ne_nil (size : Nat) (a : α) (pages : List (List α)) :
    pushPaged size a pages ≠ [] := by
  fun_cases pushPaged size a pages <;> simp

/-- A push on filled pages opens a new page only when the last one is full, so they stay
filled. -/
theorem Filled.push {size : Nat} (hsize : 0 < size) (a : α) {pages : List (List α)}
    (h : Filled size pages) : Filled size (pushPaged size a pages) := by
  induction pages using pushPaged.induct size with
  | case1 =>
      rw [pushPaged]
      simp only [Filled, List.length_singleton]
      omega
  | case2 last hfull =>
      rw [pushPaged, if_pos hfull]
      simp only [Filled, List.length_singleton]
      omega
  | case3 last hfull =>
      obtain ⟨hpos, hle⟩ := h
      rw [pushPaged, if_neg hfull]
      simp only [Filled, List.length_append, List.length_singleton]
      omega
  | case4 page next pages ih =>
      obtain ⟨hpage, hpages⟩ := h
      obtain ⟨head, tail, hpush⟩ := List.exists_cons_of_ne_nil
        (pushPaged_ne_nil size a (next :: pages))
      have hnext := ih hpages
      rw [pushPaged]
      rw [hpush] at hnext ⊢
      exact ⟨hpage, hnext⟩

/-- No page of a filled list is empty. -/
theorem Filled.length_pos {size : Nat} (hsize : 0 < size) {pages : List (List α)}
    (h : Filled size pages) {page : List α} (hpage : page ∈ pages) : 0 < page.length := by
  induction pages with
  | nil => simp at hpage
  | cons first pages ih =>
      cases pages with
      | nil =>
          rw [List.mem_singleton] at hpage
          exact hpage ▸ h.1
      | cons next pages =>
          rcases List.mem_cons.mp hpage with rfl | hrest
          · exact h.1 ▸ hsize
          · exact ih h.2 hrest

@[simp] theorem flatten_pushPaged (size : Nat) (a : α) (pages : List (List α)) :
    (pushPaged size a pages).flatten = pages.flatten ++ [a] := by
  induction pages using pushPaged.induct size with
  | case1 => simp [pushPaged]
  | case2 last hfull => simp [pushPaged, hfull]
  | case3 last hfull => simp [pushPaged, hfull]
  | case4 page next pages ih =>
      rw [pushPaged, List.flatten_cons, ih]
      simp

/-- Pages of another type that represent lists of elements: opening one when the last
is full and extending the last one represents `pushPaged`. -/
theorem modifyLast_map_eq_pushPaged {size : Nat} {represent : List α → β} (isFull : β → Bool)
    (extend : β → β) {a : α} (hfull : ∀ page, isFull (represent page) = (page.length == size))
    (hextend : ∀ page, extend (represent page) = represent (page ++ [a]))
    (pages : List (List α)) :
    (if (pages.map represent).getLast?.all isFull then pages.map represent ++ [represent []]
      else pages.map represent).modifyLast extend = (pushPaged size a pages).map represent := by
  induction pages using pushPaged.induct size with
  | case1 => simp [pushPaged, List.modifyLast, List.modifyLast.go, hextend]
  | case2 last hlast =>
      simp [pushPaged, hfull, hlast, List.modifyLast, List.modifyLast.go, hextend]
  | case3 last hlast =>
      simp [pushPaged, hfull, hlast, List.modifyLast, List.modifyLast.go, hextend]
  | case4 page next pages ih =>
      simp only [pushPaged, List.map_cons, List.getLast?_cons_cons] at ih ⊢
      rw [← ih]
      split
      · rw [List.modifyLast_concat, List.modifyLast_concat]
        rfl
      · exact List.modifyLast_append_of_right_ne_nil extend [represent page]
          (represent next :: pages.map represent) (List.cons_ne_nil _ _)

/-- Division by the page size finds the page, the remainder the place on it. -/
theorem Filled.getElem?_div_mod {size : Nat} (hsize : 0 < size) {pages : List (List α)}
    (h : Filled size pages) (i : Nat) :
    (do (← pages[i / size]?)[i % size]?) = pages.flatten[i]? := by
  induction pages generalizing i with
  | nil => simp
  | cons page pages ih =>
      by_cases hi : i < size
      · have hpage : page[i]? = (page ++ pages.flatten)[i]? := by
          cases pages with
          | nil => simp
          | cons next pages => rw [List.getElem?_append_left (by rw [h.1]; exact hi)]
        simpa [Nat.div_eq_of_lt hi, Nat.mod_eq_of_lt hi] using hpage
      · obtain ⟨k, rfl⟩ := Nat.exists_eq_add_of_le' (Nat.le_of_not_lt hi)
        rw [Nat.add_div_right _ hsize, Nat.add_mod_right, List.getElem?_cons_succ,
          List.flatten_cons]
        cases pages with
        | nil =>
            have hlast := h.2
            rw [List.getElem?_eq_none (by simp), List.getElem?_eq_none (by simp; omega)]
            rfl
        | cons next pages =>
            obtain ⟨hpage, hpages⟩ := h
            rw [ih hpages k, List.getElem?_append_right (by omega), hpage, Nat.add_sub_cancel]

end Library
end TaskPool
