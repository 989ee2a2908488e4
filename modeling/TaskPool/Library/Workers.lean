import Mathlib.Data.List.Basic
import TaskPool.Library.Potential

/-!
# Workers in a list

Concurrent workers are kept in a list, and a step changes the worker at one place.  What
the workers have in sum changes by what this worker gains or loses: permits they hold, or
work they have left.

Main results:

- Definition `total`: a quantity summed over the workers.
- Theorem `total_set_add`: the total after a worker has changed.
- Theorem `IsPath.length_add_le`: a number that every step lowers bounds the length of
  paths.
-/

namespace TaskPool
namespace Library

variable {α : Type*} {σ ε : Type*} {step : σ → ε → σ → Prop}

/-- The sum of a quantity over all workers. -/
def total (q : α → Nat) : List α → Nat
  | [] => 0
  | worker :: workers => q worker + total q workers

@[simp] theorem total_nil (q : α → Nat) : total q [] = 0 := rfl

@[simp] theorem total_cons (q : α → Nat) (worker : α) (workers : List α) :
    total q (worker :: workers) = q worker + total q workers := rfl

@[simp] theorem total_append_singleton (q : α → Nat) (workers : List α) (worker : α) :
    total q (workers ++ [worker]) = total q workers + q worker := by
  induction workers with
  | nil => simp
  | cons first workers ih => simp [ih, Nat.add_assoc]

/-- A worker at one place changes. -/
theorem total_set_add {q : α → Nat} {workers : List α} {i : Nat} {worker : α}
    (hworker : workers[i]? = some worker) (worker' : α) :
    total q (workers.set i worker') + q worker = total q workers + q worker' := by
  induction workers generalizing i with
  | nil => cases hworker
  | cons first workers ih =>
      cases i with
      | zero =>
          obtain rfl : first = worker := Option.some_inj.mp hworker
          simp only [List.set_cons_zero, total_cons]
          omega
      | succ i =>
          have hrest := ih hworker
          simp only [List.set_cons_succ, total_cons]
          omega

/-- What a change of one worker leaves alone is the same for all workers. -/
theorem map_set_of_eq {β : Type*} {f : α → β} {workers : List α} {i : Nat} {worker : α}
    (hworker : workers[i]? = some worker) {worker' : α} (h : f worker' = f worker) :
    (workers.set i worker').map f = workers.map f := by
  induction workers generalizing i with
  | nil => rfl
  | cons first workers ih =>
      cases i with
      | zero =>
          obtain rfl : first = worker := Option.some_inj.mp hworker
          rw [List.set_cons_zero, List.map_cons, List.map_cons, h]
      | succ i => rw [List.set_cons_succ, List.map_cons, List.map_cons, ih hworker]

/-- A positive total comes from some worker. -/
theorem exists_pos_of_total_pos {q : α → Nat} {workers : List α} (h : 0 < total q workers) :
    ∃ (i : Nat) (worker : α), workers[i]? = some worker ∧ 0 < q worker := by
  induction workers with
  | nil => cases h
  | cons first workers ih =>
      by_cases hfirst : 0 < q first
      · exact ⟨0, first, rfl, hfirst⟩
      · have hrest : 0 < total q workers := by
          rw [total_cons] at h
          omega
        obtain ⟨i, worker, hworker, hpos⟩ := ih hrest
        exact ⟨i + 1, worker, hworker, hpos⟩

/-- Every step lowers the potential. -/
theorem IsPath.length_add_le {s : σ} {path : List (ε × σ)} (hpath : IsPath step s path)
    (potential : σ → Nat) (hlowers : ∀ s e s', step s e s' → potential s' < potential s) :
    path.length + potential (lastState s path) ≤ potential s :=
  (hpath.everyStep_self.imp hlowers).length_add_le

end Library
end TaskPool
