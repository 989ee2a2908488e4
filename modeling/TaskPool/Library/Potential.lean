import TaskPool.Library.TransitionSystem

/-!
# Counting the steps of a path

A number that every step of a kind lowers and no step raises bounds how many steps of that
kind a path has.

Main results:

- Definition `countSteps`: the number of steps of a kind.
- Theorem `IsPath.countSteps_add_le`: the steps of the kind and the number that is left.
- Theorem `IsPath.countSteps_add_le_add`: steps of one kind that those of another pay for.
- Theorem `EveryStep.length_add_le`: the steps of a path that all lower the number.
-/

namespace TaskPool
namespace Library

variable {σ ε : Type*} {step : σ → ε → σ → Prop} {H : σ → Prop}

/-- The number of steps of a kind. -/
def countSteps (kind : σ → ε → Bool) : σ → List (ε × σ) → Nat
  | _, [] => 0
  | s, (e, s') :: path => (if kind s e then 1 else 0) + countSteps kind s' path

/-- The first step of a path counts when it is of the kind. -/
theorem countSteps_cons (kind : σ → ε → Bool) (s s' : σ) (e : ε) (path : List (ε × σ)) :
    countSteps kind s ((e, s') :: path) = (kind s e).toNat + countSteps kind s' path := by
  rw [countSteps]
  cases kind s e <;> rfl

/-- Steps of the kind lower the potential, and no step raises it. -/
theorem IsPath.countSteps_add_le {s : σ} {path : List (ε × σ)} (hpath : IsPath step s path)
    (kind : σ → ε → Bool) (potential : σ → Nat) (hstates : EveryState H s path)
    (hlowers : ∀ s e s', H s → H s' → step s e s' → kind s e = true → potential s' < potential s)
    (hkeeps : ∀ s e s', H s → H s' → step s e s' → kind s e = false →
      potential s' ≤ potential s) :
    countSteps kind s path + potential (lastState s path) ≤ potential s := by
  induction path generalizing s with
  | nil => simp [countSteps, lastState]
  | cons move path ih =>
      rcases move with ⟨e, s'⟩
      have hrest := ih hpath.2 hstates.2
      rw [countSteps, lastState]
      cases hkind : kind s e with
      | true =>
          have hless := hlowers s e s' hstates.1 hstates.2.head hpath.1 hkind
          rw [if_pos rfl]
          omega
      | false =>
          have hless := hkeeps s e s' hstates.1 hstates.2.head hpath.1 hkind
          rw [if_neg Bool.false_ne_true]
          omega

/-- No step is of a kind that there is not. -/
theorem countSteps_false (s : σ) (path : List (ε × σ)) :
    countSteps (fun _ _ => false) s path = 0 := by
  induction path generalizing s with
  | nil => rfl
  | cons move path ih => rw [countSteps, ih, if_neg Bool.false_ne_true]

/-- Steps that are of one of two kinds. -/
theorem countSteps_or_le (kind kind' : σ → ε → Bool) (s : σ) (path : List (ε × σ)) :
    countSteps (fun s e => kind s e || kind' s e) s path ≤
      countSteps kind s path + countSteps kind' s path := by
  induction path generalizing s with
  | nil => exact Nat.zero_le _
  | cons move path ih =>
      rcases move with ⟨e, s'⟩
      have hrest := ih s'
      rw [countSteps_cons, countSteps_cons, countSteps_cons]
      cases kind s e <;> cases kind' s e <;> simp <;> omega

/-- When a step that spends takes it from the potential, and only a step that earns raises the
potential by one, a path spends no more than it has and earns. -/
theorem IsPath.countSteps_add_le_add {s : σ} {path : List (ε × σ)} (hpath : IsPath step s path)
    (spends earns : σ → ε → Bool) (potential : σ → Nat) (hstates : EveryState H s path)
    (hpays : ∀ s e s', H s → step s e s' →
      (spends s e).toNat + potential s' ≤ potential s + (earns s e).toNat) :
    countSteps spends s path + potential (lastState s path) ≤
      potential s + countSteps earns s path := by
  induction path generalizing s with
  | nil => simp [countSteps, lastState]
  | cons move path ih =>
      rcases move with ⟨e, s'⟩
      have hrest := ih hpath.2 hstates.2
      have hfirst := hpays s e s' hstates.1 hpath.1
      rw [countSteps_cons, countSteps_cons, lastState]
      omega

/-- When every step lowers the potential, the path is no longer than what it has cost. -/
theorem EveryStep.length_add_le {potential : σ → Nat} {s : σ} {path : List (ε × σ)}
    (h : EveryStep (fun s _ s' => potential s' < potential s) s path) :
    path.length + potential (lastState s path) ≤ potential s := by
  induction path generalizing s with
  | nil => exact Nat.le_of_eq (Nat.zero_add _)
  | cons move path ih =>
      have hrest := ih h.2
      have hless := h.1
      rw [List.length_cons, lastState]
      omega

end Library
end TaskPool
