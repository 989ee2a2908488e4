import Mathlib.Logic.Basic

/-!
# Labelled transition systems

A path is the list of its labels, each with the state it leads to.  Properties of a
path are stated for each of its steps or for each of its states, and are proved
from what one step preserves.

Main results:

- Theorem `IsPath.everyState`: an invariant of the steps holds in every state.
- Theorem `IsPath.everyStep`: a property of the steps out of invariant states holds along
  whole paths.
- Theorem `IsPath.everyStep_iff`: two properties that are equivalent for single
  steps out of invariant states are equivalent along whole paths.
-/

namespace TaskPool
namespace Library

variable {σ ε : Type*} {step : σ → ε → σ → Prop} {P Q : σ → ε → σ → Prop} {Inv H : σ → Prop}

/-- The labels and states form a path that starts in `s`. -/
def IsPath (step : σ → ε → σ → Prop) : σ → List (ε × σ) → Prop
  | _, [] => True
  | s, (e, s') :: path => step s e s' ∧ IsPath step s' path

/-- Every step of the path satisfies `P`. -/
def EveryStep (P : σ → ε → σ → Prop) : σ → List (ε × σ) → Prop
  | _, [] => True
  | s, (e, s') :: path => P s e s' ∧ EveryStep P s' path

/-- Every state of the path, the first one included, satisfies `H`. -/
def EveryState (H : σ → Prop) : σ → List (ε × σ) → Prop
  | s, [] => H s
  | s, (_, s') :: path => H s ∧ EveryState H s' path

instance EveryStep.decidable [∀ s e s', Decidable (P s e s')] :
    (s : σ) → (path : List (ε × σ)) → Decidable (EveryStep P s path)
  | _, [] => .isTrue trivial
  | s, (e, s') :: path => by
    unfold EveryStep
    exact @instDecidableAnd _ _ _ (EveryStep.decidable s' path)

/-- The last state of a path. -/
def lastState : σ → List (ε × σ) → σ
  | s, [] => s
  | _, (_, s') :: path => lastState s' path

/-- The values of `f` in the states of a path, the first one included. -/
def valuesAlong {α : Type*} (f : σ → α) : σ → List (ε × σ) → List α
  | s, [] => [f s]
  | s, (_, s') :: path => f s :: valuesAlong f s' path

/-- The first state is one of the states. -/
theorem EveryState.head {s : σ} {path : List (ε × σ)} (h : EveryState H s path) : H s := by
  cases path with
  | nil => exact h
  | cons move path => exact h.1

/-- So is the last one. -/
theorem EveryState.last {s : σ} {path : List (ε × σ)} (h : EveryState H s path) :
    H (lastState s path) := by
  induction path generalizing s with
  | nil => exact h
  | cons move path ih => exact ih h.2

/-- What holds in every state may be weakened in every state. -/
theorem EveryState.imp {H' : σ → Prop} (himp : ∀ s, H s → H' s) {s : σ} {path : List (ε × σ)}
    (h : EveryState H s path) : EveryState H' s path := by
  induction path generalizing s with
  | nil => exact himp s h
  | cons move path ih => exact ⟨himp s h.1, ih h.2⟩

/-- Two properties of every state are one. -/
theorem EveryState.and {H' : σ → Prop} {s : σ} {path : List (ε × σ)}
    (hH : EveryState H s path) (hH' : EveryState H' s path) :
    EveryState (fun s => H s ∧ H' s) s path := by
  induction path generalizing s with
  | nil => exact ⟨hH, hH'⟩
  | cons move path ih => exact ⟨⟨hH.1, hH'.1⟩, ih hH.2 hH'.2⟩

/-- What holds of every step may be weakened in every step. -/
theorem EveryStep.imp (himp : ∀ s e s', P s e s' → Q s e s') {s : σ} {path : List (ε × σ)}
    (h : EveryStep P s path) : EveryStep Q s path := by
  induction path generalizing s with
  | nil => trivial
  | cons move path ih => exact ⟨himp _ _ _ h.1, ih h.2⟩

/-- Two properties of every step are one. -/
theorem EveryStep.and {s : σ} {path : List (ε × σ)} (hP : EveryStep P s path)
    (hQ : EveryStep Q s path) : EveryStep (fun s e s' => P s e s' ∧ Q s e s') s path := by
  induction path generalizing s with
  | nil => trivial
  | cons move path ih => exact ⟨⟨hP.1, hQ.1⟩, ih hP.2 hQ.2⟩

/-- A path that goes on ends where its continuation does. -/
theorem lastState_append (s : σ) (path after : List (ε × σ)) :
    lastState s (path ++ after) = lastState (lastState s path) after := by
  induction path generalizing s with
  | nil => rfl
  | cons move path ih => exact ih move.2

/-- A path that goes on is a path to its middle and a path from there. -/
theorem isPath_append {s : σ} {path after : List (ε × σ)} :
    IsPath step s (path ++ after) ↔ IsPath step s path ∧ IsPath step (lastState s path) after := by
  induction path generalizing s with
  | nil => exact (iff_of_eq (true_and _)).symm
  | cons move path ih => exact (and_congr_right' ih).trans and_assoc.symm

/-- The steps of a path that goes on are those before its middle and those behind it. -/
theorem everyStep_append {s : σ} {path after : List (ε × σ)} :
    EveryStep P s (path ++ after) ↔ EveryStep P s path ∧ EveryStep P (lastState s path) after := by
  induction path generalizing s with
  | nil => exact (iff_of_eq (true_and _)).symm
  | cons move path ih => exact (and_congr_right' ih).trans and_assoc.symm

/-- The states of a path that goes on are those up to its middle and those from there. -/
theorem everyState_append {s : σ} {path after : List (ε × σ)} :
    EveryState H s (path ++ after) ↔ EveryState H s path ∧ EveryState H (lastState s path) after := by
  induction path generalizing s with
  | nil => exact ⟨fun h => ⟨h.head, h⟩, And.right⟩
  | cons move path ih => exact (and_congr_right' ih).trans and_assoc.symm

/-- What holds of all values along a path holds in each of its states. -/
theorem everyState_of_valuesAlong {α : Type*} {f : σ → α} {V : α → Prop} {s : σ}
    {path : List (ε × σ)} (h : ∀ a ∈ valuesAlong f s path, V a) :
    EveryState (fun s => V (f s)) s path := by
  induction path generalizing s with
  | nil => exact h _ List.mem_cons_self
  | cons move path ih =>
      exact ⟨h _ List.mem_cons_self, ih fun a ha => h a (List.mem_cons_of_mem _ ha)⟩

/-- A path of one relation whose steps also satisfy `P` is a path of another one. -/
theorem IsPath.imp {step' : σ → ε → σ → Prop} {s : σ} {path : List (ε × σ)}
    (hpath : IsPath step s path) (hP : EveryStep P s path)
    (himp : ∀ s e s', step s e s' → P s e s' → step' s e s') : IsPath step' s path := by
  induction path generalizing s with
  | nil => trivial
  | cons move path ih => exact ⟨himp _ _ _ hpath.1 hP.1, ih hpath.2 hP.2⟩

/-- The steps of a path are steps. -/
theorem IsPath.everyStep_self {s : σ} {path : List (ε × σ)} (hpath : IsPath step s path) :
    EveryStep step s path := by
  induction path generalizing s with
  | nil => trivial
  | cons move path ih => exact ⟨hpath.1, ih hpath.2⟩

/-- What holds in every state holds before and after every step. -/
theorem EveryState.everyStep {s : σ} {path : List (ε × σ)} (h : EveryState H s path) :
    EveryStep (fun s _ s' => H s ∧ H s') s path := by
  induction path generalizing s with
  | nil => trivial
  | cons move path ih => exact ⟨⟨h.1, h.2.head⟩, ih h.2⟩

/-- What holds at the start and after every step holds in every state. -/
theorem EveryStep.everyState {s : σ} {path : List (ε × σ)}
    (h : EveryStep (fun _ _ s' => H s') s path) (hstart : H s) : EveryState H s path := by
  induction path generalizing s with
  | nil => exact hstart
  | cons move path ih => exact ⟨hstart, ih h.2 h.1⟩

/-- What the steps of a path preserve holds in all of its states. -/
theorem IsPath.everyState {s : σ} {path : List (ε × σ)} (hpath : IsPath step s path)
    (hP : EveryStep P s path) (hstart : Inv s)
    (hstep : ∀ s e s', Inv s → step s e s' → P s e s' → Inv s') : EveryState Inv s path := by
  induction path generalizing s with
  | nil => exact hstart
  | cons move path ih =>
      exact ⟨hstart, ih hpath.2 hP.2 (hstep _ _ _ hstart hpath.1 hP.1)⟩

/-- What every step preserves holds in all states of a path. -/
theorem IsPath.invariant {s : σ} {path : List (ε × σ)} (hpath : IsPath step s path)
    (hstart : Inv s) (hstep : ∀ s e s', Inv s → step s e s' → Inv s') :
    EveryState Inv s path :=
  hpath.everyState hpath.everyStep_self hstart fun s e s' hinv hs _ => hstep s e s' hinv hs

/-- If a good step out of an invariant state keeps the invariant and has a property, then
a path of good steps has the property. -/
theorem IsPath.everyStep {s : σ} {path : List (ε × σ)} (hpath : IsPath step s path)
    (hP : EveryStep P s path) (hstart : Inv s)
    (hgood : ∀ s e s', Inv s → step s e s' → P s e s' → Inv s' ∧ Q s e s') :
    EveryStep Q s path := by
  induction path generalizing s with
  | nil => trivial
  | cons move path ih =>
      have hboth := hgood _ _ _ hstart hpath.1 hP.1
      exact ⟨hboth.2, ih hpath.2 hP.2 hboth.1⟩

/-- If, besides, only good steps have the property, then a path has the property exactly
when its steps are good. -/
theorem IsPath.everyStep_iff {s : σ} {path : List (ε × σ)} (hpath : IsPath step s path)
    (hstart : Inv s) (hgood : ∀ s e s', Inv s → step s e s' → P s e s' → Inv s' ∧ Q s e s')
    (honly : ∀ s e s', Inv s → step s e s' → Q s e s' → P s e s') :
    EveryStep Q s path ↔ EveryStep P s path := by
  refine ⟨fun h => ?_, fun h => hpath.everyStep h hstart hgood⟩
  induction path generalizing s with
  | nil => trivial
  | cons move path ih =>
      have hP := honly _ _ _ hstart hpath.1 h.1
      exact ⟨hP, ih hpath.2 (hgood _ _ _ hstart hpath.1 hP).1 h.2⟩

/-! ## Systems that are computed -/

/-- The path of a list of labels, up to the first one that is refused. -/
def follow (next : σ → ε → Option σ) : σ → List ε → List (ε × σ)
  | _, [] => []
  | s, e :: labels =>
    match next s e with
    | none => []
    | some s' => (e, s') :: follow next s' labels

/-- Following labels takes steps only. -/
theorem isPath_follow (next : σ → ε → Option σ) (s : σ) (labels : List ε) :
    IsPath (fun s e s' => next s e = some s') s (follow next s labels) := by
  induction labels generalizing s with
  | nil => trivial
  | cons e labels ih =>
      unfold follow
      cases hnext : next s e with
      | none => trivial
      | some s' => exact ⟨hnext, ih s'⟩

/-- What holds of all labels holds of every step. -/
theorem everyStep_follow {next : σ → ε → Option σ} {R : ε → Prop} {labels : List ε}
    (h : ∀ e ∈ labels, R e) (s : σ) :
    EveryStep (fun _ e _ => R e) s (follow next s labels) := by
  induction labels generalizing s with
  | nil => trivial
  | cons e labels ih =>
      unfold follow
      cases next s e with
      | none => trivial
      | some s' =>
          exact ⟨h e List.mem_cons_self, ih (fun e' he' => h e' (List.mem_cons_of_mem e he')) s'⟩

end Library
end TaskPool
