import Mathlib

/-!
Runs of a system that takes one action after another. A condition on each
action, in the state in which it is taken, admits a run; what every admitted
action keeps holds in every state that the run comes to. The second part is
about parties of which one at a time holds a resource.
-/

namespace GspDriver.Trace

universe u v w
variable {State : Type u} {Action : Type v} (act : State → Action → State)

def run (s : State) (actions : List Action) : State := actions.foldl act s

/-- Each action is allowed in the state in which it is taken. -/
def Admitted (allowed : State → Action → Prop) : State → List Action → Prop
  | _, [] => True
  | s, action :: rest => allowed s action ∧ Admitted allowed (act s action) rest

variable {act} {allowed : State → Action → Prop} {s : State} {actions : List Action}

theorem run_invariant {inv : State → Prop}
    (keeps : ∀ s action, allowed s action → inv s → inv (act s action))
    (admitted : Admitted act allowed s actions) (first : inv s) : inv (run act s actions) := by
  induction actions generalizing s with
  | nil => exact first
  | cons action rest ih => exact ih admitted.2 (keeps s action admitted.1 first)

theorem admitted_append {more : List Action} : Admitted act allowed s (actions ++ more) ↔
    Admitted act allowed s actions ∧ Admitted act allowed (run act s actions) more := by
  induction actions generalizing s with
  | nil => exact (iff_of_eq (true_and _)).symm
  | cons action rest ih => exact (and_congr_right fun _ => ih).trans and_assoc.symm

theorem admitted_weaken {weaker : State → Action → Prop}
    (weakens : ∀ s action, allowed s action → weaker s action)
    (admitted : Admitted act allowed s actions) : Admitted act weaker s actions := by
  induction actions generalizing s with
  | nil => trivial
  | cons action rest ih => exact ⟨weakens s action admitted.1, ih admitted.2⟩

/-- The same of a system that keeps `inv` whatever it does. -/
theorem run_kept {inv : State → Prop} (keeps : ∀ s action, inv s → inv (act s action))
    (actions : List Action) (first : inv s) : inv (run act s actions) := by
  induction actions generalizing s with
  | nil => exact first
  | cons action rest ih => exact ih (keeps s action first)

/-- A run seen through `view` is a run of the system whose actions are seen as `turn`. -/
theorem run_simulates {Model : Type u} {Turn : Type v} {move : Model → Turn → Model}
    {view : State → Model} {turn : Action → Turn} {inv : State → Prop}
    (steps : ∀ s action, inv s → inv (act s action) ∧
      view (act s action) = move (view s) (turn action)) (actions : List Action) (first : inv s) :
    view (run act s actions) = run move (view s) (actions.map turn) := by
  induction actions generalizing s with
  | nil => rfl
  | cons action rest ih =>
    obtain ⟨kept, same⟩ := steps s action first
    have later := ih kept
    rw [same] at later
    exact later

section Holders

variable {Party : Type w} [DecidableEq Party] {Place : Type v} {holds : Place → Prop}
  {places : Party → Place} {party other : Party} {next : Place}

/-- At most one party is at a place where it holds the resource. -/
def Exclusive (holds : Place → Prop) (places : Party → Place) : Prop :=
  ∀ party other, holds (places party) → holds (places other) → party = other

/-- A party that moves holds the resource only if it did before or no one did. -/
theorem exclusive_move (exclusive : Exclusive holds places)
    (may : holds next → holds (places party) ∨ ∀ other, ¬ holds (places other)) :
    Exclusive holds (Function.update places party next) := by
  -- Only a move into the resource can break the rule, and then no one else is there.
  have alone : ∀ other, other ≠ party → holds next → ¬ holds (places other) := by
    intro other distinct enters here
    rcases may enters with before | free
    · exact distinct (exclusive other party here before)
    · exact free other here
  intro first second one two
  by_cases left : first = party <;> by_cases right : second = party
  · rw [left, right]
  · subst left
    rw [Function.update_self] at one
    rw [Function.update_of_ne right] at two
    exact absurd two (alone second right one)
  · subst right
    rw [Function.update_of_ne left] at one
    rw [Function.update_self] at two
    exact absurd one (alone first left two)
  · rw [Function.update_of_ne left] at one
    rw [Function.update_of_ne right] at two
    exact exclusive first second one two

end Holders

end GspDriver.Trace
