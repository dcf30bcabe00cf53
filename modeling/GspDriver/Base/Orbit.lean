import GspDriver.Base.Loop

/-!
Loops that follow a fixed map on finitely many places until a goal place. Such
a walk meets its goal within as many steps as there are places, or never, so a
loop that makes one step each turn ends exactly when the goal lies on the orbit.
-/

namespace GspDriver.Orbit

open Loop

universe u v
variable {State : Type u} {Result : Type v}

/-- The walk from `start` meets the goal within `n` steps. -/
def Meets (n : Nat) (next : Nat → Nat) (goal : Nat → Prop) (start : Nat) : Prop :=
  ∃ k < n, goal (next^[k] start)

section Walk

variable {n : Nat} {next : Nat → Nat} {goal : Nat → Prop} {start : Nat}

theorem iterate_lt (closed : ∀ place < n, next place < n) (inside : start < n) (k : Nat) :
    next^[k] start < n := by
  induction k with
  | zero => exact inside
  | succ k ih =>
      rw [Function.iterate_succ_apply']
      exact closed _ ih

/-- A place met twice leaves the part of the walk between out. -/
theorem iterate_shortcut {i j k : Nat} (same : next^[i] start = next^[j] start) (before : j ≤ k) :
    next^[k - j + i] start = next^[k] start := by
  rw [Function.iterate_add_apply, same, ← Function.iterate_add_apply, Nat.sub_add_cancel before]

theorem meets_iff (closed : ∀ place < n, next place < n) (inside : start < n) :
    Meets n next goal start ↔ ∃ k, goal (next^[k] start) := by
  classical
  constructor
  · rintro ⟨k, _, hit⟩
    exact ⟨k, hit⟩
  · intro hits
    have first := Nat.find_spec hits
    refine ⟨Nat.find hits, Nat.lt_of_not_le fun late => ?_, first⟩
    -- the places up to the first hit are more than there are, so one is met twice
    obtain ⟨i, low, j, high, distinct, same⟩ :=
      Finset.exists_ne_map_eq_of_card_lt_of_maps_to (s := Finset.range (n + 1))
        (t := Finset.range n) (by simp) (f := fun k => next^[k] start) fun k _ =>
          Finset.mem_coe.mpr (Finset.mem_range.mpr (iterate_lt closed inside k))
    have lowBound := Finset.mem_range.mp low
    have highBound := Finset.mem_range.mp high
    have shorter : ∃ m < Nat.find hits, goal (next^[m] start) := by
      rcases Nat.lt_or_gt_of_ne distinct with less | more
      · refine ⟨Nat.find hits - j + i, by omega, ?_⟩
        rw [iterate_shortcut same (by omega)]
        exact first
      · refine ⟨Nat.find hits - i + j, by omega, ?_⟩
        rw [iterate_shortcut same.symm (by omega)]
        exact first
    obtain ⟨m, below, hit⟩ := shorter
    exact Nat.find_min hits below hit

end Walk

section Loops

variable {turn : State → Turn State Result} {holds : State → Prop} {place : State → Nat}
  {next : Nat → Nat} {goal : Nat → Prop}

/-- What a turn does at a goal place and elsewhere. -/
def Walks (turn : State → Turn State Result) (holds : State → Prop) (place : State → Nat)
    (next : Nat → Nat) (goal : Nat → Prop) : Prop :=
  ∀ state, holds state →
    (goal (place state) ∧ ∃ result, turn state = .stop result) ∨
    (¬ goal (place state) ∧ ∃ after, turn state = .again after ∧ holds after ∧
      place after = next (place state))

theorem walk_ends_iff (walks : Walks turn holds place next goal) {state : State}
    (start : holds state) :
    (∃ fuel result, whileFuel turn fuel state = some result) ↔
      ∃ k, goal (next^[k] (place state)) := by
  constructor
  -- Each turn that goes on is one more application of `next`.
  · rintro ⟨fuel, result, ended⟩
    induction fuel generalizing state with
    | zero => cases ended
    | succ fuel ih =>
        rcases walks state start with ⟨hit, _⟩ | ⟨_, after, again, kept, moved⟩
        · exact ⟨0, hit⟩
        · rw [whileFuel, again] at ended
          obtain ⟨k, hit⟩ := ih kept ended
          rw [moved, ← Function.iterate_succ_apply] at hit
          exact ⟨k + 1, hit⟩
  · rintro ⟨k, hit⟩
    induction k generalizing state with
    | zero =>
        rcases walks state start with ⟨_, result, stop⟩ | ⟨missed, _⟩
        · refine ⟨1, result, ?_⟩
          rw [whileFuel, stop]
        · exact absurd hit missed
    | succ k ih =>
        rcases walks state start with ⟨_, result, stop⟩ | ⟨_, after, again, kept, moved⟩
        · refine ⟨1, result, ?_⟩
          rw [whileFuel, stop]
        · rw [Function.iterate_succ_apply, ← moved] at hit
          obtain ⟨fuel, result, ended⟩ := ih kept hit
          refine ⟨fuel + 1, result, ?_⟩
          rw [whileFuel, again]
          exact ended

end Loops

end GspDriver.Orbit
