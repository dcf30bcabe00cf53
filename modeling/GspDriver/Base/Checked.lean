import Mathlib

/-!
Functions that check as they go and stop at the first check that fails. A
result tells that every check held; the lemmas take a chain of checks apart one
link at a time.
-/

namespace GspDriver.Checked

variable {Failure Value Result : Type}

def require (condition : Prop) [Decidable condition] (failure : Failure) : Except Failure Unit :=
  if condition then .ok () else .error failure

def orFail (found : Option Value) (failure : Failure) : Except Failure Value :=
  match found with
  | none => .error failure
  | some value => .ok value

theorem ok_bind (value : Value) (next : Value → Except Failure Result) :
    (Except.ok value >>= next) = next value := rfl

theorem bind_ok (first : Except Failure Value) (next : Value → Except Failure Result)
    (result : Result) :
    (first >>= next) = .ok result ↔ ∃ value, first = .ok value ∧ next value = .ok result := by
  constructor
  · intro ended
    cases first with
    | error failure => cases ended
    | ok value => exact ⟨value, rfl, ended⟩
  · rintro ⟨value, rfl, ended⟩
    exact ended

theorem require_bind (condition : Prop) [Decidable condition] (failure : Failure)
    (next : Unit → Except Failure Result) (result : Result) :
    (require condition failure >>= next) = .ok result ↔ condition ∧ next () = .ok result := by
  constructor
  · intro ended
    by_cases holds : condition
    · rw [require, if_pos holds] at ended
      exact ⟨holds, ended⟩
    · rw [require, if_neg holds] at ended
      cases ended
  · rintro ⟨holds, ended⟩
    rw [require, if_pos holds]
    exact ended

theorem require_pass {condition : Prop} [Decidable condition] (holds : condition)
    (failure : Failure) (next : Unit → Except Failure Result) :
    (require condition failure >>= next) = next () := by
  rw [require, if_pos holds, ok_bind]

theorem require_stop {condition : Prop} [Decidable condition] (fails : ¬ condition)
    (failure : Failure) (next : Unit → Except Failure Result) :
    (require condition failure >>= next) = .error failure := by
  rw [require, if_neg fails]
  rfl

theorem orFail_bind (found : Option Value) (failure : Failure)
    (next : Value → Except Failure Result) (result : Result) :
    (orFail found failure >>= next) = .ok result ↔
      ∃ value, found = some value ∧ next value = .ok result := by
  cases found with
  | none => exact iff_of_false (fun ended => nomatch ended) (fun ⟨_, ended, _⟩ => nomatch ended)
  | some value =>
      constructor
      · intro ended
        exact ⟨value, rfl, ended⟩
      · rintro ⟨other, same, ended⟩
        cases same
        exact ended

end GspDriver.Checked
