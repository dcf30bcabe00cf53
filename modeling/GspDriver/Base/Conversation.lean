import Mathlib

/-!
Programs that put one call after another to a party outside and go on by its
answers. What was said is kept newest first. `Meets` is the weakest
precondition of such a program: whatever is answered, every call is permitted by
what was said before it, and the end satisfies a postcondition.
-/

namespace GspDriver.Conversation

inductive Dialogue (Call : Type) (Answer : Call → Type) (α : Type)
  | done (value : α)
  | ask (call : Call) (next : Answer call → Dialogue Call Answer α)

/-- A call and what was answered. -/
structure Exchange {Call : Type} (Answer : Call → Type) where
  call : Call
  answer : Answer call

variable {Call α β σ Item : Type} {Answer : Call → Type}

namespace Dialogue

def bind : Dialogue Call Answer α → (α → Dialogue Call Answer β) → Dialogue Call Answer β
  | .done value, f => f value
  | .ask call next, f => .ask call fun answer => (next answer).bind f

end Dialogue

instance : Monad (Dialogue Call Answer) where
  pure := .done
  bind := .bind

def ask (call : Call) : Dialogue Call Answer (Answer call) := .ask call .done

/-- A program that is over, or one whose last call has no answer yet. -/
inductive Ending (Call α : Type)
  | done (value : α)
  | waiting (call : Call)

structure Talk (Answer : Call → Type) (α : Type) where
  said : List (Exchange Answer)
  ending : Ending Call α

/-- The conversation with a party that answers by its own state, or not at all. -/
def converse (reply : σ → (call : Call) → Option (Answer call × σ)) :
    σ → List (Exchange Answer) → Dialogue Call Answer α → Talk Answer α
  | _, past, .done value => ⟨past, .done value⟩
  | s, past, .ask call next =>
      match reply s call with
      | none => ⟨past, .waiting call⟩
      | some (answer, s) => converse reply s (⟨call, answer⟩ :: past) (next answer)

/-- Each call was permitted by what was said before it. -/
def Proper (may : List (Exchange Answer) → Call → Prop) : List (Exchange Answer) → Prop
  | [] => True
  | e :: past => may past e.call ∧ Proper may past

variable {may : List (Exchange Answer) → Call → Prop} {past later : List (Exchange Answer)}
  {post goal : α → List (Exchange Answer) → Prop}

theorem proper_split {recent earlier : List (Exchange Answer)} {e : Exchange Answer}
    (proper : Proper may (recent ++ e :: earlier)) : may earlier e.call := by
  induction recent with
  | nil => exact proper.1
  | cons _ recent ih => exact ih proper.2

def Meets (may : List (Exchange Answer) → Call → Prop) :
    Dialogue Call Answer α → List (Exchange Answer) →
      (α → List (Exchange Answer) → Prop) → Prop
  | .done value, past, post => post value past
  | .ask call next, past, post =>
      may past call ∧ ∀ answer, Meets may (next answer) (⟨call, answer⟩ :: past) post

/-! The rules, by the shape of a program. -/

theorem meets_pure {value : α} (holds : post value past) :
    Meets may (pure value : Dialogue Call Answer α) past post :=
  holds

theorem meets_bind {d : Dialogue Call Answer β} {f : β → Dialogue Call Answer α}
    (first : Meets may d past fun value past => Meets may (f value) past post) :
    Meets may (d >>= f) past post := by
  induction d generalizing past with
  | done value => exact first
  | ask call next ih => exact ⟨first.1, fun answer => ih answer (first.2 answer)⟩

theorem meets_ask {call : Call} {said : Answer call → List (Exchange Answer) → Prop}
    (permitted : may past call) (next : ∀ answer, said answer (⟨call, answer⟩ :: past)) :
    Meets may (ask call) past said :=
  ⟨permitted, next⟩

theorem meets_mono {d : Dialogue Call Answer α} (meets : Meets may d past post)
    (weaker : ∀ value later, past <:+ later → post value later → goal value later) :
    Meets may d past goal := by
  induction d generalizing past with
  | done value => exact weaker value past List.suffix_rfl meets
  | ask call next ih =>
      refine ⟨meets.1, fun answer => ih answer (meets.2 answer) ?_⟩
      intro value later grown
      exact weaker value later ((List.suffix_cons _ _).trans grown)

/-- A part whose own postcondition gives what the rest asks for. -/
theorem meets_then {d : Dialogue Call Answer β} {f : β → Dialogue Call Answer α}
    {middle : β → List (Exchange Answer) → Prop} (first : Meets may d past middle)
    (rest : ∀ value later, past <:+ later → middle value later → Meets may (f value) later post) :
    Meets may (d >>= f) past post :=
  meets_bind (meets_mono first rest)

theorem meets_ite {c : Prop} [Decidable c] {d e : Dialogue Call Answer α}
    (yes : c → Meets may d past post) (no : ¬ c → Meets may e past post) :
    Meets may (if c then d else e) past post := by
  by_cases holds : c
  · rw [if_pos holds]
    exact yes holds
  · rw [if_neg holds]
    exact no holds

/-- A loop over a list. Each turn finds what was said before the loop still said. -/
theorem meets_foldlM (inv : β → List (Exchange Answer) → Prop)
    {f : β → Item → Dialogue Call Answer β} (items : List Item) {init : β} (first : inv init past)
    (turn : ∀ value item later, past <:+ later → inv value later →
      Meets may (f value item) later inv) :
    Meets may (items.foldlM f init) past inv := by
  induction items generalizing init past with
  | nil => exact meets_pure first
  | cons item items ih =>
      rw [List.foldlM_cons]
      apply meets_then (turn init item past List.suffix_rfl first)
      intro value later grown now
      apply ih now
      exact fun value item last wrote => turn value item last (grown.trans wrote)

/-! What holds of every conversation. -/

theorem meets_sound (reply : σ → (call : Call) → Option (Answer call × σ)) (s : σ)
    {d : Dialogue Call Answer α} (meets : Meets may d past post) (proper : Proper may past) :
    Proper may (converse reply s past d).said ∧
      (∀ value, (converse reply s past d).ending = .done value →
        post value (converse reply s past d).said) ∧
      ∀ call, (converse reply s past d).ending = .waiting call →
        may (converse reply s past d).said call := by
  induction d generalizing s past with
  | done value =>
      refine ⟨proper, ?_, ?_⟩
      · intro found ended
        cases ended
        exact meets
      · intro call ended
        cases ended
  | ask call next ih =>
      rw [converse]
      cases reply s call with
      | none =>
          refine ⟨proper, ?_, ?_⟩
          · intro value ended
            cases ended
          · intro found ended
            cases ended
            exact meets.1
      | some answered => exact ih _ answered.2 (meets.2 answered.1) ⟨meets.1, proper⟩

/-! What has been said stays said. -/

def Known (fact : Exchange Answer → Prop) (past : List (Exchange Answer)) : Prop :=
  ∃ e ∈ past, fact e

variable {fact : Exchange Answer → Prop} {e : Exchange Answer}

theorem known_here (holds : fact e) : Known fact (e :: past) := ⟨e, List.mem_cons_self, holds⟩

theorem known_grows (known : Known fact past) (grown : past <:+ later) : Known fact later := by
  obtain ⟨e, member, holds⟩ := known
  exact ⟨e, grown.subset member, holds⟩

theorem known_later (known : Known fact past) : Known fact (e :: past) :=
  known_grows known (List.suffix_cons e past)

theorem known_mono {other : Exchange Answer → Prop} (known : Known fact past)
    (weaker : ∀ e, fact e → other e) : Known other past :=
  known.imp fun e here => ⟨here.1, weaker e here.2⟩

/-! What has been said since. -/

/-- An exchange with the fact, and behind it quiet calls only. -/
def Since (fact : Exchange Answer → Prop) (quiet : Call → Bool) : List (Exchange Answer) → Prop
  | [] => False
  | e :: past => fact e ∨ quiet e.call = true ∧ Since fact quiet past

variable {quiet : Call → Bool}

theorem since_here (holds : fact e) : Since fact quiet (e :: past) := Or.inl holds

theorem since_next (silent : quiet e.call = true) (since : Since fact quiet past) :
    Since fact quiet (e :: past) := Or.inr ⟨silent, since⟩

theorem since_mono {other : Exchange Answer → Prop} (since : Since fact quiet past)
    (weaker : ∀ e, fact e → other e) : Since other quiet past := by
  induction past with
  | nil => exact since
  | cons e past ih =>
      rcases since with here | ⟨silent, before⟩
      · exact Or.inl (weaker e here)
      · exact Or.inr ⟨silent, ih before⟩

theorem since_known (since : Since fact quiet past) : Known fact past := by
  induction past with
  | nil => cases since
  | cons e past ih =>
      rcases since with here | ⟨_, before⟩
      · exact known_here here
      · exact known_later (ih before)

end GspDriver.Conversation
