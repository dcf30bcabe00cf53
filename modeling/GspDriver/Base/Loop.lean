import Mathlib

/-!
Counted loops. `forStep bound step` is the C loop
`for (i = 0; i < bound; i += step)` whose counter does not wrap; a loop that
may leave early is a `whileFuel` over one turn. The rules below carry an
invariant, or a relation with a second loop, from each iteration to the whole;
the rule of the second kind also proves that the fuel suffices.
-/

namespace GspDriver.Loop

universe u v w
variable {State : Type u} {Model : Type v} {Entry : Type w} {Result Answer : Type*}

def forCount (count : Nat) (body : Nat → State → State) (start : State) : State :=
  (List.range count).foldl (fun state i => body i state) start

def forStep (bound step : Nat) (body : Nat → State → State) (start : State) : State :=
  forCount ((bound + step - 1) / step) (fun k => body (k * step)) start

theorem forCount_succ (count : Nat) (body : Nat → State → State) (start : State) :
    forCount (count + 1) body start = body count (forCount count body start) := by
  rw [forCount, List.range_succ, List.foldl_append]
  rfl

theorem forCount_invariant (count : Nat) (body : Nat → State → State) (start : State)
    (holds : Nat → State → Prop) (first : holds 0 start)
    (step : ∀ i < count, ∀ state, holds i state → holds (i + 1) (body i state)) :
    holds count (forCount count body start) := by
  induction count with
  | zero => exact first
  | succ count ih =>
      have front := ih (fun i inside => step i (by omega))
      rw [forCount_succ]
      exact step count (by omega) _ front

/-- Two loops of one length keep a relation that each pair of bodies keeps. -/
theorem forCount_relation (count : Nat) (body : Nat → State → State)
    (other : Nat → Model → Model) (start : State) (origin : Model)
    (related : State → Model → Prop) (first : related start origin)
    (step : ∀ i < count, ∀ state model, related state model →
      related (body i state) (other i model)) :
    related (forCount count body start) (forCount count other origin) := by
  apply List.foldl_rel first
  intro i member state model pair
  exact step i (List.mem_range.mp member) state model pair

inductive Turn (State : Type u) (Result : Type v) where
  | again (state : State)
  | stop (result : Result)

/-- A loop that leaves when a turn says so, `none` when the fuel runs out. -/
def whileFuel (turn : State → Turn State Model) : Nat → State → Option Model
  | 0, _ => none
  | fuel + 1, state =>
      match turn state with
      | .again next => whileFuel turn fuel next
      | .stop result => some result

/-- What a turn establishes: the invariant at a smaller measure, or the result. -/
def Establishes (holds : State → Prop) (measure : State → Nat) (post : Model → Prop)
    (state : State) : Turn State Model → Prop
  | .again next => holds next ∧ measure next < measure state
  | .stop result => post result

theorem while_returns (turn : State → Turn State Model) (holds : State → Prop)
    (measure : State → Nat) (post : Model → Prop)
    (turns : ∀ state, holds state → Establishes holds measure post state (turn state))
    (fuel : Nat) (state : State) (start : holds state) (enough : measure state < fuel) :
    ∃ result, whileFuel turn fuel state = some result ∧ post result := by
  induction fuel generalizing state with
  | zero => omega
  | succ fuel ih =>
      have here := turns state start
      rw [whileFuel]
      cases taken : turn state with
      | again next =>
          rw [taken] at here
          exact ih next here.1 (by have := here.2; omega)
      | stop result =>
          rw [taken] at here
          exact ⟨result, rfl, here⟩

/-- The entries that the turns of a loop log, in order. -/
def whileLog (turn : State → Turn State Model) (log : State → List Entry) :
    Nat → State → List Entry
  | 0, _ => []
  | fuel + 1, state =>
      log state ++ match turn state with
        | .again next => whileLog turn log fuel next
        | .stop _ => []

theorem while_logs (turn : State → Turn State Model) (log : State → List Entry)
    (holds : State → Prop) (good : Entry → Prop)
    (kept : ∀ state next, holds state → turn state = .again next → holds next)
    (logged : ∀ state, holds state → ∀ entry ∈ log state, good entry)
    (fuel : Nat) (state : State) (start : holds state) :
    ∀ entry ∈ whileLog turn log fuel state, good entry := by
  induction fuel generalizing state with
  | zero => intro entry member; cases member
  | succ fuel ih =>
      intro entry member
      rw [whileLog, List.mem_append] at member
      rcases member with here | later
      · exact logged state start entry here
      · cases taken : turn state with
        | again next =>
            rw [taken] at later
            exact ih next (kept state next start taken) entry later
        | stop result =>
            rw [taken] at later
            cases later

/-- A loop that has returned stopped in a state that its turns lead to. What it
logged is what that state logs, where the turns before it log nothing. -/
theorem while_last (turn : State → Turn State Model) (holds : State → Prop)
    (kept : ∀ state next, holds state → turn state = .again next → holds next)
    (log : State → List Entry) (quiet : ∀ state next, turn state = .again next → log state = [])
    (fuel : Nat) (state : State) (start : holds state) (result : Model)
    (returned : whileFuel turn fuel state = some result) :
    ∃ last, holds last ∧ turn last = .stop result ∧ whileLog turn log fuel state = log last := by
  induction fuel generalizing state with
  | zero => cases returned
  | succ fuel ih =>
      rw [whileFuel] at returned
      rw [whileLog]
      cases taken : turn state with
      | again next =>
          rw [taken] at returned
          rw [quiet state next taken]
          exact ih next (kept state next start taken) returned
      | stop ended =>
          rw [taken] at returned
          obtain rfl := Option.some.inj returned
          exact ⟨state, start, taken, List.append_nil _⟩

/-- Two turns that go the same way. -/
inductive Along (related : State → Model → Prop) (ends : Result → Answer → Prop) :
    Turn State Result → Turn Model Answer → Prop
  | again {next : State} {other : Model} (kept : related next other) :
      Along related ends (.again next) (.again other)
  | stop {result : Result} {answer : Answer} (ended : ends result answer) :
      Along related ends (.stop result) (.stop answer)

/-- Two loops whose turns go the same way as long as they log alike: both return, or
both run out of fuel. -/
theorem while_along (turn : State → Turn State Result) (other : Model → Turn Model Answer)
    (log : State → Entry) (note : Model → Entry) (alike : Entry → Entry → Prop)
    (related : State → Model → Prop) (ends : Result → Answer → Prop)
    (turns : ∀ state model, related state model → alike (log state) (note model) →
      Along related ends (turn state) (other model))
    (fuel : Nat) (state : State) (model : Model) (start : related state model)
    (logged : ∀ pair ∈ (whileLog turn (fun s => [log s]) fuel state).zip
      (whileLog other (fun m => [note m]) fuel model), alike pair.1 pair.2) :
    Option.Rel ends (whileFuel turn fuel state) (whileFuel other fuel model) := by
  induction fuel generalizing state model with
  | zero => exact .none
  | succ fuel ih =>
      rw [whileLog, whileLog, List.singleton_append, List.singleton_append,
        List.zip_cons_cons] at logged
      have here := turns state model start (logged _ List.mem_cons_self)
      rw [whileFuel, whileFuel]
      generalize turn state = first at here logged
      generalize other model = second at here logged
      cases here with
      | again kept =>
          exact ih _ _ kept fun pair member => logged pair (List.mem_cons_of_mem _ member)
      | stop ended => exact .some ended

theorem along_map {ends : Result → Answer → Prop} {one : Option Result} {two : Option Answer}
    (together : Option.Rel ends one two) {Seen : Type*} {view : Result → Seen}
    {other : Answer → Seen}
    (same : ∀ result answer, one = some result → ends result answer → view result = other answer) :
    one.map view = two.map other := by
  cases together with
  | none => rfl
  | some ended => exact congrArg some (same _ _ rfl ended)

end GspDriver.Loop
