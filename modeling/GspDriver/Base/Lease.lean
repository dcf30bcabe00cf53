import Mathlib

/-!
Tickets that name leased resources. A ticket is issued at most once: a grant
needs one that was never issued, and nothing reissues it after its release.
The run theorems hold of any system whose steps are steps of this table.
-/

namespace GspDriver.Lease

universe u v
variable {Ticket : Type u} {Resource : Type v} [DecidableEq Ticket]

structure Table (Ticket : Type u) (Resource : Type v) where
  live : Ticket → Option Resource
  issued : Ticket → Prop

def Table.grant (t : Table Ticket Resource) (ticket : Ticket) (resource : Resource) :
    Table Ticket Resource :=
  { live := Function.update t.live ticket (some resource)
    issued := fun other => other = ticket ∨ t.issued other }

def Table.release (t : Table Ticket Resource) (ticket : Ticket) : Table Ticket Resource :=
  { t with live := Function.update t.live ticket none }

inductive Step : Table Ticket Resource → Table Ticket Resource → Prop
  | keep (t) : Step t t
  | grant (t) (ticket : Ticket) (resource : Resource) (fresh : ¬ t.issued ticket) :
      Step t (t.grant ticket resource)
  | release (t) (ticket : Ticket) : Step t (t.release ticket)

def Steps : Table Ticket Resource → Table Ticket Resource → Prop := Relation.ReflTransGen Step

def Retired (t : Table Ticket Resource) (ticket : Ticket) : Prop :=
  t.issued ticket ∧ t.live ticket = none

theorem issued_step {t t' : Table Ticket Resource} (step : Step t t') {ticket : Ticket}
    (issued : t.issued ticket) : t'.issued ticket := by
  cases step with
  | keep => exact issued
  | grant other resource fresh => exact Or.inr issued
  | release other => exact issued

theorem retired_step {t t' : Table Ticket Resource} (step : Step t t') {ticket : Ticket}
    (retired : Retired t ticket) : Retired t' ticket := by
  refine ⟨issued_step step retired.1, ?_⟩
  cases step with
  | keep => exact retired.2
  | grant other resource fresh =>
      have distinct : ticket ≠ other := fun same => fresh (same ▸ retired.1)
      simp [Table.grant, distinct, retired.2]
  | release other =>
      by_cases same : ticket = other
      · simp [Table.release, same]
      · simp [Table.release, same, retired.2]

/-- A released ticket stays dead in every continuation. -/
theorem retired_steps {t t' : Table Ticket Resource} (steps : Steps t t') {ticket : Ticket}
    (retired : Retired t ticket) : Retired t' ticket := by
  induction steps with
  | refl => exact retired
  | tail _ step ih => exact retired_step step ih

theorem release_retires (t : Table Ticket Resource) {ticket : Ticket}
    (issued : t.issued ticket) : Retired (t.release ticket) ticket :=
  ⟨issued, by simp [Table.release]⟩

end GspDriver.Lease
