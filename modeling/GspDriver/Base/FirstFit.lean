import Mathlib

/-!
First fit among obstacles. A sweep moves a candidate position past the end of
every block it overlaps; no free position is skipped on the way. With rounding
up to the alignment in between, the first position that stays put is the lowest
free one.
-/

namespace GspDriver.FirstFit

/-- The half-open interval from `first` to `limit`. -/
structure Block where
  first : Nat
  limit : Nat

def past (candidate bytes next : Nat) (block : Block) : Nat :=
  if candidate < block.limit ∧ block.first < candidate + bytes ∧ next < block.limit then
    block.limit
  else next

def sweep (blocks : List Block) (bytes candidate : Nat) : Nat :=
  blocks.foldl (past candidate bytes) candidate

/-- `bytes` from `place` on touch no block. -/
def Clear (blocks : List Block) (bytes place : Nat) : Prop :=
  ∀ block ∈ blocks, place + bytes ≤ block.first ∨ block.limit ≤ place

theorem past_le (candidate bytes next : Nat) (block : Block) :
    next ≤ past candidate bytes next block := by
  unfold past
  split <;> omega

theorem fold_le (blocks : List Block) (candidate bytes next : Nat) :
    next ≤ blocks.foldl (past candidate bytes) next := by
  induction blocks generalizing next with
  | nil => exact Nat.le_refl _
  | cons block rest ih => exact Nat.le_trans (past_le candidate bytes next block) (ih _)

theorem sweep_le (blocks : List Block) (bytes candidate : Nat) :
    candidate ≤ sweep blocks bytes candidate :=
  fold_le blocks candidate bytes candidate

theorem fold_covers (blocks : List Block) (candidate bytes next : Nat) (block : Block)
    (member : block ∈ blocks) (above : candidate < block.limit)
    (below : block.first < candidate + bytes) :
    block.limit ≤ blocks.foldl (past candidate bytes) next := by
  induction blocks generalizing next with
  | nil => cases member
  | cons head rest ih =>
      rcases List.mem_cons.mp member with here | later
      · subst head
        refine Nat.le_trans ?_ (fold_le rest candidate bytes _)
        unfold past
        split <;> omega
      · exact ih _ later

/-- A candidate that stays put is free. -/
theorem clear_of_still (blocks : List Block) (bytes candidate : Nat)
    (still : sweep blocks bytes candidate = candidate) : Clear blocks bytes candidate := by
  intro block member
  by_contra touched
  have covered := fold_covers blocks candidate bytes candidate block member (by omega) (by omega)
  rw [sweep] at still
  omega

/-- The sweep passes no free position. -/
theorem fold_below (blocks : List Block) (bytes candidate next place : Nat)
    (clear : Clear blocks bytes place) (start : candidate ≤ place) (below : next ≤ place) :
    blocks.foldl (past candidate bytes) next ≤ place := by
  induction blocks generalizing next with
  | nil => exact below
  | cons block rest ih =>
      have here := clear block List.mem_cons_self
      refine ih _ (fun other member => clear other (List.mem_cons_of_mem _ member)) ?_
      unfold past
      split <;> omega

theorem sweep_below {blocks : List Block} {bytes candidate place : Nat}
    (clear : Clear blocks bytes place) (start : candidate ≤ place) :
    sweep blocks bytes candidate ≤ place :=
  fold_below blocks bytes candidate candidate place clear start start

/-- Blocks that lie apart leave a free place at most what their sizes leave of the total. -/
theorem apart_leave {Slot : Type} [DecidableEq Slot] (slots : Finset Slot) (block : Slot → Block)
    {bytes place total : Nat} (inside : ∀ i ∈ slots, (block i).limit ≤ total)
    (apart : ∀ i ∈ slots, ∀ j ∈ slots, i ≠ j →
      (block i).limit ≤ (block j).first ∨ (block j).limit ≤ (block i).first)
    (room : place + bytes ≤ total)
    (clear : ∀ i ∈ slots, place + bytes ≤ (block i).first ∨ (block i).limit ≤ place) :
    (∑ i ∈ slots, ((block i).limit - (block i).first)) + bytes ≤ total := by
  -- The blocks and the place are disjoint sets of numbers below the total, so count them.
  let cells : Slot → Finset Nat := fun i => Finset.Ico (block i).first (block i).limit
  have separate : ∀ i ∈ slots, ∀ j ∈ slots, i ≠ j → Disjoint (cells i) (cells j) := by
    intro i here j there other
    rw [Finset.disjoint_left]
    intro x inI inJ
    have order := apart i here j there other
    simp only [cells, Finset.mem_Ico] at inI inJ
    omega
  have free : Disjoint (slots.biUnion cells) (Finset.Ico place (place + bytes)) := by
    rw [Finset.disjoint_left]
    intro x taken inside
    obtain ⟨i, here, cell⟩ := Finset.mem_biUnion.mp taken
    have order := clear i here
    simp only [cells, Finset.mem_Ico] at cell inside
    omega
  have within : slots.biUnion cells ∪ Finset.Ico place (place + bytes) ⊆ Finset.range total := by
    intro x member
    rw [Finset.mem_range]
    rcases Finset.mem_union.mp member with taken | new
    · obtain ⟨i, here, cell⟩ := Finset.mem_biUnion.mp taken
      have limit := inside i here
      simp only [cells, Finset.mem_Ico] at cell
      omega
    · rw [Finset.mem_Ico] at new
      omega
  have counted := Finset.card_le_card within
  rw [Finset.card_union_of_disjoint free, Finset.card_biUnion separate, Finset.card_range,
    Nat.card_Ico, Nat.add_sub_cancel_left] at counted
  simpa only [cells, Nat.card_Ico] using counted

/-- Rounding up passes no multiple. -/
theorem round_below {alignment value out place : Nat} (up : alignment ∣ out)
    (near : out < value + alignment) (whole : alignment ∣ place) (above : value ≤ place) :
    out ≤ place := by
  obtain ⟨i, rfl⟩ := up
  obtain ⟨j, rfl⟩ := whole
  by_contra beyond
  have more : j + 1 ≤ i := by
    by_contra few
    exact beyond (Nat.mul_le_mul_left _ (by omega))
  have scaled : alignment * (j + 1) ≤ alignment * i := Nat.mul_le_mul_left _ more
  rw [Nat.mul_succ] at scaled
  omega

end GspDriver.FirstFit
