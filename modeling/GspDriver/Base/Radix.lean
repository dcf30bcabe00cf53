import Mathlib

/-!
Radix translation of one contiguous range. A walk strips the address level by
level and follows the entry that each level's index selects. A forest of
tables is `Linked` for the inclusive range `lo`..`hi` when every table entry
leads on exactly if its address prefix meets the range. Such a forest
translates the pages that meet the range and faults on every other page; how
many tables a level has, and which boundary the range crosses, plays no part.
-/

namespace GspDriver.Radix

structure Level where
  shift : Nat
  fan : Nat
  /-- Address of the entry at a given index of the table at a given address. -/
  locate : Nat → Nat → Nat
  decode : Nat → Option Nat

def walk (read : Nat → Nat) : List Level → Nat → Nat → Option Nat
  | [], table, _ => some table
  | level :: rest, table, a =>
      match level.decode (read (level.locate table (a / 2 ^ level.shift % level.fan))) with
      | some next => walk read rest next a
      | none => none

variable (lo hi : Nat)

def first (shift : Nat) : Nat := lo / 2 ^ shift

/-- Number of prefixes of one level that meet the range. -/
def span (shift : Nat) : Nat := hi / 2 ^ shift - lo / 2 ^ shift + 1

def Meets (shift q : Nat) : Prop := lo / 2 ^ shift ≤ q ∧ q ≤ hi / 2 ^ shift

instance (shift q : Nat) : Decidable (Meets lo hi shift q) :=
  inferInstanceAs (Decidable (_ ∧ _))

def lastShift : Nat → List Level → Nat
  | shift, [] => shift
  | _, level :: rest => lastShift level.shift rest

/-- `node n q` is the table of level `n` for prefix `q`, and past the last
level the page that `q` names. -/
def Linked (read : Nat → Nat) (node : Nat → Nat → Nat) : Nat → Nat → List Level → Prop
  | _, _, [] => True
  | n, shift, level :: rest =>
      2 ^ shift = 2 ^ level.shift * level.fan ∧
      (∀ q, Meets lo hi shift (q / level.fan) →
        level.decode (read (level.locate (node n (q / level.fan)) (q % level.fan))) =
          if Meets lo hi level.shift q then some (node (n + 1) q) else none) ∧
      Linked read node (n + 1) level.shift rest

variable {lo hi}

theorem meets_of_mem {a : Nat} (shift : Nat) (inside : lo ≤ a ∧ a ≤ hi) :
    Meets lo hi shift (a / 2 ^ shift) :=
  ⟨Nat.div_le_div_right inside.1, Nat.div_le_div_right inside.2⟩

theorem meets_parent {shift fine fan q : Nat} (scale : 2 ^ shift = 2 ^ fine * fan)
    (meets : Meets lo hi fine q) : Meets lo hi shift (q / fan) := by
  rw [Meets, scale, ← Nat.div_div_eq_div_mul, ← Nat.div_div_eq_div_mul]
  exact ⟨Nat.div_le_div_right meets.1, Nat.div_le_div_right meets.2⟩

/-- For a range of whole pages a page meets the range only if it lies in it. -/
theorem meets_page {a shift : Nat} (low : 2 ^ shift ∣ lo) (high : 2 ^ shift ∣ hi + 1) :
    Meets lo hi shift (a / 2 ^ shift) ↔ lo ≤ a ∧ a ≤ hi := by
  constructor
  · rintro ⟨above, below⟩
    have size : 0 < 2 ^ shift := Nat.two_pow_pos shift
    obtain ⟨p, lowShape⟩ := low
    obtain ⟨r, highShape⟩ := high
    have top : hi / 2 ^ shift < r := by
      apply Nat.div_lt_of_lt_mul
      omega
    rw [lowShape, Nat.mul_div_cancel_left p size] at above
    have up : 2 ^ shift * p ≤ 2 ^ shift * (a / 2 ^ shift) := Nat.mul_le_mul_left _ above
    have down : 2 ^ shift * (a / 2 ^ shift + 1) ≤ 2 ^ shift * r :=
      Nat.mul_le_mul_left _ (by omega)
    have whole := Nat.div_add_mod a (2 ^ shift)
    have rest := Nat.mod_lt a size
    rw [Nat.mul_add] at down
    omega
  · exact fun inside => meets_of_mem shift inside

theorem last_meets {shift : Nat} (levels : List Level) (read : Nat → Nat)
    (node : Nat → Nat → Nat) (n a : Nat) (linked : Linked lo hi read node n shift levels)
    (meets : Meets lo hi (lastShift shift levels) (a / 2 ^ lastShift shift levels)) :
    Meets lo hi shift (a / 2 ^ shift) := by
  induction levels generalizing n shift with
  | nil => exact meets
  | cons level rest ih =>
      have child := ih (n + 1) linked.2.2 meets
      have parent := meets_parent linked.1 child
      rwa [Nat.div_div_eq_div_mul, ← linked.1] at parent

/-- A linked forest translates exactly the pages that meet the range. -/
theorem walk_linked {shift : Nat} (levels : List Level) (read : Nat → Nat)
    (node : Nat → Nat → Nat) (n a : Nat) (linked : Linked lo hi read node n shift levels)
    (meets : Meets lo hi shift (a / 2 ^ shift)) :
    walk read levels (node n (a / 2 ^ shift)) a =
      if Meets lo hi (lastShift shift levels) (a / 2 ^ lastShift shift levels) then
        some (node (n + levels.length) (a / 2 ^ lastShift shift levels))
      else none := by
  induction levels generalizing n shift with
  | nil => simp [walk, lastShift, meets]
  | cons level rest ih =>
      obtain ⟨scale, entries, tail⟩ := linked
      have parent : a / 2 ^ level.shift / level.fan = a / 2 ^ shift := by
        rw [Nat.div_div_eq_div_mul, ← scale]
      have entry := entries (a / 2 ^ level.shift) (by rwa [parent])
      rw [parent] at entry
      rw [walk, entry]
      change _ = if Meets lo hi (lastShift level.shift rest)
          (a / 2 ^ lastShift level.shift rest) then
        some (node (n + (rest.length + 1)) (a / 2 ^ lastShift level.shift rest)) else none
      by_cases child : Meets lo hi level.shift (a / 2 ^ level.shift)
      · have onward := ih (n + 1) tail child
        rw [Nat.add_assoc, Nat.add_comm 1] at onward
        rw [if_pos child]
        exact onward
      · have fault : ¬ Meets lo hi (lastShift level.shift rest)
            (a / 2 ^ lastShift level.shift rest) :=
          fun leaf => child (last_meets rest read node (n + 1) a tail leaf)
        rw [if_neg child, if_neg fault]

theorem meets_iff_offset {shift q : Nat} (ordered : lo ≤ hi) :
    Meets lo hi shift q ↔ ∃ n < span lo hi shift, q = first lo shift + n := by
  have monotone : lo / 2 ^ shift ≤ hi / 2 ^ shift := Nat.div_le_div_right ordered
  constructor
  · intro meets
    refine ⟨q - lo / 2 ^ shift, ?_, ?_⟩
    · have := meets.2
      rw [span]
      omega
    · have := meets.1
      rw [first]
      omega
  · rintro ⟨n, below, rfl⟩
    rw [span] at below
    rw [Meets, first]
    omega

end GspDriver.Radix
