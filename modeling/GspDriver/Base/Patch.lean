import GspDriver.Base.Bytes

/-!
Writers of a flat memory that give some of its bytes fixed values and leave the
others alone. A writer that no later one meets may as well have come last, so
whatever it brings about in any memory holds of the final one.
-/

namespace GspDriver.Patches

open Bytes

/-- What it writes does not depend on the memory it finds. -/
structure Patch where
  write : Mem → Mem
  covers : Nat → Prop
  kept : ∀ m x, ¬ covers x → write m x = m x
  fixed : ∀ m m' x, covers x → write m x = write m' x

namespace Patch

def store (a n v : Nat) : Patch where
  write m := Bytes.store m a n v
  covers x := a ≤ x ∧ x < a + n
  kept m x outside := Bytes.store_outside m a n v x (by omega)
  fixed m m' x inside := by
    rw [Bytes.store, Bytes.store, if_pos inside, if_pos inside]

def clear (a n : Nat) : Patch where
  write m := Bytes.clear m a n
  covers x := a ≤ x ∧ x < a + n
  kept m x outside := Bytes.clear_outside m a n x (by omega)
  fixed m m' x inside := by
    rw [Bytes.clear_inside m a n x inside, Bytes.clear_inside m' a n x inside]

def blit (a n : Nat) (bytes : Nat → UInt8) : Patch where
  write m := Bytes.blit m a n bytes
  covers x := a ≤ x ∧ x < a + n
  kept m x outside := Bytes.blit_outside m a n bytes x (by omega)
  fixed m m' x inside := by
    rw [Bytes.blit_inside m a n bytes x inside, Bytes.blit_inside m' a n bytes x inside]

def none : Patch where
  write m := m
  covers _ := False
  kept _ _ _ := rfl
  fixed _ _ _ inside := inside.elim

def andThen (p q : Patch) : Patch where
  write m := q.write (p.write m)
  covers x := p.covers x ∨ q.covers x
  kept m x outside := by
    rw [not_or] at outside
    rw [q.kept _ x outside.2, p.kept m x outside.1]
  fixed m m' x inside := by
    by_cases second : q.covers x
    · exact q.fixed _ _ x second
    · rw [q.kept _ x second, q.kept _ x second]
      exact p.fixed m m' x (inside.resolve_right second)

/-- The patches in order. -/
def all : List Patch → Patch
  | [] => none
  | p :: rest => p.andThen (all rest)

variable {p q : Patch} {m : Mem}

@[simp] theorem clear_write (a n : Nat) : (clear a n).write m = Bytes.clear m a n := rfl

@[simp] theorem blit_write (a n : Nat) (bytes : Nat → UInt8) :
    (blit a n bytes).write m = Bytes.blit m a n bytes := rfl

@[simp] theorem andThen_write : (p.andThen q).write m = q.write (p.write m) := rfl

theorem all_covers {ps : List Patch} {x : Nat} :
    (all ps).covers x ↔ ∃ p ∈ ps, p.covers x := by
  induction ps with
  | nil => simp [all, none]
  | cons p rest ih =>
      rw [List.exists_mem_cons_iff, ← ih]
      exact Iff.rfl

theorem all_append (front later : List Patch) :
    (all (front ++ later)).write m = (all later).write ((all front).write m) := by
  induction front generalizing m with
  | nil => rfl
  | cons p rest ih => exact ih

theorem all_fold (ps : List Patch) : (all ps).write m = ps.foldl (fun m p => p.write m) m := by
  induction ps generalizing m with
  | nil => rfl
  | cons p rest ih => exact ih

/-- Two patches that do not meet. -/
def Apart (p q : Patch) : Prop := ∀ x, p.covers x → ¬ q.covers x

/-- `f` leaves what the patch covers as it is. -/
def Keeps (p : Patch) (f : Mem → Mem) : Prop := ∀ m x, p.covers x → f m x = m x

theorem keeps_all {ps : List Patch} (apart : ∀ q ∈ ps, p.Apart q) : p.Keeps (all ps).write := by
  intro m x inside
  apply (all ps).kept
  intro covered
  obtain ⟨q, member, there⟩ := all_covers.mp covered
  exact apart q member x inside there

theorem keeps_comp {f g : Mem → Mem} (first : p.Keeps f) (second : p.Keeps g) :
    p.Keeps fun m => g (f m) :=
  fun m x inside => (second (f m) x inside).trans (first m x inside)

/-- Writing again what has not been touched since changes nothing. -/
theorem written_again {f : Mem → Mem} (keeps : p.Keeps f) :
    p.write (f (p.write m)) = f (p.write m) := by
  funext x
  by_cases inside : p.covers x
  · rw [keeps _ x inside]
    exact p.fixed _ m x inside
  · exact p.kept _ x inside

/-- What a patch brings about in every memory still holds after writers that keep it. -/
theorem settled (fact : Mem → Prop) {f : Mem → Mem} (keeps : p.Keeps f)
    (brought : ∀ m, fact (p.write m)) : fact (f (p.write m)) := by
  rw [← written_again keeps]
  exact brought _

/-! The same patch at an address. -/

/-- The memory from `base` on. -/
def slice (m : Mem) (base : Nat) : Mem := fun o => m (base + o)

def shift (base : Nat) (p : Patch) : Patch where
  write m x := if base ≤ x then p.write (slice m base) (x - base) else m x
  covers x := base ≤ x ∧ p.covers (x - base)
  kept m x outside := by
    by_cases above : base ≤ x
    · rw [if_pos above, p.kept _ _ fun inside => outside ⟨above, inside⟩, slice,
        Nat.add_sub_cancel' above]
    · rw [if_neg above]
  fixed m m' x inside := by
    rw [if_pos inside.1, if_pos inside.1]
    exact p.fixed _ _ _ inside.2

theorem slice_shift (base : Nat) :
    slice ((shift base p).write m) base = p.write (slice m base) := by
  funext o
  change (if base ≤ base + o then _ else _) = _
  rw [if_pos (Nat.le_add_right base o), Nat.add_sub_cancel_left]

/-! Patches that are confined to parts of the memory. -/

/-- Start and length of an area. -/
def InArea (area : Nat × Nat) (x : Nat) : Prop := area.1 ≤ x ∧ x < area.1 + area.2

section Parts

variable {Part : Type} {area : Part → Nat × Nat}

def Disjoint (area : Part → Nat × Nat) : Prop :=
  ∀ i j, i ≠ j → ∀ x, InArea (area i) x → ¬ InArea (area j) x

/-- A patch stays within the areas of its parts. -/
def Confined (area : Part → Nat × Nat) (t : List Part × Patch) : Prop :=
  ∀ x, t.2.covers x → ∃ i ∈ t.1, InArea (area i) x

def sequence (ps : List (List Part × Patch)) : Patch := all (ps.map Prod.snd)

theorem confined_apart (disjoint : Disjoint area) {s t : List Part × Patch}
    (left : Confined area s) (right : Confined area t) (others : ∀ i ∈ t.1, i ∉ s.1) :
    s.2.Apart t.2 := by
  intro x here there
  obtain ⟨i, owned, first⟩ := left x here
  obtain ⟨j, theirs, second⟩ := right x there
  have differ : i ≠ j := by
    rintro rfl
    exact others i theirs owned
  exact disjoint i j differ x first second

theorem sequence_split {ps : List (List Part × Patch)} {k : Nat} {mine : List Part}
    (here : ps[k]? = some (mine, p)) :
    (sequence ps).write m = (sequence (ps.drop (k + 1))).write
      (p.write ((sequence (ps.take k)).write m)) := by
  obtain ⟨inside, found⟩ := List.getElem?_eq_some_iff.mp here
  have parts : ps = ps.take k ++ (mine, p) :: ps.drop (k + 1) := by
    rw [← found, List.getElem_cons_drop, List.take_append_drop]
  rw [sequence]
  conv_lhs => rw [parts]
  rw [List.map_append, List.map_cons, all_append]
  rfl

section Confined

variable (disjoint : Disjoint area) {ps : List (List Part × Patch)}
  (confined : ∀ t ∈ ps, Confined area t) {k : Nat} {mine : List Part}
  (here : ps[k]? = some (mine, p))
include disjoint confined here

/-- A fact that the last patch of its parts brings about holds in the end. -/
theorem settled_last {order : List (List Part)} (tagged : ps.map Prod.fst = order)
    (last : ∀ js ∈ order.drop (k + 1), ∀ j ∈ js, j ∉ mine) (fact : Mem → Prop)
    {f : Mem → Mem} (keeps : p.Keeps f) (brought : ∀ m, fact (p.write m)) :
    fact (f ((sequence ps).write m)) := by
  have later : p.Keeps (sequence (ps.drop (k + 1))).write := by
    apply keeps_all
    intro q listed
    obtain ⟨t, member, rfl⟩ := List.mem_map.mp listed
    apply confined_apart disjoint (confined (mine, p) (List.mem_of_getElem? here))
      (confined t (List.mem_of_mem_drop member))
    apply last t.1
    rw [← tagged, ← List.map_drop]
    exact List.mem_map_of_mem member
  rw [sequence_split here]
  exact p.settled fact (keeps_comp later keeps) brought

/-- A byte that later patches of the same parts leave alone. -/
theorem settled_byte {x : Nat} (covered : p.covers x)
    (spared : ∀ t ∈ ps.drop (k + 1), ∀ i ∈ t.1, i ∈ mine → ¬ t.2.covers x) (start : Mem) :
    (sequence ps).write m x = p.write start x := by
  rw [sequence_split here, (sequence (ps.drop (k + 1))).kept]
  · exact p.fixed _ _ x covered
  · intro later
    obtain ⟨q, listed, there⟩ := all_covers.mp later
    obtain ⟨t, member, rfl⟩ := List.mem_map.mp listed
    obtain ⟨i, tagged, second⟩ := confined t (List.mem_of_mem_drop member) x there
    obtain ⟨j, own, first⟩ := confined (mine, p) (List.mem_of_getElem? here) x covered
    by_cases same : i = j
    · exact spared t member i tagged (same ▸ own) there
    · exact disjoint i j same x second first

end Confined

end Parts

end Patch

end GspDriver.Patches
