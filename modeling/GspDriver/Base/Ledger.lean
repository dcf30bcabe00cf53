import Mathlib

/-!
Pages that a driver borrows from the system and may tell a device about. A page
that the device knows stays with the driver for good: the device goes on using
it, so giving it back would hand memory in use to someone else. `held` is what
the driver still has a reference to.
-/

namespace GspDriver.Ledger

structure Pages where
  next : Nat
  returned : List Nat
  lent : List Nat

namespace Pages

def empty : Pages := ⟨0, [], []⟩

/-- A new page, under the number `next`. -/
def take (l : Pages) : Pages := { l with next := l.next + 1 }

def giveBack (l : Pages) (page : Nat) : Pages := { l with returned := page :: l.returned }

def lend (l : Pages) (page : Nat) : Pages := { l with lent := page :: l.lent }

structure Sound (l : Pages) (held : Nat → Prop) : Prop where
  heldKept : ∀ page, held page → page < l.next ∧ page ∉ l.returned
  lentKept : ∀ page ∈ l.lent, page < l.next ∧ page ∉ l.returned
  returnedKnown : ∀ page ∈ l.returned, page < l.next
  once : l.returned.Nodup
  /-- No page is forgotten. -/
  covered : ∀ page < l.next, held page ∨ page ∈ l.returned ∨ page ∈ l.lent

variable {l : Pages} {held : Nat → Prop}

theorem empty_sound : empty.Sound fun _ => False where
  heldKept _ nothing := nothing.elim
  lentKept _ nothing := absurd nothing List.not_mem_nil
  returnedKnown _ nothing := absurd nothing List.not_mem_nil
  once := List.nodup_nil
  covered _ low := absurd low (Nat.not_lt_zero _)

theorem sound_congr {held' : Nat → Prop} (sound : l.Sound held)
    (same : ∀ page, held' page ↔ held page) : l.Sound held' := by
  have equal : held' = held := funext fun page => propext (same page)
  rw [equal]
  exact sound

theorem take_sound (sound : l.Sound held) :
    l.take.Sound fun page => page = l.next ∨ held page where
  heldKept page kept := by
    rcases kept with new | before
    · refine ⟨by rw [new]; exact Nat.lt_succ_self _, fun back => ?_⟩
      have known := sound.returnedKnown page back
      omega
    · obtain ⟨low, kept⟩ := sound.heldKept page before
      exact ⟨Nat.lt_succ_of_lt low, kept⟩
  lentKept page lent := by
    obtain ⟨low, kept⟩ := sound.lentKept page lent
    exact ⟨Nat.lt_succ_of_lt low, kept⟩
  returnedKnown page back := Nat.lt_succ_of_lt (sound.returnedKnown page back)
  once := sound.once
  covered page low := by
    by_cases new : page = l.next
    · exact .inl (.inl new)
    · have before : page < l.next := Nat.lt_of_le_of_ne (Nat.lt_succ_iff.mp low) new
      exact (sound.covered page before).imp_left .inr

/-- Only a page that no device knows may go back. -/
theorem giveBack_sound {page : Nat} (sound : l.Sound held) (kept : held page)
    (private_ : page ∉ l.lent) : (l.giveBack page).Sound fun other => held other ∧ other ≠ page where
  heldKept other here := by
    obtain ⟨low, away⟩ := sound.heldKept other here.1
    refine ⟨low, fun back => ?_⟩
    rcases List.mem_cons.mp back with same | before
    · exact here.2 same
    · exact away before
  lentKept other lent := by
    obtain ⟨low, away⟩ := sound.lentKept other lent
    refine ⟨low, fun back => ?_⟩
    rcases List.mem_cons.mp back with same | before
    · exact private_ (same ▸ lent)
    · exact away before
  returnedKnown other back := by
    rcases List.mem_cons.mp back with same | before
    · rw [same]
      exact (sound.heldKept page kept).1
    · exact sound.returnedKnown other before
  once := List.nodup_cons.mpr ⟨(sound.heldKept page kept).2, sound.once⟩
  covered other low := by
    by_cases same : other = page
    · exact .inr (.inl (List.mem_cons.mpr (.inl same)))
    · rcases sound.covered other low with here | back | lent
      · exact .inl ⟨here, same⟩
      · exact .inr (.inl (List.mem_cons_of_mem _ back))
      · exact .inr (.inr lent)

theorem lend_sound {page : Nat} (sound : l.Sound held) (kept : held page) :
    (l.lend page).Sound held where
  heldKept := sound.heldKept
  lentKept other lent := by
    rcases List.mem_cons.mp lent with same | before
    · rw [same]
      exact sound.heldKept page kept
    · exact sound.lentKept other before
  returnedKnown := sound.returnedKnown
  once := sound.once
  covered other low := (sound.covered other low).imp_right (.imp_right (List.mem_cons_of_mem _))

/-- Every page that was taken is with the driver, with a device, or back. -/
theorem returned_iff {page : Nat} (sound : l.Sound held) (low : page < l.next) :
    page ∈ l.returned ↔ page ∉ l.lent ∧ ¬ held page := by
  constructor
  · intro back
    exact ⟨fun lent => (sound.lentKept page lent).2 back,
      fun kept => (sound.heldKept page kept).2 back⟩
  · rintro ⟨unknown, free⟩
    rcases sound.covered page low with here | back | lent
    · exact absurd here free
    · exact back
    · exact absurd lent unknown

end Pages

end GspDriver.Ledger
