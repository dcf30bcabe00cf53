import GspDriver.Base.Bytes

/-!
A ring of fixed-size slots laid over a flat byte memory. An item takes several
consecutive slots and continues from the last slot to slot 0. `Holds` reads the
memory as a queue of items; appending one behind the queue and dropping the
first are the two operations of a producer and a consumer, and neither touches
the other items while the slots suffice.
-/

namespace GspDriver.RingQueue

open Bytes

structure SlotRing where
  base : Nat
  slots : Nat
  slotBytes : Nat
  nonempty : 0 < slots
  sized : 0 < slotBytes

structure Item where
  slots : Nat
  bytes : Nat → UInt8

namespace SlotRing

variable (ring : SlotRing)

def capacity : Nat := ring.slotBytes * ring.slots

/-- Address of byte `o` of what starts at slot `r`. -/
def addr (r o : Nat) : Nat := ring.base + (ring.slotBytes * r + o) % ring.capacity

def advance (r k : Nat) : Nat := (r + k) % ring.slots

def total (items : List Item) : Nat := (items.map Item.slots).sum

/-- The items' bytes one after another. -/
def flat : List Item → Nat → UInt8
  | [], _ => 0
  | item :: rest, o =>
      if o < ring.slotBytes * item.slots then item.bytes o
      else flat rest (o - ring.slotBytes * item.slots)

def Holds (m : Mem) (r : Nat) (items : List Item) : Prop :=
  ∀ o < ring.slotBytes * total items, m (ring.addr r o) = ring.flat items o

/-- Distance of an address from the start of slot `w`, around the ring. -/
def distance (w x : Nat) : Nat :=
  (x - ring.base + (ring.capacity - ring.slotBytes * w)) % ring.capacity

def put (m : Mem) (w : Nat) (item : Item) : Mem := fun x =>
  if ring.base ≤ x ∧ x < ring.base + ring.capacity ∧
      ring.distance w x < ring.slotBytes * item.slots then
    item.bytes (ring.distance w x)
  else m x

variable {ring}

theorem capacity_pos : 0 < ring.capacity := Nat.mul_pos ring.sized ring.nonempty

theorem advance_lt (r k : Nat) : ring.advance r k < ring.slots := Nat.mod_lt _ ring.nonempty

theorem advance_add (r k j : Nat) : ring.advance (ring.advance r k) j = ring.advance r (k + j) := by
  simp only [advance, Nat.mod_add_mod, Nat.add_assoc]

theorem advance_scaled (r k : Nat) :
    ring.slotBytes * ring.advance r k =
      (ring.slotBytes * r + ring.slotBytes * k) % ring.capacity := by
  rw [advance, capacity, ← Nat.mul_add, Nat.mul_mod_mul_left]

theorem addr_advance (r k o : Nat) :
    ring.addr (ring.advance r k) o = ring.addr r (ring.slotBytes * k + o) := by
  rw [addr, addr, advance_scaled, Nat.mod_add_mod, Nat.add_assoc]

theorem addr_bounds (r o : Nat) :
    ring.base ≤ ring.addr r o ∧ ring.addr r o < ring.base + ring.capacity := by
  have size : 0 < ring.capacity := capacity_pos
  have small := Nat.mod_lt (ring.slotBytes * r + o) size
  rw [addr]
  omega

/-- Up to the last slot the addresses are consecutive. -/
theorem addr_linear {r o : Nat} (room : ring.slotBytes * r + o < ring.capacity) :
    ring.addr r o = ring.base + ring.slotBytes * r + o := by
  rw [addr, Nat.mod_eq_of_lt room, Nat.add_assoc]

theorem total_append (items : List Item) (item : Item) :
    total (items ++ [item]) = total items + item.slots := by
  simp [total]

theorem flat_append (items : List Item) (item : Item) (o : Nat) :
    ring.flat (items ++ [item]) o =
      if o < ring.slotBytes * total items then ring.flat items o
      else ring.flat [item] (o - ring.slotBytes * total items) := by
  induction items generalizing o with
  | nil => simp [total]
  | cons first rest ih =>
      have grown : total (first :: rest) = first.slots + total rest := by simp [total]
      rw [List.cons_append, flat, flat, ih, grown, Nat.mul_add]
      by_cases inFirst : o < ring.slotBytes * first.slots
      · rw [if_pos inFirst, if_pos (by omega), if_pos inFirst]
      · rw [if_neg inFirst, if_neg inFirst, Nat.sub_sub]
        by_cases inRest : o - ring.slotBytes * first.slots < ring.slotBytes * total rest
        · rw [if_pos inRest, if_pos (by omega)]
        · rw [if_neg inRest, if_neg (by omega)]

/-- Seen from the slot that follows `t` slots of queue, the queue's own bytes
are the last ones around the ring. -/
theorem distance_queue {r t o : Nat} (fits : t ≤ ring.slots) (before : o < ring.slotBytes * t) :
    ring.distance (ring.advance r t) (ring.addr r o) + ring.slotBytes * t = o + ring.capacity := by
  have size : 0 < ring.capacity := capacity_pos
  have scaled : ring.slotBytes * t ≤ ring.capacity := Nat.mul_le_mul_left _ fits
  have start : ring.addr r o - ring.base = (ring.slotBytes * r + o) % ring.capacity := by
    rw [addr, Nat.add_sub_cancel_left]
  rw [distance, start, advance_scaled]
  have left := Nat.mod_lt (ring.slotBytes * r + o) size
  have right := Nat.mod_lt (ring.slotBytes * r + ring.slotBytes * t) size
  have leftWhole := Nat.div_add_mod (ring.slotBytes * r + o) ring.capacity
  have rightWhole := Nat.div_add_mod (ring.slotBytes * r + ring.slotBytes * t) ring.capacity
  generalize ring.slotBytes * r = a at *
  generalize ring.slotBytes * t = b at *
  generalize ring.capacity = c at *
  -- the start of the queue and its end differ by at most one turn
  rcases Nat.lt_or_ge ((a + o) % c) ((a + b) % c) with below | above
  · have quotients : (a + o) / c = (a + b) / c := by
      have order : (a + o) / c ≤ (a + b) / c := Nat.div_le_div_right (by omega)
      by_contra different
      have more : (a + o) / c + 1 ≤ (a + b) / c := by omega
      have scaledUp := Nat.mul_le_mul_left c more
      rw [Nat.mul_add] at scaledUp
      omega
    rw [quotients] at leftWhole
    rw [Nat.mod_eq_of_lt (by omega)]
    omega
  · have quotients : (a + b) / c = (a + o) / c + 1 := by
      have order : (a + b) / c ≤ (a + o + c) / c := Nat.div_le_div_right (by omega)
      rw [Nat.add_div_right _ size] at order
      by_contra different
      have less : (a + b) / c ≤ (a + o) / c := by omega
      have scaledDown := Nat.mul_le_mul_left c less
      omega
    rw [quotients, Nat.mul_add] at rightWhole
    have wrap : (a + o) % c + (c - (a + b) % c) = (a + o) % c - (a + b) % c + c := by omega
    rw [wrap, Nat.add_mod_right, Nat.mod_eq_of_lt (by omega)]
    omega

theorem distance_self {r o : Nat} (inside : o < ring.capacity) (low : r < ring.slots) :
    ring.distance r (ring.addr r o) = o := by
  have size : 0 < ring.capacity := capacity_pos
  have start : ring.addr r o - ring.base = (ring.slotBytes * r + o) % ring.capacity := by
    rw [addr, Nat.add_sub_cancel_left]
  have scaled : ring.slotBytes * r ≤ ring.capacity := Nat.mul_le_mul_left _ (Nat.le_of_lt low)
  rw [distance, start, Nat.mod_add_mod]
  have turn : ring.slotBytes * r + o + (ring.capacity - ring.slotBytes * r) =
      o + ring.capacity := by omega
  rw [turn, Nat.add_mod_right, Nat.mod_eq_of_lt inside]

theorem holds_congr {m m' : Mem} {r : Nat} {items : List Item} (holds : ring.Holds m r items)
    (same : ∀ x, ring.base ≤ x → x < ring.base + ring.capacity → m' x = m x) :
    ring.Holds m' r items := by
  intro o inside
  have bounds : ring.base ≤ ring.addr r o ∧ ring.addr r o < ring.base + ring.capacity :=
    addr_bounds r o
  rw [same _ bounds.1 bounds.2]
  exact holds o inside

/-- Bytes behind the queue are not part of it. -/
theorem holds_behind {m m' : Mem} {r : Nat} {items : List Item} {k : Nat}
    (holds : ring.Holds m r items) (room : total items + k ≤ ring.slots)
    (same : ∀ x, ring.base ≤ x → x < ring.base + ring.capacity →
      ring.slotBytes * k ≤ ring.distance (ring.advance r (total items)) x → m' x = m x) :
    ring.Holds m' r items := by
  intro o inside
  have bounds : ring.base ≤ ring.addr r o ∧ ring.addr r o < ring.base + ring.capacity :=
    addr_bounds r o
  have far : ring.distance (ring.advance r (total items)) (ring.addr r o) +
      ring.slotBytes * total items = o + ring.capacity := distance_queue (by omega) inside
  have limit : ring.slotBytes * total items + ring.slotBytes * k ≤ ring.capacity := by
    rw [← Nat.mul_add]
    exact Nat.mul_le_mul_left _ room
  rw [same _ bounds.1 bounds.2 (by omega)]
  exact holds o inside

theorem holds_append {m : Mem} {r : Nat} {items : List Item} {item : Item}
    (holds : ring.Holds m r items)
    (tail : ring.Holds m (ring.advance r (total items)) [item]) :
    ring.Holds m r (items ++ [item]) := by
  intro o inside
  rw [total_append, Nat.mul_add] at inside
  rw [flat_append]
  split
  · rename_i early
    exact holds o early
  · rename_i late
    have later := tail (o - ring.slotBytes * total items) (by simp [total] at *; omega)
    rw [addr_advance] at later
    rw [← later]
    congr 2
    omega

theorem put_holds (m : Mem) {w : Nat} (low : w < ring.slots) (item : Item)
    (fits : item.slots ≤ ring.slots) : ring.Holds (ring.put m w item) w [item] := by
  intro o inside
  have single : total [item] = item.slots := by simp [total]
  rw [single] at inside
  have bounds : ring.base ≤ ring.addr w o ∧ ring.addr w o < ring.base + ring.capacity :=
    addr_bounds w o
  have limit : ring.slotBytes * item.slots ≤ ring.capacity := Nat.mul_le_mul_left _ fits
  have self : ring.distance w (ring.addr w o) = o := distance_self (by omega) low
  rw [put, self, if_pos ⟨bounds.1, bounds.2, inside⟩, flat, if_pos inside]

theorem put_outside (m : Mem) (w : Nat) (item : Item) (x : Nat)
    (outside : x < ring.base ∨ ring.base + ring.capacity ≤ x) : ring.put m w item x = m x := by
  rw [put, if_neg (by omega)]

/-- The producer's step. -/
theorem holds_put {m : Mem} {r : Nat} {items : List Item} (item : Item)
    (holds : ring.Holds m r items) (room : total items + item.slots ≤ ring.slots) :
    ring.Holds (ring.put m (ring.advance r (total items)) item) r (items ++ [item]) := by
  apply holds_append
  · apply holds_behind holds room
    intro x _ _ far
    rw [put, if_neg (by omega)]
  · exact put_holds m (advance_lt r _) item (by omega)

/-- The consumer's step. -/
theorem holds_tail {m : Mem} {r : Nat} {item : Item} {rest : List Item}
    (holds : ring.Holds m r (item :: rest)) :
    ring.Holds m (ring.advance r item.slots) rest := by
  intro o inside
  have grown : total (item :: rest) = item.slots + total rest := by simp [total]
  have here := holds (ring.slotBytes * item.slots + o) (by rw [grown, Nat.mul_add]; omega)
  rw [addr_advance, here, flat, if_neg (by omega), Nat.add_sub_cancel_left]

/-- Bytes that the consumer has gone past are not part of the queue. -/
theorem holds_ahead {m m' : Mem} {r k : Nat} {items : List Item}
    (holds : ring.Holds m (ring.advance r k) items) (low : r < ring.slots)
    (room : k + total items ≤ ring.slots)
    (same : ∀ x, ring.base ≤ x → x < ring.base + ring.capacity →
      ring.slotBytes * k ≤ ring.distance r x → m' x = m x) :
    ring.Holds m' (ring.advance r k) items := by
  intro o inside
  have limit : ring.slotBytes * k + ring.slotBytes * total items ≤ ring.capacity := by
    rw [← Nat.mul_add]
    exact Nat.mul_le_mul_left _ room
  have bounds : ring.base ≤ ring.addr r (ring.slotBytes * k + o) ∧
      ring.addr r (ring.slotBytes * k + o) < ring.base + ring.capacity := addr_bounds r _
  have far : ring.distance r (ring.addr r (ring.slotBytes * k + o)) = ring.slotBytes * k + o :=
    distance_self (by omega) low
  have here := holds o inside
  rw [addr_advance] at here ⊢
  rw [same _ bounds.1 bounds.2 (by omega)]
  exact here

/-- Reading the first item, as far as it does not wrap. -/
theorem holds_head {m : Mem} {r : Nat} {item : Item} {rest : List Item}
    (holds : ring.Holds m r (item :: rest)) {o : Nat} (inside : o < ring.slotBytes * item.slots)
    (room : ring.slotBytes * r + o < ring.capacity) :
    m (ring.base + ring.slotBytes * r + o) = item.bytes o := by
  have grown : total (item :: rest) = item.slots + total rest := by simp [total]
  have here := holds o (by rw [grown, Nat.mul_add]; omega)
  rw [addr_linear room, flat, if_pos inside] at here
  exact here

end SlotRing

end GspDriver.RingQueue
