import Mathlib

/-!
A flat byte memory with little-endian fields. A field of `n` bytes is read and
written as one natural number; every driver structure (page tables, queue
headers, pushbuffers) is laid out over such fields. A field is disturbed only
by a write that overlaps it.
-/

namespace GspDriver.Bytes

abbrev Mem := Nat → UInt8

def load (m : Mem) (a : Nat) : Nat → Nat
  | 0 => 0
  | n + 1 => load m a n + (m (a + n)).toNat * 256 ^ n

def store (m : Mem) (a n v : Nat) : Mem :=
  fun x => if a ≤ x ∧ x < a + n then UInt8.ofNat (v / 256 ^ (x - a)) else m x

theorem byte_radix (n : Nat) : 256 ^ n = 2 ^ (8 * n) := by
  rw [pow_mul]
  norm_num

theorem load_congr (m m' : Mem) (a b n : Nat) (same : ∀ i < n, m (a + i) = m' (b + i)) :
    load m a n = load m' b n := by
  induction n with
  | zero => rfl
  | succ n ih =>
      have front := ih (fun i inside => same i (by omega))
      simp only [load, front, same n (by omega)]

theorem load_lt (m : Mem) (a n : Nat) : load m a n < 256 ^ n := by
  induction n with
  | zero => simp [load]
  | succ n ih =>
      have byte := (m (a + n)).toNat_lt
      have scaled : (m (a + n)).toNat * 256 ^ n ≤ 255 * 256 ^ n :=
        Nat.mul_le_mul_right _ (by omega)
      simp only [load, pow_succ]
      omega

theorem load_add (m : Mem) (a n k : Nat) :
    load m a (n + k) = load m a n + load m (a + n) k * 256 ^ n := by
  induction k with
  | zero => simp [load]
  | succ k ih =>
      have last : load m a (n + (k + 1)) =
          load m a (n + k) + (m (a + (n + k))).toNat * 256 ^ (n + k) := rfl
      rw [last, ih, load, pow_add, Nat.add_assoc a n k]
      ring

theorem load_zero (m : Mem) (a n : Nat) (clear : ∀ i < n, m (a + i) = 0) : load m a n = 0 := by
  induction n with
  | zero => rfl
  | succ n ih =>
      simp [load, ih (fun i inside => clear i (by omega)), clear n (by omega)]

theorem store_inside (m : Mem) (a n v i : Nat) (inside : i < n) :
    store m a n v (a + i) = UInt8.ofNat (v / 256 ^ i) := by
  simp [store, inside]

theorem store_outside (m : Mem) (a n v x : Nat) (outside : x < a ∨ a + n ≤ x) :
    store m a n v x = m x := by
  have miss : ¬ (a ≤ x ∧ x < a + n) := by omega
  simp only [store, if_neg miss]

theorem load_store_same (m : Mem) (a n v : Nat) : load (store m a n v) a n = v % 256 ^ n := by
  have digits : ∀ k ≤ n, load (store m a n v) a k = v % 256 ^ k := by
    intro k
    induction k with
    | zero => intro _; simp [load, Nat.mod_one]
    | succ k ih =>
        intro bound
        have front := ih (by omega)
        rw [load, front, store_inside m a n v k (by omega), Nat.pow_succ, Nat.mod_mul]
        simp [Nat.mul_comm]
  exact digits n (Nat.le_refl n)

theorem load_store_apart (m : Mem) (a n v b k : Nat) (apart : b + k ≤ a ∨ a + n ≤ b) :
    load (store m a n v) b k = load m b k := by
  apply load_congr
  intro i inside
  exact store_outside m a n v (b + i) (by omega)

/-- Writing a field in two halves is writing it at once. -/
theorem store_append (m : Mem) (a n k v : Nat) :
    store (store m a n v) (a + n) k (v / 256 ^ n) = store m a (n + k) v := by
  funext x
  by_cases high : a + n ≤ x ∧ x < a + n + k
  · have whole : a ≤ x ∧ x < a + (n + k) := by omega
    have shift : x - a = n + (x - (a + n)) := by omega
    rw [store, if_pos high, store, if_pos whole, shift, pow_add, Nat.div_div_eq_div_mul]
  · rw [store, if_neg high]
    by_cases low : a ≤ x ∧ x < a + n
    · have whole : a ≤ x ∧ x < a + (n + k) := by omega
      rw [store, if_pos low, store, if_pos whole]
    · have miss : ¬ (a ≤ x ∧ x < a + (n + k)) := by omega
      rw [store, if_neg low, store, if_neg miss]

theorem store_mod (m : Mem) (a n v : Nat) : store m a n (v % 256 ^ n) = store m a n v := by
  funext x
  by_cases inside : a ≤ x ∧ x < a + n
  · rw [store, store, if_pos inside, if_pos inside]
    apply UInt8.toNat_inj.mp
    have room : n = (x - a) + 1 + (n - (x - a) - 1) := by omega
    have split : 256 ^ n = 256 ^ (x - a) * (256 * 256 ^ (n - (x - a) - 1)) := by
      conv => lhs; rw [room]
      rw [pow_add, pow_succ]
      ring
    simp only [UInt8.toNat_ofNat', Nat.reducePow]
    rw [split, Nat.mod_mul_right_div_self, Nat.mod_mul_right_mod]
  · rw [store, store, if_neg inside, if_neg inside]

def put (m : Mem) (a : Nat) (byte : UInt8) : Mem := fun x => if x = a then byte else m x

theorem put_eq_store (m : Mem) (a v : Nat) : put m a (UInt8.ofNat v) = store m a 1 v := by
  funext x
  by_cases hit : x = a
  · subst x
    simp [put, store]
  · have miss : ¬ (a ≤ x ∧ x < a + 1) := by omega
    simp only [put, store, if_neg hit, if_neg miss]

/-! Clearing a range, and a batch of 64-bit entries laid over a cleared or
older range. Page-table construction is one such batch; the order of its
writes does not matter once every address is given one value. -/

def clear (m : Mem) (a n : Nat) : Mem := fun x => if a ≤ x ∧ x < a + n then 0 else m x

theorem clear_inside (m : Mem) (a n x : Nat) (inside : a ≤ x ∧ x < a + n) : clear m a n x = 0 := by
  simp only [clear, if_pos inside]

theorem clear_outside (m : Mem) (a n x : Nat) (outside : x < a ∨ a + n ≤ x) :
    clear m a n x = m x := by
  have miss : ¬ (a ≤ x ∧ x < a + n) := by omega
  simp only [clear, if_neg miss]

theorem clear_append (m : Mem) (a n k : Nat) :
    clear (clear m a n) (a + n) k = clear m a (n + k) := by
  funext x
  simp only [clear]
  split_ifs <;> first | rfl | omega

def storeEntries (m : Mem) (entries : List (Nat × Nat)) : Mem :=
  entries.foldl (fun m entry => store m entry.1 8 entry.2) m

theorem entries_outside (m : Mem) (entries : List (Nat × Nat)) (x : Nat)
    (outside : ∀ entry ∈ entries, x < entry.1 ∨ entry.1 + 8 ≤ x) :
    storeEntries m entries x = m x := by
  induction entries generalizing m with
  | nil => rfl
  | cons entry rest ih =>
      have kept := ih (store m entry.1 8 entry.2)
        (fun e member => outside e (List.mem_cons_of_mem entry member))
      exact kept.trans (store_outside m entry.1 8 entry.2 x (outside entry List.mem_cons_self))

theorem entries_miss (m : Mem) (entries : List (Nat × Nat)) (a : Nat)
    (apart : ∀ entry ∈ entries, a + 8 ≤ entry.1 ∨ entry.1 + 8 ≤ a) :
    load (storeEntries m entries) a 8 = load m a 8 := by
  apply load_congr
  intro i inside
  apply entries_outside
  intro entry member
  have := apart entry member
  omega

/-- An address that the batch writes, always with the same value, holds it. -/
theorem entries_hit (m : Mem) (entries : List (Nat × Nat)) (a v : Nat)
    (present : (a, v) ∈ entries)
    (consistent : ∀ entry ∈ entries,
      entry = (a, v) ∨ a + 8 ≤ entry.1 ∨ entry.1 + 8 ≤ a) :
    load (storeEntries m entries) a 8 = v % 256 ^ 8 := by
  induction entries generalizing m with
  | nil => simp at present
  | cons entry rest ih =>
      have tail : ∀ e ∈ rest, e = (a, v) ∨ a + 8 ≤ e.1 ∨ e.1 + 8 ≤ a :=
        fun e member => consistent e (List.mem_cons_of_mem entry member)
      by_cases later : (a, v) ∈ rest
      · exact ih (store m entry.1 8 entry.2) later tail
      · have first : entry = (a, v) := by
          rcases List.mem_cons.mp present with same | inRest
          · exact same.symm
          · exact absurd inRest later
        have apart : ∀ e ∈ rest, a + 8 ≤ e.1 ∨ e.1 + 8 ≤ a := by
          intro e member
          rcases tail e member with same | clear
          · exact absurd (same ▸ member) later
          · exact clear
        have kept := entries_miss (store m entry.1 8 entry.2) rest a apart
        rw [storeEntries, List.foldl_cons, ← storeEntries, kept, first]
        exact load_store_same m a 8 v

/-- An address in a cleared place holds its entry, or zero where the batch has none for it. -/
theorem entries_value (m : Mem) (entries : List (Nat × Nat)) (a v : Nat) (listed : Prop)
    [Decidable listed] (present : listed → (a, v) ∈ entries)
    (others : ∀ entry ∈ entries,
      listed ∧ entry = (a, v) ∨ a + 8 ≤ entry.1 ∨ entry.1 + 8 ≤ a)
    (blank : ∀ i < 8, m (a + i) = 0) :
    load (storeEntries m entries) a 8 = if listed then v % 256 ^ 8 else 0 := by
  by_cases held : listed
  · rw [if_pos held]
    exact entries_hit m entries a v (present held)
      fun entry member => (others entry member).imp_left And.right
  · rw [if_neg held, entries_miss]
    · exact load_zero m a 8 blank
    · exact fun entry member => (others entry member).resolve_left fun hit => held hit.1

/-! Copying bytes in. A word loaded from the source and stored is a copy. -/

def blit (m : Mem) (a n : Nat) (bytes : Nat → UInt8) : Mem :=
  fun x => if a ≤ x ∧ x < a + n then bytes (x - a) else m x

theorem blit_inside (m : Mem) (a n : Nat) (bytes : Nat → UInt8) (x : Nat)
    (inside : a ≤ x ∧ x < a + n) : blit m a n bytes x = bytes (x - a) := by
  simp only [blit, if_pos inside]

theorem blit_outside (m : Mem) (a n : Nat) (bytes : Nat → UInt8) (x : Nat)
    (outside : x < a ∨ a + n ≤ x) : blit m a n bytes x = m x := by
  have miss : ¬ (a ≤ x ∧ x < a + n) := by omega
  simp only [blit, if_neg miss]

theorem load_digit (m : Mem) (a n i : Nat) (inside : i < n) :
    UInt8.ofNat (load m a n / 256 ^ i) = m (a + i) := by
  have split : n = i + (1 + (n - i - 1)) := by omega
  have small := load_lt m a i
  have byte := (m (a + i)).toNat_lt
  have single : load m (a + i) 1 = (m (a + i)).toNat := by simp [load]
  rw [split, load_add, load_add, single, Nat.add_mul_div_right _ _ (Nat.pow_pos (by omega)),
    Nat.div_eq_of_lt small, Nat.zero_add]
  apply UInt8.toNat_inj.mp
  rw [UInt8.toNat_ofNat']
  omega

theorem store_load (m source : Mem) (a b n : Nat) :
    store m a n (load source b n) = blit m a n fun i => source (b + i) := by
  funext x
  by_cases inside : a ≤ x ∧ x < a + n
  · rw [blit_inside m a n _ x inside, store, if_pos inside]
    exact load_digit source b n (x - a) (by omega)
  · rw [blit_outside m a n _ x (by omega), store_outside m a n _ x (by omega)]

theorem blit_append (m : Mem) (a n k : Nat) (bytes : Nat → UInt8) :
    blit (blit m a n bytes) (a + n) k (fun i => bytes (n + i)) = blit m a (n + k) bytes := by
  funext x
  by_cases high : a + n ≤ x ∧ x < a + n + k
  · have shift : n + (x - (a + n)) = x - a := by omega
    rw [blit_inside _ _ _ _ x high, blit_inside m a (n + k) bytes x (by omega), shift]
  · rw [blit_outside _ _ _ _ x (by omega)]
    by_cases low : a ≤ x ∧ x < a + n
    · rw [blit_inside m a n bytes x low, blit_inside m a (n + k) bytes x (by omega)]
    · rw [blit_outside m a n bytes x (by omega), blit_outside m a (n + k) bytes x (by omega)]

/-! A range of the memory as a list. -/

def flatRead (m : Mem) (a len : Nat) : List UInt8 := (List.range len).map fun i => m (a + i)

theorem flatRead_length (m : Mem) (a len : Nat) : (flatRead m a len).length = len := by
  rw [flatRead, List.length_map, List.length_range]

theorem flatRead_add (m : Mem) (a n k : Nat) :
    flatRead m a (n + k) = flatRead m a n ++ flatRead m (a + n) k := by
  simp only [flatRead, List.range_add, List.map_append, List.map_map, Function.comp_def,
    Nat.add_assoc]

theorem flatRead_congr {m m' : Mem} {a b n : Nat} (same : ∀ i < n, m (a + i) = m' (b + i)) :
    flatRead m a n = flatRead m' b n :=
  List.map_congr_left fun i member => same i (List.mem_range.mp member)

theorem flatRead_take (m : Mem) (a : Nat) {k n : Nat} (short : k ≤ n) :
    (flatRead m a n).take k = flatRead m a k := by
  obtain ⟨rest, rfl⟩ := Nat.exists_eq_add_of_le short
  rw [flatRead_add, List.take_append_of_le_length (by rw [flatRead_length])]
  exact List.take_of_length_le (by rw [flatRead_length])

theorem flatRead_list {m : Mem} {a : Nat} {bytes : List UInt8}
    (same : ∀ i < bytes.length, m (a + i) = bytes.getD i 0) :
    flatRead m a bytes.length = bytes := by
  apply List.ext_getElem
  · exact flatRead_length m a bytes.length
  · intro i _ inside
    simp only [flatRead, List.getElem_map, List.getElem_range, same i inside,
      List.getD_eq_getElem bytes 0 inside]

end GspDriver.Bytes
