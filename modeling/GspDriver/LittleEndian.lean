import GspDriver.Base.Bytes
import GspDriver.Base.Words

/-!
The byte-wise accessors `ld32`, `ld64`, `st32` and `st64` that gsp_rpc.c and
gsp_rm.c each define for themselves, and their meaning as little-endian fields.
A 32-bit BAR0 access to video memory moves the same four bytes. The parsers of
foreign images read through the same accessors and share `fits`.
-/

namespace GspDriver.LittleEndian

open Bytes

def ld16 (m : Mem) (p : Nat) : UInt16 := (m p).toUInt16 ||| ((m (p + 1)).toUInt16 <<< 8)

def ld32 (m : Mem) (p : Nat) : UInt32 :=
  (m p).toUInt32 ||| ((m (p + 1)).toUInt32 <<< 8) ||| ((m (p + 2)).toUInt32 <<< 16) |||
    ((m (p + 3)).toUInt32 <<< 24)

def ld64 (m : Mem) (p : Nat) : UInt64 :=
  (List.range 8).foldl (fun v i => v ||| ((m (p + i)).toUInt64 <<< UInt64.ofNat (8 * i))) 0

def st32 (m : Mem) (p : Nat) (v : UInt32) : Mem :=
  put (put (put (put m p v.toUInt8) (p + 1) (v >>> 8).toUInt8) (p + 2) (v >>> 16).toUInt8)
    (p + 3) (v >>> 24).toUInt8

def st64 (m : Mem) (p : Nat) (v : UInt64) : Mem :=
  (List.range 8).foldl (fun m i => put m (p + i) (v >>> UInt64.ofNat (8 * i)).toUInt8) m

theorem or_byte32 {x : UInt32} (byte : UInt8) {k : Nat} (room : k ≤ 24)
    (small : x.toNat < 2 ^ k) :
    (x ||| (byte.toUInt32 <<< UInt32.ofNat k)).toNat = x.toNat + byte.toNat * 2 ^ k := by
  have bound := byte.toNat_lt
  have scale : 2 ^ k ≤ 2 ^ 24 := Nat.pow_le_pow_right (by omega) room
  have fits : byte.toNat * 2 ^ k < 2 ^ 32 := by nlinarith
  have shift : (UInt32.ofNat k).toNat % 32 = k := by
    rw [UInt32.toNat_ofNat']
    omega
  rw [UInt32.toNat_or, UInt32.toNat_shiftLeft, shift, UInt8.toNat_toUInt32, Nat.shiftLeft_eq,
    Nat.mod_eq_of_lt fits, Nat.mul_comm, Nat.or_comm, ← Nat.two_pow_add_eq_or_of_lt small,
    Nat.add_comm]

theorem ld32_toNat (m : Mem) (p : Nat) : (ld32 m p).toNat = load m p 4 := by
  have b0 : (m p).toUInt32.toNat < 2 ^ 8 := by
    rw [UInt8.toNat_toUInt32]
    exact (m p).toNat_lt
  have one := or_byte32 (m (p + 1)) (by omega) b0
  have b1 := (m (p + 1)).toNat_lt
  rw [UInt8.toNat_toUInt32] at one b0
  have two := or_byte32 (m (p + 2)) (k := 16) (by omega) (by rw [one]; omega)
  have b2 := (m (p + 2)).toNat_lt
  have three := or_byte32 (m (p + 3)) (k := 24) (by omega) (by rw [two, one]; omega)
  rw [two, one] at three
  exact three.trans (by simp [load])

theorem or_byte64 {x : UInt64} (byte : UInt8) {k : Nat} (room : k ≤ 56)
    (small : x.toNat < 2 ^ k) :
    (x ||| (byte.toUInt64 <<< UInt64.ofNat k)).toNat = x.toNat + byte.toNat * 2 ^ k := by
  have bound := byte.toNat_lt
  have scale : 2 ^ k ≤ 2 ^ 56 := Nat.pow_le_pow_right (by omega) room
  have fits : byte.toNat * 2 ^ k < 2 ^ 64 := by nlinarith
  have shift : (UInt64.ofNat k).toNat % 64 = k := by
    rw [UInt64.toNat_ofNat']
    omega
  rw [UInt64.toNat_or, UInt64.toNat_shiftLeft, shift, UInt8.toNat_toUInt64, Nat.shiftLeft_eq,
    Nat.mod_eq_of_lt fits, Nat.mul_comm, Nat.or_comm, ← Nat.two_pow_add_eq_or_of_lt small,
    Nat.add_comm]

theorem ld64_toNat (m : Mem) (p : Nat) : (ld64 m p).toNat = load m p 8 := by
  have digits : ∀ n ≤ 8, ((List.range n).foldl (fun v i =>
      v ||| ((m (p + i)).toUInt64 <<< UInt64.ofNat (8 * i))) 0).toNat = load m p n := by
    intro n
    induction n with
    | zero => intro _; rfl
    | succ n ih =>
        intro bound
        have front := ih (by omega)
        have radix := byte_radix n
        have small := load_lt m p n
        rw [List.range_succ, List.foldl_append, List.foldl_cons, List.foldl_nil,
          or_byte64 _ (by omega) (by rw [front, ← radix]; exact small), front, ← radix, load]
  exact digits 8 (Nat.le_refl 8)

/-- A 64-bit word is read as its two halves. -/
theorem ld64_halves (m : Mem) (p : Nat) :
    (ld64 m p).toUInt32 = ld32 m p ∧ (ld64 m p >>> 32).toUInt32 = ld32 m (p + 4) := by
  have whole := ld64_toNat m p
  have split := load_add m p 4 4
  have low := load_lt m p 4
  have high := load_lt m (p + 4) 4
  have shift : (32 : UInt64).toNat % 64 = 32 := by decide
  constructor
  · apply UInt32.toNat_inj.mp
    rw [UInt64.toNat_toUInt32, whole, split, ld32_toNat]
    omega
  · apply UInt32.toNat_inj.mp
    rw [UInt64.toNat_toUInt32, UInt64.toNat_shiftRight, shift, Nat.shiftRight_eq_div_pow, whole,
      split, ld32_toNat]
    omega

theorem st32_eq_store (m : Mem) (p : Nat) (v : UInt32) : st32 m p v = store m p 4 v.toNat := by
  have b0 : v.toUInt8 = UInt8.ofNat v.toNat := by
    apply UInt8.toNat_inj.mp
    simp
  have b1 : (v >>> 8).toUInt8 = UInt8.ofNat (v.toNat / 256) := by
    apply UInt8.toNat_inj.mp
    simp [UInt32.toNat_shiftRight, Nat.shiftRight_eq_div_pow]
  have b2 : (v >>> 16).toUInt8 = UInt8.ofNat (v.toNat / 256 ^ 2) := by
    apply UInt8.toNat_inj.mp
    simp [UInt32.toNat_shiftRight, Nat.shiftRight_eq_div_pow]
  have b3 : (v >>> 24).toUInt8 = UInt8.ofNat (v.toNat / 256 ^ 3) := by
    apply UInt8.toNat_inj.mp
    simp [UInt32.toNat_shiftRight, Nat.shiftRight_eq_div_pow]
  have two := store_append m p 1 1 v.toNat
  rw [pow_one] at two
  rw [st32, b0, b1, b2, b3, put_eq_store, put_eq_store, put_eq_store, put_eq_store,
    two, store_append m p 2 1, store_append m p 3 1]

theorem st64_eq_store (m : Mem) (p : Nat) (v : UInt64) : st64 m p v = store m p 8 v.toNat := by
  have digits : ∀ n ≤ 8, (List.range n).foldl (fun m i =>
      put m (p + i) (v >>> UInt64.ofNat (8 * i)).toUInt8) m = store m p n v.toNat := by
    intro n
    induction n with
    | zero =>
        intro _
        funext x
        exact (store_outside m p 0 v.toNat x (by omega)).symm
    | succ n ih =>
        intro bound
        have radix := byte_radix n
        have shift : (UInt64.ofNat (8 * n)).toNat % 64 = 8 * n := by
          rw [UInt64.toNat_ofNat']
          omega
        have byte : (v >>> UInt64.ofNat (8 * n)).toUInt8 = UInt8.ofNat (v.toNat / 256 ^ n) := by
          apply UInt8.toNat_inj.mp
          rw [radix, UInt64.toNat_toUInt8, UInt64.toNat_shiftRight, shift,
            Nat.shiftRight_eq_div_pow, UInt8.toNat_ofNat']
        rw [List.range_succ, List.foldl_append, List.foldl_cons, List.foldl_nil,
          ih (by omega), byte, put_eq_store, store_append]
  exact digits 8 (Nat.le_refl 8)

theorem st32_outside (m : Mem) (a : Nat) (v : UInt32) (x : Nat) (outside : x < a ∨ a + 4 ≤ x) :
    st32 m a v x = m x := by
  rw [st32_eq_store]
  exact store_outside m a 4 v.toNat x outside

theorem st64_outside (m : Mem) (a : Nat) (v : UInt64) (x : Nat) (outside : x < a ∨ a + 8 ≤ x) :
    st64 m a v x = m x := by
  rw [st64_eq_store]
  exact store_outside m a 8 v.toNat x outside

theorem ld32_congr {m m' : Mem} {a b : Nat} (same : ∀ i < 4, m (a + i) = m' (b + i)) :
    ld32 m a = ld32 m' b := by
  apply UInt32.toNat_inj.mp
  rw [ld32_toNat, ld32_toNat]
  exact load_congr m m' a b 4 same

theorem ld64_congr {m m' : Mem} {a b : Nat} (same : ∀ i < 8, m (a + i) = m' (b + i)) :
    ld64 m a = ld64 m' b := by
  apply UInt64.toNat_inj.mp
  rw [ld64_toNat, ld64_toNat]
  exact load_congr m m' a b 8 same

theorem ld32_st32 (m : Mem) (a : Nat) (v : UInt32) : ld32 (st32 m a v) a = v := by
  apply UInt32.toNat_inj.mp
  rw [ld32_toNat, st32_eq_store, load_store_same]
  exact Nat.mod_eq_of_lt v.toNat_lt

theorem ld32_st32_apart (m : Mem) {a b : Nat} (v : UInt32) (apart : b + 4 ≤ a ∨ a + 4 ≤ b) :
    ld32 (st32 m a v) b = ld32 m b := by
  apply UInt32.toNat_inj.mp
  rw [ld32_toNat, ld32_toNat, st32_eq_store, load_store_apart m a 4 v.toNat b 4 apart]

theorem ld32_st64_apart (m : Mem) {a b : Nat} (v : UInt64) (apart : b + 4 ≤ a ∨ a + 8 ≤ b) :
    ld32 (st64 m a v) b = ld32 m b :=
  ld32_congr fun i below => st64_outside m a v (b + i) (by omega)

theorem ld64_st64 (m : Mem) (a : Nat) (v : UInt64) : ld64 (st64 m a v) a = v := by
  apply UInt64.toNat_inj.mp
  rw [ld64_toNat, st64_eq_store, load_store_same]
  exact Nat.mod_eq_of_lt v.toNat_lt

theorem ld64_st32_apart (m : Mem) {a b : Nat} (v : UInt32) (apart : b + 8 ≤ a ∨ a + 4 ≤ b) :
    ld64 (st32 m a v) b = ld64 m b := by
  apply UInt64.toNat_inj.mp
  rw [ld64_toNat, ld64_toNat]
  exact load_congr _ _ b b 8 fun i below => st32_outside m a v (b + i) (by omega)

theorem ld64_st64_apart (m : Mem) {a b : Nat} (v : UInt64) (apart : b + 8 ≤ a ∨ a + 8 ≤ b) :
    ld64 (st64 m a v) b = ld64 m b :=
  ld64_congr fun i below => st64_outside m a v (b + i) (by omega)

theorem ld64_put_apart (m : Mem) {a b : Nat} (v : UInt8) (apart : b + 8 ≤ a ∨ a + 1 ≤ b) :
    ld64 (put m a v) b = ld64 m b :=
  ld64_congr fun i below => if_neg (by omega)

/-- A buffer and its length. Past the length `bytes` is the memory behind the buffer. -/
structure Blob where
  bytes : Mem
  len : Nat

/-- The `need` bytes from `off` on lie within `len`. Offsets do not wrap a `size_t`. -/
def fits (off need len : Nat) : Prop := off ≤ len ∧ need ≤ len - off

instance (off need len : Nat) : Decidable (fits off need len) :=
  inferInstanceAs (Decidable (_ ∧ _))

theorem fits_iff {off need len : Nat} : fits off need len ↔ off + need ≤ len := by
  rw [fits]
  omega

end GspDriver.LittleEndian
