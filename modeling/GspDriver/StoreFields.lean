import GspDriver.MemoryList
import GspDriver.Radix3
import GspDriver.Base.Patch

/-!
Structures written field by field at an address, and tables of page addresses,
as the builders of gsp_rpc.c and gsp_fw.c write them. Both are patches; fields
that share no byte are read back as they were written.
-/

namespace GspDriver.StoreFields

open Bytes LittleEndian Patches Radix3
open MemoryList (Store written apply_eq_store)

def placed (base : Nat) : Store → Store
  | .byte off v => .byte (base + off) v
  | .word off v => .word (base + off) v
  | .quad off v => .quad (base + off) v

def storeAt (m : Mem) (base : Nat) (fields : List Store) : Mem :=
  written m (fields.map (placed base))

def fieldPatch (base : Nat) (s : Store) : Patch := Patch.store (base + s.off) s.width s.value

def fieldsPatch (base : Nat) (fields : List Store) : Patch :=
  Patch.all (fields.map (fieldPatch base))

theorem storeAt_patch (m : Mem) (base : Nat) (fields : List Store) :
    storeAt m base fields = (fieldsPatch base fields).write m := by
  rw [fieldsPatch, Patch.all_fold, storeAt, written]
  induction fields generalizing m with
  | nil => rfl
  | cons s rest ih =>
      have here : (placed base s).apply m = (fieldPatch base s).write m := by
        rw [apply_eq_store]
        cases s <;> rfl
      rw [List.map_cons, List.map_cons, List.foldl_cons, List.foldl_cons, here]
      exact ih _

/-! Reading fields back. -/

/-- Offset and width. -/
def extent (s : Store) : Nat × Nat := (s.off, s.width)

def Spaced (extents : List (Nat × Nat)) : Prop :=
  extents.Pairwise fun e f => e.1 + e.2 ≤ f.1 ∨ f.1 + f.2 ≤ e.1

instance : DecidablePred Spaced := fun extents => inferInstanceAs (Decidable (extents.Pairwise _))

section Read

variable {m : Mem} {base : Nat} {fields : List Store}

theorem field_read (spaced : Spaced (fields.map extent)) {s : Store} (member : s ∈ fields) :
    load (storeAt m base fields) (base + s.off) s.width = s.value % 256 ^ s.width := by
  obtain ⟨front, later, rfl⟩ := List.append_of_mem member
  rw [Spaced, List.pairwise_map] at spaced
  have behind := (List.pairwise_cons.mp (List.pairwise_append.mp spaced).2.1).1
  have keeps : (fieldPatch base s).Keeps (Patch.all (later.map (fieldPatch base))).write := by
    apply Patch.keeps_all
    intro q listed x here there
    obtain ⟨t, after, rfl⟩ := List.mem_map.mp listed
    have apart := behind t after
    simp only [fieldPatch, Patch.store, extent] at here there apart
    omega
  rw [storeAt_patch, fieldsPatch, List.map_append, List.map_cons, Patch.all_append]
  exact (fieldPatch base s).settled
    (fun m => load m (base + s.off) s.width = s.value % 256 ^ s.width) keeps
    fun m => load_store_same m _ _ _

theorem quad_read (spaced : Spaced (fields.map extent)) {off : Nat} {v : UInt64}
    (member : .quad off v ∈ fields) : ld64 (storeAt m base fields) (base + off) = v := by
  apply UInt64.toNat_inj.mp
  rw [ld64_toNat]
  exact (field_read spaced member).trans (Nat.mod_eq_of_lt v.toNat_lt)

theorem word_read (spaced : Spaced (fields.map extent)) {off : Nat} {v : UInt32}
    (member : .word off v ∈ fields) : ld32 (storeAt m base fields) (base + off) = v := by
  apply UInt32.toNat_inj.mp
  rw [ld32_toNat]
  exact (field_read spaced member).trans (Nat.mod_eq_of_lt v.toNat_lt)

/-! The fields by their number. -/

theorem quad_at (spaced : Spaced (fields.map extent)) (i : Nat) {off : Nat} {v : UInt64}
    (here : fields[i]? = some (.quad off v)) : ld64 (storeAt m base fields) (base + off) = v :=
  quad_read spaced (List.mem_of_getElem? here)

theorem word_at (spaced : Spaced (fields.map extent)) (i : Nat) {off : Nat} {v : UInt32}
    (here : fields[i]? = some (.word off v)) : ld32 (storeAt m base fields) (base + off) = v :=
  word_read spaced (List.mem_of_getElem? here)

theorem byte_at (spaced : Spaced (fields.map extent)) (i : Nat) {off : Nat} {v : UInt8}
    (here : fields[i]? = some (.byte off v)) : storeAt m base fields (base + off) = v := by
  apply UInt8.toNat_inj.mp
  have single : ∀ m a, (m a).toNat = load m a 1 := by
    intro m a
    simp [load]
  rw [single]
  exact (field_read spaced (List.mem_of_getElem? here)).trans (Nat.mod_eq_of_lt v.toNat_lt)

/-- Bytes that no field covers. -/
theorem field_miss {x : Nat}
    (outside : ∀ s ∈ fields, x < base + s.off ∨ base + s.off + s.width ≤ x) :
    storeAt m base fields x = m x := by
  rw [storeAt_patch]
  apply Patch.kept
  intro covered
  obtain ⟨q, listed, there⟩ := Patch.all_covers.mp covered
  obtain ⟨s, member, rfl⟩ := List.mem_map.mp listed
  have apart := outside s member
  simp only [fieldPatch, Patch.store] at there
  omega

/-- All fields lie in the first `n` bytes. -/
def Within (n : Nat) (extents : List (Nat × Nat)) : Prop := ∀ e ∈ extents, e.1 + e.2 ≤ n

instance (n : Nat) : DecidablePred (Within n) :=
  fun extents => inferInstanceAs (Decidable (∀ e ∈ extents, _))

theorem fields_covers {n x : Nat} (within : Within n (fields.map extent))
    (covered : (fieldsPatch base fields).covers x) : base ≤ x ∧ x < base + n := by
  obtain ⟨q, listed, there⟩ := Patch.all_covers.mp covered
  obtain ⟨s, member, rfl⟩ := List.mem_map.mp listed
  have short : s.off + s.width ≤ n := within (extent s) (List.mem_map_of_mem member)
  simp only [fieldPatch, Patch.store] at there
  omega

theorem field_outside {n x : Nat} (within : Within n (fields.map extent))
    (outside : x < base ∨ base + n ≤ x) : storeAt m base fields x = m x := by
  rw [storeAt_patch]
  apply Patch.kept
  intro covered
  have inside := fields_covers within covered
  omega

end Read

/-! Tables of pages. -/

def tablePatch (table : Nat) (dma : UInt64) (count : Nat) : Patch :=
  Patch.all ((levelEntries table dma count).map fun entry => Patch.store entry.1 8 entry.2)

theorem table_patch (m : Mem) (table : Nat) (dma : UInt64) (count : Nat) :
    fillLevel m table dma count = (tablePatch table dma count).write m := by
  rw [fillLevel_entries, tablePatch, Patch.all_fold, storeEntries, List.foldl_map]
  rfl

theorem table_covers {table count x : Nat} {dma : UInt64}
    (inside : (tablePatch table dma count).covers x) : table ≤ x ∧ x < table + 8 * count := by
  obtain ⟨q, listed, there⟩ := Patch.all_covers.mp inside
  obtain ⟨entry, member, rfl⟩ := List.mem_map.mp listed
  have within := level_inside member
  simp only [Patch.store] at there
  omega

theorem table_read (m : Mem) (table : Nat) (dma : UInt64) {count i : Nat} (inside : i < count) :
    ld64 (fillLevel m table dma count) (table + 8 * i) =
      dma + UInt64.ofNat i * nvGspPageSize := by
  apply UInt64.toNat_inj.mp
  have small := (dma + UInt64.ofNat i * nvGspPageSize).toNat_lt
  rw [ld64_toNat, fillLevel_entries, ← Nat.mod_eq_of_lt small]
  apply entries_hit
  · exact List.mem_map.mpr ⟨i, List.mem_range.mpr inside, by rw [Nat.mul_comm i 8]⟩
  · intro entry member
    obtain ⟨j, _, rfl⟩ := List.mem_map.mp member
    by_cases here : j = i
    · subst j
      exact Or.inl (by rw [Nat.mul_comm i 8])
    · exact Or.inr (by dsimp only; omega)

end GspDriver.StoreFields
