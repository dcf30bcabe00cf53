import GspDriver.Vram
import GspDriver.Base.Lease

/-!
The representation invariant of the pool and what each call does to a pool
that meets it. Every later result uses these call specifications and never the
placement scan itself.
-/

namespace GspDriver.VramPool

open Loop Words Vram

variable {n : Nat}

/-- The first byte past an allocation, relative to the pool. -/
def limit (a : NvVramAllocation) : Nat := a.offset.toNat + a.size.toNat

def Live (p : NvVramPool n) (i : Fin n) : Prop := (p.allocations i).handle ≠ 0

structure PoolInv (p : NvVramPool n) : Prop where
  vaPage : 4096 ∣ p.va.toNat
  physPage : 4096 ∣ p.phys.toNat
  sizePage : 4096 ∣ p.size.toNat
  nonempty : 0 < p.size.toNat
  vaFits : p.va.toNat + p.size.toNat < 2 ^ 64
  physFits : p.phys.toNat + p.size.toNat < 2 ^ 64
  nextPositive : 0 < p.nextHandle.toNat
  empty : ∀ i, ¬ Live p i → p.allocations i = .zero
  older : ∀ i, Live p i → (p.allocations i).handle.toNat < p.nextHandle.toNat
  distinct : ∀ i j, Live p i → (p.allocations i).handle = (p.allocations j).handle → i = j
  sized : ∀ i, Live p i → 0 < (p.allocations i).size.toNat ∧
    4096 ∣ (p.allocations i).size.toNat ∧ 4096 ∣ (p.allocations i).offset.toNat
  inside : ∀ i, Live p i → limit (p.allocations i) ≤ p.size.toNat
  apart : ∀ i j, Live p i → Live p j → i ≠ j →
    limit (p.allocations i) ≤ (p.allocations j).offset.toNat ∨
      limit (p.allocations j) ≤ (p.allocations i).offset.toNat
  used_eq : p.used.toNat = ∑ i, (p.allocations i).size.toNat
  used_le : p.used.toNat ≤ p.size.toNat

/-! Alignment. -/

theorem alignment_pow {alignment : UInt64} (valid : alignmentValid alignment = true) :
    ∃ k < 64, 12 ≤ k ∧ alignment.toNat = 2 ^ k := by
  simp only [alignmentValid, Bool.and_eq_true, decide_eq_true_eq, beq_iff_eq] at valid
  obtain ⟨large, test⟩ := valid
  rw [UInt64.le_iff_toNat_le] at large
  have page : nvVramPageBytes.toNat = 2 ^ 12 := by decide
  obtain ⟨k, small, shape⟩ := power_of_and_pred (by omega) test
  rw [page, shape] at large
  exact ⟨k, small, (Nat.pow_le_pow_iff_right (by omega)).mp large, shape⟩

theorem page_valid : alignmentValid nvVramPageBytes = true := by decide

/-- `align_up` rounds up exactly, or reports that the result does not fit. -/
theorem alignUp_spec {value alignment : UInt64} (valid : alignmentValid alignment = true) :
    (∀ out, alignUp value alignment = some out →
      (value + alignment - 1).toNat = value.toNat + alignment.toNat - 1 ∧
      value.toNat ≤ out.toNat ∧ out.toNat < value.toNat + alignment.toNat ∧
      alignment.toNat ∣ out.toNat) ∧
    (alignUp value alignment = none → 2 ^ 64 ≤ value.toNat + (alignment.toNat - 1)) := by
  obtain ⟨k, small, wide, shape⟩ := alignment_pow valid
  have positive := Nat.two_pow_pos k
  have pred : (alignment - 1).toNat = 2 ^ k - 1 := by
    rw [sub_toNat (by rw [shape, UInt64.toNat_one]; omega), shape, UInt64.toNat_one]
  have top : uint64Max.toNat = 2 ^ 64 - 1 := by decide
  have bound := alignment.toNat_lt
  have gap : (uint64Max - (alignment - 1)).toNat = 2 ^ 64 - 2 ^ k := by
    rw [sub_toNat (by omega), top, pred]
    omega
  unfold alignUp
  constructor
  · intro out rounded
    split at rounded
    · cases rounded
    rename_i fits
    rw [gt_iff_lt, UInt64.not_lt, UInt64.le_iff_toNat_le, gap] at fits
    have sum : (value + alignment - 1).toNat = value.toNat + (2 ^ k - 1) := by
      rw [add_sub_assoc, add_toNat (by omega), pred]
    -- Adding the mask and clearing its bits is rounding up.
    have shapeOut : out.toNat = (value.toNat + (2 ^ k - 1)) / 2 ^ k * 2 ^ k := by
      rw [← Option.some.inj rounded, and_not_mask_toNat _ pred, sum]
    have whole := Nat.div_add_mod' (value.toNat + (2 ^ k - 1)) (2 ^ k)
    have rest := Nat.mod_lt (value.toNat + (2 ^ k - 1)) positive
    refine ⟨by omega, by omega, by omega, ?_⟩
    rw [shapeOut, shape]
    exact Nat.dvd_mul_left _ _
  · intro refused
    split at refused
    · rename_i large
      rw [gt_iff_lt, UInt64.lt_iff_toNat_lt, gap] at large
      omega
    · cases refused

/-! Collisions. -/

def Overlaps (candidate bytes : UInt64) (a : NvVramAllocation) : Prop :=
  candidate < a.offset + a.size ∧ a.offset < candidate + bytes

theorem raise_le (candidate bytes next : UInt64) (a : NvVramAllocation) :
    next.toNat ≤ (raise candidate bytes next a).toNat := by
  rw [raise]
  split
  · rename_i moved
    exact Nat.le_of_lt (UInt64.lt_iff_toNat_lt.mp moved.2.2.2)
  · exact Nat.le_refl _

theorem raise_covers (candidate bytes next : UInt64) (a : NvVramAllocation)
    (live : a.handle ≠ 0) (overlaps : Overlaps candidate bytes a) :
    (a.offset + a.size).toNat ≤ (raise candidate bytes next a).toNat := by
  rw [raise]
  split
  · exact Nat.le_refl _
  · rename_i still
    have stopped : ¬ a.offset + a.size > next :=
      fun more => still ⟨live, overlaps.1, overlaps.2, more⟩
    rw [gt_iff_lt, UInt64.not_lt] at stopped
    exact UInt64.le_iff_toNat_le.mp stopped

theorem raise_source (candidate bytes next : UInt64) (a : NvVramAllocation) :
    raise candidate bytes next a = next ∨
      a.handle ≠ 0 ∧ raise candidate bytes next a = a.offset + a.size := by
  rw [raise]
  split
  · rename_i moved
    exact Or.inr ⟨moved.1, rfl⟩
  · exact Or.inl rfl

def collideOver (p : NvVramPool n) (candidate bytes : UInt64)
    (table : List (Fin n)) (next : UInt64) : UInt64 :=
  table.foldl (fun next i => raise candidate bytes next (p.allocations i)) next

theorem collide_le (p : NvVramPool n) (candidate bytes : UInt64)
    (table : List (Fin n)) (next : UInt64) :
    next.toNat ≤ (collideOver p candidate bytes table next).toNat := by
  induction table generalizing next with
  | nil => exact Nat.le_refl _
  | cons i rest ih => exact Nat.le_trans (raise_le _ _ next _) (ih _)

theorem collide_covers (p : NvVramPool n) (candidate bytes : UInt64)
    (table : List (Fin n)) (next : UInt64) (i : Fin n)
    (member : i ∈ table) (live : Live p i) (overlaps : Overlaps candidate bytes (p.allocations i)) :
    ((p.allocations i).offset + (p.allocations i).size).toNat ≤
      (collideOver p candidate bytes table next).toNat := by
  induction table generalizing next with
  | nil => cases member
  | cons j rest ih =>
      rcases List.mem_cons.mp member with here | later
      · subst j
        exact Nat.le_trans (raise_covers _ _ next _ live overlaps)
          (collide_le p candidate bytes rest _)
      · exact ih _ later

theorem collide_source (p : NvVramPool n) (candidate bytes : UInt64)
    (table : List (Fin n)) (next : UInt64) :
    collideOver p candidate bytes table next = next ∨
      ∃ i, Live p i ∧ collideOver p candidate bytes table next =
        (p.allocations i).offset + (p.allocations i).size := by
  induction table generalizing next with
  | nil => exact Or.inl rfl
  | cons i rest ih =>
      rcases ih (raise candidate bytes next (p.allocations i)) with same | moved
      · rcases raise_source candidate bytes next (p.allocations i) with kept | raised
        · exact Or.inl (same.trans kept)
        · exact Or.inr ⟨i, raised.1, same.trans raised.2⟩
      · exact Or.inr moved

theorem collide_eq (p : NvVramPool n) (candidate bytes : UInt64) :
    collide p bytes candidate = collideOver p candidate bytes slots candidate := by
  rfl

theorem mem_slots (i : Fin n) : i ∈ slots := List.mem_finRange i

/-! The placement scan. -/

section Scan

variable {p : NvVramPool n} (inv : PoolInv p)
include inv

theorem limit_word (i : Fin n) (live : Live p i) :
    ((p.allocations i).offset + (p.allocations i).size).toNat = limit (p.allocations i) := by
  have inside := inv.inside i live
  have bound := p.size.toNat_lt
  rw [limit] at inside ⊢
  exact add_toNat (by omega)

/-- A collision moves the candidate to the end of some allocation. -/
theorem collide_bound (candidate bytes : UInt64) (inside : candidate.toNat ≤ p.size.toNat) :
    candidate.toNat ≤ (collide p bytes candidate).toNat ∧
      (collide p bytes candidate).toNat ≤ p.size.toNat := by
  rw [collide_eq]
  refine ⟨collide_le p candidate bytes slots candidate, ?_⟩
  rcases collide_source p candidate bytes slots candidate with same | ⟨i, live, ends⟩
  · rw [same]
    exact inside
  · rw [ends, limit_word inv i live]
    exact inv.inside i live

theorem collide_free (candidate bytes : UInt64)
    (room : candidate.toNat + bytes.toNat ≤ p.size.toNat)
    (still : collide p bytes candidate = candidate) (i : Fin n) (live : Live p i) :
    limit (p.allocations i) ≤ candidate.toNat ∨
      candidate.toNat + bytes.toNat ≤ (p.allocations i).offset.toNat := by
  by_contra both
  have size := p.size.toNat_lt
  have ends := limit_word inv i live
  have sum : (candidate + bytes).toNat = candidate.toNat + bytes.toNat := add_toNat (by omega)
  have overlaps : Overlaps candidate bytes (p.allocations i) := by
    constructor
    · rw [UInt64.lt_iff_toNat_lt, ends]
      omega
    · rw [UInt64.lt_iff_toNat_lt, sum]
      omega
  have covered := collide_covers p candidate bytes slots candidate i (mem_slots i) live overlaps
  rw [← collide_eq, still, ends] at covered
  omega

/-- The next candidate is the first aligned address past the collision. -/
theorem advance {alignment next address : UInt64} (valid : alignmentValid alignment = true)
    (inside : next.toNat ≤ p.size.toNat)
    (aligned : alignUp (p.va + next) alignment = some address) :
    next.toNat ≤ (address - p.va).toNat ∧
      p.va.toNat + (address - p.va).toNat = address.toNat ∧
      alignment.toNat ∣ p.va.toNat + (address - p.va).toNat := by
  have fits := inv.vaFits
  have sum : (p.va + next).toNat = p.va.toNat + next.toNat := add_toNat (by omega)
  obtain ⟨_, above, _, multiple⟩ := (alignUp_spec valid).1 address aligned
  have back : (address - p.va).toNat = address.toNat - p.va.toNat := sub_toNat (by omega)
  have rejoin : p.va.toNat + (address.toNat - p.va.toNat) = address.toNat := by omega
  rw [back, rejoin]
  exact ⟨by omega, rfl, multiple⟩

/-- What a placement found by the scan satisfies. -/
structure Placed (p : NvVramPool n) (bytes alignment candidate : UInt64) : Prop where
  room : candidate.toNat + bytes.toNat ≤ p.size.toNat
  aligned : alignment.toNat ∣ p.va.toNat + candidate.toNat
  free : ∀ i, Live p i → limit (p.allocations i) ≤ candidate.toNat ∨
    candidate.toNat + bytes.toNat ≤ (p.allocations i).offset.toNat

omit inv in
theorem room_test {candidate bytes : UInt64}
    (test : candidate ≤ p.size ∧ bytes ≤ p.size - candidate) :
    candidate.toNat + bytes.toNat ≤ p.size.toNat := by
  obtain ⟨below, fits⟩ := test
  rw [UInt64.le_iff_toNat_le] at below fits
  rw [sub_toNat below] at fits
  omega

/-- The scan's invariant: the candidate is aligned. A collision moves it up,
so the part of the pool above it measures what is left. -/
def Aligned (p : NvVramPool n) (alignment candidate : UInt64) : Prop :=
  alignment.toNat ∣ p.va.toNat + candidate.toNat

def roomAbove (p : NvVramPool n) (candidate : UInt64) : Nat := p.size.toNat - candidate.toNat

def ScanPost (p : NvVramPool n) (bytes alignment : UInt64) : Option UInt64 → Prop
  | none => True
  | some candidate => Placed p bytes alignment candidate

theorem scan_turn {bytes alignment : UInt64} (valid : alignmentValid alignment = true)
    (positive : 0 < bytes.toNat) (candidate : UInt64) (aligned : Aligned p alignment candidate) :
    Establishes (Aligned p alignment) (roomAbove p) (ScanPost p bytes alignment) candidate
      (scanTurn p bytes alignment candidate) := by
  unfold scanTurn
  by_cases test : candidate ≤ p.size ∧ bytes ≤ p.size - candidate
  · have room := room_test test
    have within := collide_bound inv candidate bytes (by omega)
    have free := collide_free inv candidate bytes room
    rw [if_pos test]
    generalize collide p bytes candidate = next at within free
    by_cases still : next = candidate
    · simp only [if_pos still]
      exact ⟨room, aligned, free still⟩
    · have grown : candidate.toNat ≠ next.toNat :=
        fun same => still (UInt64.toNat_inj.mp same.symm)
      simp only [if_neg still]
      cases rounded : alignUp (p.va + next) alignment with
      | none => trivial
      | some address =>
          obtain ⟨above, _, multiple⟩ := advance inv valid within.2 rounded
          refine ⟨multiple, ?_⟩
          simp only [roomAbove]
          omega
  · rw [if_neg test]
    trivial

/-- The scan ends, with a fit or with none. -/
theorem scan_returns {bytes alignment : UInt64} (valid : alignmentValid alignment = true)
    (positive : 0 < bytes.toNat) (candidate : UInt64) (aligned : Aligned p alignment candidate) :
    ∃ result, whileFuel (scanTurn p bytes alignment) (scanFuel p) candidate = some result ∧
      ScanPost p bytes alignment result :=
  while_returns _ (Aligned p alignment) (roomAbove p) _
    (fun next kept => scan_turn inv valid positive next kept) (scanFuel p) candidate aligned
    (by simp only [roomAbove, scanFuel]; omega)

end Scan

/-! Table searches. -/

theorem findHandle_handle {p : NvVramPool n} {handle : UInt64} {i : Fin n}
    (found : findHandle p handle = some i) : (p.allocations i).handle = handle := by
  simpa using List.find?_some found

theorem findHandle_none {p : NvVramPool n} {handle : UInt64} (missing : findHandle p handle = none)
    (i : Fin n) : (p.allocations i).handle ≠ handle := by
  simpa using List.find?_eq_none.mp missing i (mem_slots i)

theorem findHandle_live {p : NvVramPool n} (inv : PoolInv p) {i : Fin n} (live : Live p i) :
    findHandle p (p.allocations i).handle = some i := by
  cases found : findHandle p (p.allocations i).handle with
  | none => exact absurd rfl (findHandle_none found i)
  | some j => rw [inv.distinct i j live (findHandle_handle found).symm]

theorem freeSlot_empty {p : NvVramPool n} {slot : Fin n} (free : freeSlot p = some slot) :
    ¬ Live p slot := by
  have found := List.find?_some free
  simpa [Live] using found

/-! The pool as a table of leases. -/

def liveAt (p : NvVramPool n) (handle : UInt64) : Option NvVramAllocation :=
  if handle = 0 then none else (findHandle p handle).map p.allocations

def lease (p : NvVramPool n) : Lease.Table UInt64 NvVramAllocation :=
  { live := liveAt p
    issued := fun handle => handle ≠ 0 ∧ handle.toNat < p.nextHandle.toNat }

theorem liveAt_slot {p : NvVramPool n} (inv : PoolInv p) {i : Fin n} (live : Live p i) :
    liveAt p (p.allocations i).handle = some (p.allocations i) := by
  rw [liveAt, if_neg live, findHandle_live inv live, Option.map_some]

theorem liveAt_some {p : NvVramPool n} {handle : UInt64} {a : NvVramAllocation}
    (found : liveAt p handle = some a) :
    ∃ i, Live p i ∧ p.allocations i = a ∧ a.handle = handle := by
  rw [liveAt] at found
  split at found
  · cases found
  rename_i nonzero
  obtain ⟨i, here, rfl⟩ := Option.map_eq_some_iff.mp found
  have same := findHandle_handle here
  exact ⟨i, by rwa [Live, same], rfl, same⟩

theorem liveAt_eq_some {p : NvVramPool n} (inv : PoolInv p) (handle : UInt64)
    (a : NvVramAllocation) :
    liveAt p handle = some a ↔ ∃ i, Live p i ∧ p.allocations i = a ∧ a.handle = handle := by
  constructor
  · exact liveAt_some
  · rintro ⟨i, live, rfl, rfl⟩
    exact liveAt_slot inv live

theorem live_issued {p : NvVramPool n} (inv : PoolInv p) {handle : UInt64} {a : NvVramAllocation}
    (found : liveAt p handle = some a) : (lease p).issued handle := by
  obtain ⟨i, live, rfl, rfl⟩ := liveAt_some found
  exact ⟨live, inv.older i live⟩

theorem sum_update (table : Fin n → NvVramAllocation) (i : Fin n) (a : NvVramAllocation) :
    (∑ j, (Function.update table i a j).size.toNat) + (table i).size.toNat =
      (∑ j, (table j).size.toNat) + a.size.toNat := by
  have after := Finset.add_sum_erase Finset.univ
    (fun j => (Function.update table i a j).size.toNat) (Finset.mem_univ i)
  have older := Finset.add_sum_erase Finset.univ
    (fun j => (table j).size.toNat) (Finset.mem_univ i)
  have rest : ∑ j ∈ Finset.univ.erase i, (Function.update table i a j).size.toNat =
      ∑ j ∈ Finset.univ.erase i, (table j).size.toNat := by
    apply Finset.sum_congr rfl
    intro j member
    rw [Function.update_of_ne (Finset.ne_of_mem_erase member)]
  rw [Function.update_self] at after
  omega

/-! What a successful allocation was checked against. -/

structure Grantable (p : NvVramPool n) (slot : Fin n) (candidate bytes alignment : UInt64) :
    Prop where
  valid : alignmentValid alignment = true
  empty : ¬ Live p slot
  positive : 0 < bytes.toNat
  page : 4096 ∣ bytes.toNat
  budget : p.used.toNat + bytes.toNat ≤ p.size.toNat
  handles : p.nextHandle.toNat + 1 < 2 ^ 64
  placed : Placed p bytes alignment candidate

section Place

variable {p : NvVramPool n} (inv : PoolInv p) {slot : Fin n} {candidate bytes alignment : UInt64}
  (grantable : Grantable p slot candidate bytes alignment)
include inv grantable

theorem candidate_page : 4096 ∣ candidate.toNat := by
  obtain ⟨k, _, wide, shape⟩ := alignment_pow grantable.valid
  have coarse : 2 ^ 12 ∣ alignment.toNat := shape ▸ pow_dvd_pow 2 wide
  exact (Nat.dvd_add_right inv.vaPage).mp (coarse.trans grantable.placed.aligned)

omit inv in
theorem next_handle : (p.nextHandle + 1).toNat = p.nextHandle.toNat + 1 :=
  add_toNat (by have := grantable.handles; rw [UInt64.toNat_one]; omega)

omit grantable in
theorem next_nonzero : p.nextHandle ≠ 0 := by
  intro zero
  have positive := inv.nextPositive
  rw [zero, UInt64.toNat_zero] at positive
  omega

omit inv grantable in
theorem place_slot : (place p slot candidate bytes).allocations slot =
    ⟨p.nextHandle, candidate, bytes⟩ := Function.update_self ..

omit inv grantable in
theorem place_other {i : Fin n} (other : i ≠ slot) :
    (place p slot candidate bytes).allocations i = p.allocations i :=
  Function.update_of_ne other ..

omit inv grantable in
theorem place_other_live {i : Fin n} (other : i ≠ slot) :
    Live (place p slot candidate bytes) i ↔ Live p i := by
  rw [Live, Live, place_other other]

omit inv grantable in
/-- What the grant has and every older record had, every record has. -/
theorem place_each {P : NvVramAllocation → Prop} (granted : P ⟨p.nextHandle, candidate, bytes⟩)
    (older : ∀ i, Live p i → P (p.allocations i)) (i : Fin n)
    (live : Live (place p slot candidate bytes) i) :
    P ((place p slot candidate bytes).allocations i) := by
  by_cases other : i = slot
  · subst i
    rw [place_slot]
    exact granted
  · rw [place_other other]
    exact older i ((place_other_live other).mp live)

omit grantable in
/-- The next handle is past every handle in the table, so it is new. -/
theorem place_distinct (i j : Fin n) (live : Live (place p slot candidate bytes) i)
    (same : ((place p slot candidate bytes).allocations i).handle =
      ((place p slot candidate bytes).allocations j).handle) : i = j := by
  have unissued : ∀ i, Live p i → (p.allocations i).handle ≠ p.nextHandle := by
    intro i live same
    have older := inv.older i live
    rw [same] at older
    omega
  by_cases left : i = slot
  · by_cases right : j = slot
    · rw [left, right]
    · subst i
      rw [place_slot, place_other right] at same
      have alive : Live p j := by
        rw [Live, ← same]
        exact next_nonzero inv
      exact absurd same.symm (unissued j alive)
  · have alive := (place_other_live left).mp live
    by_cases right : j = slot
    · subst j
      rw [place_slot, place_other left] at same
      exact absurd same (unissued i alive)
    · rw [place_other left, place_other right] at same
      exact inv.distinct i j alive same

theorem place_apart (i j : Fin n) (leftLive : Live (place p slot candidate bytes) i)
    (rightLive : Live (place p slot candidate bytes) j) (distinct : i ≠ j) :
    limit ((place p slot candidate bytes).allocations i) ≤
        ((place p slot candidate bytes).allocations j).offset.toNat ∨
      limit ((place p slot candidate bytes).allocations j) ≤
        ((place p slot candidate bytes).allocations i).offset.toNat := by
  by_cases left : i = slot
  · subst i
    have right : j ≠ slot := Ne.symm distinct
    rw [place_slot, place_other right]
    exact (grantable.placed.free j ((place_other_live right).mp rightLive)).symm
  · by_cases right : j = slot
    · subst j
      rw [place_slot, place_other left]
      exact grantable.placed.free i ((place_other_live left).mp leftLive)
    · rw [place_other left, place_other right]
      exact inv.apart i j ((place_other_live left).mp leftLive)
        ((place_other_live right).mp rightLive) distinct

omit inv in
theorem place_used :
    (place p slot candidate bytes).used.toNat = p.used.toNat + bytes.toNat := by
  have budget := grantable.budget
  have bound := p.size.toNat_lt
  exact add_toNat (by omega)

theorem place_inv : PoolInv (place p slot candidate bytes) := by
  have nextHandle := next_handle grantable
  have used := place_used grantable
  refine ⟨inv.vaPage, inv.physPage, inv.sizePage, inv.nonempty, inv.vaFits, inv.physFits, ?_,
    ?_, ?_, place_distinct inv, ?_, ?_, place_apart inv grantable, ?_, ?_⟩
  · change 0 < (p.nextHandle + 1).toNat
    omega
  · intro i dead
    by_cases other : i = slot
    · subst i
      rw [Live, place_slot] at dead
      exact absurd (next_nonzero inv) dead
    · rw [place_other other]
      exact inv.empty i (mt (place_other_live other).mpr dead)
  · change ∀ i, _ → _ < (p.nextHandle + 1).toNat
    rw [nextHandle]
    exact place_each (P := fun a => a.handle.toNat < p.nextHandle.toNat + 1)
      (Nat.lt_succ_self _) fun i live => Nat.lt_succ_of_lt (inv.older i live)
  · exact place_each
      (P := fun a => 0 < a.size.toNat ∧ 4096 ∣ a.size.toNat ∧ 4096 ∣ a.offset.toNat)
      ⟨grantable.positive, grantable.page, candidate_page inv grantable⟩ inv.sized
  · exact place_each (P := fun a => limit a ≤ p.size.toNat) grantable.placed.room inv.inside
  · -- The slot that is filled added nothing to the sum before.
    have vacant : (p.allocations slot).size.toNat = 0 := by
      rw [inv.empty slot grantable.empty]
      rfl
    have total := sum_update p.allocations slot ⟨p.nextHandle, candidate, bytes⟩
    rw [vacant] at total
    rw [used, inv.used_eq]
    exact total.symm
  · rw [used]
    exact grantable.budget

/-- Placing is one grant of the next handle. -/
theorem place_lease : lease (place p slot candidate bytes) =
    (lease p).grant p.nextHandle ⟨p.nextHandle, candidate, bytes⟩ := by
  have after := place_inv inv grantable
  have here : (place p slot candidate bytes).allocations slot =
      ⟨p.nextHandle, candidate, bytes⟩ := place_slot
  have nonzero := next_nonzero inv
  have handles := next_handle grantable
  have positive := inv.nextPositive
  simp only [lease, Lease.Table.grant, Lease.Table.mk.injEq]
  constructor
  · funext handle
    apply Option.ext
    intro a
    rw [liveAt_eq_some after]
    -- The next handle names the new record, every other one what it named before.
    by_cases fresh : handle = p.nextHandle
    · subst handle
      rw [Function.update_self, Option.some.injEq]
      constructor
      · rintro ⟨i, live, rfl, same⟩
        have slotHandle : ((place p slot candidate bytes).allocations slot).handle =
            p.nextHandle := by rw [here]
        rw [after.distinct i slot live (same.trans slotHandle.symm), here]
      · rintro rfl
        exact ⟨slot, by rwa [Live, here], here, rfl⟩
    · rw [Function.update_of_ne fresh, liveAt_eq_some inv]
      constructor
      · rintro ⟨i, live, rfl, same⟩
        have other : i ≠ slot := by
          rintro rfl
          rw [here] at same
          exact fresh same.symm
        rw [Live, place_other other] at live
        exact ⟨i, live, (place_other other).symm, same⟩
      · rintro ⟨i, live, rfl, same⟩
        have other : i ≠ slot := fun hit => grantable.empty (hit ▸ live)
        exact ⟨i, by rwa [Live, place_other other], place_other other, same⟩
  · funext handle
    change (handle ≠ 0 ∧ handle.toNat < (p.nextHandle + 1).toNat) = _
    apply propext
    rw [handles, ne_eq, ← UInt64.toNat_inj, ← UInt64.toNat_inj, UInt64.toNat_zero]
    omega

omit inv grantable in
theorem next_unissued : ¬ (lease p).issued p.nextHandle :=
  fun issued => Nat.lt_irrefl _ issued.2

end Place

section Evict

variable {p : NvVramPool n} (inv : PoolInv p) {i : Fin n} (live : Live p i)
include inv live

omit inv live in
theorem evict_other {j : Fin n} (other : j ≠ i) :
    (evict p i).allocations j = p.allocations j := Function.update_of_ne other ..

omit inv live in
theorem evict_live (j : Fin n) : Live (evict p i) j ↔ j ≠ i ∧ Live p j := by
  by_cases other : j = i
  · subst j
    simp [Live, evict, NvVramAllocation.zero]
  · simp [Live, evict_other other, other]

omit live in
theorem size_le_used : (p.allocations i).size.toNat ≤ p.used.toNat := by
  rw [inv.used_eq]
  exact Finset.single_le_sum (f := fun j => (p.allocations j).size.toNat)
    (fun j _ => Nat.zero_le _) (Finset.mem_univ i)

omit live in
theorem evict_inv : PoolInv (evict p i) := by
  have bound : (p.allocations i).size.toNat ≤ p.used.toNat := size_le_used inv
  have total := sum_update p.allocations i .zero
  have used : (evict p i).used.toNat = p.used.toNat - (p.allocations i).size.toNat :=
    sub_toNat bound
  have zero : NvVramAllocation.zero.size.toNat = 0 := rfl
  refine ⟨inv.vaPage, inv.physPage, inv.sizePage, inv.nonempty, inv.vaFits, inv.physFits,
    inv.nextPositive, ?_, ?_, ?_, ?_, ?_, ?_, ?_, ?_⟩
  · intro j dead
    by_cases other : j = i
    · subst j
      exact Function.update_self ..
    · rw [evict_other other]
      exact inv.empty j fun alive => dead ((evict_live j).mpr ⟨other, alive⟩)
  · intro j alive
    obtain ⟨other, older⟩ := (evict_live j).mp alive
    rw [evict_other other]
    exact inv.older j older
  · intro j k alive same
    obtain ⟨other, older⟩ := (evict_live j).mp alive
    by_cases hit : k = i
    · subst k
      have cleared : ((evict p i).allocations i).handle = 0 := by
        simp [evict, NvVramAllocation.zero]
      rw [cleared] at same
      exact absurd same alive
    · rw [evict_other other, evict_other hit] at same
      exact inv.distinct j k older same
  · intro j alive
    obtain ⟨other, older⟩ := (evict_live j).mp alive
    rw [evict_other other]
    exact inv.sized j older
  · intro j alive
    obtain ⟨other, older⟩ := (evict_live j).mp alive
    rw [evict_other other]
    exact inv.inside j older
  · intro j k leftLive rightLive distinct
    obtain ⟨left, leftOlder⟩ := (evict_live j).mp leftLive
    obtain ⟨right, rightOlder⟩ := (evict_live k).mp rightLive
    rw [evict_other left, evict_other right]
    exact inv.apart j k leftOlder rightOlder distinct
  · -- The sum loses the record's size, which is what is taken from `used`.
    have before := inv.used_eq
    change (evict p i).used.toNat = ∑ j, (Function.update p.allocations i .zero j).size.toNat
    omega
  · have le := inv.used_le
    change (evict p i).used.toNat ≤ p.size.toNat
    omega

/-- Evicting is one release. -/
theorem evict_lease : lease (evict p i) = (lease p).release (p.allocations i).handle := by
  have after : PoolInv (evict p i) := evict_inv inv
  simp only [lease, Lease.Table.release, Lease.Table.mk.injEq]
  refine ⟨?_, rfl⟩
  funext handle
  apply Option.ext
  intro a
  rw [liveAt_eq_some after]
  by_cases hit : handle = (p.allocations i).handle
  · subst handle
    rw [Function.update_self]
    constructor
    · rintro ⟨j, alive, rfl, same⟩
      obtain ⟨other, older⟩ := (evict_live j).mp alive
      rw [evict_other other] at same
      exact absurd (inv.distinct j i older same) other
    · intro missing
      cases missing
  · rw [Function.update_of_ne hit, liveAt_eq_some inv]
    constructor
    · rintro ⟨j, alive, rfl, same⟩
      obtain ⟨other, older⟩ := (evict_live j).mp alive
      rw [evict_other other] at same ⊢
      exact ⟨j, older, rfl, same⟩
    · rintro ⟨j, older, rfl, same⟩
      have other : j ≠ i := by
        rintro rfl
        exact hit same.symm
      exact ⟨j, (evict_live j).mpr ⟨other, older⟩, evict_other other, same⟩

end Evict

/-! What each call does. -/

/-- A handle that is not the last one can be counted up. -/
theorem handle_left {handle : UInt64} (last : handle ≠ uint64Max) :
    handle.toNat + 1 < 2 ^ 64 := by
  have top : uint64Max.toNat = 2 ^ 64 - 1 := by decide
  have differs := mt UInt64.toNat_inj.mp last
  have bound := handle.toNat_lt
  omega

section Calls

variable {p : NvVramPool n} (inv : PoolInv p)
include inv

/-- Allocation returns; it either fails and leaves the pool, or places one
allocation that was checked against the whole table. -/
theorem alloc_spec (bytes alignment : UInt64) :
    (∃ rc : Int, rc < 0 ∧ nvVramAlloc p bytes alignment = some (rc, 0, p)) ∨
      ∃ slot candidate rounded, alignUp bytes nvVramPageBytes = some rounded ∧
        Grantable p slot candidate rounded alignment ∧
        nvVramAlloc p bytes alignment =
          some (0, p.nextHandle, place p slot candidate rounded) := by
  unfold nvVramAlloc
  by_cases bad : p.size = 0 ∨ bytes = 0 ∨ ¬ alignmentValid alignment
  · rw [if_pos bad]
    exact Or.inl ⟨-1, by omega, rfl⟩
  rw [if_neg bad]
  simp only [not_or, not_not] at bad
  obtain ⟨_, nonzero, valid⟩ := bad
  cases rounding : alignUp bytes nvVramPageBytes with
  | none => exact Or.inl ⟨-1, by omega, rfl⟩
  | some rounded =>
  obtain ⟨_, larger, _, page⟩ := (alignUp_spec page_valid).1 rounded rounding
  have positive : 0 < rounded.toNat := Nat.lt_of_lt_of_le (pos_toNat nonzero) larger
  simp only
  split
  · exact Or.inl ⟨-2, by omega, rfl⟩
  rename_i admitted
  simp only [not_or, gt_iff_lt, UInt64.not_lt] at admitted
  obtain ⟨_, last, _, budget⟩ := admitted
  rw [UInt64.le_iff_toNat_le, sub_toNat inv.used_le] at budget
  have usedLe := inv.used_le
  cases free : freeSlot p with
  | none => exact Or.inl ⟨-2, by omega, rfl⟩
  | some slot =>
  cases start : alignUp p.va alignment with
  | none => exact Or.inl ⟨-2, by omega, rfl⟩
  | some address =>
  -- The search starts at the first aligned address of the pool, as an offset.
  obtain ⟨_, above, _, multiple⟩ := (alignUp_spec valid).1 address start
  have back : (address - p.va).toNat = address.toNat - p.va.toNat := sub_toNat above
  have aligned : Aligned p alignment (address - p.va) := by
    rw [Aligned, back, Nat.add_sub_cancel' above]
    exact multiple
  obtain ⟨result, ended, post⟩ := scan_returns inv valid positive (address - p.va) aligned
  simp only [ended, Option.map_some]
  cases result with
  | none => exact Or.inl ⟨-2, by omega, rfl⟩
  | some candidate =>
  refine Or.inr ⟨slot, candidate, rounded, rfl, ?_, rfl⟩
  exact {
    valid := valid
    empty := freeSlot_empty free
    positive := positive
    page := page
    budget := by omega
    handles := handle_left last
    placed := post }

omit inv in
theorem free_spec (handle : UInt64) :
    (nvVramFree p handle = (-1, p) ∧ liveAt p handle = none) ∨
      ∃ i, Live p i ∧ (p.allocations i).handle = handle ∧
        nvVramFree p handle = (0, evict p i) := by
  unfold nvVramFree liveAt
  by_cases zero : handle = 0
  · simp only [if_pos zero]
    exact Or.inl ⟨trivial, trivial⟩
  · simp only [if_neg zero]
    cases found : findHandle p handle with
    | none => exact Or.inl ⟨rfl, rfl⟩
    | some i =>
        have same := findHandle_handle found
        exact Or.inr ⟨i, by rwa [Live, same], same, rfl⟩

omit inv in
/-- Resolution reads nothing of the pool but its bases and the lease. -/
theorem resolve_spec (handle offset bytes : UInt64) :
    nvVramResolve p handle offset bytes =
      match liveAt p handle with
      | none => (-1, 0, 0)
      | some a =>
        if bytes = 0 ∨ offset > a.size ∨ bytes > a.size - offset then (-1, 0, 0)
        else (0, p.phys + a.offset + offset, p.va + a.offset + offset) := by
  unfold nvVramResolve liveAt
  by_cases zero : handle = 0
  · rw [if_pos (Or.inl zero), if_pos zero]
  rw [if_neg zero]
  by_cases empty : bytes = 0
  · rw [if_pos (Or.inr empty)]
    cases findHandle p handle with
    | none => rfl
    | some i =>
        simp only [Option.map_some]
        rw [if_pos (Or.inl empty)]
  · rw [if_neg (by rintro (hit | hit) <;> contradiction)]
    cases findHandle p handle with
    | none => rfl
    | some i => simp only [Option.map_some, empty, false_or]

/-- A resolved range lies inside one live allocation; both addresses are exact. -/
theorem resolve_inside {handle offset bytes phys va : UInt64}
    (resolved : nvVramResolve p handle offset bytes = (0, phys, va)) :
    ∃ i, Live p i ∧ (p.allocations i).handle = handle ∧ 0 < bytes.toNat ∧
      offset.toNat + bytes.toNat ≤ (p.allocations i).size.toNat ∧
      phys.toNat = p.phys.toNat + (p.allocations i).offset.toNat + offset.toNat ∧
      va.toNat = p.va.toNat + (p.allocations i).offset.toNat + offset.toNat := by
  rw [resolve_spec] at resolved
  cases found : liveAt p handle with
  | none => simp [found] at resolved
  | some a =>
  obtain ⟨i, live, rfl, same⟩ := liveAt_some found
  simp only [found] at resolved
  split at resolved
  · simp at resolved
  rename_i admitted
  simp only [not_or, gt_iff_lt, UInt64.not_lt] at admitted
  obtain ⟨nonzero, below, room⟩ := admitted
  rw [UInt64.le_iff_toNat_le] at below room
  rw [sub_toNat below] at room
  have positive := pos_toNat nonzero
  have inside := inv.inside i live
  have vaFits := inv.vaFits
  have physFits := inv.physFits
  rw [limit] at inside
  simp only [Prod.mk.injEq, true_and] at resolved
  obtain ⟨rfl, rfl⟩ := resolved
  have physBase := add_toNat (x := p.phys) (y := (p.allocations i).offset) (by omega)
  have vaBase := add_toNat (x := p.va) (y := (p.allocations i).offset) (by omega)
  refine ⟨i, live, same, by omega, by omega, ?_, ?_⟩
  · rw [add_toNat (by omega), physBase]
  · rw [add_toNat (by omega), vaBase]

end Calls

end GspDriver.VramPool
