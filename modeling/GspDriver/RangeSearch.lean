import GspDriver.VramRange
import GspDriver.VramArith

/-!
A call of `nv_vram_find_range` as a whole. The return code says whether the
input is valid and whether a place exists; the place is the lowest of the first
span that has one. Of the call's arithmetic only the sum in `align_up` can
leave the word, and then by exactly one address space.
-/

namespace GspDriver.RangeSearch

open Loop Words FirstFit Vram VramPool VramArith VramRange

/-! The arithmetic of a call, in order. -/

def spanValidArith (span : NvVramSpan) : List Arith :=
  if span.size = 0 then [] else [.sub uint64Max span.base]

/-- The checks end at the first span refused. -/
def spansValidArith : List NvVramSpan → List Arith
  | [] => []
  | span :: rest =>
      spanValidArith span ++ if spanValid span.base span.size then spansValidArith rest else []

def raiseSpanArith (candidate bytes : UInt64) (ex : NvVramSpan) : List Arith :=
  .add ex.base ex.size :: if candidate < ex.base + ex.size then [.add candidate bytes] else []

def spanTurnArith (excluded : List NvVramSpan) (bytes alignment end_ : UInt64) :
    Option UInt64 → List Arith
  | none => []
  | some candidate =>
      (if candidate ≤ end_ then [.sub end_ candidate] else []) ++
        if candidate ≤ end_ ∧ bytes ≤ end_ - candidate then
          let next := avoid excluded bytes candidate
          excluded.flatMap (raiseSpanArith candidate bytes) ++
            if next = candidate then [] else alignUpArith next alignment
        else []

def searchSpansArith (fuel : Nat) (excluded : List NvVramSpan) (bytes alignment : UInt64) :
    List NvVramSpan → List Arith
  | [] => []
  | span :: rest =>
      .add span.base span.size :: alignUpArith span.base alignment ++
        whileLog (spanTurn excluded bytes alignment (span.base + span.size))
          (spanTurnArith excluded bytes alignment (span.base + span.size)) fuel
          (alignUp span.base alignment) ++
        match searchSpan fuel excluded bytes alignment span with
        | some none => searchSpansArith fuel excluded bytes alignment rest
        | _ => []

def findRangeArith (available excluded : List NvVramSpan) (bytes alignment : UInt64) :
    List Arith :=
  if available = [] ∨ bytes = 0 then []
  else alignmentArith alignment ++
    if ¬ alignmentValid alignment then []
    else .sub nvVramPageBytes 1 ::
      if (bytes &&& (nvVramPageBytes - 1)) ≠ 0 then []
      else spansValidArith available ++
        if ¬ spansValid available then []
        else spansValidArith excluded ++
          if ¬ spansValid excluded then []
          else searchSpansArith rangeFuel excluded bytes alignment available

theorem spansValidArith_exact (spans : List NvVramSpan) : AllExact (spansValidArith spans) := by
  induction spans with
  | nil => exact exact_nil
  | cons span rest ih =>
      have base := span.base.toNat_lt
      have top : uint64Max.toNat = 2 ^ 64 - 1 := by decide
      apply exact_append
      · rw [spanValidArith]
        split
        · exact exact_nil
        · exact exact_cons (sub_exact (by omega)) exact_nil
      · split
        · exact ih
        · exact exact_nil

section Arithmetic

variable {excluded : List NvVramSpan} {bytes alignment : UInt64}
  (valid : alignmentValid alignment = true) (sound : ∀ ex ∈ excluded, ex.Sound)
include valid sound

theorem spanTurnArith_exact (end_ : UInt64) (state : Option UInt64) :
    AllExact (spanTurnArith excluded bytes alignment end_ state) := by
  cases state with
  | none => exact exact_nil
  | some candidate =>
  have word := end_.toNat_lt
  apply exact_append
  · split
    · rename_i below
      exact exact_cons (sub_exact (UInt64.le_iff_toNat_le.mp below)) exact_nil
    · exact exact_nil
  split
  · rename_i test
    obtain ⟨below, fits⟩ := test
    rw [UInt64.le_iff_toNat_le] at below fits
    rw [sub_toNat below] at fits
    apply exact_append
    · intro step member
      obtain ⟨ex, here, inside⟩ := List.mem_flatMap.mp member
      -- the candidate's end is below the span's end, a word by the check before
      have exact : AllExact (raiseSpanArith candidate bytes ex) := by
        apply exact_cons (add_exact (sound ex here).2)
        split
        · exact exact_cons (add_exact (by omega)) exact_nil
        · exact exact_nil
      exact exact step inside
    · split
      · exact exact_nil
      · exact alignUpArith_exact valid
  · exact exact_nil

theorem searchSpansArith_exact (fuel : Nat) (available : List NvVramSpan)
    (usable : ∀ span ∈ available, span.Sound) :
    AllExact (searchSpansArith fuel excluded bytes alignment available) := by
  induction available with
  | nil => exact exact_nil
  | cons span rest ih =>
      apply exact_append
      · apply exact_append
        · exact exact_cons (add_exact (usable span List.mem_cons_self).2) (alignUpArith_exact valid)
        · exact while_logs _ _ (fun _ => True) Arith.Exact (fun _ _ _ _ => trivial)
            (fun state _ => spanTurnArith_exact valid sound _ state) _ _ trivial
      · split
        · exact ih fun other member => usable other (List.mem_cons_of_mem _ member)
        · exact exact_nil

end Arithmetic

theorem findRangeArith_exact (available excluded : List NvVramSpan) (bytes alignment : UInt64) :
    AllExact (findRangeArith available excluded bytes alignment) := by
  unfold findRangeArith
  split
  · exact exact_nil
  apply exact_append (alignmentArith_exact alignment)
  split
  · exact exact_nil
  rename_i valid
  rw [not_not] at valid
  apply exact_cons (sub_exact (by decide))
  split
  · exact exact_nil
  apply exact_append (spansValidArith_exact available)
  split
  · exact exact_nil
  rename_i usable
  rw [not_not] at usable
  apply exact_append (spansValidArith_exact excluded)
  split
  · exact exact_nil
  rename_i sound
  rw [not_not] at sound
  exact searchSpansArith_exact valid ((spansValid_iff excluded).mp sound) rangeFuel available
    ((spansValid_iff available).mp usable)

/-! Valid input, in numbers. -/

structure Valid (available excluded : List NvVramSpan) (bytes alignment : Nat) : Prop where
  some_spans : available ≠ []
  positive : 0 < bytes
  aligned : ∃ k, 12 ≤ k ∧ alignment = 2 ^ k
  page : 4096 ∣ bytes
  usable : ∀ span ∈ available, 0 < span.size.toNat ∧ span.limit < 2 ^ 64
  sound : ∀ ex ∈ excluded, 0 < ex.size.toNat ∧ ex.limit < 2 ^ 64

theorem valid_iff (available excluded : List NvVramSpan) (bytes alignment : UInt64) :
    Valid available excluded bytes.toNat alignment.toNat ↔
      Searchable available excluded bytes alignment := by
  constructor
  · intro valid
    exact ⟨valid.some_spans, valid.positive, (alignmentValid_iff alignment).mpr valid.aligned,
      valid.page, valid.usable, valid.sound⟩
  · intro searchable
    exact ⟨searchable.some_spans, searchable.positive,
      (alignmentValid_iff alignment).mp searchable.aligned, searchable.page, searchable.usable,
      searchable.sound⟩

/-- The lowest place of the first span that has one. -/
def FirstPlace (available excluded : List NvVramSpan) (bytes alignment base : Nat) : Prop :=
  ∃ before span after, available = before ++ span :: after ∧
    (∀ earlier ∈ before, ∀ place, ¬ FitsIn excluded bytes alignment earlier place) ∧
    IsLeast {place | FitsIn excluded bytes alignment span place} base

/-- The call ends on every input, and its code and position are those of the
first span with a place. -/
theorem range_search_exact (available excluded : List NvVramSpan) (bytes alignment : UInt64) :
    (∃ rc out, nvVramFindRange available excluded bytes alignment = some (rc, out) ∧
      (rc = -1 ↔ ¬ Valid available excluded bytes.toNat alignment.toNat) ∧
      (Valid available excluded bytes.toNat alignment.toNat →
        (rc = 0 ∨ rc = -2) ∧
        (rc = -2 ↔ ∀ span ∈ available, ∀ place,
          ¬ FitsIn excluded bytes.toNat alignment.toNat span place)) ∧
      (rc = 0 → out.size = bytes ∧
        FirstPlace available excluded bytes.toNat alignment.toNat out.base.toNat) ∧
      (rc ≠ 0 → out = .zero)) ∧
    ∀ step ∈ findRangeArith available excluded bytes alignment, step.Wraps →
      ∃ value up, (step = .sumUp value up ∨ step = .decUp value up) ∧
        value.toNat + up.toNat = 2 ^ 64 ∧
        (value + up - 1).toNat = value.toNat + up.toNat - 1 := by
  constructor
  · by_cases valid : Valid available excluded bytes.toNat alignment.toNat
    · obtain ⟨result, found, returned⟩ := findRange_returns ((valid_iff _ _ _ _).mp valid)
      cases result with
      | none =>
          refine ⟨-2, .zero, returned, ?_, ?_, ?_, fun _ => rfl⟩
          · exact ⟨fun rc => absurd rc (by decide), fun refused => absurd valid refused⟩
          · exact fun _ => ⟨Or.inr rfl, fun _ => found, fun _ => rfl⟩
          · exact fun rc => absurd rc (by decide)
      | some base =>
          obtain ⟨before, span, after, shape, missed, here⟩ := found
          refine ⟨0, ⟨base, bytes⟩, returned, ?_, ?_, ?_, fun rc => absurd rfl rc⟩
          · exact ⟨fun rc => absurd rc (by decide), fun refused => absurd valid refused⟩
          · refine fun _ => ⟨Or.inl rfl, fun rc => absurd rc (by decide), fun empty => ?_⟩
            have member : span ∈ available := shape ▸ List.mem_append_right _ List.mem_cons_self
            exact absurd here.1 (empty span member base.toNat)
          · exact fun _ => ⟨rfl, before, span, after, shape, missed, here⟩
    · have refused := findRange_refuses (mt (valid_iff _ _ _ _).mpr valid)
      refine ⟨-1, .zero, refused, ⟨fun _ => valid, fun _ => rfl⟩, ?_, ?_, fun _ => rfl⟩
      · exact fun admitted => absurd admitted valid
      · exact fun rc => absurd rc (by decide)
  · intro step member wraps
    have exact := findRangeArith_exact available excluded bytes alignment step member
    exact exact_wraps exact wraps

/-- A span at the last multiple of the alignment: the two make `2 ^ 64`. -/
def lastSpan : NvVramSpan := ⟨0xffffffffffff0000, 0x2000⟩

theorem range_sum_wraps :
    ¬ ∀ (available excluded : List NvVramSpan) (bytes alignment : UInt64) (out : NvVramSpan),
      nvVramFindRange available excluded bytes alignment = some (0, out) →
      ∀ step ∈ findRangeArith available excluded bytes alignment, ¬ step.Wraps := by
  intro claim
  have placed : nvVramFindRange [lastSpan] [] 0x1000 0x10000 =
      some (0, ⟨0xffffffffffff0000, 0x1000⟩) := by
    decide +kernel
  apply claim [lastSpan] [] 0x1000 0x10000 _ placed (.sumUp 0xffffffffffff0000 0x10000)
  · decide +kernel
  · change 2 ^ 64 ≤ _
    decide +kernel

end GspDriver.RangeSearch
