import GspDriver.VramPool
import GspDriver.Base.FirstFit

/-!
`nv_vram_find_range` of vram.c: the first position in the listed spans that
avoids all exclusions. Spans are half open and in bytes. Fuel bounds the rounds
of each inner search.
-/

namespace GspDriver.VramRange

open Loop Words FirstFit Vram VramPool

structure NvVramSpan where
  base : UInt64
  size : UInt64
  deriving DecidableEq

def NvVramSpan.zero : NvVramSpan := ⟨0, 0⟩

/-- One step of the exclusion loop: `next` moves past an exclusion in the way. -/
def raiseSpan (candidate bytes next : UInt64) (ex : NvVramSpan) : UInt64 :=
  let exEnd := ex.base + ex.size
  if candidate < exEnd ∧ ex.base < candidate + bytes ∧ exEnd > next then exEnd else next

def avoid (excluded : List NvVramSpan) (bytes candidate : UInt64) : UInt64 :=
  excluded.foldl (raiseSpan candidate bytes) candidate

/-- A round of the search; the candidate is `none` when it did not round up. -/
def spanTurn (excluded : List NvVramSpan) (bytes alignment end_ : UInt64) :
    Option UInt64 → Turn (Option UInt64) (Option UInt64)
  | none => .stop none
  | some candidate =>
      if candidate ≤ end_ ∧ bytes ≤ end_ - candidate then
        let next := avoid excluded bytes candidate
        if next = candidate then .stop (some candidate) else .again (alignUp next alignment)
      else .stop none

def searchSpan (fuel : Nat) (excluded : List NvVramSpan) (bytes alignment : UInt64)
    (span : NvVramSpan) : Option (Option UInt64) :=
  whileFuel (spanTurn excluded bytes alignment (span.base + span.size)) fuel
    (alignUp span.base alignment)

def searchSpans (fuel : Nat) (excluded : List NvVramSpan) (bytes alignment : UInt64) :
    List NvVramSpan → Option (Option UInt64)
  | [] => some none
  | span :: rest =>
      match searchSpan fuel excluded bytes alignment span with
      | none => none
      | some (some base) => some (some base)
      | some none => searchSpans fuel excluded bytes alignment rest

/-- More rounds than there are addresses. -/
def rangeFuel : Nat := 2 ^ 64 + 1

def spansValid (spans : List NvVramSpan) : Bool := spans.all fun span => spanValid span.base span.size

/-- Return code and `*out`; `none` when a search has not ended. -/
def nvVramFindRange (available excluded : List NvVramSpan) (bytes alignment : UInt64) :
    Option (Int × NvVramSpan) :=
  if available = [] ∨ bytes = 0 ∨ ¬ alignmentValid alignment ∨
      (bytes &&& (nvVramPageBytes - 1)) ≠ 0 then some (-1, .zero)
  else if ¬ spansValid available then some (-1, .zero)
  else if ¬ spansValid excluded then some (-1, .zero)
  else (searchSpans rangeFuel excluded bytes alignment available).map fun
    | some base => (0, ⟨base, bytes⟩)
    | none => (-2, .zero)

/-- A power of two, at least a page. -/
theorem alignmentValid_iff (alignment : UInt64) :
    alignmentValid alignment = true ↔ ∃ k, 12 ≤ k ∧ alignment.toNat = 2 ^ k := by
  constructor
  · intro valid
    obtain ⟨k, _, wide, shape⟩ := alignment_pow valid
    exact ⟨k, wide, shape⟩
  · rintro ⟨k, wide, shape⟩
    have positive := Nat.two_pow_pos k
    have page : nvVramPageBytes.toNat = 2 ^ 12 := by decide
    have large : 2 ^ 12 ≤ 2 ^ k := Nat.pow_le_pow_right (by omega) wide
    have pred : (alignment - 1).toNat = 2 ^ k - 1 := by
      rw [sub_toNat (by rw [shape, UInt64.toNat_one]; omega), shape, UInt64.toNat_one]
    have test : alignment &&& (alignment - 1) = 0 := by
      apply UInt64.toNat_inj.mp
      rw [and_mask_toNat alignment pred, shape, Nat.mod_self, UInt64.toNat_zero]
    simp only [alignmentValid, Bool.and_eq_true, decide_eq_true_eq, beq_iff_eq,
      UInt64.le_iff_toNat_le]
    exact ⟨by omega, test⟩

/-- A base that does not round up has no multiple above it. -/
theorem alignUp_none {value alignment : UInt64} (valid : alignmentValid alignment = true)
    (refused : alignUp value alignment = none) {place : Nat} (aligned : alignment.toNat ∣ place)
    (above : value.toNat ≤ place) : 2 ^ 64 ≤ place := by
  obtain ⟨k, small, _, shape⟩ := alignment_pow valid
  have large := (alignUp_spec valid).2 refused
  have positive := Nat.two_pow_pos k
  have whole : alignment.toNat ∣ 2 ^ 64 := shape ▸ Nat.pow_dvd_pow 2 (by omega)
  exact round_below whole (by omega) aligned above

/-! The search over machine words is the first fit over natural numbers. -/

def NvVramSpan.limit (span : NvVramSpan) : Nat := span.base.toNat + span.size.toNat

def NvVramSpan.block (span : NvVramSpan) : Block := ⟨span.base.toNat, span.limit⟩

/-- Nonempty, with an end that is a machine word. -/
def NvVramSpan.Sound (span : NvVramSpan) : Prop := 0 < span.size.toNat ∧ span.limit < 2 ^ 64

theorem spanValid_iff (span : NvVramSpan) :
    spanValid span.base span.size = true ↔ span.Sound := by
  have base := span.base.toNat_lt
  have top : uint64Max.toNat = 2 ^ 64 - 1 := by decide
  have zero : span.size ≠ 0 ↔ 0 < span.size.toNat := by
    rw [Nat.pos_iff_ne_zero, ne_eq, ne_eq, ← UInt64.toNat_inj, UInt64.toNat_zero]
  simp only [spanValid, Bool.and_eq_true, decide_eq_true_eq, NvVramSpan.Sound, NvVramSpan.limit,
    zero, UInt64.le_iff_toNat_le]
  rw [sub_toNat (by omega), top]
  omega

theorem spansValid_iff (spans : List NvVramSpan) :
    spansValid spans = true ↔ ∀ span ∈ spans, span.Sound := by
  simp only [spansValid, List.all_eq_true, spanValid_iff]

theorem sound_end {span : NvVramSpan} (sound : span.Sound) :
    (span.base + span.size).toNat = span.limit :=
  add_toNat sound.2

/-- A position for `bytes` in the span. -/
structure FitsIn (excluded : List NvVramSpan) (bytes alignment : Nat) (span : NvVramSpan)
    (place : Nat) : Prop where
  aligned : alignment ∣ place
  above : span.base.toNat ≤ place
  room : place + bytes ≤ span.limit
  clear : Clear (excluded.map NvVramSpan.block) bytes place

section Search

variable {excluded : List NvVramSpan} {bytes alignment : UInt64}

theorem raiseSpan_toNat {ex : NvVramSpan} (sound : ex.Sound) {candidate : UInt64}
    (fits : candidate.toNat + bytes.toNat < 2 ^ 64) (next : UInt64) :
    (raiseSpan candidate bytes next ex).toNat =
      past candidate.toNat bytes.toNat next.toNat ex.block := by
  have ends := sound_end sound
  have same : (candidate < ex.base + ex.size ∧ ex.base < candidate + bytes ∧
      ex.base + ex.size > next) ↔ (candidate.toNat < ex.block.limit ∧
        ex.block.first < candidate.toNat + bytes.toNat ∧ next.toNat < ex.block.limit) := by
    rw [gt_iff_lt, UInt64.lt_iff_toNat_lt, UInt64.lt_iff_toNat_lt, UInt64.lt_iff_toNat_lt, ends,
      add_toNat fits]
    exact Iff.rfl
  by_cases way : candidate < ex.base + ex.size ∧ ex.base < candidate + bytes ∧
      ex.base + ex.size > next
  · simp only [raiseSpan, past, if_pos way, if_pos (same.mp way)]
    exact ends
  · simp only [raiseSpan, past, if_neg way, if_neg (mt same.mpr way)]

theorem avoid_toNat (sound : ∀ ex ∈ excluded, ex.Sound) {candidate : UInt64}
    (fits : candidate.toNat + bytes.toNat < 2 ^ 64) :
    (avoid excluded bytes candidate).toNat =
      sweep (excluded.map NvVramSpan.block) bytes.toNat candidate.toNat := by
  have folded : ∀ next : UInt64,
      (excluded.foldl (raiseSpan candidate bytes) next).toNat =
        (excluded.map NvVramSpan.block).foldl (past candidate.toNat bytes.toNat) next.toNat := by
    induction excluded with
    | nil => exact fun _ => rfl
    | cons ex rest ih =>
        intro next
        rw [List.foldl_cons, List.map_cons, List.foldl_cons,
          ih fun other member => sound other (List.mem_cons_of_mem _ member),
          raiseSpan_toNat (sound ex List.mem_cons_self) fits]
  exact folded candidate

/-- What the search of one span finds. -/
def Found (excluded : List NvVramSpan) (bytes alignment : UInt64) (span : NvVramSpan) :
    Option UInt64 → Prop
  | none => ∀ place, ¬ FitsIn excluded bytes.toNat alignment.toNat span place
  | some base => FitsIn excluded bytes.toNat alignment.toNat span base.toNat ∧
      ∀ place, FitsIn excluded bytes.toNat alignment.toNat span place → base.toNat ≤ place

/-- The search's invariant: the candidate is aligned, and no position has been passed. -/
def Scanning (excluded : List NvVramSpan) (bytes alignment : UInt64) (span : NvVramSpan) :
    Option UInt64 → Prop
  | none => ∀ place, ¬ FitsIn excluded bytes.toNat alignment.toNat span place
  | some candidate => alignment.toNat ∣ candidate.toNat ∧ span.base.toNat ≤ candidate.toNat ∧
      ∀ place, FitsIn excluded bytes.toNat alignment.toNat span place → candidate.toNat ≤ place

def distanceLeft (end_ : UInt64) : Option UInt64 → Nat
  | none => 0
  | some candidate => end_.toNat - candidate.toNat + 1

variable (valid : alignmentValid alignment = true) (positive : 0 < bytes.toNat)
  (sound : ∀ ex ∈ excluded, ex.Sound)
include valid

/-- Rounding up keeps the invariant. -/
theorem round_scanning {span : NvVramSpan} (inside : span.Sound) {value : UInt64}
    (above : span.base.toNat ≤ value.toNat)
    (passed : ∀ place, FitsIn excluded bytes.toNat alignment.toNat span place →
      value.toNat ≤ place) :
    Scanning excluded bytes alignment span (alignUp value alignment) := by
  cases rounded : alignUp value alignment with
  | none =>
      intro place fits
      have limit := inside.2
      have room := fits.room
      have beyond := alignUp_none valid rounded fits.aligned (passed place fits)
      omega
  | some address =>
      obtain ⟨_, higher, near, multiple⟩ := (alignUp_spec valid).1 address rounded
      exact ⟨multiple, Nat.le_trans above higher, fun place fits =>
        round_below multiple near fits.aligned (passed place fits)⟩

include positive sound

theorem span_turn {span : NvVramSpan} (inside : span.Sound) {end_ : UInt64}
    (ends : end_.toNat = span.limit) (state : Option UInt64)
    (scanning : Scanning excluded bytes alignment span state) :
    Establishes (Scanning excluded bytes alignment span) (distanceLeft end_)
      (Found excluded bytes alignment span) state
      (spanTurn excluded bytes alignment end_ state) := by
  cases state with
  | none => exact scanning
  | some candidate =>
  obtain ⟨aligned, above, lowest⟩ := scanning
  have word := end_.toNat_lt
  simp only [spanTurn]
  by_cases test : candidate ≤ end_ ∧ bytes ≤ end_ - candidate
  · have room : candidate.toNat + bytes.toNat ≤ end_.toNat := by
      obtain ⟨below, fits⟩ := test
      rw [UInt64.le_iff_toNat_le] at below fits
      rw [sub_toNat below] at fits
      omega
    have swept := @avoid_toNat _ bytes sound candidate (by omega)
    have grows := sweep_le (excluded.map NvVramSpan.block) bytes.toNat candidate.toNat
    rw [if_pos test]
    generalize avoid excluded bytes candidate = next at swept
    -- Where the exclusions do not move the candidate, it is clear of them all.
    by_cases still : next = candidate
    · rw [if_pos still]
      subst next
      exact ⟨⟨aligned, above, ends ▸ room, clear_of_still _ _ _ swept.symm⟩, lowest⟩
    · have moved : candidate.toNat < next.toNat := by
        have differs := mt UInt64.toNat_inj.mp still
        omega
      rw [if_neg still]
      constructor
      · apply round_scanning valid inside (by omega)
        intro place fits
        exact swept ▸ sweep_below fits.clear (lowest place fits)
      · cases rounded : alignUp next alignment with
        | none => simp only [distanceLeft]; omega
        | some address =>
            obtain ⟨_, higher, _⟩ := (alignUp_spec valid).1 address rounded
            simp only [distanceLeft]
            omega
  -- The test fails: the lowest place left lies too near to the span's end.
  · rw [if_neg test]
    intro place fits
    have first := lowest place fits
    have room := fits.room
    have below : candidate.toNat ≤ end_.toNat := by omega
    apply test
    rw [UInt64.le_iff_toNat_le, UInt64.le_iff_toNat_le, sub_toNat below]
    omega

theorem span_search {fuel : Nat} (enough : 2 ^ 64 < fuel) {span : NvVramSpan}
    (inside : span.Sound) :
    ∃ result, searchSpan fuel excluded bytes alignment span = some result ∧
      Found excluded bytes alignment span result := by
  have ends := sound_end inside
  have word := (span.base + span.size).toNat_lt
  have start := @round_scanning excluded bytes alignment valid span inside span.base
    (Nat.le_refl _) (fun place fits => fits.above)
  have rounds : distanceLeft (span.base + span.size) (alignUp span.base alignment) < fuel := by
    cases alignUp span.base alignment with
    | none => simp only [distanceLeft]; omega
    | some candidate => simp only [distanceLeft]; omega
  exact while_returns _ (Scanning excluded bytes alignment span) _ _
    (fun state kept => span_turn valid positive sound inside ends state kept) _ _ start rounds

/-- What the search of a list of spans finds: the lowest position of the first
span that has one. -/
def FoundIn (excluded : List NvVramSpan) (bytes alignment : UInt64) (available : List NvVramSpan) :
    Option UInt64 → Prop
  | none => ∀ span ∈ available, Found excluded bytes alignment span none
  | some base => ∃ before span after, available = before ++ span :: after ∧
      (∀ earlier ∈ before, Found excluded bytes alignment earlier none) ∧
      Found excluded bytes alignment span (some base)

omit valid positive sound in
theorem foundIn_later {span : NvVramSpan} {rest : List NvVramSpan}
    (missing : Found excluded bytes alignment span none) {result : Option UInt64}
    (later : FoundIn excluded bytes alignment rest result) :
    FoundIn excluded bytes alignment (span :: rest) result := by
  cases result with
  | none =>
      intro other member
      rcases List.mem_cons.mp member with here | there
      · exact here ▸ missing
      · exact later other there
  | some base =>
      obtain ⟨before, hit, after, shape, none, found⟩ := later
      refine ⟨span :: before, hit, after, by rw [shape, List.cons_append], ?_, found⟩
      intro other member
      rcases List.mem_cons.mp member with here | there
      · exact here ▸ missing
      · exact none other there

theorem search_spans {fuel : Nat} (enough : 2 ^ 64 < fuel) (available : List NvVramSpan)
    (usable : ∀ span ∈ available, span.Sound) :
    ∃ result, searchSpans fuel excluded bytes alignment available = some result ∧
      FoundIn excluded bytes alignment available result := by
  induction available with
  | nil => exact ⟨none, rfl, by simp [FoundIn]⟩
  | cons span rest ih =>
      obtain ⟨result, searched, here⟩ :=
        span_search valid positive sound enough (usable span List.mem_cons_self)
      obtain ⟨later, ended, found⟩ :=
        ih fun other member => usable other (List.mem_cons_of_mem _ member)
      rw [searchSpans, searched]
      cases result with
      | none => exact ⟨later, ended, foundIn_later here found⟩
      | some base => exact ⟨some base, rfl, [], span, rest, rfl, by simp, here⟩

end Search

/-- The arguments `nv_vram_find_range` accepts. -/
structure Searchable (available excluded : List NvVramSpan) (bytes alignment : UInt64) : Prop where
  some_spans : available ≠ []
  positive : 0 < bytes.toNat
  aligned : alignmentValid alignment = true
  page : 4096 ∣ bytes.toNat
  usable : ∀ span ∈ available, span.Sound
  sound : ∀ ex ∈ excluded, ex.Sound

theorem findRange_refuses {available excluded : List NvVramSpan} {bytes alignment : UInt64}
    (refused : ¬ Searchable available excluded bytes alignment) :
    nvVramFindRange available excluded bytes alignment = some (-1, .zero) := by
  unfold nvVramFindRange
  split
  · rfl
  rename_i admitted
  simp only [not_or, not_not] at admitted
  split
  · rfl
  rename_i usable
  split
  · rfl
  rename_i sound
  rw [not_not] at usable sound
  exfalso
  apply refused
  obtain ⟨spans, nonzero, aligned, page⟩ := admitted
  constructor
  · exact spans
  · exact pos_toNat nonzero
  · exact aligned
  · exact dvd_of_and_mask (k := 12) (by decide) page
  · exact (spansValid_iff available).mp usable
  · exact (spansValid_iff excluded).mp sound

theorem findRange_returns {available excluded : List NvVramSpan} {bytes alignment : UInt64}
    (searchable : Searchable available excluded bytes alignment) :
    ∃ result, FoundIn excluded bytes alignment available result ∧
      nvVramFindRange available excluded bytes alignment = some (match result with
        | some base => (0, ⟨base, bytes⟩)
        | none => (-2, .zero)) := by
  obtain ⟨spans, positive, aligned, page, usable, sound⟩ := searchable
  obtain ⟨result, searched, found⟩ := search_spans aligned positive sound
    (show 2 ^ 64 < rangeFuel from Nat.lt_succ_self _) available usable
  refine ⟨result, found, ?_⟩
  have nonzero : bytes ≠ 0 := by
    rintro rfl
    exact absurd positive (by decide)
  have pages : bytes &&& (nvVramPageBytes - 1) = 0 := by
    apply UInt64.toNat_inj.mp
    rw [and_mask_toNat bytes (k := 12) (by decide), UInt64.toNat_zero]
    exact Nat.mod_eq_zero_of_dvd page
  rw [nvVramFindRange, if_neg (by simp [spans, nonzero, aligned, pages]),
    if_neg (by simp [(spansValid_iff available).mpr usable]),
    if_neg (by simp [(spansValid_iff excluded).mpr sound]), searched]
  cases result <;> rfl

end GspDriver.VramRange
