import GspDriver.GspMemory

/-!
The external memory plan is exact: it fails only when no position exists, and
the tables built from it later map the application's memory. The size of the
tables is known before their position, since it depends on the addresses they
map and not on where they lie.
-/

namespace GspDriver.MemoryPlan

open Words FirstFit Vram VramPool VramRange Pramin Radix Gmmu GmmuRange GmmuBuild GmmuTranslate
  GmmuFrame GspMemory

def Usable (r : NvGspFbRegion) : Prop := r.reserved = 0 ∧ r.prot = 0

/-- The bytes mapped for an application: the service area and its own memory. -/
def mappedBytes (app : Nat) : Nat := 0x100000 + app

/-- The tables at all levels that the mapped addresses meet. -/
def tablePages (app : Nat) : Nat := before 0x20000000 (0x20000000 + mappedBytes app - 1) 5

def neededBytes (app : Nat) : Nat := mappedBytes app + 4096 * tablePages app + 0x10000

/-- A region table the plan can use. -/
structure ValidRegions (si : NvGspStaticInfo) (count : Nat) : Prop where
  ordered : ∀ i < count, (si.regions i).base.toNat ≤ (si.regions i).limit.toNat ∧
    (si.regions i).limit.toNat < 2 ^ 40
  apart : ∀ i < count, ∀ j < i, (si.regions i).limit.toNat < (si.regions j).base.toNat ∨
    (si.regions j).limit.toNat < (si.regions i).base.toNat

structure Valid (si : NvGspStaticInfo) (appBytes : UInt64) (extra : Option NvVramSpan) : Prop where
  some_regions : 0 < si.numRegions.toNat
  few_regions : si.numRegions.toNat ≤ 16
  regions : ValidRegions si si.numRegions.toNat
  app_min : 2 ^ 30 ≤ appBytes.toNat
  app_max : appBytes.toNat ≤ 2 ^ 39
  app_page : 2 ^ 16 ∣ appBytes.toNat
  console : ∀ span, extra = some span → span.limit < 2 ^ 64

/-- Where an owned span of `bytes` may lie. -/
structure Position (si : NvGspStaticInfo) (extra : Option NvVramSpan) (bytes place : Nat) :
    Prop where
  aligned : 2 ^ 16 ∣ place
  region : ∃ i < si.numRegions.toNat, Usable (si.regions i) ∧
    (si.regions i).base.toNat ≤ place ∧ place + bytes ≤ (si.regions i).limit.toNat + 1
  foreign : ∀ i < si.numRegions.toNat, ¬ Usable (si.regions i) →
    place + bytes ≤ (si.regions i).base.toNat ∨ (si.regions i).limit.toNat < place
  high : 2 ^ 29 ≤ place
  console : ∀ span, extra = some span → span.size ≠ 0 →
    place + bytes ≤ span.base.toNat ∨ span.limit ≤ place

/-- Four areas, each starting where the one before it ends, fill the owned span. -/
structure Laid (si : NvGspStaticInfo) (appBytes : UInt64) (extra : Option NvVramSpan)
    (m : NvGspMemoryLayout) : Prop where
  size : m.owned.size.toNat = neededBytes appBytes.toNat
  position : Position si extra m.owned.size.toNat m.owned.base.toNat
  service : m.servicePhys.toNat = m.owned.base.toNat
  app : m.appPhys.toNat = m.servicePhys.toNat + 0x100000
  app_bytes : m.appBytes = appBytes
  tables : m.tables.tablePhys.toNat = m.appPhys.toNat + m.appBytes.toNat
  channel : m.channelPhys.toNat = m.tables.tablePhys.toNat + m.tables.tableBytes.toNat
  ends : m.channelPhys.toNat + 0x10000 = m.owned.base.toNat + m.owned.size.toNat

/-! The regions. -/

section Regions

variable {si : NvGspStaticInfo}

theorem region_ordered (r : NvGspFbRegion) :
    ¬ (r.base > r.limit ∨ r.limit ≥ regionEnd) ↔
      r.base.toNat ≤ r.limit.toNat ∧ r.limit.toNat < 2 ^ 40 := by
  have top : regionEnd.toNat = 2 ^ 40 := by decide
  rw [not_or, gt_iff_lt, ge_iff_le, UInt64.not_lt, UInt64.not_le, UInt64.le_iff_toNat_le,
    UInt64.lt_iff_toNat_lt, top]

theorem region_apart (i : Nat) :
    ¬ (∃ j < i, (si.regions i).base ≤ (si.regions j).limit ∧
        (si.regions j).base ≤ (si.regions i).limit) ↔
      ∀ j < i, (si.regions i).limit.toNat < (si.regions j).base.toNat ∨
        (si.regions j).limit.toNat < (si.regions i).base.toNat := by
  simp only [not_exists, not_and, UInt64.le_iff_toNat_le, Nat.not_le]
  constructor
  · intro clear j below
    have here := clear j below
    omega
  · intro apart j below
    have here := apart j below
    omega

theorem usable_iff (r : NvGspFbRegion) : ¬ (r.reserved ≠ 0 ∨ r.prot ≠ 0) ↔ Usable r := by
  simp [Usable]

def regionSpan (r : NvGspFbRegion) : NvVramSpan := ⟨r.base, r.limit - r.base + 1⟩

theorem region_limit {r : NvGspFbRegion} (ordered : r.base.toNat ≤ r.limit.toNat)
    (below : r.limit.toNat < 2 ^ 40) :
    (regionSpan r).limit = r.limit.toNat + 1 ∧ (regionSpan r).Sound := by
  have gap : (r.limit - r.base).toNat = r.limit.toNat - r.base.toNat := sub_toNat ordered
  have size : (r.limit - r.base + 1).toNat = r.limit.toNat - r.base.toNat + 1 := by
    rw [add_toNat (by rw [gap, UInt64.toNat_one]; omega), gap, UInt64.toNat_one]
  have limit : (regionSpan r).limit = r.limit.toNat + 1 := by
    simp only [NvVramSpan.limit, regionSpan, size]
    omega
  refine ⟨limit, ?_, by omega⟩
  simp only [regionSpan, size]
  omega

/-- The collected spans are those of the usable regions. -/
def Collected (si : NvGspStaticInfo) (count : Nat) (available : List NvVramSpan) : Prop :=
  ∀ span, span ∈ available ↔ ∃ i < count, Usable (si.regions i) ∧ span = regionSpan (si.regions i)

theorem valid_succ (count : Nat) :
    ValidRegions si (count + 1) ↔ ValidRegions si count ∧
      ((si.regions count).base.toNat ≤ (si.regions count).limit.toNat ∧
        (si.regions count).limit.toNat < 2 ^ 40) ∧
      ∀ j < count, (si.regions count).limit.toNat < (si.regions j).base.toNat ∨
        (si.regions j).limit.toNat < (si.regions count).base.toNat := by
  constructor
  · rintro ⟨ordered, apart⟩
    exact ⟨⟨fun i below => ordered i (by omega), fun i below => apart i (by omega)⟩,
      ordered count (by omega), apart count (by omega)⟩
  · rintro ⟨⟨ordered, apart⟩, last, clear⟩
    constructor
    · intro i below
      by_cases here : i = count
      · exact here ▸ last
      · exact ordered i (by omega)
    · intro i below
      by_cases here : i = count
      · subst here
        exact clear
      · exact apart i (by omega)

theorem collected_skip {count : Nat} {available : List NvVramSpan}
    (collected : Collected si count available) (unusable : ¬ Usable (si.regions count)) :
    Collected si (count + 1) available := by
  intro span
  rw [collected span]
  constructor
  · rintro ⟨i, below, usable, same⟩
    exact ⟨i, by omega, usable, same⟩
  · rintro ⟨i, below, usable, same⟩
    have other : i ≠ count := fun here => unusable (here ▸ usable)
    exact ⟨i, by omega, usable, same⟩

theorem collected_take {count : Nat} {available : List NvVramSpan}
    (collected : Collected si count available) (usable : Usable (si.regions count)) :
    Collected si (count + 1) (available ++ [regionSpan (si.regions count)]) := by
  intro span
  rw [List.mem_append, List.mem_singleton, collected span]
  constructor
  · rintro (⟨i, below, usable, same⟩ | same)
    · exact ⟨i, by omega, usable, same⟩
    · exact ⟨count, by omega, usable, same⟩
  · rintro ⟨i, below, usable, same⟩
    by_cases here : i = count
    · exact Or.inr (here ▸ same)
    · exact Or.inl ⟨i, by omega, usable, same⟩

theorem available_spec (count : Nat) :
    (∃ available, availableSpans si count = some available ∧ ValidRegions si count ∧
      Collected si count available) ∨
    (availableSpans si count = none ∧ ¬ ValidRegions si count) := by
  induction count with
  | zero => exact Or.inl ⟨[], rfl, ⟨by simp, by simp⟩, by simp [Collected]⟩
  | succ count ih =>
      rcases ih with ⟨available, listed, valid, collected⟩ | ⟨failed, invalid⟩
      · have ordered := region_ordered (si.regions count)
        have apart := @region_apart si count
        have usable := usable_iff (si.regions count)
        have whole := @valid_succ si count
        simp only [availableSpans, listed]
        split
        · rename_i bad
          refine Or.inr ⟨rfl, fun valid => ?_⟩
          exact absurd bad (ordered.mpr (whole.mp valid).2.1)
        rename_i good
        split
        · rename_i bad
          refine Or.inr ⟨rfl, fun valid => ?_⟩
          exact absurd bad (apart.mpr (whole.mp valid).2.2)
        rename_i clear
        have next := whole.mpr ⟨valid, ordered.mp good, apart.mp clear⟩
        left
        split
        · rename_i unusable
          exact ⟨available, rfl, next,
            collected_skip collected fun fine => usable.mpr fine unusable⟩
        · rename_i fine
          exact ⟨_, rfl, next, collected_take collected (usable.mp fine)⟩
      · right
        exact ⟨by simp only [availableSpans, failed],
          fun valid => invalid (valid_succ _ |>.mp valid).1⟩

end Regions

/-! The search. -/

section Search

variable {si : NvGspStaticInfo} {appBytes : UInt64} {extra : Option NvVramSpan}

theorem mem_excluded (span : NvVramSpan) : span ∈ excludedSpans extra ↔
    span = ⟨0, 0x20000000⟩ ∨ (extra = some span ∧ span.size ≠ 0) := by
  rw [excludedSpans, List.mem_cons, Option.mem_toList]
  simp [Option.filter_eq_some_iff]

theorem excluded_sound (console : ∀ span, extra = some span → span.limit < 2 ^ 64) :
    ∀ ex ∈ excludedSpans extra, ex.Sound := by
  intro ex member
  rcases (mem_excluded ex).mp member with low | ⟨given, nonempty⟩
  · subst low
    constructor
    · decide
    · simp only [NvVramSpan.limit]
      decide
  · exact ⟨pos_toNat nonempty, console ex given⟩

/-- A position is a place for the bytes in one of the collected spans. -/
theorem position_iff (valid : ValidRegions si si.numRegions.toNat) {available : List NvVramSpan}
    (collected : Collected si si.numRegions.toNat available) {bytes : Nat} (positive : 0 < bytes)
    (place : Nat) :
    Position si extra bytes place ↔
      ∃ span ∈ available, FitsIn (excludedSpans extra) bytes (2 ^ 16) span place := by
  have lowSpan : (NvVramSpan.block ⟨0, 0x20000000⟩).limit = 2 ^ 29 := by decide
  have lowBase : (NvVramSpan.block ⟨0, 0x20000000⟩).first = 0 := by decide
  constructor
  · intro position
    obtain ⟨i, below, usable, above, room⟩ := position.region
    obtain ⟨ordered, small⟩ := valid.ordered i below
    obtain ⟨limit, _⟩ := region_limit ordered small
    refine ⟨_, (collected _).mpr ⟨i, below, usable, rfl⟩, position.aligned, above, by omega, ?_⟩
    intro block member
    obtain ⟨ex, listed, rfl⟩ := List.mem_map.mp member
    rcases (mem_excluded ex).mp listed with low | ⟨given, nonempty⟩
    · subst low
      have high := position.high
      omega
    · exact position.console ex given nonempty
  · rintro ⟨span, member, fits⟩
    obtain ⟨i, below, usable, rfl⟩ := (collected span).mp member
    obtain ⟨ordered, small⟩ := valid.ordered i below
    obtain ⟨limit, _⟩ := region_limit ordered small
    have above : (si.regions i).base.toNat ≤ place := fits.above
    have room := fits.room
    rw [limit] at room
    constructor
    · exact fits.aligned
    · exact ⟨i, below, usable, above, room⟩
    -- Regions do not overlap, so one that is usable meets none that is not.
    · intro j inside unusable
      have distinct : j ≠ i := fun same => unusable (same ▸ usable)
      rcases Nat.lt_or_gt_of_ne distinct with less | more
      · have apart := valid.apart i below j less
        omega
      · have apart := valid.apart j inside i more
        omega
    · have clear := fits.clear _ (List.mem_map_of_mem ((mem_excluded _).mpr (Or.inl rfl)))
      omega
    · intro ex given nonempty
      exact fits.clear _ (List.mem_map_of_mem ((mem_excluded ex).mpr (Or.inr ⟨given, nonempty⟩)))

end Search

/-! The sizes. -/

section Sizes

variable {appBytes : UInt64}

theorem few_tables {app : Nat} (small : app ≤ 2 ^ 39) :
    0 < tablePages app ∧ tablePages app ≤ 2 ^ 20 := by
  simp only [tablePages, before, span, shiftOf, mappedBytes, List.getD_cons_zero,
    List.getD_cons_succ]
  omega

variable (app_min : 2 ^ 30 ≤ appBytes.toNat) (app_max : appBytes.toNat ≤ 2 ^ 39)
  (app_page : 2 ^ 16 ∣ appBytes.toNat)
include app_max

theorem mapped_toNat : (nvGspServiceBytes + appBytes).toNat = mappedBytes appBytes.toNat := by
  have service : nvGspServiceBytes.toNat = 0x100000 := by decide
  rw [add_toNat (by omega), service]
  rfl

include app_page

theorem plan_admitted {tablePhys : UInt64} (page : 2 ^ 12 ∣ tablePhys.toNat)
    (arena : tablePhys.toNat < 2 ^ 40) :
    Admitted nvGspAppVaBase (nvGspServiceBytes + appBytes) tablePhys := by
  have mapped := mapped_toNat app_max
  have base : nvGspAppVaBase.toNat = 0x20000000 := by decide
  rw [mappedBytes] at mapped
  constructor
  · rw [base]; decide
  · rw [mapped]; omega
  · exact page
  · omega
  · omega
  · omega
  · exact arena

/-- The tables of the mapped range, wherever they are put. -/
theorem tables_counted {tablePhys : UInt64} (page : 2 ^ 12 ∣ tablePhys.toNat)
    (arena : tablePhys.toNat < 2 ^ 40) (capacity : UInt64) :
    ∃ p, Partial nvGspAppVaBase (nvGspServiceBytes + appBytes) tablePhys
        nvGspAppVaBase.toNat
        (nvGspAppVaBase.toNat + (nvGspServiceBytes + appBytes).toNat - 1) 5 p ∧
      p.tableBytes.toNat = 4096 * tablePages appBytes.toNat ∧
      nvGmmuRangePlan nvGspAppVaBase (nvGspServiceBytes + appBytes) tablePhys capacity =
        if 2 ^ 40 < tablePhys.toNat + p.tableBytes.toNat then (-1, .zero)
        else (if capacity < p.tableBytes then -2 else 0, p) := by
  obtain ⟨p, counted, returned⟩ := plan_returns (plan_admitted app_max app_page page arena)
  have base : nvGspAppVaBase.toNat = 0x20000000 := by decide
  refine ⟨p, counted, ?_, returned capacity⟩
  rw [counted.total, mapped_toNat app_max, base]
  rfl

theorem first_plan :
    ∃ p : NvGmmuRange, p.tableBytes.toNat = 4096 * tablePages appBytes.toNat ∧
      nvGmmuRangePlan nvGspAppVaBase (nvGspServiceBytes + appBytes) 0 0 = (-2, p) := by
  have zero : (0 : UInt64).toNat = 0 := UInt64.toNat_zero
  obtain ⟨p, _, total, returned⟩ :=
    @tables_counted appBytes app_max app_page 0 (by rw [zero]; decide) (by rw [zero]; decide) 0
  obtain ⟨some, few⟩ := few_tables app_max
  have short : (0 : UInt64) < p.tableBytes := by
    rw [UInt64.lt_iff_toNat_lt, zero]
    omega
  refine ⟨p, total, ?_⟩
  rw [returned, if_neg (by rw [zero]; omega), if_pos short]

/-- The second plan fits wherever the whole span does. -/
theorem second_plan {base : UInt64} (page : 2 ^ 16 ∣ base.toNat)
    (inside : base.toNat + neededBytes appBytes.toNat ≤ 2 ^ 40) {tableBytes : UInt64}
    (total : tableBytes.toNat = 4096 * tablePages appBytes.toNat) :
    ∃ p : NvGmmuRange, Planned p ∧ p.tableBytes = tableBytes ∧ p.va = nvGspAppVaBase ∧
      p.bytes = nvGspServiceBytes + appBytes ∧
      p.tablePhys.toNat = base.toNat + mappedBytes appBytes.toNat ∧
      nvGmmuRangePlan nvGspAppVaBase (nvGspServiceBytes + appBytes)
        (base + (nvGspServiceBytes + appBytes)) tableBytes = (0, p) := by
  have mapped := mapped_toNat app_max
  have needed : neededBytes appBytes.toNat =
    mappedBytes appBytes.toNat + 4096 * tablePages appBytes.toNat + 0x10000 := rfl
  have shape : mappedBytes appBytes.toNat = 0x100000 + appBytes.toNat := rfl
  have place : (base + (nvGspServiceBytes + appBytes)).toNat =
      base.toNat + mappedBytes appBytes.toNat := by
    rw [add_toNat (by omega), mapped]
  have page12 : 2 ^ 12 ∣ (base + (nvGspServiceBytes + appBytes)).toNat := by
    rw [place]
    omega
  have arena : (base + (nvGspServiceBytes + appBytes)).toNat < 2 ^ 40 := by omega
  obtain ⟨p, counted, sized, returned⟩ := tables_counted app_max app_page page12 arena tableBytes
  have same : p.tableBytes = tableBytes := UInt64.toNat_inj.mp (sized.trans total.symm)
  refine ⟨p, partial_planned (plan_admitted app_max app_page page12 arena) counted (by omega),
    same, counted.va_eq, counted.bytes_eq, by rw [counted.arena_eq, place], ?_⟩
  rw [returned, if_neg (by omega), if_neg (same ▸ UInt64.lt_irrefl _)]

end Sizes

/-- The tables of the layout, built on any card, map the application's memory. -/
def Maps (m : NvGspMemoryLayout) : Prop :=
  ∀ s, Coherent s → ∃ built, nvGmmuRangeBuild s m.tables m.servicePhys = (0, built) ∧
    ∀ o < m.appBytes.toNat, translate built.io.vram (m.tables.levelPhys 0).toNat
      (m.appVa.toNat + o) = some (m.appPhys.toNat + o)

theorem layout_maps {m : NvGspMemoryLayout} (planned : Planned m.tables)
    (va : m.tables.va = nvGspAppVaBase)
    (bytes : m.tables.bytes.toNat = mappedBytes m.appBytes.toNat)
    (appVa : m.appVa = nvGspAppVaBase + nvGspServiceBytes)
    (app : m.appPhys.toNat = m.servicePhys.toNat + 0x100000)
    (page : 2 ^ 12 ∣ m.servicePhys.toNat)
    (tables : m.tables.tablePhys.toNat = m.servicePhys.toNat + mappedBytes m.appBytes.toNat) :
    Maps m := by
  intro s coherent
  have fits := planned.fits
  have inside := planned.inside
  have placed : Placed m.tables m.servicePhys := ⟨page, by omega, Or.inl (by omega)⟩
  have base : nvGspAppVaBase.toNat = 0x20000000 := by decide
  have start : m.appVa.toNat = 0x20100000 := by rw [appVa]; decide
  rcases build_returns s m.tables m.servicePhys with ⟨_, _, built⟩ | ⟨refused, _⟩
  · refine ⟨_, built, fun o below => ?_⟩
    have shape : mappedBytes m.appBytes.toNat = 0x100000 + m.appBytes.toNat := rfl
    rw [va, base] at inside
    rw [built_translates planned coherent built _ (by omega), va, base, if_pos (by omega)]
    exact congrArg some (by omega)
  · exact absurd ⟨planned, placed⟩ refused

/-- What the plan promises for its return code. -/
structure Exact (si : NvGspStaticInfo) (appBytes : UInt64) (extra : Option NvVramSpan) (rc : Int)
    (m : NvGspMemoryLayout) : Prop where
  code : rc = 0 ∨ rc = -1 ∨ rc = -2
  zeroed : rc ≠ 0 → m = .zero
  refused : rc = -1 → ¬ Valid si appBytes extra
  accepted : rc = 0 → Valid si appBytes extra
  full : Valid si appBytes extra →
    (rc = -2 ↔ ¬ ∃ place, Position si extra (neededBytes appBytes.toNat) place)
  laid : rc = 0 → Laid si appBytes extra m
  maps : rc = 0 → Maps m

section Plan

variable {si : NvGspStaticInfo} {appBytes : UInt64} {extra : Option NvVramSpan}

theorem exact_refused (invalid : ¬ Valid si appBytes extra) :
    Exact si appBytes extra (-1) .zero where
  code := Or.inr (Or.inl rfl)
  zeroed _ := rfl
  refused _ := invalid
  accepted zero := absurd zero (by decide)
  full valid := absurd valid invalid
  laid zero := absurd zero (by decide)
  maps zero := absurd zero (by decide)

theorem exact_full
    (none : ¬ ∃ place, Position si extra (neededBytes appBytes.toNat) place) :
    Exact si appBytes extra (-2) .zero where
  code := Or.inr (Or.inr rfl)
  zeroed _ := rfl
  refused same := absurd same (by decide)
  accepted zero := absurd zero (by decide)
  full _ := ⟨fun _ => none, fun _ => rfl⟩
  laid zero := absurd zero (by decide)
  maps zero := absurd zero (by decide)

theorem exact_laid (valid : Valid si appBytes extra) {m : NvGspMemoryLayout}
    (laid : Laid si appBytes extra m) (maps : Maps m) : Exact si appBytes extra 0 m where
  code := Or.inl rfl
  zeroed failed := absurd rfl failed
  refused same := absurd same (by decide)
  accepted _ := valid
  full _ := by
    constructor
    · intro same
      exact absurd same (by decide)
    · intro none
      have size := laid.size
      exact absurd ⟨_, size ▸ laid.position⟩ none
  laid _ := laid
  maps _ := maps

theorem arguments_iff :
    ¬ (si.numRegions = 0 ∨ si.numRegions > nvGspFbregionMax ∨ appBytes < nvVramMinAppBytes ∨
        (appBytes &&& 0xffff) ≠ 0 ∨ appBytes > maxAppBytes) ↔
      0 < si.numRegions.toNat ∧ si.numRegions.toNat ≤ 16 ∧ 2 ^ 30 ≤ appBytes.toNat ∧
        2 ^ 16 ∣ appBytes.toNat ∧ appBytes.toNat ≤ 2 ^ 39 := by
  have most : nvGspFbregionMax.toNat = 16 := by decide
  have least : nvVramMinAppBytes.toNat = 2 ^ 30 := by decide
  have largest : maxAppBytes.toNat = 2 ^ 39 := by decide
  have shape : (0xffff : UInt64).toNat = 2 ^ 16 - 1 := rfl
  have none : si.numRegions = 0 ↔ si.numRegions.toNat = 0 := by
    rw [← UInt32.toNat_inj, UInt32.toNat_zero]
  have page : appBytes &&& 0xffff = 0 ↔ 2 ^ 16 ∣ appBytes.toNat := by
    constructor
    · exact dvd_of_and_mask shape
    · intro whole
      apply UInt64.toNat_inj.mp
      rw [and_mask_toNat appBytes shape, Nat.mod_eq_zero_of_dvd whole, UInt64.toNat_zero]
  simp only [not_or, ne_eq, not_not, gt_iff_lt, UInt32.not_lt, UInt64.not_lt]
  rw [none, page, UInt32.le_iff_toNat_le, UInt64.le_iff_toNat_le, UInt64.le_iff_toNat_le, most,
    least, largest, Nat.pos_iff_ne_zero]

/-- The layout of an owned span in a free position. -/
theorem layOut_exact (valid : Valid si appBytes extra) {total tableBytes base : UInt64}
    (sized : total.toNat = neededBytes appBytes.toNat)
    (tables : tableBytes.toNat = 4096 * tablePages appBytes.toNat)
    (position : Position si extra total.toNat base.toNat) :
    ∃ m, layOut appBytes (nvGspServiceBytes + appBytes) tableBytes (0, ⟨base, total⟩) = (0, m) ∧
      Exact si appBytes extra 0 m := by
  have mapped := mapped_toNat valid.app_max
  have shape : mappedBytes appBytes.toNat = 0x100000 + appBytes.toNat := rfl
  have needed : neededBytes appBytes.toNat =
    mappedBytes appBytes.toNat + 4096 * tablePages appBytes.toNat + 0x10000 := rfl
  have service : nvGspServiceBytes.toNat = 0x100000 := by decide
  -- a usable region ends below the window's 40 bits, so the arena of the tables does too
  obtain ⟨i, below, _, above, room⟩ := position.region
  have small := (valid.regions.ordered i below).2
  obtain ⟨p, planned, same, va, bytes, place, returned⟩ :=
    second_plan valid.app_max valid.app_page position.aligned (by omega) tables
  have app : (base + nvGspServiceBytes).toNat = base.toNat + 0x100000 := by
    rw [add_toNat (by omega), service]
  have channel : (p.tablePhys + tableBytes).toNat = p.tablePhys.toNat + tableBytes.toNat :=
    add_toNat (by omega)
  simp only [layOut, ne_eq, not_true, if_false, returned]
  refine ⟨_, rfl, exact_laid valid ?_ ?_⟩
  · constructor
    · exact sized
    · exact position
    · rfl
    · exact app
    · rfl
    · show p.tablePhys.toNat = (base + nvGspServiceBytes).toNat + appBytes.toNat
      omega
    · show (p.tablePhys + tableBytes).toNat = p.tablePhys.toNat + p.tableBytes.toNat
      rw [same, channel]
    · show (p.tablePhys + tableBytes).toNat + 0x10000 = base.toNat + total.toNat
      omega
  · have page : 2 ^ 12 ∣ base.toNat := Nat.dvd_trans (by decide) position.aligned
    exact layout_maps planned va (by rw [bytes, mapped]) rfl app page place

/-- What the search returns is exact for the whole plan. -/
theorem search_exact (arguments : ¬ (si.numRegions = 0 ∨ si.numRegions > nvGspFbregionMax ∨
      appBytes < nvVramMinAppBytes ∨ (appBytes &&& 0xffff) ≠ 0 ∨ appBytes > maxAppBytes))
    (regions : ValidRegions si si.numRegions.toNat) {available : List NvVramSpan}
    (collected : Collected si si.numRegions.toNat available) (some_spans : available ≠ [])
    {total tableBytes : UInt64} (sized : total.toNat = neededBytes appBytes.toNat)
    (tables : tableBytes.toNat = 4096 * tablePages appBytes.toNat) :
    ∃ rc m, (nvVramFindRange available (excludedSpans extra) total 0x10000).map
        (layOut appBytes (nvGspServiceBytes + appBytes) tableBytes) = some (rc, m) ∧
      Exact si appBytes extra rc m := by
  obtain ⟨some_regions, few_regions, app_min, app_page, app_max⟩ := arguments_iff.mp arguments
  have needed : neededBytes appBytes.toNat =
    0x100000 + appBytes.toNat + 4096 * tablePages appBytes.toNat + 0x10000 := rfl
  have positive : 0 < total.toNat := by omega
  have position := @position_iff si extra regions available collected total.toNat positive
  have alignment : (0x10000 : UInt64).toNat = 2 ^ 16 := rfl
  -- A search that is refused is one whose arguments were not valid.
  by_cases searchable : Searchable available (excludedSpans extra) total 0x10000
  · obtain ⟨result, found, returned⟩ := findRange_returns searchable
    have console : ∀ span, extra = some span → span.limit < 2 ^ 64 := by
      intro span given
      by_cases empty : span.size = 0
      · have size : span.size.toNat = 0 := by rw [empty]; rfl
        have base := span.base.toNat_lt
        rw [NvVramSpan.limit]
        omega
      · exact (searchable.sound span ((mem_excluded span).mpr (Or.inr ⟨given, empty⟩))).2
    have valid : Valid si appBytes extra :=
      ⟨some_regions, few_regions, regions, app_min, app_max, app_page, console⟩
    rw [returned]
    cases result with
    | none =>
        refine ⟨-2, .zero, rfl, exact_full ?_⟩
        rintro ⟨place, here⟩
        rw [← sized] at here
        obtain ⟨span, member, fits⟩ := (position place).mp here
        exact found span member place (alignment ▸ fits)
    | some base =>
        obtain ⟨earlier, span, later, listed, _, fits, _⟩ := found
        have member : span ∈ available := by
          rw [listed]
          exact List.mem_append_right _ List.mem_cons_self
        have here := (position base.toNat).mpr ⟨span, member, alignment ▸ fits⟩
        obtain ⟨m, laidOut, laid⟩ := layOut_exact valid sized tables here
        exact ⟨0, m, congrArg some laidOut, laid⟩
  · refine ⟨-1, .zero, ?_, exact_refused fun valid => searchable ?_⟩
    · rw [findRange_refuses searchable]
      rfl
    · refine ⟨some_spans, positive, by decide, by omega, ?_, excluded_sound valid.console⟩
      intro span member
      obtain ⟨i, below, _, same⟩ := (collected span).mp member
      obtain ⟨ordered, small⟩ := regions.ordered i below
      exact same ▸ (region_limit ordered small).2

end Plan

/-- The plan always returns, its code is the exact one, and a layout it returns
can be built and maps the application's memory. -/
theorem plan_exact (si : NvGspStaticInfo) (appBytes : UInt64) (extra : Option NvVramSpan) :
    ∃ rc m, nvGspMemoryPlan si appBytes extra = some (rc, m) ∧ Exact si appBytes extra rc m := by
  rw [nvGspMemoryPlan]
  split
  · rename_i bad
    refine ⟨-1, .zero, rfl, exact_refused fun valid => arguments_iff.mpr ?_ bad⟩
    exact ⟨valid.some_regions, valid.few_regions, valid.app_min, valid.app_page, valid.app_max⟩
  rename_i arguments
  obtain ⟨some_regions, few_regions, app_min, app_page, app_max⟩ := arguments_iff.mp arguments
  obtain ⟨p, tables, first⟩ := first_plan app_max app_page
  obtain ⟨_, few⟩ := few_tables app_max
  have mapped := mapped_toNat app_max
  have shape : mappedBytes appBytes.toNat = 0x100000 + appBytes.toNat := rfl
  have channel : nvGspChannelBytes.toNat = 0x10000 := by decide
  have part : (nvGspServiceBytes + appBytes + p.tableBytes).toNat =
      mappedBytes appBytes.toNat + 4096 * tablePages appBytes.toNat := by
    rw [add_toNat (by omega), mapped, tables]
  have sized : (nvGspServiceBytes + appBytes + p.tableBytes + nvGspChannelBytes).toNat =
      neededBytes appBytes.toNat := by
    rw [add_toNat (by omega), part, channel]
    rfl
  simp only [first, ne_eq, not_true, if_false]
  rcases @available_spec si si.numRegions.toNat with ⟨available, listed, regions, collected⟩ |
    ⟨failed, invalid⟩
  · simp only [listed]
    split
    · rename_i none_left
      have none : ¬ ∃ place, Position si extra (neededBytes appBytes.toNat) place := by
        rintro ⟨place, position⟩
        obtain ⟨i, below, usable, _⟩ := position.region
        have member := (collected _).mpr ⟨i, below, usable, rfl⟩
        rw [none_left] at member
        exact List.not_mem_nil member
      exact ⟨-2, .zero, rfl, exact_full none⟩
    · rename_i some_spans
      exact search_exact arguments regions collected some_spans sized tables
  · simp only [failed]
    exact ⟨-1, .zero, rfl, exact_refused fun valid => invalid valid.regions⟩

/-- The region table of a saved firmware log: only the second region is usable. -/
def loggedInfo : NvGspStaticInfo where
  numRegions := 3
  regions
    | 0 => ⟨0, 0x30fffff, 0x3100000, 0⟩
    | 1 => ⟨0x3100000, 0x2f034ffff, 0, 0⟩
    | _ => ⟨0x2f0350000, 0x2ff9fffff, 0, 1⟩

-- without a console span the low 512 MiB decide, with one its end does
example : (nvGspMemoryPlan loggedInfo 0x40000000 none).map (fun r => (r.1, r.2.owned.base)) =
    some (0, 0x20000000) := by decide +kernel
example : (nvGspMemoryPlan loggedInfo 0x40000000 (some ⟨0x50000000, 0x8000000⟩)).map
    (fun r => (r.1, r.2.owned.base)) = some (0, 0x58000000) := by decide +kernel

end GspDriver.MemoryPlan
