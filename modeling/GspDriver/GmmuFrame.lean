import GspDriver.GmmuTranslate

/-!
What the construction of the tables touches. A plan passes the checks of
`nv_gmmu_range_build` exactly when it is the geometry of its own range and the
mapped memory lies apart from the tables; a refused plan leaves the window and
the video memory as they were. Every write of an accepted one is a word of the
arena, and the only register written is the one that aims the window.
-/

namespace GspDriver.GmmuFrame

open Bytes LittleEndian Loop Words Pramin Radix Gmmu GmmuRange GmmuBuild GmmuTranslate

/-- What the planner derives from the range is what the plan says. -/
def Rederives (r : NvGmmuRange) : Prop :=
  ∃ checked, nvGmmuRangePlan r.va r.bytes r.tablePhys r.tableBytes = (0, checked) ∧
    r.tableBytes = checked.tableBytes ∧
    ∀ level < 5, r.levelPhys level = checked.levelPhys level ∧
      r.levelCount level = checked.levelCount level

theorem planned_rederives {r : NvGmmuRange} (planned : Planned r) : Rederives r := by
  have fits := planned.fits
  simp only [reach] at fits
  have admitted : Admitted r.va r.bytes r.tablePhys := {
    vaPage := planned.vaPage
    bytesPage := planned.bytesPage
    arenaPage := planned.arenaPage
    nonempty := planned.nonempty
    inside := planned.inside
    size := planned.size
    arena := by
      have some : 0 < before (low r) (high r) 5 := by
        simp only [before, span]
        omega
      have total := planned.total
      omega }
  obtain ⟨p, counted, returns⟩ := plan_returns admitted
  have returned := returns r.tableBytes
  have total : r.tableBytes = p.tableBytes := by
    apply UInt64.toNat_inj.mp
    rw [planned.total, counted.total]
    rfl
  rw [← total, if_neg (by omega), if_neg (UInt64.lt_irrefl _)] at returned
  refine ⟨p, returned, total, fun level below => ⟨?_, ?_⟩⟩
  · apply UInt64.toNat_inj.mp
    rw [planned.phys level below, counted.phys level below]
    rfl
  · apply UInt32.toNat_inj.mp
    rw [planned.count level below, counted.count level below]
    rfl

theorem rederives_planned {r : NvGmmuRange} (same : Rederives r) : Planned r := by
  obtain ⟨checked, returned, total, levels⟩ := same
  obtain ⟨va, bytes, arena, planned⟩ := plan_spec _ _ _ _ _ returned
  have lowSame : low checked = low r := by rw [low, low, va]
  have highSame : high checked = high r := by rw [high, high, va, bytes]
  constructor
  · exact va ▸ planned.vaPage
  · exact bytes ▸ planned.bytesPage
  · exact arena ▸ planned.arenaPage
  · exact bytes ▸ planned.nonempty
  · have inside := planned.inside
    rwa [va, bytes] at inside
  · exact bytes ▸ planned.size
  · intro n level
    rw [(levels n level).1, planned.phys n level, arena, lowSame, highSame]
  · intro n level
    rw [(levels n level).2, planned.count n level, lowSame, highSame]
  · rw [total, planned.total, lowSame, highSame]
  · have fits := planned.fits
    rwa [arena, ← total] at fits

/-- The memory to map: whole pages below the reach of the window, apart from
the tables. -/
structure Placed (r : NvGmmuRange) (phys : UInt64) : Prop where
  page : 2 ^ 12 ∣ phys.toNat
  room : phys.toNat + r.bytes.toNat ≤ reach
  apart : phys.toNat + r.bytes.toNat ≤ r.tablePhys.toNat ∨
    r.tablePhys.toNat + r.tableBytes.toNat ≤ phys.toNat

/-- The writes of an accepted build, one after the other. -/
def buildTables (r : NvGmmuRange) (phys : UInt64) (s : Aperture) : Aperture :=
  let s := forStep r.tableBytes.toNat 0x1000 (fun offset s =>
    nvGmmuZeroTable s (r.tablePhys + UInt64.ofNat offset) 0x1000) s
  let s := forCount (nvGmmuLevels - 1) (fun k s =>
    forCount (r.levelCount (k + 1)).toNat (linkChild r (k + 1)) s) s
  forStep r.bytes.toNat 0x1000 (mapPage r phys) s

theorem placed_iff {r : NvGmmuRange} (planned : Planned r) (phys : UInt64) :
    ¬ ((phys &&& (gmmuPageBytes - 1)) ≠ 0 ∨ phys ≥ praminPhysEnd ∨
        r.bytes > praminPhysEnd - phys) ∧
      ¬ (phys < r.tablePhys + r.tableBytes ∧ r.tablePhys < phys + r.bytes) ↔ Placed r phys := by
  have physEnd : praminPhysEnd.toNat = 2 ^ 40 := by decide
  have fits := planned.fits
  have nonempty := planned.nonempty
  simp only [reach] at fits
  have arena : (r.tablePhys + r.tableBytes).toNat = r.tablePhys.toNat + r.tableBytes.toNat :=
    add_toNat (by omega)
  simp only [not_or, not_not, ge_iff_le, gt_iff_lt, UInt64.not_le, UInt64.not_lt]
  rw [page_mask, UInt64.lt_iff_toNat_lt, UInt64.le_iff_toNat_le, UInt64.lt_iff_toNat_lt,
    UInt64.lt_iff_toNat_lt, physEnd, arena]
  constructor
  · rintro ⟨⟨page, below, room⟩, apart⟩
    rw [sub_toNat (by omega), physEnd] at room
    rw [add_toNat (by omega)] at apart
    exact ⟨page, by rw [reach]; omega, by omega⟩
  · rintro ⟨page, room, apart⟩
    rw [reach] at room
    refine ⟨⟨page, by omega, ?_⟩, ?_⟩
    · rw [sub_toNat (by omega), physEnd]
      omega
    · rw [add_toNat (by omega)]
      omega

/-- The checks decide everything: the tables are written or nothing happens. -/
theorem build_returns (s : Aperture) (r : NvGmmuRange) (phys : UInt64) :
    (Planned r ∧ Placed r phys ∧ nvGmmuRangeBuild s r phys = (0, buildTables r phys s)) ∨
      (¬ (Planned r ∧ Placed r phys) ∧ nvGmmuRangeBuild s r phys = (-1, s)) := by
  by_cases planned : Planned r
  · obtain ⟨checked, returned, total, levels⟩ := planned_rederives planned
    have agreed : ¬ ∃ level < nvGmmuLevels, r.levelPhys level ≠ checked.levelPhys level ∨
        r.levelCount level ≠ checked.levelCount level := by
      rintro ⟨level, below, differs⟩
      rcases differs with phys | count
      · exact phys (levels level below).1
      · exact count (levels level below).2
    have decided := placed_iff planned phys
    have same : ¬ r.tableBytes ≠ checked.tableBytes := not_not.mpr total
    simp only [nvGmmuRangeBuild, returned]
    simp only [ne_eq, not_true_eq_false, false_or] at same agreed decided ⊢
    simp only [same, false_or, if_neg agreed]
    -- The plan passes its own second computation; what is left is the data's place.
    by_cases placed : Placed r phys
    · obtain ⟨valid, apart⟩ := decided.mpr placed
      left
      exact ⟨planned, placed, by rw [if_neg valid, if_neg apart, buildTables]⟩
    · right
      refine ⟨fun both => placed both.2, ?_⟩
      split
      · rfl
      rename_i valid
      rw [if_pos (not_not.mp fun apart => placed (decided.mp ⟨valid, apart⟩))]
  · right
    refine ⟨fun both => planned both.1, ?_⟩
    simp only [nvGmmuRangeBuild]
    split
    · rfl
    rename_i accepted
    simp only [not_or, not_not] at accepted
    split
    · rfl
    rename_i agreed
    -- A record that passes the comparison is a plan after all.
    exfalso
    apply planned
    apply rederives_planned
    refine ⟨_, Prod.ext accepted.1 rfl, accepted.2.1, fun level below => ?_⟩
    by_contra differs
    exact agreed ⟨level, below, not_and_or.mp differs⟩

/-- A write of one word of the arena, or of the register that aims the window. -/
def InArena (r : NvGmmuRange) : Access → Prop
  | .vramWrite addr _ =>
      r.tablePhys.toNat ≤ addr ∧ addr + 4 ≤ r.tablePhys.toNat + r.tableBytes.toNat
  | .regWrite off _ => off = nvPbusBar0Window
  | .vramRead _ | .regRead _ => False

/-- From `s` to `t` the card has seen writes to the arena only. -/
structure Confined (r : NvGmmuRange) (s t : Aperture) : Prop where
  coherent : Coherent t
  regs : t.io.regs = s.io.regs
  outside : ∀ x, x < r.tablePhys.toNat ∨ r.tablePhys.toNat + r.tableBytes.toNat ≤ x →
    t.io.vram x = s.io.vram x
  accesses : ∃ new, t.io.accesses = new ++ s.io.accesses ∧ ∀ access ∈ new, InArena r access

theorem aim_accesses (s : Aperture) (phys : UInt64) :
    ∃ new, (praminAim s phys).io.accesses = new ++ s.io.accesses ∧
      ∀ access ∈ new, ∃ val, access = .regWrite nvPbusBar0Window val := by
  have outside : inWindow nvPbusBar0Window = false := by decide
  simp only [praminAim]
  split
  · exact ⟨[], rfl, by simp⟩
  · simp only [Mmio.wr, outside, Bool.false_eq_true, ↓reduceIte]
    exact ⟨[_], rfl, by simp⟩

theorem wr32_accesses {s : Aperture} (coherent : Coherent s) (phys : UInt64) (val : UInt32)
    (inside : phys.toNat < reach) :
    ∃ new, (nvPraminWr32 s phys val).io.accesses =
        .vramWrite phys.toNat val :: new ++ s.io.accesses ∧
      ∀ access ∈ new, ∃ aimed, access = .regWrite nvPbusBar0Window aimed := by
  obtain ⟨_, window⟩ := aim_spec s _ _ (tracks_self coherent) phys inside
  have landing := windowOffset_landing (praminAim s phys).io phys window
  obtain ⟨new, listed, aims⟩ := aim_accesses s phys
  simp only [nvPraminWr32, Mmio.wr, windowOffset_inside, ↓reduceIte, landing, listed]
  exact ⟨new, rfl, aims⟩

section Build

variable {r : NvGmmuRange} {s : Aperture}

theorem confined_refl (coherent : Coherent s) : Confined r s s :=
  ⟨coherent, rfl, fun _ _ => rfl, [], rfl, by simp⟩

variable (planned : Planned r)
include planned

theorem wr32_confined {t : Aperture} (reached : Confined r s t) {place : UInt64} (val : UInt32)
    (above : r.tablePhys.toNat ≤ place.toNat)
    (below : place.toNat + 4 ≤ r.tablePhys.toNat + r.tableBytes.toNat) :
    Confined r s (nvPraminWr32 t place val) := by
  have fits := planned.fits
  have tracks := wr32_tracks t _ _ (tracks_self reached.coherent) place val (by omega)
  obtain ⟨old, before, kept⟩ := reached.accesses
  obtain ⟨new, listed, aims⟩ := wr32_accesses reached.coherent place val (by omega)
  constructor
  · exact tracks.coherent
  · exact tracks.regs_eq.trans reached.regs
  · intro x outside
    rw [tracks.vram_eq, store_outside _ _ _ _ _ (by omega)]
    exact reached.outside x outside
  · refine ⟨.vramWrite place.toNat val :: new ++ old, by rw [listed, before, List.append_assoc], ?_⟩
    intro access member
    rcases List.mem_append.mp member with recent | earlier
    · rcases List.mem_cons.mp recent with word | aim
      · rw [word]
        exact ⟨above, below⟩
      · obtain ⟨aimed, rfl⟩ := aims access aim
        rfl
    · exact kept access earlier

theorem wr64_confined {t : Aperture} (reached : Confined r s t) {place : UInt64} (val : UInt64)
    (above : r.tablePhys.toNat ≤ place.toNat)
    (below : place.toNat + 8 ≤ r.tablePhys.toNat + r.tableBytes.toNat) :
    Confined r s (nvPraminWr64 t place val) := by
  have fits := planned.fits
  simp only [reach] at fits
  have next : (place + 4).toNat = place.toNat + 4 :=
    add_toNat (by simp only [UInt64.reduceToNat]; omega)
  have first := wr32_confined planned reached (val &&& 0xffffffff).toUInt32 above (by omega)
  exact wr32_confined planned first (val >>> 32).toUInt32 (by omega) (by omega)

theorem zero_confined (t : Aperture) (reached : Confined r s t) {k : Nat}
    (below : 4096 * k + 4096 ≤ r.tableBytes.toNat) :
    Confined r s (nvGmmuZeroTable t (r.tablePhys + UInt64.ofNat (k * 0x1000)) 0x1000) := by
  have fits := planned.fits
  simp only [reach] at fits
  have words : ((0x1000 : UInt32).toNat + 4 - 1) / 4 = 1024 := by decide
  rw [nvGmmuZeroTable, nvPraminFill, forStep, words]
  apply forCount_invariant _ _ _ (fun _ t => Confined r s t) reached
  intro i inside state kept
  have page : (UInt64.ofNat (k * 0x1000)).toNat = k * 4096 := ofNat_toNat (by omega)
  have word : (UInt64.ofNat (i * 4)).toNat = i * 4 := ofNat_toNat (by omega)
  have start : (r.tablePhys + UInt64.ofNat (k * 0x1000)).toNat =
      r.tablePhys.toNat + k * 4096 := by rw [add_toNat (by omega), page]
  have place : (r.tablePhys + UInt64.ofNat (k * 0x1000) + UInt64.ofNat (i * 4)).toNat =
      r.tablePhys.toNat + k * 4096 + i * 4 := by rw [add_toNat (by omega), start, word]
  exact wr32_confined planned kept 0 (by omega) (by omega)

theorem build_confined (coherent : Coherent s) {phys : UInt64} (placed : Placed r phys) :
    Confined r s (buildTables r phys s) := by
  have total := planned.total
  have pages : (r.bytes.toNat + 0x1000 - 1) / 0x1000 = span (low r) (high r) (shiftOf 5) := by
    have whole : span (low r) (high r) (shiftOf 5) * 4096 = r.bytes.toNat := page_span planned
    omega
  simp only [buildTables, forStep]
  rw [pages]
  apply forCount_invariant _ _ _ (fun _ t => Confined r s t)
  · apply forCount_invariant _ _ _ (fun _ t => Confined r s t)
    · apply forCount_invariant _ _ _ (fun _ t => Confined r s t) (confined_refl coherent)
      intro k below state reached
      exact zero_confined planned state reached (by omega)
    · intro n level state reached
      apply forCount_invariant _ _ _ (fun _ t => Confined r s t) reached
      intro i below state reached
      have level : n < 4 := level
      rw [planned.count (n + 1) (by omega)] at below
      obtain ⟨entry, value, write, at_, _⟩ := linkChild_write planned below level phys
      have meets := meets_parent (scale n (by omega)) (child_meets planned below)
      have inside := entry_place planned (by omega) meets
      rw [write]
      exact wr64_confined planned reached value (by omega) (by omega)
  · intro i below state reached
    obtain ⟨entry, value, write, at_, _⟩ :=
      mapPage_write planned placed.page placed.room i below
    have inside := entry_place planned (by omega) (page_meets planned i below)
    rw [write]
    exact wr64_confined planned reached value (by omega) (by omega)

end Build

/-- A build writes its own arena or nothing. -/
theorem build_frame (s : Aperture) (r : NvGmmuRange) (phys : UInt64) (coherent : Coherent s) :
    ((nvGmmuRangeBuild s r phys).1 = 0 → Confined r s (nvGmmuRangeBuild s r phys).2) ∧
      ((nvGmmuRangeBuild s r phys).1 ≠ 0 → (nvGmmuRangeBuild s r phys).2 = s) ∧
      ((nvGmmuRangeBuild s r phys).1 ≠ 0 ↔ ¬ Rederives r ∨ ¬ Placed r phys) := by
  have derived : Rederives r ↔ Planned r := ⟨rederives_planned, planned_rederives⟩
  rw [derived]
  rcases build_returns s r phys with ⟨planned, placed, returned⟩ | ⟨refused, returned⟩
  · rw [returned]
    refine ⟨fun _ => build_confined planned coherent placed, fun bad => absurd rfl bad, ?_⟩
    simp [planned, placed]
  · rw [returned]
    refine ⟨fun fine => by simp at fine, fun _ => rfl, ?_⟩
    simp only [ne_eq, Int.reduceNeg, reduceCtorEq, not_false_eq_true, true_iff]
    exact not_and_or.mp refused

/-- The plan of the boundary range with one level moved by a page. -/
def corruptedRange : NvGmmuRange :=
  { boundaryRange with
    levelPhys := fun i => if i = 4 then boundaryRange.levelPhys 4 + 0x1000
      else boundaryRange.levelPhys i }

theorem build_frame_boundary :
    Confined boundaryRange blankAperture
        (nvGmmuRangeBuild blankAperture boundaryRange 0x180000000).2 ∧
      (nvGmmuRangeBuild blankAperture corruptedRange 0x180000000).2 = blankAperture :=
  ⟨(build_frame blankAperture boundaryRange 0x180000000 (Or.inl rfl)).1 (by decide +kernel),
    (build_frame blankAperture corruptedRange 0x180000000 (Or.inl rfl)).2.1 (by decide +kernel)⟩

end GspDriver.GmmuFrame
