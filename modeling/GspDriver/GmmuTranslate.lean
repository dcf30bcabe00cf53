import GspDriver.GmmuBuild

/-!
The page walk of the hardware over the finished tables. `translate` follows
the entry bytes from the root and uses none of the driver's planner, index or
encoder functions. An entry is invalid when its aperture or valid bit says so.
-/

namespace GspDriver.GmmuTranslate

open Bytes Words Pramin Radix Gmmu GmmuRange GmmuBuild

def entryTarget (entry : Nat) : Nat := entry / 2 ^ 8 % 2 ^ 40 * 4096

def pdeTarget (entry : Nat) : Option Nat :=
  if entry / 2 % 4 = 1 then some (entryTarget entry) else none

def pteTarget (entry : Nat) : Option Nat :=
  if entry % 2 = 1 then some (entryTarget entry) else none

def gmmuLevels : List Level :=
  [ { shift := 47, fan := 4, locate := fun table i => table + 8 * i, decode := pdeTarget },
    { shift := 38, fan := 512, locate := fun table i => table + 8 * i, decode := pdeTarget },
    { shift := 29, fan := 512, locate := fun table i => table + 8 * i, decode := pdeTarget },
    { shift := 21, fan := 256, locate := fun table i => table + (16 * i + 8), decode := pdeTarget },
    { shift := 12, fan := 512, locate := fun table i => table + 8 * i, decode := pteTarget } ]

/-- Physical address of `a`, or `none` when some level faults. -/
def translate (vram : Mem) (root a : Nat) : Option Nat :=
  (walk (fun place => load vram place 8) gmmuLevels root a).map fun page => page + a % 4096

def targetOf (n : Nat) : Nat → Option Nat := if n = 4 then pteTarget else pdeTarget

/-- The hardware finds the page that an entry was made from. -/
theorem target_page (n target : Nat) (page : 4096 ∣ target) (bound : target + 4096 ≤ reach) :
    targetOf n ((target / 16 + if n = 4 then 1 else 2) % 256 ^ 8) = some target := by
  simp only [reach] at bound
  rw [targetOf]
  by_cases leaf : n = 4
  · simp only [leaf, ↓reduceIte, pteTarget, entryTarget]
    rw [if_pos (by omega)]
    congr 1
    omega
  · simp only [leaf, ↓reduceIte, pdeTarget, entryTarget]
    rw [if_pos (by omega)]
    congr 1
    omega

def levelAt (n : Nat) : Level :=
  { shift := shiftOf (n + 1), fan := fanOf n
    locate := fun table i => table + slotOffset n i, decode := targetOf n }

theorem gmmuLevels_eq :
    gmmuLevels = [levelAt 0, levelAt 1, levelAt 2, levelAt 3, levelAt 4] := by
  simp [gmmuLevels, levelAt, shiftOf, fanOf, slotOffset, targetOf]

theorem target_zero (n : Nat) : targetOf n 0 = none := by
  rw [targetOf]
  split <;> rfl

/-- Tables linked for a range of whole pages translate the range and nothing else. -/
theorem linked_translates {vram : Mem} {node : Nat → Nat → Nat} {va size phys : Nat}
    (vaPage : 4096 ∣ va) (sizePage : 4096 ∣ size) (nonempty : 0 < size)
    (inside : va + size ≤ 2 ^ 49)
    (linked : Linked va (va + size - 1) (fun place => load vram place 8) node 0 (shiftOf 0)
      gmmuLevels)
    (pages : ∀ q, node 5 q = phys + 4096 * (q - va / 4096)) (a : Nat) (addressable : a < 2 ^ 49) :
    translate vram (node 0 0) a =
      if va ≤ a ∧ a < va + size then some (phys + (a - va)) else none := by
  have width : shiftOf 0 = 49 := rfl
  have pageShift : lastShift 49 gmmuLevels = 12 := rfl
  have depth : 0 + gmmuLevels.length = 5 := rfl
  have top : a / 2 ^ 49 = 0 := by omega
  have rootMeets : Meets va (va + size - 1) (shiftOf 0) (a / 2 ^ shiftOf 0) := by
    rw [Meets, width]
    omega
  have walked := walk_linked gmmuLevels _ node 0 a linked rootMeets
  have leaf : Meets va (va + size - 1) 12 (a / 2 ^ 12) ↔ va ≤ a ∧ a ≤ va + size - 1 := by
    apply meets_page vaPage
    rw [Nat.sub_add_cancel (by omega)]
    exact Nat.dvd_add vaPage sizePage
  rw [width, top, pageShift, depth, pages] at walked
  rw [translate, walked]
  by_cases mapped : va ≤ a ∧ a < va + size
  · rw [if_pos (leaf.mpr (by omega)), if_pos mapped, Option.map_some]
    congr 1
    omega
  · rw [if_neg (mt leaf.mp (by omega)), if_neg mapped, Option.map_none]

section Range

variable {r : NvGmmuRange} (planned : Planned r) {phys : UInt64} (physPage : 2 ^ 12 ∣ phys.toNat)
  (room : phys.toNat + r.bytes.toNat ≤ reach) (m : Mem)
include planned physPage room

theorem level_linked (n : Nat) (level : n < 5) (q : Nat)
    (meets : Meets (low r) (high r) (shiftOf n) (q / fanOf n)) :
    targetOf n (load (storeEntries (clear m r.tablePhys.toNat r.tableBytes.toNat)
        (entries r phys)) (node r phys n (q / fanOf n) + slotOffset n (q % fanOf n)) 8) =
      if Meets (low r) (high r) (shiftOf (n + 1)) q then some (node r phys (n + 1) q) else none := by
  have value := entry_value planned phys m level meets
  rw [entryAt] at value
  rw [node, if_pos level, value]
  by_cases child : Meets (low r) (high r) (shiftOf (n + 1)) q
  · have bound := node_bound planned room (by omega) child
    have page := node_page planned physPage (n + 1) q
    rw [if_pos child, if_pos child]
    exact target_page n _ page bound
  · rw [if_neg child, if_neg child, target_zero]

theorem arena_linked :
    Linked (low r) (high r)
      (fun place => load (storeEntries (clear m r.tablePhys.toNat r.tableBytes.toNat)
        (entries r phys)) place 8) (node r phys) 0 (shiftOf 0) gmmuLevels := by
  have linked := level_linked planned physPage room m
  rw [gmmuLevels_eq]
  refine ⟨scale 0 (by omega), linked 0 (by omega), ?_⟩
  refine ⟨scale 1 (by omega), linked 1 (by omega), ?_⟩
  refine ⟨scale 2 (by omega), linked 2 (by omega), ?_⟩
  refine ⟨scale 3 (by omega), linked 3 (by omega), ?_⟩
  exact ⟨scale 4 (by omega), linked 4 (by omega), trivial⟩

end Range

theorem built_translates {r : NvGmmuRange} (plan : Planned r) {phys : UInt64} {s built : Aperture}
    (coherent : Coherent s) (constructed : nvGmmuRangeBuild s r phys = (0, built)) (a : Nat)
    (addressable : a < 2 ^ 49) :
    translate built.io.vram (r.levelPhys 0).toNat a =
      if r.va.toNat ≤ a ∧ a < r.va.toNat + r.bytes.toNat then
        some (phys.toNat + (a - r.va.toNat))
      else none := by
  obtain ⟨physPage, room, tracks⟩ := build_tracks plan (tracks_self coherent) constructed
  have linked := arena_linked plan physPage room s.io.vram
  have root : node r phys 0 0 = (r.levelPhys 0).toNat := by
    have first := plan.phys 0 (by omega)
    rw [first, node, if_pos (by omega), table, Nat.zero_sub, Nat.add_zero]
  rw [← tracks.vram_eq] at linked
  rw [← root]
  exact linked_translates plan.vaPage plan.bytesPage plan.nonempty plan.inside linked
    (fun q => if_neg (by decide)) a addressable

/-- The whole range, and nothing but the range, is mapped. -/
theorem range_translates (va bytes tablePhys capacity phys : UInt64) (r : NvGmmuRange)
    (s built : Aperture)
    (planned : nvGmmuRangePlan va bytes tablePhys capacity = (0, r))
    (coherent : Coherent s) (constructed : nvGmmuRangeBuild s r phys = (0, built)) :
    ∀ a < 2 ^ 49, translate built.io.vram (r.levelPhys 0).toNat a =
      if va.toNat ≤ a ∧ a < va.toNat + bytes.toNat then
        some (phys.toNat + (a - va.toNat))
      else none := by
  intro a addressable
  obtain ⟨rfl, rfl, rfl, plan⟩ := plan_spec va bytes tablePhys capacity r planned
  exact built_translates plan coherent constructed a addressable

def blankAperture : Aperture :=
  { io := { window := 0, regs := fun _ => 0, vram := fun _ => 0xff, accesses := [] }
    winBase := ~~~0 }

/-- Two pages on both sides of a 2 MiB boundary. -/
def boundaryRange : NvGmmuRange := (nvGmmuRangePlan 0x1ff000 0x2000 0x200000 0x6000).2

theorem range_translates_boundary :
    (∀ a < 2 ^ 49,
      translate (nvGmmuRangeBuild blankAperture boundaryRange 0x180000000).2.io.vram
          (boundaryRange.levelPhys 0).toNat a =
        if 0x1ff000 ≤ a ∧ a < 0x1ff000 + 0x2000 then some (0x180000000 + (a - 0x1ff000))
        else none) ∧ boundaryRange.levelCount 4 = 2 :=
  ⟨range_translates 0x1ff000 0x2000 0x200000 0x6000 0x180000000 boundaryRange blankAperture _
      (Prod.ext (by decide +kernel) rfl) (Or.inl rfl) (Prod.ext (by decide +kernel) rfl),
    by decide +kernel⟩

end GspDriver.GmmuTranslate
