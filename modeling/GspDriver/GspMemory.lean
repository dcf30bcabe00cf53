import GspDriver.GmmuFrame
import GspDriver.VramRange

/-!
`nv_gsp_memory_plan` of gsp_memory.c: one owned span of video memory for an
external address space, cut into a service area, the application's memory, the
page tables and the channel area. The region table is read below `numRegions`;
a missing console span is `none`.
-/

namespace GspDriver.GspMemory

open Vram VramRange Gmmu

def nvGspServiceBytes : UInt64 := 0x100000
def nvGspChannelBytes : UInt64 := 0x10000
def nvGspAppVaBase : UInt64 := 0x20000000
def nvVramMinAppBytes : UInt64 := (1 : UInt64) <<< 30
def nvGspFbregionMax : UInt32 := 16
def maxAppBytes : UInt64 := (1 : UInt64) <<< 39
def regionEnd : UInt64 := (1 : UInt64) <<< 40

structure NvGspFbRegion where
  base : UInt64
  limit : UInt64
  reserved : UInt64
  prot : UInt8

structure NvGspStaticInfo where
  numRegions : UInt32
  regions : Nat → NvGspFbRegion

structure NvGspMemoryLayout where
  owned : NvVramSpan
  tables : NvGmmuRange
  servicePhys : UInt64
  appPhys : UInt64
  appVa : UInt64
  appBytes : UInt64
  channelPhys : UInt64

def NvGspMemoryLayout.zero : NvGspMemoryLayout := ⟨.zero, .zero, 0, 0, 0, 0, 0⟩

/-- The spans available among the first `count` regions; `none` is an error. A
region with a reserve is left out whole: the reserve has no position. -/
def availableSpans (si : NvGspStaticInfo) : Nat → Option (List NvVramSpan)
  | 0 => some []
  | i + 1 =>
      match availableSpans si i with
      | none => none
      | some available =>
          let r := si.regions i
          if r.base > r.limit ∨ r.limit ≥ regionEnd then none
          else if ∃ j < i, r.base ≤ (si.regions j).limit ∧ (si.regions j).base ≤ r.limit then none
          else if r.reserved ≠ 0 ∨ r.prot ≠ 0 then some available
          else some (available ++ [⟨r.base, r.limit - r.base + 1⟩])

def excludedSpans (extra : Option NvVramSpan) : List NvVramSpan :=
  ⟨0, 0x20000000⟩ :: (extra.filter fun span => span.size ≠ 0).toList

/-- The end of the plan, once a span for it is owned. -/
def layOut (appBytes mapped tableBytes : UInt64) (found : Int × NvVramSpan) :
    Int × NvGspMemoryLayout :=
  if found.1 ≠ 0 then (found.1, .zero)
  else
    let owned := found.2
    let planned := nvGmmuRangePlan nvGspAppVaBase mapped (owned.base + mapped) tableBytes
    if planned.1 ≠ 0 then (-1, .zero)
    else (0, {
      owned := owned
      tables := planned.2
      servicePhys := owned.base
      appPhys := owned.base + nvGspServiceBytes
      appVa := nvGspAppVaBase + nvGspServiceBytes
      appBytes := appBytes
      channelPhys := planned.2.tablePhys + tableBytes })

/-- Return code and `*out`; `none` when the search has not ended. -/
def nvGspMemoryPlan (si : NvGspStaticInfo) (appBytes : UInt64) (extra : Option NvVramSpan) :
    Option (Int × NvGspMemoryLayout) :=
  if si.numRegions = 0 ∨ si.numRegions > nvGspFbregionMax ∨ appBytes < nvVramMinAppBytes ∨
      (appBytes &&& 0xffff) ≠ 0 ∨ appBytes > maxAppBytes then some (-1, .zero)
  else
    let mapped := nvGspServiceBytes + appBytes
    let planned := nvGmmuRangePlan nvGspAppVaBase mapped 0 0
    if planned.1 ≠ -2 then some (-1, .zero)
    else
      let total := mapped + planned.2.tableBytes + nvGspChannelBytes
      match availableSpans si si.numRegions.toNat with
      | none => some (-1, .zero)
      | some available =>
          if available = [] then some (-2, .zero)
          else (nvVramFindRange available (excludedSpans extra) total 0x10000).map
            (layOut appBytes mapped planned.2.tableBytes)

end GspDriver.GspMemory
