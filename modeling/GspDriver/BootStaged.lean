import GspDriver.BootTree

/-!
What the staging leaves in the arena. Each of its stores stays within the
allocations it is meant for, so whatever the last store to an allocation brings
about is still there when the GSP starts, and is found at its bus address.
-/

namespace GspDriver.BootStaged

open Bytes LittleEndian GspRpc GspFbLayout Radix3 Patches StoreFields BootArguments QueueStart
open BootTree

/-! Every patch stays within its parts. -/

theorem mem_parts (part : Part) : part ∈ parts := by
  cases part <;> decide

section Confined

variable {fw : Firmware} {card : Card} {stack : Stack} {place : Part → Area} {n2 l2p : UInt32}
  {lay : NvGspFbLayout}

def areaOf (fw : Firmware) (l2p : UInt32) (place : Part → Area) (part : Part) : Nat × Nat :=
  (va place part, (partSize fw l2p part).toNat)

theorem parts_disjoint {ar : NvDmaArena} {off : Part → Nat}
    (offsets : Offsets ar (partSize fw l2p) parts place off) :
    Patch.Disjoint (areaOf fw l2p place) := by
  intro i j differ x here there
  have either : parts.Pairwise fun p q => off p + (partSize fw l2p p).toNat ≤ off q ∨
      off q + (partSize fw l2p q).toNat ≤ off p := offsets.behind.imp Or.inl
  have symmetric : Std.Symm fun p q => off p + (partSize fw l2p p).toNat ≤ off q ∨
      off q + (partSize fw l2p q).toNat ≤ off p := ⟨fun _ _ => Or.symm⟩
  have apart := either.forall (mem_parts i) (mem_parts j) differ
  have first := (offsets.starts i (mem_parts i)).1
  have second := (offsets.starts j (mem_parts j)).1
  simp only [Patch.InArea, areaOf, va] at here there
  omega

theorem confined_one {part : Part} {p : Patch}
    (inside : ∀ x, p.covers x → va place part ≤ x ∧
      x < va place part + (partSize fw l2p part).toNat) :
    Patch.Confined (areaOf fw l2p place) ([part], p) :=
  fun x covered => ⟨part, List.mem_singleton_self part, inside x covered⟩

theorem lvl2_size (few : l2p.toNat ≤ 512) :
    (partSize fw l2p .lvl2).toNat = l2p.toNat * 0x1000 := by
  have page : (0x1000 : UInt64).toNat = 0x1000 := rfl
  change (l2p.toUInt64 * 0x1000).toNat = _
  rw [Words.mul_toNat (by rw [UInt32.toNat_toUInt64, page]; omega), UInt32.toNat_toUInt64, page]

theorem radix3_confined (few : l2p.toNat ≤ 512) (pages : n2.toNat * 8 ≤ l2p.toNat * 0x1000) :
    Patch.Confined (areaOf fw l2p place) ([.lvl2, .lvl1, .lvl0], radix3Patch place n2 l2p) := by
  intro x covered
  have size := @lvl2_size fw l2p few
  rcases covered with second | first | root
  · have inside := table_covers second
    refine ⟨.lvl2, by simp, ?_⟩
    rw [Patch.InArea, areaOf, size]
    omega
  · have inside := table_covers first
    refine ⟨.lvl1, by simp, ?_⟩
    change va place .lvl1 ≤ x ∧ x < va place .lvl1 + 0x1000
    omega
  · refine ⟨.lvl0, by simp, ?_⟩
    change va place .lvl0 ≤ x ∧ x < va place .lvl0 + 8 at root
    change va place .lvl0 ≤ x ∧ x < va place .lvl0 + 0x1000
    omega

theorem meta_covers {x : Nat} (covered : (metaPatch fw card place lay).covers x) :
    va place .wprMeta ≤ x ∧ x < va place .wprMeta + 0x1000 := by
  rcases covered with cleared | stored
  · change va place .wprMeta ≤ x ∧ x < va place .wprMeta + 256 at cleared
    omega
  · have length : (metaWords lay (metaSrc fw card place)).length = 25 := rfl
    have inside := fields_covers (quads_within length) stored
    omega

theorem arg_covers {base x : Nat} {region : NvGspLibosRegion}
    (covered : (fieldsPatch base (argFields region)).covers x) : base ≤ x ∧ x < base + 32 := by
  have within : Within 32 ((argFields region).map extent) :=
    show Within 32 [(0, 8), (8, 8), (16, 8), (24, 1), (25, 1)] by decide
  exact fields_covers within covered

def argArea (place : Part → Area) (i : Nat) : Nat × Nat := (va place .libos + i * 32, 32)

theorem args_confined : ∀ t ∈ argPatches place, Patch.Confined (argArea place) t := by
  have entry : ∀ i region, Patch.Confined (argArea place)
      ([i], fieldsPatch (va place .libos + i * 32) (argFields region)) :=
    fun i region x covered => ⟨i, List.mem_singleton_self i, arg_covers covered⟩
  simp only [argPatches, regs, List.zipIdx_cons, List.zipIdx_nil, List.map_cons, List.map_nil,
    List.forall_mem_cons]
  refine ⟨?_, entry _ _, entry _ _, entry _ _, entry _ _, by simp⟩
  intro x covered
  change va place .libos ≤ x ∧ x < va place .libos + 128 at covered
  refine ⟨(x - va place .libos) / 32, ?_, ?_⟩
  · have slot : (x - va place .libos) / 32 < 4 := by omega
    simp only [List.mem_cons, List.not_mem_nil, or_false]
    omega
  · rw [Patch.InArea, argArea]
    omega

theorem args_covers {x : Nat} (covered : (Patch.sequence (argPatches place)).covers x) :
    va place .libos ≤ x ∧ x < va place .libos + 0x1000 := by
  obtain ⟨q, listed, there⟩ := Patch.all_covers.mp covered
  obtain ⟨t, member, rfl⟩ := List.mem_map.mp listed
  obtain ⟨i, tagged, inside⟩ := args_confined t member x there
  have small : ∀ t ∈ argPatches place, ∀ i ∈ t.1, i < 4 := by
    simp [argPatches, regs]
  have below := small t member i tagged
  rw [Patch.InArea, argArea] at inside
  omega

theorem log_covers {part : Part} {x : Nat} (covered : (logPatch place part).covers x) :
    va place part ≤ x ∧ x < va place part + 0x10000 := by
  have inside := table_covers covered
  omega

theorem shm_covers {dma : UInt64} {x : Nat} (covered : (shmPatch dma).covers x) : x < 0x81000 := by
  rcases covered with cleared | table | command | message | none
  · change 0 ≤ x ∧ x < 0 + 0x81000 at cleared
    omega
  · have inside := table_covers table
    omega
  · have inside := fields_covers (header_within _) command
    omega
  · have inside := fields_covers (header_within _) message
    omega
  · exact none.elim

theorem rmargs_covers {x : Nat} (covered : (rmargsPatch place).covers x) :
    va place .rmargs ≤ x ∧ x < va place .rmargs + 0x1000 := by
  have within : Within 80 ((rmargsFields (place .shm).io nvGspShmCompute).map extent) :=
    show Within 80 [(0, 8), (8, 4), (16, 8), (24, 8)] by decide
  rcases covered with cleared | stored
  · change va place .rmargs ≤ x ∧ x < va place .rmargs + 80 at cleared
    omega
  · have inside := fields_covers within stored
    omega

theorem stage_confined (few : l2p.toNat ≤ 512) (pages : n2.toNat * 8 ≤ l2p.toNat * 0x1000) :
    ∀ t ∈ stagePatches fw card place n2 l2p lay, Patch.Confined (areaOf fw l2p place) t := by
  have blSize : (partSize fw l2p .bl).toNat = fw.bl.dataSize.toNat := UInt32.toNat_toUInt64 _
  have shmSize : (partSize fw l2p .shm).toNat = 0x81000 := totalSize_eq
  simp only [stagePatches, List.forall_mem_cons]
  refine ⟨confined_one fun _ => id, confined_one fun _ => id, confined_one ?_,
    confined_one fun _ => id, confined_one fun _ => id, confined_one ?_,
    radix3_confined few pages, confined_one fun _ => id, confined_one fun _ => meta_covers,
    confined_one fun _ => id, confined_one fun _ => args_covers, confined_one fun _ => id,
    confined_one fun _ => id, confined_one fun _ => id, confined_one fun _ => id,
    confined_one fun _ => log_covers, confined_one fun _ => log_covers,
    confined_one fun _ => log_covers, confined_one ?_, confined_one fun _ => rmargs_covers,
    by simp⟩
  · rw [blSize]
    exact fun _ => id
  · rw [lvl2_size few]
    exact fun _ => id
  · intro x covered
    have below := shm_covers covered.2
    have above : va place .shm ≤ x := covered.1
    rw [shmSize]
    omega

end Confined

/-! What stands in the arena at the end. -/

theorem slice_onBuffer (m : Mem) (base : Nat) (buf : Mem) :
    Patch.slice (onBuffer m base buf) base = buf := by
  funext o
  rw [Patch.slice, onBuffer, if_pos (Nat.le_add_right base o), Nat.add_sub_cancel_left]

section Staged

variable {fw : Firmware} {card : Card} {stack : Stack} {place : Part → Area} {n2 l2p : UInt32}
  {lay : NvGspFbLayout} {ar : NvDmaArena} {off : Part → Nat}

/-- The commands are queued within the shared region. -/
theorem queued_outside {m : Mem} {x : Nat}
    (outside : x < va place .shm ∨ va place .shm + 0x81000 ≤ x) :
    queued card stack place m x = m x := by
  rw [queued, onBuffer]
  by_cases above : va place .shm ≤ x
  · rw [if_pos above, preboot_outside _ _ _ (by omega) (by omega), Patch.slice,
      Nat.add_sub_cancel' above]
  · rw [if_neg above]

theorem queued_keeps {t : List Part × Patch} (disjoint : Patch.Disjoint (areaOf fw l2p place))
    (confined : Patch.Confined (areaOf fw l2p place) t) (elsewhere : Part.shm ∉ t.1) :
    t.2.Keeps (queued card stack place) := by
  intro m x covered
  obtain ⟨i, member, inside⟩ := confined x covered
  have other : i ≠ .shm := by
    rintro rfl
    exact elsewhere member
  have apart := disjoint i .shm other x inside
  have size : (areaOf fw l2p place .shm).2 = 0x81000 := totalSize_eq
  rw [Patch.InArea, size] at apart
  apply queued_outside
  change ¬ (va place .shm ≤ x ∧ x < va place .shm + 0x81000) at apart
  omega

variable (offsets : Offsets ar (partSize fw l2p) parts place off) (few : l2p.toNat ≤ 512)
  (entries : n2.toNat * 8 ≤ l2p.toNat * 0x1000) (m : Mem)
include offsets few entries

theorem staged (k : Nat) {mine : List Part} {p : Patch}
    (here : (stagePatches fw card place n2 l2p lay)[k]? = some (mine, p))
    (last : ∀ js ∈ stageOrder.drop (k + 1), ∀ j ∈ js, j ∉ mine) (elsewhere : Part.shm ∉ mine)
    (fact : Mem → Prop) (brought : ∀ m, fact (p.write m)) :
    fact (queued card stack place (built fw card place n2 l2p lay m)) := by
  have disjoint := parts_disjoint offsets
  have confined := @stage_confined fw card place n2 l2p lay few entries
  exact Patch.settled_last disjoint confined here rfl last fact
    (queued_keeps disjoint (confined (mine, p) (List.mem_of_getElem? here)) elsewhere) brought

theorem copied {k n : Nat} {part : Part} {bytes : Nat → UInt8}
    (here : (stagePatches fw card place n2 l2p lay)[k]? =
      some ([part], Patch.blit (va place part) n bytes))
    (last : ∀ js ∈ stageOrder.drop (k + 1), ∀ j ∈ js, j ∉ [part])
    (elsewhere : Part.shm ∉ [part]) {o : Nat} (inside : o < n) :
    queued card stack place (built fw card place n2 l2p lay m) (va place part + o) = bytes o := by
  apply staged offsets few entries m k here last elsewhere
    (fun m => m (va place part + o) = bytes o)
  intro m
  rw [Patch.blit_write, blit_inside _ _ _ _ _ (by omega), Nat.add_sub_cancel_left]

theorem image_found (arena : InArena ar) (fits : fw.sec.fwimageSize.toNat ≤ 2 ^ 30)
    (pages : n2.toNat = imagePages fw.sec.fwimageSize.toNat)
    (tables : l2p.toNat = tablePages fw.sec.fwimageSize.toNat) {o : Nat}
    (inside : o < fw.sec.fwimageSize.toNat) :
    lookup (busRead ar (queued card stack place (built fw card place n2 l2p lay m)))
      (place .lvl0).io.toNat o = some ((place .fwimg).io.toNat + o) := by
  have next : ∀ p q, [p, q].Sublist parts → off p + (partSize fw l2p p).toNat ≤ off q :=
    fun p q order => List.rel_of_pairwise_cons (offsets.behind.sublist order)
      (List.mem_singleton_self q)
  have upper := next .lvl2 .lvl1 (by decide)
  rw [lvl2_size few] at upper
  have placed : Placed ar fw.sec.fwimageSize.toNat l2p.toNat
      ⟨place .fwimg, place .lvl2, place .lvl1, place .lvl0⟩ (off .fwimg) (off .lvl2) (off .lvl1)
      (off .lvl0) :=
    { fwimg := offsets.starts .fwimg (by decide)
      lvl2 := offsets.starts .lvl2 (by decide)
      lvl1 := offsets.starts .lvl1 (by decide)
      lvl0 := offsets.starts .lvl0 (by decide)
      image := next .fwimg .lvl2 (by decide)
      tables := by omega
      table := next .lvl1 .lvl0 (by decide)
      top := offsets.room .lvl0 (by decide) }
  apply staged offsets few entries m 6 rfl (by decide) (by decide)
    (fun m => lookup (busRead ar m) (place .lvl0).io.toNat o =
      some ((place .fwimg).io.toNat + o))
  intro m
  have filling : (radix3Patch place n2 l2p).write m =
      filled m ⟨place .fwimg, place .lvl2, place .lvl1, place .lvl0⟩ n2 l2p := by
    rw [filled, st64_eq_store, table_patch, table_patch]
    rfl
  rw [filling]
  exact filled_lookup arena placed fits pages tables m inside

theorem meta_staged :
    readWords (queued card stack place (built fw card place n2 l2p lay m)) (va place .wprMeta) 25 =
      metaWords lay (metaSrc fw card place) := by
  apply staged offsets few entries m 8 rfl (by decide) (by decide)
    (fun m => readWords m (va place .wprMeta) 25 = metaWords lay (metaSrc fw card place))
  intro m
  rw [metaPatch, Patch.andThen_write, ← storeAt_patch]
  exact quads_read _ _ _

omit offsets few entries in
theorem args_brought : (List.range 4).map (fun i => readArg
    ((Patch.sequence (argPatches place)).write m) (va place .libos + i * 32)) =
      (regs place).map asArg := by
  have disjoint : Patch.Disjoint (argArea place) := by
    intro i j differ x here there
    simp only [Patch.InArea, argArea] at here there
    omega
  have entry : ∀ k i region, (argPatches place)[k]? =
        some ([i], fieldsPatch (va place .libos + i * 32) (argFields region)) →
      (∀ js ∈ [[0, 1, 2, 3], [0], [1], [2], [3]].drop (k + 1), ∀ j ∈ js, j ∉ [i]) →
      readArg ((Patch.sequence (argPatches place)).write m) (va place .libos + i * 32) =
        asArg region := by
    intro k i region here last
    apply Patch.settled_last disjoint args_confined here rfl last
      (fun m => readArg m (va place .libos + i * 32) = asArg region) (fun _ _ _ => rfl)
    intro m
    rw [← storeAt_patch]
    exact arg_read _ _ _
  change [_, _, _, _] = [_, _, _, _]
  dsimp only
  rw [entry 1 0 _ rfl (by decide), entry 2 1 _ rfl (by decide), entry 3 2 _ rfl (by decide),
    entry 4 3 _ rfl (by decide)]

theorem args_staged : (List.range 4).map (fun i => readArg
    (queued card stack place (built fw card place n2 l2p lay m)) (va place .libos + i * 32)) =
      (regs place).map asArg := by
  apply staged offsets few entries m 10 rfl (by decide) (by decide)
    (fun m => (List.range 4).map (fun i => readArg m (va place .libos + i * 32)) =
      (regs place).map asArg)
  exact args_brought

theorem log_staged {part : Part} (log : part ∈ [Part.loginit, .logintr, .logrm]) {i : Nat}
    (inside : i < 16) :
    ld64 (queued card stack place (built fw card place n2 l2p lay m)) (va place part + 8 + 8 * i) =
      (place part).io + UInt64.ofNat i * nvGspPageSize := by
  have brought : ∀ part (m : Mem), ld64 ((logPatch place part).write m)
      (va place part + 8 + 8 * i) = (place part).io + UInt64.ofNat i * nvGspPageSize := by
    intro part m
    rw [logPatch, ← table_patch]
    exact table_read m _ _ inside
  have each : ∀ (k : Nat) (part : Part), (stagePatches fw card place n2 l2p lay)[k]? =
        some ([part], logPatch place part) →
      (∀ js ∈ stageOrder.drop (k + 1), ∀ j ∈ js, j ∉ [part]) → Part.shm ∉ [part] →
      ld64 (queued card stack place (built fw card place n2 l2p lay m))
        (va place part + 8 + 8 * i) = (place part).io + UInt64.ofNat i * nvGspPageSize :=
    fun k part here last elsewhere => staged offsets few entries m k here last elsewhere
      (fun m => ld64 m (va place part + 8 + 8 * i) =
        (place part).io + UInt64.ofNat i * nvGspPageSize) (brought part)
  simp only [List.mem_cons, List.not_mem_nil, or_false] at log
  rcases log with rfl | rfl | rfl
  · exact each 15 .loginit rfl (by decide) (by decide)
  · exact each 16 .logintr rfl (by decide) (by decide)
  · exact each 17 .logrm rfl (by decide) (by decide)

/-- The page array starts behind the put pointer, which stays cleared. -/
theorem log_pointer {part : Part} (log : part ∈ [Part.loginit, .logintr, .logrm]) :
    ld64 (queued card stack place (built fw card place n2 l2p lay m)) (va place part + 0) = 0 := by
  have disjoint := parts_disjoint offsets
  have confined := @stage_confined fw card place n2 l2p lay few entries
  have each : ∀ (k : Nat) (part : Part), (stagePatches fw card place n2 l2p lay)[k]? =
        some ([part], Patch.clear (va place part) nvGspLibosLogSize.toNat) → Part.shm ∉ [part] →
      (∀ x < va place part + 8, ∀ t ∈ (stagePatches fw card place n2 l2p lay).drop (k + 1),
        ∀ i ∈ t.1, i ∈ [part] → ¬ t.2.covers x) →
      ld64 (queued card stack place (built fw card place n2 l2p lay m))
        (va place part + 0) = 0 := by
    intro k part here elsewhere spared
    apply UInt64.toNat_inj.mp
    rw [ld64_toNat]
    apply load_zero
    intro i below
    have size : nvGspLibosLogSize.toNat = 0x10000 := rfl
    have covered : (Patch.clear (va place part) nvGspLibosLogSize.toNat).covers
        (va place part + 0 + i) := ⟨by omega, by omega⟩
    rw [queued_keeps disjoint (confined _ (List.mem_of_getElem? here)) elsewhere _ _ covered,
      built, Patch.settled_byte disjoint confined here covered (spared _ (by omega)) m]
    exact clear_inside _ _ _ _ covered
  have behind : ∀ part, ∀ x < va place part + 8, ¬ (logPatch place part).covers x := by
    intro part x below covered
    have inside := table_covers covered
    omega
  simp only [List.mem_cons, List.not_mem_nil, or_false] at log
  rcases log with rfl | rfl | rfl
  · refine each 11 .loginit rfl (by decide) fun x below => ?_
    simp [stagePatches, behind .loginit x below]
  · refine each 12 .logintr rfl (by decide) fun x below => ?_
    simp [stagePatches, behind .logintr x below]
  · refine each 13 .logrm rfl (by decide) fun x below => ?_
    simp [stagePatches, behind .logrm x below]

theorem rmargs_staged :
    readRmargs (queued card stack place (built fw card place n2 l2p lay m)) (va place .rmargs) =
      ⟨(place .shm).io, 129, 0x1000, 0x41000⟩ := by
  apply staged offsets few entries m 19 rfl (by decide) (by decide)
    (fun m => readRmargs m (va place .rmargs) = ⟨(place .shm).io, 129, 0x1000, 0x41000⟩)
  intro m
  rw [rmargsPatch, Patch.andThen_write, ← storeAt_patch]
  exact rmargs_read _ _ _ _

theorem queues_staged :
    Started (Patch.slice (queued card stack place (built fw card place n2 l2p lay m))
      (va place .shm)) (place .shm).io (orZeros card.pci) := by
  have upToDate : (shmPatch (place .shm).io).write (Patch.slice
      (built fw card place n2 l2p lay m) (va place .shm)) =
        Patch.slice (built fw card place n2 l2p lay m) (va place .shm) := by
    apply Patch.settled_last (parts_disjoint offsets)
      (@stage_confined fw card place n2 l2p lay few entries) (k := 18) rfl
      (show _ = stageOrder from rfl)
      (by decide) (fun m => (shmPatch (place .shm).io).write (Patch.slice m (va place .shm)) =
        Patch.slice m (va place .shm)) (fun _ _ _ => rfl)
    intro m
    rw [Patch.slice_shift]
    exact Patch.written_again (f := fun m => m) fun _ _ _ => rfl
  rw [queued, slice_onBuffer, ← upToDate, ← shm_built]
  exact preboot_started _ _ _ _

end Staged

/-! What the Booter and the GSP find on the bus. -/

section Bus

variable {ar : NvDmaArena} {area : Area} {o : Nat} (starts : StartsAt ar area o) (m : Mem)
include starts

theorem bus_at (k : Nat) : busMem ar m (area.io.toNat + k) = m (area.va.toNat + k) := by
  obtain ⟨vaAt, ioAt⟩ := starts
  have back : ar.va.toNat + (area.io.toNat + k - ar.dmaAddr.toNat) = area.va.toNat + k := by omega
  rw [busMem, back]

theorem bus_ld64 (k : Nat) :
    ld64 (busMem ar m) (area.io.toNat + k) = ld64 m (area.va.toNat + k) := by
  apply ld64_congr
  intro i _
  rw [Nat.add_assoc, Nat.add_assoc]
  exact bus_at starts m (k + i)

theorem bus_ld32 (k : Nat) :
    ld32 (busMem ar m) (area.io.toNat + k) = ld32 m (area.va.toNat + k) := by
  apply ld32_congr
  intro i _
  rw [Nat.add_assoc, Nat.add_assoc]
  exact bus_at starts m (k + i)

theorem bus_words (n : Nat) :
    readWords (busMem ar m) area.io.toNat n = readWords m area.va.toNat n := by
  simp only [readWords, bus_ld64 starts m]

theorem bus_arg (k : Nat) :
    readArg (busMem ar m) (area.io.toNat + k) = readArg m (area.va.toNat + k) := by
  simp only [readArg, Nat.add_assoc, bus_ld64 starts m, bus_at starts m]

theorem bus_rmargs : readRmargs (busMem ar m) area.io.toNat = readRmargs m area.va.toNat := by
  simp only [readRmargs, bus_ld64 starts m, bus_ld32 starts m]

theorem bus_slice : Patch.slice (busMem ar m) area.io.toNat = Patch.slice m area.va.toNat :=
  funext (bus_at starts m)

end Bus

/-- Everything at its address, from the two addresses that the driver hands over: the
meta structure's to the Booter and that of the libos arguments to the GSP. -/
structure Staged (fw : Firmware) (card : Card) (ar : NvDmaArena) (lay : NvGspFbLayout)
    (place : Part → Area) (m : Mem) : Prop where
  wprMeta : readWords (busMem ar m) (place .wprMeta).io.toNat 25 =
    metaWords lay (metaSrc fw card place)
  image : ∀ o < (metaSrc fw card place).radix3ElfSize.toNat,
    ∃ d, lookup (busRead ar m) (metaSrc fw card place).radix3Lvl0Dma.toNat o = some d ∧
      busMem ar m d = fw.fwimage o
  bootloader : ∀ o < (metaSrc fw card place).bootloaderSize.toNat,
    busMem ar m ((metaSrc fw card place).bootloaderDma.toNat + o) = fw.boot o
  signature : ∀ o < (metaSrc fw card place).signatureSize.toNat,
    busMem ar m ((metaSrc fw card place).signatureDma.toNat + o) = fw.sig o
  libos : (List.range 4).map (fun i => readArg (busMem ar m) ((place .libos).io.toNat + i * 32)) =
    (regs place).map asArg
  logs : ∀ part ∈ [Part.loginit, .logintr, .logrm],
    ld64 (busMem ar m) ((place part).io.toNat + 0) = 0 ∧
      ∀ i < 16, ld64 (busMem ar m) ((place part).io.toNat + (8 + 8 * i)) =
        (place part).io + UInt64.ofNat i * nvGspPageSize
  rmargs : readRmargs (busMem ar m) (place .rmargs).io.toNat =
    ⟨(place .shm).io, 129, 0x1000, 0x41000⟩
  queues : Started (Patch.slice (busMem ar m) (place .shm).io.toNat) (place .shm).io
    (orZeros card.pci)

theorem queued_staged {fw : Firmware} {card : Card} (stack : Stack) {place : Part → Area}
    {n2 l2p : UInt32} {lay : NvGspFbLayout} {ar : NvDmaArena} {off : Part → Nat}
    (offsets : Offsets ar (partSize fw l2p) parts place off) (arena : InArena ar)
    (fits : fw.sec.fwimageSize.toNat ≤ 2 ^ 30) (few : l2p.toNat ≤ 512)
    (pages : n2.toNat = imagePages fw.sec.fwimageSize.toNat)
    (tables : l2p.toNat = tablePages fw.sec.fwimageSize.toNat) (m : Mem) :
    Staged fw card ar lay place (queued card stack place (built fw card place n2 l2p lay m)) := by
  have entries : n2.toNat * 8 ≤ l2p.toNat * 0x1000 := by
    rw [pages, tables, tablePages]
    omega
  have starts := fun part => offsets.starts part (mem_parts part)
  refine ⟨?_, ?_, ?_, ?_, ?_, ?_, ?_, ?_⟩
  · rw [bus_words (starts .wprMeta)]
    exact meta_staged offsets few entries m
  · intro o inside
    refine ⟨_, image_found offsets few entries m arena fits pages tables inside, ?_⟩
    rw [bus_at (starts .fwimg)]
    exact copied offsets few entries m (k := 0) rfl (by decide) (by decide) inside
  · intro o inside
    have size : (metaSrc fw card place).bootloaderSize.toNat = fw.bl.dataSize.toNat :=
      UInt32.toNat_toUInt64 _
    rw [size] at inside
    refine (bus_at (starts .bl) _ o).trans ?_
    exact copied offsets few entries m (k := 2) rfl (by decide) (by decide) inside
  · intro o inside
    refine (bus_at (starts .sig) _ o).trans ?_
    exact copied offsets few entries m (k := 1) rfl (by decide) (by decide) inside
  · simp only [bus_arg (starts .libos)]
    exact args_staged offsets few entries m
  · intro part log
    refine ⟨?_, fun i inside => ?_⟩
    · rw [bus_ld64 (starts part)]
      exact log_pointer offsets few entries m log
    · rw [bus_ld64 (starts part), ← Nat.add_assoc]
      exact log_staged offsets few entries m log inside
  · rw [bus_rmargs (starts .rmargs)]
    exact rmargs_staged offsets few entries m
  · rw [bus_slice (starts .shm)]
    exact queues_staged offsets few entries m

/-- The arena of a real buffer: it neither wraps nor is it larger than the address space. -/
structure RealArena where
  ar : NvDmaArena
  inside : InArena ar

theorem partSize_small (fw : Firmware) {l2p : UInt32} (few : l2p.toNat ≤ 512) (part : Part) :
    (partSize fw l2p part).toNat ≤ fwMaxSize := by
  have max : fwMaxSize = 0x4000000 := rfl
  cases part with
  | fwimg => exact fw.sizes_small.1
  | sig => exact fw.sizes_small.2.1
  | bl => exact Nat.le_trans (Nat.le_of_eq (UInt32.toNat_toUInt64 _)) fw.sizes_small.2.2
  | lvl2 =>
      rw [lvl2_size few]
      omega
  | loginit | logintr | logrm => exact show nvGspLibosLogSize.toNat ≤ fwMaxSize by decide
  | shm => exact show nvGspShmCompute.totalSize.toNat ≤ fwMaxSize by decide
  | fwsec | booter => exact show (0x100000 : UInt64).toNat ≤ fwMaxSize by decide
  | vbios => exact show nvVbiosScanMax.toNat ≤ fwMaxSize by decide
  | lvl1 | lvl0 | wprMeta | libos | rmargs =>
      exact show (0x1000 : UInt64).toNat ≤ fwMaxSize by decide

/-- The staging reads within the files. It fails for an empty image, a full arena
or a layout that does not fit, and else leaves everything where its reader finds it. -/
theorem boot_staged (fw : Firmware) (card : Card) (stack : Stack) (arena : RealArena)
    (unset : Part → Area) (m : Mem) :
    fw.CopiesInside ∧ match stageBoot fw card stack arena.ar unset m with
    | .error rc => rc = -1 ∧ (fw.sec.fwimageSize = 0 ∨
        (∃ n2 l2p, nvGspRadix3Levels fw.sec.fwimageSize = .ok (n2, l2p) ∧
          allocate (partSize fw l2p) parts arena.ar unset = none) ∨
        ∀ lay, layout fw card ≠ (0, some lay))
    | .ok (place, after) => ∃ lay, layout fw card = (0, some lay) ∧
        Staged fw card arena.ar lay place after := by
  refine ⟨fw.copies_inside, ?_⟩
  have fits : fw.sec.fwimageSize.toNat ≤ 2 ^ 30 := Nat.le_trans fw.sizes_small.1 (by decide)
  rcases @levels_spec fw.sec.fwimageSize (by omega) with
    ⟨zero, refused⟩ | ⟨large, _⟩ | ⟨_, _, few, n2, l2p, counted, pages, tables⟩
  · have failed : stageBoot fw card stack arena.ar unset m = .error (-1) := by
      rw [stageBoot, refused]
      rfl
    rw [failed]
    exact ⟨rfl, Or.inl (UInt64.toNat_inj.mp zero)⟩
  · omega
  rw [← tables] at few
  have begun : stageBoot fw card stack arena.ar unset m =
      (Checked.orFail (allocate (partSize fw l2p) parts arena.ar unset) (-1)).bind fun place =>
        (stage fw card stack place l2p m).map fun after => (place, after) := by
    rw [stageBoot, counted, orFail_ok, Checked.ok_bind]
    rfl
  cases taken : allocate (partSize fw l2p) parts arena.ar unset with
  | none =>
      rw [begun, taken]
      exact ⟨rfl, Or.inr (Or.inl ⟨n2, l2p, counted, taken⟩)⟩
  | some place =>
      have through : stageBoot fw card stack arena.ar unset m =
          (stage fw card stack place l2p m).map fun after => (place, after) := by
        rw [begun, taken]
        rfl
      by_cases laid : ∃ lay, layout fw card = (0, some lay)
      · obtain ⟨lay, laid⟩ := laid
        obtain ⟨off, offsets⟩ := allocate_offsets (partSize_small fw few) (by decide)
          arena.inside taken
        rw [through, stage_eq fw card stack place n2 l2p lay m counted laid]
        exact ⟨lay, laid, queued_staged stack offsets arena.inside fits few pages tables m⟩
      · have failed : stage fw card stack place l2p m = .error (-1) := by
          simp only [stage, radix3_built fw place n2 l2p _ counted, orFail, Checked.ok_bind]
          split
          · rename_i lay found
            exact absurd ⟨lay, found⟩ laid
          · rfl
        rw [through, failed]
        exact ⟨rfl, Or.inr (Or.inr fun lay found => laid ⟨lay, found⟩)⟩

/-- 5000 bytes of `.fwimage` from 0x1000 on and 64 of `.fwsignature_ad10x` from 0x200 on. -/
def smallElf : Blob where
  len := 0x2388
  bytes x :=
    if 0x1000 ≤ x then UInt8.ofNat x
    else ([(0, 0x7f), (1, 0x45), (2, 0x4c), (3, 0x46), (4, 2), (5, 1), (0x28, 64), (0x3a, 64),
      (0x3c, 3), (0x59, 1), (0x60, 29), (0x80, 1), (0x99, 0x10), (0xa0, 0x88), (0xa1, 0x13),
      (0xc0, 10), (0xd9, 2), (0xe0, 64)] ++
      (0 :: Elf64.fwimageName ++ 0 :: fwsignatureName).zipIdx.map fun (byte : UInt8 × Nat) =>
        (0x100 + byte.2, byte.1)).lookup x |>.getD 0

/-- The descriptor lies from 24 on, 20 bytes of code behind it. -/
def smallBootloader : Blob where
  len := 0x80
  bytes x :=
    if 0x6c ≤ x then UInt8.ofNat x
    else ([(0, 0xde), (1, 0x10), (12, 24), (16, 0x6c), (20, 20)].lookup x).getD 0

def smallFirmware : Firmware where
  gsp := ⟨smallElf, by decide⟩
  blb := ⟨smallBootloader, by decide⟩
  unset := ⟨0, 0, 0, 0⟩
  sec := ⟨0x1000, 5000, 0x200, 64⟩
  bl := ⟨0x6c, 20, 0, 0, 0, 0, 0⟩
  sections := by decide +kernel
  parsed := rfl

/-- The 64 MiB of the driver, at 1 GiB on the bus. -/
def driverArena : RealArena where
  ar := ⟨0x100000000, 0x40000000, 0, 0x4000000⟩
  inside := ⟨by decide, by decide, by decide, by decide⟩

def deskCard : Card := ⟨0x300000000, 0x2ff800000, 0x100000, none⟩

theorem boot_staged_small : ∃ place after lay,
    stageBoot smallFirmware deskCard ⟨fun _ => 0, fun _ => 0⟩ driverArena.ar
        (fun _ => ⟨0, 0⟩) (fun _ => 0) = .ok (place, after) ∧
      Staged smallFirmware deskCard driverArena.ar lay place after := by
  have staged := (boot_staged smallFirmware deskCard ⟨fun _ => 0, fun _ => 0⟩ driverArena
    (fun _ => ⟨0, 0⟩) (fun _ => 0)).2
  cases ended : stageBoot smallFirmware deskCard ⟨fun _ => 0, fun _ => 0⟩ driverArena.ar
      (fun _ => ⟨0, 0⟩) (fun _ => 0) with
  | error rc =>
    rw [ended] at staged
    obtain ⟨_, empty | ⟨n2, l2p, counted, full⟩ | refused⟩ := staged
    · exact absurd empty (by decide)
    · have two : nvGspRadix3Levels smallFirmware.sec.fwimageSize = .ok (2, 1) := rfl
      cases two.symm.trans counted
      have room : (allocate (partSize smallFirmware 1) parts driverArena.ar
          fun _ => ⟨0, 0⟩).isSome = true := by decide +kernel
      rw [full] at room
      cases room
    · have accepted : (layout smallFirmware deskCard).2.isSome = true ∧
          (layout smallFirmware deskCard).1 = 0 := by decide +kernel
      obtain ⟨lay, laid⟩ := Option.isSome_iff_exists.mp accepted.1
      exact absurd (Prod.ext accepted.2 laid) (refused lay)
  | ok result =>
    rw [ended] at staged
    obtain ⟨lay, _, staged⟩ := staged
    exact ⟨result.1, result.2, lay, rfl, staged⟩

end GspDriver.BootStaged
