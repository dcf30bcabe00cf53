import GspDriver.GpuCopy

/-!
What one submission leaves in video memory. The ring, the pushbuffer and the
semaphore lie apart, so every word that `submission` writes stays, and the GPU
reads back the copy that the call asked for.
-/

namespace GspDriver.GpuSubmission

open Bytes LittleEndian Words Pramin GspFifo GpuCopy

/-- The ring, the pushbuffer and the semaphore lie one behind the other, for the
GPU and in video memory, and GP_PUT lies where no GPU address leads. -/
structure Wired (translate : Nat → Option Nat) (w : Wiring) : Prop where
  entries : 0 < w.ringEntries.toNat ∧ w.ringEntries.toNat ≤ 0x200
  near : w.ringVa.toNat + 0x3000 ≤ 2 ^ 40
  aligned : 4 ∣ w.ringVa.toNat
  pbVa : w.pbVa.toNat = w.ringVa.toNat + 0x1000
  semVa : w.semVa.toNat = w.ringVa.toNat + 0x2000
  inside : w.ringPhys.toNat + 0x3000 ≤ reach
  pbPhys : w.pbPhys.toNat = w.ringPhys.toNat + 0x1000
  semPhys : w.semPhys.toNat = w.ringPhys.toNat + 0x2000
  userd : w.userdPhys.toNat + 0x90 ≤ reach
  apart : w.userdPhys.toNat + 0x90 ≤ w.ringPhys.toNat ∨
    w.ringPhys.toNat + 0x3000 ≤ w.userdPhys.toNat + 0x8c
  mapped : ∀ off < 0x3000, translate (w.ringVa.toNat + off) = some (w.ringPhys.toNat + off)
  hidden : ∀ va place, translate va = some place →
    place < w.userdPhys.toNat + 0x8c ∨ w.userdPhys.toNat + 0x90 ≤ place

/-- The copy that a call submits. -/
def launchFor (w : Wiring) (call : Call) : Launch where
  object := if call.setObj ≠ 0 then some call.setObj else none
  src := call.req.srcVa.toNat % 2 ^ 49
  dst := call.req.dstVa.toNat % 2 ^ 49
  bytes := call.req.bytes
  sem := w.semVa.toNat % 2 ^ 49
  payload := call.payload

section Wired

variable {translate : Nat → Option Nat} {ctx : NvGspGpuCtx}
  (wired : Wired translate ctx.toWiring)

theorem pushbuffer_length (ctx : NvGspGpuCtx) (req : Request) (setObj payload : UInt32) :
    0 < (pushbuffer ctx req setObj payload).length ∧
      (pushbuffer ctx req setObj payload).length < 16 := by
  rw [pushbuffer, nvGspFifoBuildCeCopy]
  split <;> simp

include wired

theorem put_place :
    (ctx.userdPhys + nvUserdGpPutOff).toNat = ctx.userdPhys.toNat + 0x8c := by
  have room := wired.userd
  simp only [reach] at room
  exact add_toNat (by simp only [nvUserdGpPutOff, UInt64.reduceToNat]; omega)

theorem word_place {i : Nat} (few : i < 16) :
    (ctx.pbPhys + (UInt32.ofNat i * 4).toUInt64).toNat = ctx.ringPhys.toNat + 0x1000 + 4 * i := by
  have room := wired.inside
  have pb := wired.pbPhys
  simp only [reach] at room
  have index : (UInt32.ofNat i).toNat = i := by
    rw [UInt32.toNat_ofNat']
    omega
  have offset : (UInt32.ofNat i * 4).toUInt64.toNat = 4 * i := by
    rw [UInt32.toNat_toUInt64, UInt32.toNat_mul, index]
    simp only [UInt32.reduceToNat]
    omega
  rw [add_toNat (by omega), offset, pb]

theorem slot_place {slot : UInt32} (low : slot.toNat < ctx.ringEntries.toNat) :
    (ctx.ringPhys + (slot * 8).toUInt64).toNat = ctx.ringPhys.toNat + 8 * slot.toNat := by
  have room := wired.inside
  have few := wired.entries.2
  simp only [reach] at room
  have offset : (slot * 8).toUInt64.toNat = 8 * slot.toNat := by
    rw [UInt32.toNat_toUInt64, UInt32.toNat_mul]
    simp only [UInt32.reduceToNat]
    omega
  rw [add_toNat (by omega), offset]

theorem slot_next {slot : UInt32} (low : slot.toNat < ctx.ringEntries.toNat) :
    (ctx.ringPhys + (slot * 8).toUInt64 + 4).toNat = ctx.ringPhys.toNat + 8 * slot.toNat + 4 := by
  have here := slot_place wired low
  have room := wired.inside
  have few := wired.entries.2
  simp only [reach] at room
  rw [add_toNat (by rw [here]; simp only [UInt64.reduceToNat]; omega), here]
  rfl

omit wired in
theorem mem_submission {req : Request} {setObj payload : UInt32} {write : UInt64 × UInt32} :
    write ∈ submission ctx req setObj payload ↔
      write = (ctx.semPhys, 0) ∨
      (∃ i, ∃ h : i < (pushbuffer ctx req setObj payload).length,
        write = (ctx.pbPhys + (UInt32.ofNat i * 4).toUInt64,
          (pushbuffer ctx req setObj payload)[i])) ∨
      write = (ctx.ringPhys + (ctx.gpPut % ctx.ringEntries * 8).toUInt64,
        (nvGspFifoGpfifoEntry ctx.pbVa
          (UInt32.ofNat (pushbuffer ctx req setObj payload).length)).1) ∨
      write = (ctx.ringPhys + (ctx.gpPut % ctx.ringEntries * 8).toUInt64 + 4,
        (nvGspFifoGpfifoEntry ctx.pbVa
          (UInt32.ofNat (pushbuffer ctx req setObj payload).length)).2) := by
  simp only [submission, List.cons_append, List.mem_cons, List.mem_append, List.mem_mapIdx,
    List.not_mem_nil, or_false]
  constructor
  · rintro (sem | ⟨i, inside, here⟩ | first | second)
    · exact Or.inl sem
    · exact Or.inr (Or.inl ⟨i, inside, here.symm⟩)
    · exact Or.inr (Or.inr (Or.inl first))
    · exact Or.inr (Or.inr (Or.inr second))
  · rintro (sem | ⟨i, inside, here⟩ | first | second)
    · exact Or.inl sem
    · exact Or.inr (Or.inl ⟨i, inside, here.symm⟩)
    · exact Or.inr (Or.inr (Or.inl first))
    · exact Or.inr (Or.inr (Or.inr second))

theorem slot_low : (ctx.gpPut % ctx.ringEntries).toNat < ctx.ringEntries.toNat := by
  rw [UInt32.toNat_mod]
  exact Nat.mod_lt _ wired.entries.1

theorem submission_inside {req : Request} {setObj payload : UInt32} {write : UInt64 × UInt32}
    (member : write ∈ submission ctx req setObj payload) :
    ctx.ringPhys.toNat ≤ write.1.toNat ∧ write.1.toNat + 4 ≤ ctx.ringPhys.toNat + 0x3000 := by
  have few := wired.entries.2
  have low := slot_low wired
  rcases mem_submission.mp member with rfl | ⟨i, inside, rfl⟩ | rfl | rfl
  · have sem := wired.semPhys
    change ctx.ringPhys.toNat ≤ ctx.semPhys.toNat ∧ ctx.semPhys.toNat + 4 ≤ _
    omega
  · have short := (pushbuffer_length ctx req setObj payload).2
    have place := word_place wired (i := i) (by omega)
    simp only [place]
    omega
  · have place := slot_place wired low
    simp only [place]
    omega
  · have place := slot_next wired low
    simp only [place]
    omega

def Clear (a b : UInt64 × UInt32) : Prop :=
  a.1.toNat + 4 ≤ b.1.toNat ∨ b.1.toNat + 4 ≤ a.1.toNat

theorem submission_clear (req : Request) (setObj payload : UInt32) :
    (submission ctx req setObj payload).Pairwise Clear := by
  have few := wired.entries.2
  have low := slot_low wired
  have short := (pushbuffer_length ctx req setObj payload).2
  have sem := wired.semPhys
  have first := slot_place wired low
  have second := slot_next wired low
  rw [submission, List.cons_append, List.pairwise_cons, List.pairwise_append]
  simp only [Clear, List.mem_append, List.mem_mapIdx, List.mem_cons, List.not_mem_nil, or_false]
  refine ⟨?_, ?_, ?_, ?_⟩
  · rintro write (⟨i, inside, rfl⟩ | rfl | rfl)
    · have place := word_place wired (i := i) (by omega)
      simp only [place]
      omega
    · simp only [first]
      omega
    · simp only [second]
      omega
  · rw [List.pairwise_iff_getElem]
    intro i j insideI insideJ below
    rw [List.length_mapIdx] at insideI insideJ
    have one := word_place wired (i := i) (by omega)
    have other := word_place wired (i := j) (by omega)
    simp only [Clear, List.getElem_mapIdx, one, other]
    omega
  · rw [List.pairwise_pair, Clear, first, second]
    omega
  · rintro write ⟨i, inside, rfl⟩ other (rfl | rfl)
    · have place := word_place wired (i := i) (by omega)
      simp only [place, first]
      omega
    · have place := word_place wired (i := i) (by omega)
      simp only [place, second]
      omega

omit wired in
/-- Reading one by one what a list holds gives the list. -/
theorem mapM_range {α : Type} (xs : List α) (read : Nat → Option α)
    (reads : ∀ i, (inside : i < xs.length) → read i = some xs[i]) :
    (List.range xs.length).mapM read = some xs := by
  induction xs generalizing read with
  | nil => rfl
  | cons x xs ih =>
      have head := reads 0 (by simp)
      have tail := ih (fun i => read (i + 1)) (fun i inside =>
        reads (i + 1) (by simpa using inside))
      rw [List.length_cons, List.range_succ_eq_map, List.mapM_cons, List.mapM_map, head]
      change (do
        let rest ← (List.range xs.length).mapM (fun i => read (i + 1))
        some (x :: rest)) = _
      rw [tail]
      rfl

/-- Memory that holds the submission leads the GPU to the copy. -/
theorem fetch_submission {req : Request} {setObj payload : UInt32} {m : Mem}
    (held : ∀ write ∈ submission ctx req setObj payload, ld32 m write.1.toNat = write.2) :
    fetch translate ctx.toWiring m (ctx.gpPut % ctx.ringEntries) =
      decode (pushbuffer ctx req setObj payload) := by
  have few := wired.entries.2
  have low := slot_low wired
  have short := (pushbuffer_length ctx req setObj payload).2
  have near := wired.near
  have pb := wired.pbVa
  have count : (UInt32.ofNat (pushbuffer ctx req setObj payload).length).toNat =
      (pushbuffer ctx req setObj payload).length := by
    rw [UInt32.toNat_ofNat']
    omega
  have first := held _ (mem_submission.mpr (Or.inr (Or.inr (Or.inl rfl))))
  have second := held _ (mem_submission.mpr (Or.inr (Or.inr (Or.inr rfl))))
  rw [slot_place wired low] at first
  rw [slot_next wired low, Nat.add_assoc] at second
  have entry := wired.mapped (8 * (ctx.gpPut % ctx.ringEntries).toNat) (by omega)
  have next := wired.mapped (8 * (ctx.gpPut % ctx.ringEntries).toNat + 4) (by omega)
  have fits : (UInt32.ofNat (pushbuffer ctx req setObj payload).length).toNat < 2 ^ 21 := by
    omega
  have length := entry_dwords ctx.pbVa fits
  have place := entry_va ctx.pbVa fits (by omega)
    (by rw [pb]; exact Nat.dvd_add wired.aligned (by decide))
  -- The entry leads to the pushbuffer, which holds the methods word by word.
  have words : (List.range (pushbuffer ctx req setObj payload).length).mapM
      (fun i => gpuLd32 translate m (ctx.pbVa.toNat + 4 * i)) =
      some (pushbuffer ctx req setObj payload) := by
    apply mapM_range
    intro i inside
    have here := held _ (mem_submission.mpr (Or.inr (Or.inl ⟨i, inside, rfl⟩)))
    have there := wired.mapped (0x1000 + 4 * i) (by omega)
    rw [word_place wired (by omega)] at here
    rw [gpuLd32, pb, Nat.add_assoc, there, Option.map_some, ← Nat.add_assoc, here]
  simp only [fetch, gpuLd32, Nat.add_assoc, entry, next, Option.map_some, Option.bind_eq_bind,
    Option.bind_some, first, second, length, place, count]
  simp only [gpuLd32] at words
  rw [words, Option.bind_some]

end Wired

end GspDriver.GpuSubmission
