import GspDriver.CpuSequencer

/-!
Which dwords the CPU sequencer fetches. The interpreter checks the pointer only
before an opcode, so its reads stay within the stream exactly when no command
that the stream reaches is cut off, by the index or by the message that carries
it. A run is stopped early only by an unknown opcode, a refused command or a
poll whose mask drops a bit of the awaited value.
-/

namespace GspDriver.SequencerBounds

open Bytes LittleEndian Loop GspRpc Falcon CpuSequencer

/-- The operands of the command at `p`, past its opcode. -/
def argsAt (cb : Nat → UInt32) (p : Nat) : UInt32 → UInt32 := fun i => cb (p + 1 + i.toNat)

/-- The command starts that a run can reach. -/
inductive Reaches (cb : Nat → UInt32) (cmdIndex : Nat) : Nat → Prop where
  | start : Reaches cb cmdIndex 0
  | next {p : Nat} {op : SeqOp} : Reaches cb cmdIndex p → p < cmdIndex →
      seqOpOf (cb p) = some op → Passable op (argsAt cb p) →
      Reaches cb cmdIndex (p + 1 + op.operands.toNat)

/-- All dwords of the command at `p` may be fetched, and none is missing. -/
structure Whole (cb : Nat → UInt32) (cmdIndex : Nat) (inside : Nat → Prop) (p : Nat) : Prop where
  opcode : inside p
  complete : ∀ op, seqOpOf (cb p) = some op → p + 1 + op.operands.toNat ≤ cmdIndex
  operands : ∀ op, seqOpOf (cb p) = some op → ∀ i < op.fetches, inside (p + 1 + i)

/-- A run keeps to the dwords it may fetch, and refuses a command that is cut off. -/
def Confined (cmdIndex : Nat) (inside : Nat → Prop) (run : Option Int × SeqState) : Prop :=
  ∀ met ∈ run.2.log, (∀ ptr ∈ met.fetched, inside ptr.toNat) ∧
    (cmdIndex < met.ends → run.1 = some (-1) ∧ ∀ access ∈ met.accesses, ¬ access.IsRegister)

theorem operands_few (op : SeqOp) : op.fetches ≤ op.operands.toNat ∧ op.operands.toNat ≤ 5 := by
  cases op <;> decide

theorem fetches_all {op : SeqOp} (other : op ≠ .regPoll) : op.fetches = op.operands.toNat := by
  cases op <;> first | rfl | exact absurd rfl other

theorem offset_toNat {ptr : UInt32} {i : Nat} (fits : ptr.toNat + i < 2 ^ 32) :
    (ptr + UInt32.ofNat i).toNat = ptr.toNat + i := by
  rw [UInt32.toNat_add, UInt32.toNat_ofNat']
  omega

theorem next_toNat {ptr n : UInt32} (fits : ptr.toNat + 1 + n.toNat < 2 ^ 32) :
    (ptr + 1 + n).toNat = ptr.toNat + 1 + n.toNat := by
  have one : (1 : UInt32).toNat = 1 := rfl
  rw [UInt32.toNat_add, UInt32.toNat_add, one]
  omega

theorem mem_fetchedAt {ptr word : UInt32} {count : Nat} :
    word ∈ fetchedAt ptr count ↔ ∃ i ≤ count, word = ptr + UInt32.ofNat i := by
  simp only [fetchedAt, List.mem_map, List.mem_range, Nat.lt_succ_iff]
  constructor
  · rintro ⟨i, small, same⟩
    exact ⟨i, small, same.symm⟩
  · rintro ⟨i, small, same⟩
    exact ⟨i, small, same.symm⟩

section Run

variable {cb : Nat → UInt32} {cmdIndex : UInt32} {inside : Nat → Prop} {spins : Nat} {c : SeqCtx}

/-- The arguments that the interpreter passes are the operands, as far as they are whole. -/
theorem passable_iff {ptr : UInt32} {op : SeqOp}
    (fits : ptr.toNat + 1 + op.operands.toNat < 2 ^ 32) :
    Passable op (fun i => cb (ptr + 1 + i).toNat) ↔ Passable op (argsAt cb ptr.toNat) := by
  by_cases poll : op = .regPoll
  · subst poll
    have five : SeqOp.regPoll.operands.toNat = 5 := rfl
    have one : (1 : UInt32).toNat = 1 := rfl
    have two : (2 : UInt32).toNat = 2 := rfl
    simp only [Passable, argsAt,
      next_toNat (show ptr.toNat + 1 + (1 : UInt32).toNat < 2 ^ 32 by omega),
      next_toNat (show ptr.toNat + 1 + (2 : UInt32).toNat < 2 ^ 32 by omega)]
  · simp only [Passable, poll, false_implies]

/-! A stream whose commands are whole. -/

def Kept (cmdIndex : UInt32) (inside : Nat → Prop) (log : List Met) : Prop :=
  ∀ met ∈ log, (∀ ptr ∈ met.fetched, inside ptr.toNat) ∧ met.ends ≤ cmdIndex.toNat

theorem kept_append {log : List Met} {met : Met} (kept : Kept cmdIndex inside log)
    (fetched : ∀ ptr ∈ met.fetched, inside ptr.toNat) (ends : met.ends ≤ cmdIndex.toNat) :
    Kept cmdIndex inside (log ++ [met]) := by
  intro other member
  rcases List.mem_append.mp member with old | new
  · exact kept other old
  · cases List.mem_singleton.mp new
    exact ⟨fetched, ends⟩

/-- What one turn does when every command the stream reaches is whole. -/
theorem turn_keeps (whole : ∀ p, Reaches cb cmdIndex.toNat p → p < cmdIndex.toNat →
      Whole cb cmdIndex.toNat inside p) {s : SeqState}
    (reached : Reaches cb cmdIndex.toNat s.ptr.toNat) (kept : Kept cmdIndex inside s.log) :
    match seqTurn spins c cb cmdIndex s with
    | .again next => Reaches cb cmdIndex.toNat next.ptr.toNat ∧ Kept cmdIndex inside next.log
    | .stop run => Kept cmdIndex inside run.2.log := by
  have bound := cmdIndex.toNat_lt
  by_cases more : s.ptr < cmdIndex
  · have below := UInt32.lt_iff_toNat_lt.mp more
    have here := whole _ reached below
    cases found : seqOpOf (cb s.ptr.toNat) with
    | none =>
        simp only [seqTurn, if_pos more, found]
        apply kept_append kept
        · intro ptr member
          obtain ⟨i, small, rfl⟩ := mem_fetchedAt.mp member
          rw [offset_toNat (by omega), Nat.le_zero.mp small]
          exact here.opcode
        · exact below
    | some op =>
        have complete := here.complete op found
        obtain ⟨fewer, few⟩ := operands_few op
        have fetched : ∀ ptr ∈ fetchedAt s.ptr op.fetches, inside ptr.toNat := by
          intro ptr member
          obtain ⟨i, small, rfl⟩ := mem_fetchedAt.mp member
          rw [offset_toNat (by omega)]
          cases i with
          | zero => exact here.opcode
          | succ i =>
              have operand := here.operands op found i (by omega)
              rwa [Nat.add_right_comm] at operand
        simp only [seqTurn, if_pos more, found]
        -- Only a command that succeeds passes the pointer on to the next.
        by_cases ok : (seqCommand spins c op (fun i => cb (s.ptr + 1 + i).toNat) s.regSave
            { answers := s.answers, trace := [] }).1.1 = some 0
        · simp only [if_pos ok]
          refine ⟨?_, kept_append kept fetched complete⟩
          rw [SeqState.after, next_toNat (by omega)]
          exact .next reached below found ((passable_iff (by omega)).mp (passable_of_success ok))
        · simp only [if_neg ok]
          exact kept_append kept fetched complete
  · simp only [seqTurn, if_neg more]
    exact kept

theorem run_keeps (whole : ∀ p, Reaches cb cmdIndex.toNat p → p < cmdIndex.toNat →
      Whole cb cmdIndex.toNat inside p) (turns : Nat) {s : SeqState}
    (reached : Reaches cb cmdIndex.toNat s.ptr.toNat) (kept : Kept cmdIndex inside s.log) :
    Kept cmdIndex inside (seqRun spins c cb cmdIndex turns s).2.log := by
  induction turns generalizing s with
  | zero => exact kept
  | succ turns ih =>
      have step := @turn_keeps cb cmdIndex inside spins c whole s reached kept
      rw [seqRun]
      cases taken : seqTurn spins c cb cmdIndex s with
      | again next =>
          rw [taken] at step
          exact ih step.1 step.2
      | stop run =>
          rw [taken] at step
          exact step

/-! A run that is confined whatever the card answers. -/

/-- Some answers bring the run to the command at `p`. -/
def Arrives (c : SeqCtx) (cb : Nat → UInt32) (cmdIndex : UInt32) (regSave : RegSave) (p : Nat) :
    Prop :=
  ∃ turns given, ∀ rest, ∃ s : SeqState, s.ptr.toNat = p ∧ s.answers = rest ∧ ∀ more,
    seqRun 1 c cb cmdIndex (turns + more) ⟨0, regSave, Stream'.appendStream' given rest, []⟩ =
      seqRun 1 c cb cmdIndex more s

theorem arrives_start (regSave : RegSave) : Arrives c cb cmdIndex regSave 0 := by
  refine ⟨0, [], fun rest => ⟨⟨0, regSave, rest, []⟩, rfl, rfl, fun more => ?_⟩⟩
  rw [Nat.zero_add]
  rfl

theorem arrives_next {regSave : RegSave} {p : Nat} {op : SeqOp}
    (arrived : Arrives c cb cmdIndex regSave p) (below : p < cmdIndex.toNat)
    (found : seqOpOf (cb p) = some op) (passable : Passable op (argsAt cb p))
    (complete : p + 1 + op.operands.toNat ≤ cmdIndex.toNat) :
    Arrives c cb cmdIndex regSave (p + 1 + op.operands.toNat) := by
  have bound := cmdIndex.toNat_lt
  obtain ⟨turns, given, arrived⟩ := arrived
  refine ⟨turns + 1, given ++ favourable op (argsAt cb p), fun rest => ?_⟩
  obtain ⟨s, place, left, runs⟩ :=
    arrived (Stream'.appendStream' (favourable op (argsAt cb p)) rest)
  subst place
  have more := UInt32.lt_iff_toNat_lt.mpr below
  -- The arguments lie below the index, so 32-bit places are the plain ones.
  have same : favourable op (argsAt cb s.ptr.toNat) =
      favourable op fun i => cb (s.ptr + 1 + i).toNat := by
    cases op with
    | regPoll =>
        have five : SeqOp.regPoll.operands.toNat = 5 := rfl
        have two : (2 : UInt32).toNat = 2 := rfl
        simp only [favourable, argsAt,
          next_toNat (show s.ptr.toNat + 1 + (2 : UInt32).toNat < 2 ^ 32 by omega)]
    | regStore =>
        have three : SeqOp.regStore.operands.toNat = 2 := rfl
        have one : (1 : UInt32).toNat = 1 := rfl
        simp only [favourable, argsAt,
          next_toNat (show s.ptr.toNat + 1 + (1 : UInt32).toNat < 2 ^ 32 by omega)]
        rfl
    | _ => rfl
  obtain ⟨ok, after⟩ := @favourable_succeeds 0 c op (fun i => cb (s.ptr + 1 + i).toNat)
    ((passable_iff (by omega)).mpr passable) s.regSave rest []
  rw [same] at left
  have card : (⟨s.answers, []⟩ : Mmio) =
      answering (favourable op fun i => cb (s.ptr + 1 + i).toNat) rest [] := by
    rw [left]
    rfl
  have turn : seqTurn 1 c cb cmdIndex s = .again (s.after op (seqCommand 1 c op
      (fun i => cb (s.ptr + 1 + i).toNat) s.regSave ⟨s.answers, []⟩)) := by
    rw [seqTurn, if_pos more]
    simp only [found, card]
    exact if_pos ok
  refine ⟨s.after op (seqCommand 1 c op (fun i => cb (s.ptr + 1 + i).toNat) s.regSave
    ⟨s.answers, []⟩), next_toNat (by omega), ?_, fun others => ?_⟩
  · simp only [SeqState.after, card]
    exact after
  · rw [Stream'.append_append_stream, Nat.add_assoc, runs, Nat.add_comm 1 others, seqRun, turn]

/-- The first dword that is cut off would be fetched, as the pointer is still a machine word. -/
theorem fetched_below (below : ∀ i, inside i → i < cmdIndex.toNat) {ptr : UInt32} {count : Nat}
    (fetched : ∀ word ∈ fetchedAt ptr count, inside word.toNat) :
    ∀ i ≤ count, ptr.toNat + i < cmdIndex.toNat ∧ inside (ptr.toNat + i) := by
  have bound := cmdIndex.toNat_lt
  intro i
  induction i with
  | zero =>
      intro small
      have here := fetched _ (mem_fetchedAt.mpr ⟨0, small, rfl⟩)
      rw [offset_toNat (by have := ptr.toNat_lt; omega)] at here
      exact ⟨below _ here, here⟩
  | succ i ih =>
      intro small
      have earlier := (ih (by omega)).1
      have here := fetched _ (mem_fetchedAt.mpr ⟨i + 1, small, rfl⟩)
      rw [offset_toNat (by omega)] at here
      exact ⟨below _ here, here⟩

/-- A poll that is cut off has read its register before the index is checked. -/
theorem poll_touches {arg : UInt32 → UInt32} {regSave : RegSave} {io : Mmio} :
    ∃ access ∈ (seqCommand (spins + 1) c .regPoll arg regSave io).1.2.trace, access.IsRegister :=
  ⟨_, poll_reads, trivial⟩

theorem whole_here (below : ∀ i, inside i → i < cmdIndex.toNat) {s : SeqState}
    (confined : Confined cmdIndex.toNat inside (seqRun 1 c cb cmdIndex 1 s))
    (more : s.ptr.toNat < cmdIndex.toNat) : Whole cb cmdIndex.toNat inside s.ptr.toNat := by
  have runs := UInt32.lt_iff_toNat_lt.mpr more
  cases found : seqOpOf (cb s.ptr.toNat) with
  | none =>
      have met := confined ⟨s.ptr, fetchedAt s.ptr 0, s.ptr.toNat + 1, []⟩ (by
        simp only [seqRun, seqTurn, if_pos runs, found]
        exact List.mem_append_right _ (List.mem_singleton.mpr rfl))
      have here := fetched_below below met.1 0 (Nat.le_refl 0)
      have unknown : ∀ op, seqOpOf (cb s.ptr.toNat) ≠ some op := by
        intro op other
        cases found.symm.trans other
      exact ⟨here.2, fun op other => absurd other (unknown op),
        fun op other => absurd other (unknown op)⟩
  | some op =>
      let done := seqCommand 1 c op (fun i => cb (s.ptr + 1 + i).toNat) s.regSave ⟨s.answers, []⟩
      have member : ⟨s.ptr, fetchedAt s.ptr op.fetches, s.ptr.toNat + 1 + op.operands.toNat,
          done.1.2.trace⟩ ∈ (seqRun 1 c cb cmdIndex 1 s).2.log := by
        simp only [seqRun, seqTurn, if_pos runs, found]
        split
        · rename_i taken
          split at taken
          · cases taken
            exact List.mem_append_right _ (List.mem_singleton.mpr rfl)
          · cases taken
        · rename_i taken
          split at taken
          · cases taken
          · cases taken
            exact List.mem_append_right _ (List.mem_singleton.mpr rfl)
      obtain ⟨fetched, refused⟩ := confined _ member
      have within := fetched_below below fetched
      refine ⟨(within 0 (Nat.zero_le _)).2, ?_, ?_⟩
      · intro other same
        cases found.symm.trans same
        -- A poll has one operand that it never fetches, but it reads its register first.
        by_cases poll : op = .regPoll
        · subst poll
          refine Nat.le_of_not_lt fun cut => ?_
          obtain ⟨access, made, touches⟩ := @poll_touches 0 c _ s.regSave ⟨s.answers, []⟩
          exact (refused cut).2 access made touches
        · have last := (within op.fetches (Nat.le_refl _)).1
          have all := fetches_all poll
          show s.ptr.toNat + 1 + op.operands.toNat ≤ cmdIndex.toNat
          omega
      · intro other same i few
        cases found.symm.trans same
        have operand := (within (i + 1) few).2
        rwa [← Nat.add_assoc, Nat.add_right_comm] at operand

/-- The runs over all answers are confined exactly when every command reached is whole. -/
theorem confined_iff (below : ∀ i, inside i → i < cmdIndex.toNat) (regSave : RegSave) :
    (∀ turns spins c answers, Confined cmdIndex.toNat inside
        (execCpuSequencer turns spins c cb cmdIndex regSave answers)) ↔
      ∀ p, Reaches cb cmdIndex.toNat p → p < cmdIndex.toNat →
        Whole cb cmdIndex.toNat inside p := by
  constructor
  -- The answers that bring a run to a command are chosen one command at a time.
  · intro confined
    have here : ∀ p, Arrives ⟨0, 0, 0⟩ cb cmdIndex regSave p → p < cmdIndex.toNat →
        Whole cb cmdIndex.toNat inside p := by
      rintro p ⟨turns, given, arrived⟩ more
      obtain ⟨s, rfl, _, runs⟩ := arrived (Stream'.const 0)
      have run := confined (turns + 1) 1 ⟨0, 0, 0⟩ (Stream'.appendStream' given (Stream'.const 0))
      rw [execCpuSequencer, runs 1] at run
      exact whole_here below run more
    intro p reached more
    have arrived : Arrives ⟨0, 0, 0⟩ cb cmdIndex regSave p := by
      clear more
      induction reached with
      | start => exact arrives_start regSave
      | next _ more found passable ih =>
          exact arrives_next ih more found passable ((here _ ih more).complete _ found)
    exact here p arrived more
  · intro whole turns spins c answers met member
    obtain ⟨fetched, ends⟩ :=
      run_keeps whole turns (s := ⟨0, regSave, answers, []⟩) .start (fun _ none => by cases none)
        met member
    exact ⟨fetched, fun cut => absurd ends (by omega)⟩

end Run

/-! The message that carries the stream. -/

/-- Dword `i` of the buffer lies below the index, within the message and within the queue. -/
structure InMessage (m : Mem) (rptr : UInt32) (i : Nat) : Prop where
  index : i < (seqCmdIndex m (msgqEntry nvGspShmCompute rptr)).toNat
  message : 120 + 4 * i + 4 ≤
    48 + (ld32 m (msgqEntry nvGspShmCompute rptr + nvGspRpcHdrOff + nvGspRpcFLength)).toNat
  queue : msgqEntry nvGspShmCompute rptr + 120 + 4 * i + 4 ≤
    nvGspShmCompute.msgqOff.toNat + nvGspQueueSize.toNat

/-- For every content of shared memory and every slot, the sequencer call for
the message there is confined on every card exactly when each command that its
stream reaches is whole. -/
theorem sequencer_confined_iff (m : Mem) (rptr : UInt32) :
    (∀ turns spins c answers, Confined (seqCmdIndex m (msgqEntry nvGspShmCompute rptr)).toNat
        (InMessage m rptr)
        ((runSequencer turns spins c m (msgqEntry nvGspShmCompute rptr) answers).1,
          (runSequencer turns spins c m (msgqEntry nvGspShmCompute rptr) answers).2.1)) ↔
      ∀ p, Reaches (seqBuffer m (msgqEntry nvGspShmCompute rptr))
          (seqCmdIndex m (msgqEntry nvGspShmCompute rptr)).toNat p →
        p < (seqCmdIndex m (msgqEntry nvGspShmCompute rptr)).toNat →
        Whole (seqBuffer m (msgqEntry nvGspShmCompute rptr))
          (seqCmdIndex m (msgqEntry nvGspShmCompute rptr)).toNat (InMessage m rptr) p :=
  confined_iff (fun _ inside => inside.index) _

/-- A message in slot 0 whose index is 1 and whose only command is a register write. -/
def cutOffWrite : Mem := fun a => if a = 0x42038 then 76 else if a = 0x42054 then 1 else 0

theorem cut_off_write_runs :
    (runSequencer 1 1 ⟨0, 0, 0⟩ cutOffWrite (msgqEntry nvGspShmCompute 0) (Stream'.const 0)).2.1.log.map
      (fun met => (met.fetched, met.accesses)) = [([0, 1, 2], [.wr 0 0])] := by
  decide +kernel

/-- The operands past the index are fetched, and the register is written. -/
theorem sequencer_overruns : ∃ m : Mem, (seqCmdIndex m (msgqEntry nvGspShmCompute 0)).toNat = 1 ∧
    ∃ turns spins c answers, ¬ Confined (seqCmdIndex m (msgqEntry nvGspShmCompute 0)).toNat
      (InMessage m 0)
      ((runSequencer turns spins c m (msgqEntry nvGspShmCompute 0) answers).1,
        (runSequencer turns spins c m (msgqEntry nvGspShmCompute 0) answers).2.1) := by
  have one : (seqCmdIndex cutOffWrite (msgqEntry nvGspShmCompute 0)).toNat = 1 := by decide +kernel
  refine ⟨cutOffWrite, one, 1, 1, ⟨0, 0, 0⟩, Stream'.const 0, fun confined => ?_⟩
  have listed := cut_off_write_runs
  obtain ⟨met, member, shape⟩ := List.mem_map.mp
    (listed ▸ List.mem_singleton.mpr (Eq.refl ([0, 1, 2], [Access.wr 0 0])))
  have fetched : met.fetched = [0, 1, 2] := congrArg Prod.fst shape
  have past := (confined met member).1 2 (by rw [fetched]; decide)
  have below := past.index
  rw [one] at below
  exact absurd below (by decide)

end GspDriver.SequencerBounds
