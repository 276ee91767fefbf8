import Sbpf.Disassembler.Disassemble

/-!
# Jump targets

Every jump renders the label of the node at `(insn.ptr as isize + insn.off as isize + 1) as usize`.
With wrapping arithmetic that target is `insn.ptr + insn.off + 1` modulo `2 ^ 64`, whatever the
pointer and the offset.  The two `isize` sums stay in range exactly when `BranchTargetFits` holds,
and a build with overflow checks panics when it does not; a pointer at `isize::MAX` is such a case.
Every jump opcode reaches its own arm of the table in every dialect, so the line of a jump is
a text that no node affects, followed by the label of its target.
-/

namespace Sbpf

/-! ## The target -/

/-- Both `isize` sums of a jump target stay within `isize`. -/
def BranchTargetFits (insn : Insn) : Prop :=
  InIsize (usizeAsIsize insn.ptr + insn.off.toInt) ∧
    InIsize (usizeAsIsize insn.ptr + insn.off.toInt + 1)

instance (insn : Insn) : Decidable (BranchTargetFits insn) := inferInstanceAs (Decidable (_ ∧ _))

/-- The target of a jump is `ptr + off + 1` modulo `2 ^ 64`, unless a build with overflow checks
panics on a sum out of range. -/
theorem branchTarget_eq (overflowChecks : Bool) (insn : Insn) :
    branchTarget overflowChecks insn =
      if overflowChecks = true ∧ ¬ BranchTargetFits insn then none
      else some ((insn.ptr.toNat + insn.off.toInt + 1) % 2 ^ 64).toNat := by
  have ptr_emod := usizeAsIsize_emod insn.ptr
  cases overflowChecks
  case false =>
    simp only [branchTarget, isizeAdd_false, isizeAsUsize, Bool.false_eq_true, false_and,
      if_false, Option.bind_eq_bind, Option.some_bind, Option.pure_def]
    congr 2; omega
  case true =>
    by_cases first : InIsize (usizeAsIsize insn.ptr + insn.off.toInt) <;>
      by_cases second : InIsize (usizeAsIsize insn.ptr + insn.off.toInt + 1) <;>
      simp only [branchTarget, BranchTargetFits, isizeAdd_true, isizeAsUsize, first, second,
        true_and, and_true, and_false, not_true, not_false_eq_true, if_true, if_false,
        Option.bind_eq_bind, Option.some_bind, Option.none_bind, Option.pure_def]
    congr 2; omega

/-! ## The jump arms -/

/-- The opcodes of `JA` and of the conditional jumps, in immediate and in register form. -/
def jumpOpcodes : List UInt8 :=
  [Ebpf.ja, Ebpf.jeqImm, Ebpf.jeqReg, Ebpf.jgtImm, Ebpf.jgtReg, Ebpf.jgeImm, Ebpf.jgeReg,
   Ebpf.jltImm, Ebpf.jltReg, Ebpf.jleImm, Ebpf.jleReg, Ebpf.jsetImm, Ebpf.jsetReg, Ebpf.jneImm,
   Ebpf.jneReg, Ebpf.jsgtImm, Ebpf.jsgtReg, Ebpf.jsgeImm, Ebpf.jsgeReg, Ebpf.jsltImm,
   Ebpf.jsltReg, Ebpf.jsleImm, Ebpf.jsleReg]

/-- The jump arms match the jump opcodes, in order. -/
theorem jumpArms_opcodes : jumpArms.map (·.opcode) = jumpOpcodes := rfl

/-- The jump opcodes are of the class `BPF_JMP`, the low three bits of an opcode. -/
theorem jumpOpcodes_class : ∀ opcode ∈ jumpOpcodes, opcode &&& 7 = Ebpf.bpfJmp := by
  decide

/-- The arms before the jump arms are of other classes. -/
theorem class_before :
    ∀ arm ∈ loadStoreArms ++ alu32Arms ++ alu64Arms ++ pqrArms, arm.opcode &&& 7 ≠ Ebpf.bpfJmp := by
  decide

/-- The first arm with a jump opcode is a jump arm. -/
theorem find_jumpOpcode {opcode : UInt8} (jump : opcode ∈ jumpOpcodes) :
    ∃ arm ∈ jumpArms, arms.find? (·.opcode == opcode) = some arm := by
  have skipped : (loadStoreArms ++ alu32Arms ++ alu64Arms ++ pqrArms).find?
      (·.opcode == opcode) = none :=
    List.find?_eq_none.2 fun arm member same =>
      class_before arm member (beq_iff_eq.1 same ▸ jumpOpcodes_class opcode jump)
  obtain ⟨arm, found⟩ : ∃ arm, jumpArms.find? (·.opcode == opcode) = some arm := by
    obtain ⟨matching, member, rfl⟩ := List.mem_map.1 (jumpArms_opcodes ▸ jump)
    exact Option.isSome_iff_exists.1 (List.find?_isSome.2 ⟨matching, member, by simp⟩)
  refine ⟨arm, List.mem_of_find?_eq_some found, ?_⟩
  rw [arms, List.find?_append, List.find?_append, skipped, found]
  rfl

theorem jumpArms_guard : ∀ arm ∈ jumpArms, arm.guard = .always := by
  decide

theorem jumpArms_form :
    ∀ arm ∈ jumpArms, arm.form = .ja ∨ arm.form = .jmpImm ∨ arm.form = .jmpReg := by
  decide

/-- The first arm with an opcode is the first arm with that opcode and a guard that holds, when
its own guard holds. -/
theorem find?_opcode_guard {table : List Arm} {opcode : UInt8} {arm : Arm}
    {sbpfVersion : SBPFVersion} (found : table.find? (·.opcode == opcode) = some arm) (holds : arm.guard.holds sbpfVersion) :
    table.find? (fun arm => arm.opcode == opcode && arm.guard.holds sbpfVersion) = some arm := by
  induction table with
  | nil => cases found
  | cons head table ih =>
    by_cases same : head.opcode = opcode
    · rw [List.find?_cons_of_pos _ (by simpa using same)] at found
      cases found
      exact List.find?_cons_of_pos _ (by simp [same, holds])
    · rw [List.find?_cons_of_neg _ (by simpa using same)] at found
      rw [List.find?_cons_of_neg _ (by simp [same])]
      exact ih found

/-- A jump arm renders a text that neither the nodes nor the overflow checks affect, followed by
the label of the target. -/
theorem Arm.describe_jump {arm : Arm}
    (jump : arm.form = .ja ∨ arm.form = .jmpImm ∨ arm.form = .jmpReg) (insn : Insn) (pc : Nat)
    (functionRegistry : FunctionRegistry) (loader : BuiltinProgram) (sbpfVersion : SBPFVersion) :
    ∃ text, ∀ (overflowChecks : Bool) (cfgNodes : Nat → Option CfgNode),
      arm.describe overflowChecks insn pc cfgNodes functionRegistry loader sbpfVersion =
        (branchTarget overflowChecks insn).map (text ++ resolveLabel cfgNodes ·) := by
  rcases jump with form | form | form <;>
    exact ⟨_, fun _ _ => by simp only [Arm.describe, form, jmpImmStr, jmpRegStr]; rfl⟩

/-- A jump opcode is rendered by its jump arm in every dialect. -/
theorem disassembleInstruction_jump {insn : Insn} (jump : insn.opc ∈ jumpOpcodes) (pc : Nat)
    (functionRegistry : FunctionRegistry) (loader : BuiltinProgram) (sbpfVersion : SBPFVersion) :
    ∃ text, ∀ (overflowChecks : Bool) (cfgNodes : Nat → Option CfgNode),
      disassembleInstruction overflowChecks insn pc cfgNodes functionRegistry loader sbpfVersion =
        (branchTarget overflowChecks insn).map (text ++ resolveLabel cfgNodes ·) := by
  obtain ⟨arm, member, found⟩ := find_jumpOpcode jump
  have first : arms.find? (fun arm => arm.opcode == insn.opc && arm.guard.holds sbpfVersion) =
      some arm := find?_opcode_guard found (by simp [jumpArms_guard arm member, Guard.holds])
  obtain ⟨text, rendered⟩ :=
    Arm.describe_jump (jumpArms_form arm member) insn pc functionRegistry loader sbpfVersion
  exact ⟨text, fun overflowChecks cfgNodes => by simp only [disassembleInstruction, first, rendered]⟩

/-- Every jump renders a text that no node affects, followed by the label of the node at
`ptr + off + 1` modulo `2 ^ 64`, or `[invalid]` where there is none; the only exception is a
build with overflow checks, which panics when the sums leave `isize`. -/
theorem disassembleInstruction_branch {insn : Insn} (jump : insn.opc ∈ jumpOpcodes)
    (overflowChecks : Bool) (pc : Nat) (functionRegistry : FunctionRegistry)
    (loader : BuiltinProgram) (sbpfVersion : SBPFVersion) :
    ∃ text, ∀ cfgNodes : Nat → Option CfgNode,
      disassembleInstruction overflowChecks insn pc cfgNodes functionRegistry loader sbpfVersion =
        if overflowChecks = true ∧ ¬ BranchTargetFits insn then none
        else some (text ++
          resolveLabel cfgNodes ((insn.ptr.toNat + insn.off.toInt + 1) % 2 ^ 64).toNat) := by
  obtain ⟨text, rendered⟩ :=
    disassembleInstruction_jump jump pc functionRegistry loader sbpfVersion
  refine ⟨text, fun cfgNodes => ?_⟩
  rw [rendered, branchTarget_eq]
  split_ifs <;> rfl

/-- The backward jump of the spec's example: `jeq r1, 7` at `10` with offset `-4`. -/
def backwardJump : Insn := ⟨10, Ebpf.jeqImm, 1, 0, BitVec.ofInt 16 (-4), 7⟩

/-- A dialect in which no predicate holds: legacy memory encodings, no PQR, `neg`, `exit`,
dynamic syscalls, `callx` on `imm`. -/
def legacyVersion : SBPFVersion := ⟨false, false, false, false, false, fun _ _ => 0⟩

theorem backwardJump_branch :
    backwardJump.opc ∈ jumpOpcodes ∧
      ∃ text, ∀ cfgNodes : Nat → Option CfgNode,
        disassembleInstruction true backwardJump 0 cfgNodes ⟨fun _ => none⟩ ⟨⟨fun _ => none⟩⟩
            legacyVersion =
          if true = true ∧ ¬ BranchTargetFits backwardJump then none
          else some (text ++ resolveLabel cfgNodes
            ((backwardJump.ptr.toNat + backwardJump.off.toInt + 1) % 2 ^ 64).toNat) :=
  ⟨by decide, disassembleInstruction_branch (by decide) true 0 ⟨fun _ => none⟩
    ⟨⟨fun _ => none⟩⟩ legacyVersion⟩

example :
    disassembleInstruction true backwardJump 0
        (fun pc => if pc = 7 then some ⟨"loop"⟩ else none) ⟨fun _ => none⟩ ⟨⟨fun _ => none⟩⟩
        legacyVersion = some "jeq r1, 7, loop" := by
  decide

/-- `ja` at `isize::MAX`: the sum `ptr + off + 1` leaves `isize`. -/
def isizeMaxJump : Insn := ⟨9223372036854775807, Ebpf.ja, 0, 0, 0, 0⟩

theorem isizeMaxJump_overflows :
    ¬ BranchTargetFits isizeMaxJump ∧
      disassembleInstruction true isizeMaxJump 0 (fun _ => none) ⟨fun _ => none⟩
        ⟨⟨fun _ => none⟩⟩ legacyVersion = none := by
  decide

end Sbpf
