import Sbpf.Disassembler.Branch

/-!
# The opcode match

`disassemble_instruction` renders an instruction with the first arm of its `match` whose opcode is
the instruction's and whose guard admits the dialect.  Some arms share an opcode: the moved memory
encodings share theirs with the legacy `mul`, `div` and `mod` and with `neg64`, and `exit` shares
its opcode with `syscall`.  At most one arm admits an instruction exactly in the dialects where
moving the memory classes comes with the PQR class and without `neg`; in those the order of the
arms does not matter, and the line is the one of any arm that admits the instruction.  In every
dialect only the line of a jump can panic or read the nodes of the control-flow graph, and
`CALL_IMM` resolves its name in the spec's four steps.
-/

namespace Sbpf

/-! ## Dialects -/

/-- Moving the memory classes comes with the PQR class and removes `neg`, so that no moved
encoding is also the encoding of an active arithmetic instruction. -/
def SBPFVersion.Consistent (sbpfVersion : SBPFVersion) : Prop :=
  sbpfVersion.moveMemoryInstructionClasses = true →
    sbpfVersion.enablePqr = true ∧ sbpfVersion.disableNeg = true

instance (sbpfVersion : SBPFVersion) : Decidable sbpfVersion.Consistent :=
  inferInstanceAs (Decidable (_ → _))

/-! ## Arms that share an opcode -/

/-- The guards, in table order, of the pairs of arms that share an opcode. -/
def guardClashes : List (Guard × Guard) :=
  [(.when .enablePqr false, .when .moveMemoryInstructionClasses true),
   (.when .moveMemoryInstructionClasses true, .when .disableNeg false),
   (.when .staticSyscalls false, .when .staticSyscalls true)]

/-- Two arms, in table order, have different opcodes or guards among `guardClashes`. -/
def Clash (first second : Arm) : Prop :=
  first.opcode = second.opcode → (first.guard, second.guard) ∈ guardClashes

instance (first second : Arm) : Decidable (Clash first second) :=
  inferInstanceAs (Decidable (_ → _))

/-- The low four bits of an arm's opcode, which hold its class. -/
def Arm.lowBits (arm : Arm) : Nat := (arm.opcode &&& 15).toNat

theorem Arm.lowBits_lt (arm : Arm) : arm.lowBits < 16 := by
  unfold Arm.lowBits
  rw [UInt8.and_toNat]
  exact Nat.lt_of_le_of_lt Nat.and_le_right (by decide)

/-- Arms with the same low bits that share an opcode have guards among `guardClashes`; arms with
different low bits never share one. -/
theorem lowBitsArms_clash :
    ∀ lowBits < 16, (arms.filter (·.lowBits == lowBits)).Pairwise Clash := by
  decide

/-- Two arms that share an opcode are not both admitted in the dialect. -/
def Exclusive (sbpfVersion : SBPFVersion) (one other : Arm) : Prop :=
  one.opcode = other.opcode → ¬ (one.guard.holds sbpfVersion ∧ other.guard.holds sbpfVersion)

theorem exclusive_symmetric (sbpfVersion : SBPFVersion) : Symmetric (Exclusive sbpfVersion) :=
  fun _ _ exclusive same both => exclusive same.symm both.symm

/-- In a consistent dialect two arms of a clash exclude each other. -/
theorem Clash.exclusive {sbpfVersion : SBPFVersion} (consistent : sbpfVersion.Consistent)
    {one other : Arm} (clash : Clash one other) : Exclusive sbpfVersion one other := by
  intro same
  have guards := clash same
  simp only [guardClashes, List.mem_cons, List.mem_singleton, List.not_mem_nil, or_false,
    Prod.mk.injEq] at guards
  rcases guards with ⟨oneGuard, otherGuard⟩ | ⟨oneGuard, otherGuard⟩ | ⟨oneGuard, otherGuard⟩ <;>
    simp only [oneGuard, otherGuard, Guard.holds, Predicate.eval, beq_iff_eq] <;>
    rintro ⟨oneHolds, otherHolds⟩
  · simpa [oneHolds] using (consistent otherHolds).1
  · simpa [otherHolds] using (consistent oneHolds).2
  · simp [oneHolds] at otherHolds

/-- In a consistent dialect at most one arm admits an instruction. -/
theorem arms_exclusive {sbpfVersion : SBPFVersion} (consistent : sbpfVersion.Consistent)
    {first second : Arm} (firstMember : first ∈ arms) (secondMember : second ∈ arms)
    (same : first.opcode = second.opcode) (firstHolds : first.guard.holds sbpfVersion)
    (secondHolds : second.guard.holds sbpfVersion) : first = second := by
  have inBucket : ∀ arm ∈ arms, arm.opcode = first.opcode →
      arm ∈ arms.filter (·.lowBits == first.lowBits) := fun arm member opcode =>
    List.mem_filter.2 ⟨member, by simp [Arm.lowBits, opcode]⟩
  have exclusive := (lowBitsArms_clash _ first.lowBits_lt).imp (Clash.exclusive consistent)
  by_contra distinct
  exact exclusive.forall (exclusive_symmetric sbpfVersion) (inBucket first firstMember rfl)
    (inBucket second secondMember same.symm) distinct same ⟨firstHolds, secondHolds⟩

/-- At most one arm of the match admits an instruction exactly in the consistent dialects. -/
theorem arms_unambiguous_iff (sbpfVersion : SBPFVersion) :
    (∀ first ∈ arms, ∀ second ∈ arms, first.opcode = second.opcode →
      first.guard.holds sbpfVersion → second.guard.holds sbpfVersion → first = second) ↔
    sbpfVersion.Consistent := by
  refine ⟨fun unambiguous moved => ⟨?_, ?_⟩, fun consistent _ first _ second =>
    arms_exclusive consistent first second⟩
  · by_contra legacy
    exact absurd (unambiguous ⟨Ebpf.mul32Reg, .when .enablePqr false, "mul32", .aluReg⟩
      (by decide) ⟨Ebpf.ld1bReg, .when .moveMemoryInstructionClasses true, "ldxb", .ldReg⟩
      (by decide) rfl (by simpa [Guard.holds, Predicate.eval] using legacy)
      (by simpa [Guard.holds, Predicate.eval] using moved)) (by decide)
  · by_contra withNeg
    exact absurd (unambiguous ⟨Ebpf.st4bImm, .when .moveMemoryInstructionClasses true, "stw",
      .ldStImm⟩ (by decide) ⟨Ebpf.neg64, .when .disableNeg false, "neg64", .neg⟩ (by decide) rfl
      (by simpa [Guard.holds, Predicate.eval] using moved)
      (by simpa [Guard.holds, Predicate.eval] using withNeg)) (by decide)

/-! ## The arm that renders an instruction -/

/-- In a consistent dialect an instruction is rendered by any arm that admits it, so that the order
of the match does not matter. -/
theorem disassembleInstruction_of_admits {sbpfVersion : SBPFVersion}
    (consistent : sbpfVersion.Consistent) {arm : Arm} (member : arm ∈ arms) {insn : Insn}
    (opcode : arm.opcode = insn.opc) (admits : arm.guard.holds sbpfVersion) (overflowChecks : Bool)
    (pc : Nat) (cfgNodes : Nat → Option CfgNode) (functionRegistry : FunctionRegistry)
    (loader : BuiltinProgram) :
    disassembleInstruction overflowChecks insn pc cfgNodes functionRegistry loader sbpfVersion =
      arm.describe overflowChecks insn pc cfgNodes functionRegistry loader sbpfVersion := by
  obtain ⟨first, found⟩ : ∃ first, arms.find?
      (fun arm => arm.opcode == insn.opc && arm.guard.holds sbpfVersion) = some first :=
    Option.isSome_iff_exists.1 (List.find?_isSome.2 ⟨arm, member, by simp [opcode, admits]⟩)
  have firstAdmits := List.find?_some found
  simp only [Bool.and_eq_true, beq_iff_eq] at firstAdmits
  obtain rfl := arms_exclusive consistent (List.mem_of_find?_eq_some found) member
    (firstAdmits.1.trans opcode.symm) firstAdmits.2 admits
  simp only [disassembleInstruction, found]

/-- A dialect in which every predicate holds: moved memory encodings, PQR, no `neg`, static
syscalls, `callx` on `src`. -/
def movedVersion : SBPFVersion := ⟨true, true, true, true, true, fun _ _ => 0⟩

/-- `ldxb r1, [r2+0x8]` in its moved encoding, which is also the encoding of `mul32 r1, r2`. -/
def movedLoad : Insn := ⟨0, Ebpf.ld1bReg, 1, 2, 8, 0⟩

example :
    disassembleInstruction true movedLoad 0 (fun _ => none) ⟨fun _ => none⟩ ⟨⟨fun _ => none⟩⟩
      movedVersion = some "ldxb r1, [r2+0x8]" := by
  decide

/-! ## Lines that panic -/

set_option maxRecDepth 2000 in
theorem jumpForm_opcode :
    ∀ arm ∈ arms, (arm.form = .ja ∨ arm.form = .jmpImm ∨ arm.form = .jmpReg) →
      arm.opcode ∈ jumpOpcodes := by
  decide

/-- An arm of any other form renders a line that neither the nodes nor the overflow checks
affect. -/
theorem Arm.describe_not_jump {arm : Arm}
    (notJump : ¬ (arm.form = .ja ∨ arm.form = .jmpImm ∨ arm.form = .jmpReg)) (insn : Insn)
    (pc : Nat) (functionRegistry : FunctionRegistry) (loader : BuiltinProgram)
    (sbpfVersion : SBPFVersion) :
    ∃ line, ∀ (overflowChecks : Bool) (cfgNodes : Nat → Option CfgNode),
      arm.describe overflowChecks insn pc cfgNodes functionRegistry loader sbpfVersion =
        some line := by
  cases form : arm.form <;> simp only [form, reduceCtorEq, or_false, false_or,
    not_true_eq_false] at notJump <;> exact ⟨_, fun _ _ => by rw [Arm.describe, form]⟩

/-- An instruction other than a jump renders a line that neither the nodes nor the overflow checks
affect. -/
theorem disassembleInstruction_not_jump {insn : Insn} (notJump : insn.opc ∉ jumpOpcodes)
    (pc : Nat) (functionRegistry : FunctionRegistry) (loader : BuiltinProgram)
    (sbpfVersion : SBPFVersion) :
    ∃ line, ∀ (overflowChecks : Bool) (cfgNodes : Nat → Option CfgNode),
      disassembleInstruction overflowChecks insn pc cfgNodes functionRegistry loader sbpfVersion =
        some line := by
  cases found : arms.find? (fun arm => arm.opcode == insn.opc && arm.guard.holds sbpfVersion) with
  | none =>
    exact ⟨"unknown opcode=" ++ lowerHex insn.opc.toNat, fun _ _ => by
      simp only [disassembleInstruction, found]⟩
  | some arm =>
    have admits := List.find?_some found
    simp only [Bool.and_eq_true, beq_iff_eq] at admits
    obtain ⟨line, rendered⟩ := Arm.describe_not_jump
      (fun jump => notJump (admits.1 ▸ jumpForm_opcode arm (List.mem_of_find?_eq_some found) jump))
      insn pc functionRegistry loader sbpfVersion
    exact ⟨line, fun _ _ => by simp only [disassembleInstruction, found, rendered]⟩

/-- A line panics exactly when it is the line of a jump, in a build with overflow checks, and the
sums of the jump's target leave `isize`. -/
theorem disassembleInstruction_eq_none_iff (overflowChecks : Bool) (insn : Insn) (pc : Nat)
    (cfgNodes : Nat → Option CfgNode) (functionRegistry : FunctionRegistry)
    (loader : BuiltinProgram) (sbpfVersion : SBPFVersion) :
    disassembleInstruction overflowChecks insn pc cfgNodes functionRegistry loader sbpfVersion =
        none ↔
      overflowChecks = true ∧ insn.opc ∈ jumpOpcodes ∧ ¬ BranchTargetFits insn := by
  by_cases jump : insn.opc ∈ jumpOpcodes
  · obtain ⟨text, rendered⟩ := disassembleInstruction_jump jump pc functionRegistry loader
      sbpfVersion
    rw [rendered, Option.map_eq_none', branchTarget_eq]
    split_ifs with panics
    · exact iff_of_true rfl ⟨panics.1, jump, panics.2⟩
    · exact iff_of_false not_false fun ⟨checks, _, outside⟩ => panics ⟨checks, outside⟩
  · obtain ⟨line, rendered⟩ := disassembleInstruction_not_jump jump pc functionRegistry loader
      sbpfVersion
    rw [rendered]
    exact iff_of_false (Option.some_ne_none _) fun ⟨_, member, _⟩ => jump member

/-! ## `CALL_IMM` -/

/-- The resolution of `CALL_IMM` in the spec's steps: the function registered under the call's
key, with mnemonic `call`; on a miss, when syscalls are dynamic, the syscall registered under
`imm as u32`, with mnemonic `syscall`; `[invalid]` where the name is not found. -/
def callResolution (insn : Insn) (pc : Nat) (functionRegistry : FunctionRegistry)
    (loader : BuiltinProgram) (sbpfVersion : SBPFVersion) : String :=
  match functionRegistry.lookupByKey (sbpfVersion.calculateCallImmTargetPc pc insn.imm.toInt) with
  | some functionName => "call " ++ functionName
  | none =>
    if sbpfVersion.staticSyscalls then "call [invalid]"
    else "syscall " ++
      (loader.getFunctionRegistry.lookupByKey (insn.imm.toNat % 2 ^ 32)).getD "[invalid]"

/-- `CALL_IMM` is rendered by the call arm in every dialect, with the name the spec's steps
resolve. -/
theorem disassembleInstruction_callImm {insn : Insn} (call : insn.opc = Ebpf.callImm)
    (overflowChecks : Bool) (pc : Nat) (cfgNodes : Nat → Option CfgNode)
    (functionRegistry : FunctionRegistry) (loader : BuiltinProgram) (sbpfVersion : SBPFVersion) :
    disassembleInstruction overflowChecks insn pc cfgNodes functionRegistry loader sbpfVersion =
      some (callResolution insn pc functionRegistry loader sbpfVersion) := by
  have found : arms.find? (·.opcode == Ebpf.callImm) =
      some ⟨Ebpf.callImm, .always, "call", .callImm⟩ := by decide
  rw [disassembleInstruction, call, find?_opcode_guard found rfl]
  simp only [Arm.describe, callImmStr, callResolution]
  cases sbpfVersion.staticSyscalls <;>
    cases functionRegistry.lookupByKey (sbpfVersion.calculateCallImmTargetPc pc insn.imm.toInt) <;>
    rfl

/-- The unresolved call of the spec's example, `CALL_IMM` with `imm = 0xdead`. -/
def unresolvedCall : Insn := ⟨0, Ebpf.callImm, 0, 0, 0, 0xdead⟩

example :
    callResolution unresolvedCall 0 ⟨fun _ => none⟩ ⟨⟨fun _ => none⟩⟩ legacyVersion =
      "syscall [invalid]" := by
  decide

end Sbpf
