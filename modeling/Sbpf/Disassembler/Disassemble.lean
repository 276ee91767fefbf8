import Sbpf.Disassembler.Ebpf

/-!
# `disassemble_instruction`

The disassembler renders one instruction as a line of text.  Its opcode `match` is a table of arms
in the source's order, each an opcode, a guard on the dialect and the way the arm renders; the
instruction goes to the first arm whose opcode is its own and whose guard holds, and to `unknown`
when there is none.

The jump arms compute `(insn.ptr as isize + insn.off as isize + 1) as usize`.  The crate allows
`arithmetic_side_effects`, so that sum is Rust's plain `+` on `isize`: where it leaves the range of
`isize`, a build with overflow checks panics and one without them wraps around.  The model takes
the choice as a parameter `overflowChecks` and returns `none` for a panic.

The dialect, the control-flow-graph nodes and the function registries come from modules that are
not among the sources; each is modelled by the part of it the disassembler reads, as the spec
lists it.
-/

namespace Sbpf

/-! ## `isize` arithmetic -/

/-- `isize::MIN` on a 64-bit target. -/
def isizeMin : Int := -2 ^ 63

/-- `isize::MAX` on a 64-bit target. -/
def isizeMax : Int := 2 ^ 63 - 1

/-- An integer is a value of `isize`. -/
def InIsize (value : Int) : Prop := isizeMin ≤ value ∧ value ≤ isizeMax

instance (value : Int) : Decidable (InIsize value) := inferInstanceAs (Decidable (_ ∧ _))

/-- `value as isize` for a `usize`: its bits read as two's complement. -/
def usizeAsIsize (value : UInt64) : Int :=
  if value.toNat < 2 ^ 63 then value.toNat else value.toNat - 2 ^ 64

/-- `value as usize` for an `isize`: its two's-complement bits read unsigned. -/
def isizeAsUsize (value : Int) : Nat := (value % 2 ^ 64).toNat

/-- `left + right` on `isize`.  Past the range of `isize` a build with overflow checks panics
(`none`) and one without them wraps the sum around. -/
def isizeAdd (overflowChecks : Bool) (left right : Int) : Option Int :=
  if InIsize (left + right) then some (left + right)
  else if overflowChecks then none
  else some ((left + right + 2 ^ 63) % 2 ^ 64 - 2 ^ 63)

/-- Without overflow checks the sum is always the wrapped one, which is the sum itself in range. -/
theorem isizeAdd_false (left right : Int) :
    isizeAdd false left right = some ((left + right + 2 ^ 63) % 2 ^ 64 - 2 ^ 63) := by
  unfold isizeAdd
  split_ifs with inside
  · simp only [InIsize, isizeMin, isizeMax] at inside
    congr 1; omega
  · contradiction
  · rfl

theorem isizeAdd_true (left right : Int) :
    isizeAdd true left right = if InIsize (left + right) then some (left + right) else none := by
  simp [isizeAdd]

/-- `as isize` keeps the bits: the value is the unsigned one modulo `2 ^ 64`. -/
theorem usizeAsIsize_emod (value : UInt64) :
    usizeAsIsize value % 2 ^ 64 = value.toNat % 2 ^ 64 := by
  unfold usizeAsIsize
  split_ifs <;> omega

/-- `(insn.ptr as isize + insn.off as isize + 1) as usize`, the target of a jump; `i16 as isize`
keeps the offset's value. -/
def branchTarget (overflowChecks : Bool) (insn : Insn) : Option Nat := do
  let sum ← isizeAdd overflowChecks (usizeAsIsize insn.ptr) insn.off.toInt
  let targetPc ← isizeAdd overflowChecks sum 1
  pure (isizeAsUsize targetPc)

/-! ## What the disassembler reads from its collaborators -/

/-- The predicates of `SBPFVersion` that the disassembler consumes. -/
structure SBPFVersion where
  /-- `move_memory_instruction_classes()`. -/
  moveMemoryInstructionClasses : Bool
  /-- `enable_pqr()`. -/
  enablePqr : Bool
  /-- `disable_neg()`. -/
  disableNeg : Bool
  /-- `static_syscalls()`. -/
  staticSyscalls : Bool
  /-- `callx_uses_src_reg()`. -/
  callxUsesSrcReg : Bool
  /-- `calculate_call_imm_target_pc(pc, imm)`, the registry key of a call. -/
  calculateCallImmTargetPc : Nat → Int → Nat

/-- `static_analysis::CfgNode`, of which the disassembler reads the label. -/
structure CfgNode where
  /-- The label of the node. -/
  label : String
deriving DecidableEq, Repr

/-- `FunctionRegistry`, by what `lookup_by_key` finds: the name registered under a key, as
`String::from_utf8_lossy` renders it. -/
structure FunctionRegistry where
  /-- `lookup_by_key(key)`, with the name rendered as text. -/
  lookupByKey : Nat → Option String

/-- `BuiltinProgram`, by its registry of syscalls. -/
structure BuiltinProgram where
  /-- `get_function_registry()`. -/
  getFunctionRegistry : FunctionRegistry

/-! ## Rendering -/

/-- `resolve_label`: the label of the node at `pc`, or `[invalid]` when there is none. -/
def resolveLabel (cfgNodes : Nat → Option CfgNode) (pc : Nat) : String :=
  ((cfgNodes pc).map (·.label)).getD "[invalid]"

@[simp]
theorem resolveLabel_of_some {cfgNodes : Nat → Option CfgNode} {pc : Nat} {node : CfgNode}
    (present : cfgNodes pc = some node) : resolveLabel cfgNodes pc = node.label := by
  simp [resolveLabel, present]

@[simp]
theorem resolveLabel_of_none {cfgNodes : Nat → Option CfgNode} {pc : Nat}
    (absent : cfgNodes pc = none) : resolveLabel cfgNodes pc = "[invalid]" := by
  simp [resolveLabel, absent]

/-- `{:#x}`: lowercase hexadecimal after `0x`. -/
def lowerHex (value : Nat) : String :=
  "0x" ++ String.mk (Nat.toDigits 16 value)

/-- `alu_imm_str`. -/
def aluImmStr (name : String) (insn : Insn) : String :=
  name ++ " r" ++ toString insn.dst.toNat ++ ", " ++ toString insn.imm.toInt

/-- `alu_reg_str`. -/
def aluRegStr (name : String) (insn : Insn) : String :=
  name ++ " r" ++ toString insn.dst.toNat ++ ", r" ++ toString insn.src.toNat

/-- `byteswap_str`; its warning on a width other than 16, 32 or 64 goes to the log only. -/
def byteswapStr (name : String) (insn : Insn) : String :=
  name ++ toString insn.imm.toInt ++ " r" ++ toString insn.dst.toNat

/-- `signed_off_str`: the offset's sign, then its magnitude in hexadecimal. -/
def signedOffStr (value : BitVec 16) : String :=
  if value.toInt < 0 then "-" ++ lowerHex (-value.toInt).toNat
  else "+" ++ lowerHex value.toInt.toNat

/-- `ld_st_imm_str`. -/
def ldStImmStr (name : String) (insn : Insn) : String :=
  name ++ " [r" ++ toString insn.dst.toNat ++ signedOffStr insn.off ++ "], " ++
    toString insn.imm.toInt

/-- `ld_reg_str`. -/
def ldRegStr (name : String) (insn : Insn) : String :=
  name ++ " r" ++ toString insn.dst.toNat ++ ", [r" ++ toString insn.src.toNat ++
    signedOffStr insn.off ++ "]"

/-- `st_reg_str`. -/
def stRegStr (name : String) (insn : Insn) : String :=
  name ++ " [r" ++ toString insn.dst.toNat ++ signedOffStr insn.off ++ "], r" ++
    toString insn.src.toNat

/-- `jmp_imm_str`. -/
def jmpImmStr (overflowChecks : Bool) (name : String) (insn : Insn)
    (cfgNodes : Nat → Option CfgNode) : Option String :=
  (branchTarget overflowChecks insn).map fun targetPc =>
    name ++ " r" ++ toString insn.dst.toNat ++ ", " ++ toString insn.imm.toInt ++ ", " ++
      resolveLabel cfgNodes targetPc

/-- `jmp_reg_str`. -/
def jmpRegStr (overflowChecks : Bool) (name : String) (insn : Insn)
    (cfgNodes : Nat → Option CfgNode) : Option String :=
  (branchTarget overflowChecks insn).map fun targetPc =>
    name ++ " r" ++ toString insn.dst.toNat ++ ", r" ++ toString insn.src.toNat ++ ", " ++
      resolveLabel cfgNodes targetPc

/-- The `CALL_IMM` arm: the function registered under the call's key, and with dynamic syscalls,
when there is none, the syscall registered under `imm as u32`. -/
def callImmStr (insn : Insn) (pc : Nat) (functionRegistry : FunctionRegistry)
    (loader : BuiltinProgram) (sbpfVersion : SBPFVersion) : String :=
  let key := sbpfVersion.calculateCallImmTargetPc pc insn.imm.toInt
  let functionName := functionRegistry.lookupByKey key
  if !sbpfVersion.staticSyscalls && functionName.isNone then
    "syscall " ++
      (loader.getFunctionRegistry.lookupByKey (insn.imm.toNat % 2 ^ 32)).getD "[invalid]"
  else "call " ++ functionName.getD "[invalid]"

/-! ## The opcode table -/

/-- The dialect predicates the guards of the arms test. -/
inductive Predicate where
  | moveMemoryInstructionClasses
  | enablePqr
  | disableNeg
  | staticSyscalls
deriving DecidableEq, Repr

/-- The value of a predicate on a dialect. -/
def Predicate.eval : Predicate → SBPFVersion → Bool
  | .moveMemoryInstructionClasses, sbpfVersion => sbpfVersion.moveMemoryInstructionClasses
  | .enablePqr, sbpfVersion => sbpfVersion.enablePqr
  | .disableNeg, sbpfVersion => sbpfVersion.disableNeg
  | .staticSyscalls, sbpfVersion => sbpfVersion.staticSyscalls

/-- The guard of an arm: none, or a predicate and the value it must take. -/
inductive Guard where
  | always
  | when (predicate : Predicate) (value : Bool)
deriving DecidableEq, Repr

/-- Whether a guard admits a dialect. -/
def Guard.holds : Guard → SBPFVersion → Bool
  | .always, _ => true
  | .when predicate value, sbpfVersion => predicate.eval sbpfVersion == value

/-- How an arm renders its instruction. -/
inductive Form where
  | lddw
  | ldReg
  | ldStImm
  | stReg
  | aluImm
  | aluReg
  | neg
  | byteswap
  | ja
  | jmpImm
  | jmpReg
  | callImm
  | callReg
  | bare
  | syscall
deriving DecidableEq, Repr

/-- One arm of the opcode match: its opcode, its guard, the `name` it sets and how it renders. -/
structure Arm where
  /-- The opcode the arm matches. -/
  opcode : UInt8
  /-- The `if` of the arm. -/
  guard : Guard
  /-- The mnemonic. -/
  name : String
  /-- How the arm renders its instruction. -/
  form : Form
deriving DecidableEq, Repr

/-- The arms of the `BPF_LD`, `BPF_LDX`, `BPF_ST` and `BPF_STX` classes. -/
def loadStoreArms : List Arm :=
  [⟨Ebpf.ldDwImm, .always, "lddw", .lddw⟩,
   ⟨Ebpf.ldBReg, .when .moveMemoryInstructionClasses false, "ldxb", .ldReg⟩,
   ⟨Ebpf.ldHReg, .when .moveMemoryInstructionClasses false, "ldxh", .ldReg⟩,
   ⟨Ebpf.ldWReg, .when .moveMemoryInstructionClasses false, "ldxw", .ldReg⟩,
   ⟨Ebpf.ldDwReg, .when .moveMemoryInstructionClasses false, "ldxdw", .ldReg⟩,
   ⟨Ebpf.stBImm, .when .moveMemoryInstructionClasses false, "stb", .ldStImm⟩,
   ⟨Ebpf.stHImm, .when .moveMemoryInstructionClasses false, "sth", .ldStImm⟩,
   ⟨Ebpf.stWImm, .when .moveMemoryInstructionClasses false, "stw", .ldStImm⟩,
   ⟨Ebpf.stDwImm, .when .moveMemoryInstructionClasses false, "stdw", .ldStImm⟩,
   ⟨Ebpf.stBReg, .when .moveMemoryInstructionClasses false, "stxb", .stReg⟩,
   ⟨Ebpf.stHReg, .when .moveMemoryInstructionClasses false, "stxh", .stReg⟩,
   ⟨Ebpf.stWReg, .when .moveMemoryInstructionClasses false, "stxw", .stReg⟩,
   ⟨Ebpf.stDwReg, .when .moveMemoryInstructionClasses false, "stxdw", .stReg⟩]

/-- The arms of the `BPF_ALU32_LOAD` class. -/
def alu32Arms : List Arm :=
  [⟨Ebpf.add32Imm, .always, "add32", .aluImm⟩,
   ⟨Ebpf.add32Reg, .always, "add32", .aluReg⟩,
   ⟨Ebpf.sub32Imm, .always, "sub32", .aluImm⟩,
   ⟨Ebpf.sub32Reg, .always, "sub32", .aluReg⟩,
   ⟨Ebpf.mul32Imm, .when .enablePqr false, "mul32", .aluImm⟩,
   ⟨Ebpf.mul32Reg, .when .enablePqr false, "mul32", .aluReg⟩,
   ⟨Ebpf.ld1bReg, .when .moveMemoryInstructionClasses true, "ldxb", .ldReg⟩,
   ⟨Ebpf.div32Imm, .when .enablePqr false, "div32", .aluImm⟩,
   ⟨Ebpf.div32Reg, .when .enablePqr false, "div32", .aluReg⟩,
   ⟨Ebpf.ld2bReg, .when .moveMemoryInstructionClasses true, "ldxh", .ldReg⟩,
   ⟨Ebpf.or32Imm, .always, "or32", .aluImm⟩,
   ⟨Ebpf.or32Reg, .always, "or32", .aluReg⟩,
   ⟨Ebpf.and32Imm, .always, "and32", .aluImm⟩,
   ⟨Ebpf.and32Reg, .always, "and32", .aluReg⟩,
   ⟨Ebpf.lsh32Imm, .always, "lsh32", .aluImm⟩,
   ⟨Ebpf.lsh32Reg, .always, "lsh32", .aluReg⟩,
   ⟨Ebpf.rsh32Imm, .always, "rsh32", .aluImm⟩,
   ⟨Ebpf.rsh32Reg, .always, "rsh32", .aluReg⟩,
   ⟨Ebpf.neg32, .when .disableNeg false, "neg32", .neg⟩,
   ⟨Ebpf.ld4bReg, .when .moveMemoryInstructionClasses true, "ldxw", .ldReg⟩,
   ⟨Ebpf.mod32Imm, .when .enablePqr false, "mod32", .aluImm⟩,
   ⟨Ebpf.mod32Reg, .when .enablePqr false, "mod32", .aluReg⟩,
   ⟨Ebpf.ld8bReg, .when .moveMemoryInstructionClasses true, "ldxdw", .ldReg⟩,
   ⟨Ebpf.xor32Imm, .always, "xor32", .aluImm⟩,
   ⟨Ebpf.xor32Reg, .always, "xor32", .aluReg⟩,
   ⟨Ebpf.mov32Imm, .always, "mov32", .aluImm⟩,
   ⟨Ebpf.mov32Reg, .always, "mov32", .aluReg⟩,
   ⟨Ebpf.arsh32Imm, .always, "arsh32", .aluImm⟩,
   ⟨Ebpf.arsh32Reg, .always, "arsh32", .aluReg⟩,
   ⟨Ebpf.le, .always, "le", .byteswap⟩,
   ⟨Ebpf.be, .always, "be", .byteswap⟩]

/-- The arms of the `BPF_ALU64_STORE` class. -/
def alu64Arms : List Arm :=
  [⟨Ebpf.add64Imm, .always, "add64", .aluImm⟩,
   ⟨Ebpf.add64Reg, .always, "add64", .aluReg⟩,
   ⟨Ebpf.sub64Imm, .always, "sub64", .aluImm⟩,
   ⟨Ebpf.sub64Reg, .always, "sub64", .aluReg⟩,
   ⟨Ebpf.mul64Imm, .when .enablePqr false, "mul64", .aluImm⟩,
   ⟨Ebpf.st1bImm, .when .moveMemoryInstructionClasses true, "stb", .ldStImm⟩,
   ⟨Ebpf.mul64Reg, .when .enablePqr false, "mul64", .aluReg⟩,
   ⟨Ebpf.st1bReg, .when .moveMemoryInstructionClasses true, "stxb", .stReg⟩,
   ⟨Ebpf.div64Imm, .when .enablePqr false, "div64", .aluImm⟩,
   ⟨Ebpf.st2bImm, .when .moveMemoryInstructionClasses true, "sth", .ldStImm⟩,
   ⟨Ebpf.div64Reg, .when .enablePqr false, "div64", .aluReg⟩,
   ⟨Ebpf.st2bReg, .when .moveMemoryInstructionClasses true, "stxh", .stReg⟩,
   ⟨Ebpf.or64Imm, .always, "or64", .aluImm⟩,
   ⟨Ebpf.or64Reg, .always, "or64", .aluReg⟩,
   ⟨Ebpf.and64Imm, .always, "and64", .aluImm⟩,
   ⟨Ebpf.and64Reg, .always, "and64", .aluReg⟩,
   ⟨Ebpf.lsh64Imm, .always, "lsh64", .aluImm⟩,
   ⟨Ebpf.lsh64Reg, .always, "lsh64", .aluReg⟩,
   ⟨Ebpf.rsh64Imm, .always, "rsh64", .aluImm⟩,
   ⟨Ebpf.rsh64Reg, .always, "rsh64", .aluReg⟩,
   ⟨Ebpf.st4bImm, .when .moveMemoryInstructionClasses true, "stw", .ldStImm⟩,
   ⟨Ebpf.neg64, .when .disableNeg false, "neg64", .neg⟩,
   ⟨Ebpf.st4bReg, .when .moveMemoryInstructionClasses true, "stxw", .stReg⟩,
   ⟨Ebpf.mod64Imm, .when .enablePqr false, "mod64", .aluImm⟩,
   ⟨Ebpf.st8bImm, .when .moveMemoryInstructionClasses true, "stdw", .ldStImm⟩,
   ⟨Ebpf.mod64Reg, .when .enablePqr false, "mod64", .aluReg⟩,
   ⟨Ebpf.st8bReg, .when .moveMemoryInstructionClasses true, "stxdw", .stReg⟩,
   ⟨Ebpf.xor64Imm, .always, "xor64", .aluImm⟩,
   ⟨Ebpf.xor64Reg, .always, "xor64", .aluReg⟩,
   ⟨Ebpf.mov64Imm, .always, "mov64", .aluImm⟩,
   ⟨Ebpf.mov64Reg, .always, "mov64", .aluReg⟩,
   ⟨Ebpf.arsh64Imm, .always, "arsh64", .aluImm⟩,
   ⟨Ebpf.arsh64Reg, .always, "arsh64", .aluReg⟩,
   ⟨Ebpf.hor64Imm, .always, "hor64", .aluImm⟩]

/-- The arms of the `BPF_PQR` class. -/
def pqrArms : List Arm :=
  [⟨Ebpf.lmul32Imm, .when .enablePqr true, "lmul32", .aluImm⟩,
   ⟨Ebpf.lmul32Reg, .when .enablePqr true, "lmul32", .aluReg⟩,
   ⟨Ebpf.lmul64Imm, .when .enablePqr true, "lmul64", .aluImm⟩,
   ⟨Ebpf.lmul64Reg, .when .enablePqr true, "lmul64", .aluReg⟩,
   ⟨Ebpf.uhmul64Imm, .when .enablePqr true, "uhmul64", .aluImm⟩,
   ⟨Ebpf.uhmul64Reg, .when .enablePqr true, "uhmul64", .aluReg⟩,
   ⟨Ebpf.shmul64Imm, .when .enablePqr true, "shmul64", .aluImm⟩,
   ⟨Ebpf.shmul64Reg, .when .enablePqr true, "shmul64", .aluReg⟩,
   ⟨Ebpf.udiv32Imm, .when .enablePqr true, "udiv32", .aluImm⟩,
   ⟨Ebpf.udiv32Reg, .when .enablePqr true, "udiv32", .aluReg⟩,
   ⟨Ebpf.udiv64Imm, .when .enablePqr true, "udiv64", .aluImm⟩,
   ⟨Ebpf.udiv64Reg, .when .enablePqr true, "udiv64", .aluReg⟩,
   ⟨Ebpf.urem32Imm, .when .enablePqr true, "urem32", .aluImm⟩,
   ⟨Ebpf.urem32Reg, .when .enablePqr true, "urem32", .aluReg⟩,
   ⟨Ebpf.urem64Imm, .when .enablePqr true, "urem64", .aluImm⟩,
   ⟨Ebpf.urem64Reg, .when .enablePqr true, "urem64", .aluReg⟩,
   ⟨Ebpf.sdiv32Imm, .when .enablePqr true, "sdiv32", .aluImm⟩,
   ⟨Ebpf.sdiv32Reg, .when .enablePqr true, "sdiv32", .aluReg⟩,
   ⟨Ebpf.sdiv64Imm, .when .enablePqr true, "sdiv64", .aluImm⟩,
   ⟨Ebpf.sdiv64Reg, .when .enablePqr true, "sdiv64", .aluReg⟩,
   ⟨Ebpf.srem32Imm, .when .enablePqr true, "srem32", .aluImm⟩,
   ⟨Ebpf.srem32Reg, .when .enablePqr true, "srem32", .aluReg⟩,
   ⟨Ebpf.srem64Imm, .when .enablePqr true, "srem64", .aluImm⟩,
   ⟨Ebpf.srem64Reg, .when .enablePqr true, "srem64", .aluReg⟩]

/-- The jump arms of the `BPF_JMP` class. -/
def jumpArms : List Arm :=
  [⟨Ebpf.ja, .always, "ja", .ja⟩,
   ⟨Ebpf.jeqImm, .always, "jeq", .jmpImm⟩,
   ⟨Ebpf.jeqReg, .always, "jeq", .jmpReg⟩,
   ⟨Ebpf.jgtImm, .always, "jgt", .jmpImm⟩,
   ⟨Ebpf.jgtReg, .always, "jgt", .jmpReg⟩,
   ⟨Ebpf.jgeImm, .always, "jge", .jmpImm⟩,
   ⟨Ebpf.jgeReg, .always, "jge", .jmpReg⟩,
   ⟨Ebpf.jltImm, .always, "jlt", .jmpImm⟩,
   ⟨Ebpf.jltReg, .always, "jlt", .jmpReg⟩,
   ⟨Ebpf.jleImm, .always, "jle", .jmpImm⟩,
   ⟨Ebpf.jleReg, .always, "jle", .jmpReg⟩,
   ⟨Ebpf.jsetImm, .always, "jset", .jmpImm⟩,
   ⟨Ebpf.jsetReg, .always, "jset", .jmpReg⟩,
   ⟨Ebpf.jneImm, .always, "jne", .jmpImm⟩,
   ⟨Ebpf.jneReg, .always, "jne", .jmpReg⟩,
   ⟨Ebpf.jsgtImm, .always, "jsgt", .jmpImm⟩,
   ⟨Ebpf.jsgtReg, .always, "jsgt", .jmpReg⟩,
   ⟨Ebpf.jsgeImm, .always, "jsge", .jmpImm⟩,
   ⟨Ebpf.jsgeReg, .always, "jsge", .jmpReg⟩,
   ⟨Ebpf.jsltImm, .always, "jslt", .jmpImm⟩,
   ⟨Ebpf.jsltReg, .always, "jslt", .jmpReg⟩,
   ⟨Ebpf.jsleImm, .always, "jsle", .jmpImm⟩,
   ⟨Ebpf.jsleReg, .always, "jsle", .jmpReg⟩]

/-- The call and return arms of the `BPF_JMP` class. -/
def callArms : List Arm :=
  [⟨Ebpf.callImm, .always, "call", .callImm⟩,
   ⟨Ebpf.callReg, .always, "callx", .callReg⟩,
   ⟨Ebpf.exit, .when .staticSyscalls false, "exit", .bare⟩,
   ⟨Ebpf.«return», .when .staticSyscalls true, "return", .bare⟩,
   ⟨Ebpf.syscall, .when .staticSyscalls true, "syscall", .syscall⟩]

/-- The arms of the opcode match of `disassemble_instruction`, in the source's order. -/
def arms : List Arm :=
  loadStoreArms ++ alu32Arms ++ alu64Arms ++ pqrArms ++ jumpArms ++ callArms

/-! ## The disassembler -/

/-- The line an arm renders, `none` when the arm panics. -/
def Arm.describe (arm : Arm) (overflowChecks : Bool) (insn : Insn) (pc : Nat)
    (cfgNodes : Nat → Option CfgNode) (functionRegistry : FunctionRegistry)
    (loader : BuiltinProgram) (sbpfVersion : SBPFVersion) : Option String :=
  match arm.form with
  | .lddw => some (arm.name ++ " r" ++ toString insn.dst.toNat ++ ", " ++ lowerHex insn.imm.toNat)
  | .ldReg => some (ldRegStr arm.name insn)
  | .ldStImm => some (ldStImmStr arm.name insn)
  | .stReg => some (stRegStr arm.name insn)
  | .aluImm => some (aluImmStr arm.name insn)
  | .aluReg => some (aluRegStr arm.name insn)
  | .neg => some (arm.name ++ " r" ++ toString insn.dst.toNat)
  | .byteswap => some (byteswapStr arm.name insn)
  | .ja => (branchTarget overflowChecks insn).map fun targetPc =>
      arm.name ++ " " ++ resolveLabel cfgNodes targetPc
  | .jmpImm => jmpImmStr overflowChecks arm.name insn cfgNodes
  | .jmpReg => jmpRegStr overflowChecks arm.name insn cfgNodes
  | .callImm => some (callImmStr insn pc functionRegistry loader sbpfVersion)
  | .callReg => some (arm.name ++ " r" ++
      toString (if sbpfVersion.callxUsesSrcReg then insn.src.toNat else insn.imm.toNat % 2 ^ 8))
  | .bare => some arm.name
  | .syscall => some ("syscall " ++ toString insn.imm.toInt)

/-- `disassemble_instruction`: the line of the first arm whose opcode is the instruction's and
whose guard admits the dialect, or `unknown opcode=` and the opcode; `none` when the arm panics. -/
def disassembleInstruction (overflowChecks : Bool) (insn : Insn) (pc : Nat)
    (cfgNodes : Nat → Option CfgNode) (functionRegistry : FunctionRegistry)
    (loader : BuiltinProgram) (sbpfVersion : SBPFVersion) : Option String :=
  match arms.find? (fun arm => arm.opcode == insn.opc && arm.guard.holds sbpfVersion) with
  | some arm => arm.describe overflowChecks insn pc cfgNodes functionRegistry loader sbpfVersion
  | none => some ("unknown opcode=" ++ lowerHex insn.opc.toNat)

end Sbpf
