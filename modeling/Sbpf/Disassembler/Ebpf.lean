import Mathlib.Data.BitVec

/-!
# Instructions and opcodes

The `ebpf` module the disassembler imports is not among the sources.  An instruction is the
decoded record the spec names, with its fields at their Rust widths; the opcodes are built from the
class, size, mode, source and operation codes of the sBPF encoding, as `ebpf` builds them.  Every
jump opcode is in the class `BPF_JMP` (low three bits `0x5`), which no load, store, ALU or PQR
opcode is in.
-/

namespace Sbpf

/-- `ebpf::Insn`, one decoded instruction.  `off` and `imm` are the two's-complement bits of an
`i16` and an `i64`, read as integers by `BitVec.toInt`. -/
structure Insn where
  /-- The instruction's position index, a `usize`. -/
  ptr : UInt64
  /-- The opcode. -/
  opc : UInt8
  /-- The destination register. -/
  dst : UInt8
  /-- The source register. -/
  src : UInt8
  /-- The signed offset, an `i16`. -/
  off : BitVec 16
  /-- The signed immediate, an `i64`. -/
  imm : BitVec 64
deriving DecidableEq, Repr

namespace Ebpf

/-! ## Classes, sizes, modes and sources -/

/-- Modelled from the sBPF encoding: `ebpf::BPF_LD`. -/
def bpfLd : UInt8 := 0x00
/-- Modelled from the sBPF encoding: `ebpf::BPF_LDX`. -/
def bpfLdx : UInt8 := 0x01
/-- Modelled from the sBPF encoding: `ebpf::BPF_ST`. -/
def bpfSt : UInt8 := 0x02
/-- Modelled from the sBPF encoding: `ebpf::BPF_STX`. -/
def bpfStx : UInt8 := 0x03
/-- Modelled from the sBPF encoding: `ebpf::BPF_ALU32_LOAD`. -/
def bpfAlu32Load : UInt8 := 0x04
/-- Modelled from the sBPF encoding: `ebpf::BPF_JMP`. -/
def bpfJmp : UInt8 := 0x05
/-- Modelled from the sBPF encoding: `ebpf::BPF_PQR`. -/
def bpfPqr : UInt8 := 0x06
/-- Modelled from the sBPF encoding: `ebpf::BPF_ALU64_STORE`. -/
def bpfAlu64Store : UInt8 := 0x07

/-- Modelled from the sBPF encoding: `ebpf::BPF_W`. -/
def bpfW : UInt8 := 0x00
/-- Modelled from the sBPF encoding: `ebpf::BPF_H`. -/
def bpfH : UInt8 := 0x08
/-- Modelled from the sBPF encoding: `ebpf::BPF_B`. -/
def bpfB : UInt8 := 0x10
/-- Modelled from the sBPF encoding: `ebpf::BPF_DW`. -/
def bpfDw : UInt8 := 0x18
/-- Modelled from the sBPF encoding: `ebpf::BPF_1B`. -/
def bpf1b : UInt8 := 0x20
/-- Modelled from the sBPF encoding: `ebpf::BPF_2B`. -/
def bpf2b : UInt8 := 0x30
/-- Modelled from the sBPF encoding: `ebpf::BPF_4B`. -/
def bpf4b : UInt8 := 0x80
/-- Modelled from the sBPF encoding: `ebpf::BPF_8B`. -/
def bpf8b : UInt8 := 0x90

/-- Modelled from the sBPF encoding: `ebpf::BPF_IMM`. -/
def bpfImm : UInt8 := 0x00
/-- Modelled from the sBPF encoding: `ebpf::BPF_MEM`. -/
def bpfMem : UInt8 := 0x60
/-- Modelled from the sBPF encoding: `ebpf::BPF_K`, an immediate operand. -/
def bpfK : UInt8 := 0x00
/-- Modelled from the sBPF encoding: `ebpf::BPF_X`, a register operand. -/
def bpfX : UInt8 := 0x08

/-! ## Operation codes -/

/-- Modelled from the sBPF encoding: `ebpf::BPF_ADD`. -/
def bpfAdd : UInt8 := 0x00
/-- Modelled from the sBPF encoding: `ebpf::BPF_SUB`. -/
def bpfSub : UInt8 := 0x10
/-- Modelled from the sBPF encoding: `ebpf::BPF_MUL`. -/
def bpfMul : UInt8 := 0x20
/-- Modelled from the sBPF encoding: `ebpf::BPF_DIV`. -/
def bpfDiv : UInt8 := 0x30
/-- Modelled from the sBPF encoding: `ebpf::BPF_OR`. -/
def bpfOr : UInt8 := 0x40
/-- Modelled from the sBPF encoding: `ebpf::BPF_AND`. -/
def bpfAnd : UInt8 := 0x50
/-- Modelled from the sBPF encoding: `ebpf::BPF_LSH`. -/
def bpfLsh : UInt8 := 0x60
/-- Modelled from the sBPF encoding: `ebpf::BPF_RSH`. -/
def bpfRsh : UInt8 := 0x70
/-- Modelled from the sBPF encoding: `ebpf::BPF_NEG`. -/
def bpfNeg : UInt8 := 0x80
/-- Modelled from the sBPF encoding: `ebpf::BPF_MOD`. -/
def bpfMod : UInt8 := 0x90
/-- Modelled from the sBPF encoding: `ebpf::BPF_XOR`. -/
def bpfXor : UInt8 := 0xa0
/-- Modelled from the sBPF encoding: `ebpf::BPF_MOV`. -/
def bpfMov : UInt8 := 0xb0
/-- Modelled from the sBPF encoding: `ebpf::BPF_ARSH`. -/
def bpfArsh : UInt8 := 0xc0
/-- Modelled from the sBPF encoding: `ebpf::BPF_END`. -/
def bpfEnd : UInt8 := 0xd0
/-- Modelled from the sBPF encoding: `ebpf::BPF_HOR`. -/
def bpfHor : UInt8 := 0xf0

/-- Modelled from the sBPF encoding: `ebpf::BPF_UHMUL`. -/
def bpfUhmul : UInt8 := 0x20
/-- Modelled from the sBPF encoding: `ebpf::BPF_UDIV`. -/
def bpfUdiv : UInt8 := 0x40
/-- Modelled from the sBPF encoding: `ebpf::BPF_UREM`. -/
def bpfUrem : UInt8 := 0x60
/-- Modelled from the sBPF encoding: `ebpf::BPF_LMUL`. -/
def bpfLmul : UInt8 := 0x80
/-- Modelled from the sBPF encoding: `ebpf::BPF_SHMUL`. -/
def bpfShmul : UInt8 := 0xa0
/-- Modelled from the sBPF encoding: `ebpf::BPF_SDIV`. -/
def bpfSdiv : UInt8 := 0xc0
/-- Modelled from the sBPF encoding: `ebpf::BPF_SREM`. -/
def bpfSrem : UInt8 := 0xe0

/-- Modelled from the sBPF encoding: `ebpf::BPF_JA`. -/
def bpfJa : UInt8 := 0x00
/-- Modelled from the sBPF encoding: `ebpf::BPF_JEQ`. -/
def bpfJeq : UInt8 := 0x10
/-- Modelled from the sBPF encoding: `ebpf::BPF_JGT`. -/
def bpfJgt : UInt8 := 0x20
/-- Modelled from the sBPF encoding: `ebpf::BPF_JGE`. -/
def bpfJge : UInt8 := 0x30
/-- Modelled from the sBPF encoding: `ebpf::BPF_JSET`. -/
def bpfJset : UInt8 := 0x40
/-- Modelled from the sBPF encoding: `ebpf::BPF_JNE`. -/
def bpfJne : UInt8 := 0x50
/-- Modelled from the sBPF encoding: `ebpf::BPF_JSGT`. -/
def bpfJsgt : UInt8 := 0x60
/-- Modelled from the sBPF encoding: `ebpf::BPF_JSGE`. -/
def bpfJsge : UInt8 := 0x70
/-- Modelled from the sBPF encoding: `ebpf::BPF_CALL`. -/
def bpfCall : UInt8 := 0x80
/-- Modelled from the sBPF encoding: `ebpf::BPF_EXIT`. -/
def bpfExit : UInt8 := 0x90
/-- Modelled from the sBPF encoding: `ebpf::BPF_JLT`. -/
def bpfJlt : UInt8 := 0xa0
/-- Modelled from the sBPF encoding: `ebpf::BPF_JLE`. -/
def bpfJle : UInt8 := 0xb0
/-- Modelled from the sBPF encoding: `ebpf::BPF_JSLT`. -/
def bpfJslt : UInt8 := 0xc0
/-- Modelled from the sBPF encoding: `ebpf::BPF_JSLE`. -/
def bpfJsle : UInt8 := 0xd0

/-! ## Loads and stores -/

/-- `ebpf::LD_DW_IMM`. -/
def ldDwImm : UInt8 := bpfLd ||| bpfImm ||| bpfDw
/-- `ebpf::LD_B_REG`. -/
def ldBReg : UInt8 := bpfLdx ||| bpfMem ||| bpfB
/-- `ebpf::LD_H_REG`. -/
def ldHReg : UInt8 := bpfLdx ||| bpfMem ||| bpfH
/-- `ebpf::LD_W_REG`. -/
def ldWReg : UInt8 := bpfLdx ||| bpfMem ||| bpfW
/-- `ebpf::LD_DW_REG`. -/
def ldDwReg : UInt8 := bpfLdx ||| bpfMem ||| bpfDw
/-- `ebpf::ST_B_IMM`. -/
def stBImm : UInt8 := bpfSt ||| bpfMem ||| bpfB
/-- `ebpf::ST_H_IMM`. -/
def stHImm : UInt8 := bpfSt ||| bpfMem ||| bpfH
/-- `ebpf::ST_W_IMM`. -/
def stWImm : UInt8 := bpfSt ||| bpfMem ||| bpfW
/-- `ebpf::ST_DW_IMM`. -/
def stDwImm : UInt8 := bpfSt ||| bpfMem ||| bpfDw
/-- `ebpf::ST_B_REG`. -/
def stBReg : UInt8 := bpfStx ||| bpfMem ||| bpfB
/-- `ebpf::ST_H_REG`. -/
def stHReg : UInt8 := bpfStx ||| bpfMem ||| bpfH
/-- `ebpf::ST_W_REG`. -/
def stWReg : UInt8 := bpfStx ||| bpfMem ||| bpfW
/-- `ebpf::ST_DW_REG`. -/
def stDwReg : UInt8 := bpfStx ||| bpfMem ||| bpfDw

/-- `ebpf::LD_1B_REG`, the load moved into the `BPF_ALU32_LOAD` class. -/
def ld1bReg : UInt8 := bpfAlu32Load ||| bpfX ||| bpf1b
/-- `ebpf::LD_2B_REG`. -/
def ld2bReg : UInt8 := bpfAlu32Load ||| bpfX ||| bpf2b
/-- `ebpf::LD_4B_REG`. -/
def ld4bReg : UInt8 := bpfAlu32Load ||| bpfX ||| bpf4b
/-- `ebpf::LD_8B_REG`. -/
def ld8bReg : UInt8 := bpfAlu32Load ||| bpfX ||| bpf8b
/-- `ebpf::ST_1B_IMM`, the store moved into the `BPF_ALU64_STORE` class. -/
def st1bImm : UInt8 := bpfAlu64Store ||| bpfK ||| bpf1b
/-- `ebpf::ST_2B_IMM`. -/
def st2bImm : UInt8 := bpfAlu64Store ||| bpfK ||| bpf2b
/-- `ebpf::ST_4B_IMM`. -/
def st4bImm : UInt8 := bpfAlu64Store ||| bpfK ||| bpf4b
/-- `ebpf::ST_8B_IMM`. -/
def st8bImm : UInt8 := bpfAlu64Store ||| bpfK ||| bpf8b
/-- `ebpf::ST_1B_REG`. -/
def st1bReg : UInt8 := bpfAlu64Store ||| bpfX ||| bpf1b
/-- `ebpf::ST_2B_REG`. -/
def st2bReg : UInt8 := bpfAlu64Store ||| bpfX ||| bpf2b
/-- `ebpf::ST_4B_REG`. -/
def st4bReg : UInt8 := bpfAlu64Store ||| bpfX ||| bpf4b
/-- `ebpf::ST_8B_REG`. -/
def st8bReg : UInt8 := bpfAlu64Store ||| bpfX ||| bpf8b

/-! ## 32-bit arithmetic -/

/-- `ebpf::ADD32_IMM`. -/
def add32Imm : UInt8 := bpfAlu32Load ||| bpfK ||| bpfAdd
/-- `ebpf::ADD32_REG`. -/
def add32Reg : UInt8 := bpfAlu32Load ||| bpfX ||| bpfAdd
/-- `ebpf::SUB32_IMM`. -/
def sub32Imm : UInt8 := bpfAlu32Load ||| bpfK ||| bpfSub
/-- `ebpf::SUB32_REG`. -/
def sub32Reg : UInt8 := bpfAlu32Load ||| bpfX ||| bpfSub
/-- `ebpf::MUL32_IMM`. -/
def mul32Imm : UInt8 := bpfAlu32Load ||| bpfK ||| bpfMul
/-- `ebpf::MUL32_REG`. -/
def mul32Reg : UInt8 := bpfAlu32Load ||| bpfX ||| bpfMul
/-- `ebpf::DIV32_IMM`. -/
def div32Imm : UInt8 := bpfAlu32Load ||| bpfK ||| bpfDiv
/-- `ebpf::DIV32_REG`. -/
def div32Reg : UInt8 := bpfAlu32Load ||| bpfX ||| bpfDiv
/-- `ebpf::OR32_IMM`. -/
def or32Imm : UInt8 := bpfAlu32Load ||| bpfK ||| bpfOr
/-- `ebpf::OR32_REG`. -/
def or32Reg : UInt8 := bpfAlu32Load ||| bpfX ||| bpfOr
/-- `ebpf::AND32_IMM`. -/
def and32Imm : UInt8 := bpfAlu32Load ||| bpfK ||| bpfAnd
/-- `ebpf::AND32_REG`. -/
def and32Reg : UInt8 := bpfAlu32Load ||| bpfX ||| bpfAnd
/-- `ebpf::LSH32_IMM`. -/
def lsh32Imm : UInt8 := bpfAlu32Load ||| bpfK ||| bpfLsh
/-- `ebpf::LSH32_REG`. -/
def lsh32Reg : UInt8 := bpfAlu32Load ||| bpfX ||| bpfLsh
/-- `ebpf::RSH32_IMM`. -/
def rsh32Imm : UInt8 := bpfAlu32Load ||| bpfK ||| bpfRsh
/-- `ebpf::RSH32_REG`. -/
def rsh32Reg : UInt8 := bpfAlu32Load ||| bpfX ||| bpfRsh
/-- `ebpf::NEG32`. -/
def neg32 : UInt8 := bpfAlu32Load ||| bpfNeg
/-- `ebpf::MOD32_IMM`. -/
def mod32Imm : UInt8 := bpfAlu32Load ||| bpfK ||| bpfMod
/-- `ebpf::MOD32_REG`. -/
def mod32Reg : UInt8 := bpfAlu32Load ||| bpfX ||| bpfMod
/-- `ebpf::XOR32_IMM`. -/
def xor32Imm : UInt8 := bpfAlu32Load ||| bpfK ||| bpfXor
/-- `ebpf::XOR32_REG`. -/
def xor32Reg : UInt8 := bpfAlu32Load ||| bpfX ||| bpfXor
/-- `ebpf::MOV32_IMM`. -/
def mov32Imm : UInt8 := bpfAlu32Load ||| bpfK ||| bpfMov
/-- `ebpf::MOV32_REG`. -/
def mov32Reg : UInt8 := bpfAlu32Load ||| bpfX ||| bpfMov
/-- `ebpf::ARSH32_IMM`. -/
def arsh32Imm : UInt8 := bpfAlu32Load ||| bpfK ||| bpfArsh
/-- `ebpf::ARSH32_REG`. -/
def arsh32Reg : UInt8 := bpfAlu32Load ||| bpfX ||| bpfArsh
/-- `ebpf::LE`. -/
def le : UInt8 := bpfAlu32Load ||| bpfK ||| bpfEnd
/-- `ebpf::BE`. -/
def be : UInt8 := bpfAlu32Load ||| bpfX ||| bpfEnd

/-! ## 64-bit arithmetic -/

/-- `ebpf::ADD64_IMM`. -/
def add64Imm : UInt8 := bpfAlu64Store ||| bpfK ||| bpfAdd
/-- `ebpf::ADD64_REG`. -/
def add64Reg : UInt8 := bpfAlu64Store ||| bpfX ||| bpfAdd
/-- `ebpf::SUB64_IMM`. -/
def sub64Imm : UInt8 := bpfAlu64Store ||| bpfK ||| bpfSub
/-- `ebpf::SUB64_REG`. -/
def sub64Reg : UInt8 := bpfAlu64Store ||| bpfX ||| bpfSub
/-- `ebpf::MUL64_IMM`. -/
def mul64Imm : UInt8 := bpfAlu64Store ||| bpfK ||| bpfMul
/-- `ebpf::MUL64_REG`. -/
def mul64Reg : UInt8 := bpfAlu64Store ||| bpfX ||| bpfMul
/-- `ebpf::DIV64_IMM`. -/
def div64Imm : UInt8 := bpfAlu64Store ||| bpfK ||| bpfDiv
/-- `ebpf::DIV64_REG`. -/
def div64Reg : UInt8 := bpfAlu64Store ||| bpfX ||| bpfDiv
/-- `ebpf::OR64_IMM`. -/
def or64Imm : UInt8 := bpfAlu64Store ||| bpfK ||| bpfOr
/-- `ebpf::OR64_REG`. -/
def or64Reg : UInt8 := bpfAlu64Store ||| bpfX ||| bpfOr
/-- `ebpf::AND64_IMM`. -/
def and64Imm : UInt8 := bpfAlu64Store ||| bpfK ||| bpfAnd
/-- `ebpf::AND64_REG`. -/
def and64Reg : UInt8 := bpfAlu64Store ||| bpfX ||| bpfAnd
/-- `ebpf::LSH64_IMM`. -/
def lsh64Imm : UInt8 := bpfAlu64Store ||| bpfK ||| bpfLsh
/-- `ebpf::LSH64_REG`. -/
def lsh64Reg : UInt8 := bpfAlu64Store ||| bpfX ||| bpfLsh
/-- `ebpf::RSH64_IMM`. -/
def rsh64Imm : UInt8 := bpfAlu64Store ||| bpfK ||| bpfRsh
/-- `ebpf::RSH64_REG`. -/
def rsh64Reg : UInt8 := bpfAlu64Store ||| bpfX ||| bpfRsh
/-- `ebpf::NEG64`. -/
def neg64 : UInt8 := bpfAlu64Store ||| bpfNeg
/-- `ebpf::MOD64_IMM`. -/
def mod64Imm : UInt8 := bpfAlu64Store ||| bpfK ||| bpfMod
/-- `ebpf::MOD64_REG`. -/
def mod64Reg : UInt8 := bpfAlu64Store ||| bpfX ||| bpfMod
/-- `ebpf::XOR64_IMM`. -/
def xor64Imm : UInt8 := bpfAlu64Store ||| bpfK ||| bpfXor
/-- `ebpf::XOR64_REG`. -/
def xor64Reg : UInt8 := bpfAlu64Store ||| bpfX ||| bpfXor
/-- `ebpf::MOV64_IMM`. -/
def mov64Imm : UInt8 := bpfAlu64Store ||| bpfK ||| bpfMov
/-- `ebpf::MOV64_REG`. -/
def mov64Reg : UInt8 := bpfAlu64Store ||| bpfX ||| bpfMov
/-- `ebpf::ARSH64_IMM`. -/
def arsh64Imm : UInt8 := bpfAlu64Store ||| bpfK ||| bpfArsh
/-- `ebpf::ARSH64_REG`. -/
def arsh64Reg : UInt8 := bpfAlu64Store ||| bpfX ||| bpfArsh
/-- `ebpf::HOR64_IMM`. -/
def hor64Imm : UInt8 := bpfAlu64Store ||| bpfK ||| bpfHor

/-! ## Product, quotient and remainder -/

/-- `ebpf::LMUL32_IMM`. -/
def lmul32Imm : UInt8 := bpfPqr ||| bpfK ||| bpfLmul
/-- `ebpf::LMUL32_REG`. -/
def lmul32Reg : UInt8 := bpfPqr ||| bpfX ||| bpfLmul
/-- `ebpf::LMUL64_IMM`. -/
def lmul64Imm : UInt8 := bpfPqr ||| bpfB ||| bpfK ||| bpfLmul
/-- `ebpf::LMUL64_REG`. -/
def lmul64Reg : UInt8 := bpfPqr ||| bpfB ||| bpfX ||| bpfLmul
/-- `ebpf::UHMUL64_IMM`. -/
def uhmul64Imm : UInt8 := bpfPqr ||| bpfB ||| bpfK ||| bpfUhmul
/-- `ebpf::UHMUL64_REG`. -/
def uhmul64Reg : UInt8 := bpfPqr ||| bpfB ||| bpfX ||| bpfUhmul
/-- `ebpf::SHMUL64_IMM`. -/
def shmul64Imm : UInt8 := bpfPqr ||| bpfB ||| bpfK ||| bpfShmul
/-- `ebpf::SHMUL64_REG`. -/
def shmul64Reg : UInt8 := bpfPqr ||| bpfB ||| bpfX ||| bpfShmul
/-- `ebpf::UDIV32_IMM`. -/
def udiv32Imm : UInt8 := bpfPqr ||| bpfK ||| bpfUdiv
/-- `ebpf::UDIV32_REG`. -/
def udiv32Reg : UInt8 := bpfPqr ||| bpfX ||| bpfUdiv
/-- `ebpf::UDIV64_IMM`. -/
def udiv64Imm : UInt8 := bpfPqr ||| bpfB ||| bpfK ||| bpfUdiv
/-- `ebpf::UDIV64_REG`. -/
def udiv64Reg : UInt8 := bpfPqr ||| bpfB ||| bpfX ||| bpfUdiv
/-- `ebpf::UREM32_IMM`. -/
def urem32Imm : UInt8 := bpfPqr ||| bpfK ||| bpfUrem
/-- `ebpf::UREM32_REG`. -/
def urem32Reg : UInt8 := bpfPqr ||| bpfX ||| bpfUrem
/-- `ebpf::UREM64_IMM`. -/
def urem64Imm : UInt8 := bpfPqr ||| bpfB ||| bpfK ||| bpfUrem
/-- `ebpf::UREM64_REG`. -/
def urem64Reg : UInt8 := bpfPqr ||| bpfB ||| bpfX ||| bpfUrem
/-- `ebpf::SDIV32_IMM`. -/
def sdiv32Imm : UInt8 := bpfPqr ||| bpfK ||| bpfSdiv
/-- `ebpf::SDIV32_REG`. -/
def sdiv32Reg : UInt8 := bpfPqr ||| bpfX ||| bpfSdiv
/-- `ebpf::SDIV64_IMM`. -/
def sdiv64Imm : UInt8 := bpfPqr ||| bpfB ||| bpfK ||| bpfSdiv
/-- `ebpf::SDIV64_REG`. -/
def sdiv64Reg : UInt8 := bpfPqr ||| bpfB ||| bpfX ||| bpfSdiv
/-- `ebpf::SREM32_IMM`. -/
def srem32Imm : UInt8 := bpfPqr ||| bpfK ||| bpfSrem
/-- `ebpf::SREM32_REG`. -/
def srem32Reg : UInt8 := bpfPqr ||| bpfX ||| bpfSrem
/-- `ebpf::SREM64_IMM`. -/
def srem64Imm : UInt8 := bpfPqr ||| bpfB ||| bpfK ||| bpfSrem
/-- `ebpf::SREM64_REG`. -/
def srem64Reg : UInt8 := bpfPqr ||| bpfB ||| bpfX ||| bpfSrem

/-! ## Jumps, calls and returns -/

/-- `ebpf::JA`. -/
def ja : UInt8 := bpfJmp ||| bpfJa
/-- `ebpf::JEQ_IMM`. -/
def jeqImm : UInt8 := bpfJmp ||| bpfK ||| bpfJeq
/-- `ebpf::JEQ_REG`. -/
def jeqReg : UInt8 := bpfJmp ||| bpfX ||| bpfJeq
/-- `ebpf::JGT_IMM`. -/
def jgtImm : UInt8 := bpfJmp ||| bpfK ||| bpfJgt
/-- `ebpf::JGT_REG`. -/
def jgtReg : UInt8 := bpfJmp ||| bpfX ||| bpfJgt
/-- `ebpf::JGE_IMM`. -/
def jgeImm : UInt8 := bpfJmp ||| bpfK ||| bpfJge
/-- `ebpf::JGE_REG`. -/
def jgeReg : UInt8 := bpfJmp ||| bpfX ||| bpfJge
/-- `ebpf::JLT_IMM`. -/
def jltImm : UInt8 := bpfJmp ||| bpfK ||| bpfJlt
/-- `ebpf::JLT_REG`. -/
def jltReg : UInt8 := bpfJmp ||| bpfX ||| bpfJlt
/-- `ebpf::JLE_IMM`. -/
def jleImm : UInt8 := bpfJmp ||| bpfK ||| bpfJle
/-- `ebpf::JLE_REG`. -/
def jleReg : UInt8 := bpfJmp ||| bpfX ||| bpfJle
/-- `ebpf::JSET_IMM`. -/
def jsetImm : UInt8 := bpfJmp ||| bpfK ||| bpfJset
/-- `ebpf::JSET_REG`. -/
def jsetReg : UInt8 := bpfJmp ||| bpfX ||| bpfJset
/-- `ebpf::JNE_IMM`. -/
def jneImm : UInt8 := bpfJmp ||| bpfK ||| bpfJne
/-- `ebpf::JNE_REG`. -/
def jneReg : UInt8 := bpfJmp ||| bpfX ||| bpfJne
/-- `ebpf::JSGT_IMM`. -/
def jsgtImm : UInt8 := bpfJmp ||| bpfK ||| bpfJsgt
/-- `ebpf::JSGT_REG`. -/
def jsgtReg : UInt8 := bpfJmp ||| bpfX ||| bpfJsgt
/-- `ebpf::JSGE_IMM`. -/
def jsgeImm : UInt8 := bpfJmp ||| bpfK ||| bpfJsge
/-- `ebpf::JSGE_REG`. -/
def jsgeReg : UInt8 := bpfJmp ||| bpfX ||| bpfJsge
/-- `ebpf::JSLT_IMM`. -/
def jsltImm : UInt8 := bpfJmp ||| bpfK ||| bpfJslt
/-- `ebpf::JSLT_REG`. -/
def jsltReg : UInt8 := bpfJmp ||| bpfX ||| bpfJslt
/-- `ebpf::JSLE_IMM`. -/
def jsleImm : UInt8 := bpfJmp ||| bpfK ||| bpfJsle
/-- `ebpf::JSLE_REG`. -/
def jsleReg : UInt8 := bpfJmp ||| bpfX ||| bpfJsle
/-- `ebpf::CALL_IMM`. -/
def callImm : UInt8 := bpfJmp ||| bpfK ||| bpfCall
/-- `ebpf::CALL_REG`. -/
def callReg : UInt8 := bpfJmp ||| bpfX ||| bpfCall
/-- `ebpf::EXIT`. -/
def exit : UInt8 := bpfJmp ||| bpfExit
/-- `ebpf::RETURN`. -/
def «return» : UInt8 := bpfJmp ||| bpfX ||| bpfExit
/-- `ebpf::SYSCALL`, the encoding of `exit` taken over by static syscalls. -/
def syscall : UInt8 := bpfJmp ||| bpfK ||| bpfExit

end Ebpf

end Sbpf
