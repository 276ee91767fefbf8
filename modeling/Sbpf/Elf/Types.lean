import Sbpf.Elf.Basic

/-!
# ELF64 records and constants

The `types` and `consts` modules of the parser are not among the sources; the records below follow
the field order the spec gives for each header and the ELF64 layout (`#[repr(C)]`, natural
alignment, little-endian), and the constants take their ELF64 values.  Each record is read in place
from bytes, so each is a `Pod`: its size, its alignment, and how it is decoded from its own bytes.
-/

namespace Sbpf

/-- A plain-old-data record read in place through a pointer cast, with `mem::size_of::<T>()`,
`mem::align_of::<T>()` and the record its first `size` bytes encode. -/
class Pod (T : Type) where
  /-- `mem::size_of::<T>()`. -/
  size : Nat
  /-- `mem::align_of::<T>()`. -/
  align : Nat
  /-- Alignments are powers of two, never zero. -/
  align_pos : 0 < align
  /-- The record whose bytes begin the list. -/
  decode : List UInt8 → T
  /-- A record is determined by its own `size` bytes. -/
  decode_take : ∀ bytes, decode (bytes.take size) = decode bytes

/-! ## Constants -/

/-- Modelled from the spec: `consts::ELFMAG`, the magic `\x7fELF`. -/
def elfmag : Mathlib.Vector UInt8 4 := ⟨[0x7f, 0x45, 0x4c, 0x46], rfl⟩
/-- Modelled from the spec: `consts::ELFCLASS64`. -/
def elfclass64 : UInt8 := 2
/-- Modelled from the spec: `consts::ELFDATA2LSB`, little-endian data. -/
def elfdata2lsb : UInt8 := 1
/-- Modelled from the spec: `consts::EV_CURRENT`. -/
def evCurrent : UInt32 := 1
/-- Modelled from the spec: `consts::PT_LOAD`. -/
def ptLoad : UInt32 := 1
/-- Modelled from the spec: `consts::PT_DYNAMIC`. -/
def ptDynamic : UInt32 := 2
/-- Modelled from the spec: `consts::SHT_NULL`. -/
def shtNull : UInt32 := 0
/-- Modelled from the spec: `consts::SHT_SYMTAB`. -/
def shtSymtab : UInt32 := 2
/-- Modelled from the spec: `consts::SHT_STRTAB`. -/
def shtStrtab : UInt32 := 3
/-- Modelled from the spec: `consts::SHT_DYNAMIC`. -/
def shtDynamic : UInt32 := 6
/-- Modelled from the spec: `consts::SHT_NOBITS`. -/
def shtNobits : UInt32 := 8
/-- Modelled from the spec: `consts::SHT_DYNSYM`. -/
def shtDynsym : UInt32 := 11
/-- Modelled from the spec: `consts::SHF_WRITE`. -/
def shfWrite : UInt64 := 1
/-- Modelled from the spec: `consts::SHF_ALLOC`. -/
def shfAlloc : UInt64 := 2
/-- Modelled from the spec: `consts::SHN_UNDEF`. -/
def shnUndef : UInt16 := 0
/-- Modelled from the spec: `consts::STT_FUNC`. -/
def sttFunc : UInt8 := 2
/-- Modelled from the spec: `consts::DT_NULL`. -/
def dtNull : UInt64 := 0
/-- Modelled from the spec: `consts::DT_NUM`, the size of the dense dynamic table. -/
def dtNum : Nat := 35
/-- Modelled from the spec: `consts::DT_SYMTAB`, used only as an index of the dynamic table. -/
def dtSymtab : Fin dtNum := ⟨6, by decide⟩
/-- Modelled from the spec: `consts::DT_REL`, used only as an index of the dynamic table. -/
def dtRel : Fin dtNum := ⟨17, by decide⟩
/-- Modelled from the spec: `consts::DT_RELSZ`, used only as an index of the dynamic table. -/
def dtRelsz : Fin dtNum := ⟨18, by decide⟩
/-- Modelled from the spec: `consts::DT_RELENT`, used only as an index of the dynamic table. -/
def dtRelent : Fin dtNum := ⟨19, by decide⟩

/-! ## Records -/

/-- Modelled from the spec: `types::ElfIdent`, the identification block of the file header. -/
structure ElfIdent where
  eiMag : Mathlib.Vector UInt8 4
  eiClass : UInt8
  eiData : UInt8
  eiVersion : UInt8
  eiOsabi : UInt8
  eiAbiversion : UInt8
  eiPad : Mathlib.Vector UInt8 7
deriving DecidableEq

/-- Modelled from the spec: `types::Elf64Ehdr`, the file header. -/
structure Elf64Ehdr where
  eIdent : ElfIdent
  eType : UInt16
  eMachine : UInt16
  eVersion : UInt32
  eEntry : UInt64
  ePhoff : UInt64
  eShoff : UInt64
  eFlags : UInt32
  eEhsize : UInt16
  ePhentsize : UInt16
  ePhnum : UInt16
  eShentsize : UInt16
  eShnum : UInt16
  eShstrndx : UInt16
deriving DecidableEq

/-- Modelled from the spec: `types::Elf64Phdr`, a program header. -/
structure Elf64Phdr where
  pType : UInt32
  pFlags : UInt32
  pOffset : UInt64
  pVaddr : UInt64
  pPaddr : UInt64
  pFilesz : UInt64
  pMemsz : UInt64
  pAlign : UInt64
deriving DecidableEq, Repr

/-- Modelled from the spec: `types::Elf64Shdr`, a section header. -/
structure Elf64Shdr where
  shName : UInt32
  shType : UInt32
  shFlags : UInt64
  shAddr : UInt64
  shOffset : UInt64
  shSize : UInt64
  shLink : UInt32
  shInfo : UInt32
  shAddralign : UInt64
  shEntsize : UInt64
deriving DecidableEq, Repr

/-- Modelled from the spec: `types::Elf64Sym`, a symbol. -/
structure Elf64Sym where
  stName : UInt32
  stInfo : UInt8
  stOther : UInt8
  stShndx : UInt16
  stValue : UInt64
  stSize : UInt64
deriving DecidableEq, Repr

/-- Modelled from the spec: `types::Elf64Rel`, a relocation. -/
structure Elf64Rel where
  rOffset : UInt64
  rInfo : UInt64
deriving DecidableEq, Repr

/-- Modelled from the spec: `types::Elf64Dyn`, a dynamic entry. -/
structure Elf64Dyn where
  dTag : UInt64
  dVal : UInt64
deriving DecidableEq, Repr

/-! ## In-place decoding -/

/-- The file header stored in the first 64 bytes. -/
def Elf64Ehdr.read (bytes : List UInt8) : Elf64Ehdr where
  eIdent :=
    { eiMag := readArray 4 bytes 0, eiClass := readU8 bytes 4, eiData := readU8 bytes 5
      eiVersion := readU8 bytes 6, eiOsabi := readU8 bytes 7, eiAbiversion := readU8 bytes 8
      eiPad := readArray 7 bytes 9 }
  eType := readU16 bytes 16
  eMachine := readU16 bytes 18
  eVersion := readU32 bytes 20
  eEntry := readU64 bytes 24
  ePhoff := readU64 bytes 32
  eShoff := readU64 bytes 40
  eFlags := readU32 bytes 48
  eEhsize := readU16 bytes 52
  ePhentsize := readU16 bytes 54
  ePhnum := readU16 bytes 56
  eShentsize := readU16 bytes 58
  eShnum := readU16 bytes 60
  eShstrndx := readU16 bytes 62

/-- The program header stored in the first 56 bytes. -/
def Elf64Phdr.read (bytes : List UInt8) : Elf64Phdr where
  pType := readU32 bytes 0
  pFlags := readU32 bytes 4
  pOffset := readU64 bytes 8
  pVaddr := readU64 bytes 16
  pPaddr := readU64 bytes 24
  pFilesz := readU64 bytes 32
  pMemsz := readU64 bytes 40
  pAlign := readU64 bytes 48

/-- The section header stored in the first 64 bytes. -/
def Elf64Shdr.read (bytes : List UInt8) : Elf64Shdr where
  shName := readU32 bytes 0
  shType := readU32 bytes 4
  shFlags := readU64 bytes 8
  shAddr := readU64 bytes 16
  shOffset := readU64 bytes 24
  shSize := readU64 bytes 32
  shLink := readU32 bytes 40
  shInfo := readU32 bytes 44
  shAddralign := readU64 bytes 48
  shEntsize := readU64 bytes 56

/-- The symbol stored in the first 24 bytes. -/
def Elf64Sym.read (bytes : List UInt8) : Elf64Sym where
  stName := readU32 bytes 0
  stInfo := readU8 bytes 4
  stOther := readU8 bytes 5
  stShndx := readU16 bytes 6
  stValue := readU64 bytes 8
  stSize := readU64 bytes 16

/-- The relocation stored in the first 16 bytes. -/
def Elf64Rel.read (bytes : List UInt8) : Elf64Rel where
  rOffset := readU64 bytes 0
  rInfo := readU64 bytes 8

/-- The dynamic entry stored in the first 16 bytes. -/
def Elf64Dyn.read (bytes : List UInt8) : Elf64Dyn where
  dTag := readU64 bytes 0
  dVal := readU64 bytes 8

instance : Pod Elf64Ehdr where
  size := 64
  align := 8
  align_pos := by decide
  decode := Elf64Ehdr.read
  decode_take bytes := by
    simp [Elf64Ehdr.read, readU8_take, readU16_take, readU32_take, readU64_take, readArray_take]

instance : Pod Elf64Phdr where
  size := 56
  align := 8
  align_pos := by decide
  decode := Elf64Phdr.read
  decode_take bytes := by simp [Elf64Phdr.read, readU32_take, readU64_take]

instance : Pod Elf64Shdr where
  size := 64
  align := 8
  align_pos := by decide
  decode := Elf64Shdr.read
  decode_take bytes := by simp [Elf64Shdr.read, readU32_take, readU64_take]

instance : Pod Elf64Sym where
  size := 24
  align := 8
  align_pos := by decide
  decode := Elf64Sym.read
  decode_take bytes := by simp [Elf64Sym.read, readU8_take, readU16_take, readU32_take, readU64_take]

instance : Pod Elf64Rel where
  size := 16
  align := 8
  align_pos := by decide
  decode := Elf64Rel.read
  decode_take bytes := by simp [Elf64Rel.read, readU64_take]

instance : Pod Elf64Dyn where
  size := 16
  align := 8
  align_pos := by decide
  decode := Elf64Dyn.read
  decode_take bytes := by simp [Elf64Dyn.read, readU64_take]

/-! ## Accessors -/

/-- `Elf64Shdr::is_writable`. -/
def Elf64Shdr.isWritable (header : Elf64Shdr) : Bool :=
  header.shFlags &&& (shfAlloc ||| shfWrite) == shfAlloc ||| shfWrite

/-- `Elf64Sym::is_function`. -/
def Elf64Sym.isFunction (symbol : Elf64Sym) : Bool := symbol.stInfo &&& 0xF == sttFunc

/-- `Elf64Rel::r_type`. -/
def Elf64Rel.rType (relocation : Elf64Rel) : UInt32 := (relocation.rInfo &&& 0xFFFFFFFF).toUInt32

/-- `Elf64Rel::r_sym`: `checked_shr(32)` never fails for a shift of 32. -/
def Elf64Rel.rSym (relocation : Elf64Rel) : UInt32 := (relocation.rInfo >>> 32).toUInt32

end Sbpf
