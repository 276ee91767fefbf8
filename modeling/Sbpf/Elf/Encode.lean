import Sbpf.Elf.Parse

/-!
# Writing records

The inverse of in-place decoding: each record written as its little-endian bytes, in the field
order of its layout.  The writers build the concrete files on which the general results are
instantiated and the counterexamples are run; `parse` reads those files back by evaluation.
-/

namespace Sbpf

/-- The `width` little-endian bytes of `value`; bits above `8 * width` are dropped. -/
def writeLE : Nat → Nat → List UInt8
  | 0, _ => []
  | width + 1, value => UInt8.ofNat (value % 256) :: writeLE width (value / 256)

/-- The bytes of a program header. -/
def Elf64Phdr.write (header : Elf64Phdr) : List UInt8 :=
  writeLE 4 header.pType.toNat ++ writeLE 4 header.pFlags.toNat ++
    writeLE 8 header.pOffset.toNat ++ writeLE 8 header.pVaddr.toNat ++
    writeLE 8 header.pPaddr.toNat ++ writeLE 8 header.pFilesz.toNat ++
    writeLE 8 header.pMemsz.toNat ++ writeLE 8 header.pAlign.toNat

/-- The bytes of a section header. -/
def Elf64Shdr.write (header : Elf64Shdr) : List UInt8 :=
  writeLE 4 header.shName.toNat ++ writeLE 4 header.shType.toNat ++
    writeLE 8 header.shFlags.toNat ++ writeLE 8 header.shAddr.toNat ++
    writeLE 8 header.shOffset.toNat ++ writeLE 8 header.shSize.toNat ++
    writeLE 4 header.shLink.toNat ++ writeLE 4 header.shInfo.toNat ++
    writeLE 8 header.shAddralign.toNat ++ writeLE 8 header.shEntsize.toNat

/-- The bytes of a symbol. -/
def Elf64Sym.write (symbol : Elf64Sym) : List UInt8 :=
  writeLE 4 symbol.stName.toNat ++ writeLE 1 symbol.stInfo.toNat ++
    writeLE 1 symbol.stOther.toNat ++ writeLE 2 symbol.stShndx.toNat ++
    writeLE 8 symbol.stValue.toNat ++ writeLE 8 symbol.stSize.toNat

/-- The bytes of a relocation. -/
def Elf64Rel.write (relocation : Elf64Rel) : List UInt8 :=
  writeLE 8 relocation.rOffset.toNat ++ writeLE 8 relocation.rInfo.toNat

/-- The bytes of a dynamic entry. -/
def Elf64Dyn.write (entry : Elf64Dyn) : List UInt8 :=
  writeLE 8 entry.dTag.toNat ++ writeLE 8 entry.dVal.toNat

/-- The bytes of a file header. -/
def Elf64Ehdr.write (header : Elf64Ehdr) : List UInt8 :=
  header.eIdent.eiMag.toList ++
    [header.eIdent.eiClass, header.eIdent.eiData, header.eIdent.eiVersion,
      header.eIdent.eiOsabi, header.eIdent.eiAbiversion] ++ header.eIdent.eiPad.toList ++
    writeLE 2 header.eType.toNat ++ writeLE 2 header.eMachine.toNat ++
    writeLE 4 header.eVersion.toNat ++ writeLE 8 header.eEntry.toNat ++
    writeLE 8 header.ePhoff.toNat ++ writeLE 8 header.eShoff.toNat ++
    writeLE 4 header.eFlags.toNat ++ writeLE 2 header.eEhsize.toNat ++
    writeLE 2 header.ePhentsize.toNat ++ writeLE 2 header.ePhnum.toNat ++
    writeLE 2 header.eShentsize.toNat ++ writeLE 2 header.eShnum.toNat ++
    writeLE 2 header.eShstrndx.toNat

/-- A file header that passes every check of `parse`, with the given table placement. -/
def validFileHeader (ePhoff ePhnum eShoff eShnum eShstrndx : Nat) : Elf64Ehdr where
  eIdent :=
    { eiMag := elfmag, eiClass := elfclass64, eiData := elfdata2lsb
      eiVersion := evCurrent.toUInt8, eiOsabi := 0, eiAbiversion := 0
      eiPad := Mathlib.Vector.replicate 7 0 }
  eType := 3
  eMachine := 247
  eVersion := evCurrent
  eEntry := 0
  ePhoff := UInt64.ofNat ePhoff
  eShoff := UInt64.ofNat eShoff
  eFlags := 0
  eEhsize := 64
  ePhentsize := 56
  ePhnum := UInt16.ofNat ePhnum
  eShentsize := 64
  eShnum := UInt16.ofNat eShnum
  eShstrndx := UInt16.ofNat eShstrndx

/-- A section header with the given name offset, type, address, file offset and size. -/
def sectionHeaderOf (shName shType shAddr shOffset shSize : Nat) : Elf64Shdr where
  shName := UInt32.ofNat shName
  shType := UInt32.ofNat shType
  shFlags := 0
  shAddr := UInt64.ofNat shAddr
  shOffset := UInt64.ofNat shOffset
  shSize := UInt64.ofNat shSize
  shLink := 0
  shInfo := 0
  shAddralign := 0
  shEntsize := 0

end Sbpf
