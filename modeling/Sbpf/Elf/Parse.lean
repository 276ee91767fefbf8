import Sbpf.Elf.Slice
import Sbpf.Elf.Strings

/-!
# The ELF64 parser

`Elf64::parse` and everything it calls, in the order of the source: the file header and its
identification checks, the two header tables, the `PT_LOAD` sweep, the section sweep, the
section-name table, the named-section discovery of `parse_sections` and the dynamic-table assembly
of `parse_dynamic`.  The two sweeps and the two table walks are loops in the source; here each is
a structural recursion over the table, so that its invariant is proved once by induction.  The
accessors and the `Debug` impl close the file.
-/

namespace Sbpf

/-- Maximum length of section name allowed (`SECTION_NAME_LENGTH_MAXIMUM`). -/
def sectionNameLengthMaximum : Nat := 16

/-- `SYMBOL_NAME_LENGTH_MAXIMUM`. -/
def symbolNameLengthMaximum : Nat := 64

/-! ## Header ranges -/

/-- `Elf64Phdr::file_range`: the byte range a `PT_LOAD` segment spans in the file. -/
def Elf64Phdr.fileRange (header : Elf64Phdr) : Option Range :=
  if header.pType = ptLoad then
    some ⟨header.pOffset.toNat, saturatingAdd header.pOffset.toNat header.pFilesz.toNat⟩
  else none

/-- `Elf64Phdr::vm_range`: the segment virtual address range. -/
def Elf64Phdr.vmRange (header : Elf64Phdr) : Range :=
  ⟨header.pVaddr.toNat, saturatingAdd header.pVaddr.toNat header.pMemsz.toNat⟩

/-- `Elf64Shdr::file_range`: the byte range a section other than `SHT_NOBITS` spans in the file. -/
def Elf64Shdr.fileRange (header : Elf64Shdr) : Option Range :=
  if header.shType ≠ shtNobits then
    some ⟨header.shOffset.toNat, saturatingAdd header.shOffset.toNat header.shSize.toNat⟩
  else none

/-- `Elf64Shdr::vm_range`: the section virtual address range. -/
def Elf64Shdr.vmRange (header : Elf64Shdr) : Range :=
  ⟨header.shAddr.toNat, saturatingAdd header.shAddr.toNat header.shSize.toNat⟩

/-- `check_that_there_is_no_overlap`: compares the end points of two ranges. -/
def checkThatThereIsNoOverlap (rangeA rangeB : Range) : Except ElfParserError Unit :=
  if rangeA.stop ≤ rangeB.start ∨ rangeB.stop ≤ rangeA.start then .ok () else .error .overlap

/-! ## The parsed file -/

/-- The parsed structure of an ELF file (`Elf64`).  The dynamic table is the dense array
`[Elf64Xword; DT_NUM]`, indexed by tag. -/
structure Elf64 where
  elfBytes : Bytes
  fileHeader : Elf64Ehdr
  programHeaderTable : Slice Elf64Phdr
  sectionHeaderTable : Slice Elf64Shdr
  sectionNamesSectionHeader : Option Elf64Shdr
  symbolSectionHeader : Option Elf64Shdr
  symbolNamesSectionHeader : Option Elf64Shdr
  dynamicTable : Fin dtNum → UInt64
  dynamicRelocationsTable : Option (Slice Elf64Rel)
  dynamicSymbolTable : Option (Slice Elf64Sym)
  dynamicSymbolNamesSectionHeader : Option Elf64Shdr

/-- The three sections `parse_sections` records by name. -/
inductive NamedSection where
  | symtab
  | strtab
  | dynstr
deriving DecidableEq, Repr

namespace NamedSection

/-- The name each section is recorded under. -/
def name : NamedSection → List UInt8
  | symtab => ".symtab".toList.map Char.toUInt8
  | strtab => ".strtab".toList.map Char.toUInt8
  | dynstr => ".dynstr".toList.map Char.toUInt8

/-- The arm of `section_header_by_name!` a section name selects, if any. -/
def ofName (sectionName : List UInt8) : Option NamedSection :=
  if sectionName = symtab.name then some symtab
  else if sectionName = strtab.name then some strtab
  else if sectionName = dynstr.name then some dynstr
  else none

end NamedSection

namespace Elf64

/-- The field of `Elf64` that records a named section. -/
def namedSectionHeader (self : Elf64) : NamedSection → Option Elf64Shdr
  | .symtab => self.symbolSectionHeader
  | .strtab => self.symbolNamesSectionHeader
  | .dynstr => self.dynamicSymbolNamesSectionHeader

/-- Record a named section in its field. -/
def setNamedSectionHeader (self : Elf64) (field : NamedSection) (header : Elf64Shdr) : Elf64 :=
  match field with
  | .symtab => { self with symbolSectionHeader := some header }
  | .strtab => { self with symbolNamesSectionHeader := some header }
  | .dynstr => { self with dynamicSymbolNamesSectionHeader := some header }

/-! ## Headers -/

/-- `Elf64::parse_file_header`. -/
def parseFileHeader (elfBytes : Bytes) : Except ElfParserError (Range × Elf64Ehdr) :=
  let fileHeaderRange : Range := ⟨0, Pod.size Elf64Ehdr⟩
  match elfBytes.get fileHeaderRange with
  | none => .error .outOfBounds
  | some fileHeaderBytes =>
      if remainderNonzero fileHeaderBytes.addr (Pod.align Elf64Ehdr) then .error .invalidAlignment
      else .ok (fileHeaderRange, Pod.decode fileHeaderBytes.data)

/-- The identification, version and entry-size checks `parse` makes on the file header. -/
def fileHeaderInvalid (fileHeader : Elf64Ehdr) : Prop :=
  fileHeader.eIdent.eiMag ≠ elfmag ∨ fileHeader.eIdent.eiClass ≠ elfclass64 ∨
    fileHeader.eIdent.eiData ≠ elfdata2lsb ∨
    fileHeader.eIdent.eiVersion ≠ evCurrent.toUInt8 ∨ fileHeader.eVersion ≠ evCurrent ∨
    fileHeader.eEhsize ≠ (Pod.size Elf64Ehdr).toUInt16 ∨
    fileHeader.ePhentsize ≠ (Pod.size Elf64Phdr).toUInt16 ∨
    fileHeader.eShentsize ≠ (Pod.size Elf64Shdr).toUInt16 ∨
    fileHeader.eShstrndx ≥ fileHeader.eShnum

instance (fileHeader : Elf64Ehdr) : Decidable (fileHeaderInvalid fileHeader) :=
  inferInstanceAs (Decidable (_ ∨ _ ∨ _ ∨ _ ∨ _ ∨ _ ∨ _ ∨ _ ∨ _))

/-- `e_off..size_of::<T>().err_checked_mul(e_num)?.err_checked_add(e_off)?`, the range of a
header table. -/
def headerTableRange (T : Type) [Pod T] (offset count : Nat) : Except ElfParserError Range := do
  let tableSize ← errCheckedMul (Pod.size T) count
  let tableEnd ← errCheckedAdd tableSize offset
  return ⟨offset, tableEnd⟩

/-- `Elf64::parse_program_header_table`. -/
def parseProgramHeaderTable (elfBytes : Bytes) (fileHeaderRange : Range) (fileHeader : Elf64Ehdr) :
    Except ElfParserError (Range × Slice Elf64Phdr) := do
  let programHeaderTableRange ←
    headerTableRange Elf64Phdr fileHeader.ePhoff.toNat fileHeader.ePhnum.toNat
  checkThatThereIsNoOverlap fileHeaderRange programHeaderTableRange
  let programHeaderTable ← sliceFromBytes Elf64Phdr elfBytes programHeaderTableRange
  return (programHeaderTableRange, programHeaderTable)

/-- `Elf64::parse_section_header_table`. -/
def parseSectionHeaderTable (elfBytes : Bytes) (fileHeaderRange : Range) (fileHeader : Elf64Ehdr)
    (programHeaderTableRange : Range) : Except ElfParserError (Range × Slice Elf64Shdr) := do
  let sectionHeaderTableRange ←
    headerTableRange Elf64Shdr fileHeader.eShoff.toNat fileHeader.eShnum.toNat
  checkThatThereIsNoOverlap fileHeaderRange sectionHeaderTableRange
  checkThatThereIsNoOverlap programHeaderTableRange sectionHeaderTableRange
  let sectionHeaderTable ← sliceFromBytes Elf64Shdr elfBytes sectionHeaderTableRange
  return (sectionHeaderTableRange, sectionHeaderTable)

/-- The `PT_LOAD` sweep of `parse`: `vaddr` is the address of the last `PT_LOAD` seen, and every
`PT_LOAD` must be at or above it and end inside the buffer of length `length`. -/
def checkLoadSegments (length : Nat) : UInt64 → List Elf64Phdr → Except ElfParserError Unit
  | _, [] => .ok ()
  | vaddr, programHeader :: rest =>
      if programHeader.pType ≠ ptLoad then checkLoadSegments length vaddr rest
      else if programHeader.pVaddr < vaddr then .error .invalidProgramHeader
      else do
        let fileEnd ← errCheckedAdd programHeader.pOffset.toNat programHeader.pFilesz.toNat
        if fileEnd > length then .error .outOfBounds
        else checkLoadSegments length programHeader.pVaddr rest

/-- The section sweep of `parse`: every section other than `SHT_NOBITS` must avoid the three
header ranges, start at or after `offset` (the end of the previous one) and end inside the buffer
of length `length`. -/
def checkSections (length : Nat) (fileHeaderRange programHeaderTableRange
    sectionHeaderTableRange : Range) : Nat → List Elf64Shdr → Except ElfParserError Unit
  | _, [] => .ok ()
  | offset, sectionHeader :: rest =>
      if sectionHeader.shType = shtNobits then
        checkSections length fileHeaderRange programHeaderTableRange sectionHeaderTableRange
          offset rest
      else do
        let sectionEnd ← errCheckedAdd sectionHeader.shOffset.toNat sectionHeader.shSize.toNat
        let sectionRange : Range := ⟨sectionHeader.shOffset.toNat, sectionEnd⟩
        checkThatThereIsNoOverlap sectionRange fileHeaderRange
        checkThatThereIsNoOverlap sectionRange programHeaderTableRange
        checkThatThereIsNoOverlap sectionRange sectionHeaderTableRange
        if sectionRange.start < offset then .error .sectionNotInOrder
        else if sectionRange.stop > length then .error .outOfBounds
        else
          checkSections length fileHeaderRange programHeaderTableRange sectionHeaderTableRange
            sectionRange.stop rest

/-! ## Sections and strings -/

/-- The common body of `section_name`, `symbol_name` and `dynamic_symbol_name`: the string at
`offset` in a recorded string table, or `missing` when none is recorded. -/
def lookupName (elfBytes : Bytes) (stringTable : Option Elf64Shdr) (missing : ElfParserError)
    (offset : UInt32) (maximumLength : Nat) : Except ElfParserError Bytes := do
  let sectionHeader ← okOr stringTable missing
  getStringInSection elfBytes sectionHeader offset maximumLength

/-- `Elf64::section_name`. -/
def sectionName (self : Elf64) (shName : UInt32) : Except ElfParserError Bytes :=
  lookupName self.elfBytes self.sectionNamesSectionHeader .noSectionNameStringTable shName
    sectionNameLengthMaximum

/-- `Elf64::symbol_name`. -/
def symbolName (self : Elf64) (stName : UInt32) : Except ElfParserError Bytes :=
  lookupName self.elfBytes self.symbolNamesSectionHeader .noStringTable stName
    symbolNameLengthMaximum

/-- `Elf64::dynamic_symbol_name`. -/
def dynamicSymbolName (self : Elf64) (stName : UInt32) : Except ElfParserError Bytes :=
  lookupName self.elfBytes self.dynamicSymbolNamesSectionHeader .noDynamicStringTable stName
    symbolNameLengthMaximum

/-- One expansion of `section_header_by_name!`: record the section under its name, rejecting a
second section of the same name. -/
def sectionHeaderByName (self : Elf64) (sectionHeader : Elf64Shdr) (sectionName : List UInt8) :
    Except ElfParserError Elf64 :=
  match NamedSection.ofName sectionName with
  | none => .ok self
  | some field =>
      if (self.namedSectionHeader field).isSome then .error .invalidSectionHeader
      else .ok (self.setNamedSectionHeader field sectionHeader)

/-- The loop of `Elf64::parse_sections` over the section headers not yet visited. -/
def parseSectionsLoop (elfBytes : Bytes) (sectionNamesSectionHeader : Elf64Shdr) :
    Elf64 → List Elf64Shdr → Except ElfParserError Elf64
  | parser, [] => .ok parser
  | parser, sectionHeader :: rest => do
      let sectionName ← getStringInSection elfBytes sectionNamesSectionHeader
        sectionHeader.shName sectionNameLengthMaximum
      let parser ← parser.sectionHeaderByName sectionHeader sectionName.data
      parseSectionsLoop elfBytes sectionNamesSectionHeader parser rest

/-- `Elf64::parse_sections`. -/
def parseSections (self : Elf64) : Except ElfParserError Elf64 := do
  let sectionNamesSectionHeader ← okOr self.sectionNamesSectionHeader .noSectionNameStringTable
  parseSectionsLoop self.elfBytes sectionNamesSectionHeader self self.sectionHeaderTable.items

/-- `Elf64::get_symbol_table_of_section`. -/
def getSymbolTableOfSection (self : Elf64) (sectionHeader : Elf64Shdr) :
    Except ElfParserError (Slice Elf64Sym) :=
  if sectionHeader.shType ≠ shtSymtab ∧ sectionHeader.shType ≠ shtDynsym then
    .error .invalidSectionHeader
  else sliceFromSectionHeader Elf64Sym self.elfBytes sectionHeader

/-- `Elf64::symbol_table`. -/
def symbolTable (self : Elf64) : Except ElfParserError (Option (Slice Elf64Sym)) :=
  match self.symbolSectionHeader with
  | none => .ok none
  | some sectionHeader => some <$> self.getSymbolTableOfSection sectionHeader

/-! ## The dynamic table -/

/-- The expansion loop of `parse_dynamic`: stop at `DT_NULL`, skip tags at or above `DT_NUM`,
write every other value at its tag. -/
def expandDynamicTable (table : Fin dtNum → UInt64) : List Elf64Dyn → Fin dtNum → UInt64
  | [] => table
  | dynInfo :: rest =>
      if dynInfo.dTag = dtNull then table
      else if tagInside : dynInfo.dTag.toNat < dtNum then
        expandDynamicTable (Function.update table ⟨dynInfo.dTag.toNat, tagInside⟩ dynInfo.dVal) rest
      else expandDynamicTable table rest

/-- `Elf64::program_header_for_vaddr`: the first program header, of any type, whose virtual
range contains `vaddr`; the end of every header it scans is computed with `err_checked_add`. -/
def programHeaderForVaddr (vaddr : UInt64) : List Elf64Phdr →
    Except ElfParserError (Option Elf64Phdr)
  | [] => .ok none
  | programHeader :: rest => do
      let vmEnd ← errCheckedAdd programHeader.pVaddr.toNat programHeader.pMemsz.toNat
      if programHeader.pVaddr.toNat ≤ vaddr.toNat ∧ vaddr.toNat < vmEnd then
        .ok (some programHeader)
      else programHeaderForVaddr vaddr rest

/-- The `offset` of `parse_dynamic_relocations`: `vaddr` resolved through the program header
whose virtual range contains it, else through the section header at that address (the fallback
for the dynamic sections of old `rust-bpf-sysroot` files). -/
def relocationsOffset (self : Elf64) (vaddr : UInt64) : Except ElfParserError Nat := do
  match ← programHeaderForVaddr vaddr self.programHeaderTable.items with
  | some programHeader => do
      let distance ← errCheckedSub vaddr.toNat programHeader.pVaddr.toNat
      errCheckedAdd distance programHeader.pOffset.toNat
  | none => do
      let sectionHeader ← okOr (self.sectionHeaderTable.items.find? (·.shAddr == vaddr))
        .invalidDynamicSectionTable
      .ok sectionHeader.shOffset.toNat

/-- `Elf64::parse_dynamic_relocations`. -/
def parseDynamicRelocations (self : Elf64) : Except ElfParserError (Option (Slice Elf64Rel)) :=
  let vaddr := self.dynamicTable dtRel
  if vaddr = 0 then .ok none
  else if (self.dynamicTable dtRelent).toNat ≠ Pod.size Elf64Rel then
    .error .invalidDynamicSectionTable
  else
    let size := (self.dynamicTable dtRelsz).toNat
    if size = 0 then .error .invalidDynamicSectionTable
    else do
      let offset ← self.relocationsOffset vaddr
      let rangeEnd ← errCheckedAdd offset size
      match sliceFromBytes Elf64Rel self.elfBytes ⟨offset, rangeEnd⟩ with
      | .ok table => .ok (some table)
      | .error _ => .error .invalidDynamicSectionTable

/-- `Elf64::parse_dynamic_symbol_table`. -/
def parseDynamicSymbolTable (self : Elf64) : Except ElfParserError (Option (Slice Elf64Sym)) :=
  let vaddr := self.dynamicTable dtSymtab
  if vaddr = 0 then .ok none
  else do
    let dynsymSectionHeader ← okOr (self.sectionHeaderTable.items.find? (·.shAddr == vaddr))
      .invalidDynamicSectionTable
    some <$> self.getSymbolTableOfSection dynsymSectionHeader

/-- The dynamic array `parse_dynamic` reads: the `PT_DYNAMIC` segment when it materialises,
otherwise the `SHT_DYNAMIC` section (whose failure is an error), otherwise none. -/
def dynamicEntries (self : Elf64) : Except ElfParserError (Option (Slice Elf64Dyn)) :=
  let fromProgramHeader := (self.programHeaderTable.items.find? (·.pType == ptDynamic)).bind
    fun dynamicProgramHeader =>
      (sliceFromProgramHeader Elf64Dyn self.elfBytes dynamicProgramHeader).toOption
  match fromProgramHeader with
  | some table => .ok (some table)
  | none =>
      match self.sectionHeaderTable.items.find? (·.shType == shtDynamic) with
      | some dynamicSectionHeader =>
          match sliceFromSectionHeader Elf64Dyn self.elfBytes dynamicSectionHeader with
          | .ok table => .ok (some table)
          | .error _ => .error .invalidDynamicSectionTable
      | none => .ok none

/-- `Elf64::parse_dynamic`. -/
def parseDynamic (self : Elf64) : Except ElfParserError Elf64 := do
  match ← self.dynamicEntries with
  | none => .ok self
  | some table =>
      let parser := { self with dynamicTable := expandDynamicTable self.dynamicTable table.items }
      let dynamicRelocationsTable ← parser.parseDynamicRelocations
      let parser := { parser with dynamicRelocationsTable }
      let dynamicSymbolTable ← parser.parseDynamicSymbolTable
      .ok { parser with dynamicSymbolTable }

/-! ## `parse` -/

/-- `Elf64::parse`: parse from the given byte slice. -/
def parse (elfBytes : Bytes) : Except ElfParserError Elf64 := do
  let (fileHeaderRange, fileHeader) ← parseFileHeader elfBytes
  if fileHeaderInvalid fileHeader then .error .invalidFileHeader
  else do
    let (programHeaderTableRange, programHeaderTable) ←
      parseProgramHeaderTable elfBytes fileHeaderRange fileHeader
    let (sectionHeaderTableRange, sectionHeaderTable) ←
      parseSectionHeaderTable elfBytes fileHeaderRange fileHeader programHeaderTableRange
    let _ ← okOr (sectionHeaderTable.items.head?.filter (·.shType == shtNull))
      .invalidSectionHeader
    checkLoadSegments elfBytes.data.length 0 programHeaderTable.items
    checkSections elfBytes.data.length fileHeaderRange programHeaderTableRange
      sectionHeaderTableRange 0 sectionHeaderTable.items
    let sectionNamesSectionHeader ←
      (if fileHeader.eShstrndx ≠ shnUndef then
        some <$> okOr sectionHeaderTable.items[fileHeader.eShstrndx.toNat]? .outOfBounds
      else .ok none)
    let parser : Elf64 :=
      { elfBytes, fileHeader, programHeaderTable, sectionHeaderTable, sectionNamesSectionHeader
        symbolSectionHeader := none
        symbolNamesSectionHeader := none
        dynamicTable := fun _ => 0
        dynamicRelocationsTable := none
        dynamicSymbolTable := none
        dynamicSymbolNamesSectionHeader := none }
    let parser ← parser.parseSections
    parser.parseDynamic

/-! ## `Debug` -/

/-- What `<Elf64 as fmt::Debug>::fmt` writes, one `writeln!` each. -/
inductive DebugLine where
  | fileHeader (header : Elf64Ehdr)
  | programHeader (header : Elf64Phdr)
  | sectionName (name : Bytes)
  | sectionHeader (header : Elf64Shdr)
  | symbolTable (table : Slice Elf64Sym)
  | symbolName (name : Bytes)

/-- The section lines of `fmt`: each name must resolve and be UTF-8, or an `unwrap` panics. -/
def fmtSections (self : Elf64) : List Elf64Shdr → Option (List DebugLine)
  | [] => some []
  | sectionHeader :: rest => do
      let sectionNames ← self.sectionNamesSectionHeader
      let sectionName ← (getStringInSection self.elfBytes sectionNames sectionHeader.shName
        sectionNameLengthMaximum >>= fromUtf8).toOption
      let lines ← self.fmtSections rest
      some (.sectionName sectionName :: .sectionHeader sectionHeader :: lines)

/-- The symbol lines of `fmt`: the name of every symbol with `st_name ≠ 0` must resolve in the
recorded `.strtab` and be UTF-8, or an `unwrap` panics. -/
def fmtSymbols (self : Elf64) : List Elf64Sym → Option (List DebugLine)
  | [] => some []
  | symbol :: rest =>
      if symbol.stName ≠ 0 then do
        let symbolNames ← self.symbolNamesSectionHeader
        let symbolName ← (getStringInSection self.elfBytes symbolNames symbol.stName
          symbolNameLengthMaximum >>= fromUtf8).toOption
        let lines ← self.fmtSymbols rest
        some (.symbolName symbolName :: lines)
      else self.fmtSymbols rest

/-- `<Elf64 as fmt::Debug>::fmt`, with the formatter never failing: the lines written, or `none`
when one of its `unwrap`s panics. -/
def fmt (self : Elf64) : Option (List DebugLine) := do
  let sectionLines ← self.fmtSections self.sectionHeaderTable.items
  let symbolLines ← match self.symbolSectionHeader with
    | none => some []
    | some sectionHeader => do
        let symbolTable ← (self.getSymbolTableOfSection sectionHeader).toOption
        let lines ← self.fmtSymbols symbolTable.items
        some (.symbolTable symbolTable :: lines)
  some (.fileHeader self.fileHeader :: self.programHeaderTable.items.map .programHeader ++
    sectionLines ++ symbolLines)

end Elf64

end Sbpf
