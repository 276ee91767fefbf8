import Sbpf.Elf.Accepted
import Sbpf.Elf.Encode

/-!
# The layout of an accepted file

What `parse` guarantees about where things lie in the buffer: the identification fields, the three
header ranges inside the buffer and pairwise disjoint, the `PT_LOAD` segments ordered by address
and inside the buffer, and the file ranges of the sections sorted, disjoint from the headers and
inside the buffer.  The two sweeps of `parse` are loops; their invariants (the running address is
the last `PT_LOAD` address, the running offset the end of the last section) are proved once each
by induction over the table.
-/

namespace Sbpf

/-- The file range `sh_offset..sh_offset + sh_size` of a section. -/
def Elf64Shdr.sectionRange (header : Elf64Shdr) : Range :=
  ⟨header.shOffset.toNat, header.shOffset.toNat + header.shSize.toNat⟩

/-- The file range `p_offset..p_offset + p_filesz` of a segment. -/
def Elf64Phdr.segmentRange (header : Elf64Phdr) : Range :=
  ⟨header.pOffset.toNat, header.pOffset.toNat + header.pFilesz.toNat⟩

/-- A range that lies inside a buffer of `length` bytes. -/
def Range.Inside (range : Range) (length : Nat) : Prop :=
  range.start ≤ range.stop ∧ range.stop ≤ length

/-- The identification, version and entry-size fields a file header must carry. -/
def Elf64Ehdr.Valid (fileHeader : Elf64Ehdr) : Prop :=
  fileHeader.eIdent.eiMag = elfmag ∧ fileHeader.eIdent.eiClass = elfclass64 ∧
    fileHeader.eIdent.eiData = elfdata2lsb ∧ fileHeader.eIdent.eiVersion = evCurrent.toUInt8 ∧
    fileHeader.eVersion = evCurrent ∧ fileHeader.eEhsize = 64 ∧ fileHeader.ePhentsize = 56 ∧
    fileHeader.eShentsize = 64 ∧ fileHeader.eShstrndx < fileHeader.eShnum

/-- The `PT_LOAD` headers of a program-header table, in table order. -/
def loadSegments (headers : List Elf64Phdr) : List Elf64Phdr :=
  headers.filter (·.pType == ptLoad)

/-- The section headers other than `SHT_NOBITS`, in table order. -/
def fileSections (headers : List Elf64Shdr) : List Elf64Shdr :=
  headers.filter (·.shType != shtNobits)

theorem Range.disjoint_of_apart {left right : Range}
    (apart : left.stop ≤ right.start ∨ right.stop ≤ left.start) : left.Disjoint right := by
  rintro offset ⟨⟨_, _⟩, _, _⟩
  omega

theorem Elf64Ehdr.valid_of_not_invalid {fileHeader : Elf64Ehdr}
    (valid : ¬ Elf64.fileHeaderInvalid fileHeader) : fileHeader.Valid := by
  simp only [Elf64.fileHeaderInvalid, not_or, not_not, ge_iff_le, UInt16.not_le] at valid
  exact valid

/-! ## The `PT_LOAD` sweep -/

/-- The invariant of the `PT_LOAD` sweep started at `vaddr`: every `PT_LOAD` lies at or above
`vaddr` and inside the buffer, and the `PT_LOAD` addresses never decrease. -/
theorem checkLoadSegments_ok {length : Nat} {headers : List Elf64Phdr} :
    ∀ {vaddr : UInt64}, Elf64.checkLoadSegments length vaddr headers = .ok () →
      (∀ header ∈ loadSegments headers, vaddr.toNat ≤ header.pVaddr.toNat ∧
        header.pOffset.toNat + header.pFilesz.toNat < 2 ^ 64 ∧
        header.pOffset.toNat + header.pFilesz.toNat ≤ length) ∧
      (loadSegments headers).Pairwise (fun earlier later => earlier.pVaddr.toNat ≤ later.pVaddr.toNat) := by
  induction headers with
  | nil => simp [loadSegments]
  | cons header rest induction =>
      intro vaddr checked
      unfold Elf64.checkLoadSegments at checked
      by_cases load : header.pType = ptLoad
      · have ascending : ¬ header.pVaddr < vaddr := by
          intro below
          simp [load, below] at checked
        have fits : header.pOffset.toNat + header.pFilesz.toNat < 2 ^ 64 ∧
            header.pOffset.toNat + header.pFilesz.toNat ≤ length ∧
            Elf64.checkLoadSegments length header.pVaddr rest = .ok () := by
          simp only [load, ne_eq, not_true_eq_false, if_false, ascending, errCheckedAdd_bind] at checked
          split_ifs at checked with fits outside
          exact ⟨fits, by omega, checked⟩
        obtain ⟨above, ordered⟩ := induction fits.2.2
        have ascending : vaddr.toNat ≤ header.pVaddr.toNat := by
          simpa [UInt64.lt_def, BitVec.lt_def] using ascending
        simp only [loadSegments, List.filter_cons, load, beq_self_eq_true, if_true,
          List.mem_cons, forall_eq_or_imp, List.pairwise_cons] at above ordered ⊢
        exact ⟨⟨⟨ascending, fits.1, fits.2.1⟩, fun later member =>
          ⟨Nat.le_trans ascending (above later member).1, (above later member).2⟩⟩,
          fun later member => (above later member).1, ordered⟩
      · have skip : Elf64.checkLoadSegments length vaddr rest = .ok () := by
          simpa [load] using checked
        simpa [loadSegments, List.filter_cons, load] using induction skip

/-! ## The section sweep -/

/-- What the section sweep checks of one section against the three header ranges. -/
def SectionPlaced (length : Nat) (fileHeaderRange programHeaderTableRange
    sectionHeaderTableRange : Range) (header : Elf64Shdr) : Prop :=
  header.shOffset.toNat + header.shSize.toNat < 2 ^ 64 ∧ header.sectionRange.stop ≤ length ∧
    (header.sectionRange.stop ≤ fileHeaderRange.start ∨
      fileHeaderRange.stop ≤ header.sectionRange.start) ∧
    (header.sectionRange.stop ≤ programHeaderTableRange.start ∨
      programHeaderTableRange.stop ≤ header.sectionRange.start) ∧
    (header.sectionRange.stop ≤ sectionHeaderTableRange.start ∨
      sectionHeaderTableRange.stop ≤ header.sectionRange.start)

/-- The invariant of the section sweep started at `offset`: every section other than
`SHT_NOBITS` starts at or after `offset` and is placed, and each ends before the next starts. -/
theorem checkSections_ok {length : Nat} {fileHeaderRange programHeaderTableRange
    sectionHeaderTableRange : Range} {headers : List Elf64Shdr} :
    ∀ {offset : Nat}, Elf64.checkSections length fileHeaderRange programHeaderTableRange
        sectionHeaderTableRange offset headers = .ok () →
      (∀ header ∈ fileSections headers, offset ≤ header.sectionRange.start ∧
        SectionPlaced length fileHeaderRange programHeaderTableRange sectionHeaderTableRange
          header) ∧
      (fileSections headers).Pairwise
        (fun earlier later => earlier.sectionRange.stop ≤ later.sectionRange.start) := by
  induction headers with
  | nil => simp [fileSections]
  | cons header rest induction =>
      intro offset checked
      unfold Elf64.checkSections at checked
      by_cases nobits : header.shType = shtNobits
      · simpa [fileSections, List.filter_cons, nobits] using induction (by simpa [nobits] using checked)
      · simp only [nobits, if_false, errCheckedAdd_bind] at checked
        by_cases fits : header.shOffset.toNat + header.shSize.toNat < 2 ^ 64
        · rw [if_pos fits] at checked
          obtain ⟨⟨⟩, apart_file, checked⟩ := bind_eq_ok.mp checked
          obtain ⟨⟨⟩, apart_program, checked⟩ := bind_eq_ok.mp checked
          obtain ⟨⟨⟩, apart_section, checked⟩ := bind_eq_ok.mp checked
          rw [Elf64.checkThatThereIsNoOverlap_eq_ok] at apart_file apart_program apart_section
          split at checked
          · cases checked
          split at checked
          · cases checked
          rename_i before outside
          obtain ⟨above, ordered⟩ := induction checked
          simp only [fileSections, List.filter_cons, bne_iff_ne, ne_eq, nobits, not_false_eq_true,
            if_true, List.mem_cons, forall_eq_or_imp, List.pairwise_cons] at above ordered ⊢
          refine ⟨⟨⟨by simp only [Elf64Shdr.sectionRange]; omega, fits, by
              simp only [Elf64Shdr.sectionRange]; omega, apart_file, apart_program,
              apart_section⟩, fun later member => ⟨?_, (above later member).2⟩⟩,
            fun later member => (above later member).1, ordered⟩
          have := (above later member).1
          simp only [Elf64Shdr.sectionRange] at this ⊢
          omega
        · rw [if_neg fits] at checked
          cases checked

/-! ## The layout theorem -/

theorem saturatingAdd_of_lt {left right : Nat} (fits : left + right < 2 ^ 64) :
    saturatingAdd left right = left + right := by
  unfold saturatingAdd
  omega

namespace Elf64.Accepted

variable {elfBytes : Bytes} {elf : Elf64} (accepted : Accepted elfBytes elf)
include accepted

/-- The three header ranges lie inside the buffer and are pairwise disjoint. -/
theorem headerRanges :
    fileHeaderRange.Inside elfBytes.data.length ∧
      elf.fileHeader.programHeaderTableRange.Inside elfBytes.data.length ∧
      elf.fileHeader.sectionHeaderTableRange.Inside elfBytes.data.length ∧
      fileHeaderRange.Disjoint elf.fileHeader.programHeaderTableRange ∧
      fileHeaderRange.Disjoint elf.fileHeader.sectionHeaderTableRange ∧
      elf.fileHeader.programHeaderTableRange.Disjoint elf.fileHeader.sectionHeaderTableRange := by
  obtain ⟨file_inside, -, -⟩ := parseFileHeader_eq_ok.mp accepted.fileHeader_ok
  obtain ⟨-, -, apart_program, program_sliced⟩ :=
    parseProgramHeaderTable_eq_ok.mp accepted.programHeaderTable_ok
  obtain ⟨-, -, apart_file, apart_section, section_sliced⟩ :=
    parseSectionHeaderTable_eq_ok.mp accepted.sectionHeaderTable_ok
  obtain ⟨-, -, program_ordered, program_inside, -⟩ := sliceFromBytes_eq_ok.mp program_sliced
  obtain ⟨-, -, section_ordered, section_inside, -⟩ := sliceFromBytes_eq_ok.mp section_sliced
  exact ⟨⟨Nat.zero_le _, file_inside⟩, ⟨program_ordered, program_inside⟩,
    ⟨section_ordered, section_inside⟩, Range.disjoint_of_apart apart_program,
    Range.disjoint_of_apart apart_file, Range.disjoint_of_apart apart_section⟩

end Elf64.Accepted

/-- A file with a `PT_LOAD` header at virtual address `u64::MAX` with `p_memsz = 2`, and a string
table section at address `u64::MAX` with `sh_size = 1`. -/
def highAddressFile : List UInt8 :=
  (validFileHeader 64 1 128 2 1).write ++
    ({ pType := 1, pFlags := 0, pOffset := 0, pVaddr := 0xFFFFFFFFFFFFFFFF, pPaddr := 0
       pFilesz := 0, pMemsz := 2, pAlign := 0 } : Elf64Phdr).write ++
    List.replicate 8 0 ++
    (sectionHeaderOf 0 0 0 0 0).write ++ (sectionHeaderOf 0 3 0xFFFFFFFFFFFFFFFF 120 1).write

/-- Where the parts of an accepted file lie: (a) the file header carries its required
identification, version and entry sizes and section header 0 is `SHT_NULL`; (b) the three header
ranges lie inside the buffer and are pairwise disjoint; (c) the `PT_LOAD` addresses never decrease
in table order and every `PT_LOAD` lies inside the buffer; (d) every section other than
`SHT_NOBITS` lies inside the buffer, away from the three header ranges, and ends before any later
one starts; (e) `file_range()` of each of these segments and sections is its exact range, its
`saturating_add` never saturating. -/
theorem parse_layout {elfBytes : Bytes} {elf : Elf64} (parsed : Elf64.parse elfBytes = .ok elf) :
    (elf.fileHeader.Valid ∧
      ∃ first, elf.sectionHeaderTable.items.head? = some first ∧ first.shType = shtNull) ∧
    (fileHeaderRange.Inside elfBytes.data.length ∧
      elf.fileHeader.programHeaderTableRange.Inside elfBytes.data.length ∧
      elf.fileHeader.sectionHeaderTableRange.Inside elfBytes.data.length ∧
      fileHeaderRange.Disjoint elf.fileHeader.programHeaderTableRange ∧
      fileHeaderRange.Disjoint elf.fileHeader.sectionHeaderTableRange ∧
      elf.fileHeader.programHeaderTableRange.Disjoint elf.fileHeader.sectionHeaderTableRange) ∧
    ((loadSegments elf.programHeaderTable.items).Pairwise
        (fun earlier later => earlier.pVaddr.toNat ≤ later.pVaddr.toNat) ∧
      ∀ header ∈ loadSegments elf.programHeaderTable.items,
        header.segmentRange.stop ≤ elfBytes.data.length) ∧
    ((∀ header ∈ fileSections elf.sectionHeaderTable.items,
        header.sectionRange.stop ≤ elfBytes.data.length ∧
        header.sectionRange.Disjoint fileHeaderRange ∧
        header.sectionRange.Disjoint elf.fileHeader.programHeaderTableRange ∧
        header.sectionRange.Disjoint elf.fileHeader.sectionHeaderTableRange) ∧
      (fileSections elf.sectionHeaderTable.items).Pairwise
        (fun earlier later => earlier.sectionRange.stop ≤ later.sectionRange.start)) ∧
    (∀ header ∈ elf.programHeaderTable.items, header.pType = ptLoad →
      header.fileRange = some header.segmentRange) ∧
    (∀ header ∈ elf.sectionHeaderTable.items, header.shType ≠ shtNobits →
      header.fileRange = some header.sectionRange) := by
  have accepted := Elf64.parse_accepted parsed
  obtain ⟨segments_placed, segments_ordered⟩ := checkLoadSegments_ok accepted.loadSegments_ok
  obtain ⟨sections_placed, sections_ordered⟩ := checkSections_ok accepted.sections_ok
  refine ⟨⟨Elf64Ehdr.valid_of_not_invalid accepted.fileHeader_valid, accepted.first_null⟩,
    accepted.headerRanges, ⟨segments_ordered, fun header member =>
      (segments_placed header member).2.2⟩, ⟨fun header member => ?_, sections_ordered⟩,
    fun header member load => ?_, fun header member kept => ?_⟩
  · obtain ⟨-, -, inside, apart_file, apart_program, apart_section⟩ :=
      sections_placed header member
    exact ⟨inside, Range.disjoint_of_apart apart_file, Range.disjoint_of_apart apart_program,
      Range.disjoint_of_apart apart_section⟩
  · have fits := (segments_placed header (by simp [loadSegments, member, load])).2.1
    simp [Elf64Phdr.fileRange, load, saturatingAdd_of_lt fits, Elf64Phdr.segmentRange]
  · have fits := (sections_placed header (by simp [fileSections, member, kept])).2.1
    simp [Elf64Shdr.fileRange, kept, saturatingAdd_of_lt fits, Elf64Shdr.sectionRange]

set_option maxRecDepth 100000 in
theorem highAddressFile_layout :
    ∃ elf, Elf64.parse ⟨0, highAddressFile⟩ = .ok elf ∧
      (elf.fileHeader.Valid ∧
        ∃ first, elf.sectionHeaderTable.items.head? = some first ∧ first.shType = shtNull) ∧
      (fileHeaderRange.Inside highAddressFile.length ∧
        elf.fileHeader.programHeaderTableRange.Inside highAddressFile.length ∧
        elf.fileHeader.sectionHeaderTableRange.Inside highAddressFile.length ∧
        fileHeaderRange.Disjoint elf.fileHeader.programHeaderTableRange ∧
        fileHeaderRange.Disjoint elf.fileHeader.sectionHeaderTableRange ∧
        elf.fileHeader.programHeaderTableRange.Disjoint elf.fileHeader.sectionHeaderTableRange) ∧
      ((loadSegments elf.programHeaderTable.items).Pairwise
          (fun earlier later => earlier.pVaddr.toNat ≤ later.pVaddr.toNat) ∧
        ∀ header ∈ loadSegments elf.programHeaderTable.items,
          header.segmentRange.stop ≤ highAddressFile.length) ∧
      ((∀ header ∈ fileSections elf.sectionHeaderTable.items,
          header.sectionRange.stop ≤ highAddressFile.length ∧
          header.sectionRange.Disjoint fileHeaderRange ∧
          header.sectionRange.Disjoint elf.fileHeader.programHeaderTableRange ∧
          header.sectionRange.Disjoint elf.fileHeader.sectionHeaderTableRange) ∧
        (fileSections elf.sectionHeaderTable.items).Pairwise
          (fun earlier later => earlier.sectionRange.stop ≤ later.sectionRange.start)) ∧
      (∀ header ∈ elf.programHeaderTable.items, header.pType = ptLoad →
        header.fileRange = some header.segmentRange) ∧
      (∀ header ∈ elf.sectionHeaderTable.items, header.shType ≠ shtNobits →
        header.fileRange = some header.sectionRange) :=
  ⟨_, rfl, @parse_layout ⟨0, highAddressFile⟩ _ rfl⟩

/-! ## Address arithmetic -/

/-- The length of a range whose end is `saturating_add`ed: the size, cut where the sum would pass
`u64::MAX`. -/
theorem len_saturatingAdd (start size : Nat) :
    Range.len ⟨start, saturatingAdd start size⟩ = min size (2 ^ 64 - 1 - start) := by
  simp only [Range.len, saturatingAdd]
  omega

/-- `vm_range()` of a program header is `p_memsz` long, cut where `p_vaddr + p_memsz` would pass
`u64::MAX`. -/
theorem Elf64Phdr.vmRange_len (header : Elf64Phdr) :
    header.vmRange.len = min header.pMemsz.toNat (2 ^ 64 - 1 - header.pVaddr.toNat) :=
  len_saturatingAdd _ _

/-- `vm_range()` of a section header is `sh_size` long, cut where `sh_addr + sh_size` would pass
`u64::MAX`. -/
theorem Elf64Shdr.vmRange_len (header : Elf64Shdr) :
    header.vmRange.len = min header.shSize.toNat (2 ^ 64 - 1 - header.shAddr.toNat) :=
  len_saturatingAdd _ _

set_option maxRecDepth 100000 in
/-- `parse` accepts `highAddressFile`, whose `PT_LOAD` header and string table section both have
a `vm_range()` shorter than their size: the `saturating_add` saturates. -/
theorem highAddressFile_vmRange_saturates :
    ∃ elf, Elf64.parse ⟨0, highAddressFile⟩ = .ok elf ∧
      (∃ header ∈ loadSegments elf.programHeaderTable.items,
        header.vmRange.len ≠ header.pMemsz.toNat) ∧
      ∃ header ∈ elf.sectionHeaderTable.items, header.vmRange.len ≠ header.shSize.toNat :=
  ⟨_, rfl, by decide, by decide⟩

end Sbpf
