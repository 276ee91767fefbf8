import Sbpf.Elf.Names

/-!
# Bytes appended to an accepted file

`Accepted` is exactly what `parse` checks: a buffer and a file that satisfy it are what `parse`
returns.  A read of the buffer that does not fail with `OutOfBounds` returns the same on a longer
buffer, so appending bytes to an accepted file changes only the buffer of the file `parse`
returns, provided the view of the `PT_DYNAMIC` segment that `parse_dynamic` tries first was not
cut off: `parse_dynamic` drops that view when `slice_from_program_header` rejects it and falls back
to `SHT_DYNAMIC`, so bytes that complete the segment change which dynamic array is read.
-/

namespace Sbpf

theorem ne_error_of_eq_ok {ε α : Type} {result : Except ε α} {value : α} {error : ε}
    (succeeded : result = .ok value) : result ≠ .error error := by
  rw [succeeded]
  exact nofun

/-- The same parser reading another buffer. -/
def Elf64.withBytes (elf : Elf64) (elfBytes : Bytes) : Elf64 :=
  { elf with elfBytes }

section WithBytes

variable (elf : Elf64) (elfBytes : Bytes)

@[simp] theorem Elf64.withBytes_elfBytes : (elf.withBytes elfBytes).elfBytes = elfBytes := rfl

@[simp] theorem Elf64.withBytes_programHeaderTable :
    (elf.withBytes elfBytes).programHeaderTable = elf.programHeaderTable := rfl

@[simp] theorem Elf64.withBytes_sectionHeaderTable :
    (elf.withBytes elfBytes).sectionHeaderTable = elf.sectionHeaderTable := rfl

@[simp] theorem Elf64.withBytes_dynamicTable :
    (elf.withBytes elfBytes).dynamicTable = elf.dynamicTable := rfl

end WithBytes

/-! ## Reads of a longer buffer -/

section Append

variable {addr : Nat} {data extra : List UInt8}

theorem Bytes.get_append {range : Range} {slice : Bytes}
    (sliced : Bytes.get ⟨addr, data⟩ range = some slice) :
    Bytes.get ⟨addr, data ++ extra⟩ range = some slice := by
  obtain ⟨ordered, inside, rfl⟩ := Bytes.get_eq_some.mp sliced
  replace inside : range.stop ≤ data.length := inside
  refine Bytes.get_eq_some.mpr ⟨ordered, by simp only [List.length_append]; omega, ?_⟩
  rw [List.drop_append_of_le_length (by omega),
    List.take_append_of_le_length (by simp only [List.length_drop, Range.len]; omega)]

/-- A view `slice_from_bytes` does not reject with `OutOfBounds` is the same in a longer buffer. -/
theorem sliceFromBytes_append {T : Type} [Pod T] {range : Range}
    (kept : sliceFromBytes T ⟨addr, data⟩ range ≠ .error .outOfBounds) :
    sliceFromBytes T ⟨addr, data ++ extra⟩ range = sliceFromBytes T ⟨addr, data⟩ range := by
  unfold sliceFromBytes at kept ⊢
  split_ifs
  · rfl
  cases sliced : Bytes.get ⟨addr, data⟩ range with
  | none => simp only [if_neg ‹_›, sliced, ne_eq, not_true_eq_false] at kept
  | some slice => rw [Bytes.get_append sliced]

theorem sliceFromFileRange_append {T : Type} [Pod T] {offset size : Nat}
    (kept : sliceFromFileRange T ⟨addr, data⟩ offset size ≠ .error .outOfBounds) :
    sliceFromFileRange T ⟨addr, data ++ extra⟩ offset size =
      sliceFromFileRange T ⟨addr, data⟩ offset size := by
  simp only [sliceFromFileRange, errCheckedAdd_bind] at kept ⊢
  split_ifs at kept ⊢
  exacts [sliceFromBytes_append kept, absurd rfl kept]

theorem sliceFromProgramHeader_append {T : Type} [Pod T] {programHeader : Elf64Phdr}
    (kept : sliceFromProgramHeader T ⟨addr, data⟩ programHeader ≠ .error .outOfBounds) :
    sliceFromProgramHeader T ⟨addr, data ++ extra⟩ programHeader =
      sliceFromProgramHeader T ⟨addr, data⟩ programHeader :=
  sliceFromFileRange_append kept

theorem sliceFromSectionHeader_append {T : Type} [Pod T] {sectionHeader : Elf64Shdr}
    (kept : sliceFromSectionHeader T ⟨addr, data⟩ sectionHeader ≠ .error .outOfBounds) :
    sliceFromSectionHeader T ⟨addr, data ++ extra⟩ sectionHeader =
      sliceFromSectionHeader T ⟨addr, data⟩ sectionHeader :=
  sliceFromFileRange_append kept

/-- A string `get_string_in_section` does not reject with `OutOfBounds` is the same in a longer
buffer. -/
theorem getStringInSection_append {sectionHeader : Elf64Shdr} {offsetInSection : UInt32}
    {maximumLength : Nat}
    (kept : getStringInSection ⟨addr, data⟩ sectionHeader offsetInSection maximumLength ≠
      .error .outOfBounds) :
    getStringInSection ⟨addr, data ++ extra⟩ sectionHeader offsetInSection maximumLength =
      getStringInSection ⟨addr, data⟩ sectionHeader offsetInSection maximumLength := by
  rw [getStringInSection_eq] at kept
  rw [getStringInSection_eq, getStringInSection_eq]
  split_ifs at kept ⊢
  · rfl
  · cases sliced : Bytes.get ⟨addr, data⟩ (stringWindow sectionHeader offsetInSection maximumLength)
    with
    | none => simp only [sliced, ne_eq, not_true_eq_false] at kept
    | some window => rw [Bytes.get_append sliced]
  · rfl

namespace Elf64

theorem parseFileHeader_append (kept : parseFileHeader ⟨addr, data⟩ ≠ .error .outOfBounds) :
    parseFileHeader ⟨addr, data ++ extra⟩ = parseFileHeader ⟨addr, data⟩ := by
  unfold parseFileHeader at kept ⊢
  dsimp only at kept ⊢
  cases sliced : Bytes.get ⟨addr, data⟩ ⟨0, Pod.size Elf64Ehdr⟩ with
  | none => simp only [sliced, ne_eq, not_true_eq_false] at kept
  | some header => rw [Bytes.get_append sliced]

theorem parseProgramHeaderTable_append {fileHeader : Elf64Ehdr} {result : Range × Slice Elf64Phdr}
    (parsed : parseProgramHeaderTable ⟨addr, data⟩ fileHeaderRange fileHeader = .ok result) :
    parseProgramHeaderTable ⟨addr, data ++ extra⟩ fileHeaderRange fileHeader = .ok result := by
  obtain ⟨range_eq, fits, apart, sliced⟩ := parseProgramHeaderTable_eq_ok.mp parsed
  exact parseProgramHeaderTable_eq_ok.mpr ⟨range_eq, fits, apart,
    (sliceFromBytes_append (ne_error_of_eq_ok sliced)).trans sliced⟩

theorem parseSectionHeaderTable_append {fileHeader : Elf64Ehdr} {programHeaderTableRange : Range}
    {result : Range × Slice Elf64Shdr}
    (parsed : parseSectionHeaderTable ⟨addr, data⟩ fileHeaderRange fileHeader
      programHeaderTableRange = .ok result) :
    parseSectionHeaderTable ⟨addr, data ++ extra⟩ fileHeaderRange fileHeader
      programHeaderTableRange = .ok result := by
  obtain ⟨range_eq, fits, apart, apart', sliced⟩ := parseSectionHeaderTable_eq_ok.mp parsed
  exact parseSectionHeaderTable_eq_ok.mpr ⟨range_eq, fits, apart, apart',
    (sliceFromBytes_append (ne_error_of_eq_ok sliced)).trans sliced⟩

/-- The `PT_LOAD` sweep compares segment ends with the buffer length only from above. -/
theorem checkLoadSegments_mono {length length' : Nat} (longer : length ≤ length')
    {headers : List Elf64Phdr} :
    ∀ {vaddr : UInt64}, checkLoadSegments length vaddr headers = .ok () →
      checkLoadSegments length' vaddr headers = .ok () := by
  induction headers with
  | nil => exact fun _ => rfl
  | cons header rest induction =>
      intro vaddr checked
      simp only [checkLoadSegments, errCheckedAdd_bind] at checked ⊢
      split_ifs at checked ⊢ <;> first | exact induction checked | cases checked | omega

/-- The section sweep compares section ends with the buffer length only from above. -/
theorem checkSections_mono {length length' : Nat} (longer : length ≤ length')
    {fileHeaderRange programHeaderTableRange sectionHeaderTableRange : Range}
    {headers : List Elf64Shdr} :
    ∀ {offset : Nat}, checkSections length fileHeaderRange programHeaderTableRange
        sectionHeaderTableRange offset headers = .ok () →
      checkSections length' fileHeaderRange programHeaderTableRange sectionHeaderTableRange
        offset headers = .ok () := by
  induction headers with
  | nil => exact fun _ => rfl
  | cons header rest induction =>
      intro offset checked
      unfold checkSections at checked ⊢
      by_cases nobits : header.shType = shtNobits
      · rw [if_pos nobits] at checked ⊢
        exact induction checked
      simp only [if_neg nobits, errCheckedAdd_bind] at checked ⊢
      by_cases fits : header.shOffset.toNat + header.shSize.toNat < 2 ^ 64
      swap
      · rw [if_neg fits] at checked
        cases checked
      rw [if_pos fits] at checked ⊢
      obtain ⟨⟨⟩, apart, checked⟩ := bind_eq_ok.mp checked
      obtain ⟨⟨⟩, apart', checked⟩ := bind_eq_ok.mp checked
      obtain ⟨⟨⟩, apart'', checked⟩ := bind_eq_ok.mp checked
      refine bind_eq_ok.mpr ⟨(), apart, bind_eq_ok.mpr ⟨(), apart',
        bind_eq_ok.mpr ⟨(), apart'', ?_⟩⟩⟩
      split_ifs at checked ⊢ <;> first | exact induction checked | cases checked | omega

/-! ## The parser on a longer buffer -/

theorem sectionHeaderByName_withBytes (parser : Elf64) (elfBytes : Bytes)
    (sectionHeader : Elf64Shdr) (sectionName : List UInt8) :
    (parser.withBytes elfBytes).sectionHeaderByName sectionHeader sectionName =
      (·.withBytes elfBytes) <$> parser.sectionHeaderByName sectionHeader sectionName := by
  unfold sectionHeaderByName
  split
  · rfl
  · rename_i field _
    cases field <;> dsimp only [namedSectionHeader, withBytes] <;> split_ifs <;> rfl

/-- The `parse_sections` loop reads the buffer only through `get_string_in_section`. -/
theorem parseSectionsLoop_append {sectionNames : Elf64Shdr} {elfBytes : Bytes}
    {headers : List Elf64Shdr} :
    ∀ {parser result : Elf64}, parseSectionsLoop ⟨addr, data⟩ sectionNames parser headers = .ok result →
      parseSectionsLoop ⟨addr, data ++ extra⟩ sectionNames (parser.withBytes elfBytes) headers =
        .ok (result.withBytes elfBytes) := by
  induction headers with
  | nil =>
      intro parser result looped
      cases looped
      rfl
  | cons sectionHeader rest induction =>
      intro parser result looped
      obtain ⟨name, name_ok, looped⟩ := bind_eq_ok.mp looped
      obtain ⟨named, named_ok, looped⟩ := bind_eq_ok.mp looped
      simp only [parseSectionsLoop, getStringInSection_append (ne_error_of_eq_ok name_ok), name_ok,
        sectionHeaderByName_withBytes, named_ok, bind, Except.bind, Functor.map, Except.map]
      exact induction looped

theorem parseSections_append {parser result : Elf64} (bytes_eq : parser.elfBytes = ⟨addr, data⟩)
    (parsed : parser.parseSections = .ok result) :
    (parser.withBytes ⟨addr, data ++ extra⟩).parseSections =
      .ok (result.withBytes ⟨addr, data ++ extra⟩) := by
  obtain ⟨sectionNames, named, looped⟩ := bind_eq_ok.mp parsed
  rw [bytes_eq] at looped
  exact bind_eq_ok.mpr ⟨sectionNames, named, parseSectionsLoop_append looped⟩

theorem getSymbolTableOfSection_append {parser : Elf64} (bytes_eq : parser.elfBytes = ⟨addr, data⟩)
    {sectionHeader : Elf64Shdr} {table : Slice Elf64Sym}
    (viewed : parser.getSymbolTableOfSection sectionHeader = .ok table) :
    (parser.withBytes ⟨addr, data ++ extra⟩).getSymbolTableOfSection sectionHeader = .ok table := by
  unfold getSymbolTableOfSection at viewed ⊢
  rw [bytes_eq] at viewed
  split_ifs at viewed ⊢
  exact (sliceFromSectionHeader_append (ne_error_of_eq_ok viewed)).trans viewed

theorem parseDynamicRelocations_append {parser : Elf64} (bytes_eq : parser.elfBytes = ⟨addr, data⟩)
    {relocations : Option (Slice Elf64Rel)} (parsed : parser.parseDynamicRelocations = .ok relocations) :
    (parser.withBytes ⟨addr, data ++ extra⟩).parseDynamicRelocations = .ok relocations := by
  unfold parseDynamicRelocations at parsed ⊢
  rw [bytes_eq] at parsed
  simp only [withBytes_dynamicTable, withBytes_elfBytes] at parsed ⊢
  split_ifs at parsed ⊢
  · exact parsed
  obtain ⟨offset, offset_ok, parsed⟩ := bind_eq_ok.mp parsed
  obtain ⟨rangeEnd, end_ok, parsed⟩ := bind_eq_ok.mp parsed
  refine bind_eq_ok.mpr ⟨offset, offset_ok, bind_eq_ok.mpr ⟨rangeEnd, end_ok, ?_⟩⟩
  split at parsed
  · rename_i table sliced
    rw [sliceFromBytes_append (ne_error_of_eq_ok sliced), sliced]
    exact parsed
  · cases parsed

theorem parseDynamicSymbolTable_append {parser : Elf64} (bytes_eq : parser.elfBytes = ⟨addr, data⟩)
    {symbols : Option (Slice Elf64Sym)} (parsed : parser.parseDynamicSymbolTable = .ok symbols) :
    (parser.withBytes ⟨addr, data ++ extra⟩).parseDynamicSymbolTable = .ok symbols := by
  unfold parseDynamicSymbolTable at parsed ⊢
  simp only [withBytes_dynamicTable, withBytes_sectionHeaderTable] at parsed ⊢
  split_ifs at parsed ⊢
  · exact parsed
  obtain ⟨dynsym, found, parsed⟩ := bind_eq_ok.mp parsed
  refine bind_eq_ok.mpr ⟨dynsym, found, ?_⟩
  cases viewed : parser.getSymbolTableOfSection dynsym with
  | error => rw [viewed] at parsed; cases parsed
  | ok table =>
      rw [viewed] at parsed
      rw [getSymbolTableOfSection_append bytes_eq viewed]
      exact parsed

/-- The `PT_DYNAMIC` view `parse_dynamic` tries first was not rejected with `OutOfBounds`. -/
def DynamicSegmentKept (elfBytes : Bytes) (programHeaders : List Elf64Phdr) : Prop :=
  ∀ header, programHeaders.find? (·.pType == ptDynamic) = some header →
    sliceFromProgramHeader Elf64Dyn elfBytes header ≠ .error .outOfBounds

theorem dynamicEntries_append {parser : Elf64} (bytes_eq : parser.elfBytes = ⟨addr, data⟩)
    (kept : DynamicSegmentKept ⟨addr, data⟩ parser.programHeaderTable.items)
    {entries : Option (Slice Elf64Dyn)} (read : parser.dynamicEntries = .ok entries) :
    (parser.withBytes ⟨addr, data ++ extra⟩).dynamicEntries = .ok entries := by
  unfold dynamicEntries at read ⊢
  rw [bytes_eq] at read
  simp only [withBytes_elfBytes, withBytes_programHeaderTable, withBytes_sectionHeaderTable]
  have fromProgramHeader : ((parser.programHeaderTable.items.find? (·.pType == ptDynamic)).bind
      fun header => (sliceFromProgramHeader Elf64Dyn ⟨addr, data ++ extra⟩ header).toOption) =
      (parser.programHeaderTable.items.find? (·.pType == ptDynamic)).bind
        fun header => (sliceFromProgramHeader Elf64Dyn ⟨addr, data⟩ header).toOption := by
    cases found : parser.programHeaderTable.items.find? (·.pType == ptDynamic) with
    | none => rfl
    | some header =>
        simp only [Option.some_bind, sliceFromProgramHeader_append (kept header found)]
  dsimp only at read
  rw [fromProgramHeader]
  generalize (parser.programHeaderTable.items.find? (·.pType == ptDynamic)).bind (fun header =>
    (sliceFromProgramHeader Elf64Dyn ⟨addr, data⟩ header).toOption) = fromProgramHeader at read ⊢
  generalize parser.sectionHeaderTable.items.find? (·.shType == shtDynamic) = dynamicSection
    at read ⊢
  rcases fromProgramHeader with _ | table
  · rcases dynamicSection with _ | dynamicSectionHeader
    · exact read
    cases viewed : sliceFromSectionHeader Elf64Dyn ⟨addr, data⟩ dynamicSectionHeader with
    | error => simp only [viewed] at read; cases read
    | ok table =>
        dsimp only at read ⊢
        rw [sliceFromSectionHeader_append (ne_error_of_eq_ok viewed)]
        exact read
  · exact read

theorem parseDynamic_append {parser result : Elf64} (bytes_eq : parser.elfBytes = ⟨addr, data⟩)
    (kept : DynamicSegmentKept ⟨addr, data⟩ parser.programHeaderTable.items)
    (parsed : parser.parseDynamic = .ok result) :
    (parser.withBytes ⟨addr, data ++ extra⟩).parseDynamic =
      .ok (result.withBytes ⟨addr, data ++ extra⟩) := by
  obtain ⟨entries, entries_ok, parsed⟩ := bind_eq_ok.mp parsed
  refine bind_eq_ok.mpr ⟨entries, dynamicEntries_append bytes_eq kept entries_ok, ?_⟩
  rcases entries with _ | table
  · cases parsed
    rfl
  obtain ⟨relocations, relocations_ok, parsed⟩ := bind_eq_ok.mp parsed
  obtain ⟨symbols, symbols_ok, parsed⟩ := bind_eq_ok.mp parsed
  cases parsed
  have relocations_read :
      ({ parser with dynamicTable := expandDynamicTable parser.dynamicTable table.items }.withBytes
        ⟨addr, data ++ extra⟩).parseDynamicRelocations = .ok relocations :=
    parseDynamicRelocations_append (by exact bytes_eq) relocations_ok
  have symbols_read :
      ({ parser with
          dynamicTable := expandDynamicTable parser.dynamicTable table.items
          dynamicRelocationsTable := relocations }.withBytes
        ⟨addr, data ++ extra⟩).parseDynamicSymbolTable = .ok symbols :=
    parseDynamicSymbolTable_append (by exact bytes_eq) symbols_ok
  exact bind_eq_ok.mpr ⟨relocations, relocations_read,
    bind_eq_ok.mpr ⟨symbols, symbols_read, rfl⟩⟩

/-! ## `parse` on a longer buffer -/

/-- Every stage of `parse` before `parse_dynamic` succeeds on an accepted buffer with bytes
appended, with the same results: `parse` then runs `parse_dynamic` again, on the longer buffer. -/
theorem Accepted.parse_append_eq {elf : Elf64} (accepted : Accepted ⟨addr, data⟩ elf)
    (extra : List UInt8) :
    parse ⟨addr, data ++ extra⟩ =
      (elf.beforeDynamic.withBytes ⟨addr, data ++ extra⟩).parseDynamic := by
  obtain ⟨sectionNames, named, -⟩ := accepted.sectionNames_ok
  obtain ⟨first, first_eq, null⟩ := accepted.first_null
  have first_ok : okOr (elf.sectionHeaderTable.items.head?.filter (·.shType == shtNull))
      .invalidSectionHeader = .ok first := by
    simp [first_eq, null]
  have names_ok : (if elf.fileHeader.eShstrndx ≠ shnUndef then
      some <$> okOr elf.sectionHeaderTable.items[elf.fileHeader.eShstrndx.toNat]? .outOfBounds
      else .ok none) = .ok elf.sectionNamesSectionHeader := by
    have recorded := accepted.sectionNames_eq
    split_ifs at recorded ⊢
    · rw [← recorded, named]
      rfl
    · rw [recorded]
  have longer : data.length ≤ (data ++ extra).length := by simp
  simp only [parse, (parseFileHeader_append (ne_error_of_eq_ok accepted.fileHeader_ok)).trans
      accepted.fileHeader_ok, if_neg accepted.fileHeader_valid,
    parseProgramHeaderTable_append accepted.programHeaderTable_ok,
    parseSectionHeaderTable_append accepted.sectionHeaderTable_ok, first_ok,
    checkLoadSegments_mono longer accepted.loadSegments_ok,
    checkSections_mono longer accepted.sections_ok, names_ok, bind, Except.bind]
  exact congrArg (· >>= parseDynamic)
    (parseSections_append (by exact accepted.elfBytes_eq) accepted.parseSections_ok)

/-- `parse` succeeds on a buffer exactly when it makes every check `Accepted` records, and then
returns the file they describe. -/
theorem parse_eq_ok_iff {elfBytes : Bytes} {elf : Elf64} :
    parse elfBytes = .ok elf ↔ Accepted elfBytes elf := by
  refine ⟨parse_accepted, fun accepted => ?_⟩
  obtain ⟨addr, data⟩ := elfBytes
  have rerun := accepted.parse_append_eq []
  rw [List.append_nil] at rerun
  refine rerun.trans ?_
  rw [← accepted.elfBytes_eq]
  exact accepted.parseDynamic_ok

/-- Appending bytes to a buffer `parse` accepts gives the same file, reading the longer buffer,
unless `parse_dynamic` dropped the view of its `PT_DYNAMIC` segment with `OutOfBounds`. -/
theorem parse_append {addr : Nat} {data : List UInt8} {elf : Elf64}
    (parsed : parse ⟨addr, data⟩ = .ok elf)
    (kept : DynamicSegmentKept ⟨addr, data⟩ elf.programHeaderTable.items) (extra : List UInt8) :
    parse ⟨addr, data ++ extra⟩ = .ok (elf.withBytes ⟨addr, data ++ extra⟩) := by
  have accepted := parse_accepted parsed
  exact (accepted.parse_append_eq extra).trans
    (parseDynamic_append accepted.elfBytes_eq kept accepted.parseDynamic_ok)

/-- A file with one `PT_DYNAMIC` segment, of one entry, lying just past its end. -/
def cutDynamicFile : List UInt8 :=
  (validFileHeader 64 1 120 2 1).write ++
    ({ pType := 2, pFlags := 0, pOffset := 256, pVaddr := 0, pPaddr := 0, pFilesz := 16
       pMemsz := 16, pAlign := 0 } : Elf64Phdr).write ++
    (sectionHeaderOf 0 0 0 0 0).write ++ (sectionHeaderOf 0 3 0 248 1).write ++ List.replicate 8 0

set_option maxRecDepth 100000 in
theorem cutDynamicFile_completed_append :
    ∃ elf, parse ⟨0, cutDynamicFile ++ Elf64Dyn.write ⟨0, 0⟩⟩ = .ok elf ∧
      DynamicSegmentKept ⟨0, cutDynamicFile ++ Elf64Dyn.write ⟨0, 0⟩⟩
        elf.programHeaderTable.items ∧
      parse ⟨0, cutDynamicFile ++ Elf64Dyn.write ⟨0, 0⟩ ++ [1, 2, 3]⟩ =
        .ok (elf.withBytes ⟨0, cutDynamicFile ++ Elf64Dyn.write ⟨0, 0⟩ ++ [1, 2, 3]⟩) :=
  ⟨_, rfl, fun _ found => by cases found; exact ne_error_of_eq_ok rfl,
    @parse_append 0 (cutDynamicFile ++ Elf64Dyn.write ⟨0, 0⟩) _ rfl
      (fun _ found => by cases found; exact ne_error_of_eq_ok rfl) [1, 2, 3]⟩

/- Without the `PT_DYNAMIC` condition the result changes: `cutDynamicFile` is accepted, its
segment's view being dropped, and the 16 bytes that complete the segment with a `DT_SYMTAB` entry
no section header resolves make `parse` fail. -/
set_option maxRecDepth 100000 in
example : ∃ elf, parse ⟨0, cutDynamicFile⟩ = .ok elf ∧
    parse ⟨0, cutDynamicFile ++ Elf64Dyn.write ⟨6, 0x2000⟩⟩ = .error .invalidDynamicSectionTable :=
  ⟨_, rfl, rfl⟩

end Elf64

end Append

end Sbpf
