import Sbpf.Elf.Appended

/-!
# Bytes `parse` never reads

`parse` reads the file header, the program- and section-header tables, a window of at most
sixteen bytes at each section name and the dynamic arrays it may select, and nothing else: the
relocation and dynamic-symbol tables it records are views whose bytes it never examines.
`Elf64.readRanges` lists these ranges for a parsed file.  A buffer of the same length that agrees
with an accepted one on every range of the list is accepted too, and `parse` returns the same file
reading the new buffer, its two views decoding the new bytes at the same addresses.
-/

namespace Sbpf

/-- `data'` holds the bytes of `data` at every offset of `range`. -/
def AgreeOn (data data' : List UInt8) (range : Range) : Prop :=
  ∀ index, range.start ≤ index → index < range.stop → data'[index]? = data[index]?

/-- The same view in another buffer: the records at the view's address, decoded from
`elfBytes`. -/
def Slice.reread {T : Type} [Pod T] (elfBytes : Bytes) (slice : Slice T) : Slice T :=
  ⟨slice.addr, fromRawParts T (elfBytes.data.drop (slice.addr - elfBytes.addr)) slice.items.length⟩

namespace Elf64

/-- The same file reading another buffer, its two dynamic views decoding that buffer. -/
def reread (elf : Elf64) (elfBytes : Bytes) : Elf64 :=
  { elf with
    elfBytes
    dynamicRelocationsTable := elf.dynamicRelocationsTable.map (·.reread elfBytes)
    dynamicSymbolTable := elf.dynamicSymbolTable.map (·.reread elfBytes) }

/-- The ranges of the buffer whose bytes `parse` reads: the file header, the two header tables,
the name window of every section, and the first `PT_DYNAMIC` segment and `SHT_DYNAMIC` section. -/
def readRanges (elf : Elf64) : List Range :=
  fileHeaderRange :: elf.fileHeader.programHeaderTableRange ::
    elf.fileHeader.sectionHeaderTableRange ::
      ((match elf.sectionNamesSectionHeader with
        | some names => elf.sectionHeaderTable.items.map fun header =>
            stringWindow names header.shName sectionNameLengthMaximum
        | none => []) ++
      ((elf.programHeaderTable.items.find? (·.pType == ptDynamic)).map
        Elf64Phdr.segmentRange).toList ++
      ((elf.sectionHeaderTable.items.find? (·.shType == shtDynamic)).map
        Elf64Shdr.sectionRange).toList)

section Reread

variable (elf : Elf64) (elfBytes : Bytes)

@[simp] theorem reread_elfBytes : (elf.reread elfBytes).elfBytes = elfBytes := rfl

@[simp] theorem reread_programHeaderTable :
    (elf.reread elfBytes).programHeaderTable = elf.programHeaderTable := rfl

@[simp] theorem reread_sectionHeaderTable :
    (elf.reread elfBytes).sectionHeaderTable = elf.sectionHeaderTable := rfl

@[simp] theorem reread_dynamicTable : (elf.reread elfBytes).dynamicTable = elf.dynamicTable := rfl

end Reread

end Elf64

/-! ## Reads of a buffer that agrees on the range read -/

section Frame

variable {addr : Nat} {data data' : List UInt8}

theorem take_drop_congr {range : Range} (agree : AgreeOn data data' range) :
    (data'.drop range.start).take range.len = (data.drop range.start).take range.len := by
  apply List.ext_getElem?
  intro index
  simp only [List.getElem?_take, List.getElem?_drop]
  split_ifs with within
  · exact agree _ (by omega) (by simp only [Range.len] at within; omega)
  · rfl

theorem Bytes.get_congr {range : Range} (sameLength : data'.length = data.length)
    (agree : AgreeOn data data' range) :
    Bytes.get ⟨addr, data'⟩ range = Bytes.get ⟨addr, data⟩ range := by
  unfold Bytes.get
  simp only [sameLength, take_drop_congr agree]

theorem sliceFromBytes_congr {T : Type} [Pod T] {range : Range}
    (sameLength : data'.length = data.length) (agree : AgreeOn data data' range) :
    sliceFromBytes T ⟨addr, data'⟩ range = sliceFromBytes T ⟨addr, data⟩ range := by
  unfold sliceFromBytes
  rw [Bytes.get_congr sameLength agree]

theorem sliceFromFileRange_congr {T : Type} [Pod T] {offset size : Nat}
    (sameLength : data'.length = data.length) (agree : AgreeOn data data' ⟨offset, offset + size⟩) :
    sliceFromFileRange T ⟨addr, data'⟩ offset size = sliceFromFileRange T ⟨addr, data⟩ offset size := by
  simp only [sliceFromFileRange, errCheckedAdd_bind, sliceFromBytes_congr sameLength agree]

theorem getStringInSection_congr {sectionHeader : Elf64Shdr} {offsetInSection : UInt32}
    {maximumLength : Nat} (sameLength : data'.length = data.length)
    (agree : AgreeOn data data' (stringWindow sectionHeader offsetInSection maximumLength)) :
    getStringInSection ⟨addr, data'⟩ sectionHeader offsetInSection maximumLength =
      getStringInSection ⟨addr, data⟩ sectionHeader offsetInSection maximumLength := by
  rw [getStringInSection_eq, getStringInSection_eq, Bytes.get_congr sameLength agree]

/-- The first `count` records of a buffer lie in its first `count * size_of::<T>()` bytes. -/
theorem fromRawParts_take {T : Type} [Pod T] (bytes : List UInt8) {length count : Nat}
    (enough : count * Pod.size T ≤ length) :
    fromRawParts T (bytes.take length) count = fromRawParts T bytes count := by
  induction count generalizing bytes length with
  | zero => rfl
  | succ count induction =>
    rw [Nat.succ_mul] at enough
    simp only [fromRawParts, Pod.decode_take_of_le bytes (show Pod.size T ≤ length by omega),
      List.drop_take, induction (bytes.drop (Pod.size T))
        (show count * Pod.size T ≤ length - Pod.size T by omega)]

/-- `slice_from_bytes` checks only the length of the buffer: in a buffer of the same length it
accepts the same ranges, and views the records of the new buffer. -/
theorem sliceFromBytes_reread {T : Type} [Pod T] {range : Range}
    (sameLength : data'.length = data.length) :
    sliceFromBytes T ⟨addr, data'⟩ range =
      (sliceFromBytes T ⟨addr, data⟩ range).map (·.reread ⟨addr, data'⟩) := by
  rw [sliceFromBytes_eq, sliceFromBytes_eq]
  simp only [sameLength]
  split_ifs
  · simp only [Except.map, Slice.reread, length_fromRawParts, Nat.add_sub_cancel_left,
      fromRawParts_take _ (Nat.div_mul_le_self _ _)]
  all_goals rfl

theorem sliceFromFileRange_reread {T : Type} [Pod T] {offset size : Nat}
    (sameLength : data'.length = data.length) :
    sliceFromFileRange T ⟨addr, data'⟩ offset size =
      (sliceFromFileRange T ⟨addr, data⟩ offset size).map (·.reread ⟨addr, data'⟩) := by
  simp only [sliceFromFileRange, errCheckedAdd_bind]
  split_ifs
  exacts [sliceFromBytes_reread sameLength, rfl]

/-! ## The stages of `parse` -/

namespace Elf64

theorem parseFileHeader_congr (sameLength : data'.length = data.length)
    (agree : AgreeOn data data' fileHeaderRange) :
    parseFileHeader ⟨addr, data'⟩ = parseFileHeader ⟨addr, data⟩ := by
  unfold parseFileHeader
  dsimp only
  rw [show Bytes.get ⟨addr, data'⟩ ⟨0, Pod.size Elf64Ehdr⟩ = _ from Bytes.get_congr sameLength agree]

theorem parseProgramHeaderTable_congr {fileHeader : Elf64Ehdr} {result : Range × Slice Elf64Phdr}
    (sameLength : data'.length = data.length)
    (agree : AgreeOn data data' fileHeader.programHeaderTableRange)
    (parsed : parseProgramHeaderTable ⟨addr, data⟩ fileHeaderRange fileHeader = .ok result) :
    parseProgramHeaderTable ⟨addr, data'⟩ fileHeaderRange fileHeader = .ok result := by
  obtain ⟨range_eq, fits, apart, sliced⟩ := parseProgramHeaderTable_eq_ok.mp parsed
  exact parseProgramHeaderTable_eq_ok.mpr ⟨range_eq, fits, apart,
    (sliceFromBytes_congr sameLength agree).trans sliced⟩

theorem parseSectionHeaderTable_congr {fileHeader : Elf64Ehdr} {programHeaderTableRange : Range}
    {result : Range × Slice Elf64Shdr} (sameLength : data'.length = data.length)
    (agree : AgreeOn data data' fileHeader.sectionHeaderTableRange)
    (parsed : parseSectionHeaderTable ⟨addr, data⟩ fileHeaderRange fileHeader
      programHeaderTableRange = .ok result) :
    parseSectionHeaderTable ⟨addr, data'⟩ fileHeaderRange fileHeader
      programHeaderTableRange = .ok result := by
  obtain ⟨range_eq, fits, apart, apart', sliced⟩ := parseSectionHeaderTable_eq_ok.mp parsed
  exact parseSectionHeaderTable_eq_ok.mpr ⟨range_eq, fits, apart, apart',
    (sliceFromBytes_congr sameLength agree).trans sliced⟩

/-- The `parse_sections` loop reads the buffer only at the name window of each section. -/
theorem parseSectionsLoop_congr {sectionNames : Elf64Shdr} {elfBytes : Bytes}
    (sameLength : data'.length = data.length) {headers : List Elf64Shdr}
    (agree : ∀ header ∈ headers,
      AgreeOn data data' (stringWindow sectionNames header.shName sectionNameLengthMaximum)) :
    ∀ {parser result : Elf64}, parseSectionsLoop ⟨addr, data⟩ sectionNames parser headers = .ok result →
      parseSectionsLoop ⟨addr, data'⟩ sectionNames (parser.withBytes elfBytes) headers =
        .ok (result.withBytes elfBytes) := by
  induction headers with
  | nil =>
      intro parser result looped
      cases looped
      rfl
  | cons sectionHeader rest induction =>
      intro parser result looped
      obtain ⟨name, name_ok, looped⟩ := bind_eq_ok.mp looped
      obtain ⟨named, named_ok, looped⟩ := bind_eq_ok.mp looped
      have name_read : getStringInSection ⟨addr, data'⟩ sectionNames sectionHeader.shName
          sectionNameLengthMaximum = .ok name :=
        (getStringInSection_congr sameLength (agree _ (List.mem_cons_self _ _))).trans name_ok
      simp only [parseSectionsLoop, name_read, sectionHeaderByName_withBytes, named_ok,
        bind, Except.bind, Functor.map, Except.map]
      exact induction (fun header member => agree header (List.mem_cons_of_mem _ member)) looped

theorem parseSections_congr {parser result : Elf64} (bytes_eq : parser.elfBytes = ⟨addr, data⟩)
    (sameLength : data'.length = data.length)
    (agree : ∀ sectionNames, parser.sectionNamesSectionHeader = some sectionNames →
      ∀ header ∈ parser.sectionHeaderTable.items,
        AgreeOn data data' (stringWindow sectionNames header.shName sectionNameLengthMaximum))
    (parsed : parser.parseSections = .ok result) :
    (parser.withBytes ⟨addr, data'⟩).parseSections = .ok (result.withBytes ⟨addr, data'⟩) := by
  obtain ⟨sectionNames, named, looped⟩ := bind_eq_ok.mp parsed
  rw [bytes_eq] at looped
  exact bind_eq_ok.mpr ⟨sectionNames, named,
    parseSectionsLoop_congr sameLength (agree sectionNames (okOr_eq_ok.mp named)) looped⟩

/-! ## `parse_dynamic` on a buffer of the same length -/

section Dynamic

variable {parser : Elf64} (bytes_eq : parser.elfBytes = ⟨addr, data⟩)
  (sameLength : data'.length = data.length)
include bytes_eq sameLength

theorem getSymbolTableOfSection_reread (sectionHeader : Elf64Shdr) :
    (parser.reread ⟨addr, data'⟩).getSymbolTableOfSection sectionHeader =
      (parser.getSymbolTableOfSection sectionHeader).map (·.reread ⟨addr, data'⟩) := by
  unfold getSymbolTableOfSection
  split_ifs
  · rfl
  · rw [bytes_eq, reread_elfBytes]
    exact sliceFromFileRange_reread sameLength

theorem parseDynamicSymbolTable_reread :
    (parser.reread ⟨addr, data'⟩).parseDynamicSymbolTable =
      parser.parseDynamicSymbolTable.map (Option.map (·.reread ⟨addr, data'⟩)) := by
  unfold parseDynamicSymbolTable
  simp only [reread_dynamicTable, reread_sectionHeaderTable, okOr_bind,
    getSymbolTableOfSection_reread bytes_eq sameLength]
  split_ifs
  · rfl
  split
  · cases parser.getSymbolTableOfSection _ <;> rfl
  · rfl

theorem parseDynamicRelocations_reread :
    (parser.reread ⟨addr, data'⟩).parseDynamicRelocations =
      parser.parseDynamicRelocations.map (Option.map (·.reread ⟨addr, data'⟩)) := by
  unfold parseDynamicRelocations
  simp only [reread_dynamicTable, reread_elfBytes]
  split_ifs
  · rfl
  · rfl
  · rfl
  rw [show (parser.reread ⟨addr, data'⟩).relocationsOffset = parser.relocationsOffset from rfl]
  cases parser.relocationsOffset _ with
  | error => rfl
  | ok offset =>
      simp only [errCheckedAdd_bind]
      simp only [bind, Except.bind]
      split_ifs
      · rw [sliceFromBytes_reread sameLength, ← bytes_eq]
        cases sliceFromBytes Elf64Rel parser.elfBytes _ <;> rfl
      · rfl

/-- `parse_dynamic` reads the buffer only at the first `PT_DYNAMIC` segment and the first
`SHT_DYNAMIC` section. -/
theorem dynamicEntries_congr
    (segment : ∀ header, parser.programHeaderTable.items.find? (·.pType == ptDynamic) = some header →
      AgreeOn data data' header.segmentRange)
    (dynamicSection : ∀ header,
      parser.sectionHeaderTable.items.find? (·.shType == shtDynamic) = some header →
        AgreeOn data data' header.sectionRange) :
    (parser.reread ⟨addr, data'⟩).dynamicEntries = parser.dynamicEntries := by
  unfold dynamicEntries sliceFromProgramHeader sliceFromSectionHeader
  simp only [reread_elfBytes, reread_programHeaderTable, reread_sectionHeaderTable, bytes_eq]
  rw [Option.bind_congr fun header found =>
    congrArg Except.toOption (sliceFromFileRange_congr sameLength (segment header found))]
  cases found : parser.sectionHeaderTable.items.find? (·.shType == shtDynamic) with
  | none => rfl
  | some header =>
      dsimp only
      rw [sliceFromFileRange_congr sameLength (dynamicSection header found)]

theorem parseDynamic_reread
    (segment : ∀ header, parser.programHeaderTable.items.find? (·.pType == ptDynamic) = some header →
      AgreeOn data data' header.segmentRange)
    (dynamicSection : ∀ header,
      parser.sectionHeaderTable.items.find? (·.shType == shtDynamic) = some header →
        AgreeOn data data' header.sectionRange)
    {result : Elf64} (parsed : parser.parseDynamic = .ok result) :
    (parser.reread ⟨addr, data'⟩).parseDynamic = .ok (result.reread ⟨addr, data'⟩) := by
  obtain ⟨entries, entries_ok, parsed⟩ := bind_eq_ok.mp parsed
  refine bind_eq_ok.mpr ⟨entries,
    (dynamicEntries_congr bytes_eq sameLength segment dynamicSection).trans entries_ok, ?_⟩
  rcases entries with _ | table
  · cases parsed
    rfl
  obtain ⟨relocations, relocations_ok, parsed⟩ := bind_eq_ok.mp parsed
  obtain ⟨symbols, symbols_ok, parsed⟩ := bind_eq_ok.mp parsed
  cases parsed
  have relocations_read :
      ({ parser with dynamicTable := expandDynamicTable parser.dynamicTable table.items }.reread
        ⟨addr, data'⟩).parseDynamicRelocations = .ok (relocations.map (·.reread ⟨addr, data'⟩)) := by
    rw [parseDynamicRelocations_reread (by exact bytes_eq) sameLength, relocations_ok]
    rfl
  have symbols_read :
      ({ parser with
          dynamicTable := expandDynamicTable parser.dynamicTable table.items
          dynamicRelocationsTable := relocations }.reread ⟨addr, data'⟩).parseDynamicSymbolTable =
        .ok (symbols.map (·.reread ⟨addr, data'⟩)) := by
    rw [parseDynamicSymbolTable_reread (by exact bytes_eq) sameLength, symbols_ok]
    rfl
  exact bind_eq_ok.mpr ⟨_, relocations_read, bind_eq_ok.mpr ⟨_, symbols_read, rfl⟩⟩

end Dynamic

/-! ## `parse` -/

/-- On a buffer of the length of an accepted one, where the three header reads return what they
returned on it, `parse` makes the same checks and then runs `parse_sections` and `parse_dynamic`
reading the new buffer. -/
theorem Accepted.parse_of_headers {elf : Elf64} (accepted : Accepted ⟨addr, data⟩ elf)
    (sameLength : data'.length = data.length)
    (fileHeader_ok : parseFileHeader ⟨addr, data'⟩ = .ok (fileHeaderRange, elf.fileHeader))
    (programHeaderTable_ok : parseProgramHeaderTable ⟨addr, data'⟩ fileHeaderRange elf.fileHeader =
      .ok (elf.fileHeader.programHeaderTableRange, elf.programHeaderTable))
    (sectionHeaderTable_ok : parseSectionHeaderTable ⟨addr, data'⟩ fileHeaderRange elf.fileHeader
      elf.fileHeader.programHeaderTableRange =
        .ok (elf.fileHeader.sectionHeaderTableRange, elf.sectionHeaderTable)) :
    parse ⟨addr, data'⟩ = (elf.beforeSections.withBytes ⟨addr, data'⟩).parseSections >>= parseDynamic := by
  obtain ⟨sectionNames, named, -⟩ := accepted.sectionNames_ok
  obtain ⟨first, first_eq, null⟩ := accepted.first_null
  have first_ok : okOr (elf.sectionHeaderTable.items.head?.filter (·.shType == shtNull))
      .invalidSectionHeader = .ok first := by
    simp [first_eq, null]
  have names_ok : (if elf.fileHeader.eShstrndx ≠ shnUndef then
      some <$> okOr elf.sectionHeaderTable.items[elf.fileHeader.eShstrndx.toNat]? .outOfBounds
      else .ok none) = .ok elf.sectionNamesSectionHeader := by
    have recorded := accepted.sectionNames_eq
    split_ifs at recorded ⊢
    · rw [← recorded, named]
      rfl
    · rw [recorded]
  have loadSegments_ok : checkLoadSegments data'.length 0 elf.programHeaderTable.items = .ok () :=
    sameLength ▸ accepted.loadSegments_ok
  have sections_ok : checkSections data'.length fileHeaderRange
      elf.fileHeader.programHeaderTableRange elf.fileHeader.sectionHeaderTableRange 0
      elf.sectionHeaderTable.items = .ok () :=
    sameLength ▸ accepted.sections_ok
  simp only [parse, fileHeader_ok, if_neg accepted.fileHeader_valid, programHeaderTable_ok,
    sectionHeaderTable_ok, first_ok, loadSegments_ok, sections_ok, names_ok, bind, Except.bind]
  rfl

/-- `parse` reads nothing outside `readRanges`: on a buffer of the same length that agrees with
an accepted one there, it returns the same file, reading the new buffer, with the relocation and
dynamic-symbol views decoding the new bytes at the same addresses. -/
theorem parse_reread {elf : Elf64} (parsed : parse ⟨addr, data⟩ = .ok elf)
    (sameLength : data'.length = data.length)
    (agree : ∀ range ∈ elf.readRanges, AgreeOn data data' range) :
    parse ⟨addr, data'⟩ = .ok (elf.reread ⟨addr, data'⟩) := by
  have accepted := parse_accepted parsed
  have nameWindows : ∀ sectionNames, elf.sectionNamesSectionHeader = some sectionNames →
      ∀ header ∈ elf.sectionHeaderTable.items,
        AgreeOn data data' (stringWindow sectionNames header.shName sectionNameLengthMaximum) :=
    fun sectionNames recorded header member => agree _ (by
      simp only [readRanges, recorded, List.mem_cons, List.mem_append]
      exact .inr (.inr (.inr (.inl (.inl (List.mem_map_of_mem _ member))))))
  have sectioned := parseSections_congr (by exact accepted.elfBytes_eq) sameLength
    (by exact nameWindows) accepted.parseSections_ok
  have dynamic := parseDynamic_reread (by exact accepted.elfBytes_eq) sameLength
    (by exact fun header (found : elf.programHeaderTable.items.find? _ = _) =>
      agree _ (by simp [readRanges, found]))
    (by exact fun header (found : elf.sectionHeaderTable.items.find? _ = _) =>
      agree _ (by simp [readRanges, found]))
    accepted.parseDynamic_ok
  rw [accepted.parse_of_headers sameLength
    ((parseFileHeader_congr sameLength (agree _ (List.mem_cons_self _ _))).trans
      accepted.fileHeader_ok)
    (parseProgramHeaderTable_congr sameLength
      (agree _ (List.mem_cons_of_mem _ (List.mem_cons_self _ _))) accepted.programHeaderTable_ok)
    (parseSectionHeaderTable_congr sameLength
      (agree _ (List.mem_cons_of_mem _ (List.mem_cons_of_mem _ (List.mem_cons_self _ _))))
      accepted.sectionHeaderTable_ok)]
  exact (congrArg (· >>= parseDynamic) sectioned).trans dynamic

/-- Writing one byte outside `range` keeps the bytes of `range`. -/
theorem agreeOn_set {index : Nat} {value : UInt8} {range : Range}
    (outside : index < range.start ∨ range.stop ≤ index) : AgreeOn data (data.set index value) range :=
  fun _ above below => List.getElem?_set_ne (by omega)

/- In `noteFile` the relocation view starts at offset 120, where the section-name table holds one
byte: offset 121 lies in the view and in no range `parse` reads. -/
set_option maxRecDepth 100000 in
theorem noteFile_reread :
    ∃ elf, parse ⟨0, noteFile⟩ = .ok elf ∧ (noteFile.set 121 1).length = noteFile.length ∧
      (∀ range ∈ elf.readRanges, AgreeOn noteFile (noteFile.set 121 1) range) ∧
      parse ⟨0, noteFile.set 121 1⟩ = .ok (elf.reread ⟨0, noteFile.set 121 1⟩) :=
  have unread : ∀ range ∈ _, AgreeOn noteFile (noteFile.set 121 1) range :=
    fun range member => agreeOn_set (by revert range member; decide)
  ⟨_, rfl, List.length_set _ _ _, unread, parse_reread (by rfl) (List.length_set _ _ _) unread⟩

end Elf64

end Frame

end Sbpf
