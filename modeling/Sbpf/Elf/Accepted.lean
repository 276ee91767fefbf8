import Sbpf.Elf.Parse

/-!
# What a successful parse has checked

One spec lemma for each stage of `parse`, and `Accepted`, the record of every check a successful
`parse` made, stage by stage, stated on the fields of the value it returns.  Every later theorem
about accepted files starts from `parse_accepted` and never unfolds `parse` again.
-/

namespace Sbpf

/-- The file-header range `0..size_of::<Elf64Ehdr>()`. -/
def fileHeaderRange : Range := ⟨0, Pod.size Elf64Ehdr⟩

/-- The program-header table range `e_phoff..e_phoff + e_phnum * size_of::<Elf64Phdr>()`. -/
def Elf64Ehdr.programHeaderTableRange (fileHeader : Elf64Ehdr) : Range :=
  ⟨fileHeader.ePhoff.toNat, Pod.size Elf64Phdr * fileHeader.ePhnum.toNat + fileHeader.ePhoff.toNat⟩

/-- The section-header table range `e_shoff..e_shoff + e_shnum * size_of::<Elf64Shdr>()`. -/
def Elf64Ehdr.sectionHeaderTableRange (fileHeader : Elf64Ehdr) : Range :=
  ⟨fileHeader.eShoff.toNat, Pod.size Elf64Shdr * fileHeader.eShnum.toNat + fileHeader.eShoff.toNat⟩

namespace Elf64

/-- The parser before `parse_dynamic` ran: its dynamic fields at their initial values. -/
def beforeDynamic (elf : Elf64) : Elf64 :=
  { elf with dynamicTable := fun _ => 0, dynamicRelocationsTable := none, dynamicSymbolTable := none }

/-- The parser before `parse_sections` ran: no named section recorded yet. -/
def beforeSections (elf : Elf64) : Elf64 :=
  { elf.beforeDynamic with
    symbolSectionHeader := none, symbolNamesSectionHeader := none
    dynamicSymbolNamesSectionHeader := none }

/-! ## One lemma per stage -/

theorem checkThatThereIsNoOverlap_eq_ok {rangeA rangeB : Range} {result : Unit} :
    checkThatThereIsNoOverlap rangeA rangeB = .ok result ↔
      rangeA.stop ≤ rangeB.start ∨ rangeB.stop ≤ rangeA.start := by
  unfold checkThatThereIsNoOverlap
  split <;> simp_all

theorem parseFileHeader_eq_ok {elfBytes : Bytes} {result : Range × Elf64Ehdr} :
    parseFileHeader elfBytes = .ok result ↔
      Pod.size Elf64Ehdr ≤ elfBytes.data.length ∧ Pod.align Elf64Ehdr ∣ elfBytes.addr ∧
        result = (fileHeaderRange, Pod.decode (elfBytes.data.take (Pod.size Elf64Ehdr))) := by
  unfold parseFileHeader
  by_cases inside : Pod.size Elf64Ehdr ≤ elfBytes.data.length
  · have sliced : elfBytes.get ⟨0, Pod.size Elf64Ehdr⟩ =
        some ⟨elfBytes.addr, elfBytes.data.take (Pod.size Elf64Ehdr)⟩ :=
      Bytes.get_eq_some.mpr ⟨Nat.zero_le _, inside, by simp [Range.len]⟩
    have align_pos : 0 < Pod.align Elf64Ehdr := Pod.align_pos
    simp only [sliced]
    by_cases aligned : Pod.align Elf64Ehdr ∣ elfBytes.addr
    · have fits : remainderNonzero elfBytes.addr (Pod.align Elf64Ehdr) = false :=
        remainderNonzero_eq_false.mpr ⟨align_pos, aligned⟩
      simp only [fits, Bool.false_eq_true, if_false, Except.ok.injEq, inside, aligned, true_and]
      exact ⟨fun found => found ▸ rfl, fun found => found ▸ rfl⟩
    · have misfit : remainderNonzero elfBytes.addr (Pod.align Elf64Ehdr) = true := by
        simpa [align_pos] using aligned
      simp [misfit, aligned]
  · have outside : elfBytes.get ⟨0, Pod.size Elf64Ehdr⟩ = none := by simp [Bytes.get, inside]
    simp [outside, inside]

theorem headerTableRange_eq_ok {T : Type} [Pod T] {offset count : Nat} {range : Range} :
    headerTableRange T offset count = .ok range ↔
      Pod.size T * count + offset < 2 ^ 64 ∧ range = ⟨offset, Pod.size T * count + offset⟩ := by
  unfold headerTableRange
  simp only [errCheckedMul_bind, errCheckedAdd_bind]
  split_ifs <;> simp_all [eq_comm, pure, Except.pure]
  omega

theorem parseProgramHeaderTable_eq_ok {elfBytes : Bytes} {fileHeader : Elf64Ehdr}
    {result : Range × Slice Elf64Phdr} :
    parseProgramHeaderTable elfBytes fileHeaderRange fileHeader = .ok result ↔
      result.1 = fileHeader.programHeaderTableRange ∧
        fileHeader.programHeaderTableRange.stop < 2 ^ 64 ∧
        (fileHeaderRange.stop ≤ fileHeader.programHeaderTableRange.start ∨
          fileHeader.programHeaderTableRange.stop ≤ fileHeaderRange.start) ∧
        sliceFromBytes Elf64Phdr elfBytes fileHeader.programHeaderTableRange = .ok result.2 := by
  obtain ⟨range, table⟩ := result
  simp only [parseProgramHeaderTable, bind_eq_ok, headerTableRange_eq_ok,
    checkThatThereIsNoOverlap_eq_ok, pure, Except.pure, Except.ok.injEq, Prod.mk.injEq,
    Elf64Ehdr.programHeaderTableRange]
  constructor
  · rintro ⟨_, ⟨fits, rfl⟩, _, apart, _, sliced, rfl, rfl⟩
    exact ⟨rfl, fits, apart, sliced⟩
  · rintro ⟨rfl, fits, apart, sliced⟩
    exact ⟨_, ⟨fits, rfl⟩, (), apart, _, sliced, rfl, rfl⟩

theorem parseSectionHeaderTable_eq_ok {elfBytes : Bytes} {fileHeader : Elf64Ehdr}
    {programHeaderTableRange : Range} {result : Range × Slice Elf64Shdr} :
    parseSectionHeaderTable elfBytes fileHeaderRange fileHeader programHeaderTableRange =
        .ok result ↔
      result.1 = fileHeader.sectionHeaderTableRange ∧
        fileHeader.sectionHeaderTableRange.stop < 2 ^ 64 ∧
        (fileHeaderRange.stop ≤ fileHeader.sectionHeaderTableRange.start ∨
          fileHeader.sectionHeaderTableRange.stop ≤ fileHeaderRange.start) ∧
        (programHeaderTableRange.stop ≤ fileHeader.sectionHeaderTableRange.start ∨
          fileHeader.sectionHeaderTableRange.stop ≤ programHeaderTableRange.start) ∧
        sliceFromBytes Elf64Shdr elfBytes fileHeader.sectionHeaderTableRange = .ok result.2 := by
  obtain ⟨range, table⟩ := result
  simp only [parseSectionHeaderTable, bind_eq_ok, headerTableRange_eq_ok,
    checkThatThereIsNoOverlap_eq_ok, pure, Except.pure, Except.ok.injEq, Prod.mk.injEq,
    Elf64Ehdr.sectionHeaderTableRange]
  constructor
  · rintro ⟨_, ⟨fits, rfl⟩, _, apart_file, _, apart_program, _, sliced, rfl, rfl⟩
    exact ⟨rfl, fits, apart_file, apart_program, sliced⟩
  · rintro ⟨rfl, fits, apart_file, apart_program, sliced⟩
    exact ⟨_, ⟨fits, rfl⟩, (), apart_file, (), apart_program, _, sliced, rfl, rfl⟩

/-! ## Frames: what the two mutating passes leave alone -/

/-- `parse_sections` writes only the three named-section fields. -/
def OnlyNamedChanged (before after : Elf64) : Prop :=
  ∃ symbolSection symbolNames dynamicSymbolNames, after = { before with
    symbolSectionHeader := symbolSection
    symbolNamesSectionHeader := symbolNames
    dynamicSymbolNamesSectionHeader := dynamicSymbolNames }

theorem OnlyNamedChanged.refl (parser : Elf64) : OnlyNamedChanged parser parser :=
  ⟨_, _, _, rfl⟩

theorem OnlyNamedChanged.trans {first second third : Elf64} (step : OnlyNamedChanged first second)
    (next : OnlyNamedChanged second third) : OnlyNamedChanged first third := by
  obtain ⟨_, _, _, rfl⟩ := step
  obtain ⟨_, _, _, rfl⟩ := next
  exact ⟨_, _, _, rfl⟩

theorem sectionHeaderByName_frame {parser result : Elf64} {sectionHeader : Elf64Shdr}
    {sectionName : List UInt8}
    (recorded : parser.sectionHeaderByName sectionHeader sectionName = .ok result) :
    OnlyNamedChanged parser result := by
  unfold sectionHeaderByName at recorded
  split at recorded
  · cases recorded
    exact .refl _
  · split at recorded
    · cases recorded
    · cases recorded
      rename_i field _ _
      cases field
      exacts [⟨_, _, _, rfl⟩, ⟨_, _, _, rfl⟩, ⟨_, _, _, rfl⟩]

theorem parseSectionsLoop_frame {elfBytes : Bytes} {names : Elf64Shdr}
    {sectionHeaders : List Elf64Shdr} :
    ∀ {parser result : Elf64}, parseSectionsLoop elfBytes names parser sectionHeaders = .ok result →
      OnlyNamedChanged parser result := by
  induction sectionHeaders with
  | nil =>
      intro parser result finished
      cases finished
      exact .refl _
  | cons sectionHeader rest induction =>
      intro parser result finished
      obtain ⟨_, -, next, recorded, finished⟩ := by
        simpa only [parseSectionsLoop, bind_eq_ok] using finished
      exact (sectionHeaderByName_frame recorded).trans (induction finished)

/-- `parse_dynamic` writes only the dynamic table and the two dynamic views. -/
theorem parseDynamic_frame {parser result : Elf64} (parsed : parser.parseDynamic = .ok result) :
    ∃ dynamicTable dynamicRelocationsTable dynamicSymbolTable, result = { parser with
      dynamicTable, dynamicRelocationsTable, dynamicSymbolTable } := by
  unfold parseDynamic at parsed
  obtain ⟨entries, -, parsed⟩ := bind_eq_ok.mp parsed
  split at parsed
  · cases parsed
    exact ⟨_, _, _, rfl⟩
  · obtain ⟨_, -, parsed⟩ := bind_eq_ok.mp parsed
    obtain ⟨_, -, parsed⟩ := bind_eq_ok.mp parsed
    cases parsed
    exact ⟨_, _, _, rfl⟩

/-- The section-name table `parse` records: the header at `e_shstrndx` unless that is
`SHN_UNDEF`. -/
theorem sectionNames_eq {table : List Elf64Shdr} {index : UInt16} {names : Option Elf64Shdr}
    (found : (if index ≠ shnUndef then some <$> okOr table[index.toNat]? .outOfBounds
      else .ok none : Except ElfParserError (Option Elf64Shdr)) = .ok names) :
    names = if index ≠ shnUndef then table[index.toNat]? else none := by
  split at found
  · cases lookup : table[index.toNat]? <;>
      simp_all [okOr, Functor.map, Except.map]
  · simp_all

/-! ## Accepted files -/

/-- Everything `parse elfBytes` checked before it returned `elf`, stage by stage. -/
structure Accepted (elfBytes : Bytes) (elf : Elf64) : Prop where
  elfBytes_eq : elf.elfBytes = elfBytes
  fileHeader_ok : parseFileHeader elfBytes = .ok (fileHeaderRange, elf.fileHeader)
  fileHeader_valid : ¬ fileHeaderInvalid elf.fileHeader
  programHeaderTable_ok : parseProgramHeaderTable elfBytes fileHeaderRange elf.fileHeader =
    .ok (elf.fileHeader.programHeaderTableRange, elf.programHeaderTable)
  sectionHeaderTable_ok : parseSectionHeaderTable elfBytes fileHeaderRange elf.fileHeader
    elf.fileHeader.programHeaderTableRange =
      .ok (elf.fileHeader.sectionHeaderTableRange, elf.sectionHeaderTable)
  first_null : ∃ first, elf.sectionHeaderTable.items.head? = some first ∧ first.shType = shtNull
  loadSegments_ok : checkLoadSegments elfBytes.data.length 0 elf.programHeaderTable.items = .ok ()
  sections_ok : checkSections elfBytes.data.length fileHeaderRange
    elf.fileHeader.programHeaderTableRange elf.fileHeader.sectionHeaderTableRange 0
    elf.sectionHeaderTable.items = .ok ()
  sectionNames_eq : elf.sectionNamesSectionHeader =
    if elf.fileHeader.eShstrndx ≠ shnUndef then
      elf.sectionHeaderTable.items[elf.fileHeader.eShstrndx.toNat]?
    else none
  parseSections_ok : elf.beforeSections.parseSections = .ok elf.beforeDynamic
  parseDynamic_ok : elf.beforeDynamic.parseDynamic = .ok elf

/-- A successful `parse` has made every check of `Accepted`. -/
theorem parse_accepted {elfBytes : Bytes} {elf : Elf64} (parsed : parse elfBytes = .ok elf) :
    Accepted elfBytes elf := by
  unfold parse at parsed
  obtain ⟨⟨headerRange, fileHeader⟩, header_ok, parsed⟩ := bind_eq_ok.mp parsed
  obtain rfl : headerRange = fileHeaderRange := by
    simpa using congrArg Prod.fst (parseFileHeader_eq_ok.mp header_ok).2.2
  dsimp only at parsed
  split at parsed
  · cases parsed
  rename_i valid
  obtain ⟨⟨programRange, programTable⟩, program_ok, parsed⟩ := bind_eq_ok.mp parsed
  obtain rfl : programRange = fileHeader.programHeaderTableRange :=
    (parseProgramHeaderTable_eq_ok.mp program_ok).1
  obtain ⟨⟨sectionRange, sectionTable⟩, section_ok, parsed⟩ := bind_eq_ok.mp parsed
  obtain rfl : sectionRange = fileHeader.sectionHeaderTableRange :=
    (parseSectionHeaderTable_eq_ok.mp section_ok).1
  obtain ⟨first, first_ok, parsed⟩ := bind_eq_ok.mp parsed
  obtain ⟨⟨⟩, load_ok, parsed⟩ := bind_eq_ok.mp parsed
  obtain ⟨⟨⟩, sections_ok, parsed⟩ := bind_eq_ok.mp parsed
  obtain ⟨names, names_ok, parsed⟩ := bind_eq_ok.mp parsed
  obtain ⟨parser, named_ok, dynamic_ok⟩ := bind_eq_ok.mp parsed
  have named_run := named_ok
  unfold parseSections at named_run
  obtain ⟨_, -, named_loop⟩ := bind_eq_ok.mp named_run
  have named_frame := parseSectionsLoop_frame named_loop
  have dynamic_frame := parseDynamic_frame dynamic_ok
  have first_eq : sectionTable.items.head?.filter (·.shType == shtNull) = some first := by
    simpa using first_ok
  have names_eq := sectionNames_eq names_ok
  obtain ⟨_, _, _, rfl⟩ := named_frame
  obtain ⟨_, _, _, rfl⟩ := dynamic_frame
  simp only [Option.filter_eq_some, beq_iff_eq] at first_eq
  refine ⟨rfl, header_ok, valid, program_ok, section_ok, ⟨first, first_eq⟩, load_ok,
    sections_ok, names_eq, ?_, ?_⟩
  · simpa [beforeSections, beforeDynamic] using named_ok
  · simpa [beforeDynamic] using dynamic_ok

end Elf64

end Sbpf
