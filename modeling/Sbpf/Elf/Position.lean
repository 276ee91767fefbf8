import Sbpf.Elf.Names

/-!
# Where the buffer lies

`parse` reads the address of the buffer only through the alignment checks of `parse_file_header`
and `slice_from_bytes`, which ask for multiples of 8.  So the same bytes placed `8 * k` bytes
further parse to the same file with every view moved by `8 * k`, or fail with the same error:
each step of `parse` on the moved buffer simulates the step on the original one.  At any other
address `parse` stops at its first check.
-/

namespace Sbpf

/-- The same bytes, `distance` bytes further in memory. -/
def Bytes.shift (bytes : Bytes) (distance : Nat) : Bytes :=
  ⟨bytes.addr + distance, bytes.data⟩

@[simp] theorem Bytes.shift_data (bytes : Bytes) (distance : Nat) :
    (bytes.shift distance).data = bytes.data := rfl

/-- The same records, viewed `distance` bytes further in memory. -/
def Slice.shift {T : Type} (slice : Slice T) (distance : Nat) : Slice T :=
  ⟨slice.addr + distance, slice.items⟩

@[simp] theorem Slice.shift_items {T : Type} (slice : Slice T) (distance : Nat) :
    (slice.shift distance).items = slice.items := rfl

/-- A parsed file whose buffer, and with it every view, lies `distance` bytes further. -/
def Elf64.shift (elf : Elf64) (distance : Nat) : Elf64 :=
  { elf with
    elfBytes := elf.elfBytes.shift distance
    programHeaderTable := elf.programHeaderTable.shift distance
    sectionHeaderTable := elf.sectionHeaderTable.shift distance
    dynamicRelocationsTable := elf.dynamicRelocationsTable.map (·.shift distance)
    dynamicSymbolTable := elf.dynamicSymbolTable.map (·.shift distance) }

namespace Elf64

variable (elf : Elf64) (distance : Nat)

@[simp] theorem shift_elfBytes : (elf.shift distance).elfBytes = elf.elfBytes.shift distance := rfl

@[simp] theorem shift_programHeaderTable :
    (elf.shift distance).programHeaderTable = elf.programHeaderTable.shift distance := rfl

@[simp] theorem shift_sectionHeaderTable :
    (elf.shift distance).sectionHeaderTable = elf.sectionHeaderTable.shift distance := rfl

@[simp] theorem shift_dynamicTable : (elf.shift distance).dynamicTable = elf.dynamicTable := rfl

end Elf64

/-! ## Simulated steps -/

section Simulation

variable {α α' β β' : Type}

/-- A bind of two simulated steps is simulated: if `first'` is `first` seen through `image`, and
`next'` on the image of a value simulates `next` on the value, then the composite simulates the
composite. -/
theorem bind_map_simulates {first : Except ElfParserError α} {first' : Except ElfParserError α'}
    {next : α → Except ElfParserError β} {next' : α' → Except ElfParserError β'}
    {image : α → α'} {image' : β → β'} (simulated : first' = image <$> first)
    (step : ∀ value, next' (image value) = image' <$> next value) :
    first' >>= next' = image' <$> (first >>= next) := by
  subst simulated
  cases first
  · rfl
  · exact step _

/-- A step that does not depend on the buffer's address, followed by simulated steps. -/
theorem bind_simulates {first : Except ElfParserError α} {next : α → Except ElfParserError β}
    {next' : α → Except ElfParserError β'} {image' : β → β'}
    (step : ∀ value, next' value = image' <$> next value) :
    first >>= next' = image' <$> (first >>= next) := by
  cases first
  · rfl
  · exact step _

theorem okOr_map {value : Option α} {error : ElfParserError} (image : α → α') :
    okOr (value.map image) error = image <$> okOr value error := by
  cases value <;> rfl

end Simulation

/-! ## Views -/

section Views

variable {T : Type} [Pod T] {distance : Nat}

theorem remainderNonzero_add {value divisor : Nat} (multiple : divisor ∣ distance) :
    remainderNonzero (value + distance) divisor = remainderNonzero value divisor := by
  rw [Bool.eq_iff_iff, remainderNonzero_eq_true, remainderNonzero_eq_true,
    Nat.dvd_add_left multiple]

theorem Bytes.get_shift (bytes : Bytes) (range : Range) :
    (bytes.shift distance).get range = (bytes.get range).map (·.shift distance) := by
  unfold Bytes.get Bytes.shift
  split <;> simp [Nat.add_right_comm]

theorem sliceFromBytes_shift (bytes : Bytes) (range : Range) (aligned : Pod.align T ∣ distance) :
    sliceFromBytes T (bytes.shift distance) range =
      (·.shift distance) <$> sliceFromBytes T bytes range := by
  unfold sliceFromBytes
  rw [Bytes.get_shift]
  split
  · rfl
  cases bytes.get range with
  | none => rfl
  | some window =>
      simp only [Option.map_some', Bytes.shift, remainderNonzero_add aligned]
      split <;> rfl

theorem sliceFromFileRange_shift (bytes : Bytes) (offset size : Nat)
    (aligned : Pod.align T ∣ distance) :
    sliceFromFileRange T (bytes.shift distance) offset size =
      (·.shift distance) <$> sliceFromFileRange T bytes offset size :=
  bind_simulates fun _ => sliceFromBytes_shift bytes _ aligned

theorem sliceFromProgramHeader_shift (bytes : Bytes) (programHeader : Elf64Phdr)
    (aligned : Pod.align T ∣ distance) :
    sliceFromProgramHeader T (bytes.shift distance) programHeader =
      (·.shift distance) <$> sliceFromProgramHeader T bytes programHeader :=
  sliceFromFileRange_shift bytes _ _ aligned

theorem sliceFromSectionHeader_shift (bytes : Bytes) (sectionHeader : Elf64Shdr)
    (aligned : Pod.align T ∣ distance) :
    sliceFromSectionHeader T (bytes.shift distance) sectionHeader =
      (·.shift distance) <$> sliceFromSectionHeader T bytes sectionHeader :=
  sliceFromFileRange_shift bytes _ _ aligned

end Views

/-! ## The steps of `parse` -/

namespace Elf64

variable {distance : Nat}

theorem parseFileHeader_shift (elfBytes : Bytes) (aligned : 8 ∣ distance) :
    parseFileHeader (elfBytes.shift distance) = parseFileHeader elfBytes := by
  unfold parseFileHeader
  dsimp only
  rw [Bytes.get_shift]
  cases elfBytes.get _ with
  | none => rfl
  | some window =>
      simp only [Option.map_some', Bytes.shift,
        remainderNonzero_add (show Pod.align Elf64Ehdr ∣ distance from aligned)]

theorem parseProgramHeaderTable_shift (elfBytes : Bytes) (fileHeaderRange : Range)
    (fileHeader : Elf64Ehdr) (aligned : 8 ∣ distance) :
    parseProgramHeaderTable (elfBytes.shift distance) fileHeaderRange fileHeader =
      (fun result => (result.1, result.2.shift distance)) <$>
        parseProgramHeaderTable elfBytes fileHeaderRange fileHeader :=
  bind_simulates fun _ => bind_simulates fun _ =>
    bind_map_simulates (sliceFromBytes_shift _ _ aligned) fun _ => rfl

theorem parseSectionHeaderTable_shift (elfBytes : Bytes) (fileHeaderRange : Range)
    (fileHeader : Elf64Ehdr) (programHeaderTableRange : Range) (aligned : 8 ∣ distance) :
    parseSectionHeaderTable (elfBytes.shift distance) fileHeaderRange fileHeader
        programHeaderTableRange =
      (fun result => (result.1, result.2.shift distance)) <$>
        parseSectionHeaderTable elfBytes fileHeaderRange fileHeader programHeaderTableRange :=
  bind_simulates fun _ => bind_simulates fun _ => bind_simulates fun _ =>
    bind_map_simulates (sliceFromBytes_shift _ _ aligned) fun _ => rfl

theorem terminatedPrefix_shift (bytes : Bytes) :
    terminatedPrefix (bytes.shift distance) = (terminatedPrefix bytes).map (·.shift distance) := by
  simp only [terminatedPrefix, Bytes.shift_data]
  cases position (· == 0) bytes.data with
  | none => rfl
  | some length => exact Bytes.get_shift bytes _

theorem getStringInSection_shift (elfBytes : Bytes) (sectionHeader : Elf64Shdr)
    (offsetInSection : UInt32) (maximumLength : Nat) :
    getStringInSection (elfBytes.shift distance) sectionHeader offsetInSection maximumLength =
      (·.shift distance) <$> getStringInSection elfBytes sectionHeader offsetInSection
        maximumLength := by
  unfold getStringInSection
  split
  · rfl
  refine bind_simulates fun _ => bind_simulates fun _ => bind_simulates fun _ => ?_
  refine bind_map_simulates (by rw [Bytes.get_shift, okOr_map]) fun window => ?_
  rw [terminatedPrefix_shift, okOr_map]
  rfl

theorem sectionHeaderByName_shift (parser : Elf64) (sectionHeader : Elf64Shdr)
    (sectionName : List UInt8) :
    (parser.shift distance).sectionHeaderByName sectionHeader sectionName =
      (·.shift distance) <$> parser.sectionHeaderByName sectionHeader sectionName := by
  unfold sectionHeaderByName
  split
  · rfl
  · rename_i field _
    cases field <;> dsimp only [namedSectionHeader, setNamedSectionHeader, Elf64.shift] <;>
      split <;> rfl

theorem parseSectionsLoop_shift (elfBytes : Bytes) (sectionNames : Elf64Shdr)
    (sectionHeaders : List Elf64Shdr) :
    ∀ parser : Elf64,
      parseSectionsLoop (elfBytes.shift distance) sectionNames (parser.shift distance)
          sectionHeaders =
        (·.shift distance) <$> parseSectionsLoop elfBytes sectionNames parser sectionHeaders := by
  induction sectionHeaders with
  | nil => exact fun _ => rfl
  | cons sectionHeader rest induction =>
      intro parser
      exact bind_map_simulates (getStringInSection_shift _ _ _ _) fun _ =>
        bind_map_simulates (sectionHeaderByName_shift _ _ _) induction

theorem parseSections_shift {parser moved : Elf64} (shifted : moved = parser.shift distance) :
    moved.parseSections = (·.shift distance) <$> parser.parseSections := by
  subst shifted
  exact bind_simulates fun _ => parseSectionsLoop_shift _ _ _ parser

theorem dynamicEntries_shift (self : Elf64) (aligned : 8 ∣ distance) :
    (self.shift distance).dynamicEntries =
      (Option.map (·.shift distance)) <$> self.dynamicEntries := by
  have entries_aligned : Pod.align Elf64Dyn ∣ distance := aligned
  unfold dynamicEntries
  simp only [shift_programHeaderTable, shift_sectionHeaderTable, Slice.shift_items,
    shift_elfBytes, sliceFromProgramHeader_shift _ _ entries_aligned,
    sliceFromSectionHeader_shift _ _ entries_aligned]
  have fromProgramHeader :
      ((self.programHeaderTable.items.find? (·.pType == ptDynamic)).bind fun header =>
          ((·.shift distance) <$> sliceFromProgramHeader Elf64Dyn self.elfBytes header).toOption) =
        ((self.programHeaderTable.items.find? (·.pType == ptDynamic)).bind fun header =>
          (sliceFromProgramHeader Elf64Dyn self.elfBytes header).toOption).map
            (·.shift distance) := by
    cases self.programHeaderTable.items.find? (·.pType == ptDynamic) with
    | none => rfl
    | some header =>
        rw [Option.some_bind, Option.some_bind]
        cases sliceFromProgramHeader Elf64Dyn self.elfBytes header <;> rfl
  rw [fromProgramHeader]
  cases (self.programHeaderTable.items.find? (·.pType == ptDynamic)).bind _ with
  | some table => rfl
  | none =>
      cases self.sectionHeaderTable.items.find? (·.shType == shtDynamic) with
      | none => rfl
      | some header =>
          dsimp only [Option.map_none']
          cases sliceFromSectionHeader Elf64Dyn self.elfBytes header <;> rfl

theorem parseDynamicRelocations_shift (self : Elf64) (aligned : 8 ∣ distance) :
    (self.shift distance).parseDynamicRelocations =
      (Option.map (·.shift distance)) <$> self.parseDynamicRelocations := by
  unfold parseDynamicRelocations
  dsimp only [Elf64.shift]
  split_ifs
  · rfl
  · rfl
  · rfl
  refine bind_simulates fun offset => bind_simulates fun rangeEnd => ?_
  show (match sliceFromBytes Elf64Rel (self.elfBytes.shift distance) _ with
    | .ok table => _
    | .error _ => _) = _
  rw [sliceFromBytes_shift _ _ aligned]
  cases sliceFromBytes Elf64Rel self.elfBytes _ <;> rfl

theorem getSymbolTableOfSection_shift (self : Elf64) (sectionHeader : Elf64Shdr)
    (aligned : 8 ∣ distance) :
    (self.shift distance).getSymbolTableOfSection sectionHeader =
      (·.shift distance) <$> self.getSymbolTableOfSection sectionHeader := by
  unfold getSymbolTableOfSection
  split
  · rfl
  · exact sliceFromFileRange_shift _ _ _ aligned

theorem parseDynamicSymbolTable_shift (self : Elf64) (aligned : 8 ∣ distance) :
    (self.shift distance).parseDynamicSymbolTable =
      (Option.map (·.shift distance)) <$> self.parseDynamicSymbolTable := by
  unfold parseDynamicSymbolTable
  simp only [shift_dynamicTable, shift_sectionHeaderTable, Slice.shift_items]
  split_ifs
  · rfl
  refine bind_simulates fun sectionHeader => ?_
  rw [getSymbolTableOfSection_shift _ _ aligned]
  cases self.getSymbolTableOfSection sectionHeader <;> rfl

theorem parseDynamic_shift (self : Elf64) (aligned : 8 ∣ distance) :
    (self.shift distance).parseDynamic = (·.shift distance) <$> self.parseDynamic := by
  refine bind_map_simulates (dynamicEntries_shift self aligned) fun entries => ?_
  cases entries with
  | none => rfl
  | some table =>
      exact bind_map_simulates
        (parseDynamicRelocations_shift
          { self with dynamicTable := expandDynamicTable self.dynamicTable table.items } aligned)
        fun relocations => bind_map_simulates
          (parseDynamicSymbolTable_shift
            { self with
              dynamicTable := expandDynamicTable self.dynamicTable table.items
              dynamicRelocationsTable := relocations } aligned)
          fun _ => rfl

/-- `parse` reads the buffer's address only through alignment checks for 8: the same bytes
`distance` further, for a multiple `distance` of 8, parse to the same file with its buffer and
every view moved by `distance`, or fail with the same error. -/
theorem parse_shift (elfBytes : Bytes) (aligned : 8 ∣ distance) :
    parse (elfBytes.shift distance) = (·.shift distance) <$> parse elfBytes := by
  unfold parse
  rw [parseFileHeader_shift _ aligned]
  refine bind_simulates fun ⟨fileHeaderRange, fileHeader⟩ => ?_
  dsimp only
  by_cases invalid : fileHeaderInvalid fileHeader
  · rw [if_pos invalid, if_pos invalid]
    rfl
  rw [if_neg invalid, if_neg invalid]
  refine bind_map_simulates (parseProgramHeaderTable_shift _ _ _ aligned) fun _ => ?_
  refine bind_map_simulates (parseSectionHeaderTable_shift _ _ _ _ aligned) fun _ => ?_
  refine bind_simulates fun _ => bind_simulates fun _ => bind_simulates fun _ =>
    bind_simulates fun _ => ?_
  exact bind_map_simulates (parseSections_shift (by rfl)) fun parser =>
    parseDynamic_shift parser aligned

theorem minimalFile_shift :
    8 ∣ 8 ∧ parse (Bytes.shift ⟨0, minimalFile⟩ 8) = (·.shift 8) <$> parse ⟨0, minimalFile⟩ :=
  ⟨by decide, parse_shift ⟨0, minimalFile⟩ (by decide)⟩

/-- At an address that is not a multiple of 8, `parse` fails in `parse_file_header`: with
`OutOfBounds` for a buffer shorter than the file header, with `InvalidAlignment` otherwise. -/
theorem parse_misaligned (elfBytes : Bytes) (misaligned : ¬ 8 ∣ elfBytes.addr) :
    parse elfBytes =
      .error (if elfBytes.data.length < 64 then .outOfBounds else .invalidAlignment) := by
  have failed : parseFileHeader elfBytes =
      .error (if elfBytes.data.length < 64 then .outOfBounds else .invalidAlignment) := by
    unfold parseFileHeader Bytes.get
    by_cases short : elfBytes.data.length < 64
    · simp [Pod.size, short, show ¬ 64 ≤ elfBytes.data.length by omega]
    · simp [show 64 ≤ elfBytes.data.length by omega, short, Pod.size, Pod.align, misaligned]
  simp only [parse, failed, bind, Except.bind]

end Elf64

end Sbpf
