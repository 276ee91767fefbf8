import Sbpf.Elf.Accepted

/-!
# The errors each step raises

Every function of the parser returns `Result<_, ElfParserError>`; this file states, for each, the
errors it can return, and assembles from them the errors of `parse`.  An error set is a list of
error values together with the maximum lengths `StringTooLong` may carry.  The sets are proved
once per function, callers citing the callee's set, so that a question such as "which steps can
report `Overlap`" is answered by comparing lists.
-/

namespace Sbpf

/-- Whether an error is one of `errors`, or a `StringTooLong` whose maximum is one of
`maximums`. -/
def admits (errors : List ElfParserError) (maximums : List Nat) : ElfParserError → Bool
  | .stringTooLong _ maximum => maximums.contains maximum
  | error => errors.contains error

/-- Every error `result` can be is admitted by `errors` and `maximums`. -/
def RaisesOnly {α : Type} (errors : List ElfParserError) (maximums : List Nat)
    (result : Except ElfParserError α) : Prop :=
  ∀ error, result = .error error → admits errors maximums error

theorem bind_eq_error {α β : Type} {first : Except ElfParserError α}
    {next : α → Except ElfParserError β} {error : ElfParserError} :
    first >>= next = .error error ↔
      first = .error error ∨ ∃ value, first = .ok value ∧ next value = .error error := by
  cases first <;> simp [bind, Except.bind]

namespace RaisesOnly

variable {α β : Type} {errors wider : List ElfParserError} {maximums widerMaximums : List Nat}

theorem widen {result : Except ElfParserError α} (raises : RaisesOnly errors maximums result)
    (more : errors ⊆ wider) (moreMaximums : maximums ⊆ widerMaximums) :
    RaisesOnly wider widerMaximums result := by
  intro error failed
  have admitted := raises error failed
  unfold admits at admitted ⊢
  split at admitted <;> simp only [List.contains, List.elem_iff] at admitted ⊢
  exacts [moreMaximums admitted, more admitted]

/-- An error outside the set is never raised. -/
theorem ne {result : Except ElfParserError α} {error : ElfParserError}
    (raises : RaisesOnly errors maximums result) (excluded : admits errors maximums error = false) :
    result ≠ .error error :=
  fun failed => by simpa [excluded] using raises error failed

theorem ok (value : α) : RaisesOnly errors maximums (.ok value : Except ElfParserError α) :=
  fun _ failed => nomatch failed

theorem error {error : ElfParserError} (admitted : admits errors maximums error) :
    RaisesOnly errors maximums (.error error : Except ElfParserError α) := by
  rintro _ ⟨⟩
  exact admitted

theorem bind {first : Except ElfParserError α} {next : α → Except ElfParserError β}
    (raises : RaisesOnly errors maximums first)
    (then_raises : ∀ value, first = .ok value → RaisesOnly errors maximums (next value)) :
    RaisesOnly errors maximums (first >>= next) := by
  intro error failed
  rcases bind_eq_error.mp failed with failed | ⟨value, first_ok, failed⟩
  exacts [raises error failed, then_raises value first_ok error failed]

theorem map {first : Except ElfParserError α} (function : α → β)
    (raises : RaisesOnly errors maximums first) :
    RaisesOnly errors maximums (function <$> first) := by
  cases first
  · exact fun error failed => raises error (by simpa [Functor.map, Except.map] using failed)
  · exact ok _

end RaisesOnly

/-! ## The vocabulary -/

theorem okOr_raisesOnly {α : Type} {errors : List ElfParserError} {maximums : List Nat}
    (value : Option α) {error : ElfParserError} (admitted : admits errors maximums error) :
    RaisesOnly errors maximums (okOr value error) := by
  cases value
  exacts [RaisesOnly.error admitted, RaisesOnly.ok _]

theorem errCheckedAdd_raisesOnly (left right : Nat) :
    RaisesOnly [.outOfBounds] [] (errCheckedAdd left right) := by
  unfold errCheckedAdd
  split
  exacts [RaisesOnly.ok _, RaisesOnly.error rfl]

theorem errCheckedSub_raisesOnly (left right : Nat) :
    RaisesOnly [.outOfBounds] [] (errCheckedSub left right) := by
  unfold errCheckedSub
  split
  exacts [RaisesOnly.ok _, RaisesOnly.error rfl]

theorem errCheckedMul_raisesOnly (left right : Nat) :
    RaisesOnly [.outOfBounds] [] (errCheckedMul left right) := by
  unfold errCheckedMul
  split
  exacts [RaisesOnly.ok _, RaisesOnly.error rfl]

theorem checkThatThereIsNoOverlap_raisesOnly (rangeA rangeB : Range) :
    RaisesOnly [.overlap] [] (checkThatThereIsNoOverlap rangeA rangeB) := by
  unfold checkThatThereIsNoOverlap
  split
  exacts [RaisesOnly.ok _, RaisesOnly.error rfl]

/-- `slice_from_bytes` fails with `InvalidSize`, `OutOfBounds` or `InvalidAlignment`. -/
theorem sliceFromBytes_raisesOnly (T : Type) [Pod T] (bytes : Bytes) (range : Range) :
    RaisesOnly [.invalidSize, .outOfBounds, .invalidAlignment] [] (sliceFromBytes T bytes range) := by
  intro error failed
  have classified := sliceFromBytes_eq_error failed
  split_ifs at classified <;> subst classified <;> rfl

theorem sliceFromFileRange_raisesOnly (T : Type) [Pod T] (bytes : Bytes) (offset size : Nat) :
    RaisesOnly [.invalidSize, .outOfBounds, .invalidAlignment] []
      (sliceFromFileRange T bytes offset size) :=
  ((errCheckedAdd_raisesOnly _ _).widen (by decide) (by decide)).bind fun _ _ =>
    sliceFromBytes_raisesOnly _ _ _

/-- `get_string_in_section` fails with `InvalidSectionHeader`, `OutOfBounds` or
`StringTooLong(_, maximum_length)`. -/
theorem getStringInSection_raisesOnly (elfBytes : Bytes) (sectionHeader : Elf64Shdr)
    (offsetInSection : UInt32) (maximumLength : Nat) :
    RaisesOnly [.invalidSectionHeader, .outOfBounds] [maximumLength]
      (getStringInSection elfBytes sectionHeader offsetInSection maximumLength) := by
  intro error failed
  have classified := getStringInSection_eq_error failed
  split_ifs at classified
  · subst classified
    rfl
  · obtain ⟨text, rfl⟩ := classified
    simp [admits]
  · subst classified
    rfl

/-! ## The steps of `parse` -/

namespace Elf64

theorem parseFileHeader_raisesOnly (elfBytes : Bytes) :
    RaisesOnly [.outOfBounds, .invalidAlignment] [] (parseFileHeader elfBytes) := by
  unfold parseFileHeader
  dsimp only
  split
  · exact RaisesOnly.error rfl
  · split
    exacts [RaisesOnly.error rfl, RaisesOnly.ok _]

theorem headerTableRange_raisesOnly (T : Type) [Pod T] (offset count : Nat) :
    RaisesOnly [.outOfBounds] [] (headerTableRange T offset count) :=
  (errCheckedMul_raisesOnly _ _).bind fun _ _ =>
    (errCheckedAdd_raisesOnly _ _).bind fun _ _ => RaisesOnly.ok _

theorem parseProgramHeaderTable_raisesOnly (elfBytes : Bytes) (fileHeaderRange : Range)
    (fileHeader : Elf64Ehdr) :
    RaisesOnly [.outOfBounds, .overlap, .invalidSize, .invalidAlignment] []
      (parseProgramHeaderTable elfBytes fileHeaderRange fileHeader) :=
  ((headerTableRange_raisesOnly _ _ _).widen (by decide) (by decide)).bind fun _ _ =>
    ((checkThatThereIsNoOverlap_raisesOnly _ _).widen (by decide) (by decide)).bind fun _ _ =>
      ((sliceFromBytes_raisesOnly _ _ _).widen (by decide) (by decide)).bind fun _ _ =>
        RaisesOnly.ok _

theorem parseSectionHeaderTable_raisesOnly (elfBytes : Bytes) (fileHeaderRange : Range)
    (fileHeader : Elf64Ehdr) (programHeaderTableRange : Range) :
    RaisesOnly [.outOfBounds, .overlap, .invalidSize, .invalidAlignment] []
      (parseSectionHeaderTable elfBytes fileHeaderRange fileHeader programHeaderTableRange) :=
  ((headerTableRange_raisesOnly _ _ _).widen (by decide) (by decide)).bind fun _ _ =>
    ((checkThatThereIsNoOverlap_raisesOnly _ _).widen (by decide) (by decide)).bind fun _ _ =>
      ((checkThatThereIsNoOverlap_raisesOnly _ _).widen (by decide) (by decide)).bind fun _ _ =>
        ((sliceFromBytes_raisesOnly _ _ _).widen (by decide) (by decide)).bind fun _ _ =>
          RaisesOnly.ok _

theorem checkLoadSegments_raisesOnly (length : Nat) (vaddr : UInt64) (headers : List Elf64Phdr) :
    RaisesOnly [.invalidProgramHeader, .outOfBounds] []
      (checkLoadSegments length vaddr headers) := by
  induction headers generalizing vaddr with
  | nil => exact RaisesOnly.ok _
  | cons header rest induction =>
      unfold checkLoadSegments
      split_ifs
      · exact induction _
      · exact RaisesOnly.error rfl
      · refine ((errCheckedAdd_raisesOnly _ _).widen (by decide) (by decide)).bind fun _ _ => ?_
        split_ifs
        exacts [RaisesOnly.error rfl, induction _]

theorem checkSections_raisesOnly (length : Nat) (fileHeaderRange programHeaderTableRange
    sectionHeaderTableRange : Range) (offset : Nat) (sectionHeaders : List Elf64Shdr) :
    RaisesOnly [.outOfBounds, .overlap, .sectionNotInOrder] []
      (checkSections length fileHeaderRange programHeaderTableRange sectionHeaderTableRange
        offset sectionHeaders) := by
  induction sectionHeaders generalizing offset with
  | nil => exact RaisesOnly.ok _
  | cons sectionHeader rest induction =>
      unfold checkSections
      split_ifs
      · exact induction _
      refine ((errCheckedAdd_raisesOnly _ _).widen (by decide) (by decide)).bind fun _ _ => ?_
      refine ((checkThatThereIsNoOverlap_raisesOnly _ _).widen (by decide) (by decide)).bind
        fun _ _ => ?_
      refine ((checkThatThereIsNoOverlap_raisesOnly _ _).widen (by decide) (by decide)).bind
        fun _ _ => ?_
      refine ((checkThatThereIsNoOverlap_raisesOnly _ _).widen (by decide) (by decide)).bind
        fun _ _ => ?_
      split_ifs
      exacts [RaisesOnly.error rfl, RaisesOnly.error rfl, induction _]

theorem parseSectionsLoop_raisesOnly (elfBytes : Bytes) (sectionNames : Elf64Shdr)
    (parser : Elf64) (sectionHeaders : List Elf64Shdr) :
    RaisesOnly [.invalidSectionHeader, .outOfBounds] [sectionNameLengthMaximum]
      (parseSectionsLoop elfBytes sectionNames parser sectionHeaders) := by
  induction sectionHeaders generalizing parser with
  | nil => exact RaisesOnly.ok _
  | cons sectionHeader rest induction =>
      refine (getStringInSection_raisesOnly _ _ _ _).bind fun sectionName _ => ?_
      refine RaisesOnly.bind ?_ fun _ _ => induction _
      unfold sectionHeaderByName
      split
      · exact RaisesOnly.ok _
      · split_ifs
        exacts [RaisesOnly.error rfl, RaisesOnly.ok _]

theorem parseSections_raisesOnly (self : Elf64) :
    RaisesOnly [.noSectionNameStringTable, .invalidSectionHeader, .outOfBounds]
      [sectionNameLengthMaximum] self.parseSections :=
  (okOr_raisesOnly _ (by rfl)).bind fun _ _ =>
    (parseSectionsLoop_raisesOnly _ _ _ _).widen (by decide) (by decide)

theorem programHeaderForVaddr_raisesOnly (vaddr : UInt64) (headers : List Elf64Phdr) :
    RaisesOnly [.outOfBounds] [] (programHeaderForVaddr vaddr headers) := by
  induction headers with
  | nil => exact RaisesOnly.ok _
  | cons header rest induction =>
      refine (errCheckedAdd_raisesOnly _ _).bind fun _ _ => ?_
      split_ifs
      exacts [RaisesOnly.ok _, induction]

theorem relocationsOffset_raisesOnly (self : Elf64) (vaddr : UInt64) :
    RaisesOnly [.outOfBounds, .invalidDynamicSectionTable] [] (self.relocationsOffset vaddr) := by
  refine ((programHeaderForVaddr_raisesOnly _ _).widen (by decide) (by decide)).bind
    fun found _ => ?_
  cases found with
  | some header =>
      exact ((errCheckedSub_raisesOnly _ _).widen (by decide) (by decide)).bind fun _ _ =>
        (errCheckedAdd_raisesOnly _ _).widen (by decide) (by decide)
  | none => exact (okOr_raisesOnly _ (by rfl)).bind fun _ _ => RaisesOnly.ok _

theorem parseDynamicRelocations_raisesOnly (self : Elf64) :
    RaisesOnly [.invalidDynamicSectionTable, .outOfBounds] [] self.parseDynamicRelocations := by
  unfold parseDynamicRelocations
  dsimp only
  split_ifs
  · exact RaisesOnly.ok _
  · exact RaisesOnly.error rfl
  · exact RaisesOnly.error rfl
  refine ((relocationsOffset_raisesOnly _ _).widen (by decide) (by decide)).bind fun _ _ => ?_
  refine ((errCheckedAdd_raisesOnly _ _).widen (by decide) (by decide)).bind fun _ _ => ?_
  split
  exacts [RaisesOnly.ok _, RaisesOnly.error rfl]

theorem getSymbolTableOfSection_raisesOnly (self : Elf64) (sectionHeader : Elf64Shdr) :
    RaisesOnly [.invalidSectionHeader, .invalidSize, .outOfBounds, .invalidAlignment] []
      (self.getSymbolTableOfSection sectionHeader) := by
  unfold getSymbolTableOfSection
  split_ifs
  · exact RaisesOnly.error rfl
  · exact (sliceFromFileRange_raisesOnly _ _ _ _).widen (by decide) (by decide)

theorem parseDynamicSymbolTable_raisesOnly (self : Elf64) :
    RaisesOnly [.invalidDynamicSectionTable, .invalidSectionHeader, .invalidSize, .outOfBounds,
      .invalidAlignment] [] self.parseDynamicSymbolTable := by
  unfold parseDynamicSymbolTable
  dsimp only
  split_ifs
  · exact RaisesOnly.ok _
  · exact (okOr_raisesOnly _ (by rfl)).bind fun sectionHeader _ =>
      ((getSymbolTableOfSection_raisesOnly _ _).widen (by decide) (by decide)).map _

theorem dynamicEntries_raisesOnly (self : Elf64) :
    RaisesOnly [.invalidDynamicSectionTable] [] self.dynamicEntries := by
  unfold dynamicEntries
  dsimp only
  split
  · exact RaisesOnly.ok _
  · split
    · split
      exacts [RaisesOnly.ok _, RaisesOnly.error rfl]
    · exact RaisesOnly.ok _

theorem parseDynamic_raisesOnly (self : Elf64) :
    RaisesOnly [.invalidDynamicSectionTable, .outOfBounds, .invalidSectionHeader, .invalidSize,
      .invalidAlignment] [] self.parseDynamic := by
  refine ((dynamicEntries_raisesOnly self).widen (by decide) (by decide)).bind fun entries _ => ?_
  cases entries with
  | none => exact RaisesOnly.ok _
  | some table =>
      exact ((parseDynamicRelocations_raisesOnly _).widen (by decide) (by decide)).bind fun _ _ =>
        ((parseDynamicSymbolTable_raisesOnly _).widen (by decide) (by decide)).bind fun _ _ =>
          RaisesOnly.ok _

/-- The errors of `parse`: those of its steps. -/
theorem parse_raisesOnly (elfBytes : Bytes) :
    RaisesOnly [.outOfBounds, .invalidAlignment, .invalidFileHeader, .overlap, .invalidSize,
      .invalidSectionHeader, .invalidProgramHeader, .sectionNotInOrder,
      .noSectionNameStringTable, .invalidDynamicSectionTable] [sectionNameLengthMaximum]
      (parse elfBytes) := by
  refine ((parseFileHeader_raisesOnly _).widen (by decide) (by decide)).bind fun header _ => ?_
  obtain ⟨fileHeaderRange, fileHeader⟩ := header
  dsimp only
  by_cases invalid : fileHeaderInvalid fileHeader
  · rw [if_pos invalid]
    exact RaisesOnly.error rfl
  rw [if_neg invalid]
  refine ((parseProgramHeaderTable_raisesOnly _ _ _).widen (by decide) (by decide)).bind
    fun programHeaders _ => ?_
  refine ((parseSectionHeaderTable_raisesOnly _ _ _ _).widen (by decide) (by decide)).bind
    fun sectionHeaders _ => ?_
  refine (okOr_raisesOnly _ (by rfl)).bind fun _ _ => ?_
  refine ((checkLoadSegments_raisesOnly _ _ _).widen (by decide) (by decide)).bind fun _ _ => ?_
  refine ((checkSections_raisesOnly _ _ _ _ _ _).widen (by decide) (by decide)).bind
    fun _ _ => ?_
  refine RaisesOnly.bind ?_ fun _ _ => ?_
  · split_ifs
    exacts [(okOr_raisesOnly _ (by rfl)).map _, RaisesOnly.ok _]
  refine ((parseSections_raisesOnly _).widen (by decide) (by decide)).bind fun _ _ => ?_
  exact (parseDynamic_raisesOnly _).widen (by decide) (by decide)

/-- `parse` fails only with the errors its steps raise: never with `InvalidString`,
`InvalidRelocationTable`, `NoStringTable` or `NoDynamicStringTable`, and with `StringTooLong`
only for a section name, whose maximum is 16. -/
theorem parse_errors (elfBytes : Bytes) {error : ElfParserError}
    (failed : parse elfBytes = .error error) :
    error ∈ [.outOfBounds, .invalidAlignment, .invalidFileHeader, .overlap, .invalidSize,
      .invalidSectionHeader, .invalidProgramHeader, .sectionNotInOrder,
      .noSectionNameStringTable, .invalidDynamicSectionTable] ∨
      ∃ text, error = .stringTooLong text sectionNameLengthMaximum := by
  have admitted := parse_raisesOnly elfBytes error failed
  unfold admits at admitted
  split at admitted
  · rename_i text maximum
    refine .inr ⟨text, ?_⟩
    simpa [sectionNameLengthMaximum] using admitted
  · exact .inl (by simpa [List.contains, List.elem_iff] using admitted)

theorem emptyBuffer_errors :
    parse ⟨0, []⟩ = .error .outOfBounds ∧
      (ElfParserError.outOfBounds ∈ [.outOfBounds, .invalidAlignment, .invalidFileHeader, .overlap,
        .invalidSize, .invalidSectionHeader, .invalidProgramHeader, .sectionNotInOrder,
        .noSectionNameStringTable, .invalidDynamicSectionTable] ∨
        ∃ text, ElfParserError.outOfBounds = .stringTooLong text sectionNameLengthMaximum) :=
  ⟨rfl, parse_errors ⟨0, []⟩ rfl⟩

/-! ## Where a failing `parse` stopped -/

/-- A failing `parse` stopped in `parse_file_header`, at the file-header checks, in one of the two
header tables, in the `PT_LOAD` sweep or the section sweep, each earlier step having returned its
value; or in a later step, whose errors are those of the first-section check, the section-name
lookup, `parse_sections` and `parse_dynamic`, `NoSectionNameStringTable` among them only for a file
header whose `e_shstrndx` is `SHN_UNDEF`. -/
theorem parse_eq_error {elfBytes : Bytes} {error : ElfParserError}
    (failed : parse elfBytes = .error error) :
    parseFileHeader elfBytes = .error error ∨
      ∃ fileHeader, parseFileHeader elfBytes = .ok (fileHeaderRange, fileHeader) ∧
        (fileHeaderInvalid fileHeader ∧ error = .invalidFileHeader ∨
          parseProgramHeaderTable elfBytes fileHeaderRange fileHeader = .error error ∨
          ∃ programHeaderTable, parseProgramHeaderTable elfBytes fileHeaderRange fileHeader =
              .ok (fileHeader.programHeaderTableRange, programHeaderTable) ∧
            (parseSectionHeaderTable elfBytes fileHeaderRange fileHeader
                fileHeader.programHeaderTableRange = .error error ∨
              ∃ sectionHeaderTable, parseSectionHeaderTable elfBytes fileHeaderRange fileHeader
                  fileHeader.programHeaderTableRange =
                    .ok (fileHeader.sectionHeaderTableRange, sectionHeaderTable) ∧
                (checkLoadSegments elfBytes.data.length 0 programHeaderTable.items = .error error ∨
                  checkSections elfBytes.data.length fileHeaderRange
                    fileHeader.programHeaderTableRange fileHeader.sectionHeaderTableRange 0
                    sectionHeaderTable.items = .error error ∨
                  (error = .noSectionNameStringTable ∧ fileHeader.eShstrndx = shnUndef) ∨
                  admits [.invalidSectionHeader, .outOfBounds, .invalidDynamicSectionTable,
                    .invalidSize, .invalidAlignment] [sectionNameLengthMaximum] error))) := by
  unfold parse at failed
  rcases bind_eq_error.mp failed with failed | ⟨⟨range, fileHeader⟩, header_ok, failed⟩
  · exact .inl failed
  obtain rfl : range = fileHeaderRange := by
    simpa using congrArg Prod.fst (parseFileHeader_eq_ok.mp header_ok).2.2
  refine .inr ⟨fileHeader, header_ok, ?_⟩
  dsimp only at failed
  by_cases invalid : fileHeaderInvalid fileHeader
  · rw [if_pos invalid] at failed
    exact .inl ⟨invalid, (Except.error.inj failed).symm⟩
  rw [if_neg invalid] at failed
  rcases bind_eq_error.mp failed with failed | ⟨⟨programRange, programTable⟩, program_ok, failed⟩
  · exact .inr (.inl failed)
  obtain rfl : programRange = fileHeader.programHeaderTableRange :=
    (parseProgramHeaderTable_eq_ok.mp program_ok).1
  refine .inr (.inr ⟨programTable, program_ok, ?_⟩)
  rcases bind_eq_error.mp failed with failed | ⟨⟨sectionRange, sectionTable⟩, section_ok, failed⟩
  · exact .inl failed
  obtain rfl : sectionRange = fileHeader.sectionHeaderTableRange :=
    (parseSectionHeaderTable_eq_ok.mp section_ok).1
  refine .inr ⟨sectionTable, section_ok, ?_⟩
  rcases bind_eq_error.mp failed with failed | ⟨_, -, failed⟩
  · exact .inr (.inr (.inr (okOr_raisesOnly _ (by rfl) error failed)))
  rcases bind_eq_error.mp failed with failed | ⟨_, -, failed⟩
  · exact .inl failed
  rcases bind_eq_error.mp failed with failed | ⟨_, -, failed⟩
  · exact .inr (.inl failed)
  rcases bind_eq_error.mp failed with failed | ⟨names, names_ok, failed⟩
  · split_ifs at failed
    exact .inr (.inr (.inr (((okOr_raisesOnly _ (by rfl)).map _ : RaisesOnly _ _ _) error failed)))
  rcases bind_eq_error.mp failed with failed | ⟨_, -, failed⟩
  · rw [parseSections] at failed
    rcases bind_eq_error.mp failed with failed | ⟨_, -, failed⟩
    · cases names with
      | some _ => cases failed
      | none =>
          refine .inr (.inr (.inl ⟨(Except.error.inj failed).symm, not_not.mp fun named => ?_⟩))
          rw [if_pos named] at names_ok
          cases found : sectionTable.items[fileHeader.eShstrndx.toNat]? <;>
            simp [found, okOr, Functor.map, Except.map] at names_ok
    · exact .inr (.inr (.inr (((parseSectionsLoop_raisesOnly _ _ _ _).widen (by decide)
        (by decide)) error failed)))
  · exact .inr (.inr (.inr (((parseDynamic_raisesOnly _).widen (by decide) (by decide)) error
      failed)))


end Elf64

end Sbpf
