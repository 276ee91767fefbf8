import Sbpf.Elf.Errors
import Sbpf.Elf.Layout

/-!
# When `parse` reports `Overlap`

`check_that_there_is_no_overlap` compares end points: it rejects two ranges when neither ends at
or before the other starts.  For two non-empty ranges that is sharing a byte, but an empty range
lying strictly inside another is rejected too.  This file shows that `parse` fails with `Overlap`
only through those comparisons, between the three header ranges and between the file range of a
section and a header range: every other step of `parse` fails with other errors.
-/

namespace Sbpf

/-- The pairs `check_that_there_is_no_overlap` rejects: neither range ends at or before the other
starts. -/
def Range.Crossing (left right : Range) : Prop :=
  right.start < left.stop ∧ left.start < right.stop

/-- For non-empty ranges, crossing is sharing an offset. -/
theorem Range.crossing_iff_not_disjoint {left right : Range} (left_nonempty : left.start < left.stop)
    (right_nonempty : right.start < right.stop) : left.Crossing right ↔ ¬ left.Disjoint right := by
  unfold Crossing Disjoint contains
  constructor
  · rintro ⟨below, above⟩ apart
    exact apart (max left.start right.start) ⟨⟨le_max_left .., by omega⟩, le_max_right .., by omega⟩
  · intro sharing
    by_contra apart
    exact sharing fun offset ⟨⟨_, _⟩, _, _⟩ => apart ⟨by omega, by omega⟩

/-- An empty range shares no offset with any range. -/
theorem Range.disjoint_of_empty {left right : Range}
    (empty : left.stop ≤ left.start ∨ right.stop ≤ right.start) : left.Disjoint right := by
  rintro offset ⟨⟨_, _⟩, _, _⟩
  omega

namespace Elf64

theorem checkThatThereIsNoOverlap_eq_error {rangeA rangeB : Range} {error : ElfParserError}
    (failed : checkThatThereIsNoOverlap rangeA rangeB = .error error) :
    error = .overlap ∧ rangeA.Crossing rangeB := by
  unfold checkThatThereIsNoOverlap at failed
  split_ifs at failed with apart
  cases failed
  exact ⟨rfl, by unfold Range.Crossing; omega⟩

/-! ## The comparisons -/

theorem parseProgramHeaderTable_eq_overlap {elfBytes : Bytes} {fileHeader : Elf64Ehdr}
    (failed : parseProgramHeaderTable elfBytes fileHeaderRange fileHeader = .error .overlap) :
    fileHeaderRange.Crossing fileHeader.programHeaderTableRange := by
  rcases bind_eq_error.mp failed with failed | ⟨range, range_ok, failed⟩
  · exact absurd failed ((headerTableRange_raisesOnly _ _ _).ne rfl)
  obtain ⟨-, rfl⟩ := headerTableRange_eq_ok.mp range_ok
  rcases bind_eq_error.mp failed with failed | ⟨_, -, failed⟩
  · exact (checkThatThereIsNoOverlap_eq_error failed).2
  rcases bind_eq_error.mp failed with failed | ⟨_, -, failed⟩
  · exact absurd failed ((sliceFromBytes_raisesOnly _ _ _).ne rfl)
  · cases failed

theorem parseSectionHeaderTable_eq_overlap {elfBytes : Bytes} {fileHeader : Elf64Ehdr}
    {programHeaderTableRange : Range}
    (failed : parseSectionHeaderTable elfBytes fileHeaderRange fileHeader programHeaderTableRange =
      .error .overlap) :
    fileHeaderRange.Crossing fileHeader.sectionHeaderTableRange ∨
      programHeaderTableRange.Crossing fileHeader.sectionHeaderTableRange := by
  rcases bind_eq_error.mp failed with failed | ⟨range, range_ok, failed⟩
  · exact absurd failed ((headerTableRange_raisesOnly _ _ _).ne rfl)
  obtain ⟨-, rfl⟩ := headerTableRange_eq_ok.mp range_ok
  rcases bind_eq_error.mp failed with failed | ⟨_, -, failed⟩
  · exact .inl (checkThatThereIsNoOverlap_eq_error failed).2
  rcases bind_eq_error.mp failed with failed | ⟨_, -, failed⟩
  · exact .inr (checkThatThereIsNoOverlap_eq_error failed).2
  rcases bind_eq_error.mp failed with failed | ⟨_, -, failed⟩
  · exact absurd failed ((sliceFromBytes_raisesOnly _ _ _).ne rfl)
  · cases failed

theorem mem_fileSections_cons {header member : Elf64Shdr} {rest : List Elf64Shdr}
    (kept : member ∈ fileSections rest) : member ∈ fileSections (header :: rest) := by
  simp only [fileSections, List.mem_filter, List.mem_cons] at kept ⊢
  exact ⟨.inr kept.1, kept.2⟩

/-- The section sweep fails with `Overlap` only when the file range of a section other than
`SHT_NOBITS` crosses one of the three header ranges. -/
theorem checkSections_eq_overlap {length : Nat} {fileHeaderRange programHeaderTableRange
    sectionHeaderTableRange : Range} {sectionHeaders : List Elf64Shdr} :
    ∀ {offset : Nat}, checkSections length fileHeaderRange programHeaderTableRange
        sectionHeaderTableRange offset sectionHeaders = .error .overlap →
      ∃ sectionHeader ∈ fileSections sectionHeaders,
        sectionHeader.sectionRange.Crossing fileHeaderRange ∨
          sectionHeader.sectionRange.Crossing programHeaderTableRange ∨
          sectionHeader.sectionRange.Crossing sectionHeaderTableRange := by
  induction sectionHeaders with
  | nil => exact fun failed => nomatch failed
  | cons sectionHeader rest induction =>
      intro offset failed
      unfold checkSections at failed
      split_ifs at failed with nobits
      · obtain ⟨other, member, crossing⟩ := induction failed
        exact ⟨other, mem_fileSections_cons member, crossing⟩
      have kept : sectionHeader ∈ fileSections (sectionHeader :: rest) := by
        simp [fileSections, nobits]
      rcases bind_eq_error.mp failed with failed | ⟨sectionEnd, end_ok, failed⟩
      · exact absurd failed ((errCheckedAdd_raisesOnly _ _).ne rfl)
      obtain ⟨-, rfl⟩ := errCheckedAdd_eq_ok.mp end_ok
      rcases bind_eq_error.mp failed with failed | ⟨_, -, failed⟩
      · exact ⟨sectionHeader, kept, .inl (checkThatThereIsNoOverlap_eq_error failed).2⟩
      rcases bind_eq_error.mp failed with failed | ⟨_, -, failed⟩
      · exact ⟨sectionHeader, kept, .inr (.inl (checkThatThereIsNoOverlap_eq_error failed).2)⟩
      rcases bind_eq_error.mp failed with failed | ⟨_, -, failed⟩
      · exact ⟨sectionHeader, kept, .inr (.inr (checkThatThereIsNoOverlap_eq_error failed).2)⟩
      split_ifs at failed
      · cases failed
      · cases failed
      obtain ⟨other, member, crossing⟩ := induction failed
      exact ⟨other, mem_fileSections_cons member, crossing⟩

/-- `parse` fails with `Overlap` only when `check_that_there_is_no_overlap` rejected one of the
pairs it compares: two of the three header ranges, or the file range of a section other than
`SHT_NOBITS` and a header range.  A rejected pair crosses (neither range ends at or before the
other starts), which for non-empty ranges is sharing a byte, but which an empty range strictly
inside another range also does. -/
theorem parse_eq_overlap {elfBytes : Bytes} (failed : parse elfBytes = .error .overlap) :
    ∃ fileHeader, parseFileHeader elfBytes = .ok (fileHeaderRange, fileHeader) ∧
      (fileHeaderRange.Crossing fileHeader.programHeaderTableRange ∨
        fileHeaderRange.Crossing fileHeader.sectionHeaderTableRange ∨
        fileHeader.programHeaderTableRange.Crossing fileHeader.sectionHeaderTableRange ∨
        ∃ sectionHeaderTable, sliceFromBytes Elf64Shdr elfBytes
            fileHeader.sectionHeaderTableRange = .ok sectionHeaderTable ∧
          ∃ sectionHeader ∈ fileSections sectionHeaderTable.items,
            sectionHeader.sectionRange.Crossing fileHeaderRange ∨
              sectionHeader.sectionRange.Crossing fileHeader.programHeaderTableRange ∨
              sectionHeader.sectionRange.Crossing fileHeader.sectionHeaderTableRange) := by
  rcases parse_eq_error failed with failed | ⟨fileHeader, header_ok, stage⟩
  · exact absurd failed ((parseFileHeader_raisesOnly _).ne rfl)
  refine ⟨fileHeader, header_ok, ?_⟩
  rcases stage with ⟨-, invalid⟩ | failed | ⟨_, -, failed | ⟨sectionTable, section_ok, stage⟩⟩
  · cases invalid
  · exact .inl (parseProgramHeaderTable_eq_overlap failed)
  · rcases parseSectionHeaderTable_eq_overlap failed with crossing | crossing
    exacts [.inr (.inl crossing), .inr (.inr (.inl crossing))]
  obtain ⟨-, -, -, -, sliced⟩ := parseSectionHeaderTable_eq_ok.mp section_ok
  rcases stage with failed | failed | ⟨absent, -⟩ | later
  · exact absurd failed ((checkLoadSegments_raisesOnly _ _ _).ne rfl)
  · exact .inr (.inr (.inr ⟨sectionTable, sliced, checkSections_eq_overlap failed⟩))
  · cases absent
  · cases later

/-- A 64-byte file whose program-header table is empty and placed at offset 8, inside the file
header, with its one-entry section-header table placed after the file header. -/
def emptyTableHeader : Elf64Ehdr := validFileHeader 8 0 64 1 0

theorem emptyTableHeader_eq_overlap :
    ∃ fileHeader, parseFileHeader ⟨0, emptyTableHeader.write⟩ =
        .ok (fileHeaderRange, fileHeader) ∧
      (fileHeaderRange.Crossing fileHeader.programHeaderTableRange ∨
        fileHeaderRange.Crossing fileHeader.sectionHeaderTableRange ∨
        fileHeader.programHeaderTableRange.Crossing fileHeader.sectionHeaderTableRange ∨
        ∃ sectionHeaderTable, sliceFromBytes Elf64Shdr ⟨0, emptyTableHeader.write⟩
            fileHeader.sectionHeaderTableRange = .ok sectionHeaderTable ∧
          ∃ sectionHeader ∈ fileSections sectionHeaderTable.items,
            sectionHeader.sectionRange.Crossing fileHeaderRange ∨
              sectionHeader.sectionRange.Crossing fileHeader.programHeaderTableRange ∨
              sectionHeader.sectionRange.Crossing fileHeader.sectionHeaderTableRange) :=
  parse_eq_overlap rfl

/-- The header of a file with an empty program-header table at the end of the file header and
two section headers after it. -/
def emptySectionHeader : Elf64Ehdr := validFileHeader 64 0 64 2 1

/-- A string table of size zero at offset 8, inside the file header. -/
def zeroSizeSection : Elf64Shdr := sectionHeaderOf 0 3 0 8 0

/-- The file of `emptySectionHeader`: its `SHT_NULL` section header, then `zeroSizeSection`. -/
def emptySectionFile : List UInt8 :=
  emptySectionHeader.write ++ (sectionHeaderOf 0 0 0 0 0).write ++ zeroSizeSection.write

set_option maxRecDepth 4000 in
/-- `parse` reports `Overlap` although no two of the ranges it compares share a byte, for both
kinds of empty range lying strictly inside the file header: the empty program-header table of
`emptyTableHeader` at offset 8, and the zero-size section of `emptySectionFile` at offset 8. -/
theorem emptyRange_overlap_without_sharing :
    (parse ⟨0, emptyTableHeader.write⟩ = .error .overlap ∧
      fileHeaderRange.Disjoint emptyTableHeader.programHeaderTableRange ∧
      fileHeaderRange.Disjoint emptyTableHeader.sectionHeaderTableRange ∧
      emptyTableHeader.programHeaderTableRange.Disjoint
        emptyTableHeader.sectionHeaderTableRange) ∧
    (parse ⟨0, emptySectionFile⟩ = .error .overlap ∧
      fileHeaderRange.Disjoint emptySectionHeader.programHeaderTableRange ∧
      fileHeaderRange.Disjoint emptySectionHeader.sectionHeaderTableRange ∧
      emptySectionHeader.programHeaderTableRange.Disjoint
        emptySectionHeader.sectionHeaderTableRange ∧
      ∀ sectionHeader ∈ [sectionHeaderOf 0 0 0 0 0, zeroSizeSection],
        sectionHeader.sectionRange.Disjoint fileHeaderRange ∧
        sectionHeader.sectionRange.Disjoint emptySectionHeader.programHeaderTableRange ∧
        sectionHeader.sectionRange.Disjoint emptySectionHeader.sectionHeaderTableRange) := by
  refine ⟨⟨rfl, Range.disjoint_of_empty (.inr (by decide)),
    Range.disjoint_of_apart (.inl (by decide)), Range.disjoint_of_empty (.inl (by decide))⟩,
    rfl, Range.disjoint_of_empty (.inr (by decide)), Range.disjoint_of_apart (.inl (by decide)),
    Range.disjoint_of_empty (.inl (by decide)), ?_⟩
  have empty : ∀ sectionHeader ∈ [sectionHeaderOf 0 0 0 0 0, zeroSizeSection],
      sectionHeader.sectionRange.stop ≤ sectionHeader.sectionRange.start := by
    decide
  exact fun sectionHeader member =>
    have empty := empty sectionHeader member
    ⟨Range.disjoint_of_empty (.inl empty), Range.disjoint_of_empty (.inl empty),
      Range.disjoint_of_empty (.inl empty)⟩

end Elf64

end Sbpf
