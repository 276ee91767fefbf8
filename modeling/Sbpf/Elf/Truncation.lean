import Sbpf.Elf.Layout

/-!
# Truncated files

Every check `parse` makes reads only bytes inside the ranges it accepts, so a prefix that `parse`
accepts holds the same headers and tables as the whole buffer, and all of them end inside the
prefix.  Hence cutting an accepted file anywhere before the end of its furthest header, table,
`PT_LOAD` segment or section makes `parse` fail.
-/

namespace Sbpf

/-- The ranges of an accepted file that `parse` checks against the buffer length: the three
header ranges, the file ranges of the `PT_LOAD` segments, and the file ranges of the sections
other than `SHT_NOBITS`. -/
def Elf64.reachedRanges (elf : Elf64) : List Range :=
  fileHeaderRange :: elf.fileHeader.programHeaderTableRange ::
    elf.fileHeader.sectionHeaderTableRange ::
    ((loadSegments elf.programHeaderTable.items).map Elf64Phdr.segmentRange ++
      (fileSections elf.sectionHeaderTable.items).map Elf64Shdr.sectionRange)

/-- The largest end offset among `reachedRanges`. -/
def Elf64.extent (elf : Elf64) : Nat :=
  (elf.reachedRanges.map Range.stop).foldr max 0

theorem lt_foldr_max_iff {bound : Nat} {values : List Nat} :
    bound < values.foldr max 0 ↔ ∃ value ∈ values, bound < value := by
  induction values with
  | nil => simp
  | cons value rest induction =>
      simp only [List.foldr_cons, List.mem_cons, exists_eq_or_imp, ← induction]
      omega

/-- Every range an accepted file reaches ends inside the buffer. -/
theorem Elf64.Accepted.reachedRanges_inside {elfBytes : Bytes} {elf : Elf64}
    (accepted : Accepted elfBytes elf) :
    ∀ range ∈ elf.reachedRanges, range.stop ≤ elfBytes.data.length := by
  obtain ⟨file_inside, program_inside, section_inside, -⟩ := accepted.headerRanges
  have segments_placed := (checkLoadSegments_ok accepted.loadSegments_ok).1
  have sections_placed := (checkSections_ok accepted.sections_ok).1
  simp only [reachedRanges, List.mem_cons, List.mem_append, List.mem_map]
  rintro range (rfl | rfl | rfl | ⟨header, member, rfl⟩ | ⟨header, member, rfl⟩)
  exacts [file_inside.2, program_inside.2, section_inside.2,
    (segments_placed header member).2.2, (sections_placed header member).2.2.1]

/-! ## Prefixes -/

section Prefix

variable {elfBytes : Bytes} {length : Nat}

theorem take_window {data : List UInt8} {start count : Nat} (inside : start + count ≤ length) :
    ((data.take length).drop start).take count = (data.drop start).take count := by
  rw [List.drop_take, List.take_take, Nat.min_eq_left (by omega)]

/-- A file header read from a prefix is the one read from the whole buffer. -/
theorem parseFileHeader_of_take {result : Range × Elf64Ehdr}
    (parsed : Elf64.parseFileHeader ⟨elfBytes.addr, elfBytes.data.take length⟩ = .ok result) :
    Elf64.parseFileHeader elfBytes = .ok result := by
  obtain ⟨inside, aligned, rfl⟩ := Elf64.parseFileHeader_eq_ok.mp parsed
  simp only [List.length_take, Nat.le_min] at inside
  refine Elf64.parseFileHeader_eq_ok.mpr ⟨inside.2, aligned, ?_⟩
  simp only [List.take_take, Nat.min_eq_left inside.1]

/-- A view accepted on a prefix is the same view of the whole buffer. -/
theorem sliceFromBytes_of_take {T : Type} [Pod T] {range : Range} {slice : Slice T}
    (sliced : sliceFromBytes T ⟨elfBytes.addr, elfBytes.data.take length⟩ range = .ok slice) :
    sliceFromBytes T elfBytes range = .ok slice := by
  obtain ⟨size_pos, divides, ordered, inside, aligned, rfl⟩ := sliceFromBytes_eq_ok.mp sliced
  simp only [List.length_take, Nat.le_min] at inside
  refine sliceFromBytes_eq_ok.mpr ⟨size_pos, divides, ordered, inside.2, aligned, ?_⟩
  rw [take_window (by simp only [Range.len]; omega)]

end Prefix

/-- Cutting an accepted file before the end of any range it reaches makes `parse` fail: if
`parse b` succeeds, `parse` of every prefix of `b` shorter than the largest end offset among the
header ranges, the `PT_LOAD` file ranges and the file ranges of the sections other than
`SHT_NOBITS` returns an error. -/
theorem parse_truncated {elfBytes : Bytes} {elf : Elf64} (parsed : Elf64.parse elfBytes = .ok elf)
    {length : Nat} (short : length < elf.extent) :
    ∃ error, Elf64.parse ⟨elfBytes.addr, elfBytes.data.take length⟩ = .error error := by
  cases prefixParsed : Elf64.parse ⟨elfBytes.addr, elfBytes.data.take length⟩ with
  | error error => exact ⟨error, rfl⟩
  | ok cut =>
      exfalso
      have accepted := Elf64.parse_accepted parsed
      have accepted_cut := Elf64.parse_accepted prefixParsed
      have header_eq : cut.fileHeader = elf.fileHeader := by
        have := (parseFileHeader_of_take accepted_cut.fileHeader_ok).symm.trans
          accepted.fileHeader_ok
        simpa using this
      have programs_eq : cut.programHeaderTable = elf.programHeaderTable := by
        have cut_sliced := (Elf64.parseProgramHeaderTable_eq_ok.mp
          accepted_cut.programHeaderTable_ok).2.2.2
        have sliced := (Elf64.parseProgramHeaderTable_eq_ok.mp
          accepted.programHeaderTable_ok).2.2.2
        rw [header_eq] at cut_sliced
        simpa using (sliceFromBytes_of_take cut_sliced).symm.trans sliced
      have sections_eq : cut.sectionHeaderTable = elf.sectionHeaderTable := by
        have cut_sliced := (Elf64.parseSectionHeaderTable_eq_ok.mp
          accepted_cut.sectionHeaderTable_ok).2.2.2.2
        have sliced := (Elf64.parseSectionHeaderTable_eq_ok.mp
          accepted.sectionHeaderTable_ok).2.2.2.2
        rw [header_eq] at cut_sliced
        simpa using (sliceFromBytes_of_take cut_sliced).symm.trans sliced
      have reached_eq : cut.reachedRanges = elf.reachedRanges := by
        rw [Elf64.reachedRanges, Elf64.reachedRanges, header_eq, programs_eq, sections_eq]
      obtain ⟨stop, member, beyond⟩ := lt_foldr_max_iff.mp short
      obtain ⟨range, member, rfl⟩ := List.mem_map.mp member
      have inside := accepted_cut.reachedRanges_inside range (by rwa [reached_eq])
      simp only [List.length_take] at inside
      omega

set_option maxRecDepth 100000 in
theorem highAddressFile_truncated :
    ∃ elf, Elf64.parse ⟨0, highAddressFile⟩ = .ok elf ∧ 100 < elf.extent ∧
      ∃ error, Elf64.parse ⟨0, highAddressFile.take 100⟩ = .error error :=
  ⟨_, rfl, by decide, @parse_truncated ⟨0, highAddressFile⟩ _ rfl 100 (by decide)⟩

end Sbpf
