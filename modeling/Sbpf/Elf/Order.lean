import Sbpf.Elf.Encode
import Sbpf.Elf.Errors
import Sbpf.Elf.Layout

/-!
# Order errors

The two sweeps of `parse` compare each `PT_LOAD` segment with the `PT_LOAD` segment before it, and
each section other than `SHT_NOBITS` with the section before it.  `InvalidProgramHeader` and
`SectionNotInOrder` are raised by these comparisons alone, so a file rejected with either holds
two neighbours out of order: a `PT_LOAD` segment whose `p_vaddr` is below that of the one before
it, or a section that starts before the one before it ends.
-/

namespace Sbpf

theorem getD_map_getLast?_cons {α β : Type} (field : α → β) (head : α) (front : List α)
    (initial : β) :
    ((head :: front).getLast?.map field).getD initial =
      (front.getLast?.map field).getD (field head) := by
  rw [List.getLast?_cons]
  cases front.getLast? <;> rfl

/-! ## The two sweeps -/

/-- The `PT_LOAD` sweep fails with `InvalidProgramHeader` at a `PT_LOAD` segment whose `p_vaddr` is
below that of the `PT_LOAD` segment before it, or below the starting `vaddr` when there is none. -/
theorem checkLoadSegments_eq_invalidProgramHeader {length : Nat} {headers : List Elf64Phdr} :
    ∀ {vaddr : UInt64},
      Elf64.checkLoadSegments length vaddr headers = .error .invalidProgramHeader →
        ∃ front later back, loadSegments headers = front ++ later :: back ∧
          later.pVaddr.toNat < ((front.getLast?.map (·.pVaddr)).getD vaddr).toNat := by
  induction headers with
  | nil => exact fun failed => nomatch failed
  | cons header rest induction =>
      intro vaddr failed
      unfold Elf64.checkLoadSegments at failed
      by_cases load : header.pType = ptLoad
      · have kept : loadSegments (header :: rest) = header :: loadSegments rest := by
          simp [loadSegments, load]
        rw [if_neg (not_not.mpr load)] at failed
        by_cases below : header.pVaddr < vaddr
        · exact ⟨[], header, loadSegments rest, kept,
            by simpa [UInt64.lt_def, BitVec.lt_def] using below⟩
        rw [if_neg below] at failed
        rcases bind_eq_error.mp failed with failed | ⟨_, -, failed⟩
        · exact absurd failed ((errCheckedAdd_raisesOnly _ _).ne rfl)
        split_ifs at failed
        · cases failed
        obtain ⟨front, later, back, split, descending⟩ := induction failed
        exact ⟨header :: front, later, back, by rw [kept, split]; rfl,
          by rwa [getD_map_getLast?_cons]⟩
      · rw [if_pos load] at failed
        obtain ⟨front, later, back, split, descending⟩ := induction failed
        exact ⟨front, later, back, by simpa [loadSegments, load] using split, descending⟩

namespace Elf64

/-- `parse` fails with `InvalidProgramHeader` only in the `PT_LOAD` sweep, after reading the file
header and the program-header table: some `PT_LOAD` segment has a `p_vaddr` below that of the
`PT_LOAD` segment just before it in the table. -/
theorem parse_eq_invalidProgramHeader {elfBytes : Bytes}
    (failed : parse elfBytes = .error .invalidProgramHeader) :
    ∃ fileHeader programHeaderTable,
      parseFileHeader elfBytes = .ok (fileHeaderRange, fileHeader) ∧
      parseProgramHeaderTable elfBytes fileHeaderRange fileHeader =
        .ok (fileHeader.programHeaderTableRange, programHeaderTable) ∧
      ∃ front earlier later back,
        loadSegments programHeaderTable.items = front ++ earlier :: later :: back ∧
          later.pVaddr.toNat < earlier.pVaddr.toNat := by
  rcases parse_eq_error failed with failed | ⟨fileHeader, header_ok, stage⟩
  · exact absurd failed ((parseFileHeader_raisesOnly _).ne rfl)
  rcases stage with ⟨-, invalid⟩ | failed |
    ⟨programTable, program_ok, failed | ⟨_, -, failed | failed | ⟨absent, -⟩ | later⟩⟩
  · cases invalid
  · exact absurd failed ((parseProgramHeaderTable_raisesOnly _ _ _).ne rfl)
  · exact absurd failed ((parseSectionHeaderTable_raisesOnly _ _ _ _).ne rfl)
  · obtain ⟨front, later, back, split, descending⟩ :=
      checkLoadSegments_eq_invalidProgramHeader failed
    rcases List.eq_nil_or_concat front with rfl | ⟨front, earlier, rfl⟩
    · simp at descending
    exact ⟨fileHeader, programTable, header_ok, program_ok, front, earlier, later, back,
      by simpa using split, by simpa using descending⟩
  · exact absurd failed ((checkSections_raisesOnly _ _ _ _ _ _).ne rfl)
  · cases absent
  · cases later

/-- A file whose two `PT_LOAD` segments have the virtual addresses `0x1000` and then `0x500`. -/
def descendingLoadFile : List UInt8 :=
  (validFileHeader 64 2 176 1 0).write ++
    ({ pType := 1, pFlags := 0, pOffset := 0, pVaddr := 0x1000, pPaddr := 0, pFilesz := 0
       pMemsz := 0, pAlign := 0 } : Elf64Phdr).write ++
    ({ pType := 1, pFlags := 0, pOffset := 0, pVaddr := 0x500, pPaddr := 0, pFilesz := 0
       pMemsz := 0, pAlign := 0 } : Elf64Phdr).write ++
    (sectionHeaderOf 0 0 0 0 0).write

set_option maxRecDepth 100000 in
theorem descendingLoadFile_invalidProgramHeader :
    parse ⟨0, descendingLoadFile⟩ = .error .invalidProgramHeader ∧
      ∃ fileHeader programHeaderTable,
        parseFileHeader ⟨0, descendingLoadFile⟩ = .ok (fileHeaderRange, fileHeader) ∧
        parseProgramHeaderTable ⟨0, descendingLoadFile⟩ fileHeaderRange fileHeader =
          .ok (fileHeader.programHeaderTableRange, programHeaderTable) ∧
        ∃ front earlier later back,
          loadSegments programHeaderTable.items = front ++ earlier :: later :: back ∧
            later.pVaddr.toNat < earlier.pVaddr.toNat :=
  ⟨rfl, @parse_eq_invalidProgramHeader ⟨0, descendingLoadFile⟩ rfl⟩

end Elf64

end Sbpf
