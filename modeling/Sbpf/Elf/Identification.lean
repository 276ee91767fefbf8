import Mathlib.Data.Vector.Basic
import Sbpf.Elf.Names

/-!
# Changing a fixed byte of the file header

`parse` rejects a file with `InvalidFileHeader` exactly when the file header it read fails one of
its checks.  These require the magic, class, data encoding and version of the identification,
`e_version` and the three entry sizes to hold one value each, so a byte of any of these fields
decides acceptance on its own: in a buffer `parse` accepts, giving it any other value makes
`parse` fail with `InvalidFileHeader`, whatever the rest of the buffer holds.
-/

namespace Sbpf

/-! ## Changing one byte -/

section SetByte

variable {bytes : List UInt8} {index : Nat} {value : UInt8}

/-- A little-endian number changes with any byte it reads. -/
theorem readLE_set_ne {width : Nat} (inside : index < width) (present : index < bytes.length)
    (changed : bytes[index]? ≠ some value) :
    readLE (bytes.set index value) width ≠ readLE bytes width := by
  induction bytes generalizing index width with
  | nil => simp at present
  | cons byte rest induction =>
      obtain ⟨width, rfl⟩ : ∃ rest, width = rest + 1 := ⟨width - 1, by omega⟩
      cases index with
      | zero =>
          have different : value.toNat ≠ byte.toNat := fun same =>
            changed (by simp [UInt8.toNat.inj same])
          simp only [List.set_cons_zero, readLE]
          omega
      | succ index =>
          have tail : readLE (rest.set index value) width ≠ readLE rest width :=
            induction (by omega) (by simpa using present) (by simpa using changed)
          simp only [List.set_cons_succ, readLE]
          omega

theorem readLE_drop_set_ne {offset width : Nat} (inside : offset ≤ index ∧ index < offset + width)
    (present : index < bytes.length) (changed : bytes[index]? ≠ some value) :
    readLE ((bytes.set index value).drop offset) width ≠ readLE (bytes.drop offset) width := by
  rw [List.drop_set, if_neg (by omega)]
  exact readLE_set_ne (by omega) (by simp; omega)
    (by rwa [List.getElem?_drop, Nat.add_sub_cancel' inside.1])

theorem readU8_set_ne (present : index < bytes.length) (changed : bytes[index]? ≠ some value) :
    readU8 (bytes.set index value) index ≠ readU8 bytes index := by
  simp only [readU8, List.headD_eq_head?_getD, List.head?_drop, List.getElem?_set, if_pos present,
    if_true, List.getElem?_eq_getElem present, Option.getD_some] at changed ⊢
  exact fun same => changed (by rw [same])

theorem readU16_set_ne {offset : Nat} (inside : offset ≤ index ∧ index < offset + 2)
    (present : index < bytes.length) (changed : bytes[index]? ≠ some value) :
    readU16 (bytes.set index value) offset ≠ readU16 bytes offset := fun same => by
  have := congrArg UInt16.toNat same
  rw [readU16, readU16, UInt16.toNat_ofNat_of_lt (readLE_lt _ 2),
    UInt16.toNat_ofNat_of_lt (readLE_lt _ 2)] at this
  exact readLE_drop_set_ne inside present changed this

theorem readU32_set_ne {offset : Nat} (inside : offset ≤ index ∧ index < offset + 4)
    (present : index < bytes.length) (changed : bytes[index]? ≠ some value) :
    readU32 (bytes.set index value) offset ≠ readU32 bytes offset := fun same => by
  have := congrArg UInt32.toNat same
  rw [readU32, readU32, UInt32.toNat_ofNat_of_lt (readLE_lt _ 4),
    UInt32.toNat_ofNat_of_lt (readLE_lt _ 4)] at this
  exact readLE_drop_set_ne inside present changed this

end SetByte

/-! ## The fixed fields -/

namespace Elf64

/-- The offsets of the file-header bytes `parse` requires to hold one fixed value: `ei_mag`,
`ei_class`, `ei_data` and `ei_version` (0 to 6), `e_version` (20 to 23), `e_ehsize` and
`e_phentsize` (52 to 55), and `e_shentsize` (58 and 59). -/
def fixedHeaderBytes : List Nat :=
  List.range' 0 7 ++ List.range' 20 4 ++ List.range' 52 4 ++ List.range' 58 2

/-- Changing a fixed byte of a header that passes the checks of `parse` makes it fail them. -/
theorem fileHeaderInvalid_read_set {bytes : List UInt8} {index : Nat} {value : UInt8}
    (valid : ¬ fileHeaderInvalid (Elf64Ehdr.read bytes)) (fixed : index ∈ fixedHeaderBytes)
    (present : index < bytes.length) (changed : bytes[index]? ≠ some value) :
    fileHeaderInvalid (Elf64Ehdr.read (bytes.set index value)) := by
  by_contra still_valid
  simp only [fileHeaderInvalid, not_or, not_not] at valid still_valid
  obtain ⟨mag, eiClass, eiData, eiVersion, eVersion, ehsize, phentsize, shentsize, -⟩ := valid
  obtain ⟨mag', eiClass', eiData', eiVersion', eVersion', ehsize', phentsize', shentsize', -⟩ :=
    still_valid
  simp only [fixedHeaderBytes, List.mem_append, List.mem_range'_1] at fixed
  rcases fixed with ((identification | versionByte) | entrySize) | shentsizeByte
  · by_cases magic : index < 4
    · have := congrArg (Mathlib.Vector.get · ⟨index, magic⟩) (mag'.trans mag.symm)
      exact readU8_set_ne present changed
        (by simpa [Elf64Ehdr.read, readArray, Mathlib.Vector.get_ofFn] using this)
    · obtain rfl | rfl | rfl : index = 4 ∨ index = 5 ∨ index = 6 := by omega
      · exact readU8_set_ne present changed (eiClass'.trans eiClass.symm)
      · exact readU8_set_ne present changed (eiData'.trans eiData.symm)
      · exact readU8_set_ne present changed (eiVersion'.trans eiVersion.symm)
  · exact readU32_set_ne (by omega) present changed (eVersion'.trans eVersion.symm)
  · by_cases ehsizeByte : index < 54
    · exact readU16_set_ne (by omega) present changed (ehsize'.trans ehsize.symm)
    · exact readU16_set_ne (by omega) present changed (phentsize'.trans phentsize.symm)
  · exact readU16_set_ne (by omega) present changed (shentsize'.trans shentsize.symm)

/-- `parse` fails with `InvalidFileHeader` exactly when `parse_file_header` read a file header that
fails one of the checks `parse` makes on it: the identification, `e_version`, an entry size, or
`e_shstrndx < e_shnum`. -/
theorem parse_eq_invalidFileHeader {elfBytes : Bytes} :
    parse elfBytes = .error .invalidFileHeader ↔
      ∃ fileHeader, parseFileHeader elfBytes = .ok (fileHeaderRange, fileHeader) ∧
        fileHeaderInvalid fileHeader := by
  constructor
  · intro failed
    rcases parse_eq_error failed with failed | ⟨fileHeader, header_ok, stage⟩
    · exact absurd failed ((parseFileHeader_raisesOnly _).ne rfl)
    refine ⟨fileHeader, header_ok, ?_⟩
    rcases stage with ⟨invalid, -⟩ | failed |
      ⟨_, -, failed | ⟨_, -, failed | failed | ⟨absent, -⟩ | later⟩⟩
    · exact invalid
    · exact absurd failed ((parseProgramHeaderTable_raisesOnly _ _ _).ne rfl)
    · exact absurd failed ((parseSectionHeaderTable_raisesOnly _ _ _ _).ne rfl)
    · exact absurd failed ((checkLoadSegments_raisesOnly _ _ _).ne rfl)
    · exact absurd failed ((checkSections_raisesOnly _ _ _ _ _ _).ne rfl)
    · cases absent
    · cases later
  · rintro ⟨fileHeader, header_ok, invalid⟩
    simp only [parse, header_ok, bind, Except.bind, if_pos invalid]

/-- In a buffer `parse` accepts, giving any byte of the magic, class, data encoding or version of
the identification, of `e_version`, or of the three entry sizes another value makes `parse` fail
with `InvalidFileHeader`. -/
theorem parse_fixedHeaderByte_changed {addr : Nat} {data : List UInt8} {elf : Elf64}
    (parsed : parse ⟨addr, data⟩ = .ok elf) {index : Nat} (fixed : index ∈ fixedHeaderBytes)
    {value : UInt8} (changed : data[index]? ≠ some value) :
    parse ⟨addr, data.set index value⟩ = .error .invalidFileHeader := by
  have accepted := parse_accepted parsed
  obtain ⟨long, aligned, header_eq⟩ := parseFileHeader_eq_ok.mp accepted.fileHeader_ok
  have read_eq : elf.fileHeader = Elf64Ehdr.read data :=
    (congrArg Prod.snd header_eq).trans (Pod.decode_take data)
  have present : index < data.length := by
    have long : 64 ≤ data.length := long
    simp only [fixedHeaderBytes, List.mem_append, List.mem_range'_1] at fixed
    omega
  have reparsed : parseFileHeader ⟨addr, data.set index value⟩ =
      .ok (fileHeaderRange, Elf64Ehdr.read (data.set index value)) :=
    parseFileHeader_eq_ok.mpr ⟨by simpa using long, aligned,
      by rw [Pod.decode_take (data.set index value)]; rfl⟩
  have invalid := fileHeaderInvalid_read_set (read_eq ▸ accepted.fileHeader_valid) fixed present
    changed
  simp only [parse, reparsed, bind, Except.bind, if_pos invalid]

set_option maxRecDepth 100000 in
theorem minimalFile_magic_changed :
    ∃ elf, parse ⟨0, minimalFile⟩ = .ok elf ∧ 0 ∈ fixedHeaderBytes ∧ minimalFile[0]? ≠ some 0 ∧
      parse ⟨0, minimalFile.set 0 0⟩ = .error .invalidFileHeader :=
  ⟨_, rfl, by decide, by decide,
    @parse_fixedHeaderByte_changed 0 minimalFile _ rfl 0 (by decide) 0 (by decide)⟩

end Elf64

end Sbpf
