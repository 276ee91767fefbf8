import Sbpf.Elf.Dynamic
import Sbpf.Elf.Errors

/-!
# Section and symbol names

The three name queries read zero-terminated strings through `get_string_in_section`, and
`parse_sections` records the `.symtab`, `.strtab` and `.dynstr` sections by the name it reads for
each section header.  This file states what a name query returns, and proves the invariant of the
`parse_sections` loop: a field is set at most once, only by a section carrying its name, and a
second such section is rejected.  `parse_sections` also needs the section-name table: a file whose
`e_shstrndx` is `SHN_UNDEF` is rejected with `NoSectionNameStringTable`, and only such a file.
-/

namespace Sbpf

/-! ## Name queries -/

namespace Elf64

/-- A name found by `section_name`, `symbol_name` or `dynamic_symbol_name` is read from the
recorded string table. -/
theorem lookupName_ok {elfBytes : Bytes} {stringTable : Option Elf64Shdr}
    {missing : ElfParserError} {offset : UInt32} {maximumLength : Nat} {name : Bytes}
    (found : lookupName elfBytes stringTable missing offset maximumLength = .ok name) :
    ∃ sectionHeader, stringTable = some sectionHeader ∧
      getStringInSection elfBytes sectionHeader offset maximumLength = .ok name := by
  obtain ⟨sectionHeader, recorded, found⟩ := bind_eq_ok.mp found
  exact ⟨sectionHeader, okOr_eq_ok.mp recorded, found⟩

theorem lookupName_bounds {elfBytes : Bytes} {stringTable : Option Elf64Shdr}
    {missing : ElfParserError} {offset : UInt32} {maximumLength : Nat} {name : Bytes}
    (found : lookupName elfBytes stringTable missing offset maximumLength = .ok name) :
    name.data.length < maximumLength ∧ 0 ∉ name.data := by
  obtain ⟨_, -, found⟩ := lookupName_ok found
  obtain ⟨-, -, short, zero_free, -⟩ := getStringInSection_bounds found
  exact ⟨short, zero_free⟩

end Elf64

/-- `get_string_in_section` returns a name exactly when the section is a string table, the three
sums it checks fit in 64 bits, and the search window lies in the buffer and holds a zero byte;
the name is the window up to its first zero byte, lies inside the section, is shorter than the
maximum length, has no zero byte and is followed by one.  Its failures are
`InvalidSectionHeader`, `OutOfBounds` and `StringTooLong(_, maximum_length)`, in that order.  So
`section_name`, `symbol_name` and `dynamic_symbol_name` return only zero-free names shorter than
16, 64 and 64 bytes. -/
theorem getStringInSection_contract (elfBytes : Bytes) (sectionHeader : Elf64Shdr)
    (offsetInSection : UInt32) (maximumLength : Nat) :
    (∀ name, getStringInSection elfBytes sectionHeader offsetInSection maximumLength = .ok name ↔
      sectionHeader.shType = shtStrtab ∧
        StringWindowFits sectionHeader offsetInSection maximumLength ∧
        (stringWindow sectionHeader offsetInSection maximumLength).stop ≤ elfBytes.data.length ∧
        ∃ terminator,
          FirstZero elfBytes.data (stringWindow sectionHeader offsetInSection maximumLength)
            terminator ∧
          name = ⟨elfBytes.addr + (stringWindow sectionHeader offsetInSection maximumLength).start,
            (elfBytes.data.drop
              (stringWindow sectionHeader offsetInSection maximumLength).start).take
                (terminator - (stringWindow sectionHeader offsetInSection maximumLength).start)⟩) ∧
    (∀ name, getStringInSection elfBytes sectionHeader offsetInSection maximumLength = .ok name →
      sectionHeader.shOffset.toNat ≤ name.addr - elfBytes.addr ∧
        name.addr - elfBytes.addr + name.data.length ≤
          sectionHeader.shOffset.toNat + sectionHeader.shSize.toNat ∧
        name.data.length < maximumLength ∧ 0 ∉ name.data ∧
        elfBytes.data[name.addr - elfBytes.addr + name.data.length]? = some 0) ∧
    (∀ error, getStringInSection elfBytes sectionHeader offsetInSection maximumLength =
        .error error →
      if sectionHeader.shType ≠ shtStrtab then error = .invalidSectionHeader
      else if StringWindowFits sectionHeader offsetInSection maximumLength ∧
          (stringWindow sectionHeader offsetInSection maximumLength).start ≤
            (stringWindow sectionHeader offsetInSection maximumLength).stop ∧
          (stringWindow sectionHeader offsetInSection maximumLength).stop ≤ elfBytes.data.length
        then ∃ text, error = .stringTooLong text maximumLength
      else error = .outOfBounds) ∧
    (∀ (elf : Elf64) shName name, elf.sectionName shName = .ok name →
      name.data.length < 16 ∧ 0 ∉ name.data) ∧
    (∀ (elf : Elf64) stName name, elf.symbolName stName = .ok name →
      name.data.length < 64 ∧ 0 ∉ name.data) ∧
    (∀ (elf : Elf64) stName name, elf.dynamicSymbolName stName = .ok name →
      name.data.length < 64 ∧ 0 ∉ name.data) :=
  ⟨fun _ => getStringInSection_eq_ok, fun _ => getStringInSection_bounds,
    fun _ => getStringInSection_eq_error, fun _ _ _ => Elf64.lookupName_bounds,
    fun _ _ _ => Elf64.lookupName_bounds, fun _ _ _ => Elf64.lookupName_bounds⟩

/-! ## The named sections -/

namespace NamedSection

/-- The arm a name selects is the section carrying that name. -/
theorem ofName_eq_some {sectionName : List UInt8} {field : NamedSection} :
    ofName sectionName = some field ↔ sectionName = field.name := by
  unfold ofName
  split_ifs <;> subst_vars <;> cases field <;> simp_all <;> decide

theorem ofName_eq_none {sectionName : List UInt8} :
    ofName sectionName = none ↔ ∀ field : NamedSection, sectionName ≠ field.name := by
  simp only [Option.eq_none_iff_forall_not_mem, Option.mem_def, ofName_eq_some, ne_eq]

end NamedSection

namespace Elf64

@[simp] theorem namedSectionHeader_setNamedSectionHeader (self : Elf64) (field : NamedSection)
    (header : Elf64Shdr) : (self.setNamedSectionHeader field header).namedSectionHeader field =
      some header := by
  cases field <;> rfl

theorem namedSectionHeader_setNamedSectionHeader_of_ne (self : Elf64) {field other : NamedSection}
    (header : Elf64Shdr) (different : other ≠ field) :
    (self.setNamedSectionHeader field header).namedSectionHeader other =
      self.namedSectionHeader other := by
  cases field <;> cases other <;> first | rfl | exact absurd rfl different

/-- One expansion of `section_header_by_name!` either ignores a name no field carries, or records
the section in the free field carrying its name. -/
theorem sectionHeaderByName_ok {parser result : Elf64} {sectionHeader : Elf64Shdr}
    {sectionName : List UInt8}
    (recorded : parser.sectionHeaderByName sectionHeader sectionName = .ok result) :
    (NamedSection.ofName sectionName = none ∧ result = parser) ∨
      ∃ field, NamedSection.ofName sectionName = some field ∧
        parser.namedSectionHeader field = none ∧
        result = parser.setNamedSectionHeader field sectionHeader := by
  unfold sectionHeaderByName at recorded
  split at recorded
  · cases recorded
    exact .inl ⟨by assumption, rfl⟩
  · split_ifs at recorded with taken
    cases recorded
    exact .inr ⟨_, by assumption, Option.not_isSome_iff_eq_none.mp taken, rfl⟩

/-- Whether the name `parse_sections` reads for a section header, with the 16-byte bound, is the
name `field` is recorded under. -/
def carriesName (elfBytes : Bytes) (sectionNames : Elf64Shdr) (field : NamedSection)
    (sectionHeader : Elf64Shdr) : Bool :=
  match getStringInSection elfBytes sectionNames sectionHeader.shName sectionNameLengthMaximum with
  | .ok sectionName => sectionName.data == field.name
  | .error _ => false

/-- The invariant of the `parse_sections` loop: every visited section's name resolves; for each
field, at most one visited section carries its name, none does once the field is set, and the
field ends set to that section, or keeps its value when there is none. -/
theorem parseSectionsLoop_ok {elfBytes : Bytes} {sectionNames : Elf64Shdr}
    {sectionHeaders : List Elf64Shdr} :
    ∀ {parser result : Elf64},
      parseSectionsLoop elfBytes sectionNames parser sectionHeaders = .ok result →
        (∀ sectionHeader ∈ sectionHeaders, ∃ sectionName, getStringInSection elfBytes sectionNames
          sectionHeader.shName sectionNameLengthMaximum = .ok sectionName) ∧
        ∀ field, (sectionHeaders.filter (carriesName elfBytes sectionNames field)).length ≤ 1 ∧
          ((parser.namedSectionHeader field).isSome →
            sectionHeaders.filter (carriesName elfBytes sectionNames field) = []) ∧
          result.namedSectionHeader field = (parser.namedSectionHeader field).or
            (sectionHeaders.filter (carriesName elfBytes sectionNames field)).head? := by
  induction sectionHeaders with
  | nil =>
      intro parser result finished
      cases finished
      simp
  | cons sectionHeader rest induction =>
      intro parser result finished
      obtain ⟨sectionName, named, next, recorded, finished⟩ := by
        simpa only [parseSectionsLoop, bind_eq_ok] using finished
      obtain ⟨resolved, invariant⟩ := induction finished
      have carries : ∀ field, carriesName elfBytes sectionNames field sectionHeader =
          (sectionName.data == field.name) := fun field => by
        simp only [carriesName, named]
      refine ⟨List.forall_mem_cons.mpr ⟨⟨sectionName, named⟩, resolved⟩, fun field => ?_⟩
      obtain ⟨at_most_one, set_empty, result_eq⟩ := invariant field
      rcases sectionHeaderByName_ok recorded with ⟨unnamed, rfl⟩ | ⟨other, selected, free, rfl⟩
      · have missed : carriesName elfBytes sectionNames field sectionHeader = false := by
          simpa [carries] using NamedSection.ofName_eq_none.mp unnamed field
        simpa [List.filter_cons, missed] using invariant field
      · by_cases same : field = other
        · subst same
          have hit : carriesName elfBytes sectionNames field sectionHeader = true := by
            simpa [carries] using NamedSection.ofName_eq_some.mp selected
          have empty := set_empty (by simp)
          simp [List.filter_cons, hit, empty, free, result_eq]
        · have missed : carriesName elfBytes sectionNames field sectionHeader = false := by
            simp only [carries, beq_eq_false_iff_ne, ne_eq]
            exact fun named_field => same (Option.some.inj
              ((NamedSection.ofName_eq_some.mpr named_field).symm.trans selected))
          rw [namedSectionHeader_setNamedSectionHeader_of_ne _ _ same] at set_empty result_eq
          simp only [List.filter_cons, missed, Bool.false_eq_true, if_false]
          exact ⟨at_most_one, set_empty, result_eq⟩

/-- On an accepted file the section-name table is recorded, and `parse_sections` ran its loop
over the section headers with it. -/
theorem Accepted.sectionNames_ok {elfBytes : Bytes} {elf : Elf64}
    (accepted : Accepted elfBytes elf) :
    ∃ sectionNames, elf.sectionNamesSectionHeader = some sectionNames ∧
      parseSectionsLoop elfBytes sectionNames elf.beforeSections elf.sectionHeaderTable.items =
        .ok elf.beforeDynamic := by
  obtain ⟨sectionNames, recorded, looped⟩ := bind_eq_ok.mp accepted.parseSections_ok
  refine ⟨sectionNames, okOr_eq_ok.mp recorded, ?_⟩
  rw [← accepted.elfBytes_eq]
  exact looped

/-- On an accepted file `section_name` resolves the name of every section header. -/
theorem Accepted.sectionName_ok {elfBytes : Bytes} {elf : Elf64}
    (accepted : Accepted elfBytes elf) :
    ∀ sectionHeader ∈ elf.sectionHeaderTable.items,
      ∃ sectionName, elf.sectionName sectionHeader.shName = .ok sectionName := by
  intro sectionHeader member
  obtain ⟨sectionNames, names_eq, looped⟩ := accepted.sectionNames_ok
  obtain ⟨sectionName, found⟩ := (parseSectionsLoop_ok looped).1 sectionHeader member
  refine ⟨sectionName, ?_⟩
  rwa [Elf64.sectionName, lookupName, names_eq, accepted.elfBytes_eq, okOr_bind]

/-- On an accepted file the section-name table is recorded and every section's name resolves;
for each of `.symtab`, `.strtab` and `.dynstr`, at most one section carries the name, and the
field recording it holds that section, or nothing when there is none. -/
theorem parse_namedSections {elfBytes : Bytes} {elf : Elf64} (parsed : parse elfBytes = .ok elf) :
    ∃ sectionNames, elf.sectionNamesSectionHeader = some sectionNames ∧
      (∀ sectionHeader ∈ elf.sectionHeaderTable.items,
        ∃ sectionName, elf.sectionName sectionHeader.shName = .ok sectionName) ∧
      ∀ field,
        (elf.sectionHeaderTable.items.filter (carriesName elfBytes sectionNames field)).length ≤ 1 ∧
        elf.namedSectionHeader field =
          (elf.sectionHeaderTable.items.filter (carriesName elfBytes sectionNames field)).head? := by
  have accepted := parse_accepted parsed
  obtain ⟨sectionNames, names_eq, looped⟩ := accepted.sectionNames_ok
  refine ⟨sectionNames, names_eq, accepted.sectionName_ok, fun field => ?_⟩
  obtain ⟨at_most_one, -, result_eq⟩ := (parseSectionsLoop_ok looped).2 field
  have unset : elf.beforeSections.namedSectionHeader field = none := by cases field <;> rfl
  have kept : elf.beforeDynamic.namedSectionHeader field = elf.namedSectionHeader field := by
    cases field <;> rfl
  rw [kept, unset, Option.none_or] at result_eq
  exact ⟨at_most_one, result_eq⟩

/-- A file whose section-name table, at 64, names a `.symtab` section of two symbols at 96, a
`.strtab` section at 144 holding the name `f` of the second symbol, and a `.dynstr` section at
147; its five section headers follow at 152. -/
def namedFile : List UInt8 :=
  (validFileHeader 64 0 152 5 1).write ++
    (0 :: NamedSection.symtab.name ++ 0 :: NamedSection.strtab.name ++
      0 :: NamedSection.dynstr.name ++ [0]) ++ List.replicate 7 0 ++
    (Elf64Sym.write ⟨0, 0, 0, 0, 0, 0⟩ ++ Elf64Sym.write ⟨1, 0x12, 0, 0, 0, 0⟩) ++
    [0, 102, 0] ++ [0] ++ List.replicate 4 0 ++
    (sectionHeaderOf 0 0 0 0 0).write ++ (sectionHeaderOf 0 3 0 64 25).write ++
    (sectionHeaderOf 1 2 0 96 48).write ++ (sectionHeaderOf 9 3 0 144 3).write ++
    (sectionHeaderOf 17 3 0 147 1).write

set_option maxRecDepth 100000 in
/-- On `namedFile` each of the three fields is recorded, so the theorem's `Some` half is the one
at work. -/
theorem namedFile_namedSections :
    ∃ elf, parse ⟨0, namedFile⟩ = .ok elf ∧
      (∀ field ∈ [NamedSection.symtab, .strtab, .dynstr], (elf.namedSectionHeader field).isSome) ∧
      ∃ sectionNames, elf.sectionNamesSectionHeader = some sectionNames ∧
        (∀ sectionHeader ∈ elf.sectionHeaderTable.items,
          ∃ sectionName, elf.sectionName sectionHeader.shName = .ok sectionName) ∧
        ∀ field, (elf.sectionHeaderTable.items.filter
            (carriesName ⟨0, namedFile⟩ sectionNames field)).length ≤ 1 ∧
          elf.namedSectionHeader field = (elf.sectionHeaderTable.items.filter
            (carriesName ⟨0, namedFile⟩ sectionNames field)).head? :=
  ⟨_, rfl, by decide, @parse_namedSections ⟨0, namedFile⟩ _ rfl⟩

/-- An accepted file has a section-name table: `e_shstrndx` is not `SHN_UNDEF`, and the table is
the section header at that index.  A file whose `e_shstrndx` is `SHN_UNDEF` is never accepted. -/
theorem parse_sectionNamesTable {elfBytes : Bytes} {elf : Elf64}
    (parsed : parse elfBytes = .ok elf) :
    elf.fileHeader.eShstrndx ≠ shnUndef ∧ ∃ sectionNames,
      elf.sectionHeaderTable.items[elf.fileHeader.eShstrndx.toNat]? = some sectionNames ∧
        elf.sectionNamesSectionHeader = some sectionNames := by
  have accepted := parse_accepted parsed
  obtain ⟨sectionNames, names_eq, -⟩ := accepted.sectionNames_ok
  have names_def := accepted.sectionNames_eq
  by_cases named : elf.fileHeader.eShstrndx ≠ shnUndef
  · rw [if_pos named, names_eq] at names_def
    exact ⟨named, sectionNames, names_def.symm, names_eq⟩
  · rw [if_neg named, names_eq] at names_def
    cases names_def

/-- The smallest shape of file `parse` accepts: a file header, a section-name table holding one
zero byte, and two section headers, the `SHT_NULL` one and the table's. -/
def minimalFile : List UInt8 :=
  (validFileHeader 64 0 72 2 1).write ++ List.replicate 8 0 ++ (sectionHeaderOf 0 0 0 0 0).write ++
    (sectionHeaderOf 0 3 0 64 1).write

/-- `parse` fails with `NoSectionNameStringTable` only for a file whose header, as
`parse_file_header` read it, has `e_shstrndx` equal to `SHN_UNDEF`. -/
theorem parse_eq_noSectionNameStringTable {elfBytes : Bytes}
    (failed : parse elfBytes = .error .noSectionNameStringTable) :
    ∃ fileHeader, parseFileHeader elfBytes = .ok (fileHeaderRange, fileHeader) ∧
      fileHeader.eShstrndx = shnUndef := by
  rcases parse_eq_error failed with failed | ⟨fileHeader, header_ok, stage⟩
  · exact absurd failed ((parseFileHeader_raisesOnly _).ne rfl)
  refine ⟨fileHeader, header_ok, ?_⟩
  rcases stage with ⟨-, invalid⟩ | failed |
    ⟨_, -, failed | ⟨_, -, failed | failed | ⟨-, undefined⟩ | later⟩⟩
  · cases invalid
  · exact absurd failed ((parseProgramHeaderTable_raisesOnly _ _ _).ne rfl)
  · exact absurd failed ((parseSectionHeaderTable_raisesOnly _ _ _ _).ne rfl)
  · exact absurd failed ((checkLoadSegments_raisesOnly _ _ _).ne rfl)
  · exact absurd failed ((checkSections_raisesOnly _ _ _ _ _ _).ne rfl)
  · exact undefined
  · cases later

/-- A file header with `e_shstrndx` zero over the lone `SHT_NULL` section header. -/
def nullSectionFile : List UInt8 :=
  (validFileHeader 64 0 64 1 0).write ++ (sectionHeaderOf 0 0 0 0 0).write

set_option maxRecDepth 100000 in
theorem nullSectionFile_noSectionNameStringTable :
    parse ⟨0, nullSectionFile⟩ = .error .noSectionNameStringTable ∧
      ∃ fileHeader, parseFileHeader ⟨0, nullSectionFile⟩ = .ok (fileHeaderRange, fileHeader) ∧
        fileHeader.eShstrndx = shnUndef :=
  ⟨rfl, @parse_eq_noSectionNameStringTable ⟨0, nullSectionFile⟩ rfl⟩

end Elf64

end Sbpf
