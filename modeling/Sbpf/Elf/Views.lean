import Sbpf.Elf.Dynamic

/-!
# Typed tables are views of the input

Every `&[T]` the parser hands out comes from `slice_from_bytes`, whose checks are the
preconditions of `slice::from_raw_parts`.  This file collects the characterisation of
`slice_from_bytes` and shows that each typed table of a parsed file (the two header tables, the
relocation and dynamic-symbol views, and the symbol table materialised on demand) is a view of
whole, aligned records lying inside the input buffer.
-/

namespace Sbpf

namespace Elf64

/-- `get_symbol_table_of_section` views a symbol or dynamic-symbol section as its symbols. -/
theorem getSymbolTableOfSection_ok {self : Elf64} {sectionHeader : Elf64Shdr}
    {table : Slice Elf64Sym} (viewed : self.getSymbolTableOfSection sectionHeader = .ok table) :
    (sectionHeader.shType = shtSymtab ∨ sectionHeader.shType = shtDynsym) ∧
      sliceFromSectionHeader Elf64Sym self.elfBytes sectionHeader = .ok table := by
  unfold getSymbolTableOfSection at viewed
  split_ifs at viewed with untyped
  exact ⟨by tauto, viewed⟩

/-- `symbol_table` views the recorded `.symtab` section. -/
theorem symbolTable_ok {self : Elf64} {table : Slice Elf64Sym}
    (viewed : self.symbolTable = .ok (some table)) :
    ∃ sectionHeader, self.symbolSectionHeader = some sectionHeader ∧
      self.getSymbolTableOfSection sectionHeader = .ok table := by
  unfold symbolTable at viewed
  split at viewed
  · cases viewed
  · rename_i sectionHeader _
    cases symbols : self.getSymbolTableOfSection sectionHeader <;>
      simp_all [Functor.map, Except.map]

/-- A symbol table materialised from a section lies inside the buffer. -/
theorem getSymbolTableOfSection_isView {self : Elf64} {sectionHeader : Elf64Shdr}
    {table : Slice Elf64Sym} (viewed : self.getSymbolTableOfSection sectionHeader = .ok table) :
    table.IsView self.elfBytes :=
  (sliceFromFileRange_isView (getSymbolTableOfSection_ok viewed).2).1

/-- On an accepted file with a non-zero `DT_SYMTAB`, the dynamic symbol table is recorded, and it
is the view of whole symbols covering exactly the file range of the first section header whose
address is `DT_SYMTAB`, a section of type `SHT_SYMTAB` or `SHT_DYNSYM`. -/
theorem parse_dynamicSymbolTable {elfBytes : Bytes} {elf : Elf64}
    (parsed : parse elfBytes = .ok elf) (present : elf.dynamicTable dtSymtab ≠ 0) :
    ∃ sectionHeader table,
      elf.sectionHeaderTable.items.find? (·.shAddr == elf.dynamicTable dtSymtab) =
          some sectionHeader ∧
        (sectionHeader.shType = shtSymtab ∨ sectionHeader.shType = shtDynsym) ∧
        elf.dynamicSymbolTable = some table ∧ table.IsView elfBytes ∧
        table.addr = elfBytes.addr + sectionHeader.shOffset.toNat ∧
        table.items.length * Pod.size Elf64Sym = sectionHeader.shSize.toNat := by
  have accepted := parse_accepted parsed
  obtain ⟨-, -, -, -, symbols_ok⟩ := accepted.dynamic_ok
  obtain ⟨absent, recorded⟩ := parseDynamicSymbolTable_ok symbols_ok
  obtain ⟨table, table_eq⟩ := Option.ne_none_iff_exists'.mp (mt absent.mp present)
  obtain ⟨sectionHeader, found, viewed⟩ := recorded table table_eq
  obtain ⟨typed, sliced⟩ := getSymbolTableOfSection_ok viewed
  rw [accepted.elfBytes_eq] at sliced
  obtain ⟨view, addr_eq, length_eq, -⟩ := sliceFromFileRange_isView sliced
  exact ⟨sectionHeader, table, found, typed, table_eq, view, addr_eq, length_eq⟩

/-- A file without program headers whose `SHT_DYNAMIC` section sets `DT_SYMTAB` to `0x2000`, the
address of an `SHT_DYNSYM` section holding one symbol at file offset 104. -/
def dynamicSymbolFile : List UInt8 :=
  (validFileHeader 64 0 128 4 1).write ++ List.replicate 8 0 ++
    (Elf64Dyn.write ⟨6, 0x2000⟩ ++ Elf64Dyn.write ⟨0, 0⟩) ++ List.replicate 24 0 ++
    (sectionHeaderOf 0 0 0 0 0).write ++ (sectionHeaderOf 0 3 0 64 1).write ++
    (sectionHeaderOf 0 6 0 72 32).write ++ (sectionHeaderOf 0 11 0x2000 104 24).write

set_option maxRecDepth 100000 in
theorem dynamicSymbolFile_dynamicSymbolTable :
    ∃ elf, parse ⟨0, dynamicSymbolFile⟩ = .ok elf ∧ elf.dynamicTable dtSymtab ≠ 0 ∧
      ∃ sectionHeader table,
        elf.sectionHeaderTable.items.find? (·.shAddr == elf.dynamicTable dtSymtab) =
            some sectionHeader ∧
          (sectionHeader.shType = shtSymtab ∨ sectionHeader.shType = shtDynsym) ∧
          elf.dynamicSymbolTable = some table ∧ table.IsView ⟨0, dynamicSymbolFile⟩ ∧
          table.addr = 0 + sectionHeader.shOffset.toNat ∧
          table.items.length * Pod.size Elf64Sym = sectionHeader.shSize.toNat :=
  ⟨_, rfl, by decide, parse_dynamicSymbolTable rfl (by decide)⟩

/-- `slice_from_bytes` accepts a range exactly when it holds whole records, lies inside the buffer
and starts at an address aligned for the record type, and it then views the records stored in
the range; a rejected range gets `InvalidSize`, `OutOfBounds` or `InvalidAlignment`, checked in
that order.  The header-scoped wrappers view exactly the header's file range, and every typed
table of a file parsed from the buffer is a view of whole, aligned records inside it. -/
theorem sliceFromBytes_views (T : Type) [Pod T] (bytes : Bytes) (range : Range) :
    ((∃ slice, sliceFromBytes T bytes range = .ok slice) ↔
        0 < Pod.size T ∧ Pod.size T ∣ range.len ∧ range.start ≤ range.stop ∧
          range.stop ≤ bytes.data.length ∧ Pod.align T ∣ bytes.addr + range.start) ∧
      (∀ slice, sliceFromBytes T bytes range = .ok slice →
        slice = ⟨bytes.addr + range.start,
          fromRawParts T ((bytes.data.drop range.start).take range.len)
            (range.len / Pod.size T)⟩ ∧
        slice.IsView bytes ∧ slice.items.length * Pod.size T = range.len) ∧
      (∀ error, sliceFromBytes T bytes range = .error error →
        error = if ¬ (0 < Pod.size T ∧ Pod.size T ∣ range.len) then .invalidSize
          else if ¬ (range.start ≤ range.stop ∧ range.stop ≤ bytes.data.length) then .outOfBounds
          else .invalidAlignment) ∧
      (∀ header slice, sliceFromProgramHeader T bytes header = .ok slice →
        slice.IsView bytes ∧ slice.addr = bytes.addr + header.pOffset.toNat ∧
          slice.items.length * Pod.size T = header.pFilesz.toNat ∧
          header.pOffset.toNat + header.pFilesz.toNat ≤ bytes.data.length) ∧
      (∀ header slice, sliceFromSectionHeader T bytes header = .ok slice →
        slice.IsView bytes ∧ slice.addr = bytes.addr + header.shOffset.toNat ∧
          slice.items.length * Pod.size T = header.shSize.toNat ∧
          header.shOffset.toNat + header.shSize.toNat ≤ bytes.data.length) ∧
      (∀ elf, parse bytes = .ok elf →
        elf.programHeaderTable.IsView bytes ∧ elf.sectionHeaderTable.IsView bytes ∧
          (∀ table, elf.dynamicRelocationsTable = some table → table.IsView bytes) ∧
          (∀ table, elf.dynamicSymbolTable = some table → table.IsView bytes) ∧
          (∀ table, elf.symbolTable = .ok (some table) → table.IsView bytes)) := by
  refine ⟨⟨fun ⟨_, sliced⟩ => ?_, fun accepted => ⟨_, sliceFromBytes_eq_ok.mpr
      ⟨accepted.1, accepted.2.1, accepted.2.2.1, accepted.2.2.2.1, accepted.2.2.2.2, rfl⟩⟩⟩,
    fun slice sliced => ⟨(sliceFromBytes_eq_ok.mp sliced).2.2.2.2.2,
      (sliceFromBytes_isView sliced).1, (sliceFromBytes_isView sliced).2.2⟩,
    fun _ => sliceFromBytes_eq_error, fun _ _ => sliceFromFileRange_isView,
    fun _ _ => sliceFromFileRange_isView, fun elf parsed => ?_⟩
  · obtain ⟨size_pos, divides, ordered, inside, aligned, -⟩ := sliceFromBytes_eq_ok.mp sliced
    exact ⟨size_pos, divides, ordered, inside, aligned⟩
  have accepted := parse_accepted parsed
  obtain ⟨-, -, -, relocations_ok, symbols_ok⟩ := accepted.dynamic_ok
  have bytes_eq := accepted.elfBytes_eq
  refine ⟨(sliceFromBytes_isView (parseProgramHeaderTable_eq_ok.mp
      accepted.programHeaderTable_ok).2.2.2).1,
    (sliceFromBytes_isView (parseSectionHeaderTable_eq_ok.mp
      accepted.sectionHeaderTable_ok).2.2.2.2).1, fun table recorded => ?_,
    fun table recorded => ?_, fun table viewed => ?_⟩
  · obtain ⟨-, -, offset, -, sliced⟩ :=
      (parseDynamicRelocations_ok relocations_ok).2 table recorded
    exact bytes_eq ▸ (sliceFromBytes_isView sliced).1
  · obtain ⟨sectionHeader, -, viewed⟩ := (parseDynamicSymbolTable_ok symbols_ok).2 table recorded
    exact bytes_eq ▸ getSymbolTableOfSection_isView viewed
  · obtain ⟨sectionHeader, -, viewed⟩ := symbolTable_ok viewed
    exact bytes_eq ▸ getSymbolTableOfSection_isView viewed

end Elf64

end Sbpf
