import Sbpf.Elf.Encode
import Sbpf.Elf.Layout

/-!
# The dynamic table

`parse_dynamic` reads a dynamic array, folds it into the dense table indexed by tag, and resolves
the relocation and dynamic-symbol views through that table.  This file characterises the fold (the
value at each tag is the one the last entry with that tag sets before the first `DT_NULL`), the
virtual-address lookup of `program_header_for_vaddr`, and the two views, and then states what an
accepted file records.
-/

namespace Sbpf

namespace Elf64

/-! ## The fold -/

/-- The entries of a dynamic array that precede its first `DT_NULL`. -/
def entriesBeforeNull (entries : List Elf64Dyn) : List Elf64Dyn :=
  entries.takeWhile (·.dTag != dtNull)

/-- The value of the last entry with tag `tag` before the first `DT_NULL`, if there is one. -/
def lastValue (entries : List Elf64Dyn) (tag : Fin dtNum) : Option UInt64 :=
  ((entriesBeforeNull entries).filter (·.dTag.toNat == tag.val)).getLast?.map Elf64Dyn.dVal

@[simp] theorem lastValue_nil (tag : Fin dtNum) : lastValue [] tag = none := rfl

theorem lastValue_cons_null {entry : Elf64Dyn} (rest : List Elf64Dyn) (tag : Fin dtNum)
    (null : entry.dTag = dtNull) : lastValue (entry :: rest) tag = none := by
  simp [lastValue, entriesBeforeNull, null]

theorem lastValue_cons {entry : Elf64Dyn} (rest : List Elf64Dyn) (tag : Fin dtNum)
    (notNull : entry.dTag ≠ dtNull) :
    lastValue (entry :: rest) tag =
      if entry.dTag.toNat = tag.val then some ((lastValue rest tag).getD entry.dVal)
      else lastValue rest tag := by
  by_cases same : entry.dTag.toNat = tag.val
  · simp only [lastValue, entriesBeforeNull, List.takeWhile_cons, notNull, bne_iff_ne, ne_eq,
      not_false_eq_true, if_true, List.filter_cons, same, beq_self_eq_true, List.getLast?_cons]
    cases (List.filter _ _).getLast? <;> rfl
  · simp [lastValue, entriesBeforeNull, notNull, same]

/-- The table `parse_dynamic` expands holds at each tag the value of the last entry with that tag
before the first `DT_NULL`, and its initial value where there is none: entries after `DT_NULL`
and entries with a tag at or above `DT_NUM` have no effect. -/
theorem expandDynamicTable_apply (table : Fin dtNum → UInt64) (entries : List Elf64Dyn)
    (tag : Fin dtNum) :
    expandDynamicTable table entries tag = (lastValue entries tag).getD (table tag) := by
  induction entries generalizing table with
  | nil => rfl
  | cons entry rest induction =>
      by_cases null : entry.dTag = dtNull
      · simp [expandDynamicTable, null, lastValue_cons_null]
      rw [lastValue_cons rest tag null]
      by_cases inside : entry.dTag.toNat < dtNum
      · rw [expandDynamicTable, if_neg null, dif_pos inside, induction]
        by_cases same : entry.dTag.toNat = tag.val
        · have tag_eq : tag = ⟨entry.dTag.toNat, inside⟩ := Fin.ext same.symm
          subst tag_eq
          simp
        · have tag_ne : tag ≠ ⟨entry.dTag.toNat, inside⟩ := fun equal => same (by rw [equal])
          simp [same, tag_ne]
      · have same : entry.dTag.toNat ≠ tag.val := fun equal => inside (equal ▸ tag.isLt)
        rw [expandDynamicTable, if_neg null, dif_neg inside, induction, if_neg same]

/-! ## Virtual addresses -/

/-- Whether the virtual range `[p_vaddr, p_vaddr + p_memsz)` of a program header contains
`vaddr`, the sum taken without overflow. -/
def Elf64Phdr.coversVaddr (vaddr : UInt64) (header : Elf64Phdr) : Bool :=
  header.pVaddr.toNat ≤ vaddr.toNat && vaddr.toNat < header.pVaddr.toNat + header.pMemsz.toNat

/-- One step of `program_header_for_vaddr`: the header's sum `p_vaddr + p_memsz` fits, and the
function either returns the header, when its virtual range contains the address, or goes on with
the rest. -/
theorem programHeaderForVaddr_cons {vaddr : UInt64} {header : Elf64Phdr} {rest : List Elf64Phdr}
    {found : Option Elf64Phdr} (resolved : programHeaderForVaddr vaddr (header :: rest) = .ok found) :
    header.pVaddr.toNat + header.pMemsz.toNat < 2 ^ 64 ∧
      (Elf64Phdr.coversVaddr vaddr header = true ∧ found = some header ∨
        Elf64Phdr.coversVaddr vaddr header = false ∧ programHeaderForVaddr vaddr rest = .ok found) := by
  simp only [programHeaderForVaddr, errCheckedAdd_bind] at resolved
  split_ifs at resolved with fits covers
  · cases resolved
    exact ⟨fits, .inl ⟨by simpa [Elf64Phdr.coversVaddr] using covers, rfl⟩⟩
  · exact ⟨fits, .inr ⟨by simpa [Elf64Phdr.coversVaddr] using covers, resolved⟩⟩

/-- `program_header_for_vaddr` finds the first program header, whatever its type, whose virtual
range contains the address. -/
theorem programHeaderForVaddr_eq_ok {vaddr : UInt64} {headers : List Elf64Phdr}
    {found : Option Elf64Phdr} (resolved : programHeaderForVaddr vaddr headers = .ok found) :
    found = headers.find? (Elf64Phdr.coversVaddr vaddr) := by
  induction headers with
  | nil => cases resolved; rfl
  | cons header rest induction =>
      obtain ⟨-, ⟨hit, rfl⟩ | ⟨missed, next⟩⟩ := programHeaderForVaddr_cons resolved
      · rw [List.find?_cons, hit]
      · rw [List.find?_cons, missed, induction next]

/-- The program headers `program_header_for_vaddr` scans for `vaddr`: those before the first whose
virtual range contains it, and that one; all of them when none does. -/
def scannedHeaders (vaddr : UInt64) : List Elf64Phdr → List Elf64Phdr
  | [] => []
  | header :: rest =>
      if Elf64Phdr.coversVaddr vaddr header then [header] else header :: scannedHeaders vaddr rest

/-- `program_header_for_vaddr` computes `p_vaddr + p_memsz` with `err_checked_add` for every
header it scans, so when it returns, none of those sums reaches `2 ^ 64`. -/
theorem programHeaderForVaddr_scanned {vaddr : UInt64} {headers : List Elf64Phdr}
    {found : Option Elf64Phdr} (resolved : programHeaderForVaddr vaddr headers = .ok found) :
    ∀ header ∈ scannedHeaders vaddr headers, header.pVaddr.toNat + header.pMemsz.toNat < 2 ^ 64 := by
  induction headers with
  | nil => simp [scannedHeaders]
  | cons header rest induction =>
      obtain ⟨fits, ⟨hit, -⟩ | ⟨missed, next⟩⟩ := programHeaderForVaddr_cons resolved
      · simpa [scannedHeaders, hit] using fits
      · simp only [scannedHeaders, missed, Bool.false_eq_true, if_false, List.forall_mem_cons]
        exact ⟨fits, induction next⟩

/-- The file offset an address stands for: through the first program header, of any type, whose
virtual range contains it, and else the offset of the first section header at that address. -/
def vaddrFileOffset (vaddr : UInt64) (programHeaders : List Elf64Phdr)
    (sectionHeaders : List Elf64Shdr) : Option Nat :=
  match programHeaders.find? (Elf64Phdr.coversVaddr vaddr) with
  | some header => some (vaddr.toNat - header.pVaddr.toNat + header.pOffset.toNat)
  | none => (sectionHeaders.find? (·.shAddr == vaddr)).map (·.shOffset.toNat)

/-- The offset `parse_dynamic_relocations` computes is the one `vaddrFileOffset` describes. -/
theorem relocationsOffset_ok {self : Elf64} {vaddr : UInt64} {offset : Nat}
    (resolved : self.relocationsOffset vaddr = .ok offset) :
    vaddrFileOffset vaddr self.programHeaderTable.items self.sectionHeaderTable.items =
      some offset := by
  obtain ⟨found, lookup, resolved⟩ := bind_eq_ok.mp resolved
  rw [vaddrFileOffset, ← programHeaderForVaddr_eq_ok lookup]
  cases found with
  | some header =>
      obtain ⟨distance, subtracted, resolved⟩ := bind_eq_ok.mp resolved
      obtain ⟨-, rfl⟩ := errCheckedSub_eq_ok.mp subtracted
      obtain ⟨-, rfl⟩ := errCheckedAdd_eq_ok.mp resolved
      rfl
  | none =>
      obtain ⟨sectionHeader, found, resolved⟩ := bind_eq_ok.mp resolved
      cases resolved
      simp [okOr_eq_ok.mp found]

/-! ## The two views -/

/-- `parse_dynamic_relocations` records no table exactly when `DT_REL` is zero; a table it records
passed the `DT_RELENT` and `DT_RELSZ` checks and is the relocations at the offset `DT_REL`
resolves to. -/
theorem parseDynamicRelocations_ok {self : Elf64} {relocations : Option (Slice Elf64Rel)}
    (parsed : self.parseDynamicRelocations = .ok relocations) :
    (relocations = none ↔ self.dynamicTable dtRel = 0) ∧
      ∀ table, relocations = some table →
        (self.dynamicTable dtRelent).toNat = Pod.size Elf64Rel ∧
        0 < (self.dynamicTable dtRelsz).toNat ∧
        ∃ offset, vaddrFileOffset (self.dynamicTable dtRel) self.programHeaderTable.items
            self.sectionHeaderTable.items = some offset ∧
          sliceFromBytes Elf64Rel self.elfBytes
            ⟨offset, offset + (self.dynamicTable dtRelsz).toNat⟩ = .ok table := by
  unfold parseDynamicRelocations at parsed
  dsimp only at parsed
  split_ifs at parsed with zero relent empty
  · cases parsed
    simp [zero]
  obtain ⟨offset, resolved, parsed⟩ := bind_eq_ok.mp parsed
  obtain ⟨rangeEnd, added, parsed⟩ := bind_eq_ok.mp parsed
  obtain ⟨-, rfl⟩ := errCheckedAdd_eq_ok.mp added
  split at parsed
  · cases parsed
    refine ⟨by simp [zero], fun _ recorded => ?_⟩
    cases recorded
    exact ⟨by simpa using relent, Nat.pos_of_ne_zero empty, offset,
      relocationsOffset_ok resolved, by assumption⟩
  · cases parsed

/-- With a non-zero `DT_REL`, `parse_dynamic_relocations` succeeds only after
`program_header_for_vaddr` returned on `DT_REL`. -/
theorem parseDynamicRelocations_scanned {self : Elf64} {relocations : Option (Slice Elf64Rel)}
    (parsed : self.parseDynamicRelocations = .ok relocations)
    (relocated : self.dynamicTable dtRel ≠ 0) :
    ∃ found, programHeaderForVaddr (self.dynamicTable dtRel) self.programHeaderTable.items =
      .ok found := by
  unfold parseDynamicRelocations at parsed
  dsimp only at parsed
  split_ifs at parsed with zero
  · exact absurd zero relocated
  obtain ⟨offset, resolved, -⟩ := bind_eq_ok.mp parsed
  obtain ⟨found, lookup, -⟩ := bind_eq_ok.mp resolved
  exact ⟨found, lookup⟩

/-- `parse_dynamic_symbol_table` records no table exactly when `DT_SYMTAB` is zero; a table it
records is the symbol table of the first section header at the `DT_SYMTAB` address. -/
theorem parseDynamicSymbolTable_ok {self : Elf64} {symbols : Option (Slice Elf64Sym)}
    (parsed : self.parseDynamicSymbolTable = .ok symbols) :
    (symbols = none ↔ self.dynamicTable dtSymtab = 0) ∧
      ∀ table, symbols = some table →
        ∃ sectionHeader, self.sectionHeaderTable.items.find?
            (·.shAddr == self.dynamicTable dtSymtab) = some sectionHeader ∧
          self.getSymbolTableOfSection sectionHeader = .ok table := by
  unfold parseDynamicSymbolTable at parsed
  dsimp only at parsed
  split_ifs at parsed with zero
  · cases parsed
    simp [zero]
  obtain ⟨sectionHeader, found, parsed⟩ := bind_eq_ok.mp parsed
  cases viewed : self.getSymbolTableOfSection sectionHeader <;>
    simp only [viewed, Functor.map, Except.map, reduceCtorEq, Except.ok.injEq] at parsed
  subst parsed
  refine ⟨by simp [zero], fun _ recorded => ?_⟩
  cases recorded
  exact ⟨sectionHeader, okOr_eq_ok.mp found, viewed⟩

/-- The dynamic array `parse_dynamic` reads: the records of the first `PT_DYNAMIC` program header
when `slice_from_program_header` succeeds on it, else those of the first `SHT_DYNAMIC` section
header, else none. -/
theorem dynamicEntries_ok {self : Elf64} {entries : Option (Slice Elf64Dyn)}
    (found : self.dynamicEntries = .ok entries) :
    entries = ((self.programHeaderTable.items.find? (·.pType == ptDynamic)).bind fun header =>
        (sliceFromProgramHeader Elf64Dyn self.elfBytes header).toOption).or
      ((self.sectionHeaderTable.items.find? (·.shType == shtDynamic)).bind fun header =>
        (sliceFromSectionHeader Elf64Dyn self.elfBytes header).toOption) := by
  unfold dynamicEntries at found
  generalize (self.programHeaderTable.items.find? (·.pType == ptDynamic)).bind (fun header =>
    (sliceFromProgramHeader Elf64Dyn self.elfBytes header).toOption) = fromProgramHeader at found ⊢
  cases fromProgramHeader with
  | some table => cases found; rfl
  | none =>
      generalize self.sectionHeaderTable.items.find? (·.shType == shtDynamic) = sectionHeader
        at found ⊢
      cases sectionHeader with
      | none => cases found; rfl
      | some header =>
          cases sliced : sliceFromSectionHeader Elf64Dyn self.elfBytes header <;>
            simp only [sliced, reduceCtorEq, Except.ok.injEq] at found
          simp [← found, sliced, Except.toOption]

/-! ## What an accepted file records -/

/-- What `parse_dynamic` left in an accepted file: the dynamic array it read, the table expanded
from it, and the two views resolved through that table. -/
theorem Accepted.dynamic_ok {elfBytes : Bytes} {elf : Elf64} (accepted : Accepted elfBytes elf) :
    ∃ entries, elf.dynamicEntries = .ok entries ∧
      elf.dynamicTable = expandDynamicTable (fun _ => 0) ((entries.map Slice.items).getD []) ∧
      elf.parseDynamicRelocations = .ok elf.dynamicRelocationsTable ∧
      elf.parseDynamicSymbolTable = .ok elf.dynamicSymbolTable := by
  have parsed := accepted.parseDynamic_ok
  unfold parseDynamic at parsed
  obtain ⟨entries, found, parsed⟩ := bind_eq_ok.mp parsed
  refine ⟨entries, found, ?_⟩
  cases entries with
  | none =>
      rw [← Except.ok.inj parsed]
      exact ⟨rfl, rfl, rfl⟩
  | some table =>
      obtain ⟨relocations, relocations_ok, parsed⟩ := bind_eq_ok.mp parsed
      obtain ⟨symbols, symbols_ok, parsed⟩ := bind_eq_ok.mp parsed
      rw [← Except.ok.inj parsed]
      exact ⟨rfl, relocations_ok, symbols_ok⟩

/-- A file whose `DT_REL` address `0x1000` lies in the virtual range of a `PT_NOTE` segment at
file offset 120 and is the address of the `SHT_REL` section at file offset 192; it has no
`PT_LOAD` segment. -/
def noteFile : List UInt8 :=
  (validFileHeader 64 1 208 4 1).write ++
    ({ pType := 4, pFlags := 0, pOffset := 120, pVaddr := 0x1000, pPaddr := 0, pFilesz := 0
       pMemsz := 16, pAlign := 0 } : Elf64Phdr).write ++
    List.replicate 8 0 ++
    (Elf64Dyn.write ⟨17, 0x1000⟩ ++ Elf64Dyn.write ⟨18, 16⟩ ++ Elf64Dyn.write ⟨19, 16⟩ ++
      Elf64Dyn.write ⟨0, 0⟩) ++
    List.replicate 16 0 ++
    (sectionHeaderOf 0 0 0 0 0).write ++ (sectionHeaderOf 0 3 0 120 1).write ++
    (sectionHeaderOf 0 6 0 128 64).write ++ (sectionHeaderOf 0 9 0x1000 192 16).write

/-- On an accepted file the dynamic table holds, at each tag below `DT_NUM`, the value of the last
entry with that tag before the first `DT_NULL` of the dynamic array `parse` selected (the
`PT_DYNAMIC` records when they materialise, else the `SHT_DYNAMIC` ones, else none), and zero where
there is none; the relocation and dynamic-symbol views are absent exactly when `DT_REL` and
`DT_SYMTAB` are zero. -/
theorem parse_dynamicTable {elfBytes : Bytes} {elf : Elf64} (parsed : parse elfBytes = .ok elf) :
    ∃ entries : Option (Slice Elf64Dyn),
      entries = ((elf.programHeaderTable.items.find? (·.pType == ptDynamic)).bind fun header =>
          (sliceFromProgramHeader Elf64Dyn elfBytes header).toOption).or
        ((elf.sectionHeaderTable.items.find? (·.shType == shtDynamic)).bind fun header =>
          (sliceFromSectionHeader Elf64Dyn elfBytes header).toOption) ∧
      (∀ tag, elf.dynamicTable tag = (lastValue ((entries.map Slice.items).getD []) tag).getD 0) ∧
      (elf.dynamicRelocationsTable = none ↔ elf.dynamicTable dtRel = 0) ∧
      (elf.dynamicSymbolTable = none ↔ elf.dynamicTable dtSymtab = 0) := by
  have accepted := parse_accepted parsed
  obtain ⟨entries, found, table_eq, relocations_ok, symbols_ok⟩ := accepted.dynamic_ok
  refine ⟨entries, ?_, fun tag => by rw [table_eq, expandDynamicTable_apply],
    (parseDynamicRelocations_ok relocations_ok).1, (parseDynamicSymbolTable_ok symbols_ok).1⟩
  rw [← accepted.elfBytes_eq]
  exact dynamicEntries_ok found

set_option maxRecDepth 100000 in
theorem noteFile_dynamicTable :
    ∃ elf, parse ⟨0, noteFile⟩ = .ok elf ∧
      ∃ entries : Option (Slice Elf64Dyn),
        entries = ((elf.programHeaderTable.items.find? (·.pType == ptDynamic)).bind fun header =>
            (sliceFromProgramHeader Elf64Dyn ⟨0, noteFile⟩ header).toOption).or
          ((elf.sectionHeaderTable.items.find? (·.shType == shtDynamic)).bind fun header =>
            (sliceFromSectionHeader Elf64Dyn ⟨0, noteFile⟩ header).toOption) ∧
        (∀ tag, elf.dynamicTable tag = (lastValue ((entries.map Slice.items).getD []) tag).getD 0) ∧
        (elf.dynamicRelocationsTable = none ↔ elf.dynamicTable dtRel = 0) ∧
        (elf.dynamicSymbolTable = none ↔ elf.dynamicTable dtSymtab = 0) :=
  ⟨_, rfl, parse_dynamicTable rfl⟩

/-- On an accepted file with a non-zero `DT_REL`, `DT_RELENT` is the size of `Elf64Rel`, `DT_RELSZ`
is positive, and the relocation view is the `DT_RELSZ / size_of::<Elf64Rel>()` records stored from
the file offset `DT_REL` resolves to: through the first program header of any type whose virtual
range contains it, else through the first section header at that address. -/
theorem parse_dynamicRelocationsTable {elfBytes : Bytes} {elf : Elf64}
    (parsed : parse elfBytes = .ok elf) (relocated : elf.dynamicTable dtRel ≠ 0) :
    (elf.dynamicTable dtRelent).toNat = Pod.size Elf64Rel ∧ 0 < (elf.dynamicTable dtRelsz).toNat ∧
      ∃ offset table, vaddrFileOffset (elf.dynamicTable dtRel) elf.programHeaderTable.items
          elf.sectionHeaderTable.items = some offset ∧
        elf.dynamicRelocationsTable = some table ∧ table.IsView elfBytes ∧
        table.addr = elfBytes.addr + offset ∧
        table.items.length * Pod.size Elf64Rel = (elf.dynamicTable dtRelsz).toNat := by
  have accepted := parse_accepted parsed
  obtain ⟨-, -, -, relocations_ok, -⟩ := accepted.dynamic_ok
  obtain ⟨absent, recorded⟩ := parseDynamicRelocations_ok relocations_ok
  obtain ⟨table, table_eq⟩ := Option.ne_none_iff_exists'.mp (mt absent.mp relocated)
  obtain ⟨relent, sized, offset, offset_eq, sliced⟩ := recorded table table_eq
  rw [accepted.elfBytes_eq] at sliced
  obtain ⟨view, addr_eq, length_eq⟩ := sliceFromBytes_isView sliced
  exact ⟨relent, sized, offset, table, offset_eq, table_eq, view, addr_eq,
    by simpa [Range.len] using length_eq⟩

set_option maxRecDepth 100000 in
theorem noteFile_dynamicRelocationsTable :
    ∃ elf, parse ⟨0, noteFile⟩ = .ok elf ∧ elf.dynamicTable dtRel ≠ 0 ∧
      ((elf.dynamicTable dtRelent).toNat = Pod.size Elf64Rel ∧
        0 < (elf.dynamicTable dtRelsz).toNat ∧
        ∃ offset table, vaddrFileOffset (elf.dynamicTable dtRel) elf.programHeaderTable.items
            elf.sectionHeaderTable.items = some offset ∧
          elf.dynamicRelocationsTable = some table ∧ table.IsView ⟨0, noteFile⟩ ∧
          table.addr = 0 + offset ∧
          table.items.length * Pod.size Elf64Rel = (elf.dynamicTable dtRelsz).toNat) :=
  ⟨_, rfl, by decide, parse_dynamicRelocationsTable rfl (by decide)⟩

set_option maxRecDepth 100000 in
/-- On `noteFile`, `parse` resolves `DT_REL` through the `PT_NOTE` header to file offset 120,
although no `PT_LOAD` segment contains the address and the first section header at it has
offset 192. -/
theorem noteFile_relocations_through_note :
    ∃ elf, parse ⟨0, noteFile⟩ = .ok elf ∧ elf.dynamicTable dtRel = 0x1000 ∧
      loadSegments elf.programHeaderTable.items = [] ∧
      (elf.sectionHeaderTable.items.find? (·.shAddr == 0x1000)).map (·.shOffset) = some 192 ∧
      elf.dynamicRelocationsTable.map Slice.addr = some 120 :=
  ⟨_, rfl, by decide, by decide, by decide, by decide⟩

/-- On an accepted file `parse` checks a virtual-address sum only inside
`program_header_for_vaddr`: when `DT_REL` is non-zero, every program header that function scans
for it has `p_vaddr + p_memsz` below `2 ^ 64`, so its `vm_range()` is exactly `p_memsz` long.
No other `p_vaddr + p_memsz` and no `sh_addr + sh_size` is checked (`highAddressFile`). -/
theorem parse_vmRangeLengths {elfBytes : Bytes} {elf : Elf64} (parsed : parse elfBytes = .ok elf)
    (relocated : elf.dynamicTable dtRel ≠ 0) :
    ∀ header ∈ scannedHeaders (elf.dynamicTable dtRel) elf.programHeaderTable.items,
      header.pVaddr.toNat + header.pMemsz.toNat < 2 ^ 64 ∧
        header.vmRange.len = header.pMemsz.toNat := by
  obtain ⟨-, -, -, relocations_ok, -⟩ := (parse_accepted parsed).dynamic_ok
  obtain ⟨found, lookup⟩ := parseDynamicRelocations_scanned relocations_ok relocated
  intro header member
  have fits := programHeaderForVaddr_scanned lookup header member
  exact ⟨fits, by rw [Elf64Phdr.vmRange_len]; omega⟩

set_option maxRecDepth 100000 in
theorem noteFile_vmRangeLengths :
    ∃ elf, parse ⟨0, noteFile⟩ = .ok elf ∧ elf.dynamicTable dtRel ≠ 0 ∧
      scannedHeaders (elf.dynamicTable dtRel) elf.programHeaderTable.items ≠ [] ∧
      ∀ header ∈ scannedHeaders (elf.dynamicTable dtRel) elf.programHeaderTable.items,
        header.pVaddr.toNat + header.pMemsz.toNat < 2 ^ 64 ∧
          header.vmRange.len = header.pMemsz.toNat :=
  ⟨_, rfl, by decide, by decide, @parse_vmRangeLengths ⟨0, noteFile⟩ _ rfl (by decide)⟩

end Elf64

end Sbpf
