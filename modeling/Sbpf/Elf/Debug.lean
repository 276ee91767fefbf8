import Sbpf.Elf.Names

/-!
# When `Debug` panics

`<Elf64 as fmt::Debug>::fmt` unwraps the name of every section, the symbol table of a recorded
`.symtab`, and the name of every named symbol, each decoded as UTF-8.  This file says exactly when
none of those unwraps fails, and shows that `parse` does not guarantee it: it checks neither
UTF-8, nor the type of `.symtab`, nor the presence of `.strtab`, nor symbol names.
-/

namespace Sbpf

namespace Elf64

theorem bind_fromUtf8_eq_ok {name : Except ElfParserError Bytes} {result : Bytes} :
    (name >>= fromUtf8) = .ok result ↔ name = .ok result ∧ validUtf8 result.data := by
  cases name with
  | error _ => exact iff_of_false (fun failed => nomatch failed) (fun ⟨failed, _⟩ => nomatch failed)
  | ok name =>
      show fromUtf8 name = .ok result ↔ _
      unfold fromUtf8
      constructor
      · intro decoded
        split at decoded
        · cases decoded
          exact ⟨rfl, by assumption⟩
        · cases decoded
      · rintro ⟨found, valid⟩
        cases found
        simp [valid]

/-- The section lines of `fmt` are written exactly when every section name resolves to UTF-8. -/
theorem fmtSections_isSome (self : Elf64) (sectionHeaders : List Elf64Shdr) :
    (self.fmtSections sectionHeaders).isSome ↔ ∀ sectionHeader ∈ sectionHeaders,
      ∃ sectionName, self.sectionName sectionHeader.shName = .ok sectionName ∧
        validUtf8 sectionName.data := by
  induction sectionHeaders with
  | nil => simp [fmtSections]
  | cons sectionHeader rest induction =>
      rw [List.forall_mem_cons, ← induction]
      simp only [← bind_fromUtf8_eq_ok]
      cases recorded : self.sectionNamesSectionHeader with
      | none => simp [fmtSections, recorded, sectionName, lookupName, okOr, bind, Except.bind]
      | some names =>
          simp only [fmtSections, recorded, sectionName, lookupName, okOr_bind, Option.bind_eq_bind,
            Option.some_bind]
          cases (getStringInSection self.elfBytes names sectionHeader.shName
            sectionNameLengthMaximum >>= fromUtf8) <;>
            cases self.fmtSections rest <;> simp [Except.toOption]

/-- The symbol lines of `fmt` are written exactly when the name of every symbol with
`st_name ≠ 0` resolves to UTF-8. -/
theorem fmtSymbols_isSome (self : Elf64) (symbols : List Elf64Sym) :
    (self.fmtSymbols symbols).isSome ↔ ∀ symbol ∈ symbols, symbol.stName ≠ 0 →
      ∃ symbolName, self.symbolName symbol.stName = .ok symbolName ∧
        validUtf8 symbolName.data := by
  induction symbols with
  | nil => simp [fmtSymbols]
  | cons symbol rest induction =>
      rw [List.forall_mem_cons, ← induction]
      simp only [← bind_fromUtf8_eq_ok]
      by_cases unnamed : symbol.stName = 0
      · simp [fmtSymbols, unnamed]
      cases recorded : self.symbolNamesSectionHeader with
      | none => simp [fmtSymbols, unnamed, recorded, symbolName, lookupName, okOr, bind, Except.bind]
      | some names =>
          simp only [fmtSymbols, unnamed, recorded, symbolName, lookupName, okOr_bind,
            Option.bind_eq_bind, Option.some_bind, if_true, ne_eq, not_false_eq_true]
          cases (getStringInSection self.elfBytes names symbol.stName
            symbolNameLengthMaximum >>= fromUtf8) <;>
            cases self.fmtSymbols rest <;> simp [Except.toOption]

/-- `fmt` reaches none of its `unwrap` failures exactly when every section name resolves to
UTF-8 and, when a `.symtab` section is recorded, its symbol table materialises and the name of
every symbol with `st_name ≠ 0` resolves to UTF-8. -/
theorem fmt_isSome (self : Elf64) :
    self.fmt.isSome ↔
      (∀ sectionHeader ∈ self.sectionHeaderTable.items,
        ∃ sectionName, self.sectionName sectionHeader.shName = .ok sectionName ∧
          validUtf8 sectionName.data) ∧
      ∀ sectionHeader, self.symbolSectionHeader = some sectionHeader →
        ∃ symbolTable, self.getSymbolTableOfSection sectionHeader = .ok symbolTable ∧
          ∀ symbol ∈ symbolTable.items, symbol.stName ≠ 0 →
            ∃ symbolName, self.symbolName symbol.stName = .ok symbolName ∧
              validUtf8 symbolName.data := by
  rw [← fmtSections_isSome]
  unfold fmt
  cases self.fmtSections self.sectionHeaderTable.items with
  | none => simp
  | some sectionLines =>
      cases recorded : self.symbolSectionHeader with
      | none => simp
      | some sectionHeader =>
          cases viewed : self.getSymbolTableOfSection sectionHeader with
          | error _ => simp [viewed, Except.toOption]
          | ok symbolTable =>
              simp only [viewed, Except.toOption, Option.bind_eq_bind, Option.some_bind,
                ← fmtSymbols_isSome]
              cases lines : self.fmtSymbols symbolTable.items <;> simp [viewed, lines]

/-- On an accepted file the section-name table is recorded and every section name resolves, so
`fmt` reaches none of its `unwrap` failures exactly when every section name is UTF-8 and, when a
`.symtab` section is recorded, its symbol table materialises and the name of every symbol with
`st_name ≠ 0` resolves to UTF-8. -/
theorem parse_fmt {elfBytes : Bytes} {elf : Elf64} (parsed : parse elfBytes = .ok elf) :
    elf.sectionNamesSectionHeader.isSome ∧
      (∀ sectionHeader ∈ elf.sectionHeaderTable.items,
        ∃ sectionName, elf.sectionName sectionHeader.shName = .ok sectionName) ∧
      (elf.fmt.isSome ↔
        (∀ sectionHeader ∈ elf.sectionHeaderTable.items, ∀ sectionName,
          elf.sectionName sectionHeader.shName = .ok sectionName → validUtf8 sectionName.data) ∧
        ∀ sectionHeader, elf.symbolSectionHeader = some sectionHeader →
          ∃ symbolTable, elf.getSymbolTableOfSection sectionHeader = .ok symbolTable ∧
            ∀ symbol ∈ symbolTable.items, symbol.stName ≠ 0 →
              ∃ symbolName, elf.symbolName symbol.stName = .ok symbolName ∧
                validUtf8 symbolName.data) := by
  have accepted := parse_accepted parsed
  obtain ⟨sectionNames, names_eq, -⟩ := accepted.sectionNames_ok
  have resolved := accepted.sectionName_ok
  refine ⟨by simp [names_eq], resolved, ?_⟩
  rw [fmt_isSome]
  refine and_congr_left fun _ => ⟨fun decoded sectionHeader member sectionName found => ?_,
    fun decoded sectionHeader member => ?_⟩
  · obtain ⟨_, found', valid⟩ := decoded sectionHeader member
    rw [found', Except.ok.injEq] at found
    exact found ▸ valid
  · obtain ⟨sectionName, found⟩ := resolved sectionHeader member
    exact ⟨sectionName, found, decoded sectionHeader member sectionName found⟩

set_option maxRecDepth 100000 in
/-- On `namedFile` a `.symtab` section is recorded and its second symbol is named, so both halves
of the condition are at work, and `fmt` succeeds. -/
theorem namedFile_fmt :
    ∃ elf, parse ⟨0, namedFile⟩ = .ok elf ∧ elf.symbolSectionHeader.isSome ∧ elf.fmt.isSome ∧
      (elf.sectionNamesSectionHeader.isSome ∧
        (∀ sectionHeader ∈ elf.sectionHeaderTable.items,
          ∃ sectionName, elf.sectionName sectionHeader.shName = .ok sectionName) ∧
        (elf.fmt.isSome ↔
          (∀ sectionHeader ∈ elf.sectionHeaderTable.items, ∀ sectionName,
            elf.sectionName sectionHeader.shName = .ok sectionName → validUtf8 sectionName.data) ∧
          ∀ sectionHeader, elf.symbolSectionHeader = some sectionHeader →
            ∃ symbolTable, elf.getSymbolTableOfSection sectionHeader = .ok symbolTable ∧
              ∀ symbol ∈ symbolTable.items, symbol.stName ≠ 0 →
                ∃ symbolName, elf.symbolName symbol.stName = .ok symbolName ∧
                  validUtf8 symbolName.data)) :=
  ⟨_, rfl, by decide, by decide, @parse_fmt ⟨0, namedFile⟩ _ rfl⟩

/-- A file whose string table holds the name `[0xFF]`, which is not UTF-8, for its own section
header. -/
def badNameFile : List UInt8 :=
  (validFileHeader 64 0 72 2 1).write ++ [0, 0xFF, 0] ++ List.replicate 5 0 ++
    (sectionHeaderOf 0 0 0 0 0).write ++ (sectionHeaderOf 1 3 0 64 3).write

set_option maxRecDepth 100000 in
/-- `parse` accepts `badNameFile` and `section_name` returns the name `[0xFF]` of its second
section header, yet formatting the file panics at the `unwrap` of that name's UTF-8 decoding,
which maps it to the `InvalidString` error documented for names that are not UTF-8. -/
theorem badNameFile_fmt_panics :
    ∃ elf, parse ⟨0, badNameFile⟩ = .ok elf ∧
      (∃ sectionName, elf.sectionName 1 = .ok sectionName ∧ sectionName.data = [0xFF]) ∧
      elf.fmt.isSome = false :=
  ⟨_, rfl, ⟨_, rfl, rfl⟩, by decide⟩

end Elf64

end Sbpf
