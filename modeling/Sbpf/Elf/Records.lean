import Mathlib.Data.Vector.Basic
import Sbpf.Elf.Views

/-!
# Records written back

`slice_from_bytes` makes `&[T]` out of a range by a pointer cast, so a view is the bytes of its
range.  The model decodes the records instead, and this file shows that the decoding loses
nothing: every record type is `AsBytes`, its bytes decode to it, and the record decoded from any
`size` bytes writes back to those bytes.  Two results follow for the parser.  Every view of a
file `parse` accepts writes back to the bytes it stands over: the file header to the first 64
bytes, the header tables to `e_phnum` and `e_shnum` entries at `e_phoff` and `e_shoff`, and the
symbol and relocation tables to their ranges.  Conversely, a file laid out as its header followed
by its two header tables is read back, record for record, by the three header stages of `parse`.
-/

namespace Sbpf

/-! ## Little-endian fields -/

@[simp] theorem length_writeLE (width value : Nat) : (writeLE width value).length = width := by
  induction width generalizing value with
  | zero => rfl
  | succ width induction => simp [writeLE, induction]

theorem readLE_writeLE (width value : Nat) (rest : List UInt8) :
    readLE (writeLE width value ++ rest) width = value % 256 ^ width := by
  induction width generalizing value with
  | zero => simp [readLE, Nat.mod_one]
  | succ width induction =>
    have low : (UInt8.ofNat (value % 256)).toNat = value % 256 :=
      UInt8.toNat_ofNat_of_lt (Nat.mod_lt value (by decide))
    rw [writeLE, List.cons_append, readLE, induction, low, Nat.pow_succ', Nat.mod_mul]

theorem writeLE_readLE {width : Nat} {bytes : List UInt8} (enough : width ≤ bytes.length) :
    writeLE width (readLE bytes width) = bytes.take width := by
  induction width generalizing bytes with
  | zero => rfl
  | succ width induction =>
    obtain _ | ⟨byte, rest⟩ := bytes
    · simp at enough
    · have small : byte.toNat < 256 := byte.toNat_lt_size
      have low : (byte.toNat + 256 * readLE rest width) % 256 = byte.toNat := by omega
      have high : (byte.toNat + 256 * readLE rest width) / 256 = readLE rest width := by omega
      simp only [writeLE, readLE, List.take_succ_cons, low, high,
        induction (Nat.le_of_succ_le_succ enough), UInt8.toNat.inj (UInt8.toNat_ofNat_of_lt small)]

/-! ### Reading written fields

Each field of a record is read at its offset; the offset passes over the fields written before
it, and the field then reads back as the value written. -/

section Written

variable (rest : List UInt8)

theorem drop_append_of_length_le {pre : List UInt8} {offset : Nat} (past : pre.length ≤ offset) :
    (pre ++ rest).drop offset = rest.drop (offset - pre.length) := by
  rw [List.drop_append_eq_append_drop, List.drop_eq_nil_of_le past, List.nil_append]

theorem readU8_writeLE (value : UInt8) : (writeLE 1 value.toNat ++ rest).headD 0 = value := by
  have small : value.toNat < 256 := value.toNat_lt_size
  simp only [writeLE, List.cons_append, List.headD_cons, Nat.mod_eq_of_lt small]
  exact UInt8.toNat.inj (UInt8.toNat_ofNat_of_lt small)

theorem readU16_writeLE (value : UInt16) :
    UInt16.ofNat (readLE (writeLE 2 value.toNat ++ rest) 2) = value := by
  rw [readLE_writeLE, Nat.mod_eq_of_lt (show value.toNat < 256 ^ 2 from value.toNat_lt_size)]
  exact UInt16.toNat.inj (UInt16.toNat_ofNat_of_lt value.toNat_lt_size)

theorem readU32_writeLE (value : UInt32) :
    UInt32.ofNat (readLE (writeLE 4 value.toNat ++ rest) 4) = value := by
  rw [readLE_writeLE, Nat.mod_eq_of_lt (show value.toNat < 256 ^ 4 from value.toNat_lt_size)]
  exact UInt32.toNat.inj (UInt32.toNat_ofNat_of_lt value.toNat_lt_size)

theorem readU64_writeLE (value : UInt64) :
    UInt64.ofNat (readLE (writeLE 8 value.toNat ++ rest) 8) = value := by
  rw [readLE_writeLE, Nat.mod_eq_of_lt (show value.toNat < 256 ^ 8 from value.toNat_lt_size)]
  exact UInt64.toNat.inj (UInt64.toNat_ofNat_of_lt value.toNat_lt_size)

theorem readU8_eq_getElem {bytes : List UInt8} {offset : Nat} (inside : offset < bytes.length) :
    readU8 bytes offset = bytes[offset] := by
  rw [readU8, List.headD_eq_head?_getD, List.head?_drop, List.getElem?_eq_getElem inside,
    Option.getD_some]

theorem readArray_append {width : Nat} (array : Mathlib.Vector UInt8 width) :
    readArray width (array.toList ++ rest) 0 = array := by
  refine Mathlib.Vector.eq _ _ (List.ext_getElem (by simp) fun index _ inside => ?_)
  simp only [readArray, Mathlib.Vector.toList_ofFn, List.getElem_ofFn, Nat.zero_add]
  rw [readU8_eq_getElem (by rw [List.length_append]; omega), List.getElem_append_left inside]

theorem readArray_drop_append {width offset : Nat} {pre : List UInt8} (past : pre.length ≤ offset) :
    readArray width (pre ++ rest) offset = readArray width rest (offset - pre.length) := by
  simp only [readArray, readU8, ← List.drop_drop, drop_append_of_length_le rest past]

theorem readArray_cons {width offset : Nat} (byte : UInt8) :
    readArray width (byte :: rest) (offset + 1) = readArray width rest offset := by
  simp only [readArray, readU8, Nat.add_right_comm offset 1, List.drop_succ_cons]

end Written

/-! ### Writing read fields

A field read from a window of the buffer writes back to that window, and the windows of
consecutive fields join into the window of the record. -/

section Read

variable (bytes : List UInt8) (offset : Nat)

theorem toNat_readU8 : (readU8 bytes offset).toNat = readLE (bytes.drop offset) 1 := by
  rw [readU8]
  cases bytes.drop offset with
  | nil => rfl
  | cons byte rest => simp [readLE]

theorem toNat_readU16 : (readU16 bytes offset).toNat = readLE (bytes.drop offset) 2 :=
  UInt16.toNat_ofNat_of_lt (readLE_lt _ 2)

theorem toNat_readU32 : (readU32 bytes offset).toNat = readLE (bytes.drop offset) 4 :=
  UInt32.toNat_ofNat_of_lt (readLE_lt _ 4)

theorem toNat_readU64 : (readU64 bytes offset).toNat = readLE (bytes.drop offset) 8 :=
  UInt64.toNat_ofNat_of_lt (readLE_lt _ 8)

variable {bytes offset}

theorem writeLE_readLE_drop {width : Nat} (enough : offset + width ≤ bytes.length) :
    writeLE width (readLE (bytes.drop offset) width) = (bytes.drop offset).take width :=
  writeLE_readLE (by rw [List.length_drop]; omega)

theorem toList_readArray {width : Nat} (enough : offset + width ≤ bytes.length) :
    (readArray width bytes offset).toList = (bytes.drop offset).take width := by
  refine List.ext_getElem (by simp; omega) fun index inside _ => ?_
  simp only [readArray, Mathlib.Vector.toList_ofFn, List.getElem_ofFn]
  rw [readU8_eq_getElem (by simp at inside; omega)]
  simp

theorem take_drop_append {width offset' : Nat} (next : offset' = offset + width) (width' : Nat) :
    (bytes.drop offset).take width ++ (bytes.drop offset').take width' =
      (bytes.drop offset).take (width + width') := by
  rw [List.take_add, List.drop_drop, next, Nat.add_comm]

end Read

/-! ## Records -/

/-- A record that writes back as the bytes it is read from, the inverse of the cast of
`slice_from_bytes`: it writes `size` bytes, which decode to it, and the record decoded from any
`size` bytes writes back to them. -/
class AsBytes (T : Type) [Pod T] where
  /-- The bytes of a record, in the order of its layout. -/
  asBytes : T → List UInt8
  length_asBytes : ∀ record, (asBytes record).length = Pod.size T
  decode_asBytes : ∀ record rest, Pod.decode (asBytes record ++ rest) = record
  asBytes_decode : ∀ bytes, Pod.size T ≤ bytes.length →
    asBytes (Pod.decode bytes) = bytes.take (Pod.size T)

instance : AsBytes Elf64Ehdr where
  asBytes := Elf64Ehdr.write
  length_asBytes _ := by simp [Elf64Ehdr.write]; rfl
  decode_asBytes _ _ := by
    simp (disch := simp) only [Pod.decode, Elf64Ehdr.read, Elf64Ehdr.write, List.append_assoc,
      readU8, readU16, readU32, readU64, drop_append_of_length_le, readArray_drop_append,
      readArray_append, readArray_cons, List.drop_zero, List.nil_append, List.cons_append,
      List.drop_succ_cons, List.headD_cons, length_writeLE, Mathlib.Vector.toList_length,
      Nat.reduceSub, readU16_writeLE, readU32_writeLE, readU64_writeLE]
  asBytes_decode bytes enough := by
    simp only [Pod.decode, Elf64Ehdr.read, Elf64Ehdr.write]
    rw [show [readU8 bytes 4, readU8 bytes 5, readU8 bytes 6, readU8 bytes 7, readU8 bytes 8] =
      (readArray 5 bytes 4).toList from rfl]
    simp (disch := simp only [Pod.size] at enough; omega) only [toList_readArray, toNat_readU16,
      toNat_readU32, toNat_readU64, writeLE_readLE_drop, take_drop_append]
    rfl

instance : AsBytes Elf64Phdr where
  asBytes := Elf64Phdr.write
  length_asBytes _ := by simp [Elf64Phdr.write]; rfl
  decode_asBytes _ _ := by
    simp (disch := simp) only [Pod.decode, Elf64Phdr.read, Elf64Phdr.write, List.append_assoc,
      readU32, readU64, drop_append_of_length_le, List.drop_zero, length_writeLE, Nat.reduceSub,
      readU32_writeLE, readU64_writeLE]
  asBytes_decode bytes enough := by
    simp (disch := simp only [Pod.size] at enough; omega) only [Pod.decode, Elf64Phdr.read,
      Elf64Phdr.write, toNat_readU32, toNat_readU64, writeLE_readLE_drop, take_drop_append]
    rfl

instance : AsBytes Elf64Shdr where
  asBytes := Elf64Shdr.write
  length_asBytes _ := by simp [Elf64Shdr.write]; rfl
  decode_asBytes _ _ := by
    simp (disch := simp) only [Pod.decode, Elf64Shdr.read, Elf64Shdr.write, List.append_assoc,
      readU32, readU64, drop_append_of_length_le, List.drop_zero, length_writeLE, Nat.reduceSub,
      readU32_writeLE, readU64_writeLE]
  asBytes_decode bytes enough := by
    simp (disch := simp only [Pod.size] at enough; omega) only [Pod.decode, Elf64Shdr.read,
      Elf64Shdr.write, toNat_readU32, toNat_readU64, writeLE_readLE_drop, take_drop_append]
    rfl

instance : AsBytes Elf64Sym where
  asBytes := Elf64Sym.write
  length_asBytes _ := by simp [Elf64Sym.write]; rfl
  decode_asBytes _ _ := by
    simp (disch := simp) only [Pod.decode, Elf64Sym.read, Elf64Sym.write, List.append_assoc,
      readU8, readU16, readU32, readU64, drop_append_of_length_le, List.drop_zero, length_writeLE,
      Nat.reduceSub, readU8_writeLE, readU16_writeLE, readU32_writeLE, readU64_writeLE]
  asBytes_decode bytes enough := by
    simp (disch := simp only [Pod.size] at enough; omega) only [Pod.decode, Elf64Sym.read,
      Elf64Sym.write, toNat_readU8, toNat_readU16, toNat_readU32, toNat_readU64,
      writeLE_readLE_drop, take_drop_append]
    rfl

instance : AsBytes Elf64Rel where
  asBytes := Elf64Rel.write
  length_asBytes _ := by simp [Elf64Rel.write]; rfl
  decode_asBytes _ _ := by
    simp (disch := simp) only [Pod.decode, Elf64Rel.read, Elf64Rel.write, List.append_assoc,
      readU64, drop_append_of_length_le, List.drop_zero, length_writeLE, Nat.reduceSub,
      readU64_writeLE]
  asBytes_decode bytes enough := by
    simp (disch := simp only [Pod.size] at enough; omega) only [Pod.decode, Elf64Rel.read,
      Elf64Rel.write, toNat_readU64, writeLE_readLE_drop, take_drop_append]
    rfl

instance : AsBytes Elf64Dyn where
  asBytes := Elf64Dyn.write
  length_asBytes _ := by simp [Elf64Dyn.write]; rfl
  decode_asBytes _ _ := by
    simp (disch := simp) only [Pod.decode, Elf64Dyn.read, Elf64Dyn.write, List.append_assoc,
      readU64, drop_append_of_length_le, List.drop_zero, length_writeLE, Nat.reduceSub,
      readU64_writeLE]
  asBytes_decode bytes enough := by
    simp (disch := simp only [Pod.size] at enough; omega) only [Pod.decode, Elf64Dyn.read,
      Elf64Dyn.write, toNat_readU64, writeLE_readLE_drop, take_drop_append]
    rfl

/-! ## Tables -/

section Tables

variable {T : Type} [Pod T] [AsBytes T]

theorem length_flatMap_asBytes (records : List T) :
    (records.flatMap AsBytes.asBytes).length = records.length * Pod.size T := by
  induction records with
  | nil => simp
  | cons record records induction =>
    rw [List.flatMap_cons, List.length_append, AsBytes.length_asBytes, induction, List.length_cons,
      Nat.succ_mul, Nat.add_comm]

/-- Records written one after the other are read back by `from_raw_parts`, whatever follows. -/
theorem fromRawParts_flatMap (records : List T) (rest : List UInt8) :
    fromRawParts T (records.flatMap AsBytes.asBytes ++ rest) records.length = records := by
  induction records with
  | nil => rfl
  | cons record records induction =>
    rw [List.flatMap_cons, List.append_assoc, List.length_cons, fromRawParts,
      AsBytes.decode_asBytes, ← AsBytes.length_asBytes record, List.drop_left, induction]

/-- The records `from_raw_parts` views in a window write back to the window. -/
theorem flatMap_fromRawParts (bytes : List UInt8) {count : Nat}
    (enough : count * Pod.size T ≤ bytes.length) :
    (fromRawParts T bytes count).flatMap AsBytes.asBytes = bytes.take (count * Pod.size T) := by
  induction count generalizing bytes with
  | zero => simp [fromRawParts]
  | succ count induction =>
    rw [Nat.succ_mul] at enough
    rw [fromRawParts, List.flatMap_cons, AsBytes.asBytes_decode _ (by omega),
      induction _ (by rw [List.length_drop]; omega), Nat.succ_mul, Nat.add_comm, List.take_add]

/-- A view `slice_from_bytes` accepts writes back to the range it was cut from. -/
theorem sliceFromBytes_asBytes {bytes : Bytes} {range : Range} {slice : Slice T}
    (sliced : sliceFromBytes T bytes range = .ok slice) :
    slice.items.flatMap AsBytes.asBytes = (bytes.data.drop range.start).take range.len := by
  obtain ⟨-, divides, -, inside, -, rfl⟩ := sliceFromBytes_eq_ok.mp sliced
  have window : ((bytes.data.drop range.start).take range.len).length = range.len := by
    simp only [List.length_take, List.length_drop, Range.len]
    omega
  rw [flatMap_fromRawParts _ (by rw [window]; exact Nat.div_mul_le_self _ _),
    Nat.div_mul_cancel divides, List.take_take, min_self]

/-- The bytes of the buffer a view stands over: as many records' worth as it holds, from its
address on. -/
def Slice.bytesAt (slice : Slice T) (bytes : Bytes) : List UInt8 :=
  (bytes.data.drop (slice.addr - bytes.addr)).take (slice.items.length * Pod.size T)

theorem sliceFromBytes_bytesAt {bytes : Bytes} {range : Range} {slice : Slice T}
    (sliced : sliceFromBytes T bytes range = .ok slice) :
    slice.items.flatMap AsBytes.asBytes = slice.bytesAt bytes := by
  obtain ⟨-, addr_eq, length_eq⟩ := sliceFromBytes_isView sliced
  rw [sliceFromBytes_asBytes sliced, Slice.bytesAt, addr_eq, length_eq, Nat.add_sub_cancel_left]

/-- Records written at a position of the buffer aligned for them are the view `slice_from_bytes`
cuts there. -/
theorem sliceFromBytes_written (addr : Nat) (pre : List UInt8) (records : List T)
    (rest : List UInt8) (size_pos : 0 < Pod.size T) (aligned : Pod.align T ∣ addr + pre.length) :
    sliceFromBytes T ⟨addr, pre ++ records.flatMap AsBytes.asBytes ++ rest⟩
        ⟨pre.length, pre.length + records.length * Pod.size T⟩ =
      .ok ⟨addr + pre.length, records⟩ := by
  have written := length_flatMap_asBytes records
  have len : Range.len ⟨pre.length, pre.length + records.length * Pod.size T⟩ =
      records.length * Pod.size T := by
    simp only [Range.len, Nat.add_sub_cancel_left]
  refine sliceFromBytes_eq_ok.mpr
    ⟨size_pos, by rw [len]; exact Dvd.intro_left _ rfl, by simp, ?_, aligned, ?_⟩
  · simp only [List.length_append, written]
    omega
  · have read := fromRawParts_flatMap records []
    rw [List.append_nil] at read
    rw [len, List.append_assoc, List.drop_left, ← written, List.take_left, written,
      Nat.mul_div_cancel _ size_pos, read]

end Tables

/-! ## Parsed files write back -/

namespace Elf64

/-- Every view of a file `parse` accepts writes back to the bytes it stands over: the file header
to the first 64 bytes of the buffer, the program-header and section-header tables to `e_phnum`
and `e_shnum` entries at `e_phoff` and `e_shoff`, and the `.symtab` symbols, the dynamic
relocations and the dynamic symbols, where the file has them, to the ranges they view. -/
theorem parse_writesBack {bytes : Bytes} {elf : Elf64} (parsed : parse bytes = .ok elf) :
    AsBytes.asBytes elf.fileHeader = bytes.data.take (Pod.size Elf64Ehdr) ∧
      elf.programHeaderTable.items.flatMap AsBytes.asBytes =
        (bytes.data.drop elf.fileHeader.ePhoff.toNat).take
          (elf.fileHeader.ePhnum.toNat * Pod.size Elf64Phdr) ∧
      elf.sectionHeaderTable.items.flatMap AsBytes.asBytes =
        (bytes.data.drop elf.fileHeader.eShoff.toNat).take
          (elf.fileHeader.eShnum.toNat * Pod.size Elf64Shdr) ∧
      (∀ table, elf.symbolTable = .ok (some table) →
        table.items.flatMap AsBytes.asBytes = table.bytesAt bytes) ∧
      (∀ table, elf.dynamicRelocationsTable = some table →
        table.items.flatMap AsBytes.asBytes = table.bytesAt bytes) ∧
      (∀ table, elf.dynamicSymbolTable = some table →
        table.items.flatMap AsBytes.asBytes = table.bytesAt bytes) := by
  have accepted := parse_accepted parsed
  obtain ⟨-, -, -, relocations_ok, symbols_ok⟩ := accepted.dynamic_ok
  have bytes_eq := accepted.elfBytes_eq
  obtain ⟨inside, -, header⟩ := parseFileHeader_eq_ok.mp accepted.fileHeader_ok
  have programHeaders := (parseProgramHeaderTable_eq_ok.mp accepted.programHeaderTable_ok).2.2.2
  have sectionHeaders :=
    (parseSectionHeaderTable_eq_ok.mp accepted.sectionHeaderTable_ok).2.2.2.2
  have sectionSymbols {table : Slice Elf64Sym} {sectionHeader : Elf64Shdr}
      (viewed : elf.getSymbolTableOfSection sectionHeader = .ok table) :
      table.items.flatMap AsBytes.asBytes = table.bytesAt bytes :=
    bytes_eq ▸ sliceFromBytes_bytesAt (sliceFromFileRange_eq_ok.mp
      (getSymbolTableOfSection_ok viewed).2).2
  refine ⟨?_, ?_, ?_, fun table viewed => ?_, fun table recorded => ?_, fun table recorded => ?_⟩
  · rw [(Prod.mk.inj header).2, AsBytes.asBytes_decode _ (by simpa using inside), List.take_take,
      min_self]
  · rw [sliceFromBytes_asBytes programHeaders, Elf64Ehdr.programHeaderTableRange, Range.len,
      Nat.add_sub_cancel, Nat.mul_comm]
  · rw [sliceFromBytes_asBytes sectionHeaders, Elf64Ehdr.sectionHeaderTableRange, Range.len,
      Nat.add_sub_cancel, Nat.mul_comm]
  · obtain ⟨sectionHeader, -, viewed⟩ := symbolTable_ok viewed
    exact sectionSymbols viewed
  · obtain ⟨-, -, offset, -, sliced⟩ := (parseDynamicRelocations_ok relocations_ok).2 table recorded
    exact bytes_eq ▸ sliceFromBytes_bytesAt sliced
  · obtain ⟨sectionHeader, -, viewed⟩ := (parseDynamicSymbolTable_ok symbols_ok).2 table recorded
    exact sectionSymbols viewed

set_option maxRecDepth 4000 in
theorem noteFile_writesBack :
    ∃ elf, parse ⟨0, noteFile⟩ = .ok elf ∧
      (AsBytes.asBytes elf.fileHeader = noteFile.take (Pod.size Elf64Ehdr) ∧
        elf.programHeaderTable.items.flatMap AsBytes.asBytes =
          (noteFile.drop elf.fileHeader.ePhoff.toNat).take
            (elf.fileHeader.ePhnum.toNat * Pod.size Elf64Phdr) ∧
        elf.sectionHeaderTable.items.flatMap AsBytes.asBytes =
          (noteFile.drop elf.fileHeader.eShoff.toNat).take
            (elf.fileHeader.eShnum.toNat * Pod.size Elf64Shdr) ∧
        (∀ table, elf.symbolTable = .ok (some table) →
          table.items.flatMap AsBytes.asBytes = table.bytesAt ⟨0, noteFile⟩) ∧
        (∀ table, elf.dynamicRelocationsTable = some table →
          table.items.flatMap AsBytes.asBytes = table.bytesAt ⟨0, noteFile⟩) ∧
        (∀ table, elf.dynamicSymbolTable = some table →
          table.items.flatMap AsBytes.asBytes = table.bytesAt ⟨0, noteFile⟩)) :=
  ⟨_, rfl, @parse_writesBack ⟨0, noteFile⟩ _ (by rfl)⟩

/-! ## Laid-out files read back -/

/-- A file laid out as its header, then its program-header table, then its section-header table,
then any other bytes. -/
def layout (fileHeader : Elf64Ehdr) (programHeaders : List Elf64Phdr)
    (sectionHeaders : List Elf64Shdr) (rest : List UInt8) : List UInt8 :=
  AsBytes.asBytes fileHeader ++ programHeaders.flatMap AsBytes.asBytes ++
    sectionHeaders.flatMap AsBytes.asBytes ++ rest

/-- The three header stages of `parse` read back every file laid out as its header followed by its
two header tables, at an address aligned for the header, whose header places the tables there:
they return the header, the program headers at `e_phoff` and the section headers at `e_shoff`,
each exactly as written. -/
theorem headerStages_layout {addr : Nat} (aligned : Pod.align Elf64Ehdr ∣ addr)
    {fileHeader : Elf64Ehdr} {programHeaders : List Elf64Phdr} {sectionHeaders : List Elf64Shdr}
    (rest : List UInt8) (phoff : fileHeader.ePhoff.toNat = Pod.size Elf64Ehdr)
    (phnum : fileHeader.ePhnum.toNat = programHeaders.length)
    (shoff : fileHeader.eShoff.toNat =
      Pod.size Elf64Ehdr + programHeaders.length * Pod.size Elf64Phdr)
    (shnum : fileHeader.eShnum.toNat = sectionHeaders.length) :
    parseFileHeader ⟨addr, layout fileHeader programHeaders sectionHeaders rest⟩ =
        .ok (fileHeaderRange, fileHeader) ∧
      parseProgramHeaderTable ⟨addr, layout fileHeader programHeaders sectionHeaders rest⟩
          fileHeaderRange fileHeader =
        .ok (fileHeader.programHeaderTableRange,
          ⟨addr + fileHeader.ePhoff.toNat, programHeaders⟩) ∧
      parseSectionHeaderTable ⟨addr, layout fileHeader programHeaders sectionHeaders rest⟩
          fileHeaderRange fileHeader fileHeader.programHeaderTableRange =
        .ok (fileHeader.sectionHeaderTableRange,
          ⟨addr + fileHeader.eShoff.toNat, sectionHeaders⟩) := by
  have header := AsBytes.length_asBytes fileHeader
  have programBytes := length_flatMap_asBytes programHeaders
  have sectionBytes := length_flatMap_asBytes sectionHeaders
  have programCount : fileHeader.ePhnum.toNat < 2 ^ 16 := fileHeader.ePhnum.toNat_lt_size
  have sectionCount : fileHeader.eShnum.toNat < 2 ^ 16 := fileHeader.eShnum.toNat_lt_size
  have aligned : 8 ∣ addr := aligned
  simp only [Pod.size] at header programBytes sectionBytes phoff shoff
  have programTable := sliceFromBytes_written addr (AsBytes.asBytes fileHeader) programHeaders
    (sectionHeaders.flatMap AsBytes.asBytes ++ rest) (by decide)
    (show 8 ∣ _ by rw [header]; omega)
  have sectionTable := sliceFromBytes_written addr
    (AsBytes.asBytes fileHeader ++ programHeaders.flatMap AsBytes.asBytes) sectionHeaders rest
    (by decide) (show 8 ∣ _ by rw [List.length_append, header, programBytes]; omega)
  have bytes : layout fileHeader programHeaders sectionHeaders rest =
      AsBytes.asBytes fileHeader ++ (programHeaders.flatMap AsBytes.asBytes ++
        (sectionHeaders.flatMap AsBytes.asBytes ++ rest)) := by
    simp only [layout, List.append_assoc]
  simp only [List.append_assoc, ← bytes, header, programBytes, List.length_append]
    at programTable sectionTable
  have programRange : fileHeader.programHeaderTableRange =
      ⟨64, 64 + programHeaders.length * Pod.size Elf64Phdr⟩ := by
    simp only [Elf64Ehdr.programHeaderTableRange, phoff, phnum, Pod.size, Range.mk.injEq, true_and]
    omega
  have sectionRange : fileHeader.sectionHeaderTableRange =
      ⟨64 + programHeaders.length * 56, 64 + programHeaders.length * 56 +
        sectionHeaders.length * Pod.size Elf64Shdr⟩ := by
    simp only [Elf64Ehdr.sectionHeaderTableRange, shoff, shnum, Pod.size, Range.mk.injEq, true_and]
    omega
  refine ⟨parseFileHeader_eq_ok.mpr ⟨?_, aligned, ?_⟩,
    parseProgramHeaderTable_eq_ok.mpr ⟨rfl, ?_, ?_, ?_⟩,
    parseSectionHeaderTable_eq_ok.mpr ⟨rfl, ?_, ?_, ?_, ?_⟩⟩
  · simp only [bytes, List.length_append, header, Pod.size]
    omega
  · rw [Pod.decode_take, bytes, AsBytes.decode_asBytes]
  · simp only [programRange, Pod.size]
    omega
  · exact .inl (by rw [programRange]; exact le_refl _)
  · rw [programRange, phoff]
    exact programTable
  · simp only [sectionRange, Pod.size]
    omega
  · exact .inl (by rw [sectionRange]; exact Nat.le_add_right _ _)
  · exact .inl (by simp only [programRange, sectionRange, Pod.size]; omega)
  · rw [sectionRange, shoff]
    exact sectionTable

/-- The header of a file with one program header and two section headers, laid out after it. -/
def laidOutHeader : Elf64Ehdr := validFileHeader 64 1 120 2 1

/-- One `PT_LOAD` segment over the last byte of the file. -/
def laidOutProgramHeaders : List Elf64Phdr :=
  [{ pType := ptLoad, pFlags := 5, pOffset := 248, pVaddr := 0, pPaddr := 0, pFilesz := 1
     pMemsz := 1, pAlign := 8 }]

/-- The null section and a section-name table of one byte. -/
def laidOutSectionHeaders : List Elf64Shdr :=
  [sectionHeaderOf 0 0 0 0 0, sectionHeaderOf 0 3 0 248 1]

theorem laidOut_headerStages :
    (Pod.align Elf64Ehdr ∣ 0 ∧ laidOutHeader.ePhoff.toNat = Pod.size Elf64Ehdr ∧
      laidOutHeader.ePhnum.toNat = laidOutProgramHeaders.length ∧
      laidOutHeader.eShoff.toNat =
        Pod.size Elf64Ehdr + laidOutProgramHeaders.length * Pod.size Elf64Phdr ∧
      laidOutHeader.eShnum.toNat = laidOutSectionHeaders.length) ∧
    parseFileHeader ⟨0, layout laidOutHeader laidOutProgramHeaders laidOutSectionHeaders [0]⟩ =
        .ok (fileHeaderRange, laidOutHeader) ∧
      parseProgramHeaderTable
          ⟨0, layout laidOutHeader laidOutProgramHeaders laidOutSectionHeaders [0]⟩
          fileHeaderRange laidOutHeader =
        .ok (laidOutHeader.programHeaderTableRange,
          ⟨0 + laidOutHeader.ePhoff.toNat, laidOutProgramHeaders⟩) ∧
      parseSectionHeaderTable
          ⟨0, layout laidOutHeader laidOutProgramHeaders laidOutSectionHeaders [0]⟩
          fileHeaderRange laidOutHeader laidOutHeader.programHeaderTableRange =
        .ok (laidOutHeader.sectionHeaderTableRange,
          ⟨0 + laidOutHeader.eShoff.toNat, laidOutSectionHeaders⟩) :=
  ⟨⟨by decide, rfl, rfl, rfl, rfl⟩, headerStages_layout (by decide) [0] rfl rfl rfl rfl⟩

end Elf64

end Sbpf
