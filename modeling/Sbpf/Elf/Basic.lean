import Mathlib.Data.Vector.Defs
import Mathlib.Data.List.Basic
import Mathlib.Algebra.Group.Nat.Basic

/-!
# Byte slices, ranges and checked arithmetic

The vocabulary the ELF parser is written in: `ElfParserError`, half-open `Range<usize>`s, borrowed
byte slices `&[u8]` with the address of their first byte, the `ErrCheckedArithmetic` operations on
64-bit words, and little-endian field readers.  Every `usize` and `u64` is a natural number below
`2 ^ 64`; an arithmetic step that would leave that range is an `OutOfBounds` error, as the
`From<ArithmeticOverflow>` impl makes it in the source.
-/

namespace Sbpf

/-- Error definitions (`ElfParserError`). -/
inductive ElfParserError where
  /-- ELF file header is inconsistent or unsupported. -/
  | invalidFileHeader
  /-- Program header is inconsistent or unsupported. -/
  | invalidProgramHeader
  /-- Section header is inconsistent or unsupported. -/
  | invalidSectionHeader
  /-- Section or symbol name is not UTF8 or too long. -/
  | invalidString
  /-- Section or symbol name is too long: the unterminated bytes (which the source renders with
  `String::from_utf8_lossy`) and the maximum length. -/
  | stringTooLong (text : List UInt8) (maximum : Nat)
  /-- An index or memory range does exceed its boundaries. -/
  | outOfBounds
  /-- The size isn't valid. -/
  | invalidSize
  /-- Headers, tables or sections do overlap in the file. -/
  | overlap
  /-- Sections are not sorted in ascending order. -/
  | sectionNotInOrder
  /-- No section name string table present in the file. -/
  | noSectionNameStringTable
  /-- Invalid .dynamic section table. -/
  | invalidDynamicSectionTable
  /-- Invalid relocation table. -/
  | invalidRelocationTable
  /-- Invalid alignment. -/
  | invalidAlignment
  /-- No string table. -/
  | noStringTable
  /-- No dynamic string table. -/
  | noDynamicStringTable
deriving DecidableEq, Repr

/-- `Option::ok_or`. -/
def okOr {α : Type} (value : Option α) (error : ElfParserError) : Except ElfParserError α :=
  match value with
  | some value => .ok value
  | none => .error error

@[simp] theorem okOr_eq_ok {α : Type} {value : Option α} {error : ElfParserError} {result : α} :
    okOr value error = .ok result ↔ value = some result := by
  cases value <;> simp [okOr]

@[simp] theorem okOr_bind {α β : Type} {value : Option α} {error : ElfParserError}
    {next : α → Except ElfParserError β} :
    okOr value error >>= next = match value with
      | some value => next value
      | none => .error error := by
  cases value <;> rfl

/-- A successful bind in `Except` names the intermediate value. -/
theorem bind_eq_ok {α β : Type} {first : Except ElfParserError α}
    {next : α → Except ElfParserError β} {result : β} :
    first >>= next = .ok result ↔ ∃ value, first = .ok value ∧ next value = .ok result := by
  cases first <;> simp [bind, Except.bind]

/-! ## Checked arithmetic -/

/-- `err_checked_add` on `usize` or `u64`. -/
def errCheckedAdd (left right : Nat) : Except ElfParserError Nat :=
  if left + right < 2 ^ 64 then .ok (left + right) else .error .outOfBounds

/-- `err_checked_sub` on `u64`. -/
def errCheckedSub (left right : Nat) : Except ElfParserError Nat :=
  if right ≤ left then .ok (left - right) else .error .outOfBounds

/-- `err_checked_mul` on `usize`. -/
def errCheckedMul (left right : Nat) : Except ElfParserError Nat :=
  if left * right < 2 ^ 64 then .ok (left * right) else .error .outOfBounds

@[simp] theorem errCheckedAdd_eq_ok {left right result : Nat} :
    errCheckedAdd left right = .ok result ↔ left + right < 2 ^ 64 ∧ left + right = result := by
  unfold errCheckedAdd
  split <;> simp_all

@[simp] theorem errCheckedSub_eq_ok {left right result : Nat} :
    errCheckedSub left right = .ok result ↔ right ≤ left ∧ left - right = result := by
  unfold errCheckedSub
  split <;> simp_all

@[simp] theorem errCheckedMul_eq_ok {left right result : Nat} :
    errCheckedMul left right = .ok result ↔ left * right < 2 ^ 64 ∧ left * right = result := by
  unfold errCheckedMul
  split <;> simp_all

@[simp] theorem errCheckedAdd_bind {β : Type} {left right : Nat}
    {next : Nat → Except ElfParserError β} :
    errCheckedAdd left right >>= next =
      if left + right < 2 ^ 64 then next (left + right) else .error .outOfBounds := by
  unfold errCheckedAdd
  split <;> rfl

@[simp] theorem errCheckedSub_bind {β : Type} {left right : Nat}
    {next : Nat → Except ElfParserError β} :
    errCheckedSub left right >>= next =
      if right ≤ left then next (left - right) else .error .outOfBounds := by
  unfold errCheckedSub
  split <;> rfl

@[simp] theorem errCheckedMul_bind {β : Type} {left right : Nat}
    {next : Nat → Except ElfParserError β} :
    errCheckedMul left right >>= next =
      if left * right < 2 ^ 64 then next (left * right) else .error .outOfBounds := by
  unfold errCheckedMul
  split <;> rfl

/-- `saturating_add` on `usize` or `u64`. -/
def saturatingAdd (left right : Nat) : Nat := min (left + right) (2 ^ 64 - 1)

/-- `checked_rem`: `None` for a zero divisor. -/
def checkedRem (value divisor : Nat) : Option Nat :=
  if divisor = 0 then none else some (value % divisor)

/-- `value.checked_rem(divisor).map(|remainder| remainder != 0).unwrap_or(true)`, the test the
parser uses for both record sizes and alignments. -/
def remainderNonzero (value divisor : Nat) : Bool :=
  ((checkedRem value divisor).map (· != 0)).getD true

@[simp] theorem remainderNonzero_eq_false {value divisor : Nat} :
    remainderNonzero value divisor = false ↔ 0 < divisor ∧ divisor ∣ value := by
  unfold remainderNonzero checkedRem
  split <;> simp_all [Nat.pos_iff_ne_zero, Nat.dvd_iff_mod_eq_zero]

@[simp] theorem remainderNonzero_eq_true {value divisor : Nat} :
    remainderNonzero value divisor = true ↔ ¬ (0 < divisor ∧ divisor ∣ value) := by
  rw [← remainderNonzero_eq_false, Bool.not_eq_false]

/-! ## Ranges and byte slices -/

/-- A half-open `Range<usize>`, `start..end`. -/
structure Range where
  /-- First offset of the range. -/
  start : Nat
  /-- One past its last offset (`Range::end`). -/
  stop : Nat
deriving DecidableEq, Repr

namespace Range

/-- `Range::len`, zero for a reversed range. -/
def len (range : Range) : Nat := range.stop - range.start

/-- `Range::contains`. -/
def contains (range : Range) (value : Nat) : Prop := range.start ≤ value ∧ value < range.stop

instance (range : Range) (value : Nat) : Decidable (range.contains value) :=
  inferInstanceAs (Decidable (_ ∧ _))

/-- The offsets two ranges share. -/
def Disjoint (left right : Range) : Prop :=
  ∀ offset, ¬ (left.contains offset ∧ right.contains offset)

end Range

/-- A borrowed byte slice `&[u8]`: the address of its first byte and its contents. -/
structure Bytes where
  /-- `as_ptr() as usize`. -/
  addr : Nat
  /-- The bytes of the slice. -/
  data : List UInt8
deriving DecidableEq, Repr

namespace Bytes

/-- `<[u8]>::get(range)`: the sub-slice `self[range]` when the range lies inside the slice. -/
def get (self : Bytes) (range : Range) : Option Bytes :=
  if range.start ≤ range.stop ∧ range.stop ≤ self.data.length then
    some ⟨self.addr + range.start, (self.data.drop range.start).take range.len⟩
  else
    none

theorem get_eq_some {self : Bytes} {range : Range} {slice : Bytes} :
    self.get range = some slice ↔
      range.start ≤ range.stop ∧ range.stop ≤ self.data.length ∧
        slice = ⟨self.addr + range.start, (self.data.drop range.start).take range.len⟩ := by
  unfold get
  split <;> simp_all [eq_comm]

theorem get_length {self slice : Bytes} {range : Range} (sliced : self.get range = some slice) :
    slice.data.length = range.len := by
  obtain ⟨ordered, inside, rfl⟩ := get_eq_some.mp sliced
  simp only [List.length_take, List.length_drop, Range.len]
  omega

end Bytes

/-- `Iterator::position`: the index of the first element satisfying the predicate. -/
def position {α : Type} (predicate : α → Bool) : List α → Option Nat
  | [] => none
  | head :: tail => if predicate head then some 0 else (position predicate tail).map (· + 1)

/-! ## Little-endian fields -/

/-- The little-endian value of the first `width` bytes; missing bytes read as zero. -/
def readLE : List UInt8 → Nat → Nat
  | _, 0 => 0
  | [], _ + 1 => 0
  | byte :: rest, width + 1 => byte.toNat + 256 * readLE rest width

theorem readLE_lt (bytes : List UInt8) (width : Nat) : readLE bytes width < 256 ^ width := by
  induction width generalizing bytes with
  | zero => simp [readLE]
  | succ width induction =>
      cases bytes with
      | nil => simp [readLE, Nat.pos_pow_of_pos]
      | cons byte rest =>
          have byte_lt : byte.toNat < 256 := byte.toNat_lt_size
          have rest_lt := induction rest
          simp only [readLE, Nat.pow_succ]
          omega

theorem readLE_take (bytes : List UInt8) {width count : Nat} (enough : width ≤ count) :
    readLE (bytes.take count) width = readLE bytes width := by
  induction width generalizing bytes count with
  | zero => simp [readLE]
  | succ width induction =>
      obtain ⟨count, rfl⟩ : ∃ rest, count = rest + 1 := ⟨count - 1, by omega⟩
      cases bytes with
      | nil => simp [readLE]
      | cons byte rest => simp [readLE, induction rest (show width ≤ count by omega)]

/-- The `u8` at `offset`. -/
def readU8 (bytes : List UInt8) (offset : Nat) : UInt8 := (bytes.drop offset).headD 0

/-- The little-endian `u16` at `offset`. -/
def readU16 (bytes : List UInt8) (offset : Nat) : UInt16 :=
  UInt16.ofNat (readLE (bytes.drop offset) 2)

/-- The little-endian `u32` at `offset`. -/
def readU32 (bytes : List UInt8) (offset : Nat) : UInt32 :=
  UInt32.ofNat (readLE (bytes.drop offset) 4)

/-- The little-endian `u64` at `offset`. -/
def readU64 (bytes : List UInt8) (offset : Nat) : UInt64 :=
  UInt64.ofNat (readLE (bytes.drop offset) 8)

/-- The byte array `[u8; width]` at `offset`. -/
def readArray (width : Nat) (bytes : List UInt8) (offset : Nat) : Mathlib.Vector UInt8 width :=
  Mathlib.Vector.ofFn fun index => readU8 bytes (offset + index)

section Truncation

variable (bytes : List UInt8) {offset count : Nat}

theorem readU8_take (inside : offset + 1 ≤ count) :
    readU8 (bytes.take count) offset = readU8 bytes offset := by
  obtain ⟨rest, split⟩ : ∃ rest, count - offset = rest + 1 := ⟨count - offset - 1, by omega⟩
  simp only [readU8, List.drop_take, split]
  cases bytes.drop offset <;> rfl

theorem readLE_drop_take {width : Nat} (inside : offset + width ≤ count) :
    readLE ((bytes.take count).drop offset) width = readLE (bytes.drop offset) width := by
  rw [List.drop_take, readLE_take _ (by omega)]

theorem readU16_take (inside : offset + 2 ≤ count) :
    readU16 (bytes.take count) offset = readU16 bytes offset := by
  rw [readU16, readLE_drop_take bytes inside, readU16]

theorem readU32_take (inside : offset + 4 ≤ count) :
    readU32 (bytes.take count) offset = readU32 bytes offset := by
  rw [readU32, readLE_drop_take bytes inside, readU32]

theorem readU64_take (inside : offset + 8 ≤ count) :
    readU64 (bytes.take count) offset = readU64 bytes offset := by
  rw [readU64, readLE_drop_take bytes inside, readU64]

theorem readArray_take {width : Nat} (inside : offset + width ≤ count) :
    readArray width (bytes.take count) offset = readArray width bytes offset := by
  simp only [readArray]
  congr 1
  funext index
  exact readU8_take bytes (by omega)

end Truncation

end Sbpf
