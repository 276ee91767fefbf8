import Sbpf.Elf.Types

/-!
# Typed views of the byte buffer

`slice_from_bytes` is the one place where raw bytes become `&[T]`: it checks that the range holds
whole records, lies inside the buffer and starts at an address aligned for `T`, in that order.
This file models it together with the two header-scoped wrappers and proves its
characterisation: which ranges it accepts, which error each rejected range gets, and that an
accepted view holds exactly the records stored in the range.
-/

namespace Sbpf

variable {T : Type} [Pod T]

/-- A typed slice `&[T]` borrowed from a byte buffer: the address of its first record and the
records it views. -/
structure Slice (T : Type) where
  /-- `as_ptr() as usize`. -/
  addr : Nat
  /-- The records of the slice. -/
  items : List T

/-- `slice::from_raw_parts(ptr.cast(), count)`: `count` records laid end to end. -/
def fromRawParts (T : Type) [Pod T] (bytes : List UInt8) : Nat → List T
  | 0 => []
  | count + 1 => Pod.decode bytes :: fromRawParts T (bytes.drop (Pod.size T)) count

/-- `checked_div`: `None` for a zero divisor. -/
def checkedDiv (value divisor : Nat) : Option Nat :=
  if divisor = 0 then none else some (value / divisor)

/-- `Elf64::slice_from_bytes`: the `&[T]` contained at `bytes[range]`. -/
def sliceFromBytes (T : Type) [Pod T] (bytes : Bytes) (range : Range) :
    Except ElfParserError (Slice T) :=
  if remainderNonzero range.len (Pod.size T) then .error .invalidSize
  else
    match bytes.get range with
    | none => .error .outOfBounds
    | some bytes =>
        if remainderNonzero bytes.addr (Pod.align T) then .error .invalidAlignment
        else .ok ⟨bytes.addr, fromRawParts T bytes.data ((checkedDiv range.len (Pod.size T)).getD 0)⟩

/-- The `&[T]` stored at `offset..offset + size`, the end computed with `err_checked_add`: the
common body of `slice_from_program_header` and `slice_from_section_header`. -/
def sliceFromFileRange (T : Type) [Pod T] (bytes : Bytes) (offset size : Nat) :
    Except ElfParserError (Slice T) := do
  let rangeEnd ← errCheckedAdd offset size
  sliceFromBytes T bytes ⟨offset, rangeEnd⟩

/-- `Elf64::slice_from_program_header`. -/
def sliceFromProgramHeader (T : Type) [Pod T] (bytes : Bytes) (programHeader : Elf64Phdr) :
    Except ElfParserError (Slice T) :=
  sliceFromFileRange T bytes programHeader.pOffset.toNat programHeader.pFilesz.toNat

/-- `Elf64::slice_from_section_header`. -/
def sliceFromSectionHeader (T : Type) [Pod T] (bytes : Bytes) (sectionHeader : Elf64Shdr) :
    Except ElfParserError (Slice T) :=
  sliceFromFileRange T bytes sectionHeader.shOffset.toNat sectionHeader.shSize.toNat

/-- A view of whole records of `T` lying inside `bytes`, starting at an address aligned for `T`,
whose records are those stored at their positions in the buffer. -/
structure Slice.IsView (bytes : Bytes) (slice : Slice T) : Prop where
  start_le : bytes.addr ≤ slice.addr
  end_le : slice.addr + slice.items.length * Pod.size T ≤ bytes.addr + bytes.data.length
  aligned : Pod.align T ∣ slice.addr
  items_eq : ∀ index (inside : index < slice.items.length),
    slice.items[index] = Pod.decode (bytes.data.drop (slice.addr - bytes.addr + index * Pod.size T))

/-! ## Records laid end to end -/

theorem Pod.decode_take_of_le (bytes : List UInt8) {count : Nat} (enough : Pod.size T ≤ count) :
    (Pod.decode (bytes.take count) : T) = Pod.decode bytes := by
  rw [← Pod.decode_take (bytes.take count), List.take_take, Nat.min_eq_left enough,
    Pod.decode_take]

@[simp] theorem length_fromRawParts (bytes : List UInt8) (count : Nat) :
    (fromRawParts T bytes count).length = count := by
  induction count generalizing bytes with
  | zero => rfl
  | succ count induction => simp [fromRawParts, induction]

theorem getElem_fromRawParts (bytes : List UInt8) {count index : Nat}
    (inside : index < (fromRawParts T bytes count).length) :
    (fromRawParts T bytes count)[index] = Pod.decode (bytes.drop (index * Pod.size T)) := by
  induction count generalizing bytes index with
  | zero => simp at inside
  | succ count induction =>
      cases index with
      | zero => simp [fromRawParts]
      | succ index =>
          simp only [fromRawParts, List.getElem_cons_succ]
          rw [induction, List.drop_drop, Nat.succ_mul, Nat.add_comm]

/-- Record `index` of `count` records viewed in a window of `data` starting at `start` is the
one stored at `start + index * size` of the whole buffer. -/
theorem getElem_fromRawParts_window (data : List UInt8) {start length count index : Nat}
    (fits : count * Pod.size T ≤ length)
    (inside : index < (fromRawParts T ((data.drop start).take length) count).length) :
    (fromRawParts T ((data.drop start).take length) count)[index] =
      Pod.decode (data.drop (start + index * Pod.size T)) := by
  rw [getElem_fromRawParts, List.drop_take, List.drop_drop, Pod.decode_take_of_le]
  have : (index + 1) * Pod.size T ≤ count * Pod.size T :=
    Nat.mul_le_mul_right _ (by simpa using inside)
  rw [Nat.succ_mul] at this
  omega

/-! ## `slice_from_bytes` -/

section SliceFromBytes

variable {bytes : Bytes} {range : Range}

/-- The checks of `slice_from_bytes` in their order, each with the error it raises. -/
theorem sliceFromBytes_eq :
    sliceFromBytes T bytes range =
      if ¬ (0 < Pod.size T ∧ Pod.size T ∣ range.len) then .error .invalidSize
      else if ¬ (range.start ≤ range.stop ∧ range.stop ≤ bytes.data.length) then .error .outOfBounds
      else if ¬ Pod.align T ∣ bytes.addr + range.start then .error .invalidAlignment
      else .ok ⟨bytes.addr + range.start,
        fromRawParts T ((bytes.data.drop range.start).take range.len) (range.len / Pod.size T)⟩ := by
  have align_pos : 0 < Pod.align T := Pod.align_pos
  unfold sliceFromBytes
  by_cases whole : 0 < Pod.size T ∧ Pod.size T ∣ range.len
  · have size_ok : remainderNonzero range.len (Pod.size T) = false :=
      remainderNonzero_eq_false.mpr whole
    by_cases inside : range.start ≤ range.stop ∧ range.stop ≤ bytes.data.length
    · have sliced : bytes.get range =
          some ⟨bytes.addr + range.start, (bytes.data.drop range.start).take range.len⟩ :=
        Bytes.get_eq_some.mpr ⟨inside.1, inside.2, rfl⟩
      simp [size_ok, sliced, whole, inside, checkedDiv, whole.1.ne', align_pos]
    · have sliced : bytes.get range = none := by simp [Bytes.get, inside]
      simp [size_ok, sliced, whole, inside]
  · simp [whole]

theorem sliceFromBytes_eq_ok {slice : Slice T} :
    sliceFromBytes T bytes range = .ok slice ↔
      0 < Pod.size T ∧ Pod.size T ∣ range.len ∧ range.start ≤ range.stop ∧
        range.stop ≤ bytes.data.length ∧ Pod.align T ∣ bytes.addr + range.start ∧
        slice = ⟨bytes.addr + range.start,
          fromRawParts T ((bytes.data.drop range.start).take range.len)
            (range.len / Pod.size T)⟩ := by
  rw [sliceFromBytes_eq]
  split_ifs <;> simp_all [eq_comm]

/-- Which error a rejected range gets: `InvalidSize` first, then `OutOfBounds`, then
`InvalidAlignment`. -/
theorem sliceFromBytes_eq_error {error : ElfParserError} :
    sliceFromBytes T bytes range = .error error →
      error = if ¬ (0 < Pod.size T ∧ Pod.size T ∣ range.len) then .invalidSize
        else if ¬ (range.start ≤ range.stop ∧ range.stop ≤ bytes.data.length) then .outOfBounds
        else .invalidAlignment := by
  rw [sliceFromBytes_eq]
  split_ifs <;> simp_all [eq_comm]

/-- An accepted range is a view of whole, aligned records inside the buffer. -/
theorem sliceFromBytes_isView {slice : Slice T} (sliced : sliceFromBytes T bytes range = .ok slice) :
    slice.IsView bytes ∧ slice.addr = bytes.addr + range.start ∧
      slice.items.length * Pod.size T = range.len := by
  obtain ⟨size_pos, divides, ordered, inside, aligned, rfl⟩ := sliceFromBytes_eq_ok.mp sliced
  have whole : range.len / Pod.size T * Pod.size T = range.len := Nat.div_mul_cancel divides
  refine ⟨⟨by simp, ?_, aligned, fun index inside_items => ?_⟩, rfl, by simpa using whole⟩
  · simp only [length_fromRawParts, whole, Range.len] at *
    omega
  · simpa using getElem_fromRawParts_window bytes.data (Nat.div_mul_le_self _ _) inside_items

end SliceFromBytes

/-! ## Header-scoped views -/

theorem sliceFromFileRange_eq_ok {bytes : Bytes} {offset size : Nat} {slice : Slice T} :
    sliceFromFileRange T bytes offset size = .ok slice ↔
      offset + size < 2 ^ 64 ∧ sliceFromBytes T bytes ⟨offset, offset + size⟩ = .ok slice := by
  simp only [sliceFromFileRange, bind_eq_ok, errCheckedAdd_eq_ok]
  constructor
  · rintro ⟨_, ⟨fits, rfl⟩, sliced⟩
    exact ⟨fits, sliced⟩
  · rintro ⟨fits, sliced⟩
    exact ⟨_, ⟨fits, rfl⟩, sliced⟩

/-- A view cut by a header covers exactly `offset..offset + size` of the buffer. -/
theorem sliceFromFileRange_isView {bytes : Bytes} {offset size : Nat} {slice : Slice T}
    (sliced : sliceFromFileRange T bytes offset size = .ok slice) :
    slice.IsView bytes ∧ slice.addr = bytes.addr + offset ∧
      slice.items.length * Pod.size T = size ∧ offset + size ≤ bytes.data.length := by
  obtain ⟨-, sliced⟩ := sliceFromFileRange_eq_ok.mp sliced
  obtain ⟨view, addr_eq, length_eq⟩ := sliceFromBytes_isView sliced
  obtain ⟨-, -, -, inside, -⟩ := sliceFromBytes_eq_ok.mp sliced
  exact ⟨view, addr_eq, by simpa [Range.len] using length_eq, inside⟩

end Sbpf
