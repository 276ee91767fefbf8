import Sbpf.Elf.Types

/-!
# Strings in string-table sections

`get_string_in_section` reads a zero-terminated name from a `SHT_STRTAB` section: it clips a search
window to the section and to the maximum length, with every sum checked, and returns the bytes
before the first zero of the window.  The characterisation below says exactly when it succeeds,
what it returns, and which error each failure gets.  UTF-8 validation, which only the `Debug`
impl performs on these names, closes the file.
-/

namespace Sbpf

/-- `bytes.iter().position(|byte| *byte == 0).and_then(|string_length| bytes.get(0..string_length))`:
the bytes before the first zero. -/
def terminatedPrefix (bytes : Bytes) : Option Bytes :=
  (position (· == 0) bytes.data).bind fun stringLength => bytes.get ⟨0, stringLength⟩

/-- `Elf64::get_string_in_section`: query a single string from a section which is marked as
`SHT_STRTAB`. -/
def getStringInSection (elfBytes : Bytes) (sectionHeader : Elf64Shdr) (offsetInSection : UInt32)
    (maximumLength : Nat) : Except ElfParserError Bytes :=
  if sectionHeader.shType ≠ shtStrtab then .error .invalidSectionHeader
  else do
    let offsetInFile ← errCheckedAdd sectionHeader.shOffset.toNat offsetInSection.toNat
    let sectionEnd ← errCheckedAdd sectionHeader.shOffset.toNat sectionHeader.shSize.toNat
    let windowEnd ← errCheckedAdd offsetInFile maximumLength
    let unterminatedStringBytes ←
      okOr (elfBytes.get ⟨offsetInFile, min sectionEnd windowEnd⟩) .outOfBounds
    okOr (terminatedPrefix unterminatedStringBytes)
      (.stringTooLong unterminatedStringBytes.data maximumLength)

/-- The search window `[sh_offset + offset, min(sh_offset + sh_size, sh_offset + offset +
maximum_length))` of `get_string_in_section`. -/
def stringWindow (sectionHeader : Elf64Shdr) (offsetInSection : UInt32) (maximumLength : Nat) :
    Range :=
  ⟨sectionHeader.shOffset.toNat + offsetInSection.toNat,
    min (sectionHeader.shOffset.toNat + sectionHeader.shSize.toNat)
      (sectionHeader.shOffset.toNat + offsetInSection.toNat + maximumLength)⟩

/-- `zero` is the first zero byte of `data` inside `window`. -/
def FirstZero (data : List UInt8) (window : Range) (terminator : Nat) : Prop :=
  window.start ≤ terminator ∧ terminator < window.stop ∧ data[terminator]? = some 0 ∧
    ∀ index, window.start ≤ index → index < terminator → data[index]? ≠ some 0

/-- The three sums `get_string_in_section` checks stay below `2 ^ 64`. -/
def StringWindowFits (sectionHeader : Elf64Shdr) (offsetInSection : UInt32) (maximumLength : Nat) :
    Prop :=
  sectionHeader.shOffset.toNat + offsetInSection.toNat < 2 ^ 64 ∧
    sectionHeader.shOffset.toNat + sectionHeader.shSize.toNat < 2 ^ 64 ∧
    sectionHeader.shOffset.toNat + offsetInSection.toNat + maximumLength < 2 ^ 64

instance (sectionHeader : Elf64Shdr) (offsetInSection : UInt32) (maximumLength : Nat) :
    Decidable (StringWindowFits sectionHeader offsetInSection maximumLength) :=
  inferInstanceAs (Decidable (_ ∧ _ ∧ _))

/-! ## The first zero of a window -/

theorem position_zero_eq_some {list : List UInt8} {index : Nat} :
    position (· == 0) list = some index ↔
      list[index]? = some 0 ∧ ∀ earlier < index, list[earlier]? ≠ some 0 := by
  induction list generalizing index with
  | nil => simp [position]
  | cons head tail induction =>
      by_cases first : head = 0
      · cases index with
        | zero => simp [position, first]
        | succ index =>
            simp only [position, first, beq_self_eq_true, if_true, Option.some.injEq,
              reduceCtorEq, false_iff, not_and, not_forall, not_not]
            exact fun _ => ⟨0, by omega, by simp⟩
      · cases index with
        | zero => simp [position, first]
        | succ index =>
            simp only [position, beq_iff_eq, first, if_false, Option.map_eq_some', induction,
              List.getElem?_cons_succ]
            constructor
            · rintro ⟨index', ⟨hit, missed⟩, shifted⟩
              obtain rfl : index' = index := by omega
              refine ⟨hit, fun earlier before => ?_⟩
              cases earlier with
              | zero => simpa using first
              | succ earlier => simpa using missed earlier (by omega)
            · rintro ⟨hit, missed⟩
              refine ⟨index, ⟨hit, ?_⟩, rfl⟩
              intro earlier before
              simpa using missed (earlier + 1) (by omega)

theorem position_zero_eq_none {list : List UInt8} :
    position (· == 0) list = none ↔ 0 ∉ list := by
  induction list with
  | nil => simp [position]
  | cons head tail induction =>
      by_cases first : head = 0
      · simp [position, first]
      · simp [position, first, induction, Ne.symm first]

/-- The name found in a window of the buffer ends at the window's first zero byte. -/
theorem terminatedPrefix_eq_some {data : List UInt8} {addr start length : Nat} {name : Bytes}
    (inside : start + length ≤ data.length) :
    terminatedPrefix ⟨addr, (data.drop start).take length⟩ = some name ↔
      ∃ terminator, FirstZero data ⟨start, start + length⟩ terminator ∧
        name = ⟨addr, (data.drop start).take (terminator - start)⟩ := by
  simp only [terminatedPrefix, Option.bind_eq_some, position_zero_eq_some, List.getElem?_take,
    List.getElem?_drop, Bytes.get_eq_some, Range.len, FirstZero]
  constructor
  · rintro ⟨stringLength, ⟨hit, missed⟩, -, -, rfl⟩
    have short : stringLength < length := by split at hit <;> simp_all
    refine ⟨start + stringLength, ⟨by omega, by omega, by simpa [short] using hit,
      fun index above below => ?_⟩, ?_⟩
    · have := missed (index - start) (by omega)
      rwa [if_pos (by omega), Nat.add_sub_cancel' above] at this
    · simp [List.take_take, Nat.min_eq_left short.le]
  · rintro ⟨terminator, ⟨above, below, hit, missed⟩, rfl⟩
    refine ⟨terminator - start, ⟨?_, fun earlier before => ?_⟩, by omega, ?_, ?_⟩
    · rwa [if_pos (by omega), Nat.add_sub_cancel' above]
    · rw [if_pos (by omega)]
      exact missed (start + earlier) (by omega) (by omega)
    · simp only [List.length_take, List.length_drop]
      omega
    · simp [List.take_take, Nat.min_eq_left (show terminator - start ≤ length by omega)]

/-! ## `get_string_in_section` -/

section GetStringInSection

variable {elfBytes : Bytes} {sectionHeader : Elf64Shdr} {offsetInSection : UInt32}
  {maximumLength : Nat}

/-- The checks of `get_string_in_section` in their order, each with the error it raises. -/
theorem getStringInSection_eq :
    getStringInSection elfBytes sectionHeader offsetInSection maximumLength =
      if sectionHeader.shType ≠ shtStrtab then .error .invalidSectionHeader
      else if ¬ StringWindowFits sectionHeader offsetInSection maximumLength then .error .outOfBounds
      else
        match elfBytes.get (stringWindow sectionHeader offsetInSection maximumLength) with
        | none => .error .outOfBounds
        | some window => okOr (terminatedPrefix window) (.stringTooLong window.data maximumLength) := by
  unfold getStringInSection StringWindowFits stringWindow
  simp only [errCheckedAdd_bind, okOr_bind]
  split_ifs <;> first | rfl | omega | cases elfBytes.get _ <;> rfl

/-- `get_string_in_section` succeeds exactly on a string table whose window sums fit in 64 bits,
whose window lies in the buffer and holds a zero byte; the name is the window up to its first
zero. -/
theorem getStringInSection_eq_ok {name : Bytes} :
    getStringInSection elfBytes sectionHeader offsetInSection maximumLength = .ok name ↔
      sectionHeader.shType = shtStrtab ∧ StringWindowFits sectionHeader offsetInSection maximumLength ∧
        (stringWindow sectionHeader offsetInSection maximumLength).stop ≤ elfBytes.data.length ∧
        ∃ terminator, FirstZero elfBytes.data (stringWindow sectionHeader offsetInSection maximumLength) terminator ∧
          name = ⟨elfBytes.addr + (stringWindow sectionHeader offsetInSection maximumLength).start,
            (elfBytes.data.drop
              (stringWindow sectionHeader offsetInSection maximumLength).start).take
                (terminator - (stringWindow sectionHeader offsetInSection maximumLength).start)⟩ := by
  rw [getStringInSection_eq]
  generalize stringWindow sectionHeader offsetInSection maximumLength = window
  by_cases strtab : sectionHeader.shType = shtStrtab
  · by_cases fits : StringWindowFits sectionHeader offsetInSection maximumLength
    · simp only [strtab, fits, ne_eq, not_true_eq_false, if_false, true_and]
      cases sliced : elfBytes.get window with
      | none =>
          simp only [Bytes.get, ite_eq_right_iff, reduceCtorEq, imp_false, not_and, not_le] at sliced
          simp only [reduceCtorEq, false_iff, not_and, not_exists]
          intro inside terminator first_zero
          have := sliced (by have := first_zero.1; have := first_zero.2.1; omega)
          omega
      | some found =>
          obtain ⟨ordered, inside, rfl⟩ := Bytes.get_eq_some.mp sliced
          rw [okOr_eq_ok, terminatedPrefix_eq_some (by simp only [Range.len]; omega)]
          simp only [Range.len, Nat.add_sub_cancel' ordered, inside, true_and]
    · simp [strtab, fits]
  · simp [strtab]

/-- The errors of `get_string_in_section`: `InvalidSectionHeader` for a section that is not a
string table, `OutOfBounds` for an overflowing sum or a window outside the buffer, and
`StringTooLong(_, maximum_length)` for a window without a zero byte. -/
theorem getStringInSection_eq_error {error : ElfParserError} :
    getStringInSection elfBytes sectionHeader offsetInSection maximumLength = .error error →
      if sectionHeader.shType ≠ shtStrtab then error = .invalidSectionHeader
      else if StringWindowFits sectionHeader offsetInSection maximumLength ∧
          (stringWindow sectionHeader offsetInSection maximumLength).start ≤
            (stringWindow sectionHeader offsetInSection maximumLength).stop ∧
          (stringWindow sectionHeader offsetInSection maximumLength).stop ≤ elfBytes.data.length
        then ∃ text, error = .stringTooLong text maximumLength
      else error = .outOfBounds := by
  rw [getStringInSection_eq]
  generalize stringWindow sectionHeader offsetInSection maximumLength = window
  by_cases strtab : sectionHeader.shType = shtStrtab
  · by_cases fits : StringWindowFits sectionHeader offsetInSection maximumLength
    · simp only [strtab, fits, ne_eq, not_true_eq_false, if_false, not_true, true_and]
      cases sliced : elfBytes.get window with
      | none =>
          simp only [Bytes.get, ite_eq_right_iff, reduceCtorEq, imp_false] at sliced
          simp_all
      | some found =>
          obtain ⟨ordered, inside, rfl⟩ := Bytes.get_eq_some.mp sliced
          simp only [okOr]
          split
          · simp
          · rintro ⟨⟩
            simp_all
    · simp [strtab, fits, eq_comm]
  · simp [strtab, eq_comm]

/-- A returned name lies inside the section, has no zero byte, is shorter than the maximum
length and is followed in the buffer by a zero byte. -/
theorem getStringInSection_bounds {name : Bytes}
    (found : getStringInSection elfBytes sectionHeader offsetInSection maximumLength = .ok name) :
    sectionHeader.shOffset.toNat ≤ name.addr - elfBytes.addr ∧
      name.addr - elfBytes.addr + name.data.length ≤
        sectionHeader.shOffset.toNat + sectionHeader.shSize.toNat ∧
      name.data.length < maximumLength ∧ 0 ∉ name.data ∧
      elfBytes.data[name.addr - elfBytes.addr + name.data.length]? = some 0 := by
  obtain ⟨-, -, inside, terminator, ⟨above, below, hit, missed⟩, rfl⟩ := getStringInSection_eq_ok.mp found
  generalize start_eq : (stringWindow sectionHeader offsetInSection maximumLength).start = start
    at above missed
  have start_value : start = sectionHeader.shOffset.toNat + offsetInSection.toNat := by
    rw [← start_eq, stringWindow]
  have below_section : terminator < sectionHeader.shOffset.toNat + sectionHeader.shSize.toNat ∧
      terminator < sectionHeader.shOffset.toNat + offsetInSection.toNat + maximumLength := by
    simpa [stringWindow, Nat.lt_min] using below
  have length_eq : ((elfBytes.data.drop start).take (terminator - start)).length = terminator - start := by
    simp only [List.length_take, List.length_drop]
    have := inside
    simp only [stringWindow] at this
    omega
  simp only [Nat.add_sub_cancel_left, length_eq]
  refine ⟨by omega, by omega, by omega, fun member => ?_, by rwa [Nat.add_sub_cancel' above]⟩
  obtain ⟨index, inside_index, is_zero⟩ := List.getElem_of_mem member
  simp only [List.getElem_take, List.getElem_drop] at is_zero
  have index_lt : index < terminator - start := by simpa [length_eq] using inside_index
  exact missed (start + index) (by omega) (by omega)
    (by rw [List.getElem?_eq_getElem (by omega), is_zero])

end GetStringInSection

/-! ## UTF-8 -/

/-- A continuation byte `0x80..=0xBF`. -/
def continuationByte (byte : UInt8) : Bool := 0x80 ≤ byte && byte ≤ 0xBF

/-- The range of the second byte of a sequence led by `lead`, which excludes overlong forms,
surrogates and code points above `U+10FFFF`. -/
def secondByteOk (lead second : UInt8) : Bool :=
  if lead = 0xE0 then 0xA0 ≤ second && second ≤ 0xBF
  else if lead = 0xED then 0x80 ≤ second && second ≤ 0x9F
  else if lead = 0xF0 then 0x90 ≤ second && second ≤ 0xBF
  else if lead = 0xF4 then 0x80 ≤ second && second ≤ 0x8F
  else continuationByte second

/-- Well-formed UTF-8 as `core::str::from_utf8` accepts it: the table of well-formed byte
sequences of the Unicode standard. -/
def validUtf8 : List UInt8 → Bool
  | [] => true
  | lead :: rest =>
      if lead < 0x80 then validUtf8 rest
      else
        match rest with
        | second :: rest =>
            if 0xC2 ≤ lead ∧ lead ≤ 0xDF then continuationByte second && validUtf8 rest
            else
              match rest with
              | third :: rest =>
                  if 0xE0 ≤ lead ∧ lead ≤ 0xEF then
                    secondByteOk lead second && continuationByte third && validUtf8 rest
                  else
                    match rest with
                    | fourth :: rest =>
                        if 0xF0 ≤ lead ∧ lead ≤ 0xF4 then
                          secondByteOk lead second && continuationByte third &&
                            continuationByte fourth && validUtf8 rest
                        else false
                    | [] => false
              | [] => false
        | [] => false

/-- `core::str::from_utf8(name).map_err(|_| ElfParserError::InvalidString)`. -/
def fromUtf8 (name : Bytes) : Except ElfParserError Bytes :=
  if validUtf8 name.data then .ok name else .error .invalidString

end Sbpf
