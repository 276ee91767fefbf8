import Sbpf.Disassembler.Dispatch
import Sbpf.Disassembler.Numbers

/-!
# Reading a line back

The lines `disassemble_instruction` prints follow one syntax: a mnemonic, then a space and
operands separated by `, `; an operand is a register `r` and its number, a decimal integer,
`{:#x}` of an unsigned one, or a memory operand `[r`, number, `signed_off_str` of the offset,
`]`.  `readLine` reads that syntax, and every line it prints reads back as its mnemonic and
operands.  Each arm whose line names no jump target or called function prints the line of its
syntax, so such a line gives back the opcode, in every dialect, and every field of the
instruction it shows: the disassembly of these instructions loses nothing it prints.
-/

namespace Sbpf

/-! ## Readers of numbers -/

/-- The value of a decimal digit. -/
def decimalDigitValue (char : Char) : Option Nat :=
  if '0' ≤ char ∧ char ≤ '9' then some (char.toNat - '0'.toNat) else none

/-- Reads the longest run of digits in `base`, most significant first, after the value read so
far; returns the value and the text after the run. -/
def readRun (base : Nat) (digitValue : Char → Option Nat) (value : Nat) :
    List Char → Nat × List Char
  | [] => (value, [])
  | char :: rest =>
      match digitValue char with
      | some digit => readRun base digitValue (value * base + digit) rest
      | none => (value, char :: rest)

/-- A decimal number, `{}` of an unsigned integer: one digit or more. -/
def readDecimal : List Char → Option (Nat × List Char)
  | [] => none
  | char :: rest => (decimalDigitValue char).map fun digit => readRun 10 decimalDigitValue digit rest

/-- `{}` of a signed integer: a decimal number, after `-` when negative. -/
def readInteger : List Char → Option (Int × List Char)
  | '-' :: rest => (readDecimal rest).map fun (magnitude, rest) => (-(magnitude : Int), rest)
  | chars => (readDecimal chars).map fun (magnitude, rest) => ((magnitude : Int), rest)

/-- `{:#x}` followed by other text: `0x` and the longest run of hexadecimal digits after it. -/
def readHexRun : List Char → Option (Nat × List Char)
  | '0' :: 'x' :: rest => some (readRun 16 hexDigitValue 0 rest)
  | _ => none

/-- The text of `signed_off_str` followed by other text. -/
def readOffset : List Char → Option (Int × List Char)
  | '-' :: rest => (readHexRun rest).map fun (magnitude, rest) => (-(magnitude : Int), rest)
  | '+' :: rest => (readHexRun rest).map fun (magnitude, rest) => ((magnitude : Int), rest)
  | _ => none

/-! ## Numbers read back -/

/-- Text that does not continue a run of digits. -/
def Stops (digitValue : Char → Option Nat) (rest : List Char) : Prop :=
  ∀ char ∈ rest.head?, digitValue char = none

theorem stops_cons {digitValue : Char → Option Nat} {char : Char} (rest : List Char)
    (stopping : digitValue char = none) : Stops digitValue (char :: rest) := by
  rintro _ ⟨⟩
  exact stopping

theorem decimalDigitValue_digitChar :
    ∀ digit < 10, decimalDigitValue (Nat.digitChar digit) = some digit := by
  decide

theorem readRun_stops {base : Nat} {digitValue : Char → Option Nat} {value : Nat} {rest : List Char}
    (stops : Stops digitValue rest) : readRun base digitValue value rest = (value, rest) := by
  cases rest with
  | nil => rfl
  | cons char rest => simp only [readRun, stops char rfl]

/-- `Nat.toDigitsCore` puts the digits of `value` before `digits`, as long as its fuel lasts. -/
theorem readRun_toDigitsCore {base : Nat} (large : 1 < base) {digitValue : Char → Option Nat}
    (inverse : ∀ digit < base, digitValue (Nat.digitChar digit) = some digit) {fuel value : Nat}
    (enough : value < fuel) (digits rest : List Char) :
    readRun base digitValue 0 (Nat.toDigitsCore base fuel value digits ++ rest) =
      readRun base digitValue value (digits ++ rest) := by
  induction fuel generalizing value digits with
  | zero => omega
  | succ fuel induction =>
    have digit := inverse (value % base) (Nat.mod_lt _ (by omega))
    dsimp only [Nat.toDigitsCore]
    split_ifs with last
    · simp only [List.cons_append, readRun, digit]
      congr 1
      rw [Nat.div_eq_zero_iff (by omega)] at last
      rw [Nat.mod_eq_of_lt last]
      omega
    · have positive : 0 < value := Nat.pos_of_ne_zero fun zero => last (by simp [zero])
      rw [induction (Nat.lt_of_lt_of_le (Nat.div_lt_self positive large) (by omega))]
      simp only [List.cons_append, readRun, digit]
      congr 1
      exact Nat.div_add_mod' value base

/-- The digits `Nat.toDigitsCore` writes are digits below the base, before the ones it was
given. -/
theorem mem_toDigitsCore {base fuel value : Nat} (positive : 0 < base) {digits : List Char}
    {char : Char} (member : char ∈ Nat.toDigitsCore base fuel value digits) :
    char ∈ digits ∨ ∃ digit < base, char = Nat.digitChar digit := by
  induction fuel generalizing value digits with
  | zero => exact .inl member
  | succ fuel induction =>
    dsimp only [Nat.toDigitsCore] at member
    split_ifs at member
    · rcases List.mem_cons.1 member with rfl | member
      exacts [.inr ⟨_, Nat.mod_lt _ positive, rfl⟩, .inl member]
    · rcases induction member with member | found
      · rcases List.mem_cons.1 member with rfl | member
        exacts [.inr ⟨_, Nat.mod_lt _ positive, rfl⟩, .inl member]
      · exact .inr found

/-- With enough fuel `Nat.toDigitsCore` writes at least one digit. -/
theorem toDigitsCore_eq_cons {base fuel value : Nat} (large : 1 < base) (enough : value < fuel)
    (digits : List Char) :
    ∃ digit < base, ∃ rest, Nat.toDigitsCore base fuel value digits = Nat.digitChar digit :: rest := by
  induction fuel generalizing value digits with
  | zero => omega
  | succ fuel induction =>
    dsimp only [Nat.toDigitsCore]
    split_ifs with last
    · exact ⟨_, Nat.mod_lt _ (by omega), _, rfl⟩
    · have positive : 0 < value := Nat.pos_of_ne_zero fun zero => last (by simp [zero])
      exact induction (Nat.lt_of_lt_of_le (Nat.div_lt_self positive large) (by omega)) _

theorem digitChar_separator : ∀ digit < 16, Nat.digitChar digit ≠ ' ' ∧ Nat.digitChar digit ≠ ',' := by
  decide

/-- `{}` of an unsigned integer reads back, before any text that does not continue it. -/
theorem readDecimal_toString (value : Nat) {rest : List Char} (stops : Stops decimalDigitValue rest) :
    readDecimal ((toString value).toList ++ rest) = some (value, rest) := by
  have text : (toString value).toList = Nat.toDigitsCore 10 (value + 1) value [] := rfl
  obtain ⟨digit, small, tail, first⟩ :=
    toDigitsCore_eq_cons (show 1 < 10 by decide) (Nat.lt_succ_self value) []
  have run := readRun_toDigitsCore (by decide) decimalDigitValue_digitChar (Nat.lt_succ_self value) [] rest
  simp only [first, List.cons_append, readRun, decimalDigitValue_digitChar digit small, Nat.zero_mul,
    Nat.zero_add, List.nil_append, readRun_stops stops] at run
  rw [text, first, List.cons_append, readDecimal, decimalDigitValue_digitChar digit small,
    Option.map_some', run]

theorem readInteger_of_readDecimal {chars rest : List Char} {value : Nat}
    (read : readDecimal chars = some (value, rest)) : readInteger chars = some ((value : Int), rest) := by
  unfold readInteger
  split
  · simp [readDecimal, decimalDigitValue] at read
  · rw [read]
    rfl

/-- `{}` of a signed integer reads back, before any text that does not continue it. -/
theorem readInteger_toString (value : Int) {rest : List Char} (stops : Stops decimalDigitValue rest) :
    readInteger ((toString value).toList ++ rest) = some (value, rest) := by
  cases value with
  | ofNat magnitude => exact readInteger_of_readDecimal (readDecimal_toString magnitude stops)
  | negSucc magnitude =>
    show readInteger ('-' :: ((toString (magnitude + 1)).toList ++ rest)) = _
    rw [readInteger, readDecimal_toString _ stops]
    rfl

/-- `{:#x}` reads back, before any text that does not continue it. -/
theorem readHexRun_lowerHex (value : Nat) {rest : List Char} (stops : Stops hexDigitValue rest) :
    readHexRun ((lowerHex value).toList ++ rest) = some (value, rest) := by
  show readHexRun ('0' :: 'x' :: (Nat.toDigitsCore 16 (value + 1) value [] ++ rest)) = _
  rw [readHexRun, readRun_toDigitsCore (by decide) hexDigitValue_digitChar (Nat.lt_succ_self value),
    List.nil_append, readRun_stops stops]

/-- The text of `signed_off_str` reads back as the offset, before any text that does not continue
it. -/
theorem readOffset_signedOffStr (offset : BitVec 16) {rest : List Char}
    (stops : Stops hexDigitValue rest) :
    readOffset ((signedOffStr offset).toList ++ rest) = some (offset.toInt, rest) := by
  unfold signedOffStr
  split_ifs with negative
  · show readOffset ('-' :: ((lowerHex (-offset.toInt).toNat).toList ++ rest)) = _
    rw [readOffset, readHexRun_lowerHex _ stops]
    simp only [Option.map_some', Option.some.injEq, Prod.mk.injEq, and_true]
    omega
  · show readOffset ('+' :: ((lowerHex offset.toInt.toNat).toList ++ rest)) = _
    rw [readOffset, readHexRun_lowerHex _ stops]
    simp only [Option.map_some', Option.some.injEq, Prod.mk.injEq, and_true]
    omega

/-! ## Lines -/

/-- An operand as the disassembler prints it. -/
inductive Operand where
  /-- `r` and a register number. -/
  | register (index : Nat)
  /-- A signed decimal integer. -/
  | immediate (value : Int)
  /-- `{:#x}` of an unsigned integer. -/
  | hex (value : Nat)
  /-- `[r`, a register number, `signed_off_str` of an offset, and `]`. -/
  | memory (base : Nat) (offset : BitVec 16)
deriving DecidableEq, Repr

/-- How the disassembler prints an operand. -/
def Operand.text : Operand → List Char
  | .register index => 'r' :: (toString index).toList
  | .immediate value => (toString value).toList
  | .hex value => (lowerHex value).toList
  | .memory base offset => '[' :: 'r' :: ((toString base).toList ++ (signedOffStr offset).toList ++ [']'])

/-- Operands separated by `, `. -/
def joinOperands : List (List Char) → List Char
  | [] => []
  | [text] => text
  | text :: more => text ++ ',' :: ' ' :: joinOperands more

/-- How the disassembler prints a line: the mnemonic, then a space and the operands, if any. -/
def lineText : List Char × List Operand → List Char
  | (mnemonic, []) => mnemonic
  | (mnemonic, operands) => mnemonic ++ ' ' :: joinOperands (operands.map Operand.text)

/-- Reads one operand, followed by other text. -/
def readOperand : List Char → Option (Operand × List Char)
  | 'r' :: rest => (readDecimal rest).map fun (index, rest) => (.register index, rest)
  | '[' :: 'r' :: rest => do
      let (base, rest) ← readDecimal rest
      let (offset, rest) ← readOffset rest
      match rest with
      | ']' :: rest => some (.memory base (BitVec.ofInt 16 offset), rest)
      | _ => none
  | '0' :: 'x' :: rest =>
      (readHexRun ('0' :: 'x' :: rest)).map fun (value, rest) => (.hex value, rest)
  | chars => (readInteger chars).map fun (value, rest) => (.immediate value, rest)

/-- Reads text that is one operand and nothing else. -/
def readWholeOperand (chars : List Char) : Option Operand :=
  match readOperand chars with
  | some (operand, []) => some operand
  | _ => none

/-- Splits a line at its first space: the mnemonic, and the text of the operands. -/
def splitMnemonic : List Char → List Char × List Char
  | [] => ([], [])
  | char :: rest =>
      if char = ' ' then ([], rest)
      else
        let (mnemonic, operands) := splitMnemonic rest
        (char :: mnemonic, operands)

/-- Splits the text of the operands at each `, `. -/
def splitOperands : List Char → List (List Char)
  | [] => [[]]
  | ',' :: ' ' :: rest => [] :: splitOperands rest
  | char :: rest =>
      match splitOperands rest with
      | first :: more => (char :: first) :: more
      | [] => [[char]]

/-- Reads a line as its mnemonic and its operands. -/
def readLine (chars : List Char) : Option (List Char × List Operand) :=
  match splitMnemonic chars with
  | (mnemonic, []) => some (mnemonic, [])
  | (mnemonic, operands) => ((splitOperands operands).mapM readWholeOperand).map (mnemonic, ·)

/-! ## Reading operands back -/

/-- Text that reads as a whole integer is not read as a register, a memory operand or `{:#x}`. -/
theorem readOperand_of_readInteger {chars : List Char} {value : Int}
    (read : readInteger chars = some (value, [])) : readOperand chars = some (.immediate value, []) := by
  unfold readOperand
  split
  · cases read
  · cases read
  · cases read
  · rw [read]
    rfl

theorem ofInt_toInt (offset : BitVec 16) : BitVec.ofInt 16 offset.toInt = offset :=
  BitVec.eq_of_toInt_eq (by rw [BitVec.toInt_ofInt, BitVec.toInt_eq_toNat_bmod, Int.bmod_bmod])

theorem signedOffStr_sign (offset : BitVec 16) :
    ∃ sign ∈ ['-', '+'], ∃ magnitude, (signedOffStr offset).toList = sign :: magnitude := by
  unfold signedOffStr
  split_ifs
  exacts [⟨'-', by decide, _, rfl⟩, ⟨'+', by decide, _, rfl⟩]

/-- Every operand reads back from its text. -/
theorem readWholeOperand_text (operand : Operand) : readWholeOperand operand.text = some operand := by
  cases operand with
  | register index =>
    have read := readDecimal_toString index (show Stops decimalDigitValue [] from nofun)
    rw [List.append_nil] at read
    simp only [Operand.text, readWholeOperand, readOperand, read, Option.map_some']
  | immediate value =>
    have read := readInteger_toString value (show Stops decimalDigitValue [] from nofun)
    rw [List.append_nil] at read
    simp only [Operand.text, readWholeOperand, readOperand_of_readInteger read]
  | hex value =>
    have read := readHexRun_lowerHex value (show Stops hexDigitValue [] from nofun)
    rw [List.append_nil] at read
    have text : (lowerHex value).toList = '0' :: 'x' :: (Nat.toDigits 16 value) := rfl
    rw [text] at read
    simp only [Operand.text, text, readWholeOperand, readOperand, read, Option.map_some']
  | memory base offset =>
    obtain ⟨sign, signed, magnitude, text⟩ := signedOffStr_sign offset
    have stops : Stops decimalDigitValue ((signedOffStr offset).toList ++ [']']) := by
      rw [text]
      simp only [List.mem_cons, List.mem_singleton, List.not_mem_nil, or_false] at signed
      rcases signed with rfl | rfl <;> exact stops_cons _ (by decide)
    simp only [Operand.text, readWholeOperand, readOperand, List.append_assoc,
      readDecimal_toString base stops,
      readOffset_signedOffStr offset (stops_cons [] (show hexDigitValue ']' = none by decide)),
      Option.bind_eq_bind, Option.some_bind, ofInt_toInt]

/-! ## Reading lines back -/

/-- Text with no space and no comma, which the splits of a line keep whole. -/
def Plain (chars : List Char) : Prop := ∀ char ∈ chars, char ≠ ' ' ∧ char ≠ ','

theorem plain_toDigitsCore {base fuel value : Nat} (small : 0 < base ∧ base ≤ 16) :
    Plain (Nat.toDigitsCore base fuel value []) := fun _ member =>
  match mem_toDigitsCore small.1 member with
  | .inl outside => absurd outside (List.not_mem_nil _)
  | .inr ⟨digit, below, same⟩ => same ▸ digitChar_separator digit (by omega)

theorem plain_toString (value : Int) : Plain (toString value).toList := by
  cases value with
  | ofNat magnitude => exact plain_toDigitsCore (by decide)
  | negSucc magnitude =>
    rintro char (_ | ⟨_, member⟩)
    · decide
    · exact plain_toDigitsCore (by decide) char member

theorem plain_lowerHex (value : Nat) : Plain (lowerHex value).toList := by
  rintro char (_ | ⟨_, _ | ⟨_, member⟩⟩)
  · decide
  · decide
  · exact plain_toDigitsCore (by decide) char member

theorem Operand.plain_text (operand : Operand) : Plain operand.text := by
  have natural (value : Nat) : Plain (toString value).toList := plain_toDigitsCore (by decide)
  cases operand with
  | register index =>
    rintro char (_ | ⟨_, member⟩)
    exacts [by decide, natural index char member]
  | immediate value => exact plain_toString value
  | hex value => exact plain_lowerHex value
  | memory base offset =>
    have signed : Plain (signedOffStr offset).toList := by
      unfold signedOffStr
      split_ifs <;> rintro char (_ | ⟨_, member⟩)
      exacts [by decide, plain_lowerHex _ char member, by decide, plain_lowerHex _ char member]
    rintro char (_ | ⟨_, _ | ⟨_, member⟩⟩)
    · decide
    · decide
    · replace member : char ∈ (toString base).toList ++ (signedOffStr offset).toList ++ [']'] :=
        member
      simp only [List.mem_append, List.mem_singleton] at member
      rcases member with (member | member) | rfl
      exacts [natural base char member, signed char member, by decide]

theorem splitMnemonic_append {mnemonic : List Char} (noSpace : ' ' ∉ mnemonic) (rest : List Char) :
    splitMnemonic (mnemonic ++ ' ' :: rest) = (mnemonic, rest) := by
  induction mnemonic with
  | nil => simp [splitMnemonic]
  | cons char mnemonic induction =>
    simp only [List.mem_cons, not_or] at noSpace
    simp [splitMnemonic, Ne.symm noSpace.1, induction noSpace.2]

theorem splitMnemonic_of_not_mem {mnemonic : List Char} (noSpace : ' ' ∉ mnemonic) :
    splitMnemonic mnemonic = (mnemonic, []) := by
  induction mnemonic with
  | nil => rfl
  | cons char mnemonic induction =>
    simp only [List.mem_cons, not_or] at noSpace
    simp [splitMnemonic, Ne.symm noSpace.1, induction noSpace.2]

theorem splitOperands_append {chunk : List Char} (noComma : ',' ∉ chunk) (rest : List Char) :
    splitOperands (chunk ++ ',' :: ' ' :: rest) = chunk :: splitOperands rest := by
  induction chunk with
  | nil => simp [splitOperands]
  | cons char chunk induction =>
    simp only [List.mem_cons, not_or] at noComma
    simp [splitOperands, Ne.symm noComma.1, induction noComma.2]

theorem splitOperands_of_not_mem {chunk : List Char} (noComma : ',' ∉ chunk) :
    splitOperands chunk = [chunk] := by
  induction chunk with
  | nil => rfl
  | cons char chunk induction =>
    simp only [List.mem_cons, not_or] at noComma
    simp [splitOperands, Ne.symm noComma.1, induction noComma.2]

theorem splitOperands_joinOperands {texts : List (List Char)} (nonempty : texts ≠ [])
    (plain : ∀ text ∈ texts, ',' ∉ text) : splitOperands (joinOperands texts) = texts := by
  induction texts with
  | nil => exact absurd rfl nonempty
  | cons text more induction =>
    cases more with
    | nil => exact splitOperands_of_not_mem (plain text (List.mem_singleton_self _))
    | cons next more =>
      simp only [joinOperands]
      rw [splitOperands_append (plain text (List.mem_cons_self _ _)),
        induction (List.cons_ne_nil _ _) fun text member => plain text (List.mem_cons_of_mem _ member)]

theorem Operand.text_ne_nil (operand : Operand) : operand.text ≠ [] := by
  cases operand with
  | immediate value =>
    cases value with
    | ofNat magnitude =>
      obtain ⟨_, _, _, text⟩ :=
        toDigitsCore_eq_cons (show 1 < 10 by decide) (Nat.lt_succ_self magnitude) []
      exact fun empty => List.cons_ne_nil _ _ (text.symm.trans empty)
    | negSucc magnitude => exact List.cons_ne_nil _ _
  | register | hex | memory => exact List.cons_ne_nil _ _

theorem mapM_readWholeOperand (operands : List Operand) :
    (operands.map Operand.text).mapM readWholeOperand = some operands := by
  induction operands with
  | nil => rfl
  | cons operand operands induction =>
    rw [List.map_cons, List.mapM_cons, readWholeOperand_text, induction]
    rfl

/-- A line reads back as the mnemonic and operands it prints, when its mnemonic has no space. -/
theorem readLine_lineText {mnemonic : List Char} (noSpace : ' ' ∉ mnemonic)
    (operands : List Operand) : readLine (lineText (mnemonic, operands)) = some (mnemonic, operands) := by
  cases operands with
  | nil => simp only [lineText, readLine, splitMnemonic_of_not_mem noSpace]
  | cons operand more =>
    have plain : ∀ text ∈ (operand :: more).map Operand.text, ',' ∉ text := by
      intro text member
      obtain ⟨operand, -, rfl⟩ := List.mem_map.1 member
      exact fun comma => (operand.plain_text ',' comma).2 rfl
    have split := splitOperands_joinOperands (by simp) plain
    obtain ⟨first, rest, joined⟩ : ∃ first rest,
        joinOperands ((operand :: more).map Operand.text) = first :: rest := by
      cases more with
      | nil => exact List.exists_cons_of_ne_nil operand.text_ne_nil
      | cons next more =>
        obtain ⟨first, rest, text⟩ := List.exists_cons_of_ne_nil operand.text_ne_nil
        exact ⟨first, rest ++ ',' :: ' ' :: joinOperands ((next :: more).map Operand.text),
          by simp only [List.map_cons, joinOperands, text, List.cons_append]⟩
    simp only [lineText, readLine, splitMnemonic_append noSpace, joined]
    rw [← joined, split, mapM_readWholeOperand]
    rfl

/-! ## The lines of the disassembler -/

/-- The forms whose line names a jump target or a called function, which no reader of the
line can resolve back. -/
def Form.namesTarget : Form → Bool
  | .ja | .jmpImm | .jmpReg | .callImm => true
  | _ => false

/-- The mnemonic and operands of the line an arm prints for an instruction; none for the forms
that name a target. -/
def Arm.lineParts (arm : Arm) (insn : Insn) (sbpfVersion : SBPFVersion) :
    Option (List Char × List Operand) :=
  match arm.form with
  | .lddw => some (arm.name.toList, [.register insn.dst.toNat, .hex insn.imm.toNat])
  | .ldReg => some (arm.name.toList, [.register insn.dst.toNat, .memory insn.src.toNat insn.off])
  | .ldStImm =>
      some (arm.name.toList, [.memory insn.dst.toNat insn.off, .immediate insn.imm.toInt])
  | .stReg => some (arm.name.toList, [.memory insn.dst.toNat insn.off, .register insn.src.toNat])
  | .aluImm => some (arm.name.toList, [.register insn.dst.toNat, .immediate insn.imm.toInt])
  | .aluReg => some (arm.name.toList, [.register insn.dst.toNat, .register insn.src.toNat])
  | .neg => some (arm.name.toList, [.register insn.dst.toNat])
  | .byteswap => some ((arm.name ++ toString insn.imm.toInt).toList, [.register insn.dst.toNat])
  | .callReg => some (arm.name.toList,
      [.register (if sbpfVersion.callxUsesSrcReg then insn.src.toNat else insn.imm.toNat % 2 ^ 8)])
  | .bare => some (arm.name.toList, [])
  | .syscall => some ("syscall".toList, [.immediate insn.imm.toInt])
  | .ja | .jmpImm | .jmpReg | .callImm => none

theorem Arm.lineParts_of_data {arm : Arm} (data : arm.form.namesTarget = false) (insn : Insn)
    (sbpfVersion : SBPFVersion) : ∃ parts, arm.lineParts insn sbpfVersion = some parts := by
  obtain ⟨opcode, guard, name, form⟩ := arm
  cases form <;> simp_all [Form.namesTarget, Arm.lineParts]

/-- An arm whose form names no target prints the line of its syntax. -/
theorem Arm.describe_lineText {arm : Arm} (data : arm.form.namesTarget = false)
    (overflowChecks : Bool) (insn : Insn) (pc : Nat) (cfgNodes : Nat → Option CfgNode)
    (functionRegistry : FunctionRegistry) (loader : BuiltinProgram) (sbpfVersion : SBPFVersion) :
    (arm.describe overflowChecks insn pc cfgNodes functionRegistry loader sbpfVersion).map
      String.toList = (arm.lineParts insn sbpfVersion).map lineText := by
  obtain ⟨opcode, guard, name, form⟩ := arm
  cases form <;> simp_all [Form.namesTarget, Arm.describe, Arm.lineParts, lineText, joinOperands,
    Operand.text, ldRegStr, ldStImmStr, stRegStr, aluImmStr, aluRegStr, byteswapStr]

set_option maxRecDepth 4000 in
/-- The names of the arms hold no space. -/
theorem arms_name_noSpace : ∀ arm ∈ arms, ' ' ∉ arm.name.toList := by
  decide

set_option maxRecDepth 4000 in
/-- The only arm of the `syscall` form is named `syscall`. -/
theorem arms_syscall_name : ∀ arm ∈ arms, arm.form = .syscall → arm.name = "syscall" := by
  decide

/-- The mnemonic of an arm's line starts with its name, and is its name except for `le` and
`be`, which append the width. -/
theorem Arm.lineParts_mnemonic {arm : Arm} (member : arm ∈ arms) {insn : Insn}
    {sbpfVersion : SBPFVersion} {mnemonic : List Char} {operands : List Operand}
    (printed : arm.lineParts insn sbpfVersion = some (mnemonic, operands)) :
    ∃ suffix, mnemonic = arm.name.toList ++ suffix ∧ ' ' ∉ suffix ∧
      (arm.form ≠ .byteswap → suffix = []) := by
  have named := arms_syscall_name arm member
  obtain ⟨opcode, guard, name, form⟩ := arm
  cases form <;> simp only [Arm.lineParts, Option.some.injEq, Prod.mk.injEq, reduceCtorEq] at printed
  case byteswap =>
    obtain ⟨rfl, -⟩ := printed
    exact ⟨(toString insn.imm.toInt).toList, rfl, fun space => (plain_toString _ ' ' space).1 rfl,
      fun other => absurd rfl other⟩
  case syscall =>
    obtain ⟨rfl, -⟩ := printed
    obtain rfl : name = "syscall" := named rfl
    exact ⟨[], rfl, nofun, fun _ => rfl⟩
  all_goals
    obtain ⟨rfl, -⟩ := printed
    exact ⟨[], (List.append_nil _).symm, nofun, fun _ => rfl⟩

/-- Every line of an arm whose form names no target reads back as the arm's syntax. -/
theorem Arm.readLine_describe {arm : Arm} (member : arm ∈ arms) (data : arm.form.namesTarget = false)
    (overflowChecks : Bool) (insn : Insn) (pc : Nat) (cfgNodes : Nat → Option CfgNode)
    (functionRegistry : FunctionRegistry) (loader : BuiltinProgram) (sbpfVersion : SBPFVersion) :
    ∃ line, arm.describe overflowChecks insn pc cfgNodes functionRegistry loader sbpfVersion =
      some line ∧ readLine line.toList = arm.lineParts insn sbpfVersion := by
  have printed := Arm.describe_lineText data overflowChecks insn pc cfgNodes functionRegistry loader
    sbpfVersion
  obtain ⟨⟨mnemonic, operands⟩, parts⟩ := Arm.lineParts_of_data data insn sbpfVersion
  obtain ⟨suffix, rfl, plain, -⟩ := Arm.lineParts_mnemonic member parts
  rw [parts, Option.map_some', Option.map_eq_some'] at printed
  obtain ⟨line, rendered, text⟩ := printed
  refine ⟨line, rendered, ?_⟩
  rw [text, parts, readLine_lineText]
  simpa using And.intro (arms_name_noSpace arm member) plain

/-- The line of every instruction rendered by an arm that names no target reads back, in every
dialect, as the arm's mnemonic and the operands it prints. -/
theorem readLine_disassembleInstruction {sbpfVersion : SBPFVersion} {insn : Insn} {arm : Arm}
    (found : arms.find? (fun arm => arm.opcode == insn.opc && arm.guard.holds sbpfVersion) =
      some arm)
    (data : arm.form.namesTarget = false) (overflowChecks : Bool) (pc : Nat)
    (cfgNodes : Nat → Option CfgNode) (functionRegistry : FunctionRegistry)
    (loader : BuiltinProgram) :
    ∃ line, disassembleInstruction overflowChecks insn pc cfgNodes functionRegistry loader
        sbpfVersion = some line ∧ readLine line.toList = arm.lineParts insn sbpfVersion := by
  simp only [disassembleInstruction, found]
  exact Arm.readLine_describe (List.mem_of_find?_eq_some found) data overflowChecks insn pc
    cfgNodes functionRegistry loader sbpfVersion

/-- `ldxdw r1, [r2-0x8]` in its legacy encoding. -/
def legacyLoad : Insn := ⟨0, Ebpf.ldDwReg, 1, 2, BitVec.ofInt 16 (-8), 0⟩

/-- The legacy `ldxdw` arm. -/
def legacyLoadArm : Arm := ⟨Ebpf.ldDwReg, .when .moveMemoryInstructionClasses false, "ldxdw", .ldReg⟩

theorem legacyLoad_readLine :
    arms.find? (fun arm => arm.opcode == legacyLoad.opc && arm.guard.holds legacyVersion) =
        some legacyLoadArm ∧ legacyLoadArm.form.namesTarget = false ∧
      ∃ line, disassembleInstruction true legacyLoad 0 (fun _ => none) ⟨fun _ => none⟩
          ⟨⟨fun _ => none⟩⟩ legacyVersion = some line ∧
        readLine line.toList = legacyLoadArm.lineParts legacyLoad legacyVersion :=
  ⟨by decide, rfl, readLine_disassembleInstruction (by decide) (by rfl) true 0 (fun _ => none)
    ⟨fun _ => none⟩ ⟨⟨fun _ => none⟩⟩⟩

example : readLine "ldxdw r1, [r2-0x8]".toList =
    some ("ldxdw".toList, [.register 1, .memory 2 (BitVec.ofInt 16 (-8))]) := by
  decide

/-! ## Lines that tell instructions apart -/

/-- The four shapes an operand is printed in. -/
inductive OperandKind where
  | register
  | immediate
  | hex
  | memory
deriving DecidableEq, Repr

/-- The shape of an operand. -/
def Operand.kind : Operand → OperandKind
  | .register _ => .register
  | .immediate _ => .immediate
  | .hex _ => .hex
  | .memory _ _ => .memory

/-- The shapes of the operands a form prints. -/
def Form.operandKinds : Form → List OperandKind
  | .lddw => [.register, .hex]
  | .ldReg => [.register, .memory]
  | .ldStImm => [.memory, .immediate]
  | .stReg => [.memory, .register]
  | .aluImm => [.register, .immediate]
  | .aluReg => [.register, .register]
  | .neg | .byteswap | .callReg => [.register]
  | .syscall => [.immediate]
  | .bare | .ja | .jmpImm | .jmpReg | .callImm => []

theorem Arm.lineParts_kinds {arm : Arm} {insn : Insn} {sbpfVersion : SBPFVersion}
    {mnemonic : List Char} {operands : List Operand}
    (printed : arm.lineParts insn sbpfVersion = some (mnemonic, operands)) :
    operands.map Operand.kind = arm.form.operandKinds := by
  obtain ⟨opcode, guard, name, form⟩ := arm
  cases form <;> simp only [Arm.lineParts, Option.some.injEq, Prod.mk.injEq, reduceCtorEq] at printed <;>
    obtain ⟨-, rfl⟩ := printed <;> rfl

/-- Two guards that some dialect satisfies together: they do not ask one predicate for both
values. -/
def Guard.compatible : Guard → Guard → Bool
  | .when predicate value, .when predicate' value' => predicate != predicate' || value == value'
  | _, _ => true

theorem Guard.compatible_of_holds {guard guard' : Guard} {sbpfVersion : SBPFVersion}
    (holds : guard.holds sbpfVersion) (holds' : guard'.holds sbpfVersion) :
    guard.compatible guard' = true := by
  cases guard with
  | always => rfl
  | when predicate value =>
    cases guard' with
    | always => rfl
    | when predicate' value' =>
      simp only [Guard.holds, beq_iff_eq] at holds holds'
      by_cases same : predicate = predicate'
      · subst same
        simp [Guard.compatible, ← holds, ← holds']
      · simp [Guard.compatible, same]

/-- The arms that name no target and print operands of the given shapes. -/
def kindArms (kinds : List OperandKind) : List Arm :=
  arms.filter fun arm => !arm.form.namesTarget && arm.form.operandKinds == kinds

/-- The operand shapes of the forms that name no target. -/
def dataKinds : List (List OperandKind) :=
  [[.register, .hex], [.register, .memory], [.memory, .immediate], [.memory, .register],
   [.register, .immediate], [.register, .register], [.register], [.immediate], []]

theorem Form.operandKinds_mem {form : Form} (data : form.namesTarget = false) :
    form.operandKinds ∈ dataKinds := by
  cases form <;> simp_all [Form.namesTarget, Form.operandKinds, dataKinds]

set_option maxRecDepth 10000 in
/-- Two arms that print operands of the same shapes and whose guards some dialect satisfies
together have different names. -/
theorem kindArms_names : ∀ kinds ∈ dataKinds,
    (kindArms kinds).Pairwise fun one other => one.guard.compatible other.guard = true →
      other.guard.compatible one.guard = true → one.name ≠ other.name := by
  decide

/-- Among the arms that print one register, no name starts another: the width `le` and `be`
append to their names never makes them another arm's. -/
theorem registerArms_prefix :
    (kindArms [.register]).Pairwise fun one other =>
      ¬ one.name.toList <+: other.name.toList ∧ ¬ other.name.toList <+: one.name.toList := by
  decide

/-- In a dialect, two arms that name no target and print the same mnemonic and operands, for any
two instructions, are the same arm. -/
theorem Arm.eq_of_lineParts {sbpfVersion : SBPFVersion} {arm arm' : Arm} (member : arm ∈ arms)
    (member' : arm' ∈ arms) (data : arm.form.namesTarget = false)
    (data' : arm'.form.namesTarget = false) (holds : arm.guard.holds sbpfVersion)
    (holds' : arm'.guard.holds sbpfVersion) {insn insn' : Insn} {parts : List Char × List Operand}
    (printed : arm.lineParts insn sbpfVersion = some parts)
    (printed' : arm'.lineParts insn' sbpfVersion = some parts) : arm = arm' := by
  obtain ⟨mnemonic, operands⟩ := parts
  have kinds := (Arm.lineParts_kinds printed).symm.trans (Arm.lineParts_kinds printed')
  have bucket : arm ∈ kindArms arm.form.operandKinds := List.mem_filter.2 ⟨member, by simp [data]⟩
  have bucket' : arm' ∈ kindArms arm.form.operandKinds :=
    List.mem_filter.2 ⟨member', by simp [data', kinds]⟩
  obtain ⟨suffix, named, -, bare⟩ := Arm.lineParts_mnemonic member printed
  obtain ⟨suffix', named', -, bare'⟩ := Arm.lineParts_mnemonic member' printed'
  by_contra distinct
  by_cases widths : arm.form = .byteswap ∨ arm'.form = .byteswap
  · have register : arm.form.operandKinds = [.register] := by
      rcases widths with width | width
      · rw [width]; rfl
      · rw [kinds, width]; rfl
    have prefixes := List.prefix_or_prefix_of_prefix ⟨suffix, named.symm⟩ ⟨suffix', named'.symm⟩
    have symmetric : Symmetric fun one other : Arm =>
        ¬ one.name.toList <+: other.name.toList ∧ ¬ other.name.toList <+: one.name.toList :=
      fun _ _ apart => ⟨apart.2, apart.1⟩
    have apart := registerArms_prefix.forall symmetric (register ▸ bucket) (register ▸ bucket')
      distinct
    rcases prefixes with prefixed | prefixed
    exacts [apart.1 prefixed, apart.2 prefixed]
  · rw [not_or] at widths
    obtain rfl := bare widths.1
    obtain rfl := bare' widths.2
    have symmetric : Symmetric fun one other : Arm => one.guard.compatible other.guard = true →
        other.guard.compatible one.guard = true → one.name ≠ other.name :=
      fun _ _ apart compatible compatible' => (apart compatible' compatible).symm
    exact (kindArms_names _ (Form.operandKinds_mem data)).forall symmetric bucket bucket' distinct
      (Guard.compatible_of_holds holds holds') (Guard.compatible_of_holds holds' holds)
      (String.ext (by simpa using named.symm.trans named'))

/-- The instruction as far as an arm's line shows it: the opcode and the fields the arm prints,
the others zero. -/
def Arm.printed (arm : Arm) (sbpfVersion : SBPFVersion) (insn : Insn) : Insn :=
  match arm.form with
  | .lddw | .aluImm | .byteswap => ⟨0, insn.opc, insn.dst, 0, 0, insn.imm⟩
  | .ldReg | .stReg => ⟨0, insn.opc, insn.dst, insn.src, insn.off, 0⟩
  | .ldStImm => ⟨0, insn.opc, insn.dst, 0, insn.off, insn.imm⟩
  | .aluReg => ⟨0, insn.opc, insn.dst, insn.src, 0, 0⟩
  | .neg => ⟨0, insn.opc, insn.dst, 0, 0, 0⟩
  | .callReg =>
      if sbpfVersion.callxUsesSrcReg then ⟨0, insn.opc, 0, insn.src, 0, 0⟩
      else ⟨0, insn.opc, 0, 0, 0, BitVec.ofNat 64 (insn.imm.toNat % 2 ^ 8)⟩
  | .bare => ⟨0, insn.opc, 0, 0, 0, 0⟩
  | .syscall => ⟨0, insn.opc, 0, 0, 0, insn.imm⟩
  | .ja | .jmpImm | .jmpReg | .callImm => insn

theorem toString_int_injective {value value' : Int}
    (same : (toString value).toList = (toString value').toList) : value = value' := by
  have read := readInteger_toString value (show Stops decimalDigitValue [] from nofun)
  rw [same, readInteger_toString value' (show Stops decimalDigitValue [] from nofun)] at read
  cases read
  rfl

theorem uInt8_toNat_inj {value value' : UInt8} : value.toNat = value'.toNat ↔ value = value' :=
  ⟨UInt8.toNat.inj, congrArg _⟩

/-- Two instructions of one opcode for which an arm that names no target prints the same
mnemonic and operands agree on every field the arm prints. -/
theorem Arm.printed_eq {arm : Arm} (data : arm.form.namesTarget = false) {sbpfVersion : SBPFVersion}
    {insn insn' : Insn} (sameOpcode : insn.opc = insn'.opc)
    (same : arm.lineParts insn sbpfVersion = arm.lineParts insn' sbpfVersion) :
    arm.printed sbpfVersion insn = arm.printed sbpfVersion insn' := by
  obtain ⟨opcode, guard, name, form⟩ := arm
  cases form <;> simp only [Form.namesTarget, reduceCtorEq] at data <;>
    simp only [Arm.lineParts, Option.some.injEq, Prod.mk.injEq, List.cons.injEq, and_true,
      Operand.register.injEq, Operand.immediate.injEq, Operand.hex.injEq, Operand.memory.injEq,
      String.toList, String.data_append, List.append_cancel_left_eq, true_and, uInt8_toNat_inj,
      BitVec.toInt_inj, ← BitVec.toNat_eq] at same <;>
    simp only [Arm.printed, sameOpcode]
  case byteswap => rw [same.2, BitVec.toInt_inj.1 (toString_int_injective same.1)]
  case callReg =>
    split_ifs at same ⊢
    · rw [uInt8_toNat_inj.1 same]
    · rw [same]
  all_goals simp only [same]

/-- In every dialect, two instructions rendered to the same line by arms that name no target are
rendered by the same arm, and so have the same opcode, and agree on every field that arm
prints. -/
theorem disassembleInstruction_printed {sbpfVersion : SBPFVersion} {insn insn' : Insn}
    {arm arm' : Arm}
    (found : arms.find? (fun arm => arm.opcode == insn.opc && arm.guard.holds sbpfVersion) =
      some arm)
    (found' : arms.find? (fun arm => arm.opcode == insn'.opc && arm.guard.holds sbpfVersion) =
      some arm')
    (data : arm.form.namesTarget = false) (data' : arm'.form.namesTarget = false)
    (overflowChecks : Bool) (pc : Nat) (cfgNodes : Nat → Option CfgNode)
    (functionRegistry : FunctionRegistry) (loader : BuiltinProgram)
    (same : disassembleInstruction overflowChecks insn pc cfgNodes functionRegistry loader
        sbpfVersion =
      disassembleInstruction overflowChecks insn' pc cfgNodes functionRegistry loader sbpfVersion) :
    arm = arm' ∧ arm.printed sbpfVersion insn = arm.printed sbpfVersion insn' := by
  have member := List.mem_of_find?_eq_some found
  have member' := List.mem_of_find?_eq_some found'
  have admits := List.find?_some found
  have admits' := List.find?_some found'
  simp only [Bool.and_eq_true, beq_iff_eq] at admits admits'
  obtain ⟨line, rendered, read⟩ := Arm.readLine_describe member data overflowChecks insn pc cfgNodes
    functionRegistry loader sbpfVersion
  obtain ⟨line', rendered', read'⟩ := Arm.readLine_describe member' data' overflowChecks insn' pc
    cfgNodes functionRegistry loader sbpfVersion
  simp only [disassembleInstruction, found, found', rendered, rendered', Option.some.injEq] at same
  subst same
  obtain ⟨parts, printed⟩ := Arm.lineParts_of_data data insn sbpfVersion
  have printed' : arm'.lineParts insn' sbpfVersion = some parts :=
    read'.symm.trans (read.trans printed)
  obtain rfl := Arm.eq_of_lineParts member member' data data' admits.2 admits'.2 printed printed'
  exact ⟨rfl, Arm.printed_eq data (admits.1.symm.trans admits'.1) (printed.trans printed'.symm)⟩

/-- `mov64 r1, 5`. -/
def movImmediate : Insn := ⟨0, Ebpf.mov64Imm, 1, 0, 0, 5⟩

/-- `mov64 r1, 5` at another position, with a source register and an offset that its line does
not show. -/
def movImmediate' : Insn := ⟨7, Ebpf.mov64Imm, 1, 3, 9, 5⟩

/-- The `mov64` arm of the immediate form. -/
def movImmediateArm : Arm := ⟨Ebpf.mov64Imm, .always, "mov64", .aluImm⟩

theorem movImmediate_printed :
    (arms.find? (fun arm => arm.opcode == movImmediate.opc && arm.guard.holds legacyVersion) =
        some movImmediateArm ∧
      arms.find? (fun arm => arm.opcode == movImmediate'.opc && arm.guard.holds legacyVersion) =
        some movImmediateArm ∧
      movImmediateArm.form.namesTarget = false ∧
      disassembleInstruction true movImmediate 0 (fun _ => none) ⟨fun _ => none⟩
          ⟨⟨fun _ => none⟩⟩ legacyVersion =
        disassembleInstruction true movImmediate' 0 (fun _ => none) ⟨fun _ => none⟩
          ⟨⟨fun _ => none⟩⟩ legacyVersion) ∧
    movImmediateArm = movImmediateArm ∧
      movImmediateArm.printed legacyVersion movImmediate =
        movImmediateArm.printed legacyVersion movImmediate' :=
  ⟨⟨by decide, by decide, rfl, by decide⟩,
    disassembleInstruction_printed (by decide) (by decide) (by rfl) (by rfl) true 0 (fun _ => none)
      ⟨fun _ => none⟩ ⟨⟨fun _ => none⟩⟩ (by decide)⟩

end Sbpf
