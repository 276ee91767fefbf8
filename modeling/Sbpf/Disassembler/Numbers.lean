import Sbpf.Disassembler.Disassemble

/-!
# Reading rendered numbers back

The disassembler prints the immediate of `lddw` with `{:#x}` and every memory offset with
`signed_off_str`, a sign followed by `{:#x}` of the magnitude.  Reading the characters back, as a
sign, `0x` and lowercase hexadecimal digits, gives the number that was printed: for every `i16`
offset the text of `signed_off_str` reads back as that offset, so distinct offsets print
distinctly.
-/

namespace Sbpf

/-! ## A reader for the printed forms -/

/-- The value of a lowercase hexadecimal digit. -/
def hexDigitValue (char : Char) : Option Nat :=
  if '0' ≤ char ∧ char ≤ '9' then some (char.toNat - '0'.toNat)
  else if 'a' ≤ char ∧ char ≤ 'f' then some (char.toNat - 'a'.toNat + 10)
  else none

/-- Reads hexadecimal digits, most significant first, after the value read so far. -/
def readHex (value : Nat) : List Char → Option Nat
  | [] => some value
  | char :: rest => (hexDigitValue char).bind fun digit => readHex (value * 16 + digit) rest

/-- Reads `{:#x}`: `0x` and the hexadecimal digits after it. -/
def readLowerHex : List Char → Option Nat
  | '0' :: 'x' :: digits => readHex 0 digits
  | _ => none

/-- Reads the text of `signed_off_str`: a sign, then the magnitude as `{:#x}`. -/
def readSignedOff : List Char → Option Int
  | '-' :: rest => (readLowerHex rest).map fun magnitude : Nat => -(magnitude : Int)
  | '+' :: rest => (readLowerHex rest).map fun magnitude : Nat => (magnitude : Int)
  | _ => none

/-! ## Round trips -/

theorem hexDigitValue_digitChar :
    ∀ digit < 16, hexDigitValue (Nat.digitChar digit) = some digit := by
  decide

/-- `Nat.toDigitsCore` puts the digits of `value` before `rest`, least significant last, as long
as its fuel lasts. -/
theorem readHex_toDigitsCore {fuel value : Nat} (enough : value < fuel) (rest : List Char) :
    readHex 0 (Nat.toDigitsCore 16 fuel value rest) = readHex value rest := by
  induction fuel generalizing value rest with
  | zero => omega
  | succ fuel induction =>
    have digit := hexDigitValue_digitChar (value % 16) (Nat.mod_lt _ (by decide))
    dsimp only [Nat.toDigitsCore]
    split_ifs with last
    · simp only [readHex, digit, Option.some_bind]
      congr 1; omega
    · rw [induction (by omega)]
      simp only [readHex, digit, Option.some_bind]
      congr 1; omega

/-- `{:#x}` reads back as the number it prints. -/
theorem readLowerHex_lowerHex (value : Nat) :
    readLowerHex (lowerHex value).toList = some value :=
  readHex_toDigitsCore (Nat.lt_succ_self value) []

/-- The text of `signed_off_str` reads back as the offset it prints, for every `i16` offset. -/
theorem readSignedOff_signedOffStr (offset : BitVec 16) :
    readSignedOff (signedOffStr offset).toList = some offset.toInt := by
  unfold signedOffStr
  split_ifs with negative
  · rw [show ("-" ++ lowerHex (-offset.toInt).toNat).toList =
        '-' :: (lowerHex (-offset.toInt).toNat).toList from rfl, readSignedOff,
      readLowerHex_lowerHex, Option.map_some']
    congr 1; omega
  · rw [show ("+" ++ lowerHex offset.toInt.toNat).toList =
        '+' :: (lowerHex offset.toInt.toNat).toList from rfl, readSignedOff,
      readLowerHex_lowerHex, Option.map_some']
    congr 1; omega

example : signedOffStr (BitVec.ofInt 16 (-32768)) = "-0x8000" := by
  decide

end Sbpf
