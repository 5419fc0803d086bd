import TraceHeaders.Text.Ascii

/-!
Whole numbers as text.  Reading takes any number of digits in a radix and an upper limit, allows one
leading plus sign, and reports the first thing that is wrong from left to right.  Writing is either
shortest or of a fixed width.
-/

namespace TraceHeaders.Text

/-- Why a text is no number. -/
inductive NumeralError where
  | empty
  | invalidDigit
  | tooLarge
  deriving DecidableEq, Repr

def NumeralError.message : NumeralError → String
  | .empty => "cannot parse integer from empty string"
  | .invalidDigit => "invalid digit found in string"
  | .tooLarge => "number too large to fit in target type"

/-- What a digit of either case is worth in a radix. -/
def digitValue? (radix : Nat) (c : Char) : Option Nat :=
  let value? :=
    if c.isDigit then some (c.toNat - '0'.toNat)
    else if 'a' ≤ c && c ≤ 'f' then some (c.toNat - 'a'.toNat + 10)
    else if 'A' ≤ c && c ≤ 'F' then some (c.toNat - 'A'.toNat + 10)
    else none
  value?.filter (· < radix)

/-- Reads digits after those worth `value`. -/
def readDigits (radix limit : Nat) (value : Nat) : List Char → Except NumeralError Nat
  | [] => .ok value
  | c :: cs =>
      match digitValue? radix c with
      | none => .error .invalidDigit
      | some digit =>
          let value := value * radix + digit
          if limit < value then .error .tooLarge else readDigits radix limit value cs

/-- Reads an unsigned number up to `limit`.  A sign on its own is not a number, and a minus sign is
no digit. -/
def readNat (radix limit : Nat) : List Char → Except NumeralError Nat
  | [] => .error .empty
  | '+' :: c :: cs => readDigits radix limit 0 (c :: cs)
  | cs => readDigits radix limit 0 cs

/-- What hexadecimal digits are worth. -/
def hexValue (digits : List Char) : Nat :=
  digits.foldl (fun value c => value * 16 + (digitValue? 16 c).getD 0) 0

def readUInt64 (radix : Nat) (s : String) : Except NumeralError UInt64 :=
  (readNat radix (UInt64.size - 1) s.toList).map UInt64.ofNat

/-- Reads a signed number that fits 8 bits.  Zero may carry either sign. -/
def readInt8 (s : String) : Except NumeralError Int8 :=
  match s.toList with
  | '-' :: c :: cs => (readDigits 10 128 0 (c :: cs)).map fun n => Int8.ofInt (-(n : Int))
  | cs => (readNat 10 127 cs).map fun n => Int8.ofInt n

/-- The shortest decimal text of a number. -/
def decimal (n : Nat) : String := String.ofList (Nat.toDigits 10 n)

/-- The shortest hexadecimal text of a number. -/
def hex (n : Nat) : String := String.ofList (Nat.toDigits 16 n)

/-- The lowest `width` hexadecimal digits of a number, most significant digit first. -/
def hexWord : Nat → Nat → List Char
  | 0, _ => []
  | width + 1, n => hexWord width (n / 16) ++ [Nat.digitChar (n % 16)]

/-- The hexadecimal text of a number with a fixed width. -/
def hexPadded (width n : Nat) : String := String.ofList (hexWord width n)

def signedDecimal (n : Int) : String :=
  match n with
  | .ofNat m => decimal m
  | .negSucc m => "-" ++ decimal (m + 1)

@[simp] theorem hexWord_length (width n : Nat) : (hexWord width n).length = width := by
  induction width generalizing n with
  | zero => rfl
  | succ width ih => simp [hexWord, ih]

@[simp] theorem toList_hexPadded (width n : Nat) : (hexPadded width n).toList = hexWord width n := by
  simp [hexPadded]

theorem isAscii_of_mem_hexWord {width n : Nat} {c : Char} (h : c ∈ hexWord width n) :
    isAscii c = true := by
  have hdigit : ∀ digit < 16, isAscii (Nat.digitChar digit) = true := by decide
  induction width generalizing n with
  | zero => exact absurd h List.not_mem_nil
  | succ width ih =>
      rw [hexWord, List.mem_append, List.mem_singleton] at h
      rcases h with h | rfl
      · exact ih h
      · exact hdigit _ (Nat.mod_lt n (by decide))

theorem isAscii_of_mem_hexPadded {width n : Nat} {c : Char} (h : c ∈ (hexPadded width n).toList) :
    isAscii c = true := by
  rw [toList_hexPadded] at h
  exact isAscii_of_mem_hexWord h

@[simp] theorem utf8ByteSize_hexPadded (width n : Nat) :
    (hexPadded width n).utf8ByteSize = width := by
  rw [utf8ByteSize_of_isAscii fun _ => isAscii_of_mem_hexPadded, toList_hexPadded, hexWord_length]

theorem isValid_hexPadded {place width : Nat} (h : place ≤ width) (n : Nat) :
    (⟨place⟩ : String.Pos.Raw).IsValid (hexPadded width n) := by
  refine isValid_of_isAscii (fun _ => isAscii_of_mem_hexPadded) ?_
  rw [utf8ByteSize_hexPadded]
  exact h

end TraceHeaders.Text
