import TraceHeaders.Text.Numeral
import TraceHeaders.Text.Utf8

/-!
Form coding of header values.  Letters, digits and `*`, `-`, `.`, `_` stand for themselves, a blank
is either a plus sign or an escape, and every other byte of the UTF-8 form is escaped as a percent
sign and two uppercase hexadecimal digits.
-/

namespace TraceHeaders.Text

/-- The characters that stand for themselves. -/
def isUnreserved (c : Char) : Bool :=
  c.isAlphanum || c == '*' || c == '-' || c == '.' || c == '_'

def upperHexDigit (n : Nat) : Char := (Nat.digitChar n).toUpper

/-- The escape of a byte. -/
def escapeByte (b : UInt8) : List Char :=
  ['%', upperHexDigit (b.toNat / 16), upperHexDigit (b.toNat % 16)]

/-- Codes one character, with a given code for the blank. -/
def encodeChar (blank : List Char) (c : Char) : List Char :=
  if isUnreserved c then [c]
  else if c = ' ' then blank
  else (String.utf8EncodeChar c).flatMap escapeByte

/-- Form coding, where a blank becomes a plus sign. -/
def encodeForm (s : String) : String := String.ofList (s.toList.flatMap (encodeChar ['+']))

/-- Percent coding, where a blank becomes `%20`, so that no plus sign is written. -/
def encodePercent (s : String) : String :=
  String.ofList (s.toList.flatMap (encodeChar ['%', '2', '0']))

/-- Why a text cannot be decoded. -/
inductive DecodeError where
  | malformedEscape
  | notUtf8 (cause : Utf8Error)
  deriving DecidableEq, Repr

def DecodeError.message : DecodeError → String
  | .malformedEscape => "malformed escape sequence"
  | .notUtf8 cause => cause.message

/-- The bytes that a coded text stands for: a plus sign is a blank and an escape is its byte.  Absent
when a percent sign is not followed by two hexadecimal digits. -/
def decodeBytes? : List Char → Option (List UInt8)
  | [] => some []
  | '%' :: a :: b :: cs =>
      match digitValue? 16 a, digitValue? 16 b with
      | some high, some low => (decodeBytes? cs).map (UInt8.ofNat (high * 16 + low) :: ·)
      | _, _ => none
  | '%' :: _ => none
  | '+' :: cs => (decodeBytes? cs).map (0x20 :: ·)
  | c :: cs => (decodeBytes? cs).map (String.utf8EncodeChar c ++ ·)

/-- Decodes a text in either code. -/
def decodeForm (s : String) : Except DecodeError String :=
  match decodeBytes? s.toList with
  | none => .error .malformedEscape
  | some bytes =>
      match decodeUtf8 bytes with
      | .error cause => .error (.notUtf8 cause)
      | .ok cs => .ok (String.ofList cs)

end TraceHeaders.Text
