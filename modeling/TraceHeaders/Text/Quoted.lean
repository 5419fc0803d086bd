import TraceHeaders.Text.Numeral
import TraceHeaders.Text.Quoted.Table

namespace TraceHeaders.Text

/-- Characters that leave nothing of their own to be seen. -/
def isHidden (c : Char) : Bool :=
  mergingMarks.contains c || unprintableChars.contains c || fillerLetters.contains c

/-- One character of a quoted text.  An escape by number has the code point in braces. -/
def quoteChar (c : Char) : List Char :=
  match c with
  | '\x00' => ['\\', '0']
  | '\t' => ['\\', 't']
  | '\r' => ['\\', 'r']
  | '\n' => ['\\', 'n']
  | '\\' => ['\\', '\\']
  | '"' => ['\\', '"']
  | c =>
      if isHidden c then
        ['\\', 'u', '\x7b'] ++ Nat.toDigits 16 c.toNat ++ ['\x7d']
      else [c]

/-- A text in quotes for the log.  What cannot be seen is written as an escape. -/
def quoted (s : String) : String := String.ofList ('"' :: s.toList.flatMap quoteChar ++ ['"'])

end TraceHeaders.Text
